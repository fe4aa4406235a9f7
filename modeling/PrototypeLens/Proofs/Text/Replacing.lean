import Mathlib.Data.List.Infix
import PrototypeLens.Text.Name

/-!
# Replacing in texts

Replacing passes over a text once and replaces every occurrence of another one that it meets. Where
the occurrences cannot overlap, that is all of them; a text in which only some of them are replaced
is another one, unless they are replaced by themselves.

## Layers

- What replacing all occurrences makes of the length of a text, and what it does at a position where
  an occurrence begins and where none does. A text is passed over with the number of characters that
  the last occurrence still covers.
- `occurrences`: the number of positions at which a text stands in another one, and how a position
  adds to it.
- `Replaces`: any choice of occurrences that are replaced, as rules, with the numbers of those that
  are replaced and left.

## Main results

- `length_replaceFrom_lt`: a text in which something is replaced by something shorter gets shorter.
- `Replaces.occurrences_eq`: the two numbers of a choice add up to the number of occurrences.
- `Replaces.replaceFrom_eq_iff`: a choice is what replacing all occurrences gives if none is left,
  or if they are replaced by themselves.
-/

namespace PrototypeLens.Text

variable {sep c : Char} {part old new start cs ds : List Char}

/-! ## All occurrences -/

/-- Replacing by something that is not longer makes no text longer. -/
theorem length_replaceFrom_le (hold : old ≠ []) (hnew : new.length ≤ old.length) (cs : List Char) :
    ∀ skip, (replaceFrom old new skip cs).length ≤ cs.length - skip := by
  have hpos := List.length_pos_iff.2 hold
  -- The induction is on the text, for every number of characters that are still to be skipped.
  induction cs with
  | nil => exact fun skip => Nat.zero_le _
  | cons c cs ih =>
    intro skip
    cases skip with
    | succ skip => simpa [replaceFrom] using ih skip
    | zero =>
      rw [replaceFrom]
      split
      · rename_i hstart
        -- An occurrence begins here: it is replaced, and the rest of it is skipped.
        obtain ⟨rest, hrest⟩ := Option.isSome_iff_exists.1 hstart
        have hlength := congrArg List.length (dropStart?_eq_some_iff.1 hrest)
        have hle := ih (old.length - 1)
        simp only [List.length_append, List.length_cons] at hlength ⊢
        omega
      · simpa using ih 0

/-- Replacing an occurrence by something shorter makes the text shorter. -/
theorem length_replaceFrom_lt (hnew : new.length < old.length) {cs : List Char}
    (hinside : old <:+: cs) : (replaceFrom old new 0 cs).length < cs.length := by
  have hold : old ≠ [] := List.ne_nil_of_length_pos (by omega)
  induction cs with
  | nil => exact absurd (List.infix_nil.1 hinside) hold
  | cons c cs ih =>
    rw [replaceFrom]
    split
    · rename_i hstart
      -- The first character begins an occurrence, which is replaced by something shorter, and the
      -- rest does not get longer.
      obtain ⟨rest, hrest⟩ := Option.isSome_iff_exists.1 hstart
      have hlength := congrArg List.length (dropStart?_eq_some_iff.1 hrest)
      have hle := length_replaceFrom_le hold hnew.le cs (old.length - 1)
      simp only [List.length_append, List.length_cons] at hlength ⊢
      omega
    · rename_i hstart
      -- The occurrence lies in the rest.
      rcases List.infix_cons_iff.1 hinside with ⟨rest, hrest⟩ | hinside
      · exact absurd (by rw [dropStart?_eq_some_iff.2 hrest.symm]; rfl) hstart
      · simpa using ih hinside

theorem replaceFrom_of_not_infix {cs : List Char} (houtside : ¬ old <:+: cs) :
    replaceFrom old new 0 cs = cs := by
  induction cs with
  | nil => rfl
  | cons c cs ih =>
    have hrest : ¬ old <:+: cs := fun hinside =>
      houtside (hinside.trans (List.suffix_cons c cs).isInfix)
    rw [replaceFrom, if_neg, ih hrest]
    intro hstart
    obtain ⟨rest, hrest⟩ := Option.isSome_iff_exists.1 hstart
    exact houtside ⟨[], rest, (dropStart?_eq_some_iff.1 hrest).symm⟩

theorem replaceFrom_skip (skipped cs : List Char) :
    replaceFrom old new skipped.length (skipped ++ cs) = replaceFrom old new 0 cs := by
  induction skipped with
  | nil => rfl
  | cons c skipped ih => rwa [List.length_cons, List.cons_append, replaceFrom]

theorem replaceFrom_of_starts (hold : old ≠ []) (cs : List Char) :
    replaceFrom old new 0 (old ++ cs) = new ++ replaceFrom old new 0 cs := by
  -- The first character of the occurrence is replaced, and the other ones are skipped.
  obtain ⟨c, rest, rfl⟩ := List.exists_cons_of_ne_nil hold
  have hstart : (dropStart? (c :: rest) (c :: (rest ++ cs))).isSome = true := by
    rw [dropStart?_eq_some_iff.2 (List.cons_append ..).symm]
    rfl
  rw [List.cons_append, replaceFrom, if_pos hstart, List.length_cons, Nat.add_sub_cancel,
    replaceFrom_skip]

theorem replaceFrom_of_not_starts (hstart : ¬ old <+: sep :: cs) :
    replaceFrom old new 0 (sep :: cs) = sep :: replaceFrom old new 0 cs := by
  rw [replaceFrom, if_neg]
  intro hsome
  obtain ⟨rest, hrest⟩ := Option.isSome_iff_exists.1 hsome
  exact hstart ⟨rest, (dropStart?_eq_some_iff.1 hrest).symm⟩

/-- Nothing is replaced before the character that all occurrences begin with. -/
theorem replaceFrom_append (hstart : sep ∉ start) (cs : List Char) :
    replaceFrom (sep :: old) new 0 (start ++ cs) =
      start ++ replaceFrom (sep :: old) new 0 cs := by
  induction start with
  | nil => rfl
  | cons c start ih =>
    -- An occurrence would begin with the separator.
    obtain ⟨hc, hstart⟩ : sep ≠ c ∧ sep ∉ start := by simpa using hstart
    rw [List.cons_append, replaceFrom_of_not_starts, ih hstart, List.cons_append]
    rintro ⟨rest, hrest⟩
    exact hc (List.cons.inj hrest).1

/-! ## Counting occurrences -/

/-- The number of positions at which a text stands in another one. -/
def occurrences (part cs : List Char) : Nat := cs.tails.countP (part <+: ·)

theorem occurrences_nil (sep : Char) (old : List Char) : occurrences (sep :: old) [] = 0 := by
  simp [occurrences]

theorem occurrences_cons_of_not_starts (h : ¬ part <+: c :: cs) :
    occurrences part (c :: cs) = occurrences part cs := by
  simp [occurrences, h]

/-- No occurrence begins before the character that all of them begin with. -/
theorem occurrences_append (hstart : sep ∉ start) (cs : List Char) :
    occurrences (sep :: old) (start ++ cs) = occurrences (sep :: old) cs := by
  induction start with
  | nil => rfl
  | cons c start ih =>
    -- No occurrence begins at this position, since its first character is another one.
    obtain ⟨hc, hstart⟩ : sep ≠ c ∧ sep ∉ start := by simpa using hstart
    rw [List.cons_append, occurrences_cons_of_not_starts, ih hstart]
    simp [hc]

theorem occurrences_of_starts (hold : sep ∉ old) (cs : List Char) :
    occurrences (sep :: old) (sep :: old ++ cs) = occurrences (sep :: old) cs + 1 := by
  -- One occurrence begins at the first position; the next one cannot begin before the separator.
  rw [← occurrences_append hold cs]
  simp [occurrences]

/-! ## Some of the occurrences -/

/-- A text, and what it becomes if some occurrences in it are replaced and the others left: with how
many of them are replaced, and how many are left. -/
inductive Replaces (part new : List Char) : List Char → List Char → Nat → Nat → Prop
  | nil : Replaces part new [] [] 0 0
  | char {c : Char} {cs ds : List Char} {replaced left : Nat} : ¬ part <+: c :: cs →
      Replaces part new cs ds replaced left → Replaces part new (c :: cs) (c :: ds) replaced left
  | replace {cs ds : List Char} {replaced left : Nat} :
      Replaces part new cs ds replaced left →
      Replaces part new (part ++ cs) (new ++ ds) (replaced + 1) left
  | leave {cs ds : List Char} {replaced left : Nat} :
      Replaces part new cs ds replaced left →
      Replaces part new (part ++ cs) (part ++ ds) replaced (left + 1)

namespace Replaces

variable {replaced left : Nat}

theorem occurrences_eq (hold : sep ∉ old) (h : Replaces (sep :: old) new cs ds replaced left) :
    occurrences (sep :: old) cs = replaced + left := by
  induction h with
  | nil => exact occurrences_nil sep old
  | char hc _ ih => rw [occurrences_cons_of_not_starts hc, ih]
  | replace _ ih => rw [occurrences_of_starts hold, ih]; omega
  | leave _ ih => rw [occurrences_of_starts hold, ih]; omega

/-- Replacing all occurrences changes the length once for each that is left. -/
theorem length_replaceFrom (hpart : part ≠ []) (h : Replaces part new cs ds replaced left) :
    (replaceFrom part new 0 cs).length + left * part.length =
      ds.length + left * new.length := by
  induction h with
  | nil => simp [replaceFrom]
  | char hc _ ih =>
    rw [replaceFrom_of_not_starts hc]
    simp only [List.length_cons] at ih ⊢
    omega
  | replace _ ih =>
    rw [replaceFrom_of_starts hpart, List.length_append, List.length_append]
    omega
  | leave _ ih =>
    -- An occurrence that is left has the old length in one text and the new one in the other.
    rw [replaceFrom_of_starts hpart, List.length_append, List.length_append, Nat.succ_mul,
      Nat.succ_mul]
    omega

/-- The text is the one in which all occurrences are replaced if none is left, or if they are
replaced by themselves. -/
theorem replaceFrom_eq_iff (hpart : part ≠ []) (h : Replaces part new cs ds replaced left) :
    replaceFrom part new 0 cs = ds ↔ new = part ∨ left = 0 := by
  induction h with
  | nil => exact iff_of_true rfl (.inr rfl)
  | char hc _ ih => rw [replaceFrom_of_not_starts hc, List.cons_inj_right, ih]
  | replace _ ih => rw [replaceFrom_of_starts hpart, List.append_right_inj, ih]
  | @leave cs ds _ left h ih =>
    rw [replaceFrom_of_starts hpart]
    constructor
    · intro heq
      -- By the lengths, an occurrence that is left can only be replaced by something as long.
      have hlength := congrArg List.length heq
      rw [List.length_append, List.length_append] at hlength
      have hleft := h.length_replaceFrom hpart
      have hsame : new.length = part.length := by
        apply Nat.eq_of_mul_eq_mul_left (Nat.succ_pos left)
        rw [Nat.succ_mul, Nat.succ_mul]
        omega
      exact .inl (List.append_inj heq hsame).1
    · rintro (rfl | hleft)
      · rw [ih.2 (.inl rfl)]
      · cases hleft

end Replaces

end PrototypeLens.Text
