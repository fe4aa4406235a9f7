import Mathlib.Data.List.TakeWhile
import PrototypeLens.Archive.Generator

/-!
# Version numbers in file names

A dotted number is made of groups of digits with dots between them. The version in the name of an
archive is the first dotted number in it, taken as far as it goes: a dot belongs to it only if a
digit follows. So the version is empty exactly if the name has no digit.

## Layers

- `IsDottedNumber`, `ContinuesNumber` and `IsFirstNumber`: the first number of a text, without the
  reader. A number is taken apart from the front, digit by digit (`isDottedNumber_cons_iff`).
- `versionTail`: what the reader makes of a digit, of a dot with a digit behind it, and of anything
  else.
- Reading and numbers: what is read after a digit is a number that does not go on
  (`exists_versionTail`), and such a number is read to its end (`versionTail_append`).

## Main results

- `isFirstNumber_iff`: the first number of a text is what is read from its first digit on.
- Of every file name: when its version is empty, and that a text is the version exactly if it is the
  first dotted number of the name.
-/

namespace PrototypeLens

/-! ## Dotted numbers -/

/-- Groups of digits, each with one digit at least, and dots between them. -/
def IsDottedNumber (cs : List Char) : Prop :=
  ∀ group ∈ Text.splitAt '.' cs, group ≠ [] ∧ ∀ c ∈ group, c.isDigit = true

instance (cs : List Char) : Decidable (IsDottedNumber cs) :=
  inferInstanceAs
    (Decidable (∀ group ∈ Text.splitAt '.' cs, group ≠ [] ∧ ∀ c ∈ group, c.isDigit = true))

/-- A text with which a number before it would go on: a digit, or a dot and a digit, are first. -/
def ContinuesNumber (cs : List Char) : Prop :=
  ∃ digit rest, digit.isDigit = true ∧ (cs = digit :: rest ∨ cs = '.' :: digit :: rest)

/-- A dotted number that stands in a text after no other digit and does not go on behind. -/
def IsFirstNumber (number text : List Char) : Prop :=
  ∃ before after, text = before ++ number ++ after ∧ (∀ c ∈ before, c.isDigit = false) ∧
    IsDottedNumber number ∧ ¬ ContinuesNumber after

section Shape

variable {c d : Char} {cs : List Char}

theorem IsDottedNumber.ne_nil (h : IsDottedNumber cs) : cs ≠ [] := by
  rintro rfl
  exact absurd h (by decide)

theorem not_isDottedNumber_dot (cs : List Char) : ¬ IsDottedNumber ('.' :: cs) :=
  fun h => (h [] (by simp [Text.splitAt])).1 rfl

theorem isDottedNumber_singleton_iff : IsDottedNumber [c] ↔ c.isDigit = true := by
  by_cases hc : c = '.' <;> simp [IsDottedNumber, Text.splitAt, hc]

theorem isDottedNumber_cons_dot_iff :
    IsDottedNumber (c :: '.' :: cs) ↔ c.isDigit = true ∧ IsDottedNumber cs := by
  by_cases hc : c = '.' <;> simp [IsDottedNumber, Text.splitAt, hc]

theorem isDottedNumber_cons_cons_iff (hd : d ≠ '.') :
    IsDottedNumber (c :: d :: cs) ↔ c.isDigit = true ∧ IsDottedNumber (d :: cs) := by
  by_cases hc : c = '.'
  · simp [IsDottedNumber, Text.splitAt, hc]
  · -- Neither of the two is a dot, so that they stand in one group.
    cases hgroups : Text.splitAt '.' cs <;>
      simp [IsDottedNumber, Text.splitAt, hc, hd, hgroups, and_assoc]

/-- A dotted number is a digit and what continues it with a dotted number, if anything does. -/
theorem isDottedNumber_cons_iff : IsDottedNumber (c :: cs) ↔ c.isDigit = true ∧
    (cs = [] ∨ ∃ d rest, IsDottedNumber (d :: rest) ∧
      (cs = d :: rest ∨ cs = '.' :: d :: rest)) := by
  match cs with
  | [] => simp [isDottedNumber_singleton_iff]
  | d :: rest =>
    -- A dot continues the number if a number stands behind it; any other character has to be in the
    -- group of the first one.
    by_cases hd : d = '.'
    · subst hd
      rw [isDottedNumber_cons_dot_iff]
      refine and_congr_right fun _ => ⟨fun h => ?_, ?_⟩
      · obtain ⟨e, rest, rfl⟩ := List.exists_cons_of_ne_nil h.ne_nil
        exact .inr ⟨e, rest, h, .inr rfl⟩
      · rintro (heq | ⟨e, rest, h, heq | heq⟩)
        · cases heq
        · cases heq
          exact absurd h (not_isDottedNumber_dot rest)
        · cases heq
          exact h
    · rw [isDottedNumber_cons_cons_iff hd]
      simp [hd]

end Shape

/-! ## Reading a number -/

section Reading

variable {c d : Char} {cs rest after : List Char}

theorem versionTail_digit (hd : d.isDigit = true) :
    versionTail false (d :: rest) = d :: versionTail false rest := by
  simp [versionTail, hd]

/-- A dot counts once a digit follows. -/
theorem versionTail_dot_digit (hd : d.isDigit = true) :
    versionTail false ('.' :: d :: rest) = '.' :: d :: versionTail false rest := by
  simp [versionTail, hd]

theorem versionTail_of_not_continues (h : ¬ ContinuesNumber cs) : versionTail false cs = [] := by
  cases cs with
  | nil => rfl
  | cons c cs =>
    have hc : ¬ c.isDigit = true := fun hc => h ⟨c, cs, hc, .inl rfl⟩
    by_cases hdot : c = '.'
    · subst hdot
      -- The dot waits for what follows it, and that is no digit.
      cases cs with
      | nil => rfl
      | cons d cs =>
        have hd : ¬ d.isDigit = true := fun hd => h ⟨d, cs, hd, .inr rfl⟩
        simp [versionTail, hd]
    · simp [versionTail, hc, hdot]

/-- After a digit, a number is read up to where it does not go on. -/
theorem exists_versionTail {d : Char} (hd : d.isDigit = true) (cs : List Char) :
    ∃ after, cs = versionTail false cs ++ after ∧ ¬ ContinuesNumber after ∧
      IsDottedNumber (d :: versionTail false cs) := by
  -- The recursion is over what is left to be read: the number goes on with a digit, or with a dot
  -- and a digit, or ends here.
  by_cases hgoes : ContinuesNumber cs
  · obtain ⟨digit, rest, hdigit, rfl | rfl⟩ := hgoes
    · obtain ⟨after, hsplit, hafter, hnumber⟩ := exists_versionTail hdigit rest
      rw [versionTail_digit hdigit]
      refine ⟨after, by rw [List.cons_append, ← hsplit], hafter, ?_⟩
      exact isDottedNumber_cons_iff.2 ⟨hd, .inr ⟨_, _, hnumber, .inl rfl⟩⟩
    · obtain ⟨after, hsplit, hafter, hnumber⟩ := exists_versionTail hdigit rest
      rw [versionTail_dot_digit hdigit]
      refine ⟨after, by rw [List.cons_append, List.cons_append, ← hsplit], hafter, ?_⟩
      exact isDottedNumber_cons_iff.2 ⟨hd, .inr ⟨_, _, hnumber, .inr rfl⟩⟩
  · rw [versionTail_of_not_continues hgoes]
    exact ⟨cs, rfl, hgoes, isDottedNumber_singleton_iff.2 hd⟩
termination_by cs.length

/-- A number that does not go on behind is read to its end. -/
theorem versionTail_append (hafter : ¬ ContinuesNumber after) {d : Char} (cs : List Char)
    (h : IsDottedNumber (d :: cs)) : versionTail false (cs ++ after) = cs := by
  -- A number ends, or goes on as it is read.
  obtain ⟨-, rfl | ⟨digit, rest, hnumber, hgoes⟩⟩ := isDottedNumber_cons_iff.1 h
  · exact versionTail_of_not_continues hafter
  · have hdigit : digit.isDigit = true := (isDottedNumber_cons_iff.1 hnumber).1
    have hrest := versionTail_append hafter rest hnumber
    rcases hgoes with rfl | rfl
    · rw [List.cons_append, versionTail_digit hdigit, hrest]
    · rw [List.cons_append, List.cons_append, versionTail_dot_digit hdigit, hrest]
termination_by cs.length
decreasing_by
  rcases hgoes with rfl | rfl
  · exact Nat.lt_succ_self _
  · exact Nat.lt_succ_of_lt (Nat.lt_succ_self _)

end Reading

/-! ## The version in a name -/

theorem isDigit_of_dropWhile {text rest : List Char} {d : Char}
    (h : (text.dropWhile fun c => !c.isDigit) = d :: rest) : d.isDigit = true := by
  have hhead := List.head?_dropWhile_not (fun c : Char => !c.isDigit) text
  simpa [h] using hhead

/-- The first number of a text is what is read from its first digit on. -/
theorem isFirstNumber_iff {number text : List Char} : IsFirstNumber number text ↔
    number ≠ [] ∧ versionTail false (text.dropWhile fun c => !c.isDigit) = number := by
  constructor
  · rintro ⟨before, after, rfl, hbefore, hnumber, hafter⟩
    -- There is no digit before the number, so that reading starts with its first digit.
    obtain ⟨d, rest, rfl⟩ := List.exists_cons_of_ne_nil hnumber.ne_nil
    have hd : d.isDigit = true := (isDottedNumber_cons_iff.1 hnumber).1
    refine ⟨List.cons_ne_nil d rest, ?_⟩
    rw [List.append_assoc, List.dropWhile_append_of_pos (by simpa using hbefore), List.cons_append,
      List.dropWhile_cons_of_neg (by simp [hd]), versionTail_digit hd,
      versionTail_append hafter rest hnumber]
  · rintro ⟨hne, hread⟩
    cases hdigits : text.dropWhile fun c => !c.isDigit with
    | nil =>
      rw [hdigits] at hread
      exact absurd hread.symm hne
    | cons d rest =>
      have hd : d.isDigit = true := isDigit_of_dropWhile hdigits
      obtain ⟨after, hsplit, hafter, hnumber⟩ := exists_versionTail hd rest
      rw [hdigits, versionTail_digit hd] at hread
      -- What stands before the first digit is no part of the number.
      refine ⟨text.takeWhile fun c => !c.isDigit, after, ?_, fun c hc => ?_, hread ▸ hnumber,
        hafter⟩
      · rw [← hread, List.append_assoc, List.cons_append, ← hsplit, ← hdigits,
          List.takeWhile_append_dropWhile]
      · simpa using List.mem_takeWhile_imp hc

/-- Something is read of every text with a digit. -/
theorem versionTail_dropWhile_eq_nil_iff {text : List Char} :
    versionTail false (text.dropWhile fun c => !c.isDigit) = [] ↔
      ∀ c ∈ text, c.isDigit = false := by
  -- Without a digit there is nothing to be read, and a digit is read itself.
  have hdigits : (text.dropWhile fun c => !c.isDigit) = [] ↔ ∀ c ∈ text, c.isDigit = false := by
    simp [List.dropWhile_eq_nil_iff]
  rw [← hdigits]
  cases hrest : text.dropWhile fun c => !c.isDigit with
  | nil => exact iff_of_true rfl rfl
  | cons d rest => simp [versionTail_digit (isDigit_of_dropWhile hrest)]

/-- The version in a name is empty exactly if the name has no digit. Otherwise it is the first
dotted number in the name, which is taken as far as it goes, and no other text is. -/
theorem versionOfFileName_firstNumber (name : String) :
    (versionOfFileName name = "" ↔ ∀ c ∈ name.toList, c.isDigit = false) ∧
    ∀ version : String, versionOfFileName name = version ∧ version ≠ "" ↔
      IsFirstNumber version.toList name.toList := by
  have hread (version : String) : versionOfFileName name = version ↔
      versionTail false (name.toList.dropWhile fun c => !c.isDigit) = version.toList := by
    rw [versionOfFileName, ← String.toList_inj, String.toList_ofList]
  constructor
  · -- A version is empty if nothing is read.
    rw [hread, ← versionTail_dropWhile_eq_nil_iff]
    rfl
  · intro version
    rw [isFirstNumber_iff, hread, and_comm, Ne, Ne, String.toList_eq_nil_iff]

example : versionOfFileName "code-generator-1.2.13.jar" = "1.2.13" := by decide

end PrototypeLens
