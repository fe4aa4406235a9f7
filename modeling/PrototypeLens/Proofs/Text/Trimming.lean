import Mathlib.Data.List.DropRight
import PrototypeLens.Text.Blank

/-!
# Trimming

What is left of characters without the blanks at their ends. Blanks around a trimmed text do not
matter, and trimming leaves a text alone exactly if no blank stands at that end.

## Layers

- `AllBlank`, `Blankless` and `IsTrimmed`: texts of blanks only, without blanks, and without blanks
  at their ends. All three can be decided.
- `trimEnd`, which is read from behind: blanks that are appended do not show, and a first character
  that is no blank stays.
- `trimChars`, first one end and then the other.

## Main results

- `IsTrimmed.trimChars_between`: a trimmed text is found between any blanks.
- `isTrimmed_trimChars`: trimming ends with a trimmed text.
- `exists_blanks_trimChars`: what it takes away are blanks.
-/

namespace PrototypeLens.Text

variable {cs before after : List Char}

/-- There is nothing but blanks. -/
def AllBlank (cs : List Char) : Prop := ∀ c ∈ cs, isBlank c = true

instance (cs : List Char) : Decidable (AllBlank cs) :=
  decidable_of_iff (cs.all isBlank = true) List.all_eq_true

/-- There is no blank. -/
def Blankless (cs : List Char) : Prop := ∀ c ∈ cs, isBlank c = false

instance (cs : List Char) : Decidable (Blankless cs) :=
  decidable_of_iff (cs.any isBlank = false) (by simp [Blankless])

/-- No blank stands at either end. -/
structure IsTrimmed (cs : List Char) : Prop where
  start : ∀ c ∈ cs.head?, isBlank c = false
  finish : ∀ c ∈ cs.getLast?, isBlank c = false

instance (cs : List Char) : Decidable (IsTrimmed cs) :=
  decidable_of_iff (cs.head?.any isBlank = false ∧ cs.getLast?.any isBlank = false)
    ⟨fun h => ⟨(Option.any_eq_false ..).1 h.1, (Option.any_eq_false ..).1 h.2⟩,
      fun h => ⟨(Option.any_eq_false ..).2 h.start, (Option.any_eq_false ..).2 h.finish⟩⟩

theorem dropWhile_isBlank_eq_self (h : ∀ c ∈ cs.head?, isBlank c = false) :
    cs.dropWhile isBlank = cs := by
  cases cs with
  | nil => rfl
  | cons c cs => exact List.dropWhile_cons_of_neg (by simp [h c rfl])

theorem trimEnd_eq_self_iff : trimEnd cs = cs ↔ ∀ c ∈ cs.getLast?, isBlank c = false := by
  -- Trimming the end is dropping from the right, of which the library knows more.
  have hdrop : trimEnd cs = cs.rdropWhile isBlank := rfl
  rw [hdrop, List.rdropWhile_eq_self_iff]
  cases hlast : cs.getLast? with
  | none => simp [List.getLast?_eq_none_iff.1 hlast]
  | some c =>
    obtain ⟨start, rfl⟩ := List.getLast?_eq_some_iff.1 hlast
    simp

theorem trimEnd_append_blanks (hafter : AllBlank after) : trimEnd (cs ++ after) = trimEnd cs := by
  rw [trimEnd, trimEnd, List.reverse_append,
    List.dropWhile_append_of_pos (by simpa [AllBlank] using hafter)]

/-- What is no blank ends the trimming. -/
theorem trimEnd_cons {c : Char} (hc : isBlank c = false) : trimEnd (c :: cs) = c :: trimEnd cs := by
  rw [trimEnd, List.reverse_cons, List.dropWhile_append]
  split
  · -- The rest is blank throughout, so that the trimming only ends at the first character.
    rename_i hnone
    simp [trimEnd, List.isEmpty_iff.1 hnone, hc]
  · simp [trimEnd]

theorem IsTrimmed.trimChars_eq (h : IsTrimmed cs) : trimChars cs = cs := by
  rw [trimChars, dropWhile_isBlank_eq_self h.start, trimEnd_eq_self_iff.2 h.finish]

/-- Blanks in front are dropped, whatever follows them. -/
theorem trimChars_blanks_append (hbefore : AllBlank before) :
    trimChars (before ++ cs) = trimChars cs := by
  rw [trimChars, trimChars, List.dropWhile_append_of_pos hbefore]

theorem trimChars_append_blanks (hafter : AllBlank after) :
    trimChars (cs ++ after) = trimChars cs := by
  rw [trimChars, List.dropWhile_append]
  split
  · -- There is no other character than blanks; those behind are dropped with the others.
    rename_i hnone
    have hgone : after.dropWhile isBlank = [] := List.dropWhile_eq_nil_iff.2 hafter
    rw [hgone, trimChars, List.isEmpty_iff.1 hnone]
  · exact trimEnd_append_blanks hafter

theorem AllBlank.trimChars_eq_nil (h : AllBlank cs) : trimChars cs = [] := by
  rw [← List.nil_append cs, trimChars_append_blanks h]
  rfl

theorem trimChars_cons {c : Char} (hc : isBlank c = false) :
    trimChars (c :: cs) = c :: trimEnd cs := by
  rw [trimChars, List.dropWhile_cons_of_neg (by simp [hc]), trimEnd_cons hc]

/-- A trimmed text is found between blanks. -/
theorem IsTrimmed.trimChars_between (h : IsTrimmed cs) (hbefore : AllBlank before)
    (hafter : AllBlank after) : trimChars (before ++ cs ++ after) = cs := by
  rw [trimChars_append_blanks hafter, trimChars_blanks_append hbefore, h.trimChars_eq]

theorem isTrimmed_trimChars (cs : List Char) : IsTrimmed (trimChars cs) where
  start c hc := by
    -- The first character that is kept is the first one that is no blank, and the end is trimmed
    -- only up to there.
    have hfirst := List.head?_dropWhile_not isBlank cs
    rw [trimChars] at hc
    cases hdropped : cs.dropWhile isBlank with
    | nil =>
      rw [hdropped] at hc
      cases hc
    | cons first rest =>
      have hclear : isBlank first = false := by simpa [hdropped] using hfirst
      rw [hdropped, trimEnd_cons hclear] at hc
      cases hc
      exact hclear
  finish := trimEnd_eq_self_iff.1 (List.rdropWhile_idempotent isBlank _)

/-- Trimming takes nothing but blanks away. -/
theorem exists_blanks_trimChars (cs : List Char) : ∃ before after,
    AllBlank before ∧ AllBlank after ∧ cs = before ++ trimChars cs ++ after := by
  refine ⟨cs.takeWhile isBlank, (cs.dropWhile isBlank).rtakeWhile isBlank,
    fun _ => List.mem_takeWhile_imp, fun _ => List.mem_rtakeWhile_imp, ?_⟩
  -- The three parts are what dropping from the left and then from the right tells apart.
  have hkept : trimChars cs = (cs.dropWhile isBlank).rdropWhile isBlank := rfl
  rw [hkept, List.append_assoc, List.rdropWhile_append_rtakeWhile, List.takeWhile_append_dropWhile]

end PrototypeLens.Text
