import PrototypeLens.Text.Blank

/-!
# Dotted names

Splitting texts at a character, and the simple name and package of a dotted name. All work is done
on lists of characters; the functions on `String` wrap them.
-/

namespace PrototypeLens.Text

/-! ## Splitting -/

/-- The pieces of a text between the occurrences of a separator; there is always at least one. -/
def splitAt (sep : Char) : List Char → List (List Char)
  | [] => [[]]
  | c :: cs =>
    if c = sep then [] :: splitAt sep cs
    else match splitAt sep cs with
      | [] => [[c]]
      | piece :: pieces => (c :: piece) :: pieces

/-- What stands before and after the first occurrence of a separator. -/
def splitFirst? (sep : Char) : List Char → Option (List Char × List Char)
  | [] => none
  | c :: cs =>
    if c = sep then some ([], cs)
    else (splitFirst? sep cs).map fun (before, after) => (c :: before, after)

/-- What stands before and after the last occurrence of a separator. -/
def splitLast? (sep : Char) (cs : List Char) : Option (List Char × List Char) :=
  (splitFirst? sep cs.reverse).map fun (after, before) => (before.reverse, after.reverse)

/-- What follows a given beginning, if the text has it. -/
def dropStart? : List Char → List Char → Option (List Char)
  | [], cs => some cs
  | _ :: _, [] => none
  | p :: ps, c :: cs => if p = c then dropStart? ps cs else none

/-- What precedes a given ending, if the text has it. -/
def dropEnd? (ending cs : List Char) : Option (List Char) :=
  (dropStart? ending.reverse cs.reverse).map List.reverse

/-- Whether a text has another one inside it. -/
def hasInside (part : List Char) : List Char → Bool
  | [] => part.isEmpty
  | c :: cs => (dropStart? part (c :: cs)).isSome || hasInside part cs

/-- Replaces the occurrences of `old` from left to right; what was replaced is not looked at again.
`skip` counts the characters of the current occurrence that are still to be passed over. -/
def replaceFrom (old new : List Char) : Nat → List Char → List Char
  | _, [] => []
  | skip + 1, _ :: cs => replaceFrom old new skip cs
  | 0, c :: cs =>
    -- The rest of the occurrence is skipped without being looked at.
    if (dropStart? old (c :: cs)).isSome then new ++ replaceFrom old new (old.length - 1) cs
    else c :: replaceFrom old new 0 cs

/-- Replaces every occurrence of a non-empty text, from left to right. -/
def replace (old new s : String) : String :=
  String.ofList (replaceFrom old.toList new.toList 0 s.toList)

/-- The lines of a text. A line ends at a line feed, together with a carriage return right before
it; text after the last line feed is a line of its own. -/
def lines (s : String) : List String :=
  let pieces := splitAt '\n' s.toList
  let full := pieces.dropLast.map fun piece => (dropEnd? ['\r'] piece).getD piece
  -- A line feed at the end starts no line.
  let last := (pieces.getLast?.filter (· ≠ [])).toList
  (full ++ last).map String.ofList

/-! ## Dotted names -/

/-- The part of a dotted name after its last dot. -/
def simpleName (name : String) : String :=
  match splitLast? '.' name.toList with
  | some (_, simple) => String.ofList simple
  | none => name

/-- The part of a dotted name before its last dot. -/
def packageName? (name : String) : Option String :=
  (splitLast? '.' name.toList).map fun (package, _) => String.ofList package

/-- Whether a name has a dot. -/
def isDotted (name : String) : Bool := name.toList.contains '.'

/-! ## Lemmas -/

theorem splitAt_ne_nil (sep : Char) (cs : List Char) : splitAt sep cs ≠ [] := by
  cases cs with
  | nil => simp [splitAt]
  | cons c cs => simp only [splitAt]; split; · simp
                 split <;> simp

theorem splitFirst?_eq_some {sep : Char} {cs before after : List Char}
    (h : splitFirst? sep cs = some (before, after)) :
    cs = before ++ sep :: after ∧ sep ∉ before := by
  induction cs generalizing before with
  | nil => simp [splitFirst?] at h
  | cons c cs ih =>
    simp only [splitFirst?] at h
    split at h
    · rename_i hc
      simp only [Option.some.injEq, Prod.mk.injEq] at h
      obtain ⟨rfl, rfl⟩ := h
      simp [hc]
    · rename_i hc
      simp only [Option.map_eq_some_iff, Prod.mk.injEq, Prod.exists] at h
      obtain ⟨b, a, hb, rfl, rfl⟩ := h
      obtain ⟨rfl, hn⟩ := ih hb
      exact ⟨rfl, by simp [hn, Ne.symm hc]⟩

theorem splitFirst?_eq_none_iff {sep : Char} {cs : List Char} :
    splitFirst? sep cs = none ↔ sep ∉ cs := by
  induction cs with
  | nil => simp [splitFirst?]
  | cons c cs ih =>
    simp only [splitFirst?]
    split
    · rename_i hc; simp [hc]
    · rename_i hc; simp [ih, Ne.symm hc]

theorem splitFirst?_append {sep : Char} {start : List Char} (h : sep ∉ start) (cs : List Char) :
    splitFirst? sep (start ++ cs) =
      (splitFirst? sep cs).map fun (before, after) => (start ++ before, after) := by
  induction start with
  | nil => simp
  | cons c start ih =>
    have hc : c ≠ sep := fun hc => h (by simp [hc])
    have hstart : sep ∉ start := fun hmem => h (by simp [hmem])
    rw [List.cons_append, splitFirst?, if_neg hc, ih hstart, Option.map_map]
    rfl

theorem dropStart?_eq_some_iff {start cs rest : List Char} :
    dropStart? start cs = some rest ↔ cs = start ++ rest := by
  induction start generalizing cs with
  | nil => simp [dropStart?, eq_comm]
  | cons p ps ih =>
    cases cs with
    | nil => simp [dropStart?]
    | cons c cs =>
      simp only [dropStart?, List.cons_append, List.cons.injEq]
      split
      · rename_i hp; simp [ih, hp]
      · rename_i hp; simp [Ne.symm hp]

theorem dropEnd?_eq_some_iff {ending cs rest : List Char} :
    dropEnd? ending cs = some rest ↔ cs = rest ++ ending := by
  simp only [dropEnd?, Option.map_eq_some_iff, dropStart?_eq_some_iff]
  constructor
  · rintro ⟨a, h, rfl⟩
    have := congrArg List.reverse h
    simpa using this
  · rintro rfl
    exact ⟨rest.reverse, by simp, by simp⟩

end PrototypeLens.Text
