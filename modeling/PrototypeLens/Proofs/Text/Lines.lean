import PrototypeLens.Text.Name

/-!
# Lines

How the lines of a text come about: a text is put together from lines that end with a line feed,
with or without a carriage return before it, and the last of which may be open.

## Layers

- Pieces: what stands between the occurrences of a separator, and how a separator divides them.
- Lines: a piece before a line feed loses the carriage return that belongs to the feed; the last
  piece keeps it and counts only if it is not empty.
- `WrittenIn`: the ways in which a text is put together from lines, as rules.

## Main results

- `lines_append`: a line feed ends all lines before it, whatever follows.
- `lines_feed` and `lines_returnFeed`: one line with either ending, in front of a text.
-/

namespace PrototypeLens.Text

variable {sep : Char} {cs : List Char}

/-! ## Pieces -/

theorem splitAt_of_not_mem (h : sep ∉ cs) : splitAt sep cs = [cs] := by
  induction cs with
  | nil => rfl
  | cons c cs ih =>
    obtain ⟨hc, hcs⟩ : sep ≠ c ∧ sep ∉ cs := by simpa using h
    rw [splitAt, if_neg (Ne.symm hc), ih hcs]

/-- A separator divides the pieces. -/
theorem splitAt_append (start rest : List Char) :
    splitAt sep (start ++ sep :: rest) = splitAt sep start ++ splitAt sep rest := by
  -- The induction is on what stands before the separator; there is always a piece that the next
  -- character can join.
  induction start with
  | nil => simp [splitAt]
  | cons c start ih =>
    rw [List.cons_append, splitAt, splitAt, ih]
    split
    · rfl
    · cases hpieces : splitAt sep start with
      | nil => exact absurd hpieces (splitAt_ne_nil sep start)
      | cons piece pieces => rfl

theorem splitFirst?_append_sep {start : List Char} (h : sep ∉ start) (rest : List Char) :
    splitFirst? sep (start ++ sep :: rest) = some (start, rest) := by
  simp [splitFirst?_append h, splitFirst?]

/-! ## Lines -/

/-- What stands before a line feed, without the carriage return that belongs to it. -/
def closedLine (piece : List Char) : String :=
  String.ofList ((dropEnd? ['\r'] piece).getD piece)

theorem closedLine_append_return (line : List Char) :
    closedLine (line ++ ['\r']) = String.ofList line := by
  rw [closedLine, dropEnd?_eq_some_iff.2 rfl]
  rfl

/-- Text without a line feed is one line, unless it is empty. -/
theorem lines_of_not_mem {line : String} (h : '\n' ∉ line.toList) (hne : line ≠ "") :
    lines line = [line] := by
  have hchars : line.toList ≠ [] := fun hnil => hne (String.toList_inj.1 hnil)
  simp [lines, splitAt_of_not_mem h, Option.filter_some, hchars]

/-- A line feed ends all lines before it. -/
theorem lines_append (start rest : String) : lines (start ++ "\n" ++ rest) =
    (splitAt '\n' start.toList).map closedLine ++ lines rest := by
  -- The separator divides the pieces of the text, and the last one is that of the rest.
  have hpieces : splitAt '\n' (start ++ "\n" ++ rest).toList =
      splitAt '\n' start.toList ++ splitAt '\n' rest.toList := by
    rw [String.toList_append, String.toList_append, List.append_assoc]
    exact splitAt_append start.toList rest.toList
  have hlast : splitAt '\n' rest.toList ≠ [] := splitAt_ne_nil _ _
  simp only [lines, hpieces]
  rw [List.dropLast_append_of_ne_nil hlast, List.getLast?_append,
    List.getLast?_eq_some_getLast hlast]
  simp [closedLine]

theorem lines_feed {line : String} (h : '\n' ∉ line.toList) (rest : String) :
    lines (line ++ "\n" ++ rest) = closedLine line.toList :: lines rest := by
  rw [lines_append, splitAt_of_not_mem h]
  rfl

theorem lines_returnFeed {line : String} (h : '\n' ∉ line.toList) (rest : String) :
    lines (line ++ "\r\n" ++ rest) = line :: lines rest := by
  -- The carriage return is the last character of the piece before the feed.
  have hreturn : line ++ "\r\n" ++ rest = line ++ "\r" ++ "\n" ++ rest := by
    simp only [← String.toList_inj, String.toList_append, List.append_assoc]
    rfl
  rw [hreturn, lines_feed (by simpa using h), String.toList_append]
  exact congrArg (· :: lines rest) ((closedLine_append_return _).trans (String.ofList_toList ..))

/-! ## Texts and lines -/

/-- A text is written in lines. -/
inductive WrittenIn : List String → String → Prop
  /-- There may be no line at all. -/
  | nil : WrittenIn [] ""
  /-- The last line may be open, if there is something on it. -/
  | last {line : String} : '\n' ∉ line.toList → line ≠ "" → WrittenIn [line] line
  /-- A line ends with a line feed. -/
  | feed {line : String} {lines : List String} {text : String} : '\n' ∉ line.toList →
      WrittenIn lines text → WrittenIn (line :: lines) (line ++ "\n" ++ text)
  /-- A carriage return may stand before the line feed. -/
  | returnFeed {line : String} {lines : List String} {text : String} : '\n' ∉ line.toList →
      WrittenIn lines text → WrittenIn (line :: lines) (line ++ "\r\n" ++ text)

end PrototypeLens.Text
