/-!
# Heights

How deep the parts of a pattern are nested. A single part counts as itself, several parts side by
side as one part around them, and each group, set and repetition as a part around what it holds.
-/

namespace PrototypeLens.Log

/-- How deep parts side by side are nested: nothing, one part, or a row of parts. -/
def rowHeight : List Nat → Nat
  | [] => 0
  | [h] => h
  | hs => 1 + hs.foldl max 0

/-- How deep the parts of a pattern may be nested. -/
def heightLimit : Nat := 250

end PrototypeLens.Log
