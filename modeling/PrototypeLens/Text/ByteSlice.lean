/-!
# Byte slices

Parts of a text by the bytes that they take up in UTF-8.
-/

namespace PrototypeLens.Text

/-- How many bytes characters take up. -/
def byteLength : List Char → Nat
  | [] => 0
  | c :: cs => c.utf8Size + byteLength cs

/-- Splits characters behind so many bytes; none if this is inside a character or beyond the
end. -/
def splitBytes? : Nat → List Char → Option (List Char × List Char)
  | 0, cs => some ([], cs)
  | _, [] => none
  | n, c :: cs =>
    if n < c.utf8Size then none
    else (splitBytes? (n - c.utf8Size) cs).map fun (before, after) => (c :: before, after)

/-- The characters between two byte offsets. -/
def byteSlice? (cs : List Char) (start stop : Nat) : Option (List Char) :=
  (splitBytes? start cs).bind fun (_, rest) => (splitBytes? (stop - start) rest).map (·.1)

end PrototypeLens.Text
