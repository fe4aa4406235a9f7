import PrototypeLens.Text.CaseTable

/-!
# Letter case

The upper- and lower-case forms of a character, which may have several characters, and changing
the case of the first character of a text.
-/

namespace PrototypeLens.Text

/-- Whether a character has the property `Uppercase`. -/
def isUppercase (c : Char) : Bool :=
  uppercaseRuns.any fun (first, last, step) =>
    first ≤ c.toNat && c.toNat ≤ last && (c.toNat - first) % step == 0

/-- The code point that the first covering run maps a code point to. -/
def mapByRuns (runs : List CaseRun) (n : Nat) : Nat :=
  match runs.find? (·.covers n) with
  | some r => (Int.ofNat n + r.shift).toNat
  | none => n

/-- The upper-case form of a character. -/
def upper (c : Char) : List Char :=
  -- The characters with more than one in their upper-case form come first.
  match upperExpansions.find? (·.1 == c.toNat) with
  | some (_, form) => form.map Char.ofNat
  | none => [Char.ofNat (mapByRuns upperRuns c.toNat)]

/-- The lower-case form of a character. Only the capital `I` with a dot above has two characters:
the dot is kept as a combining mark. -/
def lower (c : Char) : List Char :=
  if c.toNat = 0x130 then ['i', Char.ofNat 0x307]
  else [Char.ofNat (mapByRuns lowerRuns c.toNat)]

/-- A text with its first character in upper case. -/
def capitalize (s : String) : String :=
  match s.toList with
  | [] => ""
  | c :: cs => String.ofList (upper c ++ cs)

/-- A text with its first character in lower case. -/
def decapitalize (s : String) : String :=
  match s.toList with
  | [] => ""
  | c :: cs => String.ofList (lower c ++ cs)

/-- An upper-case ASCII letter as its lower-case form; every other character as itself. -/
def asciiLower (s : String) : String := String.ofList (s.toList.map Char.toLower)

end PrototypeLens.Text
