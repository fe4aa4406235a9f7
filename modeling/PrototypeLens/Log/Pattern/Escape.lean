import PrototypeLens.Log.Pattern.Mode
import PrototypeLens.Text.Digits

/-!
# Escapes

What a backslash stands for in a pattern. Escapes with braces do not occur, since a log filter ends
a pattern at its first closing brace.
-/

namespace PrototypeLens.Log

/-- What an escape stands for. -/
inductive Escape where
  /-- A character, which may be written as a byte. -/
  | character (c : Char) (isByte : Bool)
  /-- A set of characters. -/
  | set
  /-- A place between characters. -/
  | place
deriving DecidableEq, Repr

namespace Escape

/-- Reads a number of hexadecimal digits. -/
def hexDigits? (mode : PatternMode) : Nat → List Char → Option (List Char × List Char)
  | 0, cs => some ([], cs)
  | count + 1, cs => match mode.skip cs with
    | c :: rest =>
      if Text.isDigitIn 16 c then
        (hexDigits? mode count rest).map fun (digits, rest) => (c :: digits, rest)
      else none
    | [] => none

/-- Reads the character with a code point of so many digits; two digits write a byte. -/
def codePoint? (mode : PatternMode) (count : Nat) (cs : List Char) :
    Option (Escape × List Char) :=
  (hexDigits? mode count cs).bind fun (digits, rest) =>
    let value := Text.valueOf 16 digits
    if value.isValidChar then some (.character (Char.ofNat value) (count == 2), rest) else none

/-- The control characters that a letter stands for. -/
def controls : List (Char × Char) :=
  [('a', '\x07'), ('f', '\x0c'), ('t', '\t'), ('n', '\n'), ('r', '\r'), ('v', '\x0b')]

/-- Whether a character may be escaped to stand for itself. -/
def isEscapable (c : Char) : Bool :=
  c.toNat < 128 && !c.isAlphanum && c != '<' && c != '>'

/-- Reads an escape after its backslash. The sets of digits, blanks and words and the ends of words
are known for ASCII only, and a set of bytes may not have others than that. -/
def parse? (mode : PatternMode) : List Char → Option (Escape × List Char)
  | [] => none
  | 'x' :: rest => codePoint? mode 2 rest
  | 'u' :: rest => codePoint? mode 4 rest
  | 'U' :: rest => codePoint? mode 8 rest
  | c :: rest =>
    if "dsw".toList.contains c then if mode.unicode then none else some (.set, rest)
    else if "bB<>".toList.contains c then if mode.unicode then none else some (.place, rest)
    else if c = 'A' || c = 'z' then some (.place, rest)
    else match controls.lookup c with
      | some control => some (.character control false, rest)
      | none => if isEscapable c then some (.character c false, rest) else none

end Escape

end PrototypeLens.Log
