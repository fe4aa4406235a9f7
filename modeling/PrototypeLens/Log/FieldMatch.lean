import PrototypeLens.Decimal.Binary64
import PrototypeLens.Log.Pattern
import PrototypeLens.Text.Case
import PrototypeLens.Text.Digits

/-!
# Field matches

What a directive demands of the fields of a span: that one has a name, and possibly a value.
-/

namespace PrototypeLens.Log

open Decimal (Magnitude)

/-! ## Numbers -/

/-- Reads the exponent of a float; nothing written is zero. -/
def power? : List Char → Option Int
  | [] => some 0
  | c :: rest =>
    if c = 'e' || c = 'E' then
      let (negative, digits) := Text.splitSign rest
      (Text.natural? digits).map fun n => if negative then -(n : Int) else n
    else none

/-- Reads a float that is written with digits. -/
def decimal? (cs : List Char) : Option Magnitude :=
  let whole := cs.takeWhile Char.isDigit
  let rest := cs.dropWhile Char.isDigit
  let (places, rest) := match rest with
    | '.' :: rest => (rest.takeWhile Char.isDigit, rest.dropWhile Char.isDigit)
    | rest => ([], rest)
  -- Without a digit on either side of the point it is no number.
  if whole.isEmpty && places.isEmpty then none
  else (power? rest).map fun power =>
    Decimal.nearestToDecimal (Text.valueOf 10 (whole ++ places)) (power - places.length)

/-! ## Values -/

/-- A value that a field has to have. -/
inductive FieldValue where
  | bool (b : Bool)
  | float (negative : Bool) (magnitude : Magnitude)
  | notANumber
  | natural (n : Nat)
  | integer (n : Int)
  | pattern (text : String)
deriving DecidableEq, Repr

namespace FieldValue

/-- Reads a natural number that fits 64 bits. -/
def natural? (cs : List Char) : Option FieldValue :=
  let digits := match cs with
    | '+' :: rest => rest
    | rest => rest
  ((Text.natural? digits).filter (· < Nat.pow 2 64)).map .natural

/-- Reads a number with a minus sign that fits 64 bits. -/
def negative? : List Char → Option FieldValue
  | '-' :: digits =>
    ((Text.natural? digits).filter (· ≤ Nat.pow 2 63)).map fun n => .integer (-(n : Int))
  | _ => none

/-- Reads a float. -/
def float? (cs : List Char) : Option FieldValue :=
  let (negative, rest) := Text.splitSign cs
  let word := Text.asciiLower (String.ofList rest)
  if word = "nan" then some .notANumber
  else if word = "inf" || word = "infinity" then some (.float negative .infinite)
  else (decimal? rest).map (.float negative)

/-- The value that a text writes: a truth value or a number if it reads as one, or else a
pattern. -/
def parse? (text : String) : Option FieldValue :=
  if text = "true" then some (.bool true)
  else if text = "false" then some (.bool false)
  else
    let cs := text.toList
    -- A text that reads as a number never becomes a pattern, whatever kind of number it is.
    ((natural? cs).or ((negative? cs).or (float? cs))).or
      (if isPattern text then some (.pattern text) else none)

def text : FieldValue → String
  | bool b => if b then "true" else "false"
  | float negative magnitude => (if negative then "-" else "") ++ magnitude.text
  | notANumber => "NaN"
  | natural n => toString n
  | integer n => toString n
  | pattern text => text

/-- The place of a kind of value in the order of values. -/
def rank : FieldValue → Nat
  | bool _ => 0
  | float _ _ => 1
  | notANumber => 2
  | natural _ => 3
  | integer _ => 4
  | pattern _ => 5

/-- The order of floats; the two zeros are equal. -/
def compareFloats : Bool → Magnitude → Bool → Magnitude → Ordering
  | false, m, false, n => m.compare n
  | true, m, true, n => n.compare m
  | false, m, true, n => if m.isZero && n.isZero then .eq else .gt
  | true, m, false, n => if m.isZero && n.isZero then .eq else .lt

/-- The order of values: by kind, then by value. -/
def compare : FieldValue → FieldValue → Ordering
  | bool a, bool b => Ord.compare a b
  | float s m, float t n => compareFloats s m t n
  | natural a, natural b => Ord.compare a b
  | integer a, integer b => Ord.compare a b
  | pattern a, pattern b => Ord.compare a b
  | a, b => Ord.compare a.rank b.rank

end FieldValue

/-! ## Matches -/

/-- A demand on a field. -/
structure FieldMatch where
  /-- The name of the field. -/
  name : String
  /-- The value it has to have, if any will not do. -/
  value : Option FieldValue := none
deriving DecidableEq, Repr

namespace FieldMatch

/-- Reads a name and, behind an equals sign, a value; what follows a second equals sign is passed
over. -/
def parse? (text : String) : Option FieldMatch :=
  let cs := text.toList
  let name := String.ofList (cs.takeWhile (· != '='))
  match cs.dropWhile (· != '=') with
  | [] => some { name := name }
  | _ :: rest =>
    (FieldValue.parse? (String.ofList (rest.takeWhile (· != '=')))).map fun value =>
      { name, value := some value }

def text (m : FieldMatch) : String :=
  match m.value with
  | some value => m.name ++ "=" ++ value.text
  | none => m.name

/-- The order of values that may be missing. -/
def compareValues : Option FieldValue → Option FieldValue → Ordering
  | some a, some b => a.compare b
  | none, none => .eq
  | none, some _ => .lt
  | some _, none => .gt

/-- The order of matches: those with a value are greater, then names and values decide. -/
def compare (a b : FieldMatch) : Ordering :=
  (Ord.compare a.value.isSome b.value.isSome).then
    ((Ord.compare a.name b.name).then (compareValues a.value b.value))

end FieldMatch

end PrototypeLens.Log
