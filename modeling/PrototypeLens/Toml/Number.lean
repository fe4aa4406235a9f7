import PrototypeLens.Decimal.Binary64
import PrototypeLens.Text.Digits

/-!
# Numbers and moments

Integers, floats, dates and times of a TOML document. An integer has to fit 64 bits and a float must
not exceed the largest one; digits may be grouped by single underscores.
-/

namespace PrototypeLens.Toml

open Text (isDigitIn valueOf splitSign)

/-! ## Digits -/

/-- Digits that may go on after a digit, with underscores between them. -/
def moreDigits (isDigit : Char → Bool) : List Char → List Char × List Char
  | '_' :: d :: rest =>
    if isDigit d then
      let (digits, rest) := moreDigits isDigit rest
      (d :: digits, rest)
    else ([], '_' :: d :: rest)
  | c :: rest =>
    if isDigit c then
      let (digits, rest) := moreDigits isDigit rest
      (c :: digits, rest)
    else ([], c :: rest)
  | [] => ([], [])

/-- One or more digits, with underscores between them. -/
def digits? (isDigit : Char → Bool) : List Char → Option (List Char × List Char)
  | c :: rest =>
    if isDigit c then
      let (digits, rest) := moreDigits isDigit rest
      some (c :: digits, rest)
    else none
  | [] => none

/-- The digits of a decimal integer; only zero itself starts with a zero. -/
def decimalDigits? : List Char → Option (List Char × List Char)
  | '0' :: rest => some (['0'], rest)
  | rest => digits? Char.isDigit rest

/-! ## Integers -/

/-- Whether a value fits a signed word of 64 bits. -/
def fitsWord (n : Int) : Bool := -(Nat.pow 2 63 : Int) ≤ n && n < Nat.pow 2 63

/-- Reads an integer in a base that is told by what stands before it. -/
def basedInteger? : List Char → Option (Int × List Char)
  | '0' :: 'x' :: rest =>
    (digits? (isDigitIn 16) rest).map
      fun (digits, rest) => (Int.ofNat (valueOf 16 digits), rest)
  | '0' :: 'o' :: rest =>
    (digits? (isDigitIn 8) rest).map
      fun (digits, rest) => (Int.ofNat (valueOf 8 digits), rest)
  | '0' :: 'b' :: rest =>
    (digits? (isDigitIn 2) rest).map
      fun (digits, rest) => (Int.ofNat (valueOf 2 digits), rest)
  | _ => none

/-- Reads a decimal integer. -/
def decimalInteger? (cs : List Char) : Option (Int × List Char) :=
  let (negative, unsigned) := splitSign cs
  (decimalDigits? unsigned).map fun (digits, rest) =>
    let n := Int.ofNat (valueOf 10 digits)
    (if negative then -n else n, rest)

/-- Reads an integer. -/
def integer? (cs : List Char) : Option (Int × List Char) :=
  -- A base is tried first, since a decimal integer may start with its zero.
  ((basedInteger? cs).or (decimalInteger? cs)).filter fun (n, _) => fitsWord n

/-! ## Floats -/

/-- The fraction of a float: its digits. -/
def fraction? : List Char → Option (List Char × List Char)
  | '.' :: rest => digits? Char.isDigit rest
  | _ => none

/-- The exponent of a float. -/
def exponent? : List Char → Option (Int × List Char)
  | c :: rest =>
    if c = 'e' || c = 'E' then
      let (negative, unsigned) := splitSign rest
      (digits? Char.isDigit unsigned).map fun (digits, rest) =>
        let n := Int.ofNat (valueOf 10 digits)
        (if negative then -n else n, rest)
    else none
  | [] => none

/-- Whether the float nearest to `mantissa * 10 ^ exponent` is infinite. -/
def overflows (mantissa : Nat) (exponent : Int) : Bool :=
  Decimal.nearestToDecimal mantissa exponent == .infinite

/-- What follows the word for infinity or for no number. -/
def specialFloat? (cs : List Char) : Option (List Char) :=
  match (splitSign cs).2 with
  | 'i' :: 'n' :: 'f' :: rest => some rest
  | 'n' :: 'a' :: 'n' :: rest => some rest
  | _ => none

/-- What follows a float that is written with digits. -/
def digitFloat? (cs : List Char) : Option (List Char) := do
  let (negative, unsigned) := splitSign cs
  let (whole, rest) ← decimalDigits? unsigned
  let fraction := fraction? rest
  let (places, rest) := fraction.getD ([], rest)
  let exponent := exponent? rest
  let (power, rest) := exponent.getD (0, rest)
  -- An integer is no float.
  if fraction.isNone && exponent.isNone then none
  -- Below the least float is minus infinity, which is taken; above the greatest is refused.
  else if !negative && overflows (valueOf 10 (whole ++ places)) (power - places.length) then none
  else some rest

/-- What follows a float. -/
def float? (cs : List Char) : Option (List Char) := (digitFloat? cs).or (specialFloat? cs)

/-! ## Dates and times -/

/-- Reads exactly `count` digits. -/
def fixedDigits? (count : Nat) (cs : List Char) : Option (Nat × List Char) :=
  let digits := cs.take count
  if digits.length = count && digits.all Char.isDigit then some (valueOf 10 digits, cs.drop count)
  else none

/-- Reads two digits whose value lies within bounds. -/
def twoDigits? (least greatest : Nat) (cs : List Char) : Option (Nat × List Char) :=
  (fixedDigits? 2 cs).filter fun (n, _) => least ≤ n && n ≤ greatest

/-- What follows a given character. -/
def after? (c : Char) : List Char → Option (List Char)
  | d :: rest => if d = c then some rest else none
  | [] => none

/-- The number of days of a month. -/
def daysIn (year month : Nat) : Nat :=
  if month = 2 then
    if year % 4 = 0 && (year % 100 ≠ 0 || year % 400 = 0) then 29 else 28
  else if month = 4 || month = 6 || month = 9 || month = 11 then 30
  else 31

/-- What follows a date. -/
def date? (cs : List Char) : Option (List Char) := do
  let (year, rest) ← fixedDigits? 4 cs
  let (month, rest) ← twoDigits? 1 12 (← after? '-' rest)
  let (_, rest) ← twoDigits? 1 (daysIn year month) (← after? '-' rest)
  some rest

/-- What follows the fraction of a second, if there is one. -/
def afterFraction (cs : List Char) : List Char :=
  match cs with
  | '.' :: d :: rest => if d.isDigit then rest.dropWhile Char.isDigit else cs
  | _ => cs

/-- What follows a time of day. -/
def time? (cs : List Char) : Option (List Char) := do
  let (_, rest) ← twoDigits? 0 23 cs
  let (_, rest) ← twoDigits? 0 59 (← after? ':' rest)
  let (_, rest) ← twoDigits? 0 60 (← after? ':' rest)
  some (afterFraction rest)

/-- What follows the offset of a time zone. -/
def offset? (cs : List Char) : Option (List Char) :=
  match cs with
  | c :: rest =>
    if c = 'Z' || c = 'z' then some rest
    else if c = '+' || c = '-' then do
      let (_, rest) ← twoDigits? 0 23 rest
      let (_, rest) ← twoDigits? 0 59 (← after? ':' rest)
      some rest
    else none
  | [] => none

/-- What follows the time behind a date, if there is one. -/
def timeOfDate? (cs : List Char) : Option (List Char) :=
  match cs with
  | c :: rest =>
    if c = 'T' || c = 't' || c = ' ' then
      (time? rest).map fun rest => (offset? rest).getD rest
    else none
  | [] => none

/-- What follows a date, a time, or both. -/
def moment? (cs : List Char) : Option (List Char) :=
  ((date? cs).map fun rest => (timeOfDate? rest).getD rest).or (time? cs)

end PrototypeLens.Toml
