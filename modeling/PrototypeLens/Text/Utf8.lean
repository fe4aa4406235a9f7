/-!
# UTF-8

Reading bytes as text. A machine walks over the bytes and reports a character for each well-formed
sequence and a fault for each maximal piece that no well-formed sequence continues. The lenient
reading shows a fault as the replacement character; the strict reading refuses the bytes.
-/

namespace PrototypeLens.Text.Utf8

/-- A byte of a text. -/
abbrev Byte := UInt8

/-- Where the machine stands between two bytes. -/
inductive State where
  /-- Between characters. -/
  | start
  /-- Inside a character: `owed` bytes are missing, the next one lies between `least` and
  `greatest`, and `value` holds the bits read so far. -/
  | inside (owed : Nat) (least greatest : Byte) (value : Nat)

/-- What the machine reports: a character, or a piece that is malformed. -/
abbrev Report := Option Char

/-- The state after the first byte of a character, or `none` if no character starts so. -/
def lead? (b : Byte) : Option State :=
  if 0xC2 ≤ b && b ≤ 0xDF then some (.inside 1 0x80 0xBF (b.toNat - 0xC0))
  else if b == 0xE0 then some (.inside 2 0xA0 0xBF 0)
  else if b == 0xED then some (.inside 2 0x80 0x9F 0xD)
  else if 0xE1 ≤ b && b ≤ 0xEF then some (.inside 2 0x80 0xBF (b.toNat - 0xE0))
  else if b == 0xF0 then some (.inside 3 0x90 0xBF 0)
  else if 0xF1 ≤ b && b ≤ 0xF3 then some (.inside 3 0x80 0xBF (b.toNat - 0xF0))
  else if b == 0xF4 then some (.inside 3 0x80 0x8F 4)
  else none

/-- One step from between characters. -/
def stepStart (b : Byte) : List Report × State :=
  if b < 0x80 then ([some (Char.ofNat b.toNat)], .start)
  else match lead? b with
    | some state => ([], state)
    | none => ([none], .start)

/-- One step of the machine. A byte that does not continue a character starts the next one. -/
def step : State → Byte → List Report × State
  | .start, b => stepStart b
  | .inside owed least greatest value, b =>
    if least ≤ b && b ≤ greatest then
      let value := value * 64 + (b.toNat - 0x80)
      if owed ≤ 1 then ([some (Char.ofNat value)], .start)
      else ([], .inside (owed - 1) 0x80 0xBF value)
    else
      let (reports, state) := stepStart b
      (none :: reports, state)

/-- All reports of the machine; a character that the end cuts off is malformed. -/
def scan : State → List Byte → List Report
  | .start, [] => []
  | .inside .., [] => [none]
  | state, b :: bs => (step state b).1 ++ scan (step state b).2 bs

/-- The lenient reading: U+FFFD for each malformed piece. -/
def decodeLossy (bytes : List Byte) : String :=
  String.ofList ((scan .start bytes).map fun report => report.getD (Char.ofNat 0xFFFD))

/-- The strict reading: nothing if any piece is malformed. -/
def decode? (bytes : List Byte) : Option String :=
  ((scan .start bytes).mapM id).map String.ofList

end PrototypeLens.Text.Utf8
