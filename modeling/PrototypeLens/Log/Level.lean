import PrototypeLens.Text.Case
import PrototypeLens.Text.Digits

/-!
# Log levels

How much is logged, from nothing to everything.
-/

namespace PrototypeLens.Log

/-- A level of a log filter; each lets through what the levels before it do. -/
inductive Level where
  | off
  | error
  | warn
  | info
  | debug
  | trace
deriving DecidableEq, Repr

namespace Level

/-- All levels, in order. -/
def all : List Level := [.off, .error, .warn, .info, .debug, .trace]

def name : Level → String
  | .off => "off"
  | .error => "error"
  | .warn => "warn"
  | .info => "info"
  | .debug => "debug"
  | .trace => "trace"

/-- The number that a text writes; a plus sign may stand before it. -/
def number? (text : String) : Option Nat :=
  match text.toList with
  | '+' :: digits => Text.natural? digits
  | digits => Text.natural? digits

/-- The level that a text writes: by its place in the order, or by its name in any case. Nothing
stands for errors alone. -/
def parse? (text : String) : Option Level :=
  ((number? text).bind (all[·]?)).or <|
    if text = "" then some .error else all.find? (·.name == Text.asciiLower text)

end Level

end PrototypeLens.Log
