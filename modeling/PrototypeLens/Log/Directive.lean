import PrototypeLens.Log.FieldMatch
import PrototypeLens.Log.Level
import PrototypeLens.Text.Alphanumeric
import PrototypeLens.Text.Blank
import PrototypeLens.Text.ByteSlice
import PrototypeLens.Text.Name

/-!
# Directives

One directive of a log filter: the level that applies to a target, inside a span, to records with a
field. It is written as `target[span{field=value}]=level`, where every part may be missing.
-/

namespace PrototypeLens.Log

structure Directive where
  /-- What the records belong to. -/
  target : Option String := none
  /-- The name of the span that they lie in. -/
  span : Option String := none
  /-- The field that the span has to have. -/
  field : Option FieldMatch := none
  /-- The level that applies. -/
  level : Level
deriving DecidableEq, Repr

namespace Directive

/-! ## Reading -/

/-- A part of a directive. Places are byte offsets from the first character that is not blank, but
parts are cut out of the text with its blanks. -/
def cut? (text : List Char) (start stop : Nat) : Option String :=
  (Text.byteSlice? text start stop).map String.ofList

/-- Reads the level from a place on; nothing stands for everything. -/
def levelFrom? (text : List Char) (start : Nat) : Option Level :=
  (cut? text start (Text.byteLength text)).bind fun level =>
    -- Behind the equals sign nothing may follow: everything is logged.
    if level = "" then some .trace else Level.parse? level

/-- Reads what follows the brackets, up to a place, of a directive that is complete otherwise. -/
def afterBrackets? (text : List Char) (place : Nat) (rest : List Char) (directive : Directive) :
    Option Directive :=
  match rest with
  | [] => some directive
  | '=' :: _ => (levelFrom? text (place + 1)).map fun level => { directive with level }
  | _ => none

/-- Reads the field of a span whose brace opens before a place. -/
def fieldFrom? (text : List Char) (place : Nat) (rest : List Char) (directive : Directive) :
    Option Directive :=
  let stop := place + Text.byteLength (rest.takeWhile (· != '\x7d'))
  match rest.dropWhile (· != '\x7d') with
  | _ :: ']' :: rest => (cut? text place stop).bind fun field =>
    if field = "" then none
    else (FieldMatch.parse? field).bind fun field =>
      afterBrackets? text (stop + 2) rest { directive with field := some field }
  | _ => none

/-- Reads what stands between brackets that open before a place. -/
def bracketsFrom? (text : List Char) (place : Nat) (rest : List Char) (target : Option String) :
    Option Directive :=
  let isName := fun c => c != ']' && c != '\x7b'
  let stop := place + Text.byteLength (rest.takeWhile isName)
  (cut? text place stop).bind fun name =>
    match rest.dropWhile isName with
    | ']' :: rest =>
      afterBrackets? text (stop + 1) rest { target, span := some name, level := .trace }
    | '\x7b' :: rest =>
      fieldFrom? text (stop + 1) rest
        -- Empty brackets name a span with an empty name; before a field an empty name is none.
        { target, span := if name = "" then none else some name, level := .trace }
    | _ => none

/-- Whether a directive without brackets in front may start with a character. -/
def startsName (c : Char) : Bool :=
  c == '-' || c == ':' || c == '_' || Text.isAlphanumeric c

/-- Reads a directive that starts with a target or a level. A word alone is a level if it can be
one, and otherwise a target of which everything is logged. -/
def nameFrom? (text rest : List Char) : Option Directive :=
  let isName := fun c => c != '=' && c != '['
  let stop := Text.byteLength (rest.takeWhile isName)
  match rest.dropWhile isName with
  | [] =>
    -- The whole text, with the blanks around the word.
    let word := String.ofList text
    match Level.parse? word with
    | some level => some { level := level }
    | none => some { target := some word, level := .trace }
  | c :: rest => (cut? text 0 stop).bind fun target =>
    if c = '=' then
      (levelFrom? text (stop + 1)).map fun level => { target := some target, level := level }
    else bracketsFrom? text (stop + 1) rest (some target)

/-- Reads a directive. -/
def parse? (text : List Char) : Option Directive :=
  match Text.trimChars text with
  | [] => none
  | '[' :: rest => bracketsFrom? text 1 rest none
  | c :: rest => if startsName c then nameFrom? text (c :: rest) else none

/-! ## Writing -/

/-- What stands between the brackets of a directive. -/
def brackets (d : Directive) : String :=
  match d.span, d.field with
  | none, none => ""
  | span, none => "[" ++ span.getD "" ++ "]"
  | span, some field => "[" ++ span.getD "" ++ "\x7b" ++ field.text ++ "\x7d]"

def text (d : Directive) : String :=
  let subject := d.target.getD "" ++ d.brackets
  if d.target.isNone && d.span.isNone && d.field.isNone then d.level.name
  else subject ++ "=" ++ d.level.name

/-! ## Order -/

/-- The order of fields that may be missing. -/
def compareFields : Option FieldMatch → Option FieldMatch → Ordering
  | some a, some b => a.compare b
  | none, none => .eq
  | none, some _ => .lt
  | some _, none => .gt

/-- How specific two directives are: the longer target, then the one with a span, then the one with
a field is more specific; targets, spans and fields themselves break ties. -/
def compareSpecificity (a b : Directive) : Ordering :=
  (compare (a.target.map String.utf8ByteSize) (b.target.map String.utf8ByteSize)).then <|
  (compare a.span.isSome b.span.isSome).then <|
  (compare a.field.isSome b.field.isSome).then <|
  (compare a.target b.target).then <|
  (compare a.span b.span).then <|
  compareFields a.field b.field

/-- Adds a directive to directives in descending order. It takes the place of an equally specific
one. -/
def insert (d : Directive) : List Directive → List Directive
  | [] => [d]
  | e :: es => match d.compareSpecificity e with
    | .gt => d :: e :: es
    | .eq => d :: es
    | .lt => e :: d.insert es

/-! ## Kinds -/

/-- Whether a directive depends on the spans that a record lies in. -/
def isDynamic (d : Directive) : Bool := d.span.isSome || d.field.isSome

/-- The part of a directive that can be decided without the values in a span; none if it names a
span or a value. -/
def static? (d : Directive) : Option Directive :=
  if d.span.isSome || d.field.any (·.value.isSome) then none
  else some { d with field := d.field.map fun f => ⟨f.name, none⟩ }

end Directive

end PrototypeLens.Log
