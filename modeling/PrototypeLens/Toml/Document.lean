import PrototypeLens.Toml.Node
import PrototypeLens.Toml.Number
import PrototypeLens.Toml.Quoted

/-!
# Reading documents

The grammar of TOML documents: keys, values and lines.
-/

namespace PrototypeLens.Toml

/-! ## Blanks and comments -/

/-- Whether a character is a blank inside a line. -/
def isLineBlank (c : Char) : Bool := c == ' ' || c == '\t'

/-- The text after blanks. -/
def skipBlanks (cs : List Char) : List Char := cs.dropWhile isLineBlank

/-- The text after a comment, if there is one. -/
def skipComment (cs : List Char) : List Char :=
  match cs with
  | '#' :: rest => rest.dropWhile isPrintable
  | _ => cs

/-- The text after a line end. -/
def lineFeed? : List Char → Option (List Char)
  | '\n' :: rest => some rest
  | '\r' :: '\n' :: rest => some rest
  | _ => none

/-- The text after the rest of a line that holds nothing more than a comment. -/
def lineEnd? (cs : List Char) : Option (List Char) :=
  match skipComment (skipBlanks cs) with
  | [] => some []
  | rest => lineFeed? rest

/-- The text after blanks, comments and line ends, through at most `limit` lines. -/
def skipLines : Nat → List Char → List Char
  | 0, cs => cs
  | limit + 1, cs =>
    match lineFeed? (skipComment (skipBlanks cs)) with
    | some rest => skipLines limit rest
    | none => skipBlanks cs

/-! ## Keys -/

/-- Whether a character may stand in a key without quotes. -/
def isBareKeyChar (c : Char) : Bool := c.isAlphanum || c == '-' || c == '_'

/-- Reads one part of a key. -/
def keyPart? (cs : List Char) : Option (String × List Char) :=
  -- A quoted key has to end on its line.
  match singleLine? cs with
  | some (text, rest) => some (String.ofList text, rest)
  | none =>
    match cs.takeWhile isBareKeyChar with
    | [] => none
    | part => some (String.ofList part, cs.dropWhile isBareKeyChar)

/-- Reads the parts of a key and the blanks around them, through at most `limit` parts. -/
def keyParts? : Nat → List Char → Option (List String × List Char)
  | 0, _ => none
  | limit + 1, cs =>
    (keyPart? (skipBlanks cs)).bind fun (part, rest) =>
      match skipBlanks rest with
      | '.' :: rest => (keyParts? limit rest).map fun (parts, rest) => (part :: parts, rest)
      | rest => some ([part], rest)

/-- How deep keys and values may nest. -/
def nestingLimit : Nat := 80

/-- Reads a key. -/
def key? (cs : List Char) : Option (Key × List Char) :=
  (keyParts? (nestingLimit - 1) cs).bind fun (parts, rest) =>
    parts.getLast?.map fun last => (⟨parts.dropLast, last⟩, rest)

/-! ## Values -/

/-- Reads a number, a date or a time. -/
def numeric? (cs : List Char) : Option (Node × List Char) :=
  ((moment? cs).map fun rest => (.moment, rest)).or
    (((float? cs).map fun rest => (.float, rest)).or
      ((integer? cs).map fun (n, rest) => (.integer n, rest)))

/-- The table that the keys of an inline table build. -/
def inlineTable? (pairs : List (Key × Node)) : Option Node :=
  (pairs.foldlM (fun (entries : Entries) (pair : Key × Node) =>
    insertKey pair.1.path pair.1.last pair.2 entries) []).map (.table .inline)

mutual

/-- Reads a value at a nesting depth. The first argument bounds the steps. -/
def valueWithin : Nat → Nat → List Char → Option (Node × List Char)
  | 0, _, _ => none
  | limit + 1, depth, cs =>
    match cs with
    | '"' :: _ | '\'' :: _ =>
      (quoted? cs).map fun (text, rest) => (.text (String.ofList text), rest)
    | '[' :: rest =>
      if nestingLimit ≤ depth + 1 then none
      else (itemsWithin limit (depth + 1) rest).map fun (items, rest) => (.array items, rest)
    | '\x7b' :: rest =>
      if nestingLimit ≤ depth + 1 then none
      else match skipBlanks rest with
        | '\x7d' :: rest => some (.table .inline [], rest)
        | rest => (pairsWithin limit (depth + 1) rest).bind fun (pairs, rest) =>
          (inlineTable? pairs).map fun table => (table, rest)
    | 't' :: 'r' :: 'u' :: 'e' :: rest => some (.boolean true, rest)
    | 'f' :: 'a' :: 'l' :: 's' :: 'e' :: rest => some (.boolean false, rest)
    | _ => numeric? cs

/-- Reads the items of an array up to its closing bracket. -/
def itemsWithin : Nat → Nat → List Char → Option (List Node × List Char)
  | 0, _, _ => none
  | limit + 1, depth, cs =>
    match skipLines cs.length cs with
    -- A comma may stand behind the last item.
    | ']' :: rest => some ([], rest)
    | rest => (valueWithin limit depth rest).bind fun (item, rest) =>
      match skipLines rest.length rest with
      | ']' :: rest => some ([item], rest)
      | ',' :: rest => (itemsWithin limit depth rest).map fun (items, rest) => (item :: items, rest)
      | _ => none

/-- Reads the entries of an inline table up to its closing brace. -/
def pairsWithin : Nat → Nat → List Char → Option (List (Key × Node) × List Char)
  | 0, _, _ => none
  | limit + 1, depth, cs =>
    (key? cs).bind fun (key, rest) =>
      match rest with
      | '=' :: rest => (valueWithin limit depth (skipBlanks rest)).bind fun (node, rest) =>
        -- Unlike in an array, no comma may stand behind the last entry, and no line may end.
        match skipBlanks rest with
        | '\x7d' :: rest => some ([(key, node)], rest)
        | ',' :: rest =>
          (pairsWithin limit depth rest).map fun (pairs, rest) => ((key, node) :: pairs, rest)
        | _ => none
      | _ => none

end

/-- Reads a value. -/
def value? (cs : List Char) : Option (Node × List Char) :=
  valueWithin (2 * cs.length + 2) 0 cs

/-! ## Lines -/

/-- Reads a header between brackets that are already open. -/
def header? (closing : List Char) (cs : List Char) : Option (Key × List Char) :=
  (key? cs).bind fun (key, rest) =>
    if closing.isPrefixOf rest then
      (lineEnd? (rest.drop closing.length)).map fun rest => (key, rest)
    else none

/-- Reads an entry with its line end. -/
def entryLine? (cs : List Char) : Option (Line × List Char) := do
  let (key, rest) ← key? cs
  let (node, rest) ← value? (skipBlanks (← after? '=' rest))
  let rest ← lineEnd? rest
  some (.entry key node, rest)

/-- Reads the lines of a document, at most `limit` of them. -/
def linesWithin : Nat → List Char → Option (List Line)
  | 0, _ => none
  | limit + 1, cs =>
    match skipBlanks cs with
    | [] => some []
    -- The longer bracket first, as it starts with the shorter one.
    | '[' :: '[' :: rest => (header? [']', ']'] rest).bind fun (key, rest) =>
      (linesWithin limit rest).map (.row key :: ·)
    | '[' :: rest => (header? [']'] rest).bind fun (key, rest) =>
      (linesWithin limit rest).map (.table key :: ·)
    | rest =>
      match lineEnd? rest with
      | some rest => linesWithin limit rest
      | none => (entryLine? rest).bind fun (line, rest) =>
        (linesWithin limit rest).map (line :: ·)

/-- The entries of the document with a given text; nothing if the text is not a document. A byte
order mark at the start is passed over. -/
def parse? (text : String) : Option Entries :=
  let cs := match text.toList with
    | '\ufeff' :: rest => rest
    | cs => cs
  (linesWithin (cs.length + 1) cs).bind ofLines

end PrototypeLens.Toml
