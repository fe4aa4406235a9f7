import PrototypeLens.Text.Digits

/-!
# Quoted texts

The four ways to quote a text in a TOML document: between double quotes with escapes or between
single quotes without, on one line or, with tripled quotes, on several. One machine reads all of
them, character by character.
-/

namespace PrototypeLens.Toml

/-- A way to quote. -/
structure QuoteStyle where
  /-- The quote character. -/
  quote : Char
  /-- Whether the text may span lines. -/
  multiline : Bool
deriving DecidableEq, Repr

/-- Whether a style has escapes: the one with double quotes has. -/
def QuoteStyle.escapes (style : QuoteStyle) : Bool := style.quote == '"'

/-- Where the machine stands inside a text. -/
inductive QuoteState where
  | plain
  /-- After a backslash. -/
  | escape
  /-- Inside a code point, with so many digits to come. -/
  | code (digits value : Nat)
  /-- After so many quotes that may or may not close the text. -/
  | quotes (count : Nat)
  /-- After a carriage return, which a line feed has to follow. -/
  | carriageReturn
  /-- After an escaped line end, whose blanks are dropped; `ended` tells whether the line feed was
  there, and `half` whether a carriage return waits for one. -/
  | joining (ended half : Bool)
deriving DecidableEq, Repr

/-- Whether a character may stand for itself in quotes or comments. -/
def isPrintable (c : Char) : Bool :=
  c == '\t' || (0x20 ≤ c.toNat && c.toNat ≠ 0x7F)

/-- The character that a letter stands for after a backslash. -/
def escapeOf? : Char → Option Char
  | 'b' => some '\x08'
  | 't' => some '\t'
  | 'n' => some '\n'
  | 'f' => some '\x0c'
  | 'r' => some '\r'
  | '"' => some '"'
  | '\\' => some '\\'
  | _ => none

/-- A step from a plain character: what is read and the next state. -/
def stepPlain (style : QuoteStyle) (c : Char) : Option (List Char × QuoteState) :=
  if c = style.quote then some ([], .quotes 1)
  else if c = '\\' && style.escapes then some ([], .escape)
  else if c = '\n' && style.multiline then some (['\n'], .plain)
  else if c = '\r' && style.multiline then some ([], .carriageReturn)
  else if isPrintable c then some ([c], .plain)
  else none

/-- A step after a backslash. -/
def stepEscape (style : QuoteStyle) (c : Char) : Option (List Char × QuoteState) :=
  if c = 'u' then some ([], .code 4 0)
  else if c = 'U' then some ([], .code 8 0)
  else match escapeOf? c with
    | some e => some ([e], .plain)
    | none =>
      if !style.multiline then none
      else if c = ' ' || c = '\t' then some ([], .joining false false)
      else if c = '\n' then some ([], .joining true false)
      else if c = '\r' then some ([], .joining false true)
      else none

/-- A step inside a code point, which has to be that of a character. -/
def stepCode (digits value : Nat) (c : Char) : Option (List Char × QuoteState) :=
  (Text.digit? c).bind fun digit =>
    let value := value * 16 + digit
    if 1 < digits then some ([], .code (digits - 1) value)
    else if value.isValidChar then some ([Char.ofNat value], .plain)
    else none

/-- A step of the machine. -/
def QuoteState.step (style : QuoteStyle) (state : QuoteState) (c : Char) :
    Option (List Char × QuoteState) :=
  match state with
  | plain => stepPlain style c
  | escape => stepEscape style c
  | code digits value => stepCode digits value c
  | quotes count =>
    if c = style.quote then some ([], .quotes (count + 1))
    else (stepPlain style c).map fun (read, next) =>
      (List.replicate count style.quote ++ read, next)
  | carriageReturn => if c = '\n' then some (['\n'], .plain) else none
  | joining ended half =>
    if half then if c = '\n' then some ([], .joining true false) else none
    else if c = ' ' || c = '\t' then some ([], .joining ended false)
    else if c = '\n' then some ([], .joining true false)
    else if c = '\r' then some ([], .joining ended true)
    else if ended then stepPlain style c
    else none

/-- Whether a quote after the given state closes the text. -/
def closes (style : QuoteStyle) (state : QuoteState) : Bool :=
  if style.multiline then state == .quotes 2 else state == .plain

/-- The quotes right after a closing quote that still belong to the text: at most two, and only
where the quotes are tripled. -/
def trailingQuotes (style : QuoteStyle) (rest : List Char) : Nat :=
  if style.multiline then ((rest.take 2).takeWhile (· == style.quote)).length else 0

/-- Reads a text up to its closing quote; gives the text and what follows. -/
def readQuoted (style : QuoteStyle) : QuoteState → List Char → Option (List Char × List Char)
  | _, [] => none
  | state, c :: rest =>
    if c = style.quote && closes style state then
      let kept := trailingQuotes style rest
      some (List.replicate kept style.quote, rest.drop kept)
    else match state.step style c with
      | none => none
      | some (read, next) =>
        (readQuoted style next rest).map fun (text, after) => (read ++ text, after)

/-- A line end right after the opening quotes of a text with several lines is not part of it. -/
def skipFirstLineEnd : List Char → List Char
  | '\n' :: rest => rest
  | '\r' :: '\n' :: rest => rest
  | rest => rest

/-- Reads a quoted text on one line. -/
def singleLine? : List Char → Option (List Char × List Char)
  | '"' :: rest => readQuoted ⟨'"', false⟩ .plain rest
  | '\'' :: rest => readQuoted ⟨'\'', false⟩ .plain rest
  | _ => none

/-- Reads a quoted text of any style. -/
def quoted? : List Char → Option (List Char × List Char)
  | '"' :: '"' :: '"' :: rest => readQuoted ⟨'"', true⟩ .plain (skipFirstLineEnd rest)
  | '\'' :: '\'' :: '\'' :: rest => readQuoted ⟨'\'', true⟩ .plain (skipFirstLineEnd rest)
  | cs => singleLine? cs

end PrototypeLens.Toml
