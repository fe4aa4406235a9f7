import PrototypeLens.Text.Blank

/-!
# Pattern modes

The flags under which a part of a pattern is read, and what they allow. A pattern is matched against
text, so that no part may match half a character; and it is matched without tables of characters, so
that neither sets of Unicode characters nor the case of Unicode letters are available.
-/

namespace PrototypeLens.Log

/-- The flags under which a part of a pattern is read. -/
structure PatternMode where
  /-- Blanks and comments are passed over. -/
  spaced : Bool := false
  /-- A letter stands for both of its cases. -/
  caseless : Bool := false
  /-- The pattern is about characters, and not about bytes. -/
  unicode : Bool := true
deriving DecidableEq, Repr

namespace PatternMode

/-! ## Flags -/

/-- Sets the flag that a letter names. The other flags only change what a pattern matches. -/
def set (mode : PatternMode) (value : Bool) : Char → PatternMode
  | 'x' => { mode with spaced := value }
  | 'i' => { mode with caseless := value }
  | 'u' => { mode with unicode := value }
  | _ => mode

/-- Sets the flags that are written, and clears those behind a minus. -/
def change (mode : PatternMode) (flags : List Char) : PatternMode :=
  (flags.dropWhile (· != '-')).foldl (·.set false ·)
    ((flags.takeWhile (· != '-')).foldl (·.set true ·) mode)

/-! ## Blanks -/

/-- What follows blanks and comments; a comment goes from its mark to the end of the line. -/
def afterBlanks (inComment : Bool) : List Char → List Char
  | [] => []
  | c :: rest =>
    if inComment then afterBlanks (c != '\n') rest
    else if c = '#' then afterBlanks true rest
    else if Text.isBlank c then afterBlanks false rest
    else c :: rest

/-- What is left to read where blanks may be. -/
def skip (mode : PatternMode) (cs : List Char) : List Char :=
  if mode.spaced then afterBlanks false cs else cs

/-- The next character behind blanks, of a comment only the mark being passed over. -/
def peekFrom (pastMark : Bool) : List Char → Option Char
  | [] => none
  | c :: rest =>
    if Text.isBlank c then peekFrom pastMark rest
    else if c = '#' && !pastMark then peekFrom true rest
    else some c

/-- The next character where blanks may be. -/
def peek (mode : PatternMode) (cs : List Char) : Option Char :=
  if mode.spaced then peekFrom false cs else cs.head?

/-! ## Support -/

/-- Whether a character may stand for itself; `isByte` tells that it was written as a byte. -/
def allowsCharacter (mode : PatternMode) (c : Char) (isByte : Bool) : Bool :=
  if mode.unicode then !mode.caseless else !isByte || c.toNat < 128

/-- Whether a set may have a character as a member. -/
def allowsMember (mode : PatternMode) (c : Char) : Bool :=
  if mode.unicode then !mode.caseless else c.toNat < 128

/-- Whether a set of ASCII characters may be named, or what is outside of it. -/
def allowsNamedSet (mode : PatternMode) (negated : Bool) : Bool :=
  if mode.unicode then !mode.caseless else !negated

end PatternMode

end PrototypeLens.Log
