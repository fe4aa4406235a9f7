import PrototypeLens.Log.Pattern.BracketSet
import PrototypeLens.Text.Alphanumeric

/-!
# Patterns

Which texts are regular expressions that a log filter can match with. Counted repetitions do not
occur, since a filter ends a pattern at its first closing brace.
-/

namespace PrototypeLens.Log

/-! ## Groups -/

/-- What an opening parenthesis starts. -/
inductive GroupStart where
  /-- A group, which may have a name, with flags of its own. -/
  | group (name : Option String) (mode : PatternMode)
  /-- Flags for what follows. -/
  | flags (mode : PatternMode)
deriving DecidableEq, Repr

namespace GroupStart

/-- Whether characters make a name of a group. -/
def isName : List Char → Bool
  | [] => false
  | c :: rest =>
    (c == '_' || Text.isAlphabetic c) &&
      rest.all fun c => Text.isAlphanumeric c || "_.[]".toList.contains c

/-- Reads the name of a group. -/
def named? (mode : PatternMode) (cs : List Char) : Option (GroupStart × List Char) :=
  let name := cs.takeWhile (· != '>')
  match cs.dropWhile (· != '>') with
  | _ :: rest => if isName name then some (.group (some (String.ofList name)) mode, rest) else none
  | [] => none

/-- Whether flags are well formed: each is known and given once, and some flag follows a minus. -/
def areFlags (flags : List Char) : Bool :=
  flags.all "imsUuxR-".toList.contains && decide flags.Nodup && flags.getLast? != some '-'

/-- Reads the start of a group after its parenthesis. -/
def parse? (mode : PatternMode) (cs : List Char) : Option (GroupStart × List Char) :=
  match mode.skip cs with
  | '?' :: 'P' :: '<' :: rest => named? mode rest
  | '?' :: '<' :: rest => named? mode rest
  | '?' :: rest =>
    let isFlag := fun c => c != ':' && c != ')'
    let flags := rest.takeWhile isFlag
    if areFlags flags then
      match rest.dropWhile isFlag with
      | ':' :: rest => some (.group none (mode.change flags), rest)
      -- Flags for the rest of the group; there have to be some.
      | ')' :: rest => if flags.isEmpty then none else some (.flags (mode.change flags), rest)
      | _ => none
    else none
  | rest => some (.group none mode, rest)

end GroupStart

/-! ## Patterns -/

/-- Reads a single part of a pattern: a character, a place or a set, with its height. -/
def singlePart? (mode : PatternMode) : List Char → Option (Nat × List Char)
  | [] => none
  | '[' :: rest => BracketSet.parse? mode rest
  | '\\' :: rest => (Escape.parse? mode rest).bind fun
    | (.character c isByte, rest) => if mode.allowsCharacter c isByte then some (0, rest) else none
    | (_, rest) => some (0, rest)
  | '.' :: rest => if mode.unicode then some (0, rest) else none
  | '^' :: rest => some (0, rest)
  | '$' :: rest => some (0, rest)
  | '\x7b' :: _ => none
  | c :: rest => if mode.allowsCharacter c false then some (0, rest) else none

/-- What follows the mark of a repetition; a question mark behind it makes it a reluctant one. -/
def afterRepetition : List Char → List Char
  | '?' :: rest => rest
  | rest => rest

/-- Reads a pattern up to the end of its group. The arguments are a bound for the steps, the names
of the groups so far, the heights of the branches before and of the parts of this branch, and
whether the last of these can be repeated. The result is the height with all names. -/
def branches? : Nat → PatternMode → List String → List Nat → List Nat → (operand : Bool) →
    List Char → Option (Nat × List String × List Char)
  | 0, _, _, _, _, _, _ => none
  | limit + 1, mode, names, branches, parts, operand, cs =>
    match mode.skip cs with
    | [] => some (rowHeight (rowHeight parts :: branches), names, [])
    | ')' :: rest => some (rowHeight (rowHeight parts :: branches), names, ')' :: rest)
    | '|' :: rest => branches? limit mode names (rowHeight parts :: branches) [] false rest
    | '(' :: rest => match GroupStart.parse? mode rest with
      -- Nothing can be repeated right behind flags.
      | some (.flags mode, rest) => branches? limit mode names branches (0 :: parts) false rest
      | some (.group name inner, rest) =>
        if name.any names.contains then none
        else match branches? limit inner (name.toList ++ names) [] [] false rest with
          -- The flags of the inner group end with it; its names stay.
          | some (height, names, ')' :: rest) =>
            branches? limit mode names branches ((1 + height) :: parts) true rest
          | _ => none
      | none => none
    | '*' :: rest | '+' :: rest | '?' :: rest => match operand, parts with
      | true, height :: parts =>
        branches? limit mode names branches ((1 + height) :: parts) true (afterRepetition rest)
      | _, _ => none
    | cs => (singlePart? mode cs).bind fun (height, rest) =>
      branches? limit mode names branches (height :: parts) true rest

def isPattern (text : String) : Bool :=
  match branches? (text.toList.length + 1) {} [] [] [] false text.toList with
  | some (height, _, []) => height ≤ heightLimit
  | _ => false

end PrototypeLens.Log
