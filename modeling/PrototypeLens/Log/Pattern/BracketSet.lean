import PrototypeLens.Log.Pattern.Escape
import PrototypeLens.Log.Pattern.Height

/-!
# Bracketed sets

Sets of characters between brackets: single characters, ranges, named sets and sets in sets, with
operators for what two sets share and where they differ. Reading a set yields how deep it is nested.
-/

namespace PrototypeLens.Log

namespace BracketSet

/-! ## Parts -/

/-- The sets of ASCII characters that have a name. -/
def setNames : List String :=
  ["alnum", "alpha", "ascii", "blank", "cntrl", "digit", "graph", "lower", "print", "punct",
   "space", "upper", "word", "xdigit"]

/-- Reads a named set after its bracket, and whether it is negated. -/
def namedSet? : List Char → Option (Bool × List Char)
  | ':' :: rest =>
    let negated := rest.head? == some '^'
    let rest := if negated then rest.tail else rest
    let name := String.ofList (rest.takeWhile (· != ':'))
    match rest.dropWhile (· != ':') with
    | ':' :: ']' :: rest => if setNames.contains name then some (negated, rest) else none
    | _ => none
  | _ => none

/-- The dashes at the start of a set, which stand for themselves, and what follows them. -/
def leadingDashes (mode : PatternMode) : Nat → List Char → List Char × List Char
  | limit + 1, '-' :: rest =>
    let (dashes, rest) := leadingDashes mode limit (mode.skip rest)
    ('-' :: dashes, rest)
  | _, cs => ([], cs)

/-- Reads the start of a set after its bracket: a negation, then dashes, or else a closing bracket,
which stand for themselves. The result are these members. A set of bytes is not negated, as it would
hold halves of characters. -/
def start? (mode : PatternMode) (cs : List Char) : Option (List Char × List Char) :=
  let cs := mode.skip cs
  let negated := cs.head? == some '^'
  let cs := if negated then mode.skip cs.tail else cs
  let (members, rest) := match leadingDashes mode cs.length cs with
    -- A closing bracket right at the start closes nothing.
    | ([], ']' :: rest) => ([']'], mode.skip rest)
    | start => start
  if (negated && !mode.unicode) || !members.all mode.allowsMember then none
  else some (members, rest)

/-- Reads a member of a set: a character, or nothing for a set of its own. -/
def member? (mode : PatternMode) : List Char → Option (Option Char × List Char)
  | '\\' :: rest => (Escape.parse? mode rest).bind fun
    | (.character c _, rest) => if mode.allowsMember c then some (some c, rest) else none
    | (.set, rest) => some (none, rest)
    | (.place, _) => none
  | c :: rest => if mode.allowsMember c then some (some c, rest) else none
  | [] => none

/-- Reads a member or a range of them. A dash before a closing bracket or another dash makes no
range. -/
def range? (mode : PatternMode) (cs : List Char) : Option (List Char) :=
  (member? mode cs).bind fun (first, rest) =>
    match mode.skip rest with
    | '-' :: behind =>
      -- The dash is left for the next step, where it is a member or an operator.
      if mode.peek behind == some ']' || mode.peek behind == some '-' then some ('-' :: behind)
      else (member? mode (mode.skip behind)).bind fun (last, rest) =>
        match first, last with
        | some a, some b => if a ≤ b then some rest else none
        | _, _ => none
    | rest => some rest

/-! ## Sets -/

/-- What an operator has on its left, after members with given heights: those alone, or with an
operand before them. -/
def operandHeight (left : Option Nat) (members : List Nat) : Nat :=
  match left with
  | none => rowHeight members
  | some h => 1 + max h (rowHeight members)

/-- Reads the rest of a set, given the height of what stands before the last operator and those of
the members behind it. The first argument bounds the steps. -/
def rest? (mode : PatternMode) :
    Nat → Option Nat → List Nat → List Char → Option (Nat × List Char)
  | 0, _, _, _ => none
  | limit + 1, left, members, cs =>
    match mode.skip cs with
    | [] => none
    | ']' :: cs => some (1 + operandHeight left members, cs)
    | '[' :: cs => match namedSet? cs with
      | some (negated, cs) =>
        if mode.allowsNamedSet negated then rest? mode limit left (0 :: members) cs else none
      | none => (start? mode cs).bind fun (inner, cs) =>
        -- Members that stand for themselves at the start of the inner set are of height zero.
        (rest? mode limit none (inner.map fun _ => 0) cs).bind fun (height, cs) =>
          rest? mode limit left (height :: members) cs
    | '&' :: '&' :: cs => rest? mode limit (some (operandHeight left members)) [] cs
    | '-' :: '-' :: cs => rest? mode limit (some (operandHeight left members)) [] cs
    | '~' :: '~' :: cs => rest? mode limit (some (operandHeight left members)) [] cs
    | cs => (range? mode cs).bind fun cs => rest? mode limit left (0 :: members) cs

/-- Reads a set after its bracket. -/
def parse? (mode : PatternMode) (cs : List Char) : Option (Nat × List Char) :=
  (start? mode cs).bind fun (members, rest) =>
    rest? mode (rest.length + 1) none (members.map fun _ => 0) rest

end BracketSet

end PrototypeLens.Log
