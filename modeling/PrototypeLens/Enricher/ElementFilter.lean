import PrototypeLens.Model.Declaration

/-!
# Element filters

Selecting members of a declaration as parameters of a generated one. A filter is written as its
source followed by predicates, all of which have to hold: `FIELDS|PRIVATE|!STATIC`.
-/

namespace PrototypeLens

/-- The members that a filter selects from. -/
inductive ElementSource where
  | fields
  | methods
deriving DecidableEq, Repr

/-- What a filter asks of a member. -/
inductive ElementPredicate where
  | has (modifier : Modifiers)
  /-- It is a field that is given a value. -/
  | isInitialized
deriving DecidableEq, Repr

/-- A predicate, or its negation. -/
structure ElementTest where
  /-- What is asked. -/
  predicate : ElementPredicate
  /-- Whether it must not hold. -/
  negated : Bool
deriving DecidableEq, Repr

/-- A selection of members. -/
structure ElementFilter where
  /-- The members to select from. -/
  source : ElementSource
  /-- The tests that a selected member passes. -/
  tests : List ElementTest
deriving DecidableEq, Repr

/-- What a filter sees of a member. -/
structure ElementView where
  name : String
  /-- The type of a field, or of the result of a method. -/
  type : JavaType
  modifiers : Modifiers
  /-- Whether it is given a value. -/
  initialized : Bool
deriving DecidableEq, Repr

namespace ElementFilter

/-! ## Reading -/

def modifierWords : List (String × Modifiers) :=
  [("PUBLIC", .publicBit), ("PRIVATE", .privateBit), ("PROTECTED", .protectedBit),
   ("STATIC", .staticBit), ("FINAL", .finalBit), ("ABSTRACT", .abstractBit),
   ("TRANSIENT", .transientBit), ("VOLATILE", .volatileBit),
   ("SYNCHRONIZED", .synchronizedBit), ("NATIVE", .nativeBit), ("STRICTFP", .strictfpBit),
   ("DEFAULT", .defaultBit)]

/-- The predicate that a word stands for. -/
def predicateOfWord? (word : String) : Option ElementPredicate :=
  if word = "INITIALIZED" then some .isInitialized
  else (modifierWords.lookup word).map .has

/-- The test that a segment stands for; `!` negates it. -/
def testOfSegment? (segment : List Char) : Option ElementTest :=
  match Text.trimChars segment with
  | '!' :: word => (predicateOfWord? (String.ofList word)).map (⟨·, true⟩)
  | word => (predicateOfWord? (String.ofList word)).map (⟨·, false⟩)

/-- The source that the first segment stands for. -/
def sourceOfSegment? (segment : List Char) : Option ElementSource :=
  match String.ofList (Text.trimChars segment) with
  | "FIELDS" => some .fields
  | "METHODS" => some .methods
  | _ => none

/-- Reads a filter. There is none without a known source; segments that stand for no test are
passed over. -/
def parse? (text : String) : Option ElementFilter :=
  match Text.splitAt '|' text.toList with
  | [] => none
  | source :: segments =>
    (sourceOfSegment? source).map fun source => ⟨source, segments.filterMap testOfSegment?⟩

/-! ## Selecting -/

/-- The members that a filter looks at. -/
def candidates (filter : ElementFilter) (decl : Declaration) : List ElementView :=
  match filter.source with
  | .fields => decl.fields.map fun f => ⟨f.name, f.type, f.modifiers, f.initialized⟩
  -- Methods are never given a value.
  | .methods => decl.methods.map fun m => ⟨m.name, m.returnType, m.modifiers, false⟩

/-- Whether a member passes a test. -/
def passes (test : ElementTest) (view : ElementView) : Bool :=
  (match test.predicate with
    | .has modifier => view.modifiers.contains modifier
    | .isInitialized => view.initialized) != test.negated

/-- The selected members as parameters, in the order of the declaration. -/
def select (filter : ElementFilter) (decl : Declaration) : List Parameter :=
  ((filter.candidates decl).filter fun view => filter.tests.all (passes · view)).map
    fun view => ⟨view.name, view.type⟩

end ElementFilter

end PrototypeLens
