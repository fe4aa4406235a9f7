import PrototypeLens.Basic
import PrototypeLens.Text.Name

/-!
# Annotation uses

An annotation as it is written on a declaration or member, with the values of its attributes.
-/

namespace PrototypeLens

/-! ## Attributes -/

/-- An attribute that is given a value. -/
structure Attr (α : Type) where
  /-- The attribute's name. -/
  name : String
  value : α
  /-- The range of the value in the source; a text includes its quotes. -/
  span : Option Span

/-- An annotation written on an element, over values of type `α`. -/
structure Use (α : Type) where
  /-- The qualified name of the annotation type, or the name as written. -/
  name : String
  /-- The attributes, in the order in which they are written. -/
  attrs : List (Attr α) := []
  /-- Where it is written. -/
  span : Option Span := none

/-- The constant value of an attribute. -/
inductive AttrValue where
  | bool (value : Bool)
  | int (value : Int)
  | text (value : String)
  /-- A constant of the enum `type`. -/
  | enumConstant (type constant : String)
  /-- A class literal, by qualified name. -/
  | classLiteral (name : String)
  | array (items : List AttrValue)
  | nested (mark : Use AttrValue)

/-- An annotation as written on an element. -/
abbrev AnnotationUse := Use AttrValue

namespace AttrValue

/-- The value of a truth constant. -/
def bool? : AttrValue → Option Bool
  | bool value => some value
  | _ => none

/-- The value of an integer constant. -/
def int? : AttrValue → Option Int
  | int value => some value
  | _ => none

/-- The value of a text constant. -/
def text? : AttrValue → Option String
  | text value => some value
  | _ => none

/-- The value of a text constant that holds more than blanks. -/
def nonBlankText? (value : AttrValue) : Option String := Text.nonBlank? value.text?

/-- The name of an enum constant. -/
def enumConstant? : AttrValue → Option String
  | enumConstant _ constant => some constant
  | _ => none

/-- The class that a class literal names. -/
def class? : AttrValue → Option String
  | classLiteral name => some name
  | _ => none

/-- The annotation that a value consists of. -/
def nested? : AttrValue → Option AnnotationUse
  | nested mark => some mark
  | _ => none

/-- The items of an array; a single value stands for the array of itself. -/
def elements : AttrValue → List AttrValue
  | array items => items
  | value => [value]

/-- The classes that the class literals among the elements name, in order. -/
def classes (value : AttrValue) : List String := value.elements.filterMap class?

end AttrValue

namespace Use

variable {α : Type}

/-- An annotation by its name as written; one leading `@` is not part of the name. -/
def ofWritten (name : String) (attrs : List (Attr α)) (span : Option Span) : Use α :=
  match name.toList with
  | '@' :: rest => ⟨String.ofList rest, attrs, span⟩
  | _ => ⟨name, attrs, span⟩

/-- The value of the first attribute with a given name. -/
def attr? (mark : Use α) (name : String) : Option α :=
  (mark.attrs.find? fun attr => attr.name == name).map (·.value)

/-- Whether an annotation goes by a given name. Two qualified names have to agree; if either is
simple, their simple names have to. -/
def goesBy (mark : Use α) (name : String) : Bool :=
  mark.name == name ||
    (!Text.isDotted mark.name || !Text.isDotted name) &&
      Text.simpleName mark.name == Text.simpleName name

theorem goesBy_self (mark : Use α) : mark.goesBy mark.name = true := by
  simp [goesBy]

end Use

end PrototypeLens
