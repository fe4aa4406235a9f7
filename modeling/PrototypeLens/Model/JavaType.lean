import PrototypeLens.Text.Name

/-!
# Types

Java types as they are written in declarations and attributes. A named type carries its qualified,
erased name; generics play no part.
-/

namespace PrototypeLens

/-! ## Primitive types -/

/-- A primitive type. -/
inductive Primitive where
  | boolean
  | byte
  | short
  | char
  | int
  | long
  | float
  | double
deriving DecidableEq, Repr

namespace Primitive

/-- Every primitive type. -/
def all : List Primitive := [boolean, byte, short, char, int, long, float, double]

/-- The keyword of a primitive type. -/
def keyword : Primitive → String
  | boolean => "boolean"
  | byte => "byte"
  | short => "short"
  | char => "char"
  | int => "int"
  | long => "long"
  | float => "float"
  | double => "double"

/-- The class that a value of a primitive type is boxed into. -/
def wrapper : Primitive → String
  | boolean => "java.lang.Boolean"
  | byte => "java.lang.Byte"
  | short => "java.lang.Short"
  | char => "java.lang.Character"
  | int => "java.lang.Integer"
  | long => "java.lang.Long"
  | float => "java.lang.Float"
  | double => "java.lang.Double"

/-- The primitive type with a given keyword. -/
def ofKeyword? (word : String) : Option Primitive := all.find? fun p => p.keyword == word

theorem keyword_of_ofKeyword? {word : String} {p : Primitive} (h : ofKeyword? word = some p) :
    p.keyword = word := by
  simpa using List.find?_some h

end Primitive

/-! ## Types -/

inductive JavaType where
  /-- The absence of a value. -/
  | void
  /-- A primitive type. -/
  | primitive (p : Primitive)
  /-- A class, interface or type variable, by name. -/
  | named (name : String)
  | array (element : JavaType)
deriving DecidableEq, Repr

namespace JavaType

/-- The type that a word without brackets names: a keyword before a name. -/
def ofWord (word : String) : JavaType :=
  if word = "void" then void
  else match Primitive.ofKeyword? word with
    | some p => primitive p
    | none => named word

/-- Reads a type from its characters in reverse order: blanks at the end are skipped and each pair
of brackets makes an array. -/
def ofReversed : List Char → JavaType
  -- Nothing but blanks was left.
  | [] => ofWord ""
  | ']' :: '[' :: rest => array (ofReversed rest)
  | c :: rest =>
    if Text.isBlank c then ofReversed rest else ofWord (String.ofList (c :: rest).reverse)

/-- Reads the text of a type, such as `int`, `java.lang.String` or `long[]`. Blanks around the
text, and before each pair of brackets, do not matter. -/
def parse (text : String) : JavaType :=
  ofReversed (text.toList.dropWhile Text.isBlank).reverse

def canonicalText : JavaType → String
  | void => "void"
  | primitive p => p.keyword
  | named name => name
  | array element => element.canonicalText ++ "[]"

/-- The text of a type as an editor shows it, without packages. -/
def presentableText : JavaType → String
  | named name => Text.simpleName name
  | array element => element.presentableText ++ "[]"
  | type => type.canonicalText

/-- Whether a type is the absence of a value. -/
def isVoid : JavaType → Bool
  | void => true
  | _ => false

/-- Whether the values of a type are references. -/
def isReference : JavaType → Bool
  | named _ | array _ => true
  | _ => false

/-- Whether a type is the primitive `boolean`. -/
def isPrimitiveBoolean : JavaType → Bool
  | primitive .boolean => true
  | _ => false

end JavaType

/-- A parameter of a method or constructor. -/
structure Parameter where
  /-- The parameter's name. -/
  name : String
  /-- The parameter's type. -/
  type : JavaType
deriving DecidableEq, Repr

end PrototypeLens
