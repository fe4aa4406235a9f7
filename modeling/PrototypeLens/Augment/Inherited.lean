import PrototypeLens.Augment.VirtualMember
import PrototypeLens.Host

/-!
# Inherited members

The members that a declaration gets from other types: the elements of the annotation types that an
annotation type extends, and the fields that stand for methods without arguments, so that fluent
code may leave out the parentheses.
-/

namespace PrototypeLens

/-- The items whose key is neither taken nor that of an earlier item. -/
def firstByKey {α κ : Type} [DecidableEq κ] (key : α → κ) (taken : List κ) : List α → List α
  | [] => []
  | a :: as =>
    if key a ∈ taken then firstByKey key taken as
    else a :: firstByKey key (key a :: taken) as

/-! ## Annotation types -/

/-- The declared annotation types with the types they extend. -/
def Host.annotationTypeGraph (host : Host) : Graph QueryError String Declaration :=
  host.typeGraph fun decl => if decl.isAnnotationType then some decl.extended else none

/-- An element as it is inherited: a public abstract method without parameters that keeps its
default. -/
def inheritedElement (element : Method) : VirtualMember :=
  .method
    { name := element.name
      returnType := element.returnType
      params := []
      modifiers := Method.elementModifiers
      defaultValue := element.defaultValue }

/-- The elements that an annotation type inherits: of those written in the annotation types that it
extends, directly or not, the first of each name that it does not declare itself. -/
def inheritedElements (host : Host) (decl : Declaration) :
    Except QueryError (List VirtualMember) :=
  (host.annotationTypeGraph.walk decl.extended).map fun journey =>
    -- Members that were added before are no elements of the annotation type.
    let elements := (journey.found.map (·.methods)).flatten.filter (!·.origin.isAugmented)
    (firstByKey Method.name (decl.methods.map (·.name)) elements).map inheritedElement

/-! ## Fields for methods -/

/-- The methods of a declaration, then those of its supertypes, nearest first. -/
def methodsWithInherited (host : Host) (decl : Declaration) : Except QueryError (List Method) :=
  (host.supertypeGraph.walk decl.supertypes).map fun journey =>
    decl.methods ++ (journey.found.map (·.methods)).flatten

/-- Whether a method can stand without parentheses. -/
def isBracketless (method : Method) : Bool :=
  method.params.isEmpty && !method.returnType.isVoid && !method.origin.isAugmented

/-- The field that stands for a method. -/
def bracketlessField (method : Method) : VirtualMember :=
  .field { name := method.name, type := method.returnType, modifiers := Modifiers.publicBit }

/-- The fields that stand for the methods of a declaration, for the first method of each name that
is not the name of a field. -/
def bracketlessFields (host : Host) (decl : Declaration) :
    Except QueryError (List VirtualMember) :=
  (methodsWithInherited host decl).map fun methods =>
    (firstByKey Method.name (decl.fields.map (·.name)) (methods.filter isBracketless)).map
      bracketlessField

end PrototypeLens
