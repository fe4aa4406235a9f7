import PrototypeLens.Model.AnnotationUse
import PrototypeLens.Model.JavaType
import PrototypeLens.Model.Modifiers

/-!
# Declarations

Type declarations with their members, and the places of a declaration that annotations stand at.
-/

namespace PrototypeLens

/-! ## Members -/

/-- Where a member comes from. -/
inductive Origin where
  /-- It is written in the source. -/
  | source
  /-- It was synthesised for the editor; carries the member's own name. -/
  | augmented (name : String)
deriving DecidableEq, Repr

/-- Whether a member was synthesised. -/
def Origin.isAugmented : Origin → Bool
  | augmented _ => true
  | source => false

structure Field where
  /-- The field's name. -/
  name : String
  /-- The field's type. -/
  type : JavaType
  /-- The field's modifiers. -/
  modifiers : Modifiers := Modifiers.privateBit
  /-- Whether the declaration gives it a value. -/
  initialized : Bool := false
  /-- The annotations written on it. -/
  annotations : List AnnotationUse := []
  /-- Where it comes from. -/
  origin : Origin := .source

/-- Whether a field belongs to the type and not to its instances. -/
def Field.isStatic (f : Field) : Bool := f.modifiers.contains Modifiers.staticBit

/-- A method, or an element of an annotation type. -/
structure Method where
  /-- The method's name. -/
  name : String
  /-- The type of its result. -/
  returnType : JavaType
  params : List Parameter := []
  modifiers : Modifiers := Modifiers.publicBit
  /-- The `default` clause of an element. -/
  defaultValue : Option AttrValue := none
  /-- The annotations written on it. -/
  annotations : List AnnotationUse := []
  /-- Where it comes from. -/
  origin : Origin := .source

/-- Whether a method has no body. -/
def Method.isAbstract (m : Method) : Bool := m.modifiers.contains Modifiers.abstractBit

/-- Whether a method belongs to the type and not to its instances. -/
def Method.isStatic (m : Method) : Bool := m.modifiers.contains Modifiers.staticBit

/-- The modifiers of an element of an annotation type. -/
def Method.elementModifiers : Modifiers := Modifiers.publicBit ||| Modifiers.abstractBit

structure Constructor where
  params : List Parameter := []
  modifiers : Modifiers := Modifiers.publicBit
  /-- Where it comes from. -/
  origin : Origin := .source

/-! ## Declarations -/

/-- What a declaration declares. -/
inductive DeclKind where
  | classType
  | interfaceType
  | enumType
  | annotationType
  | recordType
deriving DecidableEq, Repr

/-- Interfaces proper and annotation types. -/
def DeclKind.isInterface : DeclKind → Bool
  | interfaceType | annotationType => true
  | _ => false

/-- The word for a kind of declaration in messages. -/
def DeclKind.describe : DeclKind → String
  | classType => "class"
  | interfaceType => "interface"
  | enumType => "enum"
  | annotationType => "annotation"
  | recordType => "record"

/-- A type declaration. -/
structure Declaration where
  /-- The simple name. -/
  name : String
  /-- The qualified name; anonymous and local classes have none. -/
  qualifiedName : Option String
  /-- What is declared. -/
  kind : DeclKind
  /-- The file it stands in. -/
  file : FileId
  /-- The enclosing declaration of a nested type. -/
  parent : Option DeclId := none
  /-- The annotations written on it. -/
  annotations : List AnnotationUse := []
  /-- The qualified names it extends; annotation types may list several. -/
  extended : List String := []
  /-- The qualified names it implements. -/
  implemented : List String := []
  fields : List Field := []
  methods : List Method := []
  constructors : List Constructor := []
  /-- The range of the whole declaration. -/
  span : Option Span := none
  /-- The range of its name. -/
  nameSpan : Option Span := none

namespace Declaration

/-- The first annotation that goes by a given name. -/
def annotationUse? (d : Declaration) (name : String) : Option AnnotationUse :=
  d.annotations.find? (·.goesBy name)

/-- Whether an annotation goes by a given name. -/
def isAnnotatedWith (d : Declaration) (name : String) : Bool :=
  (d.annotationUse? name).isSome

/-- An annotation goes by its qualified name. -/
theorem isAnnotatedWith_of_mem {d : Declaration} {mark : AnnotationUse} (h : mark ∈ d.annotations) :
    d.isAnnotatedWith mark.name = true := by
  rw [isAnnotatedWith, annotationUse?, List.find?_isSome]
  exact ⟨mark, h, mark.goesBy_self⟩

def isAnnotationType (d : Declaration) : Bool := d.kind == .annotationType

/-- The first field with a given name. -/
def field? (d : Declaration) (name : String) : Option Field := d.fields.find? (·.name == name)

/-- The methods with a given name. -/
def methodsNamed (d : Declaration) (name : String) : List Method :=
  d.methods.filter (·.name == name)

/-- The names of the supertypes: those extended, then those implemented. -/
def supertypes (d : Declaration) : List String := d.extended ++ d.implemented

/-- The part of the qualified name before the simple name; for a nested type it ends with the
enclosing type. -/
def package? (d : Declaration) : Option String := d.qualifiedName.bind Text.packageName?

/-- The range to point at: the name, or else the whole declaration. -/
def focus (d : Declaration) : Option Span := d.nameSpan.or d.span

end Declaration

/-! ## Annotation sites -/

/-- The element of a declaration that an annotation stands at. -/
inductive SiteTarget where
  | declaration
  | field (index : Nat)
  | method (index : Nat)
deriving DecidableEq, Repr

/-- The address of one annotation inside a declaration. -/
structure AnnotationSite where
  /-- The declaration. -/
  decl : DeclId
  /-- The element of it. -/
  target : SiteTarget
  /-- The position among the element's annotations. -/
  index : Nat
deriving DecidableEq, Repr

namespace AnnotationSite

/-- The annotations of an element of a declaration, if the element exists. -/
def annotationsAt? (d : Declaration) : SiteTarget → Option (List AnnotationUse)
  | .declaration => some d.annotations
  | .field i => d.fields[i]?.map (·.annotations)
  | .method i => d.methods[i]?.map (·.annotations)

/-- The annotation at a site. -/
def resolve? (site : AnnotationSite) (d : Declaration) : Option AnnotationUse :=
  (annotationsAt? d site.target).bind fun marks => marks[site.index]?

/-- The sites of `count` annotations on one element. -/
def onElement (id : DeclId) (target : SiteTarget) (count : Nat) : List AnnotationSite :=
  (List.range count).map fun index => ⟨id, target, index⟩

/-- Every site of a declaration: its own annotations, then those of each field, then those of each
method. -/
def all (id : DeclId) (d : Declaration) : List AnnotationSite :=
  onElement id .declaration d.annotations.length
    ++ (d.fields.mapIdx fun i f => onElement id (.field i) f.annotations.length).flatten
    ++ (d.methods.mapIdx fun i m => onElement id (.method i) m.annotations.length).flatten

end AnnotationSite

end PrototypeLens
