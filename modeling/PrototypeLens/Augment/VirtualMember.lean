import PrototypeLens.Model.Declaration

/-!
# Virtual members

Members that do not exist in the source yet but will once the generator has run. Merged into a
declaration they are marked as augmented.
-/

namespace PrototypeLens

/-! ## Members -/

/-- A field that the generator will add. -/
structure VirtualField where
  name : String
  type : JavaType
  modifiers : Modifiers

/-- A method that the generator will add. -/
structure VirtualMethod where
  name : String
  returnType : JavaType
  params : List Parameter
  modifiers : Modifiers
  /-- The default of an element that is taken over from an annotation type. -/
  defaultValue : Option AttrValue := none

/-- A constructor that the generator will add. -/
structure VirtualConstructor where
  /-- The simple name of the declaring type. -/
  name : String
  params : List Parameter
  modifiers : Modifiers

/-- A member that the generator will add. -/
inductive VirtualMember where
  | field (f : VirtualField)
  | method (m : VirtualMethod)
  | constructor (c : VirtualConstructor)

/-! ## Signatures -/

/-- What tells the members of a declaration apart. Parameter types count by their canonical
text. -/
inductive Signature where
  | field (name : String)
  | method (name : String) (paramTypes : List String)
  | constructor (paramTypes : List String)
deriving DecidableEq, Repr

def paramTypes (params : List Parameter) : List String := params.map (·.type.canonicalText)

def VirtualMember.signature : VirtualMember → Signature
  | field f => .field f.name
  | method m => .method m.name (paramTypes m.params)
  | constructor c => .constructor (paramTypes c.params)

/-- The signatures of the members that a declaration has. -/
def Declaration.signatures (d : Declaration) : List Signature :=
  d.fields.map (fun f => .field f.name)
    ++ d.methods.map (fun m => .method m.name (paramTypes m.params))
    ++ d.constructors.map (fun c => .constructor (paramTypes c.params))

/-! ## Merging -/

/-- A virtual field as a field. -/
def VirtualField.toField (f : VirtualField) : Field where
  name := f.name
  type := f.type
  modifiers := f.modifiers
  origin := .augmented f.name

/-- A virtual method as a method. -/
def VirtualMethod.toMethod (m : VirtualMethod) : Method where
  name := m.name
  returnType := m.returnType
  params := m.params
  modifiers := m.modifiers
  defaultValue := m.defaultValue
  origin := .augmented m.name

/-- A virtual constructor as a constructor. -/
def VirtualConstructor.toConstructor (c : VirtualConstructor) : Constructor where
  params := c.params
  modifiers := c.modifiers
  origin := .augmented c.name

/-- A declaration with one more member. -/
def Declaration.mergeMember (d : Declaration) : VirtualMember → Declaration
  -- Added at the end, so that the positions of the members before stay.
  | .field f => { d with fields := d.fields ++ [f.toField] }
  | .method m => { d with methods := d.methods ++ [m.toMethod] }
  | .constructor c => { d with constructors := d.constructors ++ [c.toConstructor] }

/-- A declaration with virtual members added to it, in order. -/
def Declaration.merge (d : Declaration) (members : List VirtualMember) : Declaration :=
  members.foldl mergeMember d

end PrototypeLens
