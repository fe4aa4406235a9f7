import PrototypeLens.Augment.Accessor
import PrototypeLens.Augment.VirtualMember
import PrototypeLens.Descriptor.Basic

/-!
# Members that enrichers add

What the enrichers of a prototype add to its declaration, unless it is there already.
-/

namespace PrototypeLens

/-- The category of members that is asked for; constructors are methods. -/
inductive MemberKind where
  | field
  | method
deriving DecidableEq, Repr

/-- The category that a kind of added member belongs to. -/
def Augment.memberKind (adds : Augment) : MemberKind := if adds.addsFields then .field else .method

/-- The modifiers that an enricher may give a member. -/
def enricherModifiers : Modifiers :=
  .publicBit ||| .privateBit ||| .protectedBit ||| .staticBit ||| .finalBit

/-- Whether an enricher names the member it adds, and its type. -/
def Enricher.isNamed (e : Enricher) : Bool :=
  !Text.isBlankText e.name && !Text.isBlankText e.typeText

/-- Whether two parameter lists look the same in an editor. -/
def sameParameters (ps qs : List Parameter) : Bool :=
  ps.map (·.type.presentableText) == qs.map (·.type.presentableText)

/-! ## One enricher -/

/-- The field that an enricher adds. -/
def addedField (decl : Declaration) (e : Enricher) : List VirtualMember :=
  if !e.isNamed || (decl.field? e.name).isSome then []
  else [.field
    { name := e.name, type := e.memberType, modifiers := e.modifiers &&& enricherModifiers }]

/-- The method that an enricher adds. -/
def addedMethod (decl : Declaration) (e : Enricher) : List VirtualMember :=
  let params := e.parametersFor decl
  -- By what an editor shows: types of one simple name count as the same.
  if !e.isNamed || (decl.methodsNamed e.name).any (sameParameters ·.params params) then []
  else [.method
    { name := e.name
      returnType := e.memberType
      params
      modifiers := e.modifiers &&& enricherModifiers }]

/-- The constructor that an enricher adds. -/
def addedConstructor (decl : Declaration) (e : Enricher) : List VirtualMember :=
  let params := e.parametersFor decl
  if decl.constructors.any (sameParameters ·.params params) then []
  else [.constructor
    { name := decl.name, params, modifiers := e.modifiers &&& enricherModifiers }]

/-- The getter of a field, unless there is a method without parameters of that name. -/
def addedGetter (decl : Declaration) (f : Field) : List VirtualMember :=
  let name := getterName f.name f.type
  if (decl.methodsNamed name).any (·.params.isEmpty) then []
  else [.method { name, returnType := f.type, params := [], modifiers := Modifiers.publicBit }]

/-- The setter of a field that is not static, unless there is a method of that name with one
parameter of the field's type. -/
def addedSetter (decl : Declaration) (f : Field) : List VirtualMember :=
  let name := setterName f.name
  -- By the full name of the type, unlike the parameters of an enricher.
  let taken := (decl.methodsNamed name).any fun m =>
    paramTypes m.params == [f.type.canonicalText]
  if f.isStatic || taken then []
  else [.method
    { name
      returnType := .void
      params := [⟨f.name, f.type⟩]
      modifiers := Modifiers.publicBit }]

/-- The members that an enricher adds to a declaration. -/
def addedMembers (decl : Declaration) (e : Enricher) : Augment → List VirtualMember
  | .field => addedField decl e
  | .method => addedMethod decl e
  | .constructor => addedConstructor decl e
  | .getter => (decl.fields.map (addedGetter decl)).flatten
  | .setter => (decl.fields.map (addedSetter decl)).flatten

/-! ## All enrichers -/

/-- The members of a category that an enricher adds to a declaration. -/
def addedOfKind (decl : Declaration) (kind : MemberKind) (e : Enricher) : List VirtualMember :=
  match e.adds with
  | some adds => if adds.memberKind = kind then addedMembers decl e adds else []
  | none => []

/-- The members of a category that the enrichers of a prototype add to its declaration. -/
def enrichedMembers (d : Descriptor) (decl : Declaration) (kind : MemberKind) :
    List VirtualMember :=
  (d.enrichers.map (addedOfKind decl kind)).flatten

end PrototypeLens
