import PrototypeLens.Editor.Basic

/-!
# Usages

Implicit usages and the search for usages across the border between prototypes and what is
generated from them.
-/

namespace PrototypeLens

/-! ## Elements -/

/-- What a request is about. A member is given by its position in its declaration. -/
inductive Element where
  | declaration (id : DeclId)
  | field (decl : DeclId) (index : Nat)
  | method (decl : DeclId) (index : Nat)
deriving DecidableEq, Repr

/-- The declaration that an element is or belongs to. -/
def Element.owner : Element → DeclId
  | declaration id => id
  | field decl _ => decl
  | method decl _ => decl

/-! ## Methods of a type -/

/-- A method together with the place it is declared at. -/
structure PlacedMethod where
  /-- The declaring type. -/
  owner : DeclId
  /-- The position among its methods. -/
  index : Nat
  method : Method

def PlacedMethod.element (m : PlacedMethod) : Element := .method m.owner m.index

/-- The methods of a declaration with their places. -/
def placedMethods (id : DeclId) (decl : Declaration) : List PlacedMethod :=
  decl.methods.mapIdx fun index method => ⟨id, index, method⟩

/-- The declarations with their declared supertypes. -/
def Host.hierarchy (host : Host) : Graph QueryError DeclId (List PlacedMethod) where
  expand id := do
    let decl ← host.declaration id
    let parents ← decl.supertypes.mapM host.find
    -- Supertypes that do not resolve are left out.
    return some (placedMethods id decl, parents.filterMap fun parent => parent)
  nodes := host.ids
  mem_nodes {id a} h := by
    cases hd : host.declaration id with
    | error e => simp [hd, bind, Except.bind] at h
    | ok decl => exact host.mem_ids hd

/-- The methods of a declaration and of its supertypes, nearest first. -/
def allMethods (host : Host) (id : DeclId) : Except QueryError (List PlacedMethod) :=
  (host.hierarchy.walk [id]).map fun journey => journey.found.flatten

/-! ## Targets of a search -/

namespace Inspection

variable (scope : Scope)

/-- The declarations that usages of a declaration are searched through: the type generated from it,
and before that the prototype if it is generated itself. -/
def declarationTargets (id : DeclId) : Inspection (List Element) := do
  let decl ← query (scope.host.declaration id)
  match decl.qualifiedName with
  | none => pure []
  | some name =>
    let generatedName ← ask (Request.generatedNameOf scope name)
    match ← ask (Request.findDeclaration scope generatedName) with
    | none => pure []
    | some generated =>
      let prototype ← if ← ask (Request.isGeneratedDecl scope id)
        then ask (Request.prototypeClass scope generatedName) else pure none
      pure ((prototype.toList ++ [generated]).map .declaration)

/-- Whether a generated method comes from a method of the prototype: as itself or as its getter. -/
def comesFrom (method generated : Method) : Bool :=
  generated.name == method.name || generated.name == getterName method.name generated.returnType

/-- The fluent setters for a method: those of the modifier that the first method `with` of the
generated type returns. -/
def modifierTargets (method : Method) (methods : List PlacedMethod) :
    Inspection (List Element) := do
  match methods.find? fun m => m.method.name == "with" with
  | none => pure []
  | some withMethod =>
    let modifierName := withMethod.method.returnType.canonicalText
    match ← ask (Request.findDeclaration scope modifierName) with
    | none => pure []
    | some modifier =>
      let setters ← query (allMethods scope.host modifier)
      pure ((setters.filter fun m => m.method.name == method.name).map (·.element))

/-- The methods of the generated type that usages of a prototype's method are searched through. -/
def generatedTargets (name : String) (method : Method) : Inspection (List Element) := do
  let generatedName ← ask (Request.generatedNameOf scope name)
  match ← ask (Request.findDeclaration scope generatedName) with
  | none => pure []
  | some generated =>
    let methods ← query (allMethods scope.host generated)
    let accessors := (methods.filter fun m => comesFrom method m.method).map (·.element)
    return accessors ++ (← modifierTargets scope method methods)

/-- The property that a generated method stands for. -/
def propertyOf (name : String) : String :=
  let isAccessor := (Text.dropStart? "get".toList name.toList).isSome ||
    (Text.dropStart? "is".toList name.toList).isSome
  if isAccessor then (propertyName? name).getD name else name

/-- The methods of the prototype that usages of a generated method are searched through. -/
def prototypeTargets (id : DeclId) (method : Method) : Inspection (List Element) := do
  match ← ask (Request.prototypeClassOf scope id) with
  | none => pure []
  | some prototype =>
    let methods ← query (allMethods scope.host prototype)
    pure ((methods.filter fun m => m.method.name == propertyOf method.name).map (·.element))

/-- The methods that usages of a method are searched through. -/
def methodTargets (id : DeclId) (index : Nat) : Inspection (List Element) := do
  let decl ← query (scope.host.declaration id)
  match decl.qualifiedName, decl.methods[index]? with
  | some name, some method =>
    if ← ask (Request.isPrototypeDecl scope id) then generatedTargets scope name method
    else prototypeTargets scope id method
  | _, _ => pure []

end Inspection

/-! ## Requests -/

namespace Editor

variable (scope : Scope)

/-- Whether the generator uses an element: prototypes and their members are used by it. -/
def isImplicitUsage (element : Element) : EditorM Bool := do
  if !(← isGeneratorUsed scope.host) then pure false
  else run (Request.isPrototypeDecl scope element.owner)

/-- Whether a declaration is a prototype or generated. -/
def isLinked (id : DeclId) : Request Bool := do
  if ← Request.isPrototypeDecl scope id then pure true
  else Request.isGeneratedDecl scope id

/-- Whether the search for usages is offered: for prototypes, generated types, and the methods of
interfaces that are either. -/
def canFindUsages (element : Element) : EditorM Bool :=
  match element with
  | .field _ _ => pure false
  | .declaration id => run (isLinked scope id)
  | .method id _ =>
    match scope.host.declaration id with
    | .error .cancelled => throw {}
    | .error _ => pure false
    | .ok decl => if decl.kind.isInterface then run (isLinked scope id) else pure false

/-- The elements whose usages stand for those of an element. -/
def primaryElements (element : Element) : EditorM (List Element) := do
  -- Without the generator on the class path nothing is linked.
  if !(← isGeneratorUsed scope.host) then pure []
  else match element with
    | .declaration id => inspect [] (Inspection.declarationTargets scope id)
    | .method id index => inspect [] (Inspection.methodTargets scope id index)
    | .field _ _ => pure []

end Editor

end PrototypeLens
