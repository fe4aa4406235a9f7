import PrototypeLens.Lookup.Template

/-!
# Prototypes and generated declarations

Registering a declaration: its prototype is given by the first of its annotations that is a
template, and its origin by the marker that the generator leaves on what it generates. The two go
together, since registering a generated declaration registers its prototype.
-/

namespace PrototypeLens

namespace Lookup

variable (scope : Scope)

/-! ## Generated markers -/

/-- The text that the marker on a generated declaration gives first. -/
def markerText? (decl : Declaration) (marker : String) : Option String :=
  ((decl.annotations.find? (·.name == marker)).bind (·.attr? "value")).bind fun value =>
    value.elements.findSome? AttrValue.text?

/-- The name of the prototype that a declaration was generated from: what the first marker tells
that tells anything. -/
def originOf? (markers : List String) (decl : Declaration) : Option String :=
  markers.findSome? (markerText? decl)

/-- What the registry tells about the origin of a name: `some` if it has an answer. -/
def knownOrigin? (r : Registry) (name : String) : Option (Option String) :=
  match r.generated.get? name with
  | some origin => some (some origin)
  | none => if r.nonGenerated.contains name then some none else none

/-- The origin of a declaration. The prototype that it names is registered by `register`. -/
def checkGenerated (register : DeclId → Lookup (Option Descriptor)) (name : String)
    (decl : Declaration) : Lookup (Option String) := do
  match ← ask (knownOrigin? · name) with
  | some origin => pure origin
  | none =>
    -- Registering the prototype may invalidate; the answer is then not published.
    let epoch ← ask (·.epoch)
    match originOf? scope.settings.generatedMarkers decl with
    | some prototype =>
      match ← query (scope.host.find prototype) with
      | some id => discard (register id)
      | none => pure ()
      record (·.publishGenerated epoch name decl.file prototype)
      pure (some prototype)
    | none =>
      record (·.publishNonGenerated epoch name decl.file)
      pure none

/-! ## Registering declarations -/

/-- The prototype that the annotations of a declaration give it: the defaults of the first one that
is a template, changed by its attributes. -/
def prototypeOfUses : List AnnotationUse → Lookup (Option Descriptor)
  | [] => pure none
  | mark :: marks => do
    match ← template? scope mark.name with
    | some defaults =>
      return some (← ofExcept (defaults.takeUsage (resolveEnricher scope) mark))
    | none => prototypeOfUses marks

/-- Registers a declaration, where `register` registers others. -/
def registerStep (register : DeclId → Lookup (Option Descriptor)) (name : String)
    (decl : Declaration) : Lookup (Option Descriptor) := do
  -- A template that is found on the way invalidates, and the prototype is then not published.
  let epoch ← ask (·.epoch)
  let prototype ← prototypeOfUses scope decl.annotations
  -- Published before the origin is looked at, and not withdrawn if that fails.
  record (·.publishClass epoch name decl.file prototype)
  discard (checkGenerated scope register name decl)
  pure prototype

/-- Registers a declaration through at most `limit` nested registrations. A declaration that is
being registered has no prototype yet. -/
def registerWithin : Nat → DeclId → Lookup (Option Descriptor)
  | 0, _ => throw .tooDeep
  | limit + 1, id => do
    let decl ← query (scope.host.declaration id)
    match decl.qualifiedName with
    | none => pure none
    | some name =>
      match ← ask (·.classes.get? name) with
      | some prototype => pure prototype
      | none =>
        if (← askGuards (·.registering)).contains name then pure none
        else
          SessionM.within (fun g => { g with registering := g.registering.add name })
            (fun g => { g with registering := g.registering.remove name })
            (SessionM.nested (registerStep scope (registerWithin limit) name decl))

/-- Registers a declaration and tells its prototype. -/
def registerClass (id : DeclId) : Lookup (Option Descriptor) :=
  registerWithin scope (scope.host.names.length + 2) id

/-- The prototype of the declaration with a qualified name. -/
def prototype? (name : String) : Lookup (Option Descriptor) := do
  match ← ask (·.classes.get? name) with
  | some prototype => pure prototype
  | none =>
    match ← query (scope.host.find name) with
    | some id => registerClass scope id
    | none => pure none

/-! ## Origins -/

/-- The name of the prototype that the declaration with a qualified name was generated from. A
declaration that is registered has its origin in the registry, if it has one. -/
def origin? (name : String) : Lookup (Option String) := do
  match ← ask (knownOrigin? · name) with
  | some origin => pure origin
  | none =>
    -- A registered declaration was looked at when it was registered.
    if ← ask (·.classes.contains name) then pure none
    else match ← declarationOf? scope name with
      | some decl => checkGenerated scope (registerClass scope) name decl
      | none => pure none

/-- The origin of a declaration or of a declaration around it, through at most `limit` of them. -/
def declOriginWithin : Nat → DeclId → Lookup (Option String)
  | 0, _ => throw .tooDeep
  | limit + 1, id => do
    let decl ← query (scope.host.declaration id)
    -- What stands around a declaration decides before its own name does.
    let outer ← match decl.parent with
      | some parent => declOriginWithin limit parent
      | none => pure none
    match outer, decl.qualifiedName with
    | some origin, _ => pure (some origin)
    | none, some name => origin? scope name
    | none, none => pure none

/-- The origin of a declaration: that of the outermost declaration around it that has one, or its
own. -/
def declOrigin? (id : DeclId) : Lookup (Option String) :=
  declOriginWithin scope (scope.host.ids.length + 1) id

/-- The declaration of a prototype, which is registered. -/
def originDeclaration? (origin : Option String) : Lookup (Option DeclId) :=
  match origin with
  | none => pure none
  | some prototype => do
    match ← query (scope.host.find prototype) with
    | none => pure none
    | some id =>
      discard (registerClass scope id)
      pure (some id)

end Lookup

end PrototypeLens
