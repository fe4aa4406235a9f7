import PrototypeLens.Descriptor.Naming
import PrototypeLens.Lookup.Validation

/-!
# Requests

The lookups as a host asks for them. A cancelled request fails; after any other failure the answer
is that nothing is known.
-/

namespace PrototypeLens

/-- A request; the only way in which it fails is that the host cancels it. -/
abbrev Request (α : Type) := SessionM Cancelled α

namespace Request

/-! ## Containment -/

/-- What a contained failure leaves of a result: cancellation passes, and any other failure is
answered by `nothing`. -/
def contained {α : Type} (nothing : α) : Except LookupError α → Except Cancelled α
  | .ok a => .ok a
  | .error e => if e.isCancelled then .error {} else .ok nothing

/-- A lookup as a request. -/
def contain {α : Type} (nothing : α) (lookup : Lookup α) : Request α := fun s =>
  let (result, s) := lookup s
  (contained nothing result, s)

variable (scope : Scope)

/-! ## Declarations and prototypes -/

/-- The declaration with a qualified name. -/
def findDeclaration (name : String) : Request (Option DeclId) :=
  contain none (Lookup.query (scope.host.find name))

def registerDeclaration (id : DeclId) : Request Unit :=
  contain () (discard (Lookup.registerClass scope id))

/-- The prototype descriptor of the declaration with a qualified name. -/
def prototypeData (name : String) : Request (Option Descriptor) :=
  contain none (Lookup.prototype? scope name)

/-- The prototype descriptor of a declaration. -/
def prototypeDataOf (id : DeclId) : Request (Option Descriptor) :=
  contain none (Lookup.registerClass scope id)

/-- Whether the declaration with a qualified name is a prototype. -/
def isPrototype (name : String) : Request Bool := return (← prototypeData scope name).isSome

/-- Whether a declaration is a prototype. -/
def isPrototypeDecl (id : DeclId) : Request Bool := return (← prototypeDataOf scope id).isSome

/-- The defaults of an annotation that is a template. -/
def templateData (name : String) : Request (Option Descriptor) :=
  contain none (Lookup.template? scope name)

/-! ## Generated declarations -/

/-- The prototype that the declaration with a qualified name was generated from, by name. -/
def prototypeOf (name : String) : Request (Option String) :=
  contain none (Lookup.origin? scope name)

/-- Whether the declaration with a qualified name is generated. -/
def isGenerated (name : String) : Request Bool :=
  contain false (return (← Lookup.origin? scope name).isSome)

/-- Whether a declaration, or one around it, is generated. -/
def isGeneratedDecl (id : DeclId) : Request Bool :=
  contain false (return (← Lookup.declOrigin? scope id).isSome)

/-- The declaration of the prototype that a name was generated from. -/
def prototypeClass (name : String) : Request (Option DeclId) :=
  contain none (do Lookup.originDeclaration? scope (← Lookup.origin? scope name))

/-- The declaration of the prototype that a declaration was generated from. -/
def prototypeClassOf (id : DeclId) : Request (Option DeclId) :=
  contain none (do Lookup.originDeclaration? scope (← Lookup.declOrigin? scope id))

/-! ## Names -/

/-- The name of the type generated from a prototype. After a contained failure the conventions
apply without a descriptor. -/
def generatedNameFor (name : String) (nested : Bool) : Request String :=
  contain (generatedName none name nested)
    (return generatedName (← Lookup.prototype? scope name) name nested)

/-- The name of the type generated from a prototype, which counts as nested if its declaration has
one around it. -/
def generatedNameOf (name : String) : Request String := do
  let entry ← contain none (Lookup.query (scope.host.findData name))
  generatedNameFor scope name (entry.any fun (_, decl) => decl.parent.isSome)

/-! ## Validation -/

/-- What an annotation validates, if it is a validation annotation. -/
def validation (name : String) : Request (Option ValidationDescriptor) :=
  contain none do
    let descriptor ← Lookup.validationDescriptor scope name
    return if descriptor.isValidation then some descriptor else none

/-- The findings about the annotation at a site. -/
def validationFindings (site : AnnotationSite) : Request (List Diagnostic) :=
  contain [] (Lookup.siteFindings scope site)

/-! ## Guards -/

/-- Whether a registration is under way. -/
def isRegistering : Request Bool := return 0 < (← get).guards.depth

/-- Marks a declaration as being augmented; tells whether it was not marked before. -/
def beginAugmenting (id : DeclId) : Request Bool := fun s =>
  if s.guards.augmenting.contains id then (.ok false, s)
  else (.ok true, { s with guards := s.guards.mark id })

/-- Takes the mark off a declaration. -/
def endAugmenting (id : DeclId) : Request Unit :=
  modify fun s => { s with guards := s.guards.unmark id }

/-- Whether a declaration is being augmented. -/
def isAugmenting (id : DeclId) : Request Bool := return (← get).guards.augmenting.contains id

end Request

end PrototypeLens
