import PrototypeLens.Augment.Enriched
import PrototypeLens.Augment.Inherited
import PrototypeLens.Lookup.Request

/-!
# Augmentation

The members that the generator will add to a declaration. No member is added that the declaration
has already, and no two members that are added have the same signature.
-/

namespace PrototypeLens

/-! ## Features -/

/-- The optional features. -/
structure Features where
  /-- Whether annotation types inherit the elements of those they extend. -/
  annotationInheritance : Bool := true
  /-- Whether methods without arguments are shown as fields. -/
  bracketlessMethods : Bool := true
  /-- Whether the calls of fluent chains are highlighted. -/
  fluentHighlighting : Bool := true
  /-- Whether direct uses of prototypes are reported. -/
  prototypeUsageInspection : Bool := true
deriving DecidableEq, Repr

/-! ## Synthesis -/

namespace Request

variable (scope : Scope)

/-- The members that a walk over the host's types finds while the declaration is marked, unless
members are already being added to it; none after a failure other than cancellation. -/
def guarded (id : DeclId) (members : Except QueryError (List VirtualMember)) :
    Request (List VirtualMember) := do
  if ← isAugmenting id then pure []
  else SessionM.within (·.mark id) (·.unmark id) (contain [] (Lookup.query members))

/-- The elements that an annotation type inherits. -/
def inheritedMembers (features : Features) (id : DeclId) (decl : Declaration)
    (kind : MemberKind) : Request (List VirtualMember) :=
  if kind = .method && features.annotationInheritance && !decl.extended.isEmpty then
    guarded id (inheritedElements scope.host decl)
  else pure []

/-- The fields that stand for methods, on prototypes and generated declarations. -/
def bracketlessMembers (features : Features) (id : DeclId) (decl : Declaration)
    (kind : MemberKind) : Request (List VirtualMember) := do
  -- Asked for whatever the category is; that registers the declaration.
  let relevant ← if ← isPrototypeDecl scope id then pure true else isGeneratedDecl scope id
  if relevant && kind = .field && features.bracketlessMethods then
    guarded id (bracketlessFields scope.host decl)
  else pure []

/-- The members that the enrichers of a prototype add. -/
def membersOfEnrichers (id : DeclId) (decl : Declaration) (kind : MemberKind) :
    Request (List VirtualMember) := do
  match ← prototypeDataOf scope id with
  | some descriptor => pure (enrichedMembers descriptor decl kind)
  | none => pure []

/-- The members of a category that the generator will add to a declaration. Nothing is added while
a registration is under way, which would see a registry that is half built. -/
def augment (features : Features) (id : DeclId) (kind : MemberKind) :
    Request (List VirtualMember) := do
  if ← isRegistering then pure []
  else
    match ← contain none (some <$> Lookup.query (scope.host.declaration id)) with
    | none => pure []
    | some decl =>
      let members ← if decl.isAnnotationType then inheritedMembers scope features id decl kind
        else do
          let bracketless ← bracketlessMembers scope features id decl kind
          let enriched ← membersOfEnrichers scope id decl kind
          pure (bracketless ++ enriched)
      -- A field for a method and one of an enricher may coincide; the first of each signature
      -- stays.
      pure (firstByKey VirtualMember.signature [] members)

end Request

end PrototypeLens
