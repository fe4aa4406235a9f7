import Mathlib.Logic.Relation
import PrototypeLens.Lookup.Validation
import PrototypeLens.Proofs.Template.Meaning

/-!
# What validation annotations mean

What an annotation validates, read off the declarations of a host alone: a root validates of its own
accord, and any other annotation type does what the first validation annotation on it does. An
annotation that leads back to itself is passed over, wherever that is noticed; unless validation
annotations stand on cycles, that makes no difference.

## Layers

- `FirstValidation`: which of some annotations decides, as a relation with one rule for each way to
  go on.
- `Scope.takenTargets`, `Scope.facetsFrom`: what is taken over from the annotation that decides.
- `Scope.Validates`: what an annotation validates; `Host.Validating` is the set of those that do.

## Main results

- `FirstValidation.unique`: one annotation decides, unless one that validates is circular.
- `Validates.induct`: the induction that both relations together allow.
- `Validates.validating`, `Validates.unique`: what validates is in the set, and validates one thing.
-/

namespace PrototypeLens

open Relation (TransGen)

/-! ## The annotation that decides -/

/-- The first of some annotations that validates, with what it validates, where `validated` tells
what each of them does and `leads` what has to be passed over as circular. -/
inductive FirstValidation (leads : String → String → Prop)
    (validated : String → ValidationDescriptor → Prop) :
    List AnnotationUse → Option (AnnotationUse × ValidationDescriptor) → Prop where
  | nil : FirstValidation leads validated [] none
  | circular {mark : AnnotationUse} {marks : List AnnotationUse}
      {found : Option (AnnotationUse × ValidationDescriptor)} :
      leads mark.name mark.name → FirstValidation leads validated marks found →
      FirstValidation leads validated (mark :: marks) found
  | passed {mark : AnnotationUse} {marks : List AnnotationUse} {parent : ValidationDescriptor}
      {found : Option (AnnotationUse × ValidationDescriptor)} :
      validated mark.name parent → parent.isValidation = false →
      FirstValidation leads validated marks found →
      FirstValidation leads validated (mark :: marks) found
  | taken {mark : AnnotationUse} {marks : List AnnotationUse} {parent : ValidationDescriptor} :
      validated mark.name parent → parent.isValidation = true →
      FirstValidation leads validated (mark :: marks) (some (mark, parent))

namespace FirstValidation

variable {leads : String → String → Prop}
  {validated validated' : String → ValidationDescriptor → Prop}
  {marks : List AnnotationUse} {found found' : Option (AnnotationUse × ValidationDescriptor)}

/-- What decides is one of the annotations, and validates. -/
theorem of_some {mark : AnnotationUse} {parent : ValidationDescriptor}
    (h : FirstValidation leads validated marks (some (mark, parent))) :
    mark ∈ marks ∧ validated mark.name parent ∧ parent.isValidation = true := by
  -- By induction along the annotations. The result is generalized, since the rules do not fix its
  -- form.
  generalize hfound : some (mark, parent) = found at h
  induction h with
  | nil => cases hfound
  | circular _ _ ih => exact (ih hfound).imp_left (List.mem_cons_of_mem _)
  | passed _ _ _ ih => exact (ih hfound).imp_left (List.mem_cons_of_mem _)
  | taken hparent hvalid =>
    cases hfound
    exact ⟨List.mem_cons_self, hparent, hvalid⟩

/-- What decides is determined by what each of the annotations validates, as long as none that
validates is circular. -/
theorem unique (hcircular : ∀ mark parent, validated' mark parent →
      parent.isValidation = true → ¬ leads mark mark)
    (hvalidated : ∀ mark parent, validated mark parent → validated' mark parent ∧
      ∀ parent', validated' mark parent' → parent = parent')
    (h : FirstValidation leads validated marks found)
    (h' : FirstValidation leads validated' marks found') : found = found' := by
  -- An annotation that is passed over on one side can decide on the other only if it is circular.
  induction h with
  | nil =>
    cases h'
    rfl
  | circular hlead _ ih =>
    cases h' with
    | circular _ hrest => exact ih hrest
    | passed _ _ hrest => exact ih hrest
    | taken hparent' hvalid' => exact absurd hlead (hcircular _ _ hparent' hvalid')
  | passed hparent hvalid _ ih =>
    cases h' with
    | circular _ hrest => exact ih hrest
    | passed _ _ hrest => exact ih hrest
    | taken hparent' hvalid' =>
      cases (hvalidated _ _ hparent).2 _ hparent'
      cases hvalid.symm.trans hvalid'
  | taken hparent hvalid =>
    obtain ⟨hkept, hunique⟩ := hvalidated _ _ hparent
    cases h' with
    | circular hlead _ => exact absurd hlead (hcircular _ _ hkept hvalid)
    | passed hparent' hvalid' _ =>
      cases hunique _ hparent'
      cases hvalid.symm.trans hvalid'
    | taken hparent' _ =>
      cases hunique _ hparent'
      rfl

end FirstValidation

/-! ## Descriptors -/

namespace Scope

/-- The targets that an annotation type takes over from a validation annotation on it. -/
def takenTargets (scope : Scope) (declaresTargets : Bool) (mark : AnnotationUse)
    (parent : ValidationDescriptor) : Except QueryError (Option (List String)) :=
  if declaresTargets then .ok none
  else match mark.attr? "targets" with
    | some value => (Lookup.targetsOf scope value).map some
    | none => .ok parent.targets

/-- What an annotation type validates by the annotation that decides. -/
def facetsFrom (scope : Scope) (name : String) (declaresTargets : Bool) :
    Option (AnnotationUse × ValidationDescriptor) → Except QueryError ValidationDescriptor
  | none => .ok {}
  | some (mark, parent) => (scope.takenTargets declaresTargets mark parent).map fun targets =>
      { parent with declaration := some name, targets }

end Scope

/-- Whether a declaration leaves the targets to the usages of its annotation type. -/
def Declaration.declaresTargets (decl : Declaration) : Bool :=
  !(decl.methodsNamed "targets").isEmpty

/-- What an annotation validates. -/
inductive Scope.Validates (scope : Scope) : String → ValidationDescriptor → Prop where
  | root {name : String} {d : ValidationDescriptor} :
      ValidationDescriptor.root? name = some d → Validates scope name d
  /-- Nothing, without an annotation type of the name. -/
  | plain {name : String} {decl : Option Declaration} :
      ValidationDescriptor.root? name = none → scope.host.Finds name decl →
      decl.filter (·.isAnnotationType) = none → Validates scope name {}
  | uses {name : String} {decl : Declaration} {d : ValidationDescriptor}
      {found : Option (AnnotationUse × ValidationDescriptor)} :
      ValidationDescriptor.root? name = none → scope.host.Declares name decl →
      decl.isAnnotationType = true →
      FirstValidation (TransGen scope.host.Carries) (Validates scope) decl.annotations found →
      scope.facetsFrom name decl.declaresTargets found = .ok d → Validates scope name d

/-- The validation annotations: the least set that contains the roots and every annotation type
whose declaration carries a member. -/
inductive Host.Validating (host : Host) : String → Prop where
  | root {name : String} {d : ValidationDescriptor} :
      ValidationDescriptor.root? name = some d → Validating host name
  | carried {name : String} {decl : Declaration} {mark : AnnotationUse} :
      host.Declares name decl → decl.isAnnotationType = true → mark ∈ decl.annotations →
      Validating host mark.name → Validating host name

namespace Scope

variable {scope : Scope} {name : String} {d d' : ValidationDescriptor}

namespace Validates

/-- Induction over what annotations validate, with the property for the annotations on a type. -/
theorem induct {motive : String → ValidationDescriptor → Prop}
    (root : ∀ {name d}, ValidationDescriptor.root? name = some d → motive name d)
    (plain : ∀ {name decl}, ValidationDescriptor.root? name = none → scope.host.Finds name decl →
      decl.filter (·.isAnnotationType) = none → motive name {})
    (uses : ∀ {name decl d found}, ValidationDescriptor.root? name = none →
      scope.host.Declares name decl → decl.isAnnotationType = true →
      FirstValidation (TransGen scope.host.Carries)
        (fun name d => scope.Validates name d ∧ motive name d) decl.annotations found →
      scope.facetsFrom name decl.declaresTargets found = .ok d → motive name d)
    (h : scope.Validates name d) : motive name d := by
  -- The two relations are defined by way of each other, so the recursor asks for a property of
  -- each.
  refine @Validates.rec scope (fun name d _ => motive name d)
    (fun marks found _ => FirstValidation (TransGen scope.host.Carries)
      (fun name d => scope.Validates name d ∧ motive name d) marks found)
    root plain ?_ .nil ?_ ?_ ?_ name d h
  · exact fun hroot hdecl hkind _ hfacets ih => uses hroot hdecl hkind ih hfacets
  · exact fun hlead _ ih => .circular hlead ih
  · exact fun hparent hvalid _ ihParent ih => .passed ⟨hparent, ihParent⟩ hvalid ih
  · exact fun hparent hvalid ihParent => .taken ⟨hparent, ihParent⟩ hvalid

/-- What validates anything is a validation annotation. -/
theorem validating (h : scope.Validates name d) (hvalid : d.isValidation = true) :
    scope.host.Validating name := by
  revert hvalid
  refine h.induct (motive := fun name d => d.isValidation = true → scope.host.Validating name)
    ?_ ?_ ?_
  · exact fun hroot _ => .root hroot
  · exact fun _ _ _ hvalid => nomatch hvalid
  · -- What validates by its annotations does so by the one that decides.
    intro name decl d found _ hdecl hkind hfirst hfacets hvalid
    cases found with
    | none =>
      cases hfacets
      cases hvalid
    | some found =>
      obtain ⟨hmark, ⟨_, ih⟩, hparent⟩ := hfirst.of_some
      exact .carried hdecl hkind hmark (ih hparent)

/-- Without circular validation annotations an annotation validates one thing at most. -/
theorem unique (hacyclic : ∀ n, scope.host.Validating n → ¬ TransGen scope.host.Carries n n)
    (h : scope.Validates name d) (h' : scope.Validates name d') : d = d' := by
  revert d'
  -- The name tells which of the three rules apply, and the declaration what the third one gives.
  refine h.induct (motive := fun name d => ∀ {d'}, scope.Validates name d' → d = d') ?_ ?_ ?_
  · -- A root is neither a plain name nor an annotation type.
    intro name d hroot d' h'
    cases h' with
    | root hroot' => exact Option.some.inj (hroot.symm.trans hroot')
    | plain hroot' _ _ => cases hroot.symm.trans hroot'
    | uses hroot' _ _ _ _ => cases hroot.symm.trans hroot'
  · intro name decl hroot hfind hkind d' h'
    cases h' with
    | root hroot' => cases hroot.symm.trans hroot'
    | plain _ _ _ => rfl
    | uses _ hdecl hkind' _ _ =>
      rw [hfind.unique hdecl.finds, Option.filter_some, if_pos hkind'] at hkind
      cases hkind
  · -- Both sides look at one declaration, and the induction hypothesis stands on each of its
    -- annotations.
    intro name decl d found hroot hdecl hkind hfirst hfacets d' h'
    cases h' with
    | root hroot' => cases hroot.symm.trans hroot'
    | plain _ hfind hkind' =>
      rw [hfind.unique hdecl.finds, Option.filter_some, if_pos hkind] at hkind'
      cases hkind'
    | uses _ hdecl' _ hfirst' hfacets' =>
      cases hdecl.unique hdecl'
      have hfound := hfirst.unique (fun mark parent hparent hvalid =>
        hacyclic mark (hparent.validating hvalid))
        (fun _ _ ⟨hparent, ih⟩ => ⟨hparent, fun _ => ih⟩) hfirst'
      cases hfound
      exact Except.ok.inj (hfacets.symm.trans hfacets')

end Validates

end Scope

end PrototypeLens
