import Mathlib.Data.Fintype.Pigeonhole
import Mathlib.Order.WellFounded
import Mathlib.Order.OrderIsoNat
import PrototypeLens.Proofs.Validation.Search

/-!
# What annotations validate, by recursion

What an annotation validates as a function of what the annotations on it validate. Where no
annotation type leads back to itself the recursion ends, and so has exactly one solution.

## Layers

- `Host.Expands`, `Host.Targets`: the targets of a usage, with group literals expanded.
- `Host.Facets`: one step of the recursion, what a name validates given what others do.
- `Host.MetaCarries`: the annotations that the step looks at.
- `Host.Solves`: a function that every step agrees with.

## Main results

- `Facets.unique`, `Facets.congr`: the step is a function of the annotations on the name alone.
- `Scope.exists_facets`: it is total on a host that resolves every name.
- `wellFounded_metaCarries`: without a cycle the recursion ends, since declared names are finitely
  many.
- `Solves.unique`, `Scope.exists_solves`: there is exactly one solution.
-/

namespace PrototypeLens

open Relation (TransGen)
open ValidationDescriptor (root?)

namespace Host

variable {host : Host} {name : String}

/-! ## Targets -/

/-- The types that a class literal among the targets stands for: a known group whose declaration
tells that it is one for its members, any other class for itself. -/
inductive Expands (host : Host) (literal : String) : List String → Prop where
  | group {types : List String} {decl : Declaration} :
      targetGroup? literal = some types → host.Declares literal decl →
      targetsAware ∈ decl.implemented → Expands host literal types
  | literal : (∀ types decl, targetGroup? literal = some types → host.Declares literal decl →
      targetsAware ∉ decl.implemented) → Expands host literal [literal]

/-- The targets of an annotation type that takes after `parent`, which `mark` uses on it: none if it
has an element for them, else those of the usage, else those of the parent. -/
inductive Targets (host : Host) (decl : Declaration) (mark : AnnotationUse)
    (parent : ValidationDescriptor) : Option (List String) → Prop where
  | unspecified {element : Method} : element ∈ decl.methods → element.name = "targets" →
      Targets host decl mark parent none
  | written {value : AttrValue} {expansions : List (List String)} :
      (∀ element ∈ decl.methods, element.name ≠ "targets") → mark.attr? "targets" = some value →
      List.Forall₂ host.Expands value.classes expansions →
      Targets host decl mark parent (some expansions.flatten)
  | inherited : (∀ element ∈ decl.methods, element.name ≠ "targets") →
      mark.attr? "targets" = none → Targets host decl mark parent parent.targets

theorem Expands.unique {literal : String} {types types' : List String}
    (h : host.Expands literal types) (h' : host.Expands literal types') : types = types' := by
  cases h with
  | group hgroup hdecl haware =>
    cases h' with
    | group hgroup' _ _ => exact Option.some.inj (hgroup.symm.trans hgroup')
    | literal hplain => exact absurd haware (hplain _ _ hgroup hdecl)
  | literal hplain =>
    cases h' with
    | group hgroup hdecl haware => exact absurd haware (hplain _ _ hgroup hdecl)
    | literal _ => rfl

theorem Targets.unique {decl : Declaration} {mark : AnnotationUse} {parent : ValidationDescriptor}
    {targets targets' : Option (List String)} (h : host.Targets decl mark parent targets)
    (h' : host.Targets decl mark parent targets') : targets = targets' := by
  -- The three rules ask for different things of the elements and of the usage.
  cases h with
  | unspecified hmem hname =>
    cases h' with
    | unspecified _ _ => rfl
    | written hnone _ _ => exact absurd hname (hnone _ hmem)
    | inherited hnone _ => exact absurd hname (hnone _ hmem)
  | written hnone hattr hexpands =>
    cases h' with
    | unspecified hmem hname => exact absurd hname (hnone _ hmem)
    | written _ hattr' hexpands' =>
      cases hattr.symm.trans hattr'
      have hunique : Relator.RightUnique host.Expands := fun _ _ _ h h' => h.unique h'
      rw [hunique.forall₂ hexpands hexpands']
    | inherited _ hattr' => cases hattr.symm.trans hattr'
  | inherited hnone hattr =>
    cases h' with
    | unspecified hmem hname => exact absurd hname (hnone _ hmem)
    | written _ hattr' _ => cases hattr.symm.trans hattr'
    | inherited _ _ => rfl

/-! ## Descriptors -/

/-- What an annotation validates if `facets` tells what others do: a root validates of its own
accord, and any other declared annotation type takes after the first annotation on it that
validates. -/
inductive Facets (host : Host) (facets : String → ValidationDescriptor) (name : String) :
    ValidationDescriptor → Prop where
  | root {d : ValidationDescriptor} : root? name = some d → Facets host facets name d
  /-- There is no annotation type of the name. -/
  | plain : root? name = none →
      (∀ decl, host.Declares name decl → decl.isAnnotationType = false) →
      Facets host facets name {}
  /-- No annotation on it validates. -/
  | passed {decl : Declaration} : root? name = none → host.Declares name decl →
      decl.isAnnotationType = true →
      (∀ mark ∈ decl.annotations, (facets mark.name).isValidation = false) →
      Facets host facets name {}
  | first {decl : Declaration} {mark : AnnotationUse} {targets : Option (List String)} :
      root? name = none → host.Declares name decl → decl.isAnnotationType = true →
      decl.FirstUse (fun other => (facets other).isValidation = true) mark →
      host.Targets decl mark (facets mark.name) targets →
      Facets host facets name { facets mark.name with declaration := some name, targets }

/-- The meta-annotations: an annotation type carries an annotation called `mark`. -/
def MetaCarries (host : Host) (name mark : String) : Prop :=
  ∃ decl, host.Declares name decl ∧ decl.isAnnotationType = true ∧
    ∃ use ∈ decl.annotations, use.name = mark

theorem MetaCarries.carries {mark : String} (h : host.MetaCarries name mark) :
    host.Carries name mark := by
  obtain ⟨decl, hdecl, _, hmark⟩ := h
  exact ⟨decl, hdecl, hmark⟩

namespace Facets

variable {facets other : String → ValidationDescriptor} {d d' : ValidationDescriptor}

/-- The name and the others determine what is validated. -/
theorem unique (h : host.Facets facets name d) (h' : host.Facets facets name d') : d = d' := by
  -- Two different rules never apply to one name, and the same rule tells one thing only.
  cases h with
  | root hroot =>
    cases h' with
    | root hroot' => exact Option.some.inj (hroot.symm.trans hroot')
    | plain hroot' _ | passed hroot' _ _ _ | first hroot' _ _ _ _ => cases hroot.symm.trans hroot'
  | plain hroot hplain =>
    cases h' with
    | root hroot' => cases hroot.symm.trans hroot'
    | plain _ _ | passed _ _ _ _ => rfl
    | first _ hdecl hkind _ _ => cases hkind.symm.trans (hplain _ hdecl)
  | passed hroot hdecl hkind hnone =>
    cases h' with
    | root hroot' => cases hroot.symm.trans hroot'
    | plain _ _ | passed _ _ _ _ => rfl
    | first _ hdecl' _ hfirst _ =>
      cases hdecl.unique hdecl'
      cases hfirst.holds.symm.trans (hnone _ hfirst.mem)
  | first hroot hdecl hkind hfirst htargets =>
    cases h' with
    | root hroot' => cases hroot.symm.trans hroot'
    | plain _ hplain => cases hkind.symm.trans (hplain _ hdecl)
    | passed _ hdecl' _ hnone =>
      cases hdecl.unique hdecl'
      cases hfirst.holds.symm.trans (hnone _ hfirst.mem)
    | first _ hdecl' _ hfirst' htargets' =>
      cases hdecl.unique hdecl'
      cases hfirst.unique hfirst'
      rw [htargets.unique htargets']

/-- Only what the annotations on the annotation type validate counts. -/
theorem congr (h : host.Facets facets name d)
    (hagree : ∀ mark, host.MetaCarries name mark → facets mark = other mark) :
    host.Facets other name d := by
  -- The rule that applied still applies, with the same annotation first.
  cases h with
  | root hroot => exact .root hroot
  | plain hroot hplain => exact .plain hroot hplain
  | passed hroot hdecl hkind hnone =>
    refine .passed hroot hdecl hkind fun mark hmark => ?_
    rw [← hagree mark.name ⟨_, hdecl, hkind, mark, hmark, rfl⟩]
    exact hnone mark hmark
  | @first decl mark targets hroot hdecl hkind hfirst htargets =>
    have hmarks (use : AnnotationUse) (huse : use ∈ decl.annotations) :
        facets use.name = other use.name := hagree use.name ⟨decl, hdecl, hkind, use, huse, rfl⟩
    have hfirst' : decl.FirstUse (fun n => (other n).isValidation = true) mark :=
      hfirst.congr fun use huse => by rw [hmarks use huse]
    rw [hmarks mark hfirst.mem] at htargets ⊢
    exact .first hroot hdecl hkind hfirst' htargets

end Facets

end Host

/-! ## One step of the recursion -/

theorem Declaration.declaresTargets_iff {decl : Declaration} :
    decl.declaresTargets = true ↔ ∃ element ∈ decl.methods, element.name = "targets" := by
  rw [declaresTargets, Bool.not_eq_true', List.isEmpty_eq_false_iff_exists_mem]
  simp [methodsNamed]

/-- What is done to each element in turn is done to each of them. -/
theorem forall₂_of_mapM {ε α β : Type} {f : α → Except ε β} {as : List α} {bs : List β}
    (h : as.mapM f = .ok bs) : List.Forall₂ (fun a b => f a = .ok b) as bs := by
  -- The library has the pointwise form for mapped lists, so both sides are mapped.
  have heq : List.Forall₂ Eq (as.map f) (bs.map .ok) := by
    rw [List.forall₂_eq_eq_eq, mapM_eq_ok_iff.1 h]
  simpa only [List.forall₂_map_left_iff, List.forall₂_map_right_iff] using heq

namespace Scope

variable {scope : Scope}

theorem expands_of_targetsOfClass {literal : String} {types : List String}
    (h : Lookup.targetsOfClass scope literal = .ok types) : scope.host.Expands literal types := by
  unfold Lookup.targetsOfClass at h
  cases hentry : scope.host.findData literal with
  | error e =>
    rw [hentry] at h
    cases h
  | ok entry =>
    rw [hentry] at h
    cases h
    -- The declaration of a group is the one that the literal resolves to.
    have hdeclares {decl : Declaration} (hdecl : scope.host.Declares literal decl) :
        ∃ id, entry = some (id, decl) := by
      obtain ⟨id, hid⟩ := hdecl
      exact ⟨id, Except.ok.inj (hentry.symm.trans hid)⟩
    dsimp only
    split
    · rename_i haware
      obtain ⟨⟨id, decl⟩, rfl, hmem⟩ := (Option.any_eq_true ..).1 haware
      have hmem : targetsAware ∈ decl.implemented := by simpa using hmem
      cases hgroup : targetGroup? literal with
      | some types => exact .group hgroup ⟨id, hentry⟩ hmem
      | none => exact .literal fun types decl' hgroup' => by cases hgroup.symm.trans hgroup'
    · rename_i haware
      refine .literal fun types decl _ hdecl hmem => haware ?_
      obtain ⟨id, rfl⟩ := hdeclares hdecl
      simpa using hmem

theorem targets_of_takenTargets {decl : Declaration} {mark : AnnotationUse}
    {parent : ValidationDescriptor} {targets : Option (List String)}
    (h : scope.takenTargets decl.declaresTargets mark parent = .ok targets) :
    scope.host.Targets decl mark parent targets := by
  unfold takenTargets at h
  split at h
  · -- The annotation type has an element for its targets.
    rename_i hdeclares
    cases h
    obtain ⟨element, hmem, hname⟩ := Declaration.declaresTargets_iff.1 hdeclares
    exact .unspecified hmem hname
  · rename_i hdeclares
    have hnone : ∀ element ∈ decl.methods, element.name ≠ "targets" := fun element hmem hname =>
      hdeclares (Declaration.declaresTargets_iff.2 ⟨element, hmem, hname⟩)
    split at h
    · rename_i value hattr
      unfold Lookup.targetsOf at h
      cases hclasses : value.classes.mapM (Lookup.targetsOfClass scope) with
      | error e =>
        rw [hclasses] at h
        cases h
      | ok expansions =>
        rw [hclasses] at h
        cases h
        refine .written hnone hattr ((forall₂_of_mapM hclasses).imp ?_)
        exact fun _ _ => expands_of_targetsOfClass
    · -- The usage writes none, so those of the parent stay.
      rename_i hattr
      cases h
      exact .inherited hnone hattr

/-- On a host that resolves every name, what an annotation validates can be told from what others
do. -/
theorem exists_facets (h : scope.host.Findable) (facets : String → ValidationDescriptor)
    (name : String) : ∃ d, scope.host.Facets facets name d := by
  -- The cases follow the rules of the step: a root, no annotation type, no deciding annotation, a
  -- first one.
  cases hroot : root? name with
  | some d => exact ⟨d, .root hroot⟩
  | none =>
    obtain ⟨found, hfind⟩ := h.finds name
    cases hdecl : found.filter (·.isAnnotationType) with
    | none =>
      refine ⟨{}, .plain hroot fun decl hdeclares => ?_⟩
      simpa [hfind.unique hdeclares.finds, Option.filter_some] using hdecl
    | some decl =>
      obtain ⟨rfl, hkind⟩ := Option.filter_eq_some_iff.1 hdecl
      have hdeclares : scope.host.Declares name decl := Host.finds_some_iff.1 hfind
      cases hfirst : decl.annotations.find? fun mark => (facets mark.name).isValidation with
      | none =>
        refine ⟨{}, .passed hroot hdeclares hkind fun mark hmark => ?_⟩
        simpa using List.find?_eq_none.1 hfirst mark hmark
      | some mark =>
        obtain ⟨hvalid, before, after, happ, hbefore⟩ := List.find?_eq_some_iff_append.1 hfirst
        obtain ⟨targets, htargets⟩ :=
          h.takenTargets_ok decl.declaresTargets mark (facets mark.name)
        refine ⟨_, .first hroot hdeclares hkind ⟨before, after, happ, hvalid, ?_⟩
          (targets_of_takenTargets htargets)⟩
        exact fun other hother => by simpa using hbefore other hother

end Scope

/-! ## The recursion ends -/

namespace Host

variable {host : Host}

/-- A host declares finitely many names, so that without a cycle no chain of meta-annotations goes
on forever. -/
theorem wellFounded_metaCarries (hacyclic : ∀ name, ¬ TransGen host.MetaCarries name name) :
    WellFounded fun mark name => host.MetaCarries name mark := by
  rw [wellFounded_iff_isEmpty_descending_chain]
  refine ⟨fun ⟨chain, hchain⟩ => ?_⟩
  have hnames (n : Nat) : chain n ∈ host.names := by
    obtain ⟨decl, hdecl, _⟩ := hchain n
    exact hdecl.mem_names
  -- Two members of the chain are the same name, which leads to itself then.
  obtain ⟨n, m, hne, hsame⟩ := Finite.exists_ne_map_eq_of_infinite
    fun n : Nat => (⟨chain n, hnames n⟩ : { name // name ∈ host.names })
  have hdistinct {n m : Nat} (hlt : n < m) : chain n ≠ chain m := by
    intro hsame
    have hleads : TransGen host.MetaCarries (chain n) (chain m) :=
      Nat.rel_of_forall_rel_succ_of_lt _ (fun n => .single (hchain n)) hlt
    rw [hsame] at hleads
    exact hacyclic _ hleads
  have hsame : chain n = chain m := congrArg Subtype.val hsame
  rcases Nat.lt_or_gt_of_ne hne with hlt | hlt
  · exact hdistinct hlt hsame
  · exact hdistinct hlt hsame.symm

/-- What annotations validate is told by a solution of the recursion. -/
def Solves (host : Host) (facets : String → ValidationDescriptor) : Prop :=
  ∀ name, host.Facets facets name (facets name)

/-- Without a cycle there is one solution at most. -/
theorem Solves.unique (hacyclic : ∀ name, ¬ TransGen host.MetaCarries name name)
    {facets other : String → ValidationDescriptor} (h : host.Solves facets)
    (h' : host.Solves other) : facets = other := by
  funext name
  -- The two agree on the annotations on a name, and the step looks at nothing else.
  induction name using (wellFounded_metaCarries hacyclic).induction with
  | _ name ih => exact ((h name).congr ih).unique (h' name)

end Host

/-- Without a cycle there is a solution. -/
theorem Scope.exists_solves {scope : Scope} (h : scope.host.Findable)
    (hacyclic : ∀ name, ¬ TransGen scope.host.MetaCarries name name) :
    ∃ facets, scope.host.Solves facets := by
  classical
  choose step hstep using exists_facets h
  have hwf := scope.host.wellFounded_metaCarries hacyclic
  -- Only what the annotations on a name validate is looked at.
  let facets : String → ValidationDescriptor := hwf.fix fun name below =>
    step (fun mark => if hmark : scope.host.MetaCarries name mark then below mark hmark else {})
      name
  refine ⟨facets, fun name => ?_⟩
  -- The fixed point unfolds to the step on what lies below, which agrees with the solution there.
  have hunfold : facets name =
      step (fun mark => if scope.host.MetaCarries name mark then facets mark else {}) name := by
    exact hwf.fix_eq _ name
  rw [hunfold]
  exact (hstep _ name).congr fun mark hmark => if_pos hmark

end PrototypeLens
