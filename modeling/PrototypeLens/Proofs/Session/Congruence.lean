import PrototypeLens.Lookup.Validation

/-!
# Relations between lookups

What is said of two runs of a lookup, on two hosts or on one, and passes from the parts of a lookup
to the whole. Discovering an annotation and resolving what it validates nest, and are followed here
once for all such relations; one that only looks at the first of the two lookups is a property of
lookups.

## Layers

- `Congruence`: a relation that is kept by binding, by marking guards and by the queries that the
  defaults of a template make.
- `Congruence.Discovering`: one that is kept by the publications and the other queries of a
  discovery, too.
- One lemma for each lookup, named after it. The cases are those of its definition, and both runs
  take the same one, as they are told the same.

## Main results

- `templateDefaults`: the defaults of a template are related in both scopes.
- `template?` and `prototypeOfUses`: so is whether an annotation is a template, and what a list of
  annotations gives.
- `validationDescriptor`: so is what an annotation validates.
-/

namespace PrototypeLens

/-- A relation between lookups under two scopes that passes from parts to the whole, for lookups
that only read the registry. -/
structure Congruence (scope scope' : Scope) (R : {α : Type} → Lookup α → Lookup α → Prop) :
    Prop where
  names : scope'.host.names = scope.host.names
  pure {α : Type} (a : α) : R (pure a) (pure a)
  tooDeep {α : Type} : R (throw .tooDeep : Lookup α) (throw .tooDeep)
  bind {α β : Type} {m m' : Lookup α} {f f' : α → Lookup β} :
    R m m' → (∀ a, R (f a) (f' a)) → R (m >>= f) (m' >>= f')
  within {α : Type} {m m' : Lookup α} (enter leave : Guards → Guards) :
    R m m' → R (SessionM.within enter leave m) (SessionM.within enter leave m')
  ask {α : Type} (view : Registry → α) : R (Lookup.ask view) (Lookup.ask view)
  askGuards {α : Type} (view : Guards → α) : R (Lookup.askGuards view) (Lookup.askGuards view)
  declarationOf? (name : String) :
    R (Lookup.declarationOf? scope name) (Lookup.declarationOf? scope' name)
  takeUsage (d : Descriptor) (mark : AnnotationUse) :
    R (Lookup.ofExcept (d.takeUsage (Lookup.resolveEnricher scope) mark))
      (Lookup.ofExcept (d.takeUsage (Lookup.resolveEnricher scope') mark))
  takeDefaults (d : Descriptor) (name : String) (methods : List Method) :
    R (Lookup.ofExcept (d.takeDefaults (Lookup.resolveEnricher scope) name methods))
      (Lookup.ofExcept (d.takeDefaults (Lookup.resolveEnricher scope') name methods))

namespace Congruence

variable {scope scope' : Scope} {R : {α : Type} → Lookup α → Lookup α → Prop}
  (h : Congruence scope scope' R)
include h

theorem map {α β : Type} {m m' : Lookup α} (f : α → β) (hm : R m m') : R (f <$> m) (f <$> m') := by
  rw [← bind_pure_comp, ← bind_pure_comp]
  exact h.bind hm fun _ => h.pure _

theorem discard {α : Type} {m m' : Lookup α} (hm : R m m') : R (discard m) (discard m') :=
  h.map _ hm

theorem forM {α : Type} {f f' : α → Lookup Unit} (hf : ∀ a, R (f a) (f' a)) (as : List α) :
    R (as.forM f) (as.forM f') := by
  -- The induction is on the list.
  induction as with
  | nil => exact h.pure _
  | cons a as ih => exact h.bind (hf a) fun _ => ih

theorem foldlM {α β : Type} {f f' : β → α → Lookup β} (hf : ∀ b a, R (f b a) (f' b a))
    (as : List α) : ∀ b, R (as.foldlM f b) (as.foldlM f' b) := by
  induction as with
  | nil => exact fun b => h.pure b
  | cons a as ih => exact fun b => h.bind (hf b a) ih

theorem nested {α : Type} {m m' : Lookup α} (hm : R m m') :
    R (SessionM.nested m) (SessionM.nested m') :=
  h.within _ _ hm

/-! ## Defaults -/

theorem inheritedDefaults {recur recur' : String → Option Declaration → Lookup Descriptor}
    (hrecur : ∀ name decl, R (recur name decl) (recur' name decl)) (parent : AnnotationUse) :
    R (Lookup.inheritedDefaults scope recur parent)
      (Lookup.inheritedDefaults scope' recur' parent) := by
  refine h.bind (h.ask _) fun kept => ?_
  cases kept with
  | some defaults => exact h.bind (h.pure defaults) fun defaults => h.takeUsage defaults parent
  | none =>
    refine h.bind (h.declarationOf? _) fun decl => ?_
    exact h.bind (hrecur _ decl) fun defaults => h.takeUsage defaults parent

/-- What is inherited is known when the own element defaults are taken. -/
theorem ownDefaults (name : String) (decl : Option Declaration) (inherited : Descriptor) : R
    (match decl with
      | some decl => Lookup.ofExcept
        (inherited.takeDefaults (Lookup.resolveEnricher scope) name decl.methods)
      | none => Pure.pure inherited)
    (match decl with
      | some decl => Lookup.ofExcept
        (inherited.takeDefaults (Lookup.resolveEnricher scope') name decl.methods)
      | none => Pure.pure inherited) := by
  cases decl with
  | some decl => exact h.takeDefaults _ _ _
  | none => exact h.pure _

theorem defaultsStep {recur recur' : String → Option Declaration → Lookup Descriptor}
    (hrecur : ∀ name decl, R (recur name decl) (recur' name decl)) (name : String)
    (decl : Option Declaration) :
    R (Lookup.defaultsStep scope recur name decl)
      (Lookup.defaultsStep scope' recur' name decl) := by
  refine h.bind (h.ask _) fun known => ?_
  cases Lookup.parentUse? known name decl with
  | some parent =>
    exact h.bind (h.inheritedDefaults hrecur parent) fun _ => h.ownDefaults name decl _
  | none => exact h.bind (h.pure _) fun _ => h.ownDefaults name decl _

theorem defaultsWithin (limit : Nat) (name : String) (decl : Option Declaration) :
    R (Lookup.defaultsWithin scope limit name decl)
      (Lookup.defaultsWithin scope' limit name decl) := by
  -- The induction is on the limit, which is the same on both sides.
  induction limit generalizing name decl with
  | zero => exact h.tooDeep
  | succ limit ih =>
    -- Defaults that are under way are left out on both sides.
    refine h.bind (h.askGuards _) fun defaulting => ?_
    split
    · exact h.pure _
    · exact h.within _ _ (h.defaultsStep ih name decl)

theorem templateDefaults (name : String) (decl : Option Declaration) :
    R (Lookup.templateDefaults scope name decl) (Lookup.templateDefaults scope' name decl) := by
  rw [Lookup.templateDefaults, Lookup.templateDefaults, h.names]
  exact h.defaultsWithin _ name decl

end Congruence

/-- A relation between lookups that passes from parts to the whole for those that discover
annotations, too, and for those that resolve what annotations validate. -/
structure Congruence.Discovering (scope scope' : Scope)
    (R : {α : Type} → Lookup α → Lookup α → Prop) : Prop extends Congruence scope scope' R where
  settings : scope'.settings = scope.settings
  archiveAt : scope'.host.archiveAt = scope.host.archiveAt
  file (id : FileId) :
    R (Lookup.query (scope.host.file id)) (Lookup.query (scope'.host.file id))
  targetsOf (value : AttrValue) :
    R (Lookup.query (Lookup.targetsOf scope value)) (Lookup.query (Lookup.targetsOf scope' value))
  registerTemplate (name : String) (decl : Option Declaration) :
    R (Lookup.registerTemplate scope name decl) (Lookup.registerTemplate scope' name decl)
  denyTemplate (name : String) (file : Option FileId) :
    R (Lookup.denyTemplate name file) (Lookup.denyTemplate name file)
  recordDependent (parent dependent : String) :
    R (Lookup.record (·.recordDependent parent dependent))
      (Lookup.record (·.recordDependent parent dependent))
  publishValidator (epoch : Nat) (name : String) (file : Option FileId)
      (descriptor : ValidationDescriptor) :
    R (Lookup.record (·.publishValidator epoch name file descriptor))
      (Lookup.record (·.publishValidator epoch name file descriptor))

namespace Congruence.Discovering

variable {scope scope' : Scope} {R : {α : Type} → Lookup α → Lookup α → Prop}
  (h : Congruence.Discovering scope scope' R)
include h

/-! ## Discovery -/

theorem ensureTemplate (name : String) (decl : Option Declaration) :
    R (Lookup.ensureTemplate scope name decl) (Lookup.ensureTemplate scope' name decl) := by
  refine h.bind (h.ask _) fun kept => ?_
  cases kept with
  | some defaults => exact h.pure _
  | none => exact h.nested (h.registerTemplate name decl)

section Nested

variable {discover discover' : String → Lookup (Option Descriptor)}
  (hdiscover : ∀ name, R (discover name) (discover' name))
include hdiscover

theorem parentTemplate? (name : String) :
    R (Lookup.parentTemplate? discover name) (Lookup.parentTemplate? discover' name) := by
  -- What is kept is taken; otherwise the guards decide whether the name is discovered.
  refine h.bind (h.ask _) fun kept => ?_
  cases kept with
  | some defaults => exact h.pure _
  | none =>
    refine h.bind (h.askGuards _) fun met => ?_
    split
    · exact h.pure _
    · exact hdiscover name

theorem inspectUse (own : String) (decl : Declaration) (result : Option Descriptor)
    (mark : AnnotationUse) :
    R (Lookup.inspectUse scope discover own decl result mark)
      (Lookup.inspectUse scope' discover' own decl result mark) := by
  unfold Lookup.inspectUse
  -- The marker, a denied name and any other one.
  split
  · exact h.bind (h.ensureTemplate own _) fun _ => h.pure _
  · refine h.bind (h.ask _) fun denied => ?_
    split
    · exact h.pure _
    · refine h.bind (h.parentTemplate? hdiscover mark.name) fun parent => ?_
      cases parent with
      | some _ =>
        refine h.bind (h.recordDependent mark.name own) fun _ => ?_
        exact h.bind (h.ensureTemplate own _) fun _ => h.pure _
      | none => exact h.bind (h.denyTemplate mark.name none) fun _ => h.pure _

theorem inspectDeclaration (decl : Declaration) :
    R (Lookup.inspectDeclaration scope discover decl)
      (Lookup.inspectDeclaration scope' discover' decl) := by
  unfold Lookup.inspectDeclaration
  split
  · exact h.pure _
  · exact h.foldlM (h.inspectUse hdiscover _ decl) _ _

theorem discoverUse (mark : AnnotationUse) :
    R (Lookup.discoverUse discover mark) (Lookup.discoverUse discover' mark) := by
  unfold Lookup.discoverUse
  -- Roots, names under way, denied and known ones are left alone.
  split
  · exact h.pure _
  · refine h.bind (h.askGuards _) fun met => ?_
    split
    · exact h.pure _
    · refine h.bind (h.ask _) fun denied => ?_
      split
      · exact h.pure _
      · refine h.bind (h.ask _) fun known => ?_
        split
        · exact h.pure _
        · exact h.discard (hdiscover mark.name)

theorem takeListed (name : String) :
    R (Lookup.takeListed scope discover name) (Lookup.takeListed scope' discover' name) := by
  refine h.bind (h.declarationOf? name) fun decl => ?_
  split
  · exact h.discard (h.ensureTemplate name decl)
  · cases decl with
    | none => exact h.pure _
    | some decl =>
      dsimp only
      split
      · refine h.bind (h.forM (h.discoverUse hdiscover) _) fun _ => ?_
        exact h.discard (h.ensureTemplate name _)
      · exact h.denyTemplate name _

theorem takeManifest (entries : List ManifestEntry) :
    R (Lookup.takeManifest scope discover entries)
      (Lookup.takeManifest scope' discover' entries) := by
  refine h.forM (fun entry => h.bind (h.ask _) fun kept => ?_) _
  cases kept with
  | some _ => exact h.pure _
  | none => exact h.takeListed hdiscover entry.name

omit hdiscover in
theorem settle (name : String) (decl : Declaration) (result : Option Descriptor) :
    R (Lookup.settle name decl result) (Lookup.settle name decl result) := by
  unfold Lookup.settle
  split
  · exact h.bind (h.denyTemplate name _) fun _ => h.pure _
  · exact h.pure _

theorem discoverArchived (archive : Archive) (name : String) (decl : Declaration) :
    R (Lookup.discoverArchived scope discover archive name decl)
      (Lookup.discoverArchived scope' discover' archive name decl) := by
  -- The manifest cannot be read, has no records, or is taken.
  unfold Lookup.discoverArchived
  rw [h.settings]
  split
  · exact h.pure _
  · exact h.bind (h.denyTemplate name none) fun _ => h.pure _
  · refine h.bind (h.takeManifest hdiscover _) fun _ => h.bind (h.ask _) fun kept => ?_
    cases kept with
    | some defaults => exact h.pure _
    | none => exact h.bind (h.inspectDeclaration hdiscover decl) fun _ => h.settle name decl _

theorem discoverStep (name : String) :
    R (Lookup.discoverStep scope discover name) (Lookup.discoverStep scope' discover' name) := by
  refine h.bind (h.declarationOf? name) fun decl => ?_
  split
  · exact h.bind (h.ensureTemplate name decl) fun _ => h.pure _
  · cases decl with
    | none => exact h.pure _
    | some decl =>
      refine h.bind (h.file decl.file) fun file => ?_
      rw [h.archiveAt]
      split
      · exact h.discoverArchived hdiscover _ name decl
      · exact h.bind (h.inspectDeclaration hdiscover decl) fun _ => h.settle name decl _

end Nested

theorem discoverWithin (limit : Nat) (name : String) :
    R (Lookup.discoverWithin scope limit name) (Lookup.discoverWithin scope' limit name) := by
  -- The induction is on the limit.
  induction limit generalizing name with
  | zero => exact h.tooDeep
  | succ limit ih => exact h.within _ _ (h.discoverStep ih name)

theorem template? (name : String) :
    R (Lookup.template? scope name) (Lookup.template? scope' name) := by
  refine h.bind (h.ask _) fun kept => ?_
  cases kept with
  | some defaults => exact h.pure _
  | none =>
    refine h.bind (h.ask _) fun denied => ?_
    split
    · exact h.pure _
    · refine h.bind (h.askGuards _) fun met => ?_
      split
      · exact h.pure _
      · rw [Lookup.discover, Lookup.discover, h.names]
        exact h.discoverWithin _ name

/-- The prototype that annotations give. -/
theorem prototypeOfUses (marks : List AnnotationUse) :
    R (Lookup.prototypeOfUses scope marks) (Lookup.prototypeOfUses scope' marks) := by
  induction marks with
  | nil => exact h.pure _
  | cons mark marks ih =>
    refine h.bind (h.template? mark.name) fun found => ?_
    cases found with
    | some defaults => exact h.bind (h.takeUsage defaults mark) fun _ => h.pure _
    | none => exact ih

/-! ## Validation -/

theorem inheritedTargets (declaresTargets : Bool) (mark : AnnotationUse)
    (parent : ValidationDescriptor) :
    R (Lookup.inheritedTargets scope declaresTargets mark parent)
      (Lookup.inheritedTargets scope' declaresTargets mark parent) := by
  unfold Lookup.inheritedTargets
  split
  · exact h.pure _
  · split
    · exact h.map _ (h.targetsOf _)
    · exact h.pure _

theorem facetsOfUses {facets facets' : String → Lookup ValidationDescriptor}
    (hfacets : ∀ name, R (facets name) (facets' name)) (name : String) (declaresTargets : Bool)
    (marks : List AnnotationUse) :
    R (Lookup.facetsOfUses scope facets name declaresTargets marks)
      (Lookup.facetsOfUses scope' facets' name declaresTargets marks) := by
  -- The induction is on the annotations, of which the first one that validates decides.
  induction marks with
  | nil => exact h.pure _
  | cons mark marks ih =>
    refine h.bind (h.askGuards _) fun validating => ?_
    split
    · exact ih
    · refine h.bind (hfacets mark.name) fun parent => ?_
      refine h.bind (h.recordDependent mark.name name) fun _ => ?_
      split
      · exact h.bind (h.inheritedTargets _ _ _) fun _ => h.pure _
      · exact ih

theorem facetsStep {facets facets' : String → Lookup ValidationDescriptor}
    (hfacets : ∀ name, R (facets name) (facets' name)) (name : String) :
    R (Lookup.facetsStep scope facets name) (Lookup.facetsStep scope' facets' name) := by
  refine h.bind (h.ask _) fun epoch => h.bind (h.declarationOf? name) fun decl => ?_
  have hpublish (result : ValidationDescriptor) : R
      (Lookup.record (·.publishValidator epoch name (decl.map (·.file)) result) >>= fun _ =>
        Pure.pure result)
      (Lookup.record (·.publishValidator epoch name (decl.map (·.file)) result) >>= fun _ =>
        Pure.pure result) :=
    h.bind (h.publishValidator epoch name _ result) fun _ => h.pure _
  cases decl.filter (·.isAnnotationType) with
  | none => exact h.bind (h.pure _) hpublish
  | some decl => exact h.bind (h.facetsOfUses hfacets name _ _) hpublish

theorem facetsWithin (limit : Nat) (name : String) :
    R (Lookup.facetsWithin scope limit name) (Lookup.facetsWithin scope' limit name) := by
  -- The induction is on the limit. Roots, kept descriptors and names under way need no step.
  induction limit generalizing name with
  | zero => exact h.tooDeep
  | succ limit ih =>
    unfold Lookup.facetsWithin
    split
    · exact h.pure _
    · refine h.bind (h.ask _) fun kept => ?_
      cases kept with
      | some descriptor => exact h.pure _
      | none =>
        refine h.bind (h.askGuards _) fun validating => ?_
        split
        · exact h.pure _
        · exact h.within _ _ (h.facetsStep ih name)

theorem validationDescriptor (name : String) :
    R (Lookup.validationDescriptor scope name) (Lookup.validationDescriptor scope' name) := by
  rw [Lookup.validationDescriptor, Lookup.validationDescriptor, h.names]
  exact h.facetsWithin _ name

end Congruence.Discovering

end PrototypeLens
