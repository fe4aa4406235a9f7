import PrototypeLens.Proofs.Session.Asking
import PrototypeLens.Proofs.Session.Congruence
import PrototypeLens.Proofs.Session.Matching

/-!
# Lookups that announce no template

A new template makes a registry forget what it kept about templates and declarations, and starts an
epoch. A lookup that announces none leaves alone what is kept, and keeps what it tells: a template
with its defaults, or the prototype of a declaration.

## Layers

- `Registry.Retains`: templates and prototypes are lost only if a new template was announced.
  `course_retains` shows it of every change that a lookup makes.
- `SessionM.Retains`: so does a computation, however it ends. The nested lookups have it by
  `discovering_retains`.
- `Discovers`: how a discovery ends that succeeds. `kept_of_ensureTemplate` and `kept_of_inspect`
  are the two ways to come to a template.

## Main results

- `kept_of_discoverStep`: a discovery without a new template keeps the template that it tells.
- `kept_of_registerStep`: a registration without one keeps the prototype that it tells.
-/

namespace PrototypeLens

/-! ## Registries -/

/-- A later registry has lost templates and prototypes only if a new template was announced. -/
structure Registry.Retains (r r' : Registry) : Prop where
  known : r.knownTemplates ⊆ r'.knownTemplates
  epoch : r'.knownTemplates ⊆ r.knownTemplates → r'.epoch = r.epoch
  templates : r'.knownTemplates ⊆ r.knownTemplates → ∀ {name : String} {defaults : Descriptor},
    r.templates.get? name = some defaults → r'.templates.get? name = some defaults
  classes : r'.knownTemplates ⊆ r.knownTemplates → ∀ {name : String}
    {prototype : Option Descriptor}, r.classes.get? name = some prototype →
      r'.classes.get? name = some prototype

namespace Registry

variable {r r' : Registry}

theorem Retains.of_same (hknown : r'.knownTemplates = r.knownTemplates)
    (hepoch : r'.epoch = r.epoch) (htemplates : r'.templates = r.templates)
    (hclasses : r'.classes = r.classes) : r.Retains r' where
  known := hknown ▸ List.Subset.refl _
  epoch _ := hepoch
  templates _ _ _ hget := htemplates ▸ hget
  classes _ _ _ hget := hclasses ▸ hget

theorem SameTemplates.retains (h : r.SameTemplates r') (hepoch : r'.epoch = r.epoch)
    (hclasses : r'.classes = r.classes) : r.Retains r' :=
  .of_same h.knownTemplates hepoch h.templates hclasses

/-- What is kept under a name stays when something is published under it. -/
theorem get?_insertNew_of_some {α : Type} {table : Table String α} {name other : String}
    {a kept : α} (h : table.get? other = some kept) :
    (table.insertNew name a).get? other = some kept := by
  rw [Table.get?_insertNew]
  by_cases hother : other = name
  · rw [if_pos hother, ← hother, h]
    rfl
  · rw [if_neg hother, h]

theorem publishValidator_epoch (r : Registry) (epoch : Nat) (name : String)
    (file : Option FileId) (descriptor : ValidationDescriptor) :
    (r.publishValidator epoch name file descriptor).epoch = r.epoch := by
  unfold publishValidator
  split
  · rw [recordOwner?_epoch]
  · rfl

theorem course_retains : Course Retains where
  refl _ := .of_same rfl rfl rfl rfl
  -- Nothing is announced in the whole only if nothing is announced in either part.
  trans h h' := {
    known := List.Subset.trans h.known h'.known
    epoch := fun hknown => (h'.epoch (List.Subset.trans hknown h.known)).trans
      (h.epoch (List.Subset.trans h'.known hknown))
    templates := fun hknown _ _ hget => h'.templates (List.Subset.trans hknown h.known)
      (h.templates (List.Subset.trans h'.known hknown) hget)
    classes := fun hknown _ _ hget => h'.classes (List.Subset.trans hknown h.known)
      (h.classes (List.Subset.trans h'.known hknown) hget) }
  announceTemplate r name := by
    by_cases hname : name ∈ r.knownTemplates
    · rw [announceTemplate, if_pos hname]
      exact .of_same rfl rfl rfl rfl
    · -- The new template is the one that was not known.
      have hnew (hknown : (r.announceTemplate name).knownTemplates ⊆ r.knownTemplates) : False :=
        hname (hknown (r.mem_knownTemplates_announceTemplate name))
      exact {
        known := r.knownTemplates_subset_announceTemplate name
        epoch := fun hknown => (hnew hknown).elim
        templates := fun hknown => (hnew hknown).elim
        classes := fun hknown => (hnew hknown).elim }
  publishTemplate r epoch name file defaults := by
    unfold publishTemplate
    split
    · refine ⟨?_, fun _ => by simp, fun _ _ _ hget => ?_, fun _ _ _ hget => by simpa using hget⟩
      · rw [recordOwner?_knownTemplates]
        exact List.Subset.refl _
      · rw [recordOwner?_templates]
        exact get?_insertNew_of_some hget
    · exact .of_same rfl rfl rfl rfl
  denyTemplate r name file := .of_same (by simp) (by simp) (by simp) (by simp)
  recordDependent _ _ _ := .of_same rfl rfl rfl rfl
  publishClass r epoch name file prototype := by
    have hsame := r.sameTemplates_publishClass name file epoch prototype
    refine ⟨hsame.knownTemplates ▸ List.Subset.refl _, fun _ => by simp,
      fun _ _ _ hget => hsame.templates ▸ hget, fun _ _ _ hget => ?_⟩
    unfold publishClass
    split
    · exact get?_insertNew_of_some hget
    · exact hget
  publishGenerated r epoch name file prototype :=
    (r.sameTemplates_publishGenerated ..).retains (by simp) (by simp)
  publishNonGenerated r epoch name file :=
    (r.sameTemplates_publishNonGenerated ..).retains (by simp) (by simp)

end Registry

/-! ## Discoveries -/

/-- However the computation ends, templates and prototypes are lost only to a new template. -/
def SessionM.Retains {ε α : Type} (m : SessionM ε α) : Prop :=
  ∀ s : Session, s.registry.Retains (m.exec s).2.registry

namespace SessionM.Retains

variable {ε α β : Type} {m : SessionM ε α} {f : α → SessionM ε β}

theorem of_silent (h : ∀ s, (m.exec s).2.registry = s.registry) : m.Retains := by
  intro s
  rw [h]
  exact Registry.course_retains.refl _

theorem bind (h : m.Retains) (hf : ∀ a, (f a).Retains) : (m >>= f).Retains := by
  intro s
  have hm := h s
  rw [exec_bind]
  rcases hexec : m.exec s with ⟨out, s'⟩
  rw [hexec] at hm
  cases out with
  | error e => exact hm
  | ok a => exact Registry.course_retains.trans hm (hf a s')

theorem discard (h : m.Retains) : (discard m).Retains := by
  intro s
  rw [exec_discard]
  exact h s

theorem within (h : m.Retains) (enter leave : Guards → Guards) :
    (SessionM.within enter leave m).Retains :=
  fun s => h { s with guards := enter s.guards }

theorem of_ok (h : m.Retains) {s s' : Session} {a : α} (hexec : m.exec s = (.ok a, s')) :
    s.registry.Retains s'.registry := by
  have hm := h s
  rwa [hexec] at hm

end SessionM.Retains

namespace Lookup

open SessionM (Retains)

variable {α : Type}

theorem retains_query (result : Except QueryError α) : (query result).Retains := by
  cases result <;> exact .of_silent fun _ => rfl

theorem retains_ofExcept (result : Except LookupError α) : (ofExcept result).Retains := by
  cases result <;> exact .of_silent fun _ => rfl

theorem retains_record {change : Registry → Registry} (h : ∀ r : Registry, r.Retains (change r)) :
    (record change).Retains :=
  fun s => h s.registry

/-- Computing defaults changes nothing. -/
theorem retains_registerTemplate (scope : Scope) (name : String) (decl : Option Declaration) :
    (registerTemplate scope name decl).Retains := by
  refine .bind (retains_record fun r => Registry.course_retains.announceTemplate r name) fun _ => ?_
  refine .bind (.of_silent fun _ => rfl) fun epoch => ?_
  have hsilent : (templateDefaults scope name decl).Retains := .of_silent fun s => by
    rw [templateDefaults, exec_defaultsWithin]
  refine hsilent.bind fun defaults => ?_
  exact .bind (retains_record fun r => Registry.course_retains.publishTemplate r _ _ _ _) fun _ =>
    .of_silent fun _ => rfl

theorem congruence_retains (scope : Scope) : Congruence scope scope fun m _ => m.Retains where
  names := rfl
  pure _ := .of_silent fun _ => rfl
  tooDeep := .of_silent fun _ => rfl
  bind := .bind
  within enter leave h := h.within enter leave
  ask _ := .of_silent fun _ => rfl
  askGuards _ := .of_silent fun _ => rfl
  declarationOf? _ := (retains_query _).bind fun _ => .of_silent fun _ => rfl
  takeUsage _ _ := retains_ofExcept _
  takeDefaults _ _ _ := retains_ofExcept _

theorem discovering_retains (scope : Scope) :
    Congruence.Discovering scope scope fun m _ => m.Retains where
  toCongruence := congruence_retains scope
  settings := rfl
  archiveAt := rfl
  file _ := retains_query _
  targetsOf _ := retains_query _
  registerTemplate := retains_registerTemplate scope
  denyTemplate name file :=
    retains_record fun r => Registry.course_retains.denyTemplate r name file
  recordDependent parent dependent :=
    retains_record fun r => Registry.course_retains.recordDependent r parent dependent
  publishValidator epoch name file descriptor := retains_record fun r =>
    (r.sameTemplates_publishValidator ..).retains (r.publishValidator_epoch ..) (by simp)

variable {scope : Scope} {name : String} {s s' : Session}

/-- A template that was made sure of is kept. -/
theorem kept_of_ensureTemplate {decl : Option Declaration} {defaults : Descriptor}
    (h : (ensureTemplate scope name decl).exec s = (.ok defaults, s')) :
    s'.registry.templates.get? name = some defaults := by
  obtain ⟨r, g⟩ := s
  rw [ensureTemplate, SessionM.exec_bind_ok exec_cachedTemplate?] at h
  -- It was kept before, or it was announced, computed and published in one epoch.
  cases hget : r.templates.get? name with
  | some kept =>
    rw [hget] at h
    cases h
    exact hget
  | none =>
    rw [hget] at h
    obtain ⟨r', g'⟩ := s'
    obtain ⟨_, h⟩ := SessionM.exec_of_exec_within h
    rw [registerTemplate, SessionM.exec_bind_ok (exec_record _),
      SessionM.exec_bind_ok (exec_ask _)] at h
    obtain ⟨computed, s₁, hcomputed, h⟩ := SessionM.exec_bind_eq_ok h
    rw [templateDefaults, exec_defaultsWithin] at hcomputed
    obtain ⟨_, rfl⟩ := Prod.mk.inj hcomputed
    rw [SessionM.exec_bind_ok (exec_record _), SessionM.exec_pure] at h
    obtain ⟨hdefaults, hsession⟩ := Prod.mk.inj h
    cases hdefaults
    rw [← (Session.mk.inj hsession).1]
    exact Registry.publishTemplate_templates_get?_self _ _ _
      (Registry.announceTemplate_templates_get?_eq_none _ _ _ hget)

/-- How a discovery ends that succeeds. -/
inductive Discovers (scope : Scope) (recur : String → Lookup (Option Descriptor)) (name : String)
    (s s' : Session) : Option Descriptor → Prop where
  | root {decl : Option Declaration} {defaults : Descriptor} :
      (ensureTemplate scope name decl).exec s = (.ok defaults, s') →
      Discovers scope recur name s s' (some defaults)
  /-- The name is not declared, or its manifest cannot be read. -/
  | unchanged : s' = s → Discovers scope recur name s s' none
  /-- Its manifest has no records. -/
  | denied : s'.registry = s.registry.denyTemplate name none → Discovers scope recur name s s' none
  /-- Its manifest lists it as a template. -/
  | listed {defaults : Descriptor} : s'.registry.templates.get? name = some defaults →
      Discovers scope recur name s s' (some defaults)
  /-- The annotations on its declaration decide. -/
  | inspected {decl : Declaration} {s₁ : Session} {found : Option Descriptor} :
      scope.host.Declares name decl →
      s.registry.knownTemplates ⊆ s₁.registry.knownTemplates →
      (inspectDeclaration scope recur decl >>= settle name decl).exec s₁ = (.ok found, s') →
      Discovers scope recur name s s' found

section Inspections

variable {recur : String → Lookup (Option Descriptor)} {decl : Declaration}
  (hrecur : ∀ name, (recur name).Retains)
include hrecur

theorem retains_inspectUse (result : Option Descriptor) (mark : AnnotationUse) :
    (inspectUse scope recur name decl result mark).Retains :=
  @Congruence.Discovering.inspectUse scope scope _ (discovering_retains scope) recur recur hrecur
    name decl result mark

theorem retains_inspect (marks : List AnnotationUse) (result : Option Descriptor) :
    (marks.foldlM (inspectUse scope recur name decl) result).Retains :=
  @Congruence.foldlM scope scope _ (congruence_retains scope) _ _ _
    (inspectUse scope recur name decl) (retains_inspectUse hrecur) marks result

theorem retains_takeManifest (entries : List ManifestEntry) :
    (takeManifest scope recur entries).Retains :=
  @Congruence.Discovering.takeManifest scope scope _ (discovering_retains scope) recur recur hrecur
    entries

/-- What passes on an earlier result keeps it, and every other one is made sure of. -/
theorem kept_of_inspectUse {result : Option Descriptor} {mark : AnnotationUse}
    {defaults : Descriptor}
    (h : (inspectUse scope recur name decl result mark).exec s = (.ok (some defaults), s'))
    (hknown : s'.registry.knownTemplates ⊆ s.registry.knownTemplates)
    (hresult : ∀ d, result = some d → s.registry.templates.get? name = some d) :
    s'.registry.templates.get? name = some defaults := by
  have hretains := (retains_inspectUse hrecur result mark).of_ok h
  unfold inspectUse at h
  -- The marker, a denied annotation, and one that may be a template itself.
  split at h
  · obtain ⟨_, _, hensured, h⟩ := SessionM.exec_bind_eq_ok h
    cases h
    exact kept_of_ensureTemplate hensured
  · obtain ⟨denied, _, hdenied, h⟩ := SessionM.exec_bind_eq_ok h
    split at h
    · cases h
      exact hretains.templates hknown (hresult defaults rfl)
    · obtain ⟨found, _, hfound, h⟩ := SessionM.exec_bind_eq_ok h
      cases found with
      | some parent =>
        obtain ⟨_, _, _, h⟩ := SessionM.exec_bind_eq_ok h
        obtain ⟨_, _, hensured, h⟩ := SessionM.exec_bind_eq_ok h
        cases h
        exact kept_of_ensureTemplate hensured
      | none =>
        obtain ⟨_, _, _, h⟩ := SessionM.exec_bind_eq_ok h
        cases h
        exact hretains.templates hknown (hresult defaults rfl)

theorem kept_of_inspect (marks : List AnnotationUse) {defaults : Descriptor} :
    ∀ {result : Option Descriptor} {s : Session},
      (marks.foldlM (inspectUse scope recur name decl) result).exec s = (.ok (some defaults), s') →
      s'.registry.knownTemplates ⊆ s.registry.knownTemplates →
      (∀ d, result = some d → s.registry.templates.get? name = some d) →
      s'.registry.templates.get? name = some defaults := by
  -- The induction is on the annotations; that the result so far is kept is carried along.
  induction marks with
  | nil =>
    intro result s h _ hresult
    cases h
    exact hresult defaults rfl
  | cons mark marks ih =>
    intro result s h hknown hresult
    -- Known templates only grow, so that neither part of the run announces one.
    rw [List.foldlM_cons] at h
    obtain ⟨found, s₁, hmark, hrest⟩ := SessionM.exec_bind_eq_ok h
    have hfirst := (retains_inspectUse hrecur result mark).of_ok hmark
    have hlater := (retains_inspect hrecur marks found).of_ok hrest
    refine ih hrest (List.Subset.trans hknown hfirst.known) ?_
    rintro d rfl
    exact kept_of_inspectUse hrecur hmark (List.Subset.trans hlater.known hknown) hresult

theorem discovers_of_discoverStep {found : Option Descriptor}
    (h : (discoverStep scope recur name).exec s = (.ok found, s')) :
    Discovers scope recur name s s' found := by
  obtain ⟨decl, _, hdecl, hrest⟩ := SessionM.exec_bind_eq_ok h
  obtain ⟨hfinds, rfl⟩ := exec_declarationOf?_eq_ok hdecl
  -- The cases are those of the definition, with the roots before the manifest.
  split at hrest
  · obtain ⟨_, _, hensured, hpure⟩ := SessionM.exec_bind_eq_ok hrest
    cases hpure
    exact .root hensured
  · cases decl with
    | none =>
      cases hrest
      exact .unchanged rfl
    | some decl =>
      have hdeclares : scope.host.Declares name decl := Host.finds_some_iff.1 hfinds
      obtain ⟨file, _, hfile, hlocated⟩ := SessionM.exec_bind_eq_ok hrest
      obtain ⟨_, rfl⟩ := exec_query_eq_ok hfile
      split at hlocated
      · unfold discoverArchived at hlocated
        split at hlocated
        · cases hlocated
          exact .unchanged rfl
        · cases hlocated
          exact .denied rfl
        · obtain ⟨_, ⟨r₁, g₁⟩, hmanifest, hread⟩ := SessionM.exec_bind_eq_ok hlocated
          have htaken := (retains_takeManifest hrecur _).of_ok hmanifest
          rw [SessionM.exec_bind_ok exec_cachedTemplate?] at hread
          split at hread
          · rename_i hkept
            cases hread
            exact .listed hkept
          · exact .inspected hdeclares htaken.known hread
      · exact .inspected hdeclares (List.Subset.refl _) hlocated

/-- A discovery without a new template keeps the template that it tells. -/
theorem kept_of_discoverStep (hhealthy : scope.host.Healthy) {defaults : Descriptor}
    (h : (discoverStep scope recur name).exec s = (.ok (some defaults), s'))
    (hknown : s'.registry.knownTemplates ⊆ s.registry.knownTemplates) :
    s'.registry.templates.get? name = some defaults := by
  cases discovers_of_discoverStep hrecur h with
  | root hensured => exact kept_of_ensureTemplate hensured
  | listed hkept => exact hkept
  | inspected hdecl hbefore h =>
    obtain ⟨found, s₂, hfound, hsettle⟩ := SessionM.exec_bind_eq_ok h
    cases found with
    | none => cases hsettle
    | some d =>
      cases hsettle
      rw [inspectDeclaration, hhealthy.qualifiedName hdecl] at hfound
      exact kept_of_inspect hrecur _ hfound (List.Subset.trans hknown hbefore)
        fun _ hresult => by cases hresult

end Inspections

end Lookup

/-! ## Registrations -/

namespace Lookup

open SessionM (Retains)

variable {scope : Scope} {register : DeclId → Lookup (Option Descriptor)} {name : String}
  {decl : Declaration}

theorem retains_checkGenerated (hregister : ∀ id, (register id).Retains) :
    (checkGenerated scope register name decl).Retains := by
  refine .bind (.of_silent fun _ => rfl) fun known => ?_
  cases known with
  | some origin => exact .of_silent fun _ => rfl
  | none =>
    refine .bind (.of_silent fun _ => rfl) fun epoch => ?_
    cases originOf? scope.settings.generatedMarkers decl with
    | none =>
      exact .bind (retains_record fun r => Registry.course_retains.publishNonGenerated r _ _ _)
        fun _ => .of_silent fun _ => rfl
    | some prototype =>
      have hpublish (a : PUnit) : (do
          record (·.publishGenerated epoch name decl.file prototype)
          pure (some prototype) : Lookup (Option String)).Retains :=
        .bind (retains_record fun r => Registry.course_retains.publishGenerated r _ _ _ _)
          fun _ => .of_silent fun _ => rfl
      -- The prototype is registered first, if it is found.
      refine .bind (retains_query _) fun found => ?_
      cases found with
      | none => exact hpublish ()
      | some id => exact .bind (hregister id).discard hpublish

theorem retains_registerStep (hregister : ∀ id, (register id).Retains) :
    (registerStep scope register name decl).Retains := by
  refine .bind (.of_silent fun _ => rfl) fun epoch => ?_
  refine .bind ((discovering_retains scope).prototypeOfUses _) fun prototype => ?_
  refine .bind (retains_record fun r => Registry.course_retains.publishClass r _ _ _ _) fun _ => ?_
  exact .bind (retains_checkGenerated hregister).discard fun _ => .of_silent fun _ => rfl

theorem retains_registerWithin (limit : Nat) (id : DeclId) :
    (registerWithin scope limit id).Retains := by
  -- The induction is on the limit.
  induction limit generalizing id with
  | zero => exact .of_silent fun _ => rfl
  | succ limit ih =>
    refine .bind (retains_query _) fun decl => ?_
    split
    · exact .of_silent fun _ => rfl
    · refine .bind (.of_silent fun _ => rfl) fun kept => ?_
      cases kept with
      | some prototype => exact .of_silent fun _ => rfl
      | none =>
        refine .bind (.of_silent fun _ => rfl) fun registering => ?_
        split
        · exact .of_silent fun _ => rfl
        · exact .within (.within (retains_registerStep ih) _ _) _ _

theorem publishClass_get?_self {r : Registry} {file : FileId} {prototype : Option Descriptor}
    (h : r.classes.get? name = none) :
    (r.publishClass r.epoch name file prototype).classes.get? name = some prototype := by
  rw [Registry.publishClass, if_pos rfl, Registry.recordOwner, Table.get?_insertNew, if_pos rfl, h]
  rfl

/-- A registration without a new template keeps the prototype that it tells. -/
theorem kept_of_registerStep (h : scope.host.Healthy) (hregister : ∀ id, (register id).Retains)
    {r r' : Registry} {g g' : Guards} {prototype : Option Descriptor}
    (hcalm : g.discovering = []) (hidle : g.defaulting = []) (hread : scope.host.Reads name decl)
    (hclass : r.classes.get? name = none)
    (hexec : (registerStep scope register name decl).exec ⟨r, g⟩ = (.ok prototype, ⟨r', g'⟩))
    (hknown : r'.knownTemplates ⊆ r.knownTemplates) : r'.classes.get? name = some prototype := by
  rw [registerStep, SessionM.exec_bind_ok (exec_ask _)] at hexec
  obtain ⟨p, s₁, huses, hrest⟩ := SessionM.exec_bind_eq_ok hexec
  have hretains := ((discovering_retains scope).prototypeOfUses _).of_ok huses
  obtain ⟨_, r₁, hyields, hspares, _⟩ := (Conduct.ofHealthy scope h).yields_prototypeOfUses hcalm
    hidle hread decl.annotations (List.Subset.refl _) r trivial
  cases huses.symm.trans hyields
  rw [SessionM.exec_bind_ok (exec_record _)] at hrest
  obtain ⟨_, s₂, hcheck, hpure⟩ := SessionM.exec_bind_eq_ok hrest
  cases hpure
  have hretains' := (retains_checkGenerated hregister).discard.of_ok hcheck
  -- No template was announced on the way, so the prototype is published and stays.
  have hsame := r₁.sameTemplates_publishClass name decl.file r.epoch prototype
  have hfirst : r₁.knownTemplates ⊆ r.knownTemplates :=
    List.Subset.trans (hsame.knownTemplates ▸ hretains'.known) hknown
  have hepoch : r₁.epoch = r.epoch := hretains.epoch hfirst
  -- There was no prototype before, and discoveries publish none.
  have hnone : r₁.classes.get? name = none := by
    cases hspares.spares with
    | kept _ hclasses _ _ => rw [hclasses, hclass]
    | dropped hlt _ _ _ => omega
  refine hretains'.classes ?_ ?_
  · rw [hsame.knownTemplates]
    exact List.Subset.trans hknown hretains.known
  · rw [← hepoch]
    exact publishClass_get?_self hnone

end Lookup

end PrototypeLens
