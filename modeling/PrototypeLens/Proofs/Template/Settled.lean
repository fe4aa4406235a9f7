import PrototypeLens.Proofs.Template.Exactness

/-!
# Kept defaults are the declared ones

A template is registered while the annotations on it are still being taken, so that defaults are
published that inherit from the wrong template. Announcing a further template drops them. Without
circular templates, and without templates on the roots and on the marker, a discovery ends with
every template known that stands on a known one, and with declared defaults only.

## Layers

- `Host.Grounded`: the roots and the marker carry no template.
- `Registry.Settled`: the invariant, kept defaults are declared and known templates are covered
  except on the path of the discovery; one lemma for each change of a registry.
- `Task.Settles`: what a task leaves behind, with one lemma for each rule of discovery.

## Main results

- `Scope.Ensures.settled`: registering a template on the path, or one that carries none, settles
  nothing wrongly.
- `Discovery.settles`: a whole discovery keeps the invariant.
- `Registry.Settled.defaults_template`: between calls what is kept is what is declared.
-/

namespace PrototypeLens

open Relation (TransGen ReflTransGen)

/-- The roots and the marker carry no template. -/
structure Host.Grounded (host : Host) : Prop where
  root {name parent : String} : name ∈ rootTemplates → host.Carries name parent →
    ¬ host.Template parent
  marker {parent : String} : host.Carries templateMarker parent → ¬ host.Template parent

/-- The marker is no template. -/
theorem Host.Grounded.not_template_marker {host : Host} (h : host.Grounded)
    (hacyclic : host.Acyclic) : ¬ host.Template templateMarker := by
  intro ht
  -- The marker is not a root, and what stands on it is no template; so it could only carry itself.
  cases hcases : ht with
  | given hroot =>
    have hdifferent : templateMarker ∉ rootTemplates := by decide
    exact hdifferent hroot
  | marked hc _ => exact hacyclic templateMarker ht (.single hc)
  | carried hc hp _ => exact h.marker hc hp

/-- The kept defaults are the declared ones among the known templates, and except on what is being
discovered the templates on known templates are known. -/
structure Registry.Settled (scope : Scope) (path : NameSet) (r : Registry) : Prop where
  defaults {name : String} {d : Descriptor} : r.templates.get? name = some d →
    scope.Defaults (· ∈ r.knownTemplates) name d
  covered {name parent : String} : name ∈ r.knownTemplates → name ∉ path →
    scope.host.Carries name parent → scope.host.Template parent → parent ∈ r.knownTemplates

variable {scope : Scope} {r r' : Registry} {path : NameSet} {name own : String}

namespace Registry.Settled

theorem fresh : ({} : Registry).Settled scope [] where
  defaults h := nomatch h
  covered h := nomatch h

theorem deny (h : r.Settled scope path) (name : String) (file? : Option FileId) :
    (r.denyTemplate name file?).Settled scope path where
  defaults hget := by
    rw [Registry.denyTemplate_templates] at hget
    simpa using h.defaults hget
  covered hk hpath hc ht := by simpa using h.covered (by simpa using hk) hpath hc ht

theorem congr (h : r.Settled scope path) (hsame : r.SameTemplates r') : r'.Settled scope path where
  defaults hget := by
    rw [hsame.knownTemplates]
    exact h.defaults (hsame.templates ▸ hget)
  covered hk hpath hc ht := by
    rw [hsame.knownTemplates] at hk ⊢
    exact h.covered hk hpath hc ht

theorem recordDependent (h : r.Settled scope path) (parent dependent : String) :
    (r.recordDependent parent dependent).Settled scope path :=
  h.congr (r.sameTemplates_recordDependent parent dependent)

theorem add (h : r.Settled scope path) (name : String) : r.Settled scope (path.add name) where
  defaults := h.defaults
  covered hk hpath := h.covered hk fun hp => hpath (NameSet.mem_add.2 (.inr hp))

/-- A discovery is over once the templates on its annotation are known. -/
theorem of_add (h : r.Settled scope (path.add name))
    (hname : ∀ parent, scope.host.Carries name parent → scope.host.Template parent →
      parent ∈ r.knownTemplates) : r.Settled scope path where
  defaults := h.defaults
  covered {other parent} hk hpath hc ht := by
    by_cases hother : other = name
    · subst hother
      exact hname parent hc ht
    · exact h.covered hk (fun hp => (NameSet.mem_add.1 hp).elim hother hpath) hc ht

/-- Announcing a template settles nothing that was not settled before, if the template is being
discovered or carries none. -/
theorem announce (h : r.Settled scope path)
    (hname : name ∈ path ∨ ∀ parent, scope.host.Carries name parent →
      ¬ scope.host.Template parent) : (r.announceTemplate name).Settled scope path where
  defaults hget := by
    obtain ⟨hk, hget⟩ := r.announceTemplate_templates_get? name _ hget
    rw [Registry.announceTemplate, if_pos hk]
    exact h.defaults hget
  covered {other parent} hk hpath hc ht := by
    rw [Registry.mem_announceTemplate_knownTemplates]
    -- Either the announced name itself, which is on the path or bare, or one that was known before.
    rcases (r.mem_announceTemplate_knownTemplates name other).1 hk with rfl | hk
    · exact hname.elim (absurd · hpath) fun hnone => absurd ht (hnone parent hc)
    · exact .inr (h.covered hk hpath hc ht)

theorem publish (h : r.Settled scope path) {d : Descriptor}
    (hd : scope.Defaults (· ∈ r.knownTemplates) name d) (file? : Option FileId) :
    (r.publishTemplate r.epoch name file? d).Settled scope path := by
  rw [Registry.publishTemplate_self]
  refine ⟨?_, ?_⟩
  · intro other d' hget
    rw [Registry.recordOwner?_templates, Table.get?_insertNew] at hget
    rw [Registry.recordOwner?_knownTemplates]
    by_cases hother : other = name
    · -- What is kept already stays; both are declared.
      rw [if_pos hother] at hget
      subst hother
      cases hkept : r.templates.get? other with
      | none =>
        rw [hkept] at hget
        cases hget
        exact hd
      | some d₀ =>
        rw [hkept] at hget
        cases hget
        exact h.defaults hkept
    · rw [if_neg hother] at hget
      exact h.defaults hget
  · intro other parent hk hpath hc ht
    rw [Registry.recordOwner?_knownTemplates] at hk ⊢
    exact h.covered hk hpath hc ht

end Registry.Settled

namespace Scope.Ensures

variable {decl : Option Declaration} {out : Except LookupError Descriptor}

theorem known_mono (h : scope.Ensures name decl r out r') :
    r.knownTemplates ⊆ r'.knownTemplates := by
  intro n hn
  have hann := r.knownTemplates_subset_announceTemplate name hn
  cases h with
  | kept _ => exact hn
  | registered _ _ => rwa [Registry.publishTemplate_self, Registry.recordOwner?_knownTemplates]
  | failed _ _ => exact hann

/-- Making sure of a template publishes its declared defaults. -/
theorem settled (h : scope.Ensures name decl r out r') (hacyclic : scope.host.Acyclic)
    (hr : r.Sound neverTemplates scope.host.Template) (hset : r.Settled scope path)
    (ht : scope.host.Template name)
    (hname : name ∈ path ∨ ∀ parent, scope.host.Carries name parent →
      ¬ scope.host.Template parent)
    (hfind : scope.host.Finds name decl) : r'.Settled scope path := by
  have hset₁ : (r.announceTemplate name).Settled scope path := hset.announce hname
  have hr₁ := hr.announce ht
  cases h with
  | kept _ => exact hset
  | registered _ hok =>
    have hknown := r.mem_knownTemplates_announceTemplate name
    apply hset₁.publish
    -- The announcement dropped everything if it was new, so what is computed now starts from
    -- declared defaults.
    apply defaults_of_defaultsOf _ _ hfind hknown hok
    · intro n hn
      exact hacyclic n (hr₁.known hn)
    · intro n d hget
      exact hset₁.defaults hget
  | failed _ _ => exact hset₁

end Scope.Ensures

/-! ## Discovery settles -/

/-- The templates among the annotations that a task takes are known. -/
def Task.Covers (host : Host) (r : Registry) : Task → Prop
  | .inspect _ _ _ marks => ∀ mark ∈ marks, host.Template mark.name → mark.name ∈ r.knownTemplates
  | _ => True

/-- What a task that succeeds leaves behind. -/
structure Task.Settles (scope : Scope) (path : NameSet) (task : Task) (r r' : Registry) : Prop where
  known_mono : r.knownTemplates ⊆ r'.knownTemplates
  settled : r'.Settled scope path
  covers : task.Covers scope.host r'

namespace Task.Settles

variable {decl : Declaration} {sofar sofar' : Option Descriptor} {mark : AnnotationUse}
  {marks : List AnnotationUse} {r₁ : Registry}

/-- A discovery ends when all annotations on the declaration are taken. -/
theorem discover (h : Settles scope (path.add name) (.inspect name decl none decl.annotations) r r')
    (hdecl : scope.host.Declares name decl) : Settles scope path (.discover name) r r' where
  known_mono := h.known_mono
  settled := by
    -- What stands on the declaration was just taken.
    apply h.settled.of_add
    intro parent hc ht
    obtain ⟨use, huse, rfl⟩ := hdecl.carries_iff.1 hc
    exact h.covers use huse ht
  covers := trivial

theorem deny (h : Settles scope path (.discover name) r r') (file? : Option FileId) :
    Settles scope path (.discover name) r (r'.denyTemplate name file?) where
  known_mono := by
    rw [Registry.denyTemplate_knownTemplates]
    exact h.known_mono
  settled := h.settled.deny _ _
  covers := trivial

/-- One annotation is covered, then the rest. -/
theorem cons (h : Settles scope path (.inspect own decl sofar' marks) r₁ r')
    (hmono : r.knownTemplates ⊆ r₁.knownTemplates)
    (hmark : scope.host.Template mark.name → mark.name ∈ r₁.knownTemplates) :
    Settles scope path (.inspect own decl sofar (mark :: marks)) r r' where
  known_mono := List.Subset.trans hmono h.known_mono
  settled := h.settled
  covers := List.forall_mem_cons.2 ⟨fun ht => h.known_mono (hmark ht), h.covers⟩

/-! ### What each way of going on leaves behind -/

section

variable {parent defaults : Descriptor} {r₂ : Registry}

/-- A root is made sure of; it carries nothing that would have to be known. -/
theorem root {decl : Option Declaration} {out : Except LookupError Descriptor}
    (hset : r.Settled scope path) (hr : r.Sound neverTemplates scope.host.Template)
    (hacyclic : scope.host.Acyclic) (hgrounded : scope.host.Grounded)
    (hroot : name ∈ rootTemplates) (hfind : scope.host.Finds name decl)
    (hens : scope.Ensures name decl r out r') : Settles scope path (.discover name) r r' := by
  have hbare : ∀ parent, scope.host.Carries name parent → ¬ scope.host.Template parent :=
    fun _ hc => hgrounded.root hroot hc
  exact ⟨hens.known_mono, hens.settled hacyclic hr hset (.given hroot) (.inr hbare) hfind, trivial⟩

/-- The marker is no template, so that it does not have to be known. -/
theorem marked (hprepared : Prepared scope path r (.inspect own decl sofar (mark :: marks)))
    (hset : r.Settled scope path) (hacyclic : scope.host.Acyclic)
    (hgrounded : scope.host.Grounded) (hmarker : mark.name = templateMarker)
    (hens : scope.Ensures own (some decl) r (.ok defaults) r₁)
    (hrest : r₁.Settled scope path → Settles scope path (.inspect own decl sofar' marks) r₁ r') :
    Settles scope path (.inspect own decl sofar (mark :: marks)) r r' := by
  have hown := hprepared.template_marked hmarker
  have hset₁ : r₁.Settled scope path :=
    hens.settled hacyclic hprepared.sound hset hown (.inl hprepared.met) hprepared.finds
  refine (hrest hset₁).cons hens.known_mono fun ht => absurd ht ?_
  rw [hmarker]
  exact hgrounded.not_template_marker hacyclic

/-- What is denied is no template. -/
theorem barred (hprepared : Prepared scope path r (.inspect own decl sofar (mark :: marks)))
    (hnon : mark.name ∈ r.nonTemplates)
    (hrest : Settles scope path (.inspect own decl sofar' marks) r r') :
    Settles scope path (.inspect own decl sofar (mark :: marks)) r r' :=
  hrest.cons (List.Subset.refl _) fun ht => absurd ht (hprepared.exact _ hnon)

/-- The consultation ends with the defaults of the template kept, hence with it known. -/
theorem carried (hprepared : Prepared scope path r (.inspect own decl sofar (mark :: marks)))
    (hacyclic : scope.host.Acyclic) (hnon : mark.name ∉ r.nonTemplates)
    (hconsult : Discovery scope path (.consult mark.name) r (.ok (some parent)) r₁)
    (hconsulted : Settles scope path (.consult mark.name) r r₁)
    (hens : scope.Ensures own (some decl) (r₁.recordDependent mark.name own) (.ok defaults) r₂)
    (hrest : r₂.Settled scope path → Settles scope path (.inspect own decl sofar' marks) r₂ r') :
    Settles scope path (.inspect own decl sofar (mark :: marks)) r r' := by
  have hasked := hprepared.consult hnon
  have hown := hprepared.template_carried (hasked.template_consulted hconsult)
  have hr₁ := hasked.sound_consulted hconsult
  have hset₂ : r₂.Settled scope path :=
    hens.settled hacyclic (hr₁.recordDependent _ _) (hconsulted.settled.recordDependent _ _) hown
      (.inl hprepared.met) hprepared.finds
  have hkept : r₁.templates.get? mark.name = some parent :=
    (hconsult.verdict hasked.ready.begins).2
  refine (hrest hset₂).cons (List.Subset.trans hconsulted.known_mono hens.known_mono) fun _ => ?_
  exact hens.known_mono (hr₁.kept hkept)

/-- What was consulted in vain is no template. -/
theorem passed (hprepared : Prepared scope path r (.inspect own decl sofar (mark :: marks)))
    (hacyclic : scope.host.Acyclic) (hnon : mark.name ∉ r.nonTemplates)
    (hconsult : Discovery scope path (.consult mark.name) r (.ok none) r₁)
    (hconsulted : Settles scope path (.consult mark.name) r r₁)
    (hrest : (r₁.denyTemplate mark.name none).Settled scope path →
      Settles scope path (.inspect own decl sofar' marks) (r₁.denyTemplate mark.name none) r') :
    Settles scope path (.inspect own decl sofar (mark :: marks)) r r' := by
  have hnot := hconsult.not_template hacyclic hprepared.exact (hprepared.consult hnon).ready
  refine (hrest (hconsulted.settled.deny _ _)).cons ?_ fun ht => absurd ht hnot
  rw [Registry.denyTemplate_knownTemplates]
  exact hconsulted.known_mono

end

end Task.Settles

/-- A discovery without circular templates leaves settled what was settled. -/
theorem Discovery.settles {task : Task} {out : Except LookupError (Option Descriptor)}
    (h : Discovery scope path task r out r') (hacyclic : scope.host.Acyclic)
    (hgrounded : scope.host.Grounded) (hprepared : task.Prepared scope path r)
    (hset : r.Settled scope path) :
    ∀ found, out = .ok found → task.Settles scope path r r' := by
  -- What was registered too early was published before the templates that a declaration carries
  -- were known; each of them drops it when it is announced. So only the end of a task is settled.
  induction h with
  | root hroot hfind hens =>
    exact fun _ _ => .root hset hprepared.sound hacyclic hgrounded hroot hfind hens
  | undeclared _ _ => exact fun _ _ => ⟨List.Subset.refl _, hset, trivial⟩
  | decided _ hdecl _ _ ih =>
    exact fun found hout =>
      (ih (hprepared.inspect hdecl) (hset.add _) found hout).discover hdecl
  | denied _ hdecl _ ih =>
    have hinspected := ih (hprepared.inspect hdecl) (hset.add _) none rfl
    exact fun _ _ => (hinspected.discover hdecl).deny _
  | kept _ => exact fun _ _ => ⟨List.Subset.refl _, hset, trivial⟩
  | circular _ _ => exact fun _ _ => ⟨List.Subset.refl _, hset, trivial⟩
  | opened hget hmet _ ih =>
    intro found hout
    obtain ⟨hmono, hset', _⟩ := ih (hprepared.opened hget hmet) hset found hout
    exact ⟨hmono, hset', trivial⟩
  | done => exact fun _ _ => ⟨List.Subset.refl _, hset, by simp [Task.Covers]⟩
  | marked hmarker hens _ ih =>
    exact fun found hout => .marked hprepared hset hacyclic hgrounded hmarker hens
      fun hset₁ => ih (hprepared.marked hmarker hens) hset₁ found hout
  | barred _ hnon _ ih =>
    exact fun found hout => .barred hprepared hnon (ih hprepared.barred hset found hout)
  | carried _ hnon hconsult hens _ ihConsult ih =>
    have hasked := hprepared.consult hnon
    have hprepared' := hprepared.carried hnon hconsult (hconsult.exact hacyclic hasked) hens
    exact fun found hout => .carried hprepared hacyclic hnon hconsult (ihConsult hasked hset _ rfl)
      hens fun hset₂ => ih hprepared' hset₂ found hout
  | passed _ hnon hconsult _ ihConsult ih =>
    have hasked := hprepared.consult hnon
    have hprepared' := hprepared.passed hacyclic hnon hconsult (hconsult.exact hacyclic hasked)
    exact fun found hout => .passed hprepared hacyclic hnon hconsult (ihConsult hasked hset _ rfl)
      fun hset₁ => ih hprepared' hset₁ found hout
  -- A task that fails leaves nothing to be settled.
  | markedFailed _ _ => exact fun _ hout => by cases hout
  | carriedFailed _ _ _ _ _ => exact fun _ hout => by cases hout
  | failing _ _ _ _ => exact fun _ hout => by cases hout

/-- An answer without circular templates leaves settled what was settled. -/
theorem Lookup.Answers.settled {found : Option Descriptor}
    (h : Lookup.Answers scope name r (.ok found) r') (hacyclic : scope.host.Acyclic)
    (hgrounded : scope.host.Grounded) (hr : r.Sound neverTemplates scope.host.Template)
    (hexact : r.Exact scope.host) (hset : r.Settled scope []) : r'.Settled scope [] := by
  cases h with
  | kept _ => exact hset
  | barred _ _ => exact hset
  | discovered hget hnon hdisc =>
    have hsettles := hdisc.settles hacyclic hgrounded (.start hr hexact hget hnon) hset
    exact (hsettles found rfl).settled

/-- In a settled registry kept defaults are the declared ones among all templates. -/
theorem Registry.Settled.defaults_template (h : r.Settled scope [])
    (hr : r.Sound neverTemplates scope.host.Template) {d : Descriptor}
    (hget : r.templates.get? name = some d) : scope.Defaults scope.host.Template name d := by
  apply (h.defaults hget).congr (hr.kept hget)
  -- Among the annotations on a known template, the known ones are the templates: nothing is on the
  -- path.
  intro n decl hk hdecl use huse
  constructor
  · intro hknown
    exact hr.known hknown
  · intro ht
    exact h.covered hk (by simp) ⟨decl, hdecl, use, huse, rfl⟩ ht

end PrototypeLens
