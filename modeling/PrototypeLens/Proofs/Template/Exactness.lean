import PrototypeLens.Proofs.Template.Soundness

/-!
# Exact verdicts without circular templates

Discovery counts an annotation that is being discovered as none, which is provisional on a cycle.
Where no template lies on a cycle of annotations, that never matters: no template is ever denied,
and discovery finds exactly the templates.

## Layers

- `Host.Acyclic` and `Registry.Exact`: no template lies on a cycle, and none is denied. One lemma
  for each change to the registry.
- `Registry.Exact.attests`: on an exact registry a template is attested, wherever discovery stands.
- `Task.Leads` and `Task.Ready`: what holds before a task, which lies on the way of a discovery.
- `Task.Prepared`: the same together with the registry, with a lemma for each rule that goes from a
  task to the next one.

## Main results

- `Discovery.exact` and `Lookup.Answers.exact`: discoveries and answers deny no template.
- `Registry.Sound.template_of_tells` and `Registry.Exact.tells`: what a sound and exact registry
  tells to be templates are exactly the templates.
-/

namespace PrototypeLens

open Relation (TransGen ReflTransGen)

/-- No template lies on a cycle of annotations. -/
def Host.Acyclic (host : Host) : Prop :=
  ∀ name, host.Template name → ¬ TransGen host.Carries name name

/-- No template is denied. -/
def Registry.Exact (host : Host) (r : Registry) : Prop :=
  ∀ name ∈ r.nonTemplates, ¬ host.Template name

theorem Host.not_template_of_never {host : Host} {name : String} (h : name ∈ neverTemplates) :
    ¬ host.Template name := by
  intro ht
  cases ht with
  | given hroot => exact not_mem_neverTemplates_of_root hroot h
  | marked _ hb => exact hb h
  | carried _ _ hb => exact hb h

variable {scope : Scope} {r r' : Registry} {path : NameSet} {name own : String}

namespace Registry.Exact

theorem fresh : ({} : Registry).Exact scope.host := fun _ => Host.not_template_of_never

theorem congr (h : r.Exact scope.host) (hsame : r.SameTemplates r') : r'.Exact scope.host :=
  fun name hn => h name (hsame.nonTemplates ▸ hn)

theorem announce (h : r.Exact scope.host) (name : String) :
    (r.announceTemplate name).Exact scope.host := fun n hn =>
  (r.mem_announceTemplate_nonTemplates name n hn).elim Host.not_template_of_never (h n)

theorem deny (h : r.Exact scope.host) (hname : ¬ scope.host.Template name)
    (file? : Option FileId) : (r.denyTemplate name file?).Exact scope.host := by
  intro n hn
  -- A name is denied now, or it was denied before.
  rcases r.mem_denyTemplate name n file? hn with hn | ⟨rfl, _⟩
  · exact h n hn
  · exact hname

end Registry.Exact

theorem Scope.Ensures.exact {decl : Option Declaration} {out : Except LookupError Descriptor}
    (h : scope.Ensures name decl r out r') (hr : r.Exact scope.host) : r'.Exact scope.host := by
  cases h with
  | kept _ => exact hr
  | registered _ _ =>
    rw [Registry.publishTemplate_self]
    intro n hn
    exact hr.announce name n (by simpa using hn)
  | failed _ _ => exact hr.announce name

/-- A template that all annotations under discovery lead to is attested: on the way to it no one of
them can stand. -/
theorem Registry.Exact.attests (h : r.Exact scope.host) (hacyclic : scope.host.Acyclic)
    (ht : scope.host.Template name) (hpath : ∀ m ∈ path, TransGen scope.host.Carries m name) :
    r.Attests scope.host path name := by
  -- A template on the path would lead to itself.
  have hfresh (n : String) (hn : scope.host.Template n)
      (hlead : ∀ m ∈ path, TransGen scope.host.Carries m n) :
      ¬ (n ∈ r.nonTemplates ∨ n ∈ path) := by
    rintro (hnon | hp)
    · exact h n hnon hn
    · exact hacyclic n hn (hlead n hp)
  -- The induction is on what makes it a template; everything on the way stands further out.
  induction ht with
  | given hroot =>
    have hfresh := hfresh _ (.given hroot) hpath
    exact .given ⟨fun hn => hfresh (.inl hn), .inr ⟨hroot, fun hp => hfresh (.inr hp)⟩⟩
  | marked hc hb => exact .marked hc (hfresh _ (.marked hc hb) hpath)
  | carried hc hp hb ih =>
    have hparent := ih fun m hm => (hpath m hm).tail hc
    exact .carried hc hparent (hfresh _ (.carried hc hp hb) hpath)

/-! ## Tasks on the way of a discovery -/

/-- The annotations under discovery lead to the subject of a task. -/
def Task.Leads (host : Host) (path : NameSet) : Task → Prop
  | .discover name => ∀ m ∈ path, TransGen host.Carries m name
  | .consult name => ∀ m ∈ path, TransGen host.Carries m name
  | .inspect own _ _ _ => own ∈ path ∧ ∀ m ∈ path, ReflTransGen host.Carries m own

/-- What holds before every task of a discovery. -/
structure Task.Ready (host : Host) (path : NameSet) (r : Registry) (task : Task) : Prop where
  /-- The task fits the registry. -/
  begins : task.Begins host path r
  /-- What it registers is a template. -/
  lawful : task.Lawful host neverTemplates host.Template
  /-- It lies on the way of the discovery. -/
  leads : task.Leads host path

namespace Task.Ready

variable {host : Host} {decl : Declaration} {sofar : Option Descriptor} {mark : AnnotationUse}
  {marks : List AnnotationUse} {r₁ : Registry}

theorem inspect (h : Ready host path r (.discover name)) (hdecl : host.Declares name decl) :
    Ready host (path.add name) r (.inspect name decl none decl.annotations) where
  begins := ⟨h.begins.1.symm, hdecl, List.Subset.refl _⟩
  lawful := h.lawful.inspect hdecl
  leads := by
    refine ⟨NameSet.mem_add.2 (.inl rfl), ?_⟩
    intro m hm
    -- The name itself is on the path from now on.
    rcases NameSet.mem_add.1 hm with rfl | hm
    · exact .refl
    · exact (h.leads m hm).to_reflTransGen

/-- The annotation that a list of annotations starts with is carried. -/
theorem carries (h : Ready host path r (.inspect own decl sofar (mark :: marks))) :
    host.Carries own mark.name :=
  ⟨decl, h.begins.2.1, mark, h.begins.2.2 List.mem_cons_self, rfl⟩

theorem consult (h : Ready host path r (.inspect own decl sofar (mark :: marks)))
    (hr : r.Sound neverTemplates host.Template) (hnon : mark.name ∉ r.nonTemplates) :
    Ready host path r (.consult mark.name) where
  begins := hnon
  lawful := hr.not_barred hnon
  leads m hm := .tail' (h.leads.2 m hm) h.carries

/-- The rest is ready as long as `sofar` tells what is kept. -/
theorem rest (h : Ready host path r (.inspect own decl sofar (mark :: marks)))
    {sofar' : Option Descriptor} (hsofar : sofar' = r₁.templates.get? own)
    (hown : sofar'.isSome → host.Template own) :
    Ready host path r₁ (.inspect own decl sofar' marks) where
  begins := ⟨hsofar, h.begins.2.1, (List.cons_subset.1 h.begins.2.2).2⟩
  lawful := h.lawful.rest hown
  leads := h.leads

theorem opened (h : Ready host path r (.consult name)) (hget : r.templates.get? name = none)
    (hmet : name ∉ path) : Ready host path r (.discover name) where
  begins := ⟨hget, hmet, h.begins⟩
  lawful := h.lawful
  leads := h.leads

theorem start (hr : r.Sound neverTemplates host.Template) (hget : r.templates.get? name = none)
    (hnon : name ∉ r.nonTemplates) : Ready host [] r (.discover name) where
  begins := ⟨hget, by simp, hnon⟩
  lawful := hr.not_barred hnon
  leads := by simp [Leads]

end Task.Ready

/-! ## After an annotation -/

/-- An annotation that was asked for and not found is no template. -/
theorem Discovery.not_template (h : Discovery scope path (.consult name) r (.ok none) r')
    (hacyclic : scope.host.Acyclic) (hexact : r.Exact scope.host)
    (hready : (Task.consult name).Ready scope.host path r) : ¬ scope.host.Template name := by
  intro ht
  obtain ⟨hunattested, _⟩ := h.verdict hready.begins
  exact hunattested (hexact.attests hacyclic ht hready.leads)

/-- What remains of the annotations is ready after one that was passed over. -/
theorem Discovery.ready_of_passed {decl : Declaration} {sofar : Option Descriptor}
    {mark : AnnotationUse} {marks : List AnnotationUse}
    (h : Discovery scope path (.consult mark.name) r (.ok none) r')
    (hnon : mark.name ∉ r.nonTemplates)
    (hready : (Task.inspect own decl sofar (mark :: marks)).Ready scope.host path r) :
    (Task.inspect own decl sofar marks).Ready scope.host path (r'.denyTemplate mark.name none) := by
  obtain ⟨_, hquiet⟩ := h.verdict hnon
  refine hready.rest ?_ hready.lawful.2.2.2
  rw [Registry.denyTemplate_templates, hquiet.templates]
  exact hready.begins.1

/-- What remains of the annotations is ready after one that made a template. -/
theorem Scope.Ensures.ready {decl : Declaration} {sofar : Option Descriptor} {mark : AnnotationUse}
    {marks : List AnnotationUse} {r₁ : Registry} {defaults : Descriptor}
    (h : scope.Ensures own (some decl) r₁ (.ok defaults) r')
    (hready : (Task.inspect own decl sofar (mark :: marks)).Ready scope.host path r)
    (hmark : mark.name = templateMarker ∨ scope.host.Template mark.name) :
    (Task.inspect own decl (some defaults) marks).Ready scope.host path r' := by
  have hown : scope.host.Template own :=
    hready.lawful.member scope.host.closed_template hmark
  exact hready.rest h.get?.symm fun _ => hown

/-! ## Prepared tasks -/

/-- What holds before every task of a discovery without circular templates: the registry holds
templates only and denies none, and the task is ready. -/
structure Task.Prepared (scope : Scope) (path : NameSet) (r : Registry) (task : Task) : Prop where
  sound : r.Sound neverTemplates scope.host.Template
  exact : r.Exact scope.host
  ready : task.Ready scope.host path r

namespace Task.Prepared

variable {decl : Declaration} {sofar : Option Descriptor} {mark : AnnotationUse}
  {marks : List AnnotationUse} {r₁ r₂ : Registry} {parent defaults : Descriptor}

theorem start (hr : r.Sound neverTemplates scope.host.Template) (hexact : r.Exact scope.host)
    (hget : r.templates.get? name = none) (hnon : name ∉ r.nonTemplates) :
    Prepared scope [] r (.discover name) :=
  ⟨hr, hexact, .start hr hget hnon⟩

theorem inspect (h : Prepared scope path r (.discover name))
    (hdecl : scope.host.Declares name decl) :
    Prepared scope (path.add name) r (.inspect name decl none decl.annotations) :=
  ⟨h.sound, h.exact, h.ready.inspect hdecl⟩

theorem opened (h : Prepared scope path r (.consult name)) (hget : r.templates.get? name = none)
    (hmet : name ∉ path) : Prepared scope path r (.discover name) :=
  ⟨h.sound, h.exact, h.ready.opened hget hmet⟩

theorem consult (h : Prepared scope path r (.inspect own decl sofar (mark :: marks)))
    (hnon : mark.name ∉ r.nonTemplates) : Prepared scope path r (.consult mark.name) :=
  ⟨h.sound, h.exact, h.ready.consult h.sound hnon⟩

theorem finds (h : Prepared scope path r (.inspect own decl sofar marks)) :
    scope.host.Finds own (some decl) := h.ready.begins.2.1.finds

/-- What is inspected is being discovered. -/
theorem met (h : Prepared scope path r (.inspect own decl sofar marks)) : own ∈ path :=
  h.ready.leads.1

/-! ### From one annotation to the rest

The marker and a template on a declaration make it a template; any other annotation leaves `sofar`
as it is. -/

theorem template_marked (h : Prepared scope path r (.inspect own decl sofar (mark :: marks)))
    (hmarker : mark.name = templateMarker) : scope.host.Template own :=
  h.ready.lawful.member scope.host.closed_template (.inl hmarker)

theorem template_consulted (h : Prepared scope path r (.consult name))
    (hconsult : Discovery scope path (.consult name) r (.ok (some parent)) r₁) :
    scope.host.Template name :=
  (hconsult.sound scope.host.closed_template h.sound h.ready.lawful).2.1 parent rfl

theorem template_carried (h : Prepared scope path r (.inspect own decl sofar (mark :: marks)))
    (hmark : scope.host.Template mark.name) : scope.host.Template own :=
  h.ready.lawful.member scope.host.closed_template (.inr hmark)

theorem sound_consulted {found : Option Descriptor} (h : Prepared scope path r (.consult name))
    (hconsult : Discovery scope path (.consult name) r (.ok found) r₁) :
    r₁.Sound neverTemplates scope.host.Template :=
  (hconsult.sound scope.host.closed_template h.sound h.ready.lawful).1

theorem marked (h : Prepared scope path r (.inspect own decl sofar (mark :: marks)))
    (hmarker : mark.name = templateMarker)
    (hens : scope.Ensures own (some decl) r (.ok defaults) r₁) :
    Prepared scope path r₁ (.inspect own decl (some defaults) marks) where
  sound := hens.sound h.sound (h.template_marked hmarker)
  exact := hens.exact h.exact
  ready := hens.ready h.ready (.inl hmarker)

theorem barred (h : Prepared scope path r (.inspect own decl sofar (mark :: marks))) :
    Prepared scope path r (.inspect own decl sofar marks) :=
  ⟨h.sound, h.exact, h.ready.rest h.ready.begins.1 h.ready.lawful.2.2.2⟩

theorem carried (h : Prepared scope path r (.inspect own decl sofar (mark :: marks)))
    (hnon : mark.name ∉ r.nonTemplates)
    (hconsult : Discovery scope path (.consult mark.name) r (.ok (some parent)) r₁)
    (hexact₁ : r₁.Exact scope.host)
    (hens : scope.Ensures own (some decl) (r₁.recordDependent mark.name own) (.ok defaults) r₂) :
    Prepared scope path r₂ (.inspect own decl (some defaults) marks) := by
  have hasked := h.consult hnon
  have hmark := hasked.template_consulted hconsult
  have hr₁ := (hasked.sound_consulted hconsult).recordDependent mark.name own
  have hown := h.template_carried hmark
  exact ⟨hens.sound hr₁ hown, hens.exact hexact₁, hens.ready h.ready (.inr hmark)⟩

theorem passed (h : Prepared scope path r (.inspect own decl sofar (mark :: marks)))
    (hacyclic : scope.host.Acyclic) (hnon : mark.name ∉ r.nonTemplates)
    (hconsult : Discovery scope path (.consult mark.name) r (.ok none) r₁)
    (hexact₁ : r₁.Exact scope.host) :
    Prepared scope path (r₁.denyTemplate mark.name none) (.inspect own decl sofar marks) := by
  have hasked := h.consult hnon
  have hnot := hconsult.not_template hacyclic h.exact hasked.ready
  exact ⟨(hasked.sound_consulted hconsult).deny _ _, hexact₁.deny hnot _,
    hconsult.ready_of_passed hnon h.ready⟩

end Task.Prepared

/-! ## Discovery denies no template -/

/-- Without circular templates discovery denies no template. -/
theorem Discovery.exact {task : Task} {out : Except LookupError (Option Descriptor)}
    (h : Discovery scope path task r out r') (hacyclic : scope.host.Acyclic)
    (hprepared : task.Prepared scope path r) : r'.Exact scope.host := by
  -- A name is denied in two places: on the way out of its discovery, and where it was passed over.
  induction h with
  | root _ _ hens => exact hens.exact hprepared.exact
  | undeclared _ _ => exact hprepared.exact
  | decided _ hdecl _ _ ih => exact ih (hprepared.inspect hdecl)
  | denied hroot hdecl hinspect ih =>
    have hready := hprepared.ready
    obtain ⟨hunattested, _⟩ := (Discovery.denied hroot hdecl hinspect).verdict hready.begins
    refine (ih (hprepared.inspect hdecl)).deny ?_ _
    intro ht
    exact hunattested (hprepared.exact.attests hacyclic ht hready.leads)
  | kept _ => exact hprepared.exact
  | circular _ _ => exact hprepared.exact
  | opened hget hmet _ ih => exact ih (hprepared.opened hget hmet)
  | done => exact hprepared.exact
  | marked hmarker hens _ ih => exact ih (hprepared.marked hmarker hens)
  | markedFailed _ hens => exact hens.exact hprepared.exact
  | barred _ _ _ ih => exact ih hprepared.barred
  | carried _ hnon hconsult hens _ ihConsult ih =>
    exact ih (hprepared.carried hnon hconsult (ihConsult (hprepared.consult hnon)) hens)
  | carriedFailed _ hnon _ hens ihConsult => exact hens.exact (ihConsult (hprepared.consult hnon))
  | passed _ hnon hconsult _ ihConsult ih =>
    exact ih (hprepared.passed hacyclic hnon hconsult (ihConsult (hprepared.consult hnon)))
  | failing _ hnon _ ihConsult => exact ihConsult (hprepared.consult hnon)

/-- Without circular templates answers deny no template. -/
theorem Lookup.Answers.exact {out : Except LookupError (Option Descriptor)}
    (h : Lookup.Answers scope name r out r') (hacyclic : scope.host.Acyclic)
    (hr : r.Sound neverTemplates scope.host.Template) (hexact : r.Exact scope.host) :
    r'.Exact scope.host := by
  cases h with
  | kept _ => exact hexact
  | barred _ _ => exact hexact
  | discovered hget hnon hdisc => exact hdisc.exact hacyclic (.start hr hexact hget hnon)

/-- What a sound registry tells to be a template is one. -/
theorem Registry.Sound.template_of_tells (hr : r.Sound neverTemplates scope.host.Template)
    (h : r.Tells scope.host name) : scope.host.Template name := by
  have hkept (n : String) (hsome : (r.templates.get? n).isSome) : scope.host.Template n := by
    obtain ⟨d, hget⟩ := Option.isSome_iff_exists.1 hsome
    exact hr.known (hr.kept hget)
  rcases h with hsome | ha
  · exact hkept name hsome
  · refine ha.mono ?_ ?_
    · rintro n ⟨_, hsome | ⟨hroot, _⟩⟩
      · exact hkept n hsome
      · exact .given hroot
    · -- What is denied is attested in no way.
      intro n hn
      exact .inl (hr.denied hn)

/-- An exact registry tells every template. -/
theorem Registry.Exact.tells (h : r.Exact scope.host) (hacyclic : scope.host.Acyclic)
    (ht : scope.host.Template name) : r.Tells scope.host name :=
  .inr (h.attests hacyclic ht (by simp))

end PrototypeLens
