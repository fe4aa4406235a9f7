import PrototypeLens.Proofs.Template.Settled

/-!
# Defaults that stay behind

A registry may keep defaults that are no longer the declared ones. A discovery that announces no
template takes them as they are, and computes further defaults from them. The first template that it
announces drops all of them, and from then on only declared defaults are computed. It announces none
exactly if the template that it finds is known together with all templates that it derives from.

## Layers

- `Registry.Complete`: a template is known, and so is all that it derives from.
- `Registry.RestsOn`: what a registry keeps is told from some defaults that it started with, and
  what is complete except on the path of the discovery.
- `Registry.Proceeds`: one of two things happened to a registry; either nothing was announced and it
  rests on the same defaults, or something was and it rests on none.
- `Task.Retains`: what a task leaves behind, with one lemma for each rule of discovery.

## Main results

- `Scope.Computes.template`: around a complete template the known templates compute what all
  compute.
- `Registry.Proceeds.trans`: the two outcomes of a step compose.
- `Discovery.retains`: a whole discovery takes what is kept as it is, or drops all of it.
- `Lookup.Answers.retained`: which of the two an answer shows.
-/

namespace PrototypeLens

open Relation (TransGen ReflTransGen)

/-! ## Complete templates -/

/-- The declaration of a name carries a template. -/
def Host.Derives (host : Host) (name parent : String) : Prop :=
  host.Carries name parent ∧ host.Template parent

/-- A template is known, and so are all that it derives from. -/
def Registry.Complete (host : Host) (r : Registry) (name : String) : Prop :=
  ∀ parent, ReflTransGen host.Derives name parent → parent ∈ r.knownTemplates

variable {scope : Scope} {kept : String → Option Descriptor} {path : NameSet}
  {r r₁ r' : Registry} {name own : String}

namespace Registry.Complete

variable {host : Host} {parent : String}

theorem known (h : r.Complete host name) : name ∈ r.knownTemplates := h name .refl

theorem mono (h : r.Complete host name) (hsub : r.knownTemplates ⊆ r'.knownTemplates) :
    r'.Complete host name := fun parent hparent => hsub (h parent hparent)

theorem carried (h : r.Complete host name) (hcarries : host.Carries name parent)
    (ht : host.Template parent) : r.Complete host parent := fun other hother =>
  h other (.head ⟨hcarries, ht⟩ hother)

theorem of_parents (hk : name ∈ r.knownTemplates) (hparents : ∀ parent, host.Carries name parent →
    host.Template parent → r.Complete host parent) : r.Complete host name := by
  intro other hother
  -- Along the chain of templates that the name derives from: it is empty, or starts with one that
  -- the name carries.
  rcases Relation.ReflTransGen.cases_head hother with rfl | ⟨parent, ⟨hcarries, ht⟩, hrest⟩
  · exact hk
  · exact hparents parent hcarries ht other hrest

/-- Around a complete template exactly the templates are known. -/
theorem known_iff (h : r.Complete scope.host name)
    (hr : r.Sound neverTemplates scope.host.Template) {decl : Declaration}
    (hdecl : scope.host.Declares name decl) :
    ∀ use ∈ decl.annotations, (use.name ∈ r.knownTemplates ↔ scope.host.Template use.name) :=
  fun use huse => ⟨hr.known, fun ht => (h.carried ⟨decl, hdecl, use, huse, rfl⟩ ht).known⟩

end Registry.Complete

/-- What is computed for a complete template by the known templates is computed by all. -/
theorem Scope.Computes.template {d : Descriptor}
    (h : scope.Computes kept (· ∈ r.knownTemplates) name d)
    (hr : r.Sound neverTemplates scope.host.Template) (hcomplete : r.Complete scope.host name) :
    scope.Computes kept scope.host.Template name d := by
  -- By induction on what is computed; completeness passes to the template that it is computed from.
  induction h with
  | base hfind hnone hown =>
    refine .base hfind (fun decl hdecl use huse ht => hnone decl hdecl use huse ?_) hown
    cases hdecl
    exact (hcomplete.known_iff hr (Host.finds_some_iff.1 hfind) use huse).2 ht
  | kept hdecl hfirst hkept htaken hown =>
    exact .kept hdecl (hfirst.congr (hcomplete.known_iff hr hdecl)) hkept htaken hown
  | computed hdecl hfirst hnone _ htaken hown ih =>
    have hfirst' := hfirst.congr (hcomplete.known_iff hr hdecl)
    have hparent := hcomplete.carried ⟨_, hdecl, _, hfirst.mem, rfl⟩ hfirst'.holds
    exact .computed hdecl hfirst' hnone (ih hparent) htaken hown

theorem Scope.Told.template {d : Descriptor} (h : scope.Told kept (· ∈ r.knownTemplates) name d)
    (hr : r.Sound neverTemplates scope.host.Template) (hcomplete : r.Complete scope.host name) :
    scope.Told kept scope.host.Template name d :=
  h.imp_right fun ⟨hnone, hcomputes⟩ => ⟨hnone, hcomputes.template hr hcomplete⟩

/-! ## What a registry rests on -/

/-- The registry keeps certain defaults, and others only that are computed from them. Except on what
is being discovered, it keeps those of complete templates only. -/
structure Registry.RestsOn (scope : Scope) (kept : String → Option Descriptor) (path : NameSet)
    (r : Registry) : Prop where
  retains {name : String} : r.templates.get? name = none → kept name = none
  told {name : String} {d : Descriptor} : r.templates.get? name = some d →
    scope.Told kept (· ∈ r.knownTemplates) name d
  complete {name : String} {d : Descriptor} : r.templates.get? name = some d → name ∉ path →
    r.Complete scope.host name

namespace Registry.RestsOn

theorem congr (h : r.RestsOn scope kept path) (htemplates : r'.templates = r.templates)
    (hknown : r'.knownTemplates = r.knownTemplates) : r'.RestsOn scope kept path where
  retains hget := h.retains (htemplates ▸ hget)
  told hget := by
    rw [hknown]
    exact h.told (htemplates ▸ hget)
  complete hget hpath := (h.complete (htemplates ▸ hget) hpath).mono (hknown ▸ List.Subset.refl _)

theorem add (h : r.RestsOn scope kept path) (name : String) :
    r.RestsOn scope kept (path.add name) where
  retains := h.retains
  told := h.told
  complete hget hpath := h.complete hget fun hp => hpath (NameSet.mem_add.2 (.inr hp))

/-- A discovery is over once the templates on its annotation are complete. -/
theorem of_add (h : r.RestsOn scope kept (path.add name))
    (hr : r.Sound neverTemplates scope.host.Template)
    (hparents : ∀ parent, scope.host.Carries name parent → scope.host.Template parent →
      r.Complete scope.host parent) : r.RestsOn scope kept path where
  retains := h.retains
  told := h.told
  complete {other d} hget hpath := by
    by_cases hother : other = name
    · subst hother
      exact .of_parents (hr.kept hget) hparents
    · exact h.complete hget fun hp => (NameSet.mem_add.1 hp).elim hother hpath

/-- A new template leaves nothing. -/
theorem announce (hnew : name ∉ r.knownTemplates) :
    (r.announceTemplate name).RestsOn scope (fun _ => none) path := by
  rw [announceTemplate, if_neg hnew]
  refine ⟨fun _ => rfl, fun hget => ?_, fun hget => ?_⟩
  · cases hget
  · cases hget

/-- Publishing what is computed from the same defaults. -/
theorem publish (h : r.RestsOn scope kept path) (hget : r.templates.get? name = none)
    {d : Descriptor} (hd : scope.Computes kept (· ∈ r.knownTemplates) name d)
    (hname : name ∈ path ∨ r.Complete scope.host name) (file? : Option FileId) :
    (r.publishTemplate r.epoch name file? d).RestsOn scope kept path := by
  have hknown : (r.publishTemplate r.epoch name file? d).knownTemplates = r.knownTemplates :=
    r.publishTemplate_knownTemplates ..
  have htemplates (other : String) : (r.publishTemplate r.epoch name file? d).templates.get? other =
      if other = name then some d else r.templates.get? other := by
    rw [publishTemplate_self, recordOwner?_templates, Table.get?_insertNew, hget]
    rfl
  -- Only the entry of `name` is new, and only if nothing was kept there.
  refine ⟨fun {other} hnone => ?_, fun {other d'} hsome => ?_, fun {other d'} hsome hpath => ?_⟩
  · rw [htemplates] at hnone
    split at hnone
    · cases hnone
    · exact h.retains hnone
  · rw [htemplates] at hsome
    rw [hknown]
    split at hsome
    · rename_i hother
      cases hsome
      exact hother ▸ .inr ⟨h.retains hget, hd⟩
    · exact h.told hsome
  · rw [htemplates] at hsome
    refine Complete.mono (r := r) ?_ (hknown ▸ List.Subset.refl _)
    split at hsome
    · rename_i hother
      subst hother
      exact hname.resolve_left hpath
    · exact h.complete hsome hpath

end Registry.RestsOn

/-! ## Steps of a discovery -/

/-- The registry rests on the same defaults as before and knows the same templates, or it knows more
and rests on none. -/
inductive Registry.Proceeds (scope : Scope) (kept : String → Option Descriptor) (path : NameSet)
    (r r' : Registry) : Prop where
  | still : r'.knownTemplates = r.knownTemplates → r'.RestsOn scope kept path →
      Proceeds scope kept path r r'
  | moved : r.knownTemplates ⊆ r'.knownTemplates → ¬ r'.knownTemplates ⊆ r.knownTemplates →
      r'.RestsOn scope (fun _ => none) path → Proceeds scope kept path r r'

namespace Registry.Proceeds

theorem refl (h : r.RestsOn scope kept path) : r.Proceeds scope kept path r := .still rfl h

theorem grows (h : r.Proceeds scope kept path r') : r.knownTemplates ⊆ r'.knownTemplates := by
  cases h with
  | still hknown _ => exact hknown ▸ List.Subset.refl _
  | moved hsub _ _ => exact hsub

theorem rests (h : r.Proceeds scope kept path r') : ∃ kept', r'.RestsOn scope kept' path := by
  cases h with
  | still _ hrests => exact ⟨_, hrests⟩
  | moved _ _ hrests => exact ⟨_, hrests⟩

theorem trans (h : r.Proceeds scope kept path r₁)
    (h' : ∀ kept', r₁.RestsOn scope kept' path → r₁.Proceeds scope kept' path r') :
    r.Proceeds scope kept path r' := by
  cases h with
  -- Nothing was announced so far, so the rest starts from the same defaults.
  | still hknown hrests =>
    cases h' kept hrests with
    | still hknown' hrests' => exact .still (hknown'.trans hknown) hrests'
    | moved hsub hnot hrests' => exact .moved (hknown ▸ hsub) (hknown ▸ hnot) hrests'
  | moved hsub hnot hrests =>
    -- Once a template was announced, the rest starts from nothing.
    cases h' _ hrests with
    | still hknown' hrests' => exact .moved (hknown' ▸ hsub) (hknown' ▸ hnot) hrests'
    | moved hsub' _ hrests' =>
      exact .moved (List.Subset.trans hsub hsub')
        (fun hback => hnot (List.Subset.trans hsub' hback)) hrests'

/-- Changes that leave the templates alone may follow. -/
theorem congr (h : r.Proceeds scope kept path r₁) (htemplates : r'.templates = r₁.templates)
    (hknown : r'.knownTemplates = r₁.knownTemplates) : r.Proceeds scope kept path r' :=
  h.trans fun _ hrests => .still hknown (hrests.congr htemplates hknown)

theorem of_add (h : r.Proceeds scope kept (path.add name) r')
    (hr : r'.Sound neverTemplates scope.host.Template)
    (hparents : ∀ parent, scope.host.Carries name parent → scope.host.Template parent →
      r'.Complete scope.host parent) : r.Proceeds scope kept path r' := by
  cases h with
  | still hknown hrests => exact .still hknown (hrests.of_add hr hparents)
  | moved hsub hnot hrests => exact .moved hsub hnot (hrests.of_add hr hparents)

theorem announce (h : r.RestsOn scope kept path) (name : String) :
    r.Proceeds scope kept path (r.announceTemplate name) := by
  by_cases hk : name ∈ r.knownTemplates
  · rw [announceTemplate, if_pos hk]
    exact .refl h
  · -- An announcement that is new drops everything, and the name itself is what is known in
    -- addition.
    refine .moved (r.knownTemplates_subset_announceTemplate name) (fun hback => ?_) (.announce hk)
    exact hk (hback (r.mem_knownTemplates_announceTemplate name))

end Registry.Proceeds

namespace Scope.Ensures

variable {decl : Option Declaration} {out : Except LookupError Descriptor}

/-- Nothing is announced where the template is known. -/
theorem known_eq (h : scope.Ensures name decl r out r') (hk : name ∈ r.knownTemplates) :
    r'.knownTemplates = r.knownTemplates := by
  have hannounced : r.announceTemplate name = r := by rw [Registry.announceTemplate, if_pos hk]
  cases h with
  | kept _ => rfl
  | registered _ _ => rw [Registry.publishTemplate_knownTemplates, hannounced]
  | failed _ _ => rw [hannounced]

theorem proceeds (h : scope.Ensures name decl r out r') (hacyclic : scope.host.Acyclic)
    (hr : r.Sound neverTemplates scope.host.Template) (hrests : r.RestsOn scope kept path)
    (ht : scope.host.Template name)
    (hname : name ∈ path ∨ ∀ parent, scope.host.Carries name parent →
      ¬ scope.host.Template parent)
    (hfind : scope.host.Finds name decl) : r.Proceeds scope kept path r' := by
  have hannounced := Registry.Proceeds.announce hrests name
  have hr₁ := hr.announce ht
  cases h with
  | kept _ => exact .refl hrests
  | failed _ _ => exact hannounced
  | registered hnew hok =>
    have hknown := r.mem_knownTemplates_announceTemplate name
    have hget := r.announceTemplate_templates_get?_eq_none name name hnew
    -- The announcement is one step and the publication the next; the second announces nothing.
    refine hannounced.trans fun kept' hrests' => ?_
    refine .still (Registry.publishTemplate_knownTemplates ..) (hrests'.publish hget ?_ ?_ _)
    · exact computes_of_defaultsOf (fun n hn => hacyclic n (hr₁.known hn)) (fun n d => hrests'.told)
        (fun n => hrests'.retains) hfind hknown hok
    · refine hname.imp_right fun hbare => .of_parents hknown fun parent hcarries htemplate => ?_
      exact absurd htemplate (hbare parent hcarries)

end Scope.Ensures

/-! ## Discoveries -/

namespace Task

/-- The templates among the annotations that a task takes are complete. -/
def Completes (host : Host) (r : Registry) : Task → Prop
  | .inspect _ _ _ marks => ∀ mark ∈ marks, host.Template mark.name → r.Complete host mark.name
  | _ => True

/-- Whatever a task may have to announce is known. -/
def Foreseen (host : Host) (r : Registry) : Task → Prop
  | .discover name => host.Template name → r.Complete host name
  | .consult name => host.Template name → r.Complete host name
  | .inspect own _ _ marks => (host.Template own → own ∈ r.knownTemplates) ∧
    ∀ mark ∈ marks, host.Template mark.name → r.Complete host mark.name

/-- What a task that succeeds leaves behind. -/
structure Retains (scope : Scope) (kept : String → Option Descriptor) (path : NameSet)
    (task : Task) (r r' : Registry) : Prop where
  proceeds : r.Proceeds scope kept path r'
  completes : task.Completes scope.host r'
  known_eq : task.Foreseen scope.host r → r'.knownTemplates = r.knownTemplates

namespace Retains

variable {decl : Declaration} {sofar sofar' : Option Descriptor} {mark : AnnotationUse}
  {marks : List AnnotationUse}

/-- A discovery ends when all annotations on the declaration are taken. -/
theorem discover
    (h : Retains scope kept (path.add name) (.inspect name decl none decl.annotations) r r')
    (hdecl : scope.host.Declares name decl) (hnever : name ∉ neverTemplates)
    (hr : r'.Sound neverTemplates scope.host.Template) :
    Retains scope kept path (.discover name) r r' where
  proceeds := by
    refine h.proceeds.of_add hr fun parent hcarries ht => ?_
    obtain ⟨use, huse, rfl⟩ := hdecl.carries_iff.1 hcarries
    exact h.completes use huse ht
  completes := trivial
  known_eq hforeseen := by
    refine h.known_eq ⟨fun ht => (hforeseen ht).known, fun mark hmark ht => ?_⟩
    have hcarries : scope.host.Carries name mark.name := ⟨decl, hdecl, mark, hmark, rfl⟩
    exact (hforeseen (.carried hcarries ht hnever)).carried hcarries ht

theorem deny (h : Retains scope kept path (.discover name) r r') (file? : Option FileId) :
    Retains scope kept path (.discover name) r (r'.denyTemplate name file?) where
  proceeds := h.proceeds.congr (r'.denyTemplate_templates ..) (r'.denyTemplate_knownTemplates ..)
  completes := trivial
  known_eq hforeseen := by
    rw [Registry.denyTemplate_knownTemplates]
    exact h.known_eq hforeseen

/-- One annotation is taken, then the rest. -/
theorem cons (hfirst : r.Proceeds scope kept path r₁)
    (hknown : (Task.inspect own decl sofar (mark :: marks)).Foreseen scope.host r →
      r₁.knownTemplates = r.knownTemplates)
    (hmark : scope.host.Template mark.name → r₁.Complete scope.host mark.name)
    (hrest : ∀ kept', r₁.RestsOn scope kept' path →
      Retains scope kept' path (.inspect own decl sofar' marks) r₁ r') :
    Retains scope kept path (.inspect own decl sofar (mark :: marks)) r r' := by
  obtain ⟨kept', hrests⟩ := hfirst.rests
  have hgrows : r₁.knownTemplates ⊆ r'.knownTemplates := (hrest kept' hrests).proceeds.grows
  refine ⟨hfirst.trans fun _ h => (hrest _ h).proceeds, ?_, fun hforeseen => ?_⟩
  · refine List.forall_mem_cons.2 ⟨fun ht => (hmark ht).mono hgrows, ?_⟩
    exact (hrest kept' hrests).completes
  · -- What is foreseen for all annotations is foreseen for the others once the first one announced
    -- nothing.
    have hsame := hknown hforeseen
    refine ((hrest kept' hrests).known_eq ⟨fun ht => ?_, fun mark' hmark' ht => ?_⟩).trans hsame
    · exact hsame ▸ hforeseen.1 ht
    · exact (hforeseen.2 mark' (List.mem_cons_of_mem _ hmark') ht).mono hfirst.grows

/-! ### What each way of going on leaves behind -/

section

variable {parent defaults : Descriptor} {r₂ : Registry}

theorem root {decl : Option Declaration} {out : Except LookupError Descriptor}
    (hrests : r.RestsOn scope kept path) (hr : r.Sound neverTemplates scope.host.Template)
    (hacyclic : scope.host.Acyclic) (hgrounded : scope.host.Grounded)
    (hroot : name ∈ rootTemplates) (hfind : scope.host.Finds name decl)
    (hens : scope.Ensures name decl r out r') :
    Retains scope kept path (.discover name) r r' where
  proceeds := hens.proceeds hacyclic hr hrests (.given hroot)
    (.inr fun _ hc => hgrounded.root hroot hc) hfind
  completes := trivial
  known_eq hforeseen := hens.known_eq (hforeseen (.given hroot)).known

/-- The marker is no template, so that it does not have to be known. -/
theorem marked (hprepared : Prepared scope path r (.inspect own decl sofar (mark :: marks)))
    (hrests : r.RestsOn scope kept path) (hacyclic : scope.host.Acyclic)
    (hgrounded : scope.host.Grounded) (hmarker : mark.name = templateMarker)
    (hens : scope.Ensures own (some decl) r (.ok defaults) r₁)
    (hrest : ∀ kept', r₁.RestsOn scope kept' path →
      Retains scope kept' path (.inspect own decl sofar' marks) r₁ r') :
    Retains scope kept path (.inspect own decl sofar (mark :: marks)) r r' := by
  have hown := hprepared.template_marked hmarker
  have hfirst : r.Proceeds scope kept path r₁ :=
    hens.proceeds hacyclic hprepared.sound hrests hown (.inl hprepared.met) hprepared.finds
  refine .cons hfirst (fun hforeseen => hens.known_eq (hforeseen.1 hown)) (fun ht => ?_) hrest
  rw [hmarker] at ht
  exact absurd ht (hgrounded.not_template_marker hacyclic)

/-- A template that was consulted is complete: it was kept when the consultation ended, and it
cannot be under discovery. -/
theorem complete_of_consulted (hasked : Prepared scope path r (.consult name))
    (hacyclic : scope.host.Acyclic)
    (hconsult : Discovery scope path (.consult name) r (.ok (some parent)) r₁)
    (hconsulted : Retains scope kept path (.consult name) r r₁) : r₁.Complete scope.host name := by
  have hget : r₁.templates.get? name = some parent := (hconsult.verdict hasked.ready.begins).2
  have hmet : name ∉ path := fun hp =>
    hacyclic _ (hasked.template_consulted hconsult) (hasked.ready.leads _ hp)
  obtain ⟨_, hrests₁⟩ := hconsulted.proceeds.rests
  exact hrests₁.complete hget hmet

theorem carried (hprepared : Prepared scope path r (.inspect own decl sofar (mark :: marks)))
    (hacyclic : scope.host.Acyclic) (hnon : mark.name ∉ r.nonTemplates)
    (hconsult : Discovery scope path (.consult mark.name) r (.ok (some parent)) r₁)
    (hconsulted : Retains scope kept path (.consult mark.name) r r₁)
    (hens : scope.Ensures own (some decl) (r₁.recordDependent mark.name own) (.ok defaults) r₂)
    (hrest : ∀ kept', r₂.RestsOn scope kept' path →
      Retains scope kept' path (.inspect own decl sofar' marks) r₂ r') :
    Retains scope kept path (.inspect own decl sofar (mark :: marks)) r r' := by
  have hasked := hprepared.consult hnon
  have hown := hprepared.template_carried (hasked.template_consulted hconsult)
  have hr₁ := (hasked.sound_consulted hconsult).recordDependent mark.name own
  -- Recording the dependent touches no template.
  have hrecorded : r.Proceeds scope kept path (r₁.recordDependent mark.name own) :=
    hconsulted.proceeds.congr rfl rfl
  have hfirst : r.Proceeds scope kept path r₂ := hrecorded.trans fun kept' hrests' =>
    hens.proceeds hacyclic hr₁ hrests' hown (.inl hprepared.met) hprepared.finds
  refine .cons hfirst (fun hforeseen => ?_) (fun _ => ?_) hrest
  · -- Where the annotation and the declaration are known, neither of the two steps announces one.
    have hsame : r₁.knownTemplates = r.knownTemplates :=
      hconsulted.known_eq (hforeseen.2 mark List.mem_cons_self)
    have hk : own ∈ r₁.knownTemplates := hsame ▸ hforeseen.1 hown
    exact (hens.known_eq hk).trans hsame
  · exact (complete_of_consulted hasked hacyclic hconsult hconsulted).mono hens.known_mono

theorem barred (hprepared : Prepared scope path r (.inspect own decl sofar (mark :: marks)))
    (hrests : r.RestsOn scope kept path) (hnon : mark.name ∈ r.nonTemplates)
    (hrest : ∀ kept', r.RestsOn scope kept' path →
      Retains scope kept' path (.inspect own decl sofar' marks) r r') :
    Retains scope kept path (.inspect own decl sofar (mark :: marks)) r r' :=
  .cons (.refl hrests) (fun _ => rfl) (fun ht => absurd ht (hprepared.exact _ hnon)) hrest

/-- Consulting what is no template and denying it leaves the templates alone. -/
theorem passed (hprepared : Prepared scope path r (.inspect own decl sofar (mark :: marks)))
    (hrests : r.RestsOn scope kept path) (hacyclic : scope.host.Acyclic)
    (hnon : mark.name ∉ r.nonTemplates)
    (hconsult : Discovery scope path (.consult mark.name) r (.ok none) r₁)
    (hrest : ∀ kept', (r₁.denyTemplate mark.name none).RestsOn scope kept' path →
      Retains scope kept' path (.inspect own decl sofar' marks) (r₁.denyTemplate mark.name none)
        r') :
    Retains scope kept path (.inspect own decl sofar (mark :: marks)) r r' := by
  have hasked := hprepared.consult hnon
  have hnot := hconsult.not_template hacyclic hprepared.exact hasked.ready
  obtain ⟨_, hquiet⟩ := hconsult.verdict hasked.ready.begins
  have htemplates : (r₁.denyTemplate mark.name none).templates = r.templates := by
    rw [Registry.denyTemplate_templates, hquiet.templates]
  have hknown : (r₁.denyTemplate mark.name none).knownTemplates = r.knownTemplates := by
    rw [Registry.denyTemplate_knownTemplates, hquiet.knownTemplates]
  exact .cons ((Registry.Proceeds.refl hrests).congr htemplates hknown) (fun _ => hknown)
    (fun ht => absurd ht hnot) hrest

end

end Retains

end Task

/-- A discovery without circular templates takes the defaults that the registry rests on as they
are, or drops them all; it leaves them if everything that it finds is known. -/
theorem Discovery.retains {task : Task} {out : Except LookupError (Option Descriptor)}
    (h : Discovery scope path task r out r') (hacyclic : scope.host.Acyclic)
    (hgrounded : scope.host.Grounded) (hprepared : task.Prepared scope path r) :
    ∀ kept, r.RestsOn scope kept path → ∀ found, out = .ok found →
      task.Retains scope kept path r r' := by
  -- The rest of a task may start from other defaults than the task did, so the induction is over
  -- all of them.
  induction h with
  | root hroot hfind hens =>
    exact fun _ hrests _ _ => .root hrests hprepared.sound hacyclic hgrounded hroot hfind hens
  | undeclared _ _ => exact fun _ hrests _ _ => ⟨.refl hrests, trivial, fun _ => rfl⟩
  | decided _ hdecl hdisc _ ih =>
    intro kept hrests found hout
    have hbegun := hprepared.inspect hdecl
    obtain ⟨hr', _, _⟩ := hdisc.sound scope.host.closed_template hbegun.sound hbegun.ready.lawful
    exact (ih hbegun kept (hrests.add _) found hout).discover hdecl hprepared.ready.lawful hr'
  | denied _ hdecl hdisc ih =>
    intro kept hrests _ _
    have hbegun := hprepared.inspect hdecl
    obtain ⟨hr', _, _⟩ := hdisc.sound scope.host.closed_template hbegun.sound hbegun.ready.lawful
    have hinspected := ih hbegun kept (hrests.add _) none rfl
    exact (hinspected.discover hdecl hprepared.ready.lawful hr').deny _
  | kept _ => exact fun _ hrests _ _ => ⟨.refl hrests, trivial, fun _ => rfl⟩
  | circular _ _ => exact fun _ hrests _ _ => ⟨.refl hrests, trivial, fun _ => rfl⟩
  | opened hget hmet _ ih =>
    intro kept hrests found hout
    obtain ⟨hproceeds, _, hknown⟩ := ih (hprepared.opened hget hmet) kept hrests found hout
    exact ⟨hproceeds, trivial, hknown⟩
  | done => exact fun _ hrests _ _ => ⟨.refl hrests, by simp [Task.Completes], fun _ => rfl⟩
  | marked hmarker hens _ ih =>
    exact fun _ hrests found hout => .marked hprepared hrests hacyclic hgrounded hmarker hens
      fun kept' hrests' => ih (hprepared.marked hmarker hens) kept' hrests' found hout
  | barred _ hnon _ ih =>
    exact fun _ hrests found hout => .barred hprepared hrests hnon
      fun kept' hrests' => ih hprepared.barred kept' hrests' found hout
  | carried _ hnon hconsult hens _ ihConsult ih =>
    have hasked := hprepared.consult hnon
    have hprepared' := hprepared.carried hnon hconsult (hconsult.exact hacyclic hasked) hens
    intro kept hrests found hout
    exact .carried hprepared hacyclic hnon hconsult (ihConsult hasked kept hrests _ rfl) hens
      fun kept' hrests' => ih hprepared' kept' hrests' found hout
  | passed _ hnon hconsult _ _ ih =>
    have hasked := hprepared.consult hnon
    have hprepared' := hprepared.passed hacyclic hnon hconsult (hconsult.exact hacyclic hasked)
    exact fun _ hrests found hout => .passed hprepared hrests hacyclic hnon hconsult
      fun kept' hrests' => ih hprepared' kept' hrests' found hout
  -- A task that fails leaves nothing to be retained.
  | markedFailed _ _ => exact fun _ _ _ hout => by cases hout
  | carriedFailed _ _ _ _ _ => exact fun _ _ _ hout => by cases hout
  | failing _ _ _ _ => exact fun _ _ _ hout => by cases hout

namespace Lookup.Answers

variable {d : Descriptor}

/-- The defaults that are answered for a template are told from the kept ones if it is complete, and
are the declared ones if it is not. -/
theorem retained (h : Lookup.Answers scope name r (.ok (some d)) r')
    (hacyclic : scope.host.Acyclic) (hgrounded : scope.host.Grounded)
    (hr : r.Sound neverTemplates scope.host.Template) (hexact : r.Exact scope.host)
    (hrests : r.RestsOn scope kept []) :
    (r.Complete scope.host name → scope.Told kept scope.host.Template name d) ∧
      (¬ r.Complete scope.host name → scope.Defaults scope.host.Template name d) := by
  have hget := h.verdict.2.2 d rfl
  obtain ⟨hr', _, _⟩ := h.sound scope.host.closed_template hr
  -- In the registry after the answer the defaults are told by the known templates.
  have htold {kept' : String → Option Descriptor} (hrests' : r'.RestsOn scope kept' []) :
      scope.Told kept' scope.host.Template name d :=
    (hrests'.told hget).template hr' (hrests'.complete hget (by simp))
  -- Complete means that the discovery announced nothing, and incomplete that it did.
  cases h with
  | kept _ =>
    exact ⟨fun _ => htold hrests, fun hnot => absurd (hrests.complete hget (by simp)) hnot⟩
  | discovered hnew hnon hdisc =>
    obtain ⟨hproceeds, _, hknown⟩ := hdisc.retains hacyclic hgrounded
      (.start hr hexact hnew hnon) kept hrests _ rfl
    cases hproceeds with
    | still hsame hrests' =>
      refine ⟨fun _ => htold hrests', fun hnot => absurd ?_ hnot⟩
      exact (hrests'.complete hget (by simp)).mono (hsame ▸ List.Subset.refl _)
    | moved _ hnot hrests' =>
      refine ⟨fun hcomplete => absurd ?_ hnot, fun _ => Scope.told_none_iff.1 (htold hrests')⟩
      exact (hknown fun _ => hcomplete) ▸ List.Subset.refl _

end Lookup.Answers

end PrototypeLens
