import PrototypeLens.Proofs.Template.Verdict

/-!
# Only templates are registered

A set of names that contains the roots and is closed under carrying the marker or a member holds
everything that discovery ever registers. The least such set is the set of templates. Where the
strategies of its members are well-formed, discovery does not fail.

## Layers

- `Host.Closed`: the sets of names that discovery cannot leave.
- `Registry.Sound`: the invariant, what is known is in the set and what is barred is denied; one
  lemma for each change of a registry.
- `Task.Lawful`: what has to hold when a task starts, with what it passes on to the next one.

## Main results

- `Scope.Ensures.sound`, `Scope.Ensures.ne_error`: registering a member keeps the invariant and does
  not fail.
- `Discovery.sound`, `Lookup.Answers.sound`: so do a whole discovery and a whole answer.
-/

namespace PrototypeLens

/-! ## Closed sets -/

/-- A set of names that contains what discovery may add to its members while `barred` is denied. -/
structure Host.Closed (host : Host) (barred : NameSet) (isTemplate : String → Prop) : Prop where
  root {name : String} : name ∈ rootTemplates → isTemplate name
  marked {name : String} : host.Carries name templateMarker → name ∉ barred → isTemplate name
  carried {name parent : String} : host.Carries name parent → isTemplate parent →
    name ∉ barred → isTemplate name

/-- What can be derived from the roots and other names is closed. -/
theorem Host.closed_derivable {host : Host} {barred : NameSet} {given : String → Prop}
    (hroot : ∀ name ∈ rootTemplates, given name) :
    host.Closed barred (host.Derivable given (· ∈ barred)) where
  root hname := .given (hroot _ hname)
  marked hc hn := .marked hc hn
  carried hc hp hn := .carried hc hp hn

theorem Host.closed_template (host : Host) : host.Closed neverTemplates host.Template :=
  Host.closed_derivable fun _ => id

/-! ## Sound registries -/

/-- The registry holds templates of a given set only, and denies what is barred from it. -/
structure Registry.Sound (barred : NameSet) (isTemplate : String → Prop) (r : Registry) : Prop where
  never : barred ⊆ neverTemplates
  /-- What is barred is denied. -/
  denied : barred ⊆ r.nonTemplates
  /-- Every known template is in the set. -/
  known {name : String} : name ∈ r.knownTemplates → isTemplate name
  /-- Every template with defaults is known. -/
  kept {name : String} {defaults : Descriptor} :
    r.templates.get? name = some defaults → name ∈ r.knownTemplates

variable {scope : Scope} {barred : NameSet} {isTemplate : String → Prop} {r r' : Registry}
  {name : String}

namespace Registry.Sound

theorem fresh (hnever : barred ⊆ neverTemplates) : ({} : Registry).Sound barred isTemplate where
  never := hnever
  denied := hnever
  known h := nomatch h
  kept h := nomatch h

theorem announce (h : r.Sound barred isTemplate) (hname : isTemplate name) :
    (r.announceTemplate name).Sound barred isTemplate where
  never := h.never
  denied := r.subset_announceTemplate name h.never h.denied
  known hk := by
    rcases (r.mem_announceTemplate_knownTemplates name _).1 hk with rfl | hk
    · exact hname
    · exact h.known hk
  kept hget := r.knownTemplates_subset_announceTemplate name
    (h.kept (r.announceTemplate_templates_get? name _ hget).2)

theorem publish (h : r.Sound barred isTemplate) (hk : name ∈ r.knownTemplates)
    (file? : Option FileId) (defaults : Descriptor) :
    (r.publishTemplate r.epoch name file? defaults).Sound barred isTemplate := by
  rw [Registry.publishTemplate_self]
  refine ⟨h.never, ?_, ?_, ?_⟩
  · simpa using h.denied
  · intro other hk'
    exact h.known (by simpa using hk')
  · intro other d hget
    rw [Registry.recordOwner?_templates, Table.get?_insertNew] at hget
    rw [Registry.recordOwner?_knownTemplates]
    -- The name is known already, so its new entry breaks nothing; every other entry is an old one.
    by_cases hother : other = name
    · rw [hother]
      exact hk
    · rw [if_neg hother] at hget
      exact h.kept hget

theorem deny (h : r.Sound barred isTemplate) (name : String) (file? : Option FileId) :
    (r.denyTemplate name file?).Sound barred isTemplate where
  never := h.never
  denied := List.Subset.trans h.denied (r.subset_denyTemplate name file?)
  known hk := h.known (by simpa using hk)
  kept hget := by simpa using h.kept (by simpa using hget)

theorem congr (h : r.Sound barred isTemplate) (hsame : r.SameTemplates r') :
    r'.Sound barred isTemplate where
  never := h.never
  denied := hsame.nonTemplates ▸ h.denied
  known hk := h.known (hsame.knownTemplates ▸ hk)
  kept hget := hsame.knownTemplates ▸ h.kept (hsame.templates ▸ hget)

theorem recordDependent (h : r.Sound barred isTemplate) (parent dependent : String) :
    (r.recordDependent parent dependent).Sound barred isTemplate :=
  h.congr (r.sameTemplates_recordDependent parent dependent)

theorem not_barred (h : r.Sound barred isTemplate) (hnon : name ∉ r.nonTemplates) :
    name ∉ barred := fun hbarred => hnon (h.denied hbarred)

end Registry.Sound

namespace Scope.Ensures

variable {decl : Option Declaration} {out : Except LookupError Descriptor}

theorem sound (h : scope.Ensures name decl r out r') (hr : r.Sound barred isTemplate)
    (hname : isTemplate name) : r'.Sound barred isTemplate := by
  cases h with
  | kept _ => exact hr
  | registered _ _ =>
    exact (hr.announce hname).publish (r.mem_knownTemplates_announceTemplate name) _ _
  | failed _ _ => exact hr.announce hname

/-- Templates have defaults where strategies are well-formed. -/
theorem ne_error (h : scope.Ensures name decl r out r') (hr : r.Sound barred isTemplate)
    (hname : isTemplate name) (hhealthy : scope.host.Healthy)
    (hwf : scope.host.WellFormed isTemplate) (hfind : scope.host.Finds name decl)
    (e : LookupError) : out ≠ .error e := by
  cases h with
  | kept _ => simp
  | registered _ _ => simp
  -- Computing the defaults looks at known templates only, and those are members.
  | failed _ herror =>
    exact absurd herror (defaultsOf_ne_error hhealthy hwf
      (fun n hn => (hr.announce hname).known hn) hfind hname)

end Scope.Ensures

/-! ## Discovery keeps registries sound -/

/-- What has to hold before a task for what it registers to be a template. -/
def Task.Lawful (host : Host) (barred : NameSet) (isTemplate : String → Prop) : Task → Prop
  | .discover name => name ∉ barred
  | .consult name => name ∉ barred
  | .inspect own decl sofar marks => own ∉ barred ∧ host.Declares own decl ∧
    marks ⊆ decl.annotations ∧ (sofar.isSome → isTemplate own)

namespace Task.Lawful

variable {host : Host} {own : String} {decl : Declaration} {sofar : Option Descriptor}
  {mark : AnnotationUse} {marks : List AnnotationUse}

theorem inspect (h : Lawful host barred isTemplate (.discover name))
    (hdecl : host.Declares name decl) :
    Lawful host barred isTemplate (.inspect name decl none decl.annotations) :=
  ⟨h, hdecl, List.Subset.refl _, by simp⟩

theorem rest (h : Lawful host barred isTemplate (.inspect own decl sofar (mark :: marks)))
    {sofar' : Option Descriptor} (hown : sofar'.isSome → isTemplate own) :
    Lawful host barred isTemplate (.inspect own decl sofar' marks) := by
  obtain ⟨hbarred, hdecl, hsub, _⟩ := h
  exact ⟨hbarred, hdecl, (List.cons_subset.1 hsub).2, hown⟩

/-- The next annotation makes a member of what carries it, if it is the marker or a member. -/
theorem member (h : Lawful host barred isTemplate (.inspect own decl sofar (mark :: marks)))
    (hclosed : host.Closed barred isTemplate)
    (hmark : mark.name = templateMarker ∨ isTemplate mark.name) : isTemplate own := by
  -- What the rules of a closed set ask for: the declaration carries the annotation and its name is
  -- not barred.
  obtain ⟨hbarred, hdecl, hsub, _⟩ := h
  have hcarries : host.Carries own mark.name :=
    ⟨decl, hdecl, mark, hsub List.mem_cons_self, rfl⟩
  rcases hmark with hmarker | hmember
  · rw [hmarker] at hcarries
    exact hclosed.marked hcarries hbarred
  · exact hclosed.carried hcarries hmember hbarred

theorem finds (h : Lawful host barred isTemplate (.inspect own decl sofar marks)) :
    host.Finds own (some decl) :=
  h.2.1.finds

end Task.Lawful

/-- What discovery registers is in every closed set, and it fails only for the strategies of that
set. -/
theorem Discovery.sound {path : NameSet} {task : Task}
    {out : Except LookupError (Option Descriptor)} (h : Discovery scope path task r out r')
    (hclosed : scope.host.Closed barred isTemplate) (hr : r.Sound barred isTemplate)
    (hlawful : task.Lawful scope.host barred isTemplate) :
    r'.Sound barred isTemplate ∧ (∀ defaults, out = .ok (some defaults) → isTemplate task.subject) ∧
      (scope.host.Healthy → scope.host.WellFormed isTemplate → ∀ e, out ≠ .error e) := by
  -- The registry stays sound along the derivation, so every registration is of a member.
  induction h with
  | @root path name decl r r' out hroot hfind hens =>
    have hname : isTemplate name := hclosed.root hroot
    refine ⟨hens.sound hr hname, fun _ _ => hname, ?_⟩
    intro hhealthy hwf e hout
    cases out with
    | ok defaults => cases hout
    | error e' => exact hens.ne_error hr hname hhealthy hwf hfind e' rfl
  | undeclared _ _ => exact ⟨hr, by simp, by simp⟩
  | decided _ hdecl _ _ ih => exact ih hr (hlawful.inspect hdecl)
  | denied _ hdecl _ ih =>
    obtain ⟨hr', _, _⟩ := ih hr (hlawful.inspect hdecl)
    exact ⟨hr'.deny _ _, by simp, by simp⟩
  | kept hget => exact ⟨hr, fun _ _ => hr.known (hr.kept hget), by simp⟩
  | circular _ _ => exact ⟨hr, by simp, by simp⟩
  | opened _ _ _ ih => exact ih hr hlawful
  | @done path own decl sofar r =>
    refine ⟨hr, fun defaults hout => hlawful.2.2.2 ?_, by simp⟩
    cases hout
    rfl
  | @marked path own decl sofar mark marks r r₁ r' defaults out hmarker hens _ ih =>
    have hown : isTemplate own := hlawful.member hclosed (.inl hmarker)
    exact ih (hens.sound hr hown) (hlawful.rest fun _ => hown)
  | @markedFailed path own decl sofar mark marks r r₁ e hmarker hens =>
    have hown : isTemplate own := hlawful.member hclosed (.inl hmarker)
    refine ⟨hens.sound hr hown, by simp, ?_⟩
    intro hhealthy hwf _ _
    exact hens.ne_error hr hown hhealthy hwf hlawful.finds e rfl
  | barred _ _ _ ih => exact ih hr (hlawful.rest hlawful.2.2.2)
  | @carried path own decl sofar mark marks r r₁ r₂ r' parent defaults out _ hnon _ hens _
      ihConsult ih =>
    -- The consultation says that the annotation is a member; that makes one of its declaration.
    obtain ⟨hr₁, hparent, _⟩ := ihConsult hr (hr.not_barred hnon)
    have hown : isTemplate own := hlawful.member hclosed (.inr (hparent parent rfl))
    exact ih (hens.sound (hr₁.recordDependent _ _) hown) (hlawful.rest fun _ => hown)
  | @carriedFailed path own decl sofar mark marks r r₁ r₂ parent e _ hnon _ hens ihConsult =>
    obtain ⟨hr₁, hparent, _⟩ := ihConsult hr (hr.not_barred hnon)
    have hown : isTemplate own := hlawful.member hclosed (.inr (hparent parent rfl))
    have hr₁ := hr₁.recordDependent mark.name own
    refine ⟨hens.sound hr₁ hown, by simp, ?_⟩
    intro hhealthy hwf _ _
    exact hens.ne_error hr₁ hown hhealthy hwf hlawful.finds e rfl
  | passed _ hnon _ _ ihConsult ih =>
    obtain ⟨hr₁, _, _⟩ := ihConsult hr (hr.not_barred hnon)
    exact ih (hr₁.deny _ _) (hlawful.rest hlawful.2.2.2)
  | failing _ hnon _ ihConsult =>
    obtain ⟨hr₁, _, hne⟩ := ihConsult hr (hr.not_barred hnon)
    exact ⟨hr₁, by simp, fun hhealthy hwf _ _ => hne hhealthy hwf _ rfl⟩

/-- Answers keep a registry sound, and fail only for malformed strategies. -/
theorem Lookup.Answers.sound {out : Except LookupError (Option Descriptor)}
    (h : Lookup.Answers scope name r out r') (hclosed : scope.host.Closed barred isTemplate)
    (hr : r.Sound barred isTemplate) :
    r'.Sound barred isTemplate ∧ (∀ defaults, out = .ok (some defaults) → isTemplate name) ∧
      (scope.host.Healthy → scope.host.WellFormed isTemplate → ∀ e, out ≠ .error e) := by
  cases h with
  | kept hget => exact ⟨hr, fun _ _ => hr.known (hr.kept hget), by simp⟩
  | barred _ _ => exact ⟨hr, by simp, by simp⟩
  | discovered _ hnon hdisc => exact hdisc.sound hclosed hr (hr.not_barred hnon)

end PrototypeLens
