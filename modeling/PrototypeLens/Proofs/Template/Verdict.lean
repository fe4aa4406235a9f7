import PrototypeLens.Proofs.Template.Discovery

/-!
# The verdict of discovery

What discovery decides in a given registry, whatever the registry holds. An annotation is a template
for it if its defaults are kept, or if the kept templates, the roots and the marker attest it along
declarations that are neither denied nor being discovered. A discovery that finds no template leaves
the kept templates alone and denies only what nothing attests; a discovery that finds one ends with
its defaults kept.

## Layers

- `Registry.Attests`: what a registry attests while some names are being discovered, a derivation
  from what it keeps.
- `Registry.Quiet`: nothing was found in between, and only unattested names were denied.
- `Task.Begins`, `Task.Finds`, `Task.Verdict`: what a task starts from, what it looks for, and how
  the two outcomes are told apart.

## Main results

- `Registry.Attests.not_of_uses`: nothing is attested by way of itself.
- `Registry.Quiet.attests_iff`: a quiet change attests the same names.
- `Discovery.verdict`: discovery finds a template exactly if the registry attests one.
- `Lookup.Answers.verdict`: what a lookup answers is what the registry tells.
-/

namespace PrototypeLens

/-! ## Attested names -/

/-- The names that a registry attests while the names of `path` are being discovered. -/
def Registry.Attests (host : Host) (path : NameSet) (r : Registry) : String → Prop :=
  host.Derivable
    (fun n => n ∉ r.nonTemplates ∧ ((r.templates.get? n).isSome ∨ n ∈ rootTemplates ∧ n ∉ path))
    (fun n => n ∈ r.nonTemplates ∨ n ∈ path)

/-- The registry tells an annotation to be a template: its defaults are kept, or it is attested. -/
def Registry.Tells (host : Host) (r : Registry) (name : String) : Prop :=
  (r.templates.get? name).isSome ∨ r.Attests host [] name

namespace Registry.Attests

variable {host : Host} {path : NameSet} {r : Registry} {name own : String}

theorem not_mem_nonTemplates (h : r.Attests host path name) : name ∉ r.nonTemplates := by
  cases h with
  | given hn => exact hn.1
  | marked _ hb => exact fun hn => hb (.inl hn)
  | carried _ _ hb => exact fun hn => hb (.inl hn)

/-- Fewer names that are being discovered attest more. -/
theorem of_add (h : r.Attests host (path.add own) name) : r.Attests host path name := by
  have hadd {n : String} (hp : n ∈ path) : n ∈ path.add own := NameSet.mem_add.2 (.inr hp)
  refine h.mono ?_ ?_
  · rintro n ⟨hnon, hgiven⟩
    exact .given ⟨hnon, hgiven.imp_right fun hroot => ⟨hroot.1, fun hp => hroot.2 (hadd hp)⟩⟩
  · intro n hbarred
    exact hbarred.imp_right hadd

/-- Discovering a name that is not attested costs no other name its attestation. -/
theorem add (h : r.Attests host path name) (hown : ¬ r.Attests host path own) :
    r.Attests host (path.add own) name := by
  -- The name `own` stands in no derivation, as whatever stands in one is attested.
  have hold {n : String} (hn : r.Attests host path n) (hp : n ∈ path.add own) : n ∈ path := by
    rcases NameSet.mem_add.1 hp with rfl | hp
    · exact absurd hn hown
    · exact hp
  refine h.transfer ?_ ?_
  · rintro n hn ⟨hnon, hgiven⟩
    exact .given ⟨hnon, hgiven.imp_right fun hroot => ⟨hroot.1, fun hp => hroot.2 (hold hn hp)⟩⟩
  · rintro n hn hbarred (hnon | hp)
    · exact hbarred (.inl hnon)
    · exact hbarred (.inr (hold hn hp))

/-- What is neither kept nor a root nor declared is not attested. -/
theorem not_of_undeclared (hnone : ∀ decl, ¬ host.Declares name decl)
    (hroot : name ∉ rootTemplates) (hkept : r.templates.get? name = none) :
    ¬ r.Attests host path name := by
  intro h
  cases h with
  | given hn =>
    rcases hn.2 with hsome | hr
    · simp [hkept] at hsome
    · exact hroot hr.1
  | marked hc _ => exact hc.elim fun decl hd => hnone decl hd.1
  | carried hc _ _ => exact hc.elim fun decl hd => hnone decl hd.1

/-- What is being discovered is attested by its kept defaults only. -/
theorem not_of_mem_path (hpath : name ∈ path) (hkept : r.templates.get? name = none) :
    ¬ r.Attests host path name := by
  intro h
  -- It is given with its defaults only, and the other two rules bar it.
  cases h with
  | given hn =>
    rcases hn.2 with hsome | hr
    · simp [hkept] at hsome
    · exact hr.2 hpath
  | marked _ hb => exact hb (.inr hpath)
  | carried _ _ hb => exact hb (.inr hpath)

/-- A declared name is not attested by annotations that are not. -/
theorem not_of_uses {decl : Declaration} (hdecl : host.Declares own decl)
    (hroot : own ∉ rootTemplates) (hkept : r.templates.get? own = none)
    (huses : ∀ use ∈ decl.annotations, use.name ≠ templateMarker ∧
      ¬ r.Attests host (path.add own) use.name) : ¬ r.Attests host path own := by
  have hparents (parent : String) (hcarries : host.Carries own parent) :
      ¬ r.Attests host (path.add own) parent := by
    obtain ⟨use, huse, rfl⟩ := hdecl.carries_iff.1 hcarries
    exact (huses use huse).2
  -- Derivations of `own` that pass through `own` again can be left out, so its annotations are
  -- judged with `own` on the path.
  refine Host.Derivable.not_derivable_of_uses ?_ ?_ ?_ ?_ hparents
  · rintro ⟨_, hsome | hr⟩
    · simp [hkept] at hsome
    · exact hroot hr.1
  · intro hcarries
    obtain ⟨use, huse, hname⟩ := hdecl.carries_iff.1 hcarries
    exact (huses use huse).1 hname
  · rintro n ⟨hnon, hgiven⟩ hne
    refine ⟨hnon, hgiven.imp_right fun hr => ⟨hr.1, fun hp => ?_⟩⟩
    exact hr.2 ((NameSet.mem_add.1 hp).resolve_left hne)
  · rintro n hbarred hne (hnon | hp)
    · exact hbarred (.inl hnon)
    · exact hbarred (.inr ((NameSet.mem_add.1 hp).resolve_left hne))

end Registry.Attests

/-! ## Quiet changes -/

/-- Nothing was found: the templates are as they were, and only unattested names were denied. -/
structure Registry.Quiet (host : Host) (path : NameSet) (r r' : Registry) : Prop where
  epoch : r'.epoch = r.epoch
  templates : r'.templates = r.templates
  knownTemplates : r'.knownTemplates = r.knownTemplates
  classes : r'.classes = r.classes
  subset : r.nonTemplates ⊆ r'.nonTemplates
  /-- What is denied in addition is not attested. -/
  denied : ∀ n ∈ r'.nonTemplates, n ∉ r.nonTemplates → ¬ r.Attests host path n

namespace Registry.Quiet

variable {host : Host} {path : NameSet} {r r' r'' : Registry} {name own : String}

theorem refl (r : Registry) : Quiet host path r r where
  epoch := rfl
  templates := rfl
  knownTemplates := rfl
  classes := rfl
  subset := List.Subset.refl _
  denied _ hn hnot := absurd hn hnot

/-- A quiet change attests what was attested. -/
theorem attests_iff (h : Quiet host path r r') :
    r'.Attests host path name ↔ r.Attests host path name := by
  constructor
  · -- More is barred afterwards, and the same is given.
    intro ha
    refine ha.mono ?_ ?_
    · rintro n ⟨hnon, hgiven⟩
      rw [h.templates] at hgiven
      exact .given ⟨fun hn => hnon (h.subset hn), hgiven⟩
    · intro n hbarred
      exact hbarred.imp_left fun hnon => h.subset hnon
  · -- What was barred in addition stands in no derivation.
    intro ha
    have hstill (n : String) (hn : r.Attests host path n) : n ∉ r'.nonTemplates := by
      intro hnon
      exact h.denied n hnon hn.not_mem_nonTemplates hn
    refine ha.transfer ?_ ?_
    · rintro n hn ⟨_, hgiven⟩
      rw [← h.templates] at hgiven
      exact .given ⟨hstill n hn, hgiven⟩
    · rintro n hn hbarred (hnon | hp)
      · exact hstill n hn hnon
      · exact hbarred (.inr hp)

theorem trans (h : Quiet host path r r') (h' : Quiet host path r' r'') : Quiet host path r r'' where
  epoch := h'.epoch.trans h.epoch
  templates := h'.templates.trans h.templates
  knownTemplates := h'.knownTemplates.trans h.knownTemplates
  classes := h'.classes.trans h.classes
  subset := List.Subset.trans h.subset h'.subset
  denied n hn hnot ha := by
    -- It was denied in the first half, or in the second one, which attests the same names.
    by_cases hmid : n ∈ r'.nonTemplates
    · exact h.denied n hmid hnot ha
    · exact h'.denied n hn hmid (h.attests_iff.2 ha)

/-- Denying what is not attested is quiet. -/
theorem deny (hname : ¬ r.Attests host path name) (file? : Option FileId) :
    Quiet host path r (r.denyTemplate name file?) where
  epoch := r.denyTemplate_epoch name file?
  templates := r.denyTemplate_templates name file?
  knownTemplates := r.denyTemplate_knownTemplates name file?
  classes := r.denyTemplate_classes name file?
  subset := r.subset_denyTemplate name file?
  denied n hn hnot := by
    rcases r.mem_denyTemplate name n file? hn with hn | ⟨rfl, _⟩
    · exact absurd hn hnot
    · exact hname

/-- A change that is quiet while an unattested name is discovered is quiet. -/
theorem of_add (h : Quiet host (path.add own) r r') (hown : ¬ r.Attests host path own) :
    Quiet host path r r' where
  epoch := h.epoch
  templates := h.templates
  knownTemplates := h.knownTemplates
  classes := h.classes
  subset := h.subset
  denied n hn hnot ha := h.denied n hn hnot (ha.add hown)

end Registry.Quiet

/-! ## Verdicts -/

/-- Making sure of a template ends with its defaults kept. -/
theorem Scope.Ensures.get? {scope : Scope} {name : String} {decl : Option Declaration}
    {r r' : Registry} {defaults : Descriptor} (h : scope.Ensures name decl r (.ok defaults) r') :
    r'.templates.get? name = some defaults := by
  cases h with
  | kept hget => exact hget
  | registered hnew _ =>
    rw [Registry.publishTemplate_self, Registry.recordOwner?_templates, Table.get?_insertNew,
      r.announceTemplate_templates_get?_eq_none name name hnew]
    simp

namespace Task

/-- What has to hold before a task. -/
def Begins (host : Host) (path : NameSet) (r : Registry) : Task → Prop
  | .discover name => r.templates.get? name = none ∧ name ∉ path ∧ name ∉ r.nonTemplates
  | .consult name => name ∉ r.nonTemplates
  | .inspect own decl sofar marks =>
    sofar = r.templates.get? own ∧ host.Declares own decl ∧ marks ⊆ decl.annotations

/-- Whether the registry attests a template to a task: the annotation itself, or one of those that
are to be taken. -/
def Finds (host : Host) (path : NameSet) (r : Registry) : Task → Prop
  | .discover name => r.Attests host path name
  | .consult name => r.Attests host path name
  | .inspect _ _ sofar marks =>
    sofar.isSome ∨ ∃ mark ∈ marks, mark.name = templateMarker ∨ r.Attests host path mark.name

/-- The annotation whose defaults a task tells. -/
def subject : Task → String
  | .discover name => name
  | .consult name => name
  | .inspect own _ _ _ => own

/-- The outcome of a task agrees with what the registry attests. A template that is found ends with
its defaults kept; without one the change is quiet. -/
def Verdict (host : Host) (path : NameSet) (task : Task) (r : Registry) :
    Except LookupError (Option Descriptor) → Registry → Prop
  | .ok (some defaults), r' =>
    task.Finds host path r ∧ r'.templates.get? task.subject = some defaults
  | .ok none, r' => ¬ task.Finds host path r ∧ r.Quiet host path r'
  | .error _, _ => True

variable {host : Host} {path : NameSet} {name own : String} {decl : Declaration}
  {sofar : Option Descriptor} {mark : AnnotationUse} {marks : List AnnotationUse}
  {r r₁ r' : Registry} {out : Except LookupError (Option Descriptor)}

/-! ### From the annotations on a declaration to the declaration -/

/-- A declared annotation is found through what stands on it. -/
theorem finds_discover (hdecl : host.Declares name decl) (hpath : name ∉ path)
    (hnon : name ∉ r.nonTemplates)
    (h : (inspect name decl none decl.annotations).Finds host (path.add name) r) :
    (discover name).Finds host path r := by
  have hbarred : ¬ (name ∈ r.nonTemplates ∨ name ∈ path) := fun hb => hb.elim hnon hpath
  -- What is found on the declaration is the marker or an attested annotation; each is a rule of
  -- attestation.
  rcases h with hsome | ⟨mark, hmark, hmarker | ha⟩
  · cases hsome
  · exact .marked ⟨decl, hdecl, mark, hmark, hmarker⟩ hbarred
  · exact .carried ⟨decl, hdecl, mark, hmark, rfl⟩ ha.of_add hbarred

/-- An annotation is denied rightly if nothing was found on its declaration. -/
theorem verdict_denied (hdecl : host.Declares name decl) (hroot : name ∉ rootTemplates)
    (hkept : r.templates.get? name = none)
    (h : (inspect name decl none decl.annotations).Verdict host (path.add name) r (.ok none) r')
    (file? : Option FileId) :
    (discover name).Verdict host path r (.ok none) (r'.denyTemplate name file?) := by
  obtain ⟨hnone, hquiet⟩ := h
  have hname : ¬ r.Attests host path name := by
    apply Registry.Attests.not_of_uses hdecl hroot hkept
    intro use huse
    constructor
    · intro hmarker
      exact hnone (.inr ⟨use, huse, .inl hmarker⟩)
    · intro ha
      exact hnone (.inr ⟨use, huse, .inr ha⟩)
  have hquiet : r.Quiet host path r' := hquiet.of_add hname
  have hname' : ¬ r'.Attests host path name := by
    rw [hquiet.attests_iff]
    exact hname
  exact ⟨hname, hquiet.trans (.deny hname' file?)⟩

/-! ### From one annotation to the next -/

/-- Once a template was found, the others do not change the verdict. -/
theorem verdict_found (hfound : mark.name = templateMarker ∨ r.Attests host path mark.name)
    {defaults : Descriptor}
    (h : (inspect own decl (some defaults) marks).Verdict host path r₁ out r') :
    (inspect own decl sofar (mark :: marks)).Verdict host path r out r' := by
  match out, h with
  | .error _, _ => trivial
  | .ok (some _), h => exact ⟨.inr ⟨mark, List.mem_cons_self, hfound⟩, h.2⟩
  | .ok none, h => exact absurd (.inl rfl) h.1

/-- An annotation that is not attested is passed over quietly. -/
theorem verdict_passed (hmarker : mark.name ≠ templateMarker)
    (hunattested : ¬ r.Attests host path mark.name) (hquiet : r.Quiet host path r₁)
    (h : (inspect own decl sofar marks).Verdict host path r₁ out r') :
    (inspect own decl sofar (mark :: marks)).Verdict host path r out r' := by
  -- The annotation contributes nothing, before and after the quiet change alike.
  have hfinds : (inspect own decl sofar (mark :: marks)).Finds host path r ↔
      (inspect own decl sofar marks).Finds host path r₁ := by
    simp [Finds, hquiet.attests_iff, hmarker, hunattested]
  match out, h with
  | .error _, _ => trivial
  | .ok (some _), h => exact ⟨hfinds.2 h.1, h.2⟩
  | .ok none, h => exact ⟨fun hf => h.1 (hfinds.1 hf), hquiet.trans h.2⟩

end Task

/-- Discovery decides by what the registry attests. -/
theorem Discovery.verdict {scope : Scope} {path : NameSet} {task : Task} {r r' : Registry}
    {out : Except LookupError (Option Descriptor)} (h : Discovery scope path task r out r')
    (hbegins : task.Begins scope.host path r) : task.Verdict scope.host path r out r' := by
  -- Induction on the derivation; what a task begins with is passed on to its parts.
  induction h with
  | @root path name decl r r' out hroot _ hens =>
    obtain ⟨_, hpath, hnon⟩ := hbegins
    cases out with
    | error e => trivial
    | ok defaults => exact ⟨.given ⟨hnon, .inr ⟨hroot, hpath⟩⟩, hens.get?⟩
  | undeclared hroot hnone =>
    exact ⟨Registry.Attests.not_of_undeclared hnone.not_declares hroot hbegins.1, .refl _⟩
  | @decided path name decl r r' out hroot hdecl _ hout ih =>
    -- The discovery starts with no defaults of its own, since none are kept.
    obtain ⟨hkept, hpath, hnon⟩ := hbegins
    have hverdict := ih ⟨hkept.symm, hdecl, List.Subset.refl _⟩
    match out, hverdict with
    | .error _, _ => trivial
    | .ok none, _ => exact absurd rfl hout
    | .ok (some _), hverdict =>
      exact ⟨Task.finds_discover hdecl hpath hnon hverdict.1, hverdict.2⟩
  | denied hroot hdecl _ ih =>
    have hverdict := ih ⟨hbegins.1.symm, hdecl, List.Subset.refl _⟩
    exact Task.verdict_denied hdecl hroot hbegins.1 hverdict _
  | kept hget => exact ⟨.given ⟨hbegins, .inl (by simp [hget])⟩, hget⟩
  | circular hget hmet => exact ⟨Registry.Attests.not_of_mem_path hmet hget, .refl _⟩
  | opened hget hmet _ ih => exact ih ⟨hget, hmet, hbegins⟩
  | @done path own decl sofar r =>
    cases sofar with
    | none => exact ⟨by simp [Task.Finds], .refl _⟩
    | some defaults => exact ⟨.inl rfl, hbegins.1.symm⟩
  | marked hmarker hens _ ih =>
    obtain ⟨_, hdecl, hsub⟩ := hbegins
    have hverdict := ih ⟨hens.get?.symm, hdecl, (List.cons_subset.1 hsub).2⟩
    exact Task.verdict_found (.inl hmarker) hverdict
  | markedFailed _ _ => trivial
  | @barred path own decl sofar mark marks r r' out hmarker hnon _ ih =>
    obtain ⟨hsofar, hdecl, hsub⟩ := hbegins
    have hunattested : ¬ r.Attests scope.host path mark.name := fun ha =>
      -- What is denied is not attested.
      ha.not_mem_nonTemplates hnon
    have hverdict := ih ⟨hsofar, hdecl, (List.cons_subset.1 hsub).2⟩
    exact Task.verdict_passed hmarker hunattested (.refl _) hverdict
  | carried _ hnon _ hens _ ihConsult ih =>
    obtain ⟨_, hdecl, hsub⟩ := hbegins
    have hfound := (ihConsult hnon).1
    have hverdict := ih ⟨hens.get?.symm, hdecl, (List.cons_subset.1 hsub).2⟩
    exact Task.verdict_found (.inr hfound) hverdict
  | carriedFailed _ _ _ _ _ => trivial
  | passed hmarker hnon _ _ ihConsult ih =>
    obtain ⟨hsofar, hdecl, hsub⟩ := hbegins
    obtain ⟨hunattested, hconsult⟩ := ihConsult hnon
    -- The denial comes after the consultation, which attests what was attested before it.
    have hquiet := hconsult.trans (.deny (fun ha => hunattested (hconsult.attests_iff.1 ha)) none)
    have hverdict := ih ⟨by rw [hquiet.templates, hsofar], hdecl, (List.cons_subset.1 hsub).2⟩
    exact Task.verdict_passed hmarker hunattested hquiet hverdict
  | failing _ _ _ _ => trivial

/-- A change without a template that is found changes nothing about what is told. -/
theorem Registry.Quiet.tells_iff {host : Host} {r r' : Registry} {name : String}
    (h : r.Quiet host [] r') : r'.Tells host name ↔ r.Tells host name := by
  rw [Tells, Tells, h.templates, h.attests_iff]

/-- An answer is a template exactly if the registry tells so. -/
theorem Lookup.Answers.verdict {scope : Scope} {name : String} {r r' : Registry}
    {found : Option Descriptor} (h : Lookup.Answers scope name r (.ok found) r') :
    (found.isSome ↔ r.Tells scope.host name) ∧
      (found = none → r.Quiet scope.host [] r') ∧
      ∀ defaults, found = some defaults → r'.templates.get? name = some defaults := by
  cases h with
  | kept hget => simp [Registry.Tells, hget]
  | barred hget hnon =>
    have hunattested : ¬ r.Attests scope.host [] name := fun ha => ha.not_mem_nonTemplates hnon
    simpa [Registry.Tells, hget, hunattested] using Registry.Quiet.refl r
  | discovered hget hnon hdisc =>
    have hverdict := hdisc.verdict ⟨hget, by simp, hnon⟩
    cases found with
    | none =>
      obtain ⟨hunattested, hquiet⟩ := hverdict
      have hunattested : ¬ r.Attests scope.host [] name := hunattested
      simpa [Registry.Tells, hget, hunattested] using hquiet
    | some defaults =>
      obtain ⟨hfound, hkept⟩ := hverdict
      have htells : r.Tells scope.host name := .inr hfound
      refine ⟨by simpa using htells, by simp, ?_⟩
      intro d hd
      cases hd
      exact hkept

end PrototypeLens
