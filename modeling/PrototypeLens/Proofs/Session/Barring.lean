import PrototypeLens.Proofs.Registry.Refreshing
import PrototypeLens.Proofs.Session.Archives
import PrototypeLens.Proofs.Session.Denials
import PrototypeLens.Proofs.Session.Repeating

/-!
# Names that are never templates

A new registry denies the names that are never templates, whatever stands on their declarations, and
so does one whose answers were dropped for a new template. No lookup takes such a denial back,
unless a manifest offers the name with the marker. A refresh does, if the name derives from the file
and no known template does: it drops the denial like an answer that was read from the file. Until a
new template sets the denials up again, the declaration of the name decides, as it does for any
other name.

## Layers

- `Drops`: when a refresh drops a denial for good. `mem_refresh_nonTemplates_iff` shows that it is
  exactly then.
- `Bars`: a name that is denied and has no defaults, with a lemma for each change of a registry.
- `barringDiscipline`: lookups keep a name barred. `Undropped.bars`: so does every session in which
  no refresh drops the denial.
- `Blank`: a registry in which nothing is known and only such names are denied. Refreshes from there
  drop denials one file at a time, by `Session.blank_refreshAll`.

## Main results

- `Request.findsTemplate_refreshAll`: after the files of such names were refreshed, whatever is
  rooted is found to be a template.
- `Request.templateData_none_of_not_rooted`: what is not rooted is answered to be none.
- When exactly a name that is never a template is answered to be none in all sessions.
- An annotation of the name of a list that carries the marker, in a source and in an archive.
-/

namespace PrototypeLens

variable {settings : DiscoverySettings} {scope : Scope} {host : Host} {file : FileId}
  {files : List FileId} {r r' : Registry} {s : Session} {stale : FileId → Prop}
  {name other : String}

/-! ## What a refresh drops -/

/-- A healthy host lists the names of the declarations that stand in a file. -/
theorem Host.Healthy.lists_iff (h : host.Healthy) :
    host.Lists file name ↔ ∃ decl, host.Declares name decl ∧ decl.file = file := by
  obtain ⟨names, hnames, hmem⟩ := h.declaredNames_ok file
  rw [← hmem, ← Registry.mem_declaredNames_iff, hnames]
  rfl

namespace Registry

theorem refresh_of_healthy (h : host.Healthy) (r : Registry) (file : FileId) :
    (r.refresh host file).2 = r.forgetAll (r.derived host file) := by
  obtain ⟨names, hnames, _⟩ := h.declaredNames_ok file
  rw [r.refresh_eq (by simp [hnames])]

/-- A refresh of the file drops what was told about a name for good: the name derives from the file,
and no known template does. -/
structure Drops (r : Registry) (host : Host) (file : FileId) (name : String) : Prop where
  derives : r.DerivesFrom host file name
  unknown {template : String} : r.DerivesFrom host file template → template ∉ r.knownTemplates

/-- Where no known template derives from a file, its refresh leaves the denials of the names that do
not derive from it. -/
theorem mem_refresh_nonTemplates_of_unknown (h : host.Healthy)
    (hunknown : ∀ template, r.DerivesFrom host file template → template ∉ r.knownTemplates) :
    name ∈ (r.refresh host file).2.nonTemplates ↔
      name ∈ r.nonTemplates ∧ ¬ r.DerivesFrom host file name := by
  have hentry : (r.forgetAll (r.derived host file)).entry name =
      if name ∈ r.derived host file then {} else r.entry name :=
    entry_forgetAll_of_unknown fun template ht => hunknown template (mem_derived_iff.1 ht)
  have hdenied := congrArg Entry.isDenied hentry
  rw [refresh_of_healthy h, ← mem_derived_iff]
  -- Its entry is empty afterwards, or the one from before.
  by_cases hname : name ∈ r.derived host file
  · simpa [entry, hname] using hdenied
  · simpa [entry, hname] using hdenied

/-- A refresh drops the denial of a name that is never a template, or leaves it. -/
theorem mem_refresh_nonTemplates_iff (h : host.Healthy) (hnever : name ∈ neverTemplates)
    (hdenied : name ∈ r.nonTemplates) :
    name ∈ (r.refresh host file).2.nonTemplates ↔ ¬ r.Drops host file name := by
  by_cases hknown : ∃ template, r.DerivesFrom host file template ∧ template ∈ r.knownTemplates
  · -- The denials are set up anew for the template.
    obtain ⟨template, hderives, hk⟩ := hknown
    refine iff_of_true ?_ fun hdrops => hdrops.unknown hderives hk
    rw [refresh_of_healthy h, forgetAll_of_known ⟨template, mem_derived_iff.2 hderives, hk⟩]
    exact hnever
  · have hunknown (template : String) (hderives : r.DerivesFrom host file template) :
        template ∉ r.knownTemplates := fun hk => hknown ⟨template, hderives, hk⟩
    rw [mem_refresh_nonTemplates_of_unknown h hunknown, and_iff_right hdenied]
    exact not_congr ⟨fun hderives => ⟨hderives, hunknown _⟩, Drops.derives⟩

/-! ## Denials that stay -/

/-- A name is denied, and no defaults are kept for it. -/
structure Bars (r : Registry) (name : String) : Prop where
  denied : name ∈ r.nonTemplates
  unkept : r.templates.get? name = none

namespace Bars

theorem fresh (hnever : name ∈ neverTemplates) : ({} : Registry).Bars name := ⟨hnever, rfl⟩

theorem congr (h : r.Bars name) (hsame : r.SameTemplates r') : r'.Bars name :=
  ⟨hsame.nonTemplates ▸ h.denied, hsame.templates ▸ h.unkept⟩

theorem announce (h : r.Bars name) (hnever : name ∈ neverTemplates) (other : String) :
    (r.announceTemplate other).Bars name where
  denied := by
    have hdenied : [name] ⊆ r.nonTemplates := by simpa using h.denied
    exact r.subset_announceTemplate other (by simpa using hnever) hdenied List.mem_cons_self
  unkept := r.announceTemplate_templates_get?_eq_none _ _ h.unkept

theorem publish (h : r.Bars name) (hne : other ≠ name) (defaults : Descriptor)
    (file? : Option FileId) : (r.publishTemplate r.epoch other file? defaults).Bars name where
  denied := by
    rw [publishTemplate_self, recordOwner?_nonTemplates]
    exact h.denied
  unkept := by
    -- Defaults that are kept now were kept before, or are those of the other name.
    cases hget : (r.publishTemplate r.epoch other file? defaults).templates.get? name with
    | none => rfl
    | some kept =>
      rcases r.publishTemplate_templates_get? _ _ _ hget with hkept | ⟨rfl, _⟩
      · rw [h.unkept] at hkept
        cases hkept
      · exact absurd rfl hne

theorem deny (h : r.Bars name) (other : String) (file? : Option FileId) :
    (r.denyTemplate other file?).Bars name where
  denied := r.subset_denyTemplate other file? h.denied
  unkept := by
    rw [denyTemplate_templates]
    exact h.unkept

theorem refresh (h : r.Bars name) (hhealthy : host.Healthy) (hnever : name ∈ neverTemplates)
    (hspared : ¬ r.Drops host file name) : (r.refresh host file).2.Bars name where
  denied := (mem_refresh_nonTemplates_iff hhealthy hnever h.denied).2 hspared
  unkept := by
    rw [refresh_of_healthy hhealthy]
    cases hget : (r.forgetAll (r.derived host file)).templates.get? name with
    | none => rfl
    | some kept =>
      have hkept := ((r.forgets_forgetAll _).templates hget).2
      rw [h.unkept] at hkept
      cases hkept

end Bars

end Registry

/-! ### Lookups -/

/-- A manifest that can be taken lists the name, and the marker stands on its declaration. -/
def Scope.Vouches (scope : Scope) (name : String) : Prop :=
  ∃ own decl, scope.Offers own name decl ∧ decl.isAnnotatedWith templateMarker = true

theorem Host.SourceOnly.not_vouches (h : host.SourceOnly) :
    ¬ Scope.Vouches ⟨host, settings⟩ name := by
  rintro ⟨_, _, ⟨_, _, _, _, ⟨decl, file, _, hdecl, hfile, hlocation, _⟩, _⟩, _⟩
  obtain ⟨id, _, hid⟩ := hdecl.declaration
  rw [h id decl hid file hfile] at hlocation
  cases hlocation

/-- Where no manifest vouches for a name that is never a template, lookups leave its denial. -/
def barringDiscipline (h : scope.host.Healthy) (hnever : name ∈ neverTemplates)
    (hunvouched : ¬ scope.Vouches name) : Discipline scope where
  Inv r := r.Bars name
  Temp other := other ≠ name
  Not _ := True
  Free other := other ≠ name
  Leads _ _ := True
  Still _ _ := True
  Taken _ other _ := other ≠ name
  Failed := True
  named := Conduct.named_of_healthy h
  find_failed _ := trivial
  file_failed _ _ := trivial
  defaults_failed _ _ _ _ := trivial
  archived {own path _ _} hroot hdecl hfile hlocation := {
    unreadable := fun _ => trivial
    empty := fun _ => trivial
    marked := by
      -- What is registered for a manifest is listed there with the marker.
      rintro _ listed hlists hlisted hdeclares hmarked rfl
      exact hunvouched ⟨own, listed, ⟨hroot, hlisted, hdeclares, _,
        ⟨_, _, path, hdecl, hfile, hlocation, rfl⟩, hlists⟩, hmarked⟩
    unmarked := fun _ _ _ _ => trivial
    leads := fun _ _ _ _ _ => trivial
    still := fun _ _ => trivial }
  root hroot heq := not_mem_neverTemplates_of_root hroot (heq ▸ hnever)
  -- The name is denied, so that no lookup comes to its declaration.
  free hr hfree _ heq := hfree (heq ▸ hr.denied)
  marked hfree _ := hfree
  carried hfree _ _ := hfree
  undeclared _ _ := trivial
  plain _ _ _ := trivial
  circular _ _ _ := trivial
  leads _ _ := trivial
  leads_trans _ _ := trivial
  announce hr _ := hr.announce hnever _
  publish hr hne _ _ _ := ⟨hr.publish hne _ _, hne⟩
  kept {_ other _} hr hget := by
    have hne : other ≠ name := by
      rintro rfl
      rw [hr.unkept] at hget
      cases hget
    exact ⟨hne, hne⟩
  deny hr _ _ := hr.deny _ _
  denied _ _ := trivial
  depend _ _ hr := hr.congr (Registry.sameTemplates_recordDependent ..)
  still_refl _ := trivial
  still_trans _ _ := trivial
  still_deny _ _ _ := trivial
  still_taken _ := id

/-! ### Sessions -/

/-- The sessions on one registry while the program is edited and files are refreshed, where no
refresh drops what was told about a name and no manifest vouches for it. -/
inductive Undropped (settings : DiscoverySettings) (name : String) : Host → Session → Prop where
  /-- The first session starts with an empty registry. -/
  | start {host : Host} : host.Healthy → ¬ Scope.Vouches ⟨host, settings⟩ name →
      Undropped settings name host ⟨{}, {}⟩
  | ask {host : Host} {s : Session} (q : Question) : Undropped settings name host s →
      Undropped settings name host ((q.ask ⟨host, settings⟩).exec s).2
  /-- Another session is opened. -/
  | reopen {host : Host} {s : Session} : Undropped settings name host s →
      Undropped settings name host ⟨s.registry, {}⟩
  /-- Declarations are added, changed, moved or removed. -/
  | edit {host host' : Host} {s : Session} : Undropped settings name host s → host'.Healthy →
      ¬ Scope.Vouches ⟨host', settings⟩ name → Undropped settings name host' s
  /-- A file is refreshed. -/
  | refresh {host : Host} {s : Session} (file : FileId) : Undropped settings name host s →
      ¬ s.registry.Drops host file name → Undropped settings name host (s.refresh host file)

namespace Undropped

theorem healthy (h : Undropped settings name host s) :
    host.Healthy ∧ ¬ Scope.Vouches ⟨host, settings⟩ name := by
  -- The induction is on the session; only its start and the edits say anything about the host.
  induction h with
  | start hhealthy hunvouched => exact ⟨hhealthy, hunvouched⟩
  | ask _ _ ih => exact ih
  | reopen _ ih => exact ih
  | edit _ hhealthy hunvouched _ => exact ⟨hhealthy, hunvouched⟩
  | refresh _ _ _ ih => exact ih

/-- At any time the name is denied. -/
theorem bars (h : Undropped settings name host s) (hnever : name ∈ neverTemplates) :
    s.guards.Idle ∧ s.registry.Bars name := by
  -- One case for each thing that can happen. Questions keep the denial by the discipline above,
  -- edits do not touch the registry, and the refreshes are those that spare the name.
  induction h with
  | start _ _ => exact ⟨Guards.idle_empty, .fresh hnever⟩
  | @ask host s q h ih =>
    obtain ⟨hhealthy, hunvouched⟩ := h.healthy
    let D : Discipline ⟨host, settings⟩ := barringDiscipline hhealthy hnever hunvouched
    obtain ⟨hidle, hr, _⟩ := Conduct.exec_ask
      (C := D.conduct hhealthy Registry.Bars.congr fun _ _ _ _ => trivial) ih.1 ih.2 q
    exact ⟨hidle, hr⟩
  | reopen _ ih => exact ⟨Guards.idle_empty, ih.2⟩
  | edit _ _ _ ih => exact ih
  | refresh file h hspared ih => exact ⟨ih.1, ih.2.refresh h.healthy.1 hnever hspared⟩

end Undropped

/-! ## Denials that were dropped -/

namespace Host

/-- The files that declare some of the names. -/
def filesOf (host : Host) (names : List String) : List FileId :=
  names.filterMap fun name => ((host.findData name).toOption.bind id).map (·.2.file)

theorem Declares.mem_filesOf {decl : Declaration} {names : List String}
    (h : host.Declares name decl) (hname : name ∈ names) : decl.file ∈ host.filesOf names := by
  obtain ⟨id, hfind⟩ := h
  exact List.mem_filterMap.2 ⟨name, hname, by rw [hfind]; rfl⟩

end Host

/-- The session after some files were refreshed. -/
def Session.refreshAll (s : Session) (host : Host) (files : List FileId) : Session :=
  files.foldl (fun s file => s.refresh host file) s

theorem Lifetime.refreshAll (h : Lifetime settings host s stale) (hfresh : ∀ file, ¬ stale file)
    (files : List FileId) : ∃ stale', Lifetime settings host (s.refreshAll host files) stale' ∧
      ∀ file, ¬ stale' file := by
  -- The induction is on the files. A refresh makes no file stale that was not.
  induction files generalizing s stale with
  | nil => exact ⟨stale, h, hfresh⟩
  | cons file files ih => exact ih (h.refresh file) fun other hstale => hfresh other hstale.1

namespace Registry

/-- Nothing is known, and nothing is denied but names that are never templates. -/
structure Blank (r : Registry) : Prop where
  known : r.knownTemplates = []
  denied : r.nonTemplates ⊆ neverTemplates

theorem Blank.mem_refresh_iff (h : r.Blank) (hhealthy : host.Healthy) :
    name ∈ (r.refresh host file).2.nonTemplates ↔
      name ∈ r.nonTemplates ∧ ¬ r.DerivesFrom host file name :=
  mem_refresh_nonTemplates_of_unknown hhealthy fun _ _ => by simp [h.known]

theorem Blank.refresh (h : r.Blank) (hhealthy : host.Healthy) (file : FileId) :
    (r.refresh host file).2.Blank where
  known := by
    rw [refresh_of_healthy hhealthy, List.eq_nil_iff_forall_not_mem]
    intro name hk
    simpa [h.known] using ((r.forgets_forgetAll _).known.1 hk).1
  denied _ hmem := h.denied ((h.mem_refresh_iff hhealthy).1 hmem).1

end Registry

/-- Refreshing files before anything was asked drops the denials of the names that they declare. -/
theorem Session.blank_refreshAll (h : host.Healthy) (hr : s.registry.Blank) :
    (s.refreshAll host files).registry.Blank ∧
      (s.refreshAll host files).registry.nonTemplates ⊆ s.registry.nonTemplates ∧
      ∀ name decl, host.Declares name decl → decl.file ∈ files →
        name ∉ (s.refreshAll host files).registry.nonTemplates := by
  -- The induction is on the files, with the session open: each refresh drops the denials of its own
  -- names, and the later ones bring none back.
  induction files generalizing s with
  | nil => exact ⟨hr, List.Subset.refl _, by simp⟩
  | cons file files ih =>
    obtain ⟨hblank, hsub, hdropped⟩ := ih (s := s.refresh host file) (hr.refresh h file)
    refine ⟨hblank, fun _ hmem => ((hr.mem_refresh_iff h).1 (hsub hmem)).1, ?_⟩
    intro name decl hdecl hfile hdenied
    rcases List.mem_cons.1 hfile with rfl | hfile
    · have hlists : host.Lists decl.file name := h.lists_iff.2 ⟨decl, hdecl, rfl⟩
      exact ((hr.mem_refresh_iff h).1 (hsub hdenied)).2 (.declared hlists)
    · exact hdropped name decl hdecl hfile hdenied

/-- A registry that denies no declared name attests everything that is rooted. -/
theorem Registry.attests_of_rooted (hdenied : r.nonTemplates ⊆ neverTemplates)
    (hfree : ∀ name decl, host.Declares name decl → name ∉ r.nonTemplates)
    (h : host.Rooted name) : r.Attests host [] name := by
  have hroot {n : String} (hn : n ∈ rootTemplates) : n ∉ r.nonTemplates := fun hmem =>
    not_mem_neverTemplates_of_root hn (hdenied hmem)
  refine h.transfer (fun n _ hn => .given ⟨hroot hn, .inr ⟨hn, List.not_mem_nil⟩⟩) ?_
  -- What is no root is rooted by its declaration, so that it is declared and not denied.
  intro n hn _ hbarred
  have hdeniedName : n ∈ r.nonTemplates := by simpa using hbarred
  by_cases hrooted : n ∈ rootTemplates
  · exact hroot hrooted hdeniedName
  · obtain ⟨_, ⟨decl, hdecl, _⟩, _⟩ := hn.carries hrooted
    exact hfree n decl hdecl hdeniedName

/-- What an upheld registry tells is rooted unless a file is stale. -/
theorem Registry.Upheld.rooted_of_tells (h : r.Upheld host stale) (hfresh : ∀ file, ¬ stale file)
    (htold : r.Tells host name) : host.Rooted name := by
  have hkept {n : String} (hget : (r.templates.get? n).isSome) : host.Rooted n := by
    obtain ⟨defaults, hget⟩ := Option.isSome_iff_exists.1 hget
    exact (h.supported hget).rooted hfresh
  -- Either defaults are kept, which have support, or the registry attests the name by way of such.
  rcases htold with hget | hattests
  · exact hkept hget
  · refine hattests.mono ?_ fun _ hnever => hnever.elim
    rintro n ⟨_, hget | ⟨hroot, _⟩⟩
    · exact hkept hget
    · exact .given hroot

section Sources

variable (h : host.Healthy) (hsource : host.SourceOnly) (hwf : host.WellFormed fun _ => True)
include h hsource hwf

/-- Whatever is rooted is found to be a template once the files were refreshed in which names are
declared that are never templates. -/
theorem Request.findsTemplate_refreshAll
    (hfiles : ∀ name ∈ neverTemplates, ∀ decl, host.Declares name decl → decl.file ∈ files)
    (hrooted : host.Rooted name) :
    FindsTemplate ⟨host, settings⟩ (Session.refreshAll ⟨{}, {}⟩ host files) name := by
  have hstart : Lifetime settings host ⟨{}, {}⟩ fun _ => False := .start h hsource
  obtain ⟨stale, hs, _⟩ := hstart.refreshAll (fun _ => id) files
  obtain ⟨hcalm, hr⟩ := hs.upheld
  have hblank : (Session.registry ⟨{}, {}⟩).Blank := ⟨rfl, List.Subset.refl _⟩
  obtain ⟨_, hsub, hdropped⟩ :
      (Session.refreshAll ⟨{}, {}⟩ host files).registry.Blank ∧ _ :=
    Session.blank_refreshAll h hblank
  -- The roots are denied nowhere, and the declared names lost their denials with their files.
  have hattests := Registry.attests_of_rooted hsub (fun n decl hdecl hdenied =>
    hdropped n decl hdecl (hfiles n (hsub hdenied) decl hdecl) hdenied) hrooted
  have htold : FindsTemplate ⟨host, settings⟩ (Session.refreshAll ⟨{}, {}⟩ host files) name ↔ _ :=
    templateData_some_iff h (h.sourced hsource) (hwf.mono fun _ _ => trivial) hcalm hr.known
      (hsource.inSource name)
  exact htold.2 (.inr hattests)

/-- What is not rooted is answered to be no template once no file is stale. -/
theorem Request.templateData_none_of_not_rooted (hs : Lifetime settings host s stale)
    (hfresh : ∀ file, ¬ stale file) (hrooted : ¬ host.Rooted name) :
    ∃ s', (templateData ⟨host, settings⟩ name).exec s = (.ok none, s') := by
  obtain ⟨hcalm, hr⟩ := hs.upheld
  obtain ⟨found, s', hexec, htold⟩ : ∃ found s',
      (templateData ⟨host, settings⟩ name).exec s = (.ok found, s') ∧ _ :=
    templateData_told h (h.sourced hsource) (hwf.mono fun _ _ => trivial) hcalm hr.known
      (hsource.inSource name)
  cases found with
  | none => exact ⟨s', hexec⟩
  | some defaults => exact absurd (hr.rooted_of_tells hfresh (htold.1 rfl)) hrooted

end Sources

/-- A name that is never a template is answered to be none as long as no refresh drops what was told
about it and no manifest vouches for it. Where the declarations lie in sources, it is answered to be
none whatever was asked, edited and refreshed before, exactly if it is not rooted by the current
declarations, once every file has been refreshed after its last edit. -/
theorem Request.templateData_never_iff (hnever : name ∈ neverTemplates)
    (settings : DiscoverySettings) :
    (∀ host s, Undropped settings name host s →
      (templateData ⟨host, settings⟩ name).exec s = (.ok none, s)) ∧
    ∀ host : Host, host.Healthy → host.SourceOnly → host.WellFormed (fun _ => True) →
      ((∀ s stale, Lifetime settings host s stale → (∀ file, ¬ stale file) →
          ∃ s', (templateData ⟨host, settings⟩ name).exec s = (.ok none, s')) ↔
        ¬ host.Rooted name) := by
  constructor
  · intro host s hs
    obtain ⟨_, hbars⟩ := hs.bars hnever
    exact exec_contain_ok (Lookup.exec_template?_of_denied hbars.unkept hbars.denied)
  · intro host h hsource hwf
    refine ⟨fun hnone hrooted => ?_, fun hrooted s stale hs hfresh =>
      templateData_none_of_not_rooted h hsource hwf hs hfresh hrooted⟩
    -- The session in which the files of all such names were refreshed finds a template.
    have hstart : Lifetime settings host ⟨{}, {}⟩ fun _ => False := .start h hsource
    obtain ⟨stale, hs, hfresh⟩ := hstart.refreshAll (fun _ => id) (host.filesOf neverTemplates)
    obtain ⟨defaults, s', hfound⟩ : FindsTemplate ⟨host, settings⟩ _ name :=
      findsTemplate_refreshAll h hsource hwf (fun _ hnever _ hdecl => hdecl.mem_filesOf hnever)
        hrooted
    obtain ⟨s'', hnothing⟩ := hnone _ stale hs hfresh
    cases hfound.symm.trans hnothing

/-! ### A list that is marked as a template -/

namespace Program

/-- An annotation of the name of a list that carries the marker, and one that carries the list. -/
def markedList : Program :=
  .ofDeclarations [{ path := "src/java/util/List.java" }, { path := "src/a/Names.java" }]
    [{ name := "List", qualifiedName := some "java.util.List", file := ⟨0⟩, kind := .annotationType
       annotations := [{ name := templateMarker }] },
     { name := "Names", qualifiedName := some "a.Names", file := ⟨1⟩, kind := .annotationType
       annotations := [{ name := "java.util.List" }] }]

theorem consistent_markedList : markedList.Consistent := .ofDeclarations (by decide) (by decide)

theorem rooted_markedList : markedList.toHost.Rooted "java.util.List" :=
  .marked ⟨_, consistent_markedList.declares_iff.2 ⟨⟨0⟩, rfl, rfl⟩, _, List.mem_cons_self, rfl⟩ id

theorem sourceOnly_markedList : markedList.toHost.SourceOnly :=
  consistent_markedList.sourceOnly (by decide)

/-- The session after asking for the other annotation. -/
def askedNames : Session :=
  (((Question.templateData "a.Names").ask markedList.scope).exec ⟨{}, {}⟩).2

/-- A refresh of the other file leaves the list alone. -/
theorem not_drops_askedNames :
    ¬ askedNames.registry.Drops markedList.toHost ⟨1⟩ "java.util.List" := by
  have howners : askedNames.registry.owners = ⟨[("a.Names", ⟨1⟩)]⟩ := rfl
  have hnames (n : String) (h : askedNames.registry.DerivesFrom markedList.toHost ⟨1⟩ n) :
      n = "a.Names" := by
    -- What derives from the other file was read from it or is declared in it, and nothing depends
    -- on it.
    induction h with
    | @owned n howner =>
      simp only [howners, Table.get?_cons] at howner
      split at howner
      · assumption
      · cases howner
    | @declared n hlists =>
      obtain ⟨decl, hdecl, hfile⟩ := consistent_markedList.healthy.lists_iff.1 hlists
      obtain ⟨hmem, hname⟩ := consistent_markedList.mem_decls hdecl
      have hfiles : ∀ decl ∈ markedList.decls, decl.file = ⟨1⟩ →
          decl.qualifiedName = some "a.Names" := by decide
      exact Option.some.inj (hname.symm.trans (hfiles decl hmem hfile))
    | dependent _ hname _ => cases hname
  exact fun hdrops => absurd (hnames _ hdrops.derives) (by decide)

/-- The list stays denied when the other file is refreshed after the question. -/
theorem undropped_askedNames : Undropped {} "java.util.List" markedList.toHost
    (askedNames.refresh markedList.toHost ⟨1⟩) :=
  have hstart : Undropped {} "java.util.List" markedList.toHost ⟨{}, {}⟩ :=
    .start consistent_markedList.healthy sourceOnly_markedList.not_vouches
  (hstart.ask (.templateData "a.Names")).refresh ⟨1⟩ not_drops_askedNames

end Program

theorem Request.templateData_never_iff_markedList :
    let host := Program.markedList.toHost
    let s := Program.askedNames.refresh host ⟨1⟩
    "java.util.List" ∈ neverTemplates ∧
      (templateData ⟨host, {}⟩ "java.util.List").exec s = (.ok none, s) ∧
      ¬ ∀ s stale, Lifetime {} host s stale → (∀ file, ¬ stale file) →
        ∃ s', (templateData ⟨host, {}⟩ "java.util.List").exec s = (.ok none, s') := by
  intro host s
  have hp := Program.consistent_markedList
  have hnever : "java.util.List" ∈ neverTemplates := by decide
  obtain ⟨hstays, hexact⟩ := templateData_never_iff hnever {}
  refine ⟨hnever, hstays host s Program.undropped_askedNames, fun hnone => ?_⟩
  exact (hexact host hp.healthy Program.sourceOnly_markedList (hp.wellFormed _ (by decide))).1 hnone
    Program.rooted_markedList

/-- On a new registry the list is answered to be no template, and after a refresh of its file, which
nobody has edited, it is answered to be one. -/
theorem Request.templateData_finds_markedList :
    let scope := Program.markedList.scope
    let s := Session.refresh ⟨{}, {}⟩ scope.host ⟨0⟩
    scope.host.Healthy ∧ "java.util.List" ∈ neverTemplates ∧
      (templateData scope "java.util.List").exec ⟨{}, {}⟩ = (.ok none, ⟨{}, {}⟩) ∧
      (∃ stale, Lifetime {} scope.host s stale ∧ ∀ file, ¬ stale file) ∧
      FindsTemplate scope s "java.util.List" := by
  intro scope s
  have hp := Program.consistent_markedList
  have hstart : Lifetime {} scope.host ⟨{}, {}⟩ fun _ => False :=
    .start hp.healthy Program.sourceOnly_markedList
  refine ⟨hp.healthy, by decide, rfl, ⟨_, hstart.refresh ⟨0⟩, fun _ hstale => hstale.1⟩, ?_⟩
  have hfiles : ∀ name ∈ neverTemplates, ∀ decl, scope.host.Declares name decl →
      decl.file ∈ [(⟨0⟩ : FileId)] := by
    intro name hnever decl hdecl
    obtain ⟨hmem, hname⟩ := hp.mem_decls hdecl
    have hchecked : ∀ decl ∈ Program.markedList.decls, ∀ name ∈ decl.qualifiedName,
        name ∈ neverTemplates → decl.file ∈ [(⟨0⟩ : FileId)] := by decide
    exact hchecked decl hmem name hname hnever
  exact findsTemplate_refreshAll hp.healthy Program.sourceOnly_markedList
    (hp.wellFormed _ (by decide)) hfiles Program.rooted_markedList

/-! ### A list that a manifest vouches for -/

/-- A manifest that lists the list, whose declaration in the archive carries the marker. -/
def Program.listedList : Program :=
  (Program.ofDeclarations [{ path := "a/T.class", location := .archive "lib.jar" }]
    [{ name := "List", qualifiedName := some "java.util.List", file := ⟨0⟩, kind := .annotationType
       annotations := [{ name := templateMarker }] },
     { name := "P", qualifiedName := some "a.P", file := ⟨0⟩, kind := .annotationType }]
  ).withLibrary "template:java.util.List\n"

theorem Program.consistent_listedList : listedList.Consistent :=
  .withLibrary (.ofDeclarations (by decide) (by decide)) _

theorem Program.vouches_listedList : listedList.scope.Vouches "java.util.List" := by
  have hlist := consistent_listedList.declares_iff.2 ⟨⟨0⟩, rfl, rfl⟩
  have hother := consistent_listedList.declares_iff.2 ⟨⟨1⟩, rfl, rfl⟩
  have hstores : listedList.scope.Stores (listedList.toHost.archiveAt "lib.jar") "a.P" :=
    ⟨_, _, "lib.jar", hother, rfl, rfl, rfl⟩
  have hlists : listedList.scope.Lists (listedList.toHost.archiveAt "lib.jar") "java.util.List" :=
    ⟨_, rfl, ⟨"java.util.List", .template⟩, List.mem_cons_self, rfl, rfl⟩
  exact ⟨"a.P", _, ⟨by decide, by decide, hlist, _, hstores, hlists⟩, rfl⟩

/-- Without a refresh the list is answered to be a template, once the manifest was taken for another
annotation of the archive. -/
theorem Request.templateData_finds_listedList :
    let scope := Program.listedList.scope
    let s := (((Question.templateData "a.P").ask scope).exec ⟨{}, {}⟩).2
    scope.Vouches "java.util.List" ∧
      ((templateData scope "java.util.List").exec ⟨{}, {}⟩).1.toOption.map Option.isSome =
        some false ∧
      ((templateData scope "java.util.List").exec s).1.toOption.map Option.isSome = some true :=
  ⟨Program.vouches_listedList, by decide +kernel, by decide +kernel⟩

end PrototypeLens
