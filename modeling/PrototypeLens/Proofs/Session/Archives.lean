import PrototypeLens.Proofs.Program.Packed
import PrototypeLens.Proofs.Session.Asking
import PrototypeLens.Proofs.Template.Defaults

/-!
# Templates in archives

Discovering an annotation in an archive takes all of the manifest, and writes down about every name
that is listed there what the marker says, while a name that is asked for itself is also judged by
the other annotations on it. The answers do not depend on what was asked before as long as the two
agree and no template is met again on the way from its own discovery.

## Layers

- `Scope.Discoverable`: what a discovery can find at all, which leaves out declarations in archives
  without records.
- `Scope.Concordant`: manifests agree with the declarations, and no template is met again. `ComesTo`
  is the relation that the second half speaks of.
- `Registry.Concordant`: the registry holds only what can be discovered and denies nothing of it.
  This is the invariant.
- `concordantDiscipline`: why discoveries keep it, one field for each thing that a discovery does.

## Main results

- `Request.templateData_discovers`: after any questions an annotation is answered to be a template
  exactly if it can be discovered.
- After any questions the answer is the same as on a fresh registry.
- `Program.Consistent.agrees_of_marked` and `Program.Consistent.not_carries_of_comesTo`: conditions
  on a program that can be checked. A library meets them, and another one shows that they are
  needed.
-/

namespace PrototypeLens

open Relation (ReflTransGen TransGen)

/-! ## What can be discovered -/

namespace Scope

variable (scope : Scope)

/-- The templates that can be discovered: the roots, and what carries the marker or one of them on a
declaration whose annotations count. -/
def Discoverable : String → Prop :=
  scope.host.Derivable (· ∈ rootTemplates) fun name => name ∈ neverTemplates ∨ ¬ scope.Inspects name

/-- A name is declared in an archive. -/
def Stores (archive : Archive) (name : String) : Prop :=
  ∃ decl file path, scope.host.Declares name decl ∧ scope.host.file decl.file = .ok file ∧
    file.location = .archive path ∧ scope.host.archiveAt path = archive

/-- The manifest that is taken where `own` is discovered lists a name with this declaration. -/
structure Offers (own name : String) (decl : Declaration) : Prop where
  own_root : own ∉ rootTemplates
  root : name ∉ rootTemplates
  declares : scope.host.Declares name decl
  lists : ∃ archive, scope.Stores archive own ∧ scope.Lists archive name

/-- The discovery of a name comes to those of the annotations on its declaration, and on those that
its manifest lists and that have the marker. -/
inductive ComesTo (own : String) : String → Prop where
  | carried {mark : String} : own ∉ rootTemplates → scope.host.Carries own mark → ComesTo own mark
  | listed {name : String} {decl : Declaration} {mark : AnnotationUse} :
      scope.Offers own name decl → decl.isAnnotatedWith templateMarker = true →
      mark ∈ decl.annotations → ComesTo own mark.name

/-- What the manifests say is what can be discovered, and no template that can be discovered is met
again on a declaration that its own discovery comes to. -/
structure Concordant : Prop where
  agrees {own name : String} {decl : Declaration} : scope.Offers own name decl →
    (decl.isAnnotatedWith templateMarker = true ↔ scope.Discoverable name)
  straight {name own : String} : scope.Discoverable name → ReflTransGen scope.ComesTo name own →
    own ∉ rootTemplates → ¬ scope.host.Carries own name

variable {scope : Scope} {name : String}

/-- Where a declaration in an archive has annotations that count, the manifest has records. -/
theorem Inspects.manifest (h : scope.Inspects name) {decl : Declaration} {file : SourceFile}
    {path : String} (hdecl : scope.host.Declares name decl)
    (hfile : scope.host.file decl.file = .ok file) (hlocation : file.location = .archive path) :
    ∃ entry entries, (scope.host.archiveAt path).templateManifest scope.settings.manifestPath =
      .ok (entry :: entries) := by
  -- The name has one declaration, which lies in that archive.
  obtain ⟨decl', file', hdecl', hfile', hrecords⟩ := h
  cases hdecl.unique hdecl'
  cases hfile.symm.trans hfile'
  exact hrecords path hlocation

namespace Discoverable

/-- What can be discovered besides the roots carries the marker or what can be discovered. -/
theorem carries (h : scope.Discoverable name) (hroot : name ∉ rootTemplates) :
    ∃ mark, scope.host.Carries name mark ∧ (mark = templateMarker ∨ scope.Discoverable mark) :=
  Host.Derivable.carries h hroot

/-- It is allowed to be a template, and its annotations count. -/
theorem free (h : scope.Discoverable name) (hroot : name ∉ rootTemplates) :
    name ∉ neverTemplates ∧ scope.Inspects name := by
  -- The marker and a carried template make a name discoverable only where it is free; the roots are
  -- the third way.
  cases h with
  | given hname => exact absurd hname hroot
  | marked _ hfree | carried _ _ hfree => simpa using hfree

theorem not_never (h : scope.Discoverable name) : name ∉ neverTemplates := by
  by_cases hroot : name ∈ rootTemplates
  · exact not_mem_neverTemplates_of_root hroot
  · exact (h.free hroot).1

end Discoverable

end Scope

/-! ## What lookups keep -/

/-- What a registry holds agrees with what can be discovered. -/
structure Registry.Concordant (scope : Scope) (r : Registry) : Prop where
  known {name : String} : name ∈ r.knownTemplates → scope.Discoverable name
  kept {name : String} {defaults : Descriptor} :
    r.templates.get? name = some defaults → scope.Discoverable name
  denied {name : String} : name ∈ r.nonTemplates → ¬ scope.Discoverable name
  never : neverTemplates ⊆ r.nonTemplates

namespace Registry.Concordant

variable {scope : Scope} {r r' : Registry} {name : String}

theorem fresh : Registry.Concordant scope {} :=
  ⟨nofun, nofun, fun hnever h => h.not_never hnever, List.Subset.refl _⟩

theorem congr (h : r.Concordant scope) (hsame : r.SameTemplates r') : r'.Concordant scope where
  known hk := h.known (hsame.knownTemplates ▸ hk)
  kept hget := h.kept (hsame.templates ▸ hget)
  denied hdenied := h.denied (hsame.nonTemplates ▸ hdenied)
  never := hsame.nonTemplates ▸ h.never

theorem announce (h : r.Concordant scope) (hname : scope.Discoverable name) :
    (r.announceTemplate name).Concordant scope where
  -- The new template is the only name that becomes known, and what becomes denied is never a
  -- template.
  known hk := by
    rcases (r.mem_announceTemplate_knownTemplates _ _).1 hk with rfl | hk
    · exact hname
    · exact h.known hk
  kept hget := h.kept (r.announceTemplate_templates_get? _ _ hget).2
  denied hdenied := by
    rcases r.mem_announceTemplate_nonTemplates name _ hdenied with hnever | hdenied
    · exact fresh.denied hnever
    · exact h.denied hdenied
  never := r.subset_announceTemplate name (List.Subset.refl _) h.never

-- Published defaults are those of the name, which can be discovered.
theorem publish (h : r.Concordant scope) (hname : scope.Discoverable name)
    (defaults : Descriptor) (file? : Option FileId) :
    (r.publishTemplate r.epoch name file? defaults).Concordant scope where
  known hk := by
    rw [publishTemplate_knownTemplates] at hk
    exact h.known hk
  kept hget := by
    rcases r.publishTemplate_templates_get? _ _ _ hget with hget | ⟨rfl, _⟩
    · exact h.kept hget
    · exact hname
  denied hdenied := by
    rw [publishTemplate_self, recordOwner?_nonTemplates] at hdenied
    exact h.denied hdenied
  never := by
    rw [publishTemplate_self, recordOwner?_nonTemplates]
    exact h.never

theorem deny (h : r.Concordant scope) (hname : ¬ scope.Discoverable name)
    (file? : Option FileId) : (r.denyTemplate name file?).Concordant scope where
  known hk := h.known (by simpa using hk)
  kept hget := h.kept (by simpa using hget)
  denied hdenied := by
    -- The only new denial is that of the name itself.
    rcases r.mem_denyTemplate name _ file? hdenied with hdenied | ⟨rfl, _⟩
    · exact h.denied hdenied
    · exact hname
  never := List.Subset.trans h.never (r.subset_denyTemplate name file?)

end Registry.Concordant

/-- A manifest may be taken on behalf of the annotations that lie with it. -/
theorem Scope.Concordant.permits {scope : Scope} (hconcordant : scope.Concordant)
    {own path : String} {decl : Declaration} {file : SourceFile} (hroot : own ∉ rootTemplates)
    (hdecl : scope.host.Declares own decl) (hfile : scope.host.file decl.file = .ok file)
    (hlocation : file.location = .archive path) :
    Permits scope (scope.host.archiveAt path) scope.Discoverable (¬ scope.Discoverable ·)
      (TransGen scope.ComesTo) (fun _ _ => True) own := by
  -- What such a manifest lists is offered on behalf of the annotation.
  have hoffers {name : String} {listed : Declaration}
      (hlists : scope.Lists (scope.host.archiveAt path) name) (hname : name ∉ rootTemplates)
      (hlisted : scope.host.Declares name listed) : scope.Offers own name listed :=
    ⟨hroot, hname, hlisted, _, ⟨decl, file, path, hdecl, hfile, hlocation, rfl⟩, hlists⟩
  -- An annotation that can be discovered has a manifest with records, so that the other two
  -- outcomes leave nothing to show.
  have hrecords (hdiscoverable : scope.Discoverable own) :=
    (hdiscoverable.free hroot).2.manifest hdecl hfile hlocation
  exact {
    unreadable := fun herror hdiscoverable => by
      obtain ⟨_, _, hok⟩ := hrecords hdiscoverable
      cases herror.symm.trans hok
    empty := fun hempty hdiscoverable => by
      obtain ⟨_, _, hok⟩ := hrecords hdiscoverable
      cases hempty.symm.trans hok
    marked := fun hlists hname hlisted hmarked =>
      (hconcordant.agrees (hoffers hlists hname hlisted)).1 hmarked
    unmarked := fun hlists hname hlisted hunmarked hdiscoverable => by
      rw [(hconcordant.agrees (hoffers hlists hname hlisted)).2 hdiscoverable] at hunmarked
      cases hunmarked
    leads := fun hlists hname hlisted hmarked hmark =>
      .single (.listed (hoffers hlists hname hlisted) hmarked hmark)
    still := fun _ _ => trivial }

section

variable {scope : Scope} (h : scope.host.Healthy)
  (hwf : scope.host.WellFormed scope.Discoverable) (hconcordant : scope.Concordant)
include h hwf hconcordant

/-- Where manifests and declarations agree, discoveries succeed and find out what can be
discovered. -/
def concordantDiscipline : Discipline scope where
  Inv := Registry.Concordant scope
  Temp := scope.Discoverable
  Not name := ¬ scope.Discoverable name
  Free name := name ∉ neverTemplates ∧ scope.Inspects name
  Leads := TransGen scope.ComesTo
  Still _ _ := True
  Taken _ name _ := scope.Discoverable name
  Failed := False
  named := Conduct.named_of_healthy h
  find_failed := h.findData_ne_error
  file_failed hdecl := h.file_ne_error hdecl
  defaults_failed hr ht hfind :=
    -- Only templates are published, whose own annotations can be resolved.
    Scope.defaultsOf_ne_error h hwf (fun _ => hr.known) hfind ht
  archived := hconcordant.permits
  root := .given
  -- A denied name is not free, as names that are never templates stay denied.
  free hr hnon hinspects := ⟨fun hnever => hnon (hr.never hnever), hinspects⟩
  marked hfree hcarries := .marked hcarries (by simpa using hfree)
  carried hfree hcarries ht := .carried hcarries ht (by simpa using hfree)
  undeclared hroot hfind ht := by
    obtain ⟨mark, ⟨decl, hdecl, _⟩, _⟩ := ht.carries hroot
    exact hfind.not_declares decl hdecl
  plain hroot hdecl hmarks ht := by
    obtain ⟨mark, hcarries, hmark⟩ := ht.carries hroot
    obtain ⟨use, huse, rfl⟩ := hdecl.carries_iff.1 hcarries
    exact hmark.elim (hmarks use huse).1 (hmarks use huse).2
  -- Being met again is what the second half of concordance excludes.
  circular hown hlead hcarries ht := by
    refine hconcordant.straight ht ?_ hown hcarries
    rcases hlead with rfl | hlead
    · exact .refl
    · exact hlead.to_reflTransGen
  leads hroot hcarries := .single (.carried hroot hcarries)
  leads_trans := .trans
  announce := .announce
  publish hr ht _ _ _ := ⟨hr.publish ht _ _, ht⟩
  kept hr hget := ⟨hr.kept hget, hr.kept hget⟩
  deny hr hnot _ := hr.deny hnot _
  denied hr := hr.denied
  depend _ _ hr := hr.congr (Registry.sameTemplates_recordDependent ..)
  still_refl _ := trivial
  still_trans _ _ := trivial
  still_deny _ _ _ := trivial
  still_taken _ := id

theorem Scope.Visited.idle_and_concordant {s : Session} (hs : scope.Visited s) :
    s.guards.Idle ∧ s.registry.Concordant scope :=
  hs.holds (C := (concordantDiscipline h hwf hconcordant).conduct h .congr
    fun hdecl huse ht => Scope.takeUsage_ne_error h hwf hdecl huse ht) .fresh

/-! ## Answers -/

/-- Where manifests and declarations agree, an annotation is answered to be a template exactly if it
can be discovered. -/
theorem Request.templateData_discovers {s : Session} (hs : scope.Visited s) (name : String) :
    ∃ found s', (templateData scope name).exec s = (.ok found, s') ∧
      (found.isSome ↔ scope.Discoverable name) := by
  obtain ⟨r, g⟩ := s
  -- The session is idle, so that no discovery is under way that could cut this one short.
  obtain ⟨hidle, hr⟩ := hs.idle_and_concordant h hwf hconcordant
  have hyields : (Lookup.template? scope name).Yields r g
      ((concordantDiscipline h hwf hconcordant).Told name r) :=
    Discipline.yields_template? hidle.discovering hidle.defaulting hr
  obtain ⟨out, r', hexec, htold⟩ := hyields
  cases out with
  -- Discoveries fail nowhere, so that there are only the two answers to look at.
  | error e => exact (htold.failed rfl).elim
  | ok found =>
    refine ⟨found, _, exec_contain_ok hexec, ?_⟩
    cases found with
    | none => exact iff_of_false nofun (htold.passed rfl).1
    | some defaults => exact iff_of_true rfl (htold.taken rfl).1

/-- So it is answered after any questions as on a fresh registry. -/
theorem Request.templateData_isSome_fresh {s : Session} (hs : scope.Visited s) (name : String) :
    ∃ fresh found s₀ s', (templateData scope name).exec ⟨{}, {}⟩ = (.ok fresh, s₀) ∧
      (templateData scope name).exec s = (.ok found, s') ∧
      (found.isSome ↔ fresh.isSome) ∧ (found.isSome ↔ scope.Discoverable name) := by
  obtain ⟨fresh, s₀, hexec₀, hfresh⟩ := templateData_discovers h hwf hconcordant .start name
  obtain ⟨found, s', hexec, hfound⟩ := templateData_discovers h hwf hconcordant hs name
  exact ⟨fresh, found, s₀, s', hexec₀, hexec, hfound.trans hfresh.symm, hfound⟩

end

/-! ### Programs with a library -/

namespace Program.Consistent

variable {p : Program} {own name : String} {decl : Declaration}

/-- Where the one manifest of a program lists no declared name without the marker, it agrees with
what can be discovered. -/
theorem agrees_of_marked (h : p.Consistent) {first : ManifestEntry} {rest : List ManifestEntry}
    (hmanifest : ∀ file ∈ p.files, ∀ path, file.location = .archive path →
      (p.toHost.archiveAt path).templateManifest p.scope.settings.manifestPath =
        .ok (first :: rest))
    (hmarked : ∀ decl ∈ p.decls, ∀ name ∈ decl.qualifiedName,
      name ∈ (first :: rest).map (·.name) → name ∉ neverTemplates ∧
        ∃ use ∈ decl.annotations, use.name = templateMarker)
    (hoffers : p.scope.Offers own name decl) :
    decl.isAnnotatedWith templateMarker = true ↔ p.scope.Discoverable name := by
  -- The manifest that offers the name is the one that every archive of the program has.
  obtain ⟨_, ⟨_, file, path, _, hfile, hlocation, rfl⟩, entries, hok, entry, hentry, _, rfl⟩ :=
    hoffers.lists
  cases (hmanifest file (h.mem_files hfile) path hlocation).symm.trans hok
  obtain ⟨hmem, hname⟩ := h.mem_decls hoffers.declares
  obtain ⟨hnever, use, huse, hmarker⟩ := hmarked decl hmem _ hname (List.mem_map_of_mem hentry)
  have hannotated := Declaration.isAnnotatedWith_of_mem huse
  obtain ⟨id, _, hid⟩ := hoffers.declares.declaration
  obtain ⟨file', hfile'⟩ := h.healthy.file_ok hid
  have hinspects : p.scope.Inspects entry.name := ⟨decl, file', hoffers.declares, hfile',
    fun path hpath => ⟨first, rest, hmanifest file' (h.mem_files hfile') path hpath⟩⟩
  -- Both sides hold: the marker stands on the declaration, and it is enough to be discovered.
  refine iff_of_true (hmarker ▸ hannotated) ?_
  exact .marked ⟨decl, hoffers.declares, use, huse, hmarker⟩ (by simp [hnever, hinspects])

/-- A rank that decreases from a declaration to the annotations on it, and is not below that of any
annotation on a declaration with the marker, keeps names from being met again. -/
theorem not_carries_of_comesTo (h : p.Consistent) (rank : String → Nat)
    (hcarried : ∀ decl ∈ p.decls, ∀ own ∈ decl.qualifiedName, ∀ use ∈ decl.annotations,
      rank use.name < rank own)
    (hlisted : ∀ decl ∈ p.decls, ∀ own ∈ decl.qualifiedName, ∀ other ∈ p.decls,
      other.isAnnotatedWith templateMarker = true → ∀ use ∈ other.annotations,
      rank use.name ≤ rank own)
    (hpath : ReflTransGen p.scope.ComesTo name own) : ¬ p.toHost.Carries own name := by
  -- Annotations on a declaration have a lower rank.
  have hcarries {n m : String} (hc : p.toHost.Carries n m) : rank m < rank n := by
    obtain ⟨decl, hdecl, use, huse, rfl⟩ := hc
    obtain ⟨hmem, hname⟩ := h.mem_decls hdecl
    exact hcarried decl hmem n hname use huse
  -- Along the way the rank does not rise, as what a manifest lists is no higher either.
  have hstep {n m : String} (hc : p.scope.ComesTo n m) : rank m ≤ rank n := by
    cases hc with
    | carried _ hc => exact Nat.le_of_lt (hcarries hc)
    | listed hoffers hmarked hmark =>
      obtain ⟨_, ⟨decl, _, _, hdecl, _⟩, _⟩ := hoffers.lists
      obtain ⟨hmem, hname⟩ := h.mem_decls hdecl
      exact hlisted decl hmem n hname _ (h.mem_decls hoffers.declares).1 hmarked _ hmark
  -- The induction is on the way; at its end the rank is still no higher than at its start.
  have hle : rank own ≤ rank name := by
    induction hpath with
    | refl => exact Nat.le_refl _
    | tail _ hc ih => exact Nat.le_trans (hstep hc) ih
  exact fun hc => absurd (hcarries hc) (Nat.not_lt.2 hle)

end Program.Consistent

/-- Two templates on each other that a manifest lists, another one that it does not list, and an
annotation that is none. -/
def Program.packedTemplates : Program :=
  (Program.ofDeclarations [{ path := "a/T.class", location := .archive "lib.jar" }]
    [{ name := "T", qualifiedName := some "a.T", file := ⟨0⟩, kind := .annotationType
       annotations := [{ name := templateMarker }] },
     { name := "U", qualifiedName := some "a.U", file := ⟨0⟩, kind := .annotationType
       annotations := [{ name := templateMarker }, { name := "a.T" }] },
     { name := "X", qualifiedName := some "a.X", file := ⟨0⟩, kind := .annotationType
       annotations := [{ name := "a.T" }] },
     { name := "P", qualifiedName := some "a.P", file := ⟨0⟩, kind := .annotationType }]
  ).withLibrary "template:a.U\ntemplate:a.T\n"

theorem Program.consistent_packedTemplates : packedTemplates.Consistent :=
  .withLibrary (.ofDeclarations (by decide) (by decide)) _

/-- How many annotations lead down from each of them. -/
def Program.packedRank (name : String) : Nat :=
  if name = templateMarker then 0 else if name = "a.U" ∨ name = "a.X" then 2 else 1

theorem Program.concordant_packedTemplates : packedTemplates.scope.Concordant where
  agrees hoffers := by
    have hmanifest : ∀ file ∈ packedTemplates.files, ∀ path, file.location = .archive path →
        (packedTemplates.toHost.archiveAt path).templateManifest
          packedTemplates.scope.settings.manifestPath =
            .ok [⟨"a.U", .template⟩, ⟨"a.T", .template⟩] := by
      intro file hfile path hpath
      -- There is one file, in the one archive.
      cases List.mem_singleton.1 hfile
      cases hpath
      rfl
    exact consistent_packedTemplates.agrees_of_marked hmanifest (by decide) hoffers
  straight _ hpath _ := consistent_packedTemplates.not_carries_of_comesTo packedRank
    (by decide) (by decide) hpath

/-- The session after asking for the annotation that is no template. -/
def Program.afterPacked : Session :=
  (((Question.templateData "a.P").ask packedTemplates.scope).exec ⟨{}, {}⟩).2

theorem Request.templateData_isSome_fresh_packedTemplates :
    let scope := Program.packedTemplates.scope
    let s := Program.afterPacked
    scope.host.Healthy ∧ scope.host.WellFormed scope.Discoverable ∧ scope.Concordant ∧
      scope.Visited s ∧
      ∃ fresh found s₀ s', (templateData scope "a.X").exec ⟨{}, {}⟩ = (.ok fresh, s₀) ∧
        (templateData scope "a.X").exec s = (.ok found, s') ∧
        (found.isSome ↔ fresh.isSome) ∧ (found.isSome ↔ scope.Discoverable "a.X") := by
  intro scope s
  have hp := Program.consistent_packedTemplates
  have hwf : scope.host.WellFormed scope.Discoverable := hp.wellFormed _ (by decide)
  have hconcordant : scope.Concordant := Program.concordant_packedTemplates
  have hs : scope.Visited s := .ask (.templateData "a.P") .start
  exact ⟨hp.healthy, hwf, hconcordant, hs,
    templateData_isSome_fresh hp.healthy hwf hconcordant hs "a.X"⟩

/-- A manifest lists a template that has no marker. -/
def Program.listedDerived : Program :=
  (Program.ofDeclarations [{ path := "a/T.class", location := .archive "lib.jar" }]
    [{ name := "T", qualifiedName := some "a.T", file := ⟨0⟩, kind := .annotationType
       annotations := [{ name := codePrototype }] },
     { name := "P", qualifiedName := some "a.P", file := ⟨0⟩, kind := .annotationType }]
  ).withLibrary "template:a.T\n"

theorem Program.consistent_listedDerived : listedDerived.Consistent :=
  .withLibrary (.ofDeclarations (by decide) (by decide)) _

/-- The session after asking for the other annotation. -/
def Program.afterListed : Session :=
  (((Question.templateData "a.P").ask listedDerived.scope).exec ⟨{}, {}⟩).2

/-- When the manifest is taken for another annotation, the template is denied. -/
theorem Request.templateData_denies_listed :
    let scope := Program.listedDerived.scope
    scope.host.Healthy ∧ scope.Visited Program.afterListed ∧
      (scope.host.archiveAt "lib.jar").templateManifest scope.settings.manifestPath =
        .ok [⟨"a.T", .template⟩] ∧
      ((templateData scope "a.T").exec ⟨{}, {}⟩).1.toOption.map Option.isSome = some true ∧
      ((templateData scope "a.T").exec Program.afterListed).1.toOption.map Option.isSome =
        some false :=
  -- Both answers are computed, before and after the manifest is taken.
  ⟨Program.consistent_listedDerived.healthy, .ask (.templateData "a.P") .start, rfl,
    by decide +kernel, by decide +kernel⟩

end PrototypeLens
