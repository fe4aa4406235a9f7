import PrototypeLens.Proofs.Descriptor.Taking
import PrototypeLens.Proofs.Origin.Meaning
import PrototypeLens.Proofs.Registry.Attribution
import PrototypeLens.Proofs.Session.Asking
import PrototypeLens.Proofs.Session.Freshness

/-!
# Origins while the program changes

Sessions on one registry while declarations are edited and files are refreshed, in any order, where
every lookup succeeds. At any time the known origins are those of the current declarations, but for
the files that are stale, and every prototype comes with an origin.

## Layers

- `History`: the sessions on one registry, while the program stays fit for a given purpose.
- `Host.TemplatesAmong` and `Host.Orderly`: the programs for which all lookups succeed. The names
  that may be templates are given beforehand, as the registry may keep those of earlier programs.
- `Registry.Accounted`: the templates are among those names, and known origins may be believed. One
  lemma for each change to the registry, and one for an edit and a refresh each.
- `accountedDiscipline` and `accountedConduct`: lookups succeed and keep account.

## Main results

- `History.balanced`: at any time nothing is being computed, the registry keeps account, and no
  prototype is stranded without an origin.
-/

namespace PrototypeLens

open Relation (ReflTransGen TransGen)

/-! ## Histories -/

/-- The sessions on one registry while the program is edited and stays fit, with the host as it is
at the end and the files whose declarations were edited after they had last been refreshed. -/
inductive History (settings : DiscoverySettings) (fit : Host → Prop) :
    Host → Session → (FileId → Prop) → Prop where
  /-- The first session starts with an empty registry. -/
  | start {host : Host} : fit host → History settings fit host ⟨{}, {}⟩ fun _ => False
  | ask {host : Host} {s : Session} {stale : FileId → Prop} (q : Question) :
      History settings fit host s stale →
      History settings fit host ((q.ask ⟨host, settings⟩).exec s).2 stale
  /-- Another session is opened. -/
  | reopen {host : Host} {s : Session} {stale : FileId → Prop} :
      History settings fit host s stale → History settings fit host ⟨s.registry, {}⟩ stale
  /-- Declarations are added, changed, moved or removed. -/
  | edit {host host' : Host} {s : Session} {stale : FileId → Prop} :
      History settings fit host s stale → fit host' →
      History settings fit host' s fun file => stale file ∨ ¬ host.SameIn host' file
  /-- A file is refreshed. -/
  | refresh {host : Host} {s : Session} {stale : FileId → Prop} (file : FileId) :
      History settings fit host s stale →
      History settings fit host (s.refresh host file) fun other => stale other ∧ other ≠ file

/-- The host is fit at any time. -/
theorem History.fit {settings : DiscoverySettings} {fit : Host → Prop} {host : Host} {s : Session}
    {stale : FileId → Prop} (h : History settings fit host s stale) : fit host := by
  -- The induction is on the history, of which only the start and the edits tell a host.
  induction h with
  | start hfit => exact hfit
  | ask _ _ ih => exact ih
  | reopen _ ih => exact ih
  | edit _ hfit _ => exact hfit
  | refresh _ _ ih => exact ih

/-! ## Orderly hosts -/

/-- The names of `among` hold the roots, and every declared name that carries the marker or one of
them. In a manifest the marker may go by its simple name. -/
structure Host.TemplatesAmong (host : Host) (among : String → Prop) : Prop where
  root {name : String} : name ∈ rootTemplates → among name
  marked {name : String} {decl : Declaration} : host.Declares name decl →
    decl.isAnnotatedWith templateMarker = true → among name
  carried {name parent : String} : host.Carries name parent → among parent → among name

/-- A host that answers every query about what it holds, whose templates have well-formed
strategies, and where every declaration stands in others that exist and not within itself. The
templates are among the given names, which may also hold those that were templates before. -/
structure Host.Orderly (among : String → Prop) (host : Host) : Prop extends host.Healthy where
  templates : host.TemplatesAmong among
  wellFormed : host.WellFormed among
  enclosing {id outer : DeclId} : host.EnclosedBy id outer →
    ∃ decl, host.declaration outer = .ok decl
  acyclic (id : DeclId) : ¬ TransGen host.EnclosedBy id id

theorem Host.TemplatesAmong.of_carries {host : Host} {among : String → Prop} {name : String}
    (h : host.TemplatesAmong among) (hcarries : host.Carries name templateMarker) : among name := by
  obtain ⟨decl, hdecl, use, huse, hmarker⟩ := hcarries
  exact h.marked hdecl (hmarker ▸ Declaration.isAnnotatedWith_of_mem huse)

/-! ## What lookups keep -/

/-- What holds of a registry at any time: the names that are kept as templates are among the given
ones, and the known origins may be believed. -/
structure Registry.Accounted (host : Host) (markers : List String) (among : String → Prop)
    (stale : FileId → Prop) (r : Registry) : Prop where
  known {name : String} : name ∈ r.knownTemplates → among name
  kept {name : String} {defaults : Descriptor} : r.templates.get? name = some defaults → among name
  attributed : r.Attributed host markers stale

namespace Registry.Accounted

variable {host host' : Host} {markers : List String} {among : String → Prop}
  {stale : FileId → Prop} {r r' : Registry} {name : String}

theorem fresh : Registry.Accounted host markers among stale {} :=
  ⟨nofun, nofun, attributed_fresh⟩

/-- A registry that tells the same about templates. -/
theorem congr (h : r.Accounted host markers among stale) (hsame : r.SameTemplates r')
    (hattributed : r'.Attributed host markers stale) : r'.Accounted host markers among stale :=
  ⟨fun hk => h.known (hsame.knownTemplates ▸ hk), fun hget => h.kept (hsame.templates ▸ hget),
    hattributed⟩

theorem announce (h : r.Accounted host markers among stale) (hname : among name) :
    (r.announceTemplate name).Accounted host markers among stale where
  known hk := by
    rcases (r.mem_announceTemplate_knownTemplates _ _).1 hk with rfl | hk
    · exact hname
    · exact h.known hk
  kept hget := h.kept (r.announceTemplate_templates_get? _ _ hget).2
  attributed := h.attributed.of_spares (r.extends_announceTemplate name)
    (r.spares_announceTemplate name)

theorem publishTemplate (h : r.Accounted host markers among stale) (hname : among name)
    {found : Option Declaration} (defaults : Descriptor) (hfind : host.Finds name found) :
    (r.publishTemplate r.epoch name (found.map (·.file)) defaults).Accounted host markers among
      stale where
  known hk := by
    rw [publishTemplate_knownTemplates] at hk
    exact h.known hk
  kept {other} d hget := by
    -- What is published is the name itself, which was among the given ones when it was found.
    rcases r.publishTemplate_templates_get? _ _ _ hget with hget | ⟨rfl, _⟩
    · exact h.kept hget
    · exact hname
  attributed := h.attributed.of_spares (r.extends_publishTemplate defaults hfind)
    (r.spares_publishTemplate ..)

theorem deny (h : r.Accounted host markers among stale) {file? : Option FileId}
    (hfile : ∀ file, file? = some file → ∃ decl, host.Declares name decl ∧ decl.file = file) :
    (r.denyTemplate name file?).Accounted host markers among stale where
  known hk := by
    rw [denyTemplate_knownTemplates] at hk
    exact h.known hk
  kept hget := by
    rw [denyTemplate_templates] at hget
    exact h.kept hget
  attributed := h.attributed.of_spares (r.extends_denyTemplate hfile) (r.spares_denyTemplate ..)

/-! ### Publishing answers about declarations

They say nothing about templates, and attribute an origin to a declaration that tells it. -/

theorem recordDependent (h : r.Accounted host markers among stale) (parent dependent : String) :
    (r.recordDependent parent dependent).Accounted host markers among stale :=
  h.congr (sameTemplates_recordDependent ..)
    (h.attributed.of_spares (extends_recordDependent ..) (spares_recordDependent ..))

variable {decl : Declaration}

theorem publishClass (h : r.Accounted host markers among stale) (epoch : Nat)
    (hdecl : host.Declares name decl) (prototype : Option Descriptor) :
    (r.publishClass epoch name decl.file prototype).Accounted host markers among stale := by
  refine h.congr (sameTemplates_publishClass ..) ?_
  refine h.attributed.extend (r.extends_publishClass epoch prototype hdecl) ?_
  intro other origin hknown
  -- A class entry tells no origin, whether or not it was in time.
  rw [knownOrigin?_publishClass] at hknown
  exact .inl hknown

theorem publishGenerated (h : r.Accounted host markers among stale) (epoch : Nat)
    (hdecl : host.Declares name decl) {prototype : String}
    (horigin : Lookup.originOf? markers decl = some prototype) :
    (r.publishGenerated epoch name decl.file prototype).Accounted host markers among stale :=
  h.congr (sameTemplates_publishGenerated ..) (h.attributed.publishGenerated epoch hdecl horigin)

theorem publishNonGenerated (h : r.Accounted host markers among stale) (epoch : Nat)
    (hdecl : host.Declares name decl) (horigin : Lookup.originOf? markers decl = none) :
    (r.publishNonGenerated epoch name decl.file).Accounted host markers among stale :=
  h.congr (sameTemplates_publishNonGenerated ..)
    (h.attributed.publishNonGenerated epoch hdecl horigin)

theorem publishValidator (h : r.Accounted host markers among stale) (epoch : Nat)
    {found : Option Declaration} (hfind : host.Finds name found) (d : ValidationDescriptor) :
    (r.publishValidator epoch name (found.map (·.file)) d).Accounted host markers among stale :=
  h.congr (sameTemplates_publishValidator ..)
    (h.attributed.of_spares (extends_publishValidator _ epoch _ hfind)
      (spares_publishValidator ..))

/-! ### Edits and refreshes -/

theorem refresh (h : r.Accounted host markers among stale) (hhealthy : host.Healthy)
    (file : FileId) : (r.refresh host file).2.Accounted host markers among
      fun f => stale f ∧ f ≠ file := by
  obtain ⟨names, hrefresh, _⟩ := hhealthy.refresh r file
  have hforgets := r.forgets_forgetAll names
  have hattributed := h.attributed.refresh hhealthy file
  -- Forgetting removes entries only; the origins of the file itself are gone with the owners.
  rw [hrefresh] at hattributed ⊢
  exact ⟨fun hk => h.known (hforgets.known.1 hk).1, fun hget => h.kept (hforgets.templates hget).2,
    hattributed⟩

theorem edit (h : r.Accounted host markers among stale) (hhealthy : host.Healthy)
    (hhealthy' : host'.Healthy) : r.Accounted host' markers among
      fun f => stale f ∨ ¬ host.SameIn host' f :=
  ⟨h.known, h.kept, h.attributed.edit hhealthy hhealthy'⟩

end Registry.Accounted

/-- A registry that accounts for what it keeps and where every prototype comes with an origin. -/
structure Registry.Balanced (host : Host) (markers : List String) (among : String → Prop)
    (stale : FileId → Prop) (r : Registry) : Prop extends
    r.Accounted host markers among stale where
  sealed (name : String) : ¬ r.Stranded name

section

variable (scope : Scope) (stale : FileId → Prop) {among : String → Prop}
  (h : scope.host.Orderly among)

include h

/-- On an orderly host discoveries succeed and keep account of what they publish. Nothing is
concluded from what is told not to be a template. -/
def accountedDiscipline : Discipline scope where
  Inv := Registry.Accounted scope.host scope.settings.generatedMarkers among stale
  Temp := among
  Not _ := True
  Free _ := True
  Leads _ _ := True
  Still _ _ := True
  Taken _ name _ := among name
  Failed := False
  named := h.qualifiedName
  find_failed := h.findData_ne_error
  file_failed hdecl := h.file_ne_error hdecl
  defaults_failed hr ht hfind :=
    Scope.defaultsOf_ne_error h.toHealthy h.wellFormed (fun _ => hr.known) hfind ht
  archived _ _ _ _ := .of_marked h.templates.marked (fun _ => trivial) (fun _ _ => trivial)
    fun _ _ => trivial
  root := h.templates.root
  free _ _ _ := trivial
  marked _ := h.templates.of_carries
  carried _ := h.templates.carried
  undeclared _ _ := trivial
  plain _ _ _ := trivial
  circular _ _ _ := trivial
  leads _ _ := trivial
  leads_trans _ _ := trivial
  announce := Registry.Accounted.announce
  publish hr ht _ hfind _ := ⟨hr.publishTemplate ht _ hfind, ht⟩
  kept hr hget := ⟨hr.kept hget, hr.kept hget⟩
  deny hr _ := hr.deny
  denied _ _ := trivial
  depend parent dependent hr := hr.recordDependent parent dependent
  still_refl _ := trivial
  still_trans _ _ := trivial
  still_deny _ _ _ := trivial
  still_taken _ := id

/-- On an orderly host lookups succeed and keep account of what they publish. -/
def accountedConduct : Conduct scope where
  toDiscipline := accountedDiscipline scope stale h
  Validated _ _ := True
  Nests _ _ := True
  listed := fun ⟨_, hid, hname⟩ => (h.declares hid hname).mem_names
  take_failed := fun ⟨_, hid, hname⟩ huse ht =>
    Scope.takeUsage_ne_error h.toHealthy h.wellFormed (h.declares hid hname) huse ht
  publishClass epoch hr := fun ⟨_, hid, hname⟩ _ =>
    hr.publishClass epoch (h.declares hid hname) _
  publishGenerated epoch hr := fun ⟨_, hid, hname⟩ =>
    hr.publishGenerated epoch (h.declares hid hname)
  publishNonGenerated epoch hr := fun ⟨_, hid, hname⟩ =>
    hr.publishNonGenerated epoch (h.declares hid hname)
  validatedRoot _ := trivial
  validatedPlain _ _ _ := trivial
  validatedUses _ _ _ _ _ := trivial
  validatedKept _ _ := trivial
  publishValidator epoch hr hfind _ := hr.publishValidator epoch hfind _
  nests _ _ _ := trivial
  nests_trans _ _ := trivial

end

namespace History

variable {settings : DiscoverySettings} {among : String → Prop} {host : Host} {s : Session}
  {stale : FileId → Prop}

/-- At any time nothing is being computed and the registry is balanced. -/
theorem balanced (h : History settings (Host.Orderly among) host s stale) :
    s.guards.Idle ∧ s.registry.Balanced host settings.generatedMarkers among stale := by
  -- A question seals what it registers, and a refresh forgets a prototype with its origin.
  induction h with
  | start _ => exact ⟨Guards.idle_empty, .fresh, fun _ hs => hs.1 rfl⟩
  | @ask host s stale q h ih =>
    obtain ⟨hidle, hr⟩ := ih
    obtain ⟨hidle', hr', hsealed⟩ := Conduct.exec_ask
      (C := accountedConduct ⟨host, settings⟩ stale h.fit) hidle hr.toAccounted q
    -- A stranded prototype would have been stranded before the question.
    exact ⟨hidle', hr', fun name hs => hr.sealed name (hsealed id name hs)⟩
  | reopen _ ih => exact ⟨Guards.idle_empty, ih.2⟩
  | edit h hfit ih =>
    exact ⟨ih.1, ih.2.toAccounted.edit h.fit.toHealthy hfit.toHealthy, ih.2.sealed⟩
  | refresh file h ih =>
    -- So it would before the refresh.
    refine ⟨ih.1, ih.2.toAccounted.refresh h.fit.toHealthy file, fun name hs => ?_⟩
    exact ih.2.sealed name (Registry.stranded_of_refresh h.fit.toHealthy hs)

end History

end PrototypeLens
