import PrototypeLens.Proofs.Host.Echo
import PrototypeLens.Proofs.Registry.Attribution
import PrototypeLens.Proofs.Session.Asking
import PrototypeLens.Proofs.Template.Settled

/-!
# What a lookup leaves behind when the host fails

A host that fails in the middle of a lookup leaves answers in the registry that are right as far as
they go: defaults and prototypes by the templates that are known, and the origins and validation
descriptors of the declarations. Every change that a lookup makes keeps it so, whether or not the
host answers the next query.

## Layers

- `Registry.Contributes` and `Registry.Upright`: what the registry keeps, read off the healthy host
  by the templates that are known.
- `Registry.Upright.announce`, `of_spares` and `congr`: announcements drop what depends on the known
  templates, changes about templates spare the rest, and changes about declarations leave the
  templates alone. The lemmas on publications follow from these.
- `Host.Echoes`: the host that may fail says nothing that the healthy one does not say. What it
  tells not to be a template is none on the healthy host.
- `Registry.Upright.publish_computed`: so are the defaults that are computed on it.

## Main results

- `uprightDiscipline` and `uprightConduct`: lookups on a host that may fail keep a registry upright,
  and are cut short only where that host is not healthy.
-/

namespace PrototypeLens

open Relation (TransGen)

/-! ## Upright registries -/

/-- What a known template is told to contribute: its defaults by the templates that are known. -/
structure Registry.Contributes (scope : Scope) (r : Registry) (name : String) (d : Descriptor) :
    Prop where
  template : scope.host.Template name
  known : name ∈ r.knownTemplates
  defaults : scope.Defaults (· ∈ r.knownTemplates) name d

/-- Everything that the registry keeps is read off the declarations, by the templates that it
knows. -/
structure Registry.Upright (scope : Scope) (r : Registry) : Prop where
  sound : r.Sound neverTemplates scope.host.Template
  exact : r.Exact scope.host
  defaults {name : String} {d : Descriptor} : r.templates.get? name = some d →
    scope.Defaults (· ∈ r.knownTemplates) name d
  classes {name : String} {prototype : Option Descriptor} :
    r.classes.get? name = some prototype → ∃ decl, scope.host.Declares name decl ∧
      scope.Resolves (fun n => ¬ scope.host.Template n) (r.Contributes scope) decl.annotations
        prototype
  origins {name : String} {origin : Option String} :
    Lookup.knownOrigin? r name = some origin → ∃ decl, scope.host.Declares name decl ∧
      Lookup.originOf? scope.settings.generatedMarkers decl = origin
  validators {name : String} {d : ValidationDescriptor} :
    r.validators.get? name = some d → scope.Validates name d

namespace Registry

variable {scope : Scope} {r r' : Registry} {name : String}

theorem contributes_eq (h : r'.knownTemplates = r.knownTemplates) :
    r'.Contributes scope = r.Contributes scope := by
  funext name d
  apply propext
  constructor
  · rintro ⟨ht, hk, hd⟩
    rw [h] at hk hd
    exact ⟨ht, hk, hd⟩
  · rintro ⟨ht, hk, hd⟩
    rw [← h] at hk hd
    exact ⟨ht, hk, hd⟩

theorem Spares.classes (h : r.Spares r') {prototype : Option Descriptor}
    (hget : r'.classes.get? name = some prototype) : r.classes.get? name = some prototype := by
  cases h with
  | kept _ hclasses _ _ => rwa [hclasses] at hget
  | dropped _ hclasses _ _ =>
    rw [hclasses] at hget
    cases hget

namespace Upright

theorem fresh : ({} : Registry).Upright scope where
  sound := .fresh (List.Subset.refl _)
  exact := .fresh
  defaults h := nomatch h
  classes h := nomatch h
  origins h := nomatch h
  validators h := nomatch h

/-! ### Looking for templates -/

theorem announce (h : r.Upright scope) (hname : scope.host.Template name) :
    (r.announceTemplate name).Upright scope := by
  by_cases hk : name ∈ r.knownTemplates
  · -- An announcement of a known template changes nothing.
    rw [announceTemplate, if_pos hk]
    exact h
  · -- Nothing is kept but the validation descriptors.
    have hsound := h.sound.announce hname
    have hexact := h.exact.announce name
    rw [announceTemplate, if_neg hk] at hsound hexact ⊢
    refine ⟨hsound, hexact, fun hget => ?_, fun hget => ?_, fun hknown => ?_, h.validators⟩
    · cases hget
    · cases hget
    · cases hknown

/-- Changes that leave the known templates and the validation descriptors alone. -/
theorem of_spares (h : r.Upright scope) (hspares : r.Spares r')
    (hknown : r'.knownTemplates = r.knownTemplates) (hvalidators : r'.validators = r.validators)
    (hsound : r'.Sound neverTemplates scope.host.Template) (hexact : r'.Exact scope.host)
    (hdefaults : ∀ name d, r'.templates.get? name = some d →
      scope.Defaults (· ∈ r.knownTemplates) name d) : r'.Upright scope where
  sound := hsound
  exact := hexact
  defaults hget := by
    -- The known templates are what defaults and prototypes depend on.
    rw [hknown]
    exact hdefaults _ _ hget
  classes hget := by
    rw [contributes_eq hknown]
    exact h.classes (hspares.classes hget)
  origins horigin := h.origins (hspares.knownOrigin? horigin)
  validators hget := h.validators (hvalidators ▸ hget)

theorem publishTemplate (h : r.Upright scope) (hk : name ∈ r.knownTemplates) {d : Descriptor}
    (hd : scope.Defaults (· ∈ r.knownTemplates) name d) (file? : Option FileId) :
    (r.publishTemplate r.epoch name file? d).Upright scope := by
  refine h.of_spares (r.spares_publishTemplate ..) (publishTemplate_knownTemplates ..) ?_
    (h.sound.publish hk file? d) ?_ ?_
  · rw [publishTemplate_self, recordOwner?_validators]
  · intro other hnon
    rw [publishTemplate_self, recordOwner?_nonTemplates] at hnon
    exact h.exact other hnon
  · intro other d' hget
    -- The defaults are those of the name or were kept before.
    rcases r.publishTemplate_templates_get? _ _ _ hget with hget | ⟨rfl, rfl⟩
    · exact h.defaults hget
    · exact hd

theorem deny (h : r.Upright scope) (hname : ¬ scope.host.Template name) (file? : Option FileId) :
    (r.denyTemplate name file?).Upright scope :=
  h.of_spares (r.spares_denyTemplate ..) (by simp) (by simp) (h.sound.deny _ _)
    (h.exact.deny hname _) fun _ _ hget => h.defaults (by simpa using hget)

/-! ### Publishing answers about declarations -/

/-- Changes that leave what is told about templates alone. -/
theorem congr (h : r.Upright scope) (hsame : r.SameTemplates r')
    (hclasses : ∀ name prototype, r'.classes.get? name = some prototype →
      r.classes.get? name = some prototype ∨ ∃ decl, scope.host.Declares name decl ∧
        scope.Resolves (fun n => ¬ scope.host.Template n) (r.Contributes scope) decl.annotations
          prototype)
    (horigins : ∀ name origin, Lookup.knownOrigin? r' name = some origin →
      Lookup.knownOrigin? r name = some origin ∨ ∃ decl, scope.host.Declares name decl ∧
        Lookup.originOf? scope.settings.generatedMarkers decl = origin)
    (hvalidators : ∀ name d, r'.validators.get? name = some d →
      r.validators.get? name = some d ∨ scope.Validates name d) : r'.Upright scope where
  sound := h.sound.congr hsame
  exact := h.exact.congr hsame
  defaults hget := by
    rw [hsame.knownTemplates]
    exact h.defaults (hsame.templates ▸ hget)
  classes hget := by
    rw [contributes_eq hsame.knownTemplates]
    exact (hclasses _ _ hget).elim h.classes id
  origins horigin := (horigins _ _ horigin).elim h.origins id
  validators hget := (hvalidators _ _ hget).elim h.validators id

theorem recordDependent (h : r.Upright scope) (parent dependent : String) :
    (r.recordDependent parent dependent).Upright scope :=
  h.congr (sameTemplates_recordDependent ..) (fun _ _ => .inl) (fun _ _ => .inl) fun _ _ => .inl

variable {decl : Declaration}

theorem publishClass (h : r.Upright scope) (epoch : Nat) (hdecl : scope.host.Declares name decl)
    {prototype : Option Descriptor}
    (hresolves : scope.Resolves (fun n => ¬ scope.host.Template n) (r.Contributes scope)
      decl.annotations prototype) :
    (r.publishClass epoch name decl.file prototype).Upright scope := by
  refine h.congr (sameTemplates_publishClass ..) (fun other kept hget => ?_)
    (fun _ _ horigin => .inl (by simpa using horigin)) fun _ _ hget => .inl (by simpa using hget)
  rcases r.publishClass_classes_get? _ _ _ _ hget with hget | ⟨rfl, rfl, _⟩
  · exact .inl hget
  · exact .inr ⟨decl, hdecl, hresolves⟩

theorem publishGenerated (h : r.Upright scope) (epoch : Nat)
    (hdecl : scope.host.Declares name decl) {prototype : String}
    (horigin : Lookup.originOf? scope.settings.generatedMarkers decl = some prototype) :
    (r.publishGenerated epoch name decl.file prototype).Upright scope := by
  refine h.congr (sameTemplates_publishGenerated ..) (fun _ _ hget => .inl (by simpa using hget))
    (fun other origin hknown => ?_) fun _ _ hget => .inl (by simpa using hget)
  rcases knownOrigin?_publishGenerated hknown with hknown | ⟨rfl, rfl, _⟩
  · exact .inl hknown
  · exact .inr ⟨decl, hdecl, horigin⟩

theorem publishNonGenerated (h : r.Upright scope) (epoch : Nat)
    (hdecl : scope.host.Declares name decl)
    (horigin : Lookup.originOf? scope.settings.generatedMarkers decl = none) :
    (r.publishNonGenerated epoch name decl.file).Upright scope := by
  refine h.congr (sameTemplates_publishNonGenerated ..)
    (fun _ _ hget => .inl (by simpa using hget)) (fun other origin hknown => ?_)
    fun _ _ hget => .inl (by simpa using hget)
  rcases knownOrigin?_publishNonGenerated hknown with hknown | ⟨rfl, rfl, _⟩
  · exact .inl hknown
  · exact .inr ⟨decl, hdecl, horigin⟩

theorem publishValidator (h : r.Upright scope) (epoch : Nat) (file? : Option FileId)
    {d : ValidationDescriptor} (hd : scope.Validates name d) :
    (r.publishValidator epoch name file? d).Upright scope := by
  refine h.congr (sameTemplates_publishValidator ..) (fun _ _ hget => .inl (by simpa using hget))
    (fun _ _ hknown => .inl ((r.spares_publishValidator ..).knownOrigin? hknown))
    fun other kept hget => ?_
  rcases r.publishValidator_validators_get? _ _ _ _ hget with hget | ⟨rfl, rfl⟩
  · exact .inl hget
  · exact .inr hd

end Upright

end Registry

/-! ## Lookups that may be cut short -/

theorem Scope.Resolves.mono {scope : Scope} {passed : String → Prop}
    {taken taken' : String → Descriptor → Prop} {uses : List AnnotationUse}
    {prototype : Option Descriptor} (h : scope.Resolves passed taken uses prototype)
    (himp : ∀ name d, taken name d → taken' name d) :
    scope.Resolves passed taken' uses prototype := by
  induction h with
  | nil => exact .nil
  | taken htaken hok => exact .taken (himp _ _ htaken) hok
  | passed hpassed _ ih => exact .passed hpassed ih

theorem Scope.Resolves.echo {view host : Host} {settings : DiscoverySettings}
    (hecho : view.Echoes host) {passed : String → Prop} {taken : String → Descriptor → Prop}
    {uses : List AnnotationUse} {prototype : Option Descriptor}
    (h : Scope.Resolves ⟨view, settings⟩ passed taken uses prototype) :
    Scope.Resolves ⟨host, settings⟩ passed taken uses prototype := by
  induction h with
  | nil => exact .nil
  | taken htaken hok => exact .taken htaken (hecho.takeUsage _ _ _ hok)
  | passed hpassed _ ih => exact .passed hpassed ih

theorem Host.Echoes.reads {view host : Host} (hecho : view.Echoes host) (h : host.Healthy)
    {name : String} {decl : Declaration} (hread : view.Reads name decl) :
    host.Declares name decl := by
  obtain ⟨id, hid, hname⟩ := hread
  exact h.declares (hecho.declaration id _ hid) hname

/-! ### What is no template

What a host that may fail tells of declarations is so on the healthy one, and there, besides the
roots, only what carries the marker or a template is one. -/

namespace Host.Echoes

variable {view host : Host} {name own : String} {decl : Declaration}

theorem not_template_of_undeclared (hecho : view.Echoes host) (hroot : name ∉ rootTemplates)
    (hfind : view.Finds name none) : ¬ host.Template name := by
  -- Only what carries the marker or a template is one.
  intro ht
  obtain ⟨mark, ⟨decl, hdecl, _⟩, _⟩ := ht.carries hroot
  exact (hecho.finds hfind).not_declares decl hdecl

theorem not_template_of_plain (hecho : view.Echoes host) (hroot : name ∉ rootTemplates)
    (hdecl : view.Declares name decl)
    (hmarks : ∀ mark ∈ decl.annotations, mark.name ≠ templateMarker ∧ ¬ host.Template mark.name) :
    ¬ host.Template name := by
  intro ht
  obtain ⟨mark, hcarries, hmark⟩ := ht.carries hroot
  obtain ⟨use, huse, rfl⟩ := (hecho.declares hdecl).carries_iff.1 hcarries
  exact hmark.elim (hmarks use huse).1 (hmarks use huse).2

/-- What is met again on its own way would lie on a cycle. -/
theorem not_template_of_circular (hecho : view.Echoes host) (hacyclic : host.Acyclic)
    (hlead : name = own ∨ TransGen host.Carries name own) (hcarries : view.Carries own name) :
    ¬ host.Template name := by
  intro ht
  have hcarries := hecho.carries hcarries
  rcases hlead with rfl | hlead
  · exact hacyclic _ ht (.single hcarries)
  · exact hacyclic _ ht (hlead.tail hcarries)

theorem not_archived (hecho : view.Echoes host) (hsource : host.SourceOnly)
    (hdecl : view.Declares name decl) {file : SourceFile} (hfile : view.file decl.file = .ok file)
    {path : String} : file.location ≠ .archive path := by
  intro hlocation
  obtain ⟨id, _, hid⟩ := hdecl.declaration
  have hsourced := hsource id _ (hecho.declaration id _ hid) _ (hecho.file _ _ hfile)
  -- Sources and archives exclude each other.
  cases hlocation.symm.trans hsourced

end Host.Echoes

/-! ### Defaults by the known templates -/

namespace Registry.Upright

variable {view host : Host} {settings : DiscoverySettings} {r : Registry} {name : String}
  {defaults : Descriptor}

/-- A template with defaults contributes them. -/
theorem contributes (h : r.Upright ⟨host, settings⟩)
    (hget : r.templates.get? name = some defaults) :
    r.Contributes ⟨host, settings⟩ name defaults := by
  have hk := h.sound.kept hget
  exact ⟨h.sound.known hk, hk, h.defaults hget⟩

/-- Defaults that a host that may fail computes are published as those of the healthy one, and with
the templates that are known now. -/
theorem publish_computed (h : r.Upright ⟨host, settings⟩) (hecho : view.Echoes host)
    (hacyclic : host.Acyclic) (ht : host.Template name) (hk : name ∈ r.knownTemplates)
    {decl : Option Declaration} (hfind : view.Finds name decl)
    (hok : Scope.defaultsOf ⟨view, settings⟩ r name decl = .ok defaults) (file? : Option FileId) :
    (r.publishTemplate r.epoch name file? defaults).Upright ⟨host, settings⟩ ∧
      (r.publishTemplate r.epoch name file? defaults).Contributes ⟨host, settings⟩ name
        defaults := by
  -- The computation read kept defaults, by known templates, and declarations of the healthy host.
  have hd : Scope.Defaults ⟨host, settings⟩ (· ∈ r.knownTemplates) name defaults :=
    Scope.defaults_of_defaultsIn (fun n hn => hacyclic n (h.sound.known hn))
      (fun _ _ => h.defaults) _ [] name decl defaults (hecho.finds hfind) hk (by simp)
      (hecho.defaultsIn r _ [] name decl _ hok)
  refine ⟨h.publishTemplate hk hd _, ?_⟩
  rw [contributes_eq (publishTemplate_knownTemplates ..)]
  exact ⟨ht, hk, hd⟩

end Registry.Upright

/-! ### The conduct -/

section

variable {view host : Host} (settings : DiscoverySettings) (hecho : view.Echoes host)
  (h : host.Healthy) (hsource : host.SourceOnly) (hwf : host.WellFormed host.Template)
  (hacyclic : host.Acyclic)

include hecho h hsource hwf hacyclic

/-- Discoveries keep a registry upright also where the host fails; they are cut short only there. -/
def uprightDiscipline : Discipline ⟨view, settings⟩ where
  Inv := Registry.Upright ⟨host, settings⟩
  Temp := host.Template
  Not name := ¬ host.Template name
  Free name := name ∉ neverTemplates
  Leads := TransGen host.Carries
  Still r r' := r'.knownTemplates = r.knownTemplates
  Taken := Registry.Contributes ⟨host, settings⟩
  -- A host that is healthy answers every query, so that no lookup is cut short on it.
  Failed := ¬ view.Healthy
  named hdecl := h.qualifiedName (hecho.declares hdecl)
  find_failed herror hview := hview.findData_ne_error herror
  file_failed hdecl herror hview := hview.file_ne_error hdecl herror
  defaults_failed hr ht hfind herror hview :=
    Scope.defaultsOf_ne_error hview (hecho.wellFormed hwf) (fun _ => hr.sound.known) hfind ht herror
  archived _ hdecl hfile hlocation := absurd hlocation (hecho.not_archived hsource hdecl hfile)
  root hroot := .given hroot
  free hr hnon _ hnever := hnon (hr.sound.denied hnever)
  marked hfree hcarries := .marked (hecho.carries hcarries) hfree
  carried hfree hcarries ht := .carried (hecho.carries hcarries) ht hfree
  undeclared := hecho.not_template_of_undeclared
  plain := hecho.not_template_of_plain
  circular _ := hecho.not_template_of_circular hacyclic
  leads _ hcarries := .single (hecho.carries hcarries)
  leads_trans := .trans
  announce := Registry.Upright.announce
  publish hr ht hk hfind hok := hr.publish_computed hecho hacyclic ht hk hfind hok _
  kept hr hget := ⟨hr.sound.known (hr.sound.kept hget), hr.contributes hget⟩
  deny hr hnot _ := hr.deny hnot _
  denied hr hnon := hr.exact _ hnon
  depend _ _ hr := hr.recordDependent _ _
  still_refl _ := rfl
  still_trans hstill hstill' := hstill'.trans hstill
  still_deny _ _ _ := Registry.denyTemplate_knownTemplates ..
  still_taken hstill htaken := by rwa [Registry.contributes_eq hstill]

/-- Lookups keep a registry upright also where the host fails; they are cut short only there. -/
def uprightConduct : Conduct ⟨view, settings⟩ where
  toDiscipline := uprightDiscipline settings hecho h hsource hwf hacyclic
  Validated := Scope.Validates ⟨host, settings⟩
  Nests := TransGen host.Carries
  take_failed hread huse htaken herror hview := by
    obtain ⟨id, hid, hname⟩ := hread
    exact Scope.takeUsage_ne_error hview (hecho.wellFormed hwf) (hview.declares hid hname) huse
      htaken.template herror
  listed hread := hecho.names ▸ (hecho.reads h hread).mem_names
  publishClass epoch hr hread hresolves :=
    hr.publishClass epoch (hecho.reads h hread) (hresolves.echo hecho)
  publishGenerated epoch hr hread horigin :=
    hr.publishGenerated epoch (hecho.reads h hread) horigin
  publishNonGenerated epoch hr hread horigin :=
    hr.publishNonGenerated epoch (hecho.reads h hread) horigin
  validatedRoot := .root
  validatedPlain hroot hfind hkind := .plain hroot (hecho.finds hfind) hkind
  validatedUses hroot hdecl hkind hfirst hfacets :=
    .uses hroot (hecho.declares hdecl) hkind hfirst (hecho.facetsFrom _ _ _ _ hfacets)
  validatedKept hr hget := hr.validators hget
  publishValidator epoch hr _ hd := hr.publishValidator epoch _ hd
  nests hdecl _ hmark := .single (hecho.carries ⟨_, hdecl, _, hmark, rfl⟩)
  nests_trans := .trans

end

end PrototypeLens
