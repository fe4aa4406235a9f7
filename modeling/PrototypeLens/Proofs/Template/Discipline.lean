import PrototypeLens.Proofs.Host.Health
import PrototypeLens.Proofs.Registry.Evolution
import PrototypeLens.Proofs.Template.Discovery

/-!
# What discovery keeps, however it ends

A discipline is a property of registries that every single change of a discovery keeps, together
with what a discovery may conclude from its answers. It is kept by a discovery that is cut short as
well: the host may fail to answer at any point, and annotations may lie in archives. Nothing is
asked of the order in which the annotations are met, apart from what leads to what.

## Layers

- `Scope.Lists`, `Scope.Inspects` and `Permits`: what archives bring in. A manifest is taken on
  behalf of an annotation, and lists names that are believed for their markers.
- `Discipline`: the property, with what has to be known about each change.
- `Discipline.Kept`, `Told` and `Inspected`: what comes of a computation, of a discovery, and of
  some annotations on a declaration. Each extends the one before, with lemmas for one part after
  another.
- `Discipline.Open`: what has to hold where an annotation is discovered.

## Main results

- `yields_inspectUse` and `yields_inspect`: the annotations on a declaration are taken one by one.
- `keeps_takeManifest` and `yields_discoverArchived`: so are the records of a manifest.
- `yields_discoverStep` and `yields_discoverWithin`: a discovery keeps the property and tells
  accordingly, as long as the limit exceeds the declared names that are not being discovered.
- `yields_template?`: so does a request that discovers nothing else.
-/

namespace PrototypeLens

/-! ## Archives -/

namespace Scope

/-- The manifest of an archive lists an annotation as a template. -/
def Lists (scope : Scope) (archive : Archive) (name : String) : Prop :=
  ∃ entries, archive.templateManifest scope.settings.manifestPath = .ok entries ∧
    ∃ entry ∈ entries, entry.isTemplate = true ∧ entry.name = name

/-- The annotations on the declaration of a name count: it lies in a source, or in an archive whose
manifest has records. -/
def Inspects (scope : Scope) (name : String) : Prop :=
  ∃ decl file, scope.host.Declares name decl ∧ scope.host.file decl.file = .ok file ∧
    ∀ path, file.location = .archive path → ∃ entry entries,
      (scope.host.archiveAt path).templateManifest scope.settings.manifestPath =
        .ok (entry :: entries)

end Scope

/-- What has to hold for the manifest of an archive to be taken, which happens on behalf of an
annotation that is declared there. A listed name is believed for its marker, by its qualified or
its simple name, and then the annotations on it are discovered. -/
structure Permits (scope : Scope) (archive : Archive) (isTemplate isNot : String → Prop)
    (leads : String → String → Prop) (still : Registry → Registry → Prop) (own : String) :
    Prop where
  unreadable {e : ArchiveError} :
    archive.templateManifest scope.settings.manifestPath = .error e → isNot own
  empty : archive.templateManifest scope.settings.manifestPath = .ok [] → isNot own
  marked {name : String} {decl : Declaration} : scope.Lists archive name →
    name ∉ rootTemplates → scope.host.Declares name decl →
    decl.isAnnotatedWith templateMarker = true → isTemplate name
  unmarked {name : String} {decl : Declaration} : scope.Lists archive name →
    name ∉ rootTemplates → scope.host.Declares name decl →
    decl.isAnnotatedWith templateMarker = false → isNot name
  leads {name : String} {decl : Declaration} {mark : AnnotationUse} : scope.Lists archive name →
    name ∉ rootTemplates → scope.host.Declares name decl →
    decl.isAnnotatedWith templateMarker = true → mark ∈ decl.annotations → leads own mark.name
  still (r r' : Registry) : still r r'

/-- Any manifest may be taken where nothing is concluded from what is told not to be a template, and
whatever is annotated with the marker may be registered. -/
theorem Permits.of_marked {scope : Scope} {archive : Archive} {isTemplate isNot : String → Prop}
    {leads : String → String → Prop} {still : Registry → Registry → Prop} {own : String}
    (hmarked : ∀ {name decl}, scope.host.Declares name decl →
      decl.isAnnotatedWith templateMarker = true → isTemplate name)
    (hnot : ∀ name, isNot name) (hleads : ∀ name mark, leads name mark)
    (hstill : ∀ r r', still r r') : Permits scope archive isTemplate isNot leads still own where
  unreadable _ := hnot own
  empty _ := hnot own
  marked _ _ := hmarked
  unmarked _ _ _ _ := hnot _
  leads _ _ _ _ _ := hleads own _
  still := hstill

/-! ## Disciplines -/

/-- A property of registries that is kept by each change that a discovery makes, with what answers
tell about annotations. -/
structure Discipline (scope : Scope) where
  /-- The property that is kept. -/
  Inv : Registry → Prop
  /-- What holds of a name that is registered as a template. -/
  Temp : String → Prop
  /-- What holds of a name that is told not to be a template. -/
  Not : String → Prop
  /-- What holds of a name that is not denied. -/
  Free : String → Prop
  /-- The discovery of a name comes to that of another. -/
  Leads : String → String → Prop
  /-- What holds between the registries before and after a discovery that finds no template. -/
  Still : Registry → Registry → Prop
  /-- What holds of the defaults that are told of a template, in the registry after it. -/
  Taken : Registry → String → Descriptor → Prop
  /-- What holds if a discovery fails. -/
  Failed : Prop
  /-- Names resolve to declarations of that name. -/
  named {name : String} {decl : Declaration} :
    scope.host.Declares name decl → decl.qualifiedName = some name
  find_failed {name : String} {e : QueryError} : scope.host.findData name = .error e → Failed
  file_failed {name : String} {decl : Declaration} {e : QueryError} :
    scope.host.Declares name decl → scope.host.file decl.file = .error e → Failed
  defaults_failed {r : Registry} {name : String} {decl : Option Declaration} {e : LookupError} :
    Inv r → Temp name → scope.host.Finds name decl → scope.defaultsOf r name decl = .error e →
    Failed
  /-- Where a declaration lies in an archive, the manifest is taken. -/
  archived {name path : String} {decl : Declaration} {file : SourceFile} :
    name ∉ rootTemplates → scope.host.Declares name decl →
    scope.host.file decl.file = .ok file → file.location = .archive path →
    Permits scope (scope.host.archiveAt path) Temp Not Leads Still name
  root {name : String} : name ∈ rootTemplates → Temp name
  free {r : Registry} {name : String} :
    Inv r → name ∉ r.nonTemplates → scope.Inspects name → Free name
  marked {name : String} : Free name → scope.host.Carries name templateMarker → Temp name
  carried {name parent : String} : Free name → scope.host.Carries name parent → Temp parent →
    Temp name
  undeclared {name : String} : name ∉ rootTemplates → scope.host.Finds name none → Not name
  /-- What carries neither the marker nor a template is none. -/
  plain {name : String} {decl : Declaration} : name ∉ rootTemplates →
    scope.host.Declares name decl →
    (∀ mark ∈ decl.annotations, mark.name ≠ templateMarker ∧ Not mark.name) → Not name
  /-- What is met again on a declaration that its own discovery comes to is told not to be a
  template there. -/
  circular {name own : String} : own ∉ rootTemplates → name = own ∨ Leads name own →
    scope.host.Carries own name → Not name
  leads {name mark : String} : name ∉ rootTemplates → scope.host.Carries name mark →
    Leads name mark
  leads_trans {name other third : String} : Leads name other → Leads other third → Leads name third
  announce {r : Registry} {name : String} : Inv r → Temp name → Inv (r.announceTemplate name)
  publish {r : Registry} {name : String} {decl : Option Declaration} {defaults : Descriptor} :
    Inv r → Temp name → name ∈ r.knownTemplates → scope.host.Finds name decl →
    scope.defaultsOf r name decl = .ok defaults →
    Inv (r.publishTemplate r.epoch name (decl.map (·.file)) defaults) ∧
      Taken (r.publishTemplate r.epoch name (decl.map (·.file)) defaults) name defaults
  kept {r : Registry} {name : String} {defaults : Descriptor} :
    Inv r → r.templates.get? name = some defaults → Temp name ∧ Taken r name defaults
  deny {r : Registry} {name : String} {file? : Option FileId} : Inv r → Not name →
    (∀ file, file? = some file → ∃ decl, scope.host.Declares name decl ∧ decl.file = file) →
    Inv (r.denyTemplate name file?)
  denied {r : Registry} {name : String} : Inv r → name ∈ r.nonTemplates → Not name
  depend {r : Registry} (parent dependent : String) :
    Inv r → Inv (r.recordDependent parent dependent)
  still_refl (r : Registry) : Still r r
  still_trans {r r' r'' : Registry} : Still r r' → Still r' r'' → Still r r''
  still_deny (r : Registry) (name : String) (file? : Option FileId) :
    Still r (r.denyTemplate name file?)
  still_taken {r r' : Registry} {name : String} {defaults : Descriptor} :
    Still r r' → Taken r name defaults → Taken r' name defaults

namespace Discipline

variable {scope : Scope} {D : Discipline scope} {g : Guards} {name : String}

/-! ## What comes of a discovery -/

/-- A computation that keeps the property and the answers about declarations. -/
structure Kept (D : Discipline scope) {α : Type} (r : Registry) (out : Except LookupError α)
    (r' : Registry) : Prop where
  inv : D.Inv r'
  spares : r.Spares r'
  failed {e : LookupError} : out = .error e → D.Failed

/-- What is told of a name, and what is left of the registry. -/
structure Told (D : Discipline scope) (name : String) (r : Registry)
    (out : Except LookupError (Option Descriptor)) (r' : Registry) : Prop extends
    D.Kept r out r' where
  passed : out = .ok none → D.Not name ∧ D.Still r r'
  taken {defaults : Descriptor} : out = .ok (some defaults) →
    D.Temp name ∧ D.Taken r' name defaults

namespace Kept

variable {α β : Type} {r r₁ r' : Registry} {a : α}

theorem ok (hr : D.Inv r') (hspares : r.Spares r') (a : α) : D.Kept r (.ok a) r' where
  inv := hr
  spares := hspares
  failed h := by cases h

theorem pure (hr : D.Inv r) (a : α) : D.Kept r (.ok a) r := .ok hr (.refl r) a

/-- A part that succeeded comes before the rest. -/
theorem trans {out : Except LookupError β} (h : D.Kept r (.ok a) r₁) (h' : D.Kept r₁ out r') :
    D.Kept r out r' :=
  ⟨h'.inv, h.spares.trans h'.spares, h'.failed⟩

/-- A part that failed ends the whole. -/
theorem error {e : LookupError} (h : D.Kept r (.error e : Except LookupError α) r') :
    D.Kept r (.error e : Except LookupError β) r' :=
  ⟨h.inv, h.spares, fun _ => h.failed rfl⟩

/-- Only whether a part succeeds counts. -/
theorem map {out : Except LookupError α} {f : α → β} (h : D.Kept r out r') :
    D.Kept r (out.map f) r' := by
  cases out with
  | ok a => exact .ok h.inv h.spares _
  | error e => exact h.error

end Kept

namespace Told

variable {r r' : Registry}

theorem error {α : Type} {e : LookupError}
    (h : D.Kept r (.error e : Except LookupError α) r') : D.Told name r (.error e) r' where
  toKept := h.error
  passed h := by cases h
  taken h := by cases h

theorem of_not (h : D.Kept r (.ok none : Except LookupError (Option Descriptor)) r')
    (hnot : D.Not name) (hstill : D.Still r r') : D.Told name r (.ok none) r' where
  toKept := h
  passed _ := ⟨hnot, hstill⟩
  taken h := by cases h

theorem of_taken {defaults : Descriptor}
    (h : D.Kept r (.ok (some defaults) : Except LookupError (Option Descriptor)) r')
    (htaken : D.Temp name ∧ D.Taken r' name defaults) :
    D.Told name r (.ok (some defaults)) r' where
  toKept := h
  passed h := by cases h
  taken hok := by
    cases hok
    exact htaken

end Told

/-! ## Queries -/

theorem yields_declarationOf? {r : Registry} (hr : D.Inv r) (name : String) :
    (Lookup.declarationOf? scope name).Yields r g fun out r' => D.Kept r out r' ∧
      ∀ decl, out = .ok decl → r' = r ∧ scope.host.Finds name decl := by
  refine ⟨_, r, Lookup.exec_declarationOf?_mapError, ?_⟩
  -- The declaration is found or the query fails, and neither changes the registry.
  cases hentry : scope.host.findData name with
  | ok entry =>
    refine ⟨.pure hr _, fun decl hdecl => ⟨rfl, ?_⟩⟩
    cases hdecl
    exact ⟨entry, hentry, rfl⟩
  | error e => exact ⟨⟨hr, .refl r, fun _ => D.find_failed hentry⟩, fun _ h => by cases h⟩

/-! ## Registering templates -/

/-- Making sure of a template keeps its defaults. -/
theorem of_ensures {decl : Option Declaration} {r r' : Registry}
    {out : Except LookupError Descriptor} (h : scope.Ensures name decl r out r') (hr : D.Inv r)
    (ht : D.Temp name) (hfind : scope.host.Finds name decl) :
    D.Kept r out r' ∧ ∀ defaults, out = .ok defaults → D.Taken r' name defaults := by
  have hr₁ : D.Inv (r.announceTemplate name) := D.announce hr ht
  have hspares := r.spares_announceTemplate name
  -- The template was kept, or it is announced and then published, or its defaults fail.
  cases h with
  | kept hget =>
    refine ⟨.pure hr _, fun defaults hok => ?_⟩
    cases hok
    exact (D.kept hr hget).2
  | @registered defaults _ hok =>
    obtain ⟨hr', htaken⟩ :=
      D.publish hr₁ ht (r.mem_knownTemplates_announceTemplate name) hfind hok
    refine ⟨.ok hr' (hspares.trans (Registry.spares_publishTemplate ..)) _, fun d hd => ?_⟩
    cases hd
    exact htaken
  | failed _ herror =>
    refine ⟨⟨hr₁, hspares, fun _ => D.defaults_failed hr₁ ht hfind herror⟩, fun d hd => ?_⟩
    cases hd

theorem yields_ensureTemplate {decl : Option Declaration} {r : Registry}
    (hidle : g.defaulting = []) (hr : D.Inv r) (ht : D.Temp name)
    (hfind : scope.host.Finds name decl) :
    (Lookup.ensureTemplate scope name decl).Yields r g fun out r' =>
      D.Kept r out r' ∧ ∀ defaults, out = .ok defaults → D.Taken r' name defaults :=
  (Lookup.yields_ensureTemplate hidle).mono fun _ _ hens => of_ensures hens hr ht hfind

theorem kept_deny {r : Registry} {file? : Option FileId} (hr : D.Inv r) (hnot : D.Not name)
    (hfile : ∀ file, file? = some file → ∃ decl, scope.host.Declares name decl ∧ decl.file = file) :
    D.Kept r (.ok () : Except LookupError Unit) (r.denyTemplate name file?) :=
  .ok (D.deny hr hnot hfile) (Registry.spares_denyTemplate ..) ()

/-! ## Annotations on a declaration -/

section Inspection

variable {recur : String → Lookup (Option Descriptor)} {own : String} {decl : Declaration}

/-- What has to hold where another annotation is discovered. -/
structure Open (D : Discipline scope) (g : Guards) (name : String) (r : Registry) : Prop where
  inv : D.Inv r
  fresh : name ∉ g.discovering
  free : name ∉ r.nonTemplates
  leads : ∀ m ∈ g.discovering, D.Leads m name

/-- Asking for an annotation on the declaration of one that is being discovered. -/
theorem yields_parentTemplate? (hrecur : ∀ mark r, D.Open g mark r →
      (recur mark).Yields r g (D.Told mark r))
    {mark : String} {r : Registry} (hr : D.Inv r) (hfree : mark ∉ r.nonTemplates)
    (hleads : ∀ m ∈ g.discovering, D.Leads m mark) (hmeets : mark ∈ g.discovering → D.Not mark) :
    (Lookup.parentTemplate? recur mark).Yields r g (D.Told mark r) := by
  refine .after Lookup.exec_cachedTemplate? ?_
  cases hget : r.templates.get? mark with
  | some defaults =>
    exact SessionM.yields_pure (.of_taken (.pure hr _) (D.kept hr hget))
  | none =>
    refine .after (Lookup.exec_askGuards (·.discovering.contains mark)) ?_
    -- What is met again is on a cycle, about which the discipline has to know.
    by_cases hmet : mark ∈ g.discovering
    · rw [if_pos (by simpa using hmet)]
      exact SessionM.yields_pure (.of_not (.pure hr _) (hmeets hmet) (D.still_refl r))
    · rw [if_neg (by simpa using hmet)]
      exact hrecur mark r ⟨hr, hmet, hfree, hleads⟩

/-- What is told after some annotations were taken, where `sofar` was told before. -/
structure Inspected (D : Discipline scope) (own : String) (marks : List AnnotationUse)
    (sofar : Option Descriptor) (r : Registry) (out : Except LookupError (Option Descriptor))
    (r' : Registry) : Prop extends D.Kept r out r' where
  passed : out = .ok none → sofar = none ∧ D.Still r r' ∧
    ∀ mark ∈ marks, mark.name ≠ templateMarker ∧ D.Not mark.name
  taken {defaults : Descriptor} : out = .ok (some defaults) →
    D.Temp own ∧ D.Taken r' own defaults

namespace Inspected

variable {mark : AnnotationUse} {marks : List AnnotationUse} {sofar sofar' : Option Descriptor}
  {out : Except LookupError (Option Descriptor)} {r r₁ r' : Registry}

theorem error {α : Type} {e : LookupError}
    (h : D.Kept r (.error e : Except LookupError α) r') :
    D.Inspected own marks sofar r (.error e) r' where
  toKept := h.error
  passed h := by cases h
  taken h := by cases h

/-- One annotation after the other. -/
theorem cons (h : D.Inspected own [mark] sofar r (.ok sofar') r₁)
    (h' : D.Inspected own marks sofar' r₁ out r') :
    D.Inspected own (mark :: marks) sofar r out r' := by
  refine ⟨h.toKept.trans h'.toKept, fun hok => ?_, h'.taken⟩
  obtain ⟨rfl, hstill', hmarks⟩ := h'.passed hok
  obtain ⟨hsofar, hstill, hmark⟩ := h.passed rfl
  exact ⟨hsofar, D.still_trans hstill hstill',
    List.forall_mem_cons.2 ⟨hmark mark List.mem_cons_self, hmarks⟩⟩

/-- An annotation that is not a template leaves what was told before. -/
theorem of_passed (hnot : mark.name ≠ templateMarker ∧ D.Not mark.name)
    (h : D.Kept r (.ok () : Except LookupError Unit) r') (hstill : D.Still r r')
    (hsofar : ∀ defaults, sofar = some defaults → D.Temp own ∧ D.Taken r own defaults) :
    D.Inspected own [mark] sofar r (.ok sofar) r' := by
  refine ⟨.ok h.inv h.spares _, fun hok => ?_, fun hok => ?_⟩
  · cases hok
    exact ⟨rfl, hstill, by simpa using hnot⟩
  · cases hok
    exact ⟨(hsofar _ rfl).1, D.still_taken hstill (hsofar _ rfl).2⟩

end Inspected

/-- Where the marker or a template was found, the declaration is registered. -/
theorem yields_ensured (hidle : g.defaulting = []) {marks : List AnnotationUse}
    {sofar a : Option Descriptor} {r r₁ : Registry} (hfind : scope.host.Finds own (some decl))
    (ht : D.Temp own) (h₁ : D.Kept r (.ok a : Except LookupError (Option Descriptor)) r₁) :
    (some <$> Lookup.ensureTemplate scope own (some decl)).Yields r₁ g
      (D.Inspected own marks sofar r) := by
  refine (yields_ensureTemplate hidle h₁.inv ht hfind).bind ?_ ?_
  · rintro defaults r₂ ⟨h₂, htaken⟩
    refine SessionM.yields_pure ⟨(h₁.trans h₂).map, (fun hok => by cases hok), fun hok => ?_⟩
    cases hok
    exact ⟨ht, htaken _ rfl⟩
  · rintro e r₂ ⟨h₂, _⟩
    exact .error (h₁.trans h₂)

variable (hidle : g.defaulting = [])
  (hrecur : ∀ mark r, D.Open g mark r → (recur mark).Yields r g (D.Told mark r))
  (hdecl : scope.host.Declares own decl) (hroot : own ∉ rootTemplates) (hfree : D.Free own)
  (hpath : ∀ m ∈ g.discovering, m = own ∨ D.Leads m own)
include hidle hrecur hdecl hroot hfree hpath

/-- An annotation is the marker, known not to be a template, or asked for. -/
theorem yields_inspectUse {mark : AnnotationUse} (hmark : mark ∈ decl.annotations)
    {sofar : Option Descriptor} {r : Registry} (hr : D.Inv r)
    (hsofar : ∀ defaults, sofar = some defaults → D.Temp own ∧ D.Taken r own defaults) :
    (Lookup.inspectUse scope recur own decl sofar mark).Yields r g
      (D.Inspected own [mark] sofar r) := by
  have hcarries : scope.host.Carries own mark.name := ⟨decl, hdecl, mark, hmark, rfl⟩
  rw [Lookup.inspectUse]
  by_cases hmarker : mark.name = templateMarker
  · -- The declaration is registered at once.
    rw [if_pos hmarker]
    exact yields_ensured hidle hdecl.finds (D.marked hfree (hmarker ▸ hcarries)) (.pure hr none)
  · rw [if_neg hmarker]
    refine .after (Lookup.exec_ask (·.nonTemplates.contains mark.name)) ?_
    by_cases hnon : mark.name ∈ r.nonTemplates
    · rw [if_pos (by simpa using hnon)]
      exact SessionM.yields_pure
        (.of_passed ⟨hmarker, D.denied hr hnon⟩ (.pure hr ()) (D.still_refl r) hsofar)
    · rw [if_neg (by simpa using hnon)]
      -- All that is being discovered leads to this declaration, and so to what is on it.
      have hleads : ∀ m ∈ g.discovering, D.Leads m mark.name := by
        intro m hm
        rcases hpath m hm with rfl | hlead
        · exact D.leads hroot hcarries
        · exact D.leads_trans hlead (D.leads hroot hcarries)
      have hmeets (hmet : mark.name ∈ g.discovering) : D.Not mark.name :=
        D.circular hroot (hpath _ hmet) hcarries
      refine (yields_parentTemplate? hrecur hr hnon hleads hmeets).bind ?_
        fun e r₁ h₁ => .error h₁.toKept
      intro found r₁ h₁
      cases found with
      | none =>
        -- What is met while it is being discovered is denied here as well.
        obtain ⟨hnot, hstill⟩ := h₁.passed rfl
        have hdenied : D.Kept r₁ (.ok () : Except LookupError Unit)
            (r₁.denyTemplate mark.name none) := kept_deny h₁.inv hnot fun _ h => by cases h
        refine .after (Lookup.exec_record _) (SessionM.yields_pure ?_)
        exact .of_passed ⟨hmarker, hnot⟩ (h₁.toKept.trans hdenied)
          (D.still_trans hstill (D.still_deny _ _ _)) hsofar
      | some parent =>
        have hdepend : D.Kept r₁ (.ok none : Except LookupError (Option Descriptor))
            (r₁.recordDependent mark.name own) :=
          .ok (D.depend _ _ h₁.inv) (Registry.spares_recordDependent ..) _
        refine .after (Lookup.exec_record _) ?_
        exact yields_ensured hidle hdecl.finds (D.carried hfree hcarries (h₁.taken rfl).1)
          (h₁.toKept.trans hdepend)

/-- Annotations are taken one by one. -/
theorem yields_inspect (marks : List AnnotationUse) (hmarks : marks ⊆ decl.annotations) :
    ∀ (sofar : Option Descriptor) (r : Registry), D.Inv r →
      (∀ defaults, sofar = some defaults → D.Temp own ∧ D.Taken r own defaults) →
      (marks.foldlM (Lookup.inspectUse scope recur own decl) sofar).Yields r g
        (D.Inspected own marks sofar r) := by
  -- What is told so far is the invariant: defaults only of a name that was registered.
  induction marks with
  | nil =>
    intro sofar r hr hsofar
    refine SessionM.yields_pure ⟨.pure hr _, fun hok => ?_, fun hok => ?_⟩
    · cases hok
      exact ⟨rfl, D.still_refl r, by simp⟩
    · cases hok
      exact hsofar _ rfl
  | cons mark marks ih =>
    intro sofar r hr hsofar
    obtain ⟨hmark, hmarks⟩ := List.cons_subset.1 hmarks
    rw [List.foldlM_cons]
    refine (yields_inspectUse hidle hrecur hdecl hroot hfree hpath hmark hr hsofar).bind ?_
      fun e r₁ h₁ => .error h₁.toKept
    intro sofar' r₁ h₁
    refine (ih hmarks sofar' r₁ h₁.inv fun d hd => ?_).mono fun out r' h' => h₁.cons h'
    subst hd
    exact h₁.taken rfl

end Inspection

/-! ## Computations that keep the property -/

/-- The computation keeps the property under the given guards, however it ends. -/
def Keeps (D : Discipline scope) (g : Guards) {α : Type} (m : Lookup α) : Prop :=
  ∀ r, D.Inv r → m.Yields r g (D.Kept r)

theorem keeps_pure {α : Type} (a : α) : D.Keeps g (pure a) := fun _ hr =>
  SessionM.yields_pure (.pure hr a)

theorem Keeps.bind {α β : Type} {m : Lookup α} {f : α → Lookup β} (h : D.Keeps g m)
    (hf : ∀ a, D.Keeps g (f a)) : D.Keeps g (m >>= f) := fun r hr =>
  (h r hr).bind (fun a r' hr' => (hf a r' hr'.inv).mono fun _ _ hr'' => hr'.trans hr'')
    fun _ _ hr' => hr'.error

theorem Keeps.discard {α : Type} {m : Lookup α} (h : D.Keeps g m) : D.Keeps g (discard m) :=
  fun r hr => SessionM.Yields.discard ((h r hr).mono fun _ _ hr' => hr'.map)

theorem keeps_forM {α : Type} {f : α → Lookup Unit} (xs : List α)
    (h : ∀ x ∈ xs, D.Keeps g (f x)) : D.Keeps g (xs.forM f) := by
  -- The induction is on the list.
  induction xs with
  | nil => exact keeps_pure ()
  | cons x xs ih =>
    exact (h x List.mem_cons_self).bind fun _ => ih fun y hy => h y (List.mem_cons_of_mem _ hy)

/-! ## Archives -/

section Archives

variable {recur : String → Lookup (Option Descriptor)} {archive : Archive} {own : String}
  (hpermits : Permits scope archive D.Temp D.Not D.Leads D.Still own) (hidle : g.defaulting = [])
  (hrecur : ∀ mark r, D.Open g mark r → (recur mark).Yields r g (D.Told mark r))
  (hpath : ∀ m ∈ g.discovering, m = own ∨ D.Leads m own)

theorem keeps_ensureTemplate {decl : Option Declaration} (hidle : g.defaulting = [])
    (ht : D.Temp name) (hfind : scope.host.Finds name decl) :
    D.Keeps g (Lookup.ensureTemplate scope name decl) :=
  fun _ hr => (yields_ensureTemplate hidle hr ht hfind).mono fun _ _ hkept => hkept.1

include hrecur in
theorem keeps_discoverUse (mark : AnnotationUse)
    (hleads : ∀ m ∈ g.discovering, D.Leads m mark.name) :
    D.Keeps g (Lookup.discoverUse recur mark) := by
  intro r hr
  unfold Lookup.discoverUse
  -- Only what was never asked for is discovered.
  split
  · exact keeps_pure () r hr
  · refine .after (Lookup.exec_askGuards (·.discovering.contains mark.name)) ?_
    by_cases hmet : mark.name ∈ g.discovering
    · rw [if_pos (by simpa using hmet)]
      exact keeps_pure () r hr
    · rw [if_neg (by simpa using hmet)]
      refine .after (Lookup.exec_ask (·.nonTemplates.contains mark.name)) ?_
      by_cases hnon : mark.name ∈ r.nonTemplates
      · rw [if_pos (by simpa using hnon)]
        exact keeps_pure () r hr
      · rw [if_neg (by simpa using hnon)]
        refine .after (Lookup.exec_ask _) ?_
        split
        · exact keeps_pure () r hr
        · refine SessionM.Yields.discard ((hrecur mark.name r ?_).mono fun _ _ h => h.toKept.map)
          exact ⟨hr, hmet, hnon, hleads⟩

include hpermits hidle hrecur hpath

theorem keeps_takeListed (hlists : scope.Lists archive name) :
    D.Keeps g (Lookup.takeListed scope recur name) := by
  intro r hr
  refine (yields_declarationOf? hr name).bind ?_ fun e r' h => h.1.error
  rintro decl r' ⟨_, hfound⟩
  obtain ⟨rfl, hfind⟩ := hfound decl rfl
  split
  · rename_i hroot
    have ht : D.Temp name := D.root (by simpa using hroot)
    exact (keeps_ensureTemplate hidle ht hfind).discard _ hr
  · rename_i hroot
    have hroot : name ∉ rootTemplates := by simpa using hroot
    cases decl with
    | none => exact keeps_pure () _ hr
    | some decl =>
      have hdecl : scope.host.Declares name decl := Host.finds_some_iff.1 hfind
      dsimp only
      split
      · -- A listed name is believed for its marker.
        rename_i hmarked
        have hleads : ∀ mark ∈ decl.annotations, ∀ m ∈ g.discovering, D.Leads m mark.name := by
          intro mark hmark m hm
          have hlead : D.Leads own mark.name := hpermits.leads hlists hroot hdecl hmarked hmark
          rcases hpath m hm with rfl | hown
          · exact hlead
          · exact D.leads_trans hown hlead
        refine Keeps.bind (keeps_forM _ fun mark hmark =>
          keeps_discoverUse hrecur mark (hleads mark hmark)) (fun _ => ?_) _ hr
        have ht : D.Temp name := hpermits.marked hlists hroot hdecl hmarked
        exact (keeps_ensureTemplate hidle ht hfind).discard
      · rename_i hmarked
        have hnot : D.Not name := hpermits.unmarked hlists hroot hdecl (by simpa using hmarked)
        refine ⟨_, _, Lookup.exec_record _, kept_deny hr hnot fun file hfile => ?_⟩
        exact ⟨decl, hdecl, Option.some.inj hfile⟩

theorem keeps_takeManifest {entries : List ManifestEntry}
    (hentries : archive.templateManifest scope.settings.manifestPath = .ok entries) :
    D.Keeps g (Lookup.takeManifest scope recur entries) := by
  refine keeps_forM _ fun entry hentry r hr => ?_
  obtain ⟨hmem, htemplate⟩ := List.mem_filter.1 hentry
  refine .after Lookup.exec_cachedTemplate? ?_
  -- A record whose template is kept already is passed over.
  cases r.templates.get? entry.name with
  | some defaults => exact keeps_pure () r hr
  | none =>
    exact keeps_takeListed hpermits hidle hrecur hpath ⟨entries, hentries, entry, hmem, htemplate,
      rfl⟩ r hr

end Archives

/-! ## Discovery -/

section Discovering

variable {recur : String → Lookup (Option Descriptor)} {decl : Declaration} {r₀ r : Registry}

/-- The annotations on the declaration decide, and what is not a template is denied. -/
theorem yields_settle (hidle : g.defaulting = [])
    (hrecur : ∀ mark r, D.Open g mark r → (recur mark).Yields r g (D.Told mark r))
    (hdecl : scope.host.Declares name decl) (hroot : name ∉ rootTemplates) (hfree : D.Free name)
    (hpath : ∀ m ∈ g.discovering, m = name ∨ D.Leads m name) (hr : D.Inv r) :
    (Lookup.inspectDeclaration scope recur decl >>= Lookup.settle name decl).Yields r g
      (D.Told name r) := by
  rw [Lookup.inspectDeclaration, D.named hdecl]
  have hinspect := yields_inspect hidle hrecur hdecl hroot hfree hpath decl.annotations
    (List.Subset.refl _) none r hr fun _ hsofar => by cases hsofar
  refine hinspect.bind ?_ fun e r' h => .error h.toKept
  intro result r' h
  cases result with
  | none =>
    -- No annotation was the marker or a template.
    obtain ⟨_, hstill, hmarks⟩ := h.passed rfl
    have hnot : D.Not name := D.plain hroot hdecl hmarks
    have hdenied : D.Kept r' (.ok () : Except LookupError Unit)
        (r'.denyTemplate name (some decl.file)) :=
      kept_deny h.inv hnot fun file hfile => ⟨decl, hdecl, Option.some.inj hfile⟩
    refine .after (Lookup.exec_record _) (SessionM.yields_pure (.of_not ?_ hnot ?_))
    · exact h.toKept.trans (hdenied.trans (.pure hdenied.inv none))
    · exact D.still_trans hstill (D.still_deny _ _ _)
  | some defaults => exact SessionM.yields_pure (.of_taken h.toKept (h.taken rfl))

/-- In an archive the manifest is taken first. -/
theorem yields_discoverArchived {archive : Archive}
    (hpermits : Permits scope archive D.Temp D.Not D.Leads D.Still name) (hidle : g.defaulting = [])
    (hrecur : ∀ mark r, D.Open g mark r → (recur mark).Yields r g (D.Told mark r))
    (hdecl : scope.host.Declares name decl) (hroot : name ∉ rootTemplates)
    (hfree : ∀ entry entries, archive.templateManifest scope.settings.manifestPath =
      .ok (entry :: entries) → D.Free name)
    (hpath : ∀ m ∈ g.discovering, m = name ∨ D.Leads m name) (hr : D.Inv r) :
    (Lookup.discoverArchived scope recur archive name decl).Yields r g (D.Told name r) := by
  unfold Lookup.discoverArchived
  -- Without a readable manifest, with an empty one, or with records.
  split
  · rename_i hmanifest
    exact SessionM.yields_pure
      (.of_not (.pure hr _) (hpermits.unreadable hmanifest) (hpermits.still r r))
  · rename_i hmanifest
    have hnot : D.Not name := hpermits.empty hmanifest
    have hdenied : D.Kept r (.ok () : Except LookupError Unit) (r.denyTemplate name none) :=
      kept_deny hr hnot fun _ h => by cases h
    refine .after (Lookup.exec_record _) (SessionM.yields_pure ?_)
    exact .of_not (hdenied.trans (.pure hdenied.inv none)) hnot (hpermits.still _ _)
  · rename_i entries hempty hmanifest
    have hfree : D.Free name := by
      cases entries with
      | nil => exact absurd rfl hempty
      | cons entry entries => exact hfree entry entries hmanifest
    refine (keeps_takeManifest hpermits hidle hrecur hpath hmanifest r hr).bind ?_
      fun e r' h => .error h
    intro _ r₁ h₁
    refine .after Lookup.exec_cachedTemplate? ?_
    cases hget : r₁.templates.get? name with
    | some defaults =>
      exact SessionM.yields_pure (.of_taken (h₁.trans (.pure h₁.inv _)) (D.kept h₁.inv hget))
    | none =>
      refine (yields_settle hidle hrecur hdecl hroot hfree hpath h₁.inv).mono
        fun out r' h' => ⟨h₁.trans h'.toKept, fun hok => ?_, h'.taken⟩
      exact ⟨(h'.passed hok).1, hpermits.still r r'⟩

/-- A root is registered; the declaration decides about any other name. -/
theorem yields_discoverStep (hidle : g.defaulting = []) (hr : D.Inv r)
    (hnon : name ∉ r.nonTemplates) (hpath : ∀ m ∈ g.discovering, m = name ∨ D.Leads m name)
    (hrecur : name ∈ scope.host.names → ∀ mark r, D.Open g mark r →
      (recur mark).Yields r g (D.Told mark r)) :
    (Lookup.discoverStep scope recur name).Yields r g (D.Told name r) := by
  refine (yields_declarationOf? hr name).bind ?_ fun e r' h => .error h.1
  rintro decl r' ⟨_, hfound⟩
  obtain ⟨rfl, hfind⟩ := hfound decl rfl
  split
  · -- A root needs no declaration.
    rename_i hroot
    have ht : D.Temp name := D.root (by simpa using hroot)
    refine (yields_ensureTemplate hidle hr ht hfind).bind ?_ fun e r'' h => .error h.1
    rintro defaults r'' ⟨h, htaken⟩
    exact SessionM.yields_pure (.of_taken (h.trans (.pure h.inv _)) ⟨ht, htaken _ rfl⟩)
  · rename_i hroot
    have hroot : name ∉ rootTemplates := by simpa using hroot
    cases decl with
    | none =>
      exact SessionM.yields_pure
        (.of_not (.pure hr _) (D.undeclared hroot hfind) (D.still_refl _))
    | some decl =>
      have hdecl : scope.host.Declares name decl := Host.finds_some_iff.1 hfind
      dsimp only
      cases hfile : scope.host.file decl.file with
      | error e =>
        refine ⟨_, _, SessionM.exec_bind_error rfl, .error (e := .query e) (α := Unit) ?_⟩
        exact ⟨hr, .refl r', fun _ => D.file_failed hdecl hfile⟩
      | ok file =>
        refine .after (Lookup.exec_query_of_ok rfl) ?_
        -- An archive has a manifest to be taken; a source has the annotations alone.
        cases hlocation : file.location with
        | archive path =>
          refine yields_discoverArchived (D.archived hroot hdecl hfile hlocation) hidle
            (hrecur hdecl.mem_names) hdecl hroot (fun entry entries hmanifest => ?_) hpath hr
          refine D.free hr hnon ⟨decl, file, hdecl, hfile, fun path' hpath' => ?_⟩
          cases hlocation.symm.trans hpath'
          exact ⟨entry, entries, hmanifest⟩
        | source =>
          refine yields_settle hidle (hrecur hdecl.mem_names) hdecl hroot ?_ hpath hr
          refine D.free hr hnon ⟨decl, file, hdecl, hfile, fun path hpath => ?_⟩
          cases hlocation.symm.trans hpath

end Discovering

/-- Discovering an annotation keeps the property, as long as the limit exceeds the number of
declared names that are not being discovered. -/
theorem yields_discoverWithin (limit : Nat) :
    ∀ {name : String} {g : Guards} (r : Registry), g.defaulting = [] →
      Outlasts limit g.discovering scope.host.names →
      D.Open g name r → (Lookup.discoverWithin scope limit name).Yields r g (D.Told name r) := by
  -- What is being discovered is declared and not repeated, so that the limit outlasts it.
  induction limit with
  | zero => exact fun _ _ hlimit => absurd hlimit Outlasts.not_zero
  | succ limit ih =>
    intro name g r hidle hlimit hopen
    have hpath : ∀ m ∈ g.discovering.add name, m = name ∨ D.Leads m name := fun m hm =>
      (NameSet.mem_add.1 hm).imp_right (hopen.leads m)
    refine .within (by simp [NameSet.remove_add hopen.fresh]) ?_
    refine yields_discoverStep (g := { g with discovering := g.discovering.add name }) hidle
      hopen.inv hopen.free hpath fun hname mark r' hmark => ?_
    exact ih r' hidle (hlimit.add hname hopen.fresh) hmark

/-- A request that discovers nothing else. -/
theorem yields_template? (hcalm : g.discovering = []) (hidle : g.defaulting = []) {r : Registry}
    (hr : D.Inv r) : (Lookup.template? scope name).Yields r g (D.Told name r) := by
  refine .after Lookup.exec_cachedTemplate? ?_
  -- It is kept, denied, or discovered on calm guards.
  cases hget : r.templates.get? name with
  | some defaults =>
    exact SessionM.yields_pure (.of_taken (.pure hr _) (D.kept hr hget))
  | none =>
    refine .after (Lookup.exec_ask (·.nonTemplates.contains name)) ?_
    by_cases hnon : name ∈ r.nonTemplates
    · rw [if_pos (by simpa using hnon)]
      exact SessionM.yields_pure (.of_not (.pure hr _) (D.denied hr hnon) (D.still_refl r))
    · rw [if_neg (by simpa using hnon)]
      refine .after (Lookup.exec_askGuards (·.discovering.contains name)) ?_
      rw [if_neg (by simp [hcalm])]
      exact yields_discoverWithin _ r hidle (.start hcalm (by omega))
        ⟨hr, by simp [hcalm], hnon, by simp [hcalm]⟩

end Discipline

end PrototypeLens
