import PrototypeLens.Proofs.Session.Provenance

/-!
# Lookups keep to what was declared

A lookup that starts on a registry where everything comes from a declaration of some program leaves
such a registry, however it ends; and what it tells comes from such a declaration as well. Nothing
is asked of the host, apart from being one of the programs.

## Layers

- `SessionM.Upholds`: a computation keeps a property of registries, and what it returns has another
  property. `Upholds.bind`, `forM` and `foldlM` compose.
- `Lookup.Traces`: the case in which the property is that everything kept is traced.
- One lemma for each lookup, in the order of their definitions. What is returned counts only where
  it tells of something: a template, a prototype or an origin.

## Main results

- `traces_template?`, `traces_registerClass`, `traces_prototype?` and `traces_origin?`: what is told
  of a name comes from a declaration that it stood for.
- `compositional_traces` and `traces_reply`: every question leaves a traced registry.
- `History.traced`: at any time everything that is kept is traced, whichever lookups failed.
-/

namespace PrototypeLens

variable {ε α β : Type}

/-! ## Computations -/

/-- On a registry with a property the computation leaves one with it, however it ends, and what it
returns has another property. -/
def SessionM.Upholds (m : SessionM ε α) (inv : Registry → Prop) (post : α → Prop) : Prop :=
  ∀ s : Session, inv s.registry →
    inv (m.exec s).2.registry ∧ ∀ a, (m.exec s).1 = .ok a → post a

namespace SessionM.Upholds

variable {m : SessionM ε α} {f : α → SessionM ε β} {inv : Registry → Prop} {post mid : α → Prop}
  {post' : β → Prop}

theorem pure {a : α} (ha : post a) : (Pure.pure a : SessionM ε α).Upholds inv post := by
  intro s hs
  refine ⟨hs, fun b hb => ?_⟩
  cases hb
  exact ha

theorem throw (e : ε) : (MonadExcept.throw e : SessionM ε α).Upholds inv post :=
  fun _ hs => ⟨hs, fun _ h => by cases h⟩

/-- What leaves the registry alone keeps any property of it. -/
theorem of_silent (h : ∀ s, (m.exec s).2.registry = s.registry) : m.Upholds inv fun _ => True := by
  intro s hs
  rw [h]
  exact ⟨hs, fun _ _ => trivial⟩

theorem mono (h : m.Upholds inv mid) (himp : ∀ a, mid a → post a) : m.Upholds inv post :=
  fun s hs => ⟨(h s hs).1, fun a ha => himp a ((h s hs).2 a ha)⟩

theorem bind (h : m.Upholds inv mid) (hf : ∀ a, mid a → (f a).Upholds inv post') :
    (m >>= f).Upholds inv post' := by
  intro s hs
  obtain ⟨hinv, hpost⟩ := h s hs
  rw [exec_bind]
  rcases hexec : m.exec s with ⟨out, s'⟩
  rw [hexec] at hinv hpost
  -- After an error there is nothing that would have to have the property.
  cases out with
  | error e => exact ⟨hinv, fun _ h => by cases h⟩
  | ok a => exact hf a (hpost a rfl) s' hinv

theorem map {f : α → β} (h : m.Upholds inv mid) (hf : ∀ a, mid a → post' (f a)) :
    (f <$> m).Upholds inv post' := by
  rw [← bind_pure_comp]
  exact h.bind fun a ha => .pure (hf a ha)

theorem discard (h : m.Upholds inv mid) : (discard m).Upholds inv fun _ => True :=
  h.map fun _ _ => trivial

theorem within (h : m.Upholds inv post) (enter leave : Guards → Guards) :
    (SessionM.within enter leave m).Upholds inv post :=
  fun s hs => h { s with guards := enter s.guards } hs

theorem nested (h : m.Upholds inv post) : (SessionM.nested m).Upholds inv post := h.within _ _

theorem contain {lookup : Lookup α} (h : lookup.Upholds inv post) {nothing : α}
    (hnothing : post nothing) : (Request.contain nothing lookup).Upholds inv post := by
  intro s hs
  obtain ⟨hinv, hpost⟩ := h s hs
  refine ⟨hinv, fun a ha => ?_⟩
  rw [Request.exec_contain] at ha
  rcases hout : (lookup.exec s).1 with e | a'
  · rw [hout, Request.contained] at ha
    split at ha
    · cases ha
    · cases ha
      exact hnothing
  · rw [hout] at ha
    cases ha
    exact hpost a hout

theorem forM {f : α → SessionM ε PUnit} (as : List α)
    (hf : ∀ a ∈ as, (f a).Upholds inv fun _ => True) : (as.forM f).Upholds inv fun _ => True := by
  induction as with
  | nil => exact .pure trivial
  | cons a as ih =>
    refine (hf a List.mem_cons_self).bind fun _ _ => ih fun b hb => ?_
    exact hf b (List.mem_cons_of_mem _ hb)

theorem foldlM {f : β → α → SessionM ε β} (as : List α)
    (hf : ∀ b, post' b → ∀ a ∈ as, (f b a).Upholds inv post') :
    ∀ b, post' b → (as.foldlM f b).Upholds inv post' := by
  -- The induction is on the list, with the property of the accumulated value as invariant.
  induction as with
  | nil => exact fun b hb => .pure hb
  | cons a as ih =>
    intro b hb
    rw [List.foldlM_cons]
    refine (hf b hb a List.mem_cons_self).bind fun b' hb' => ih (fun c hc x hx => ?_) b' hb'
    exact hf c hc x (List.mem_cons_of_mem _ hx)

end SessionM.Upholds

namespace Lookup

open SessionM (Upholds)

variable {inv : Registry → Prop}

theorem upholds_query (result : Except QueryError α) :
    (query result).Upholds inv (result = .ok ·) := by
  cases result with
  | ok a => exact .pure rfl
  | error e => exact .throw _

theorem upholds_ofExcept (result : Except LookupError α) :
    (ofExcept result).Upholds inv fun _ => True := by
  cases result with
  | ok a => exact .pure trivial
  | error e => exact .throw _

theorem upholds_ask (view : Registry → α) :
    (ask view).Upholds inv fun a => ∃ r, inv r ∧ view r = a := by
  intro s hs
  refine ⟨hs, fun a ha => ?_⟩
  cases ha
  exact ⟨s.registry, hs, rfl⟩

theorem upholds_askGuards (view : Guards → α) : (askGuards view).Upholds inv fun _ => True :=
  fun _ hs => ⟨hs, fun _ _ => trivial⟩

theorem upholds_record {change : Registry → Registry} (h : ∀ r, inv r → inv (change r)) :
    (record change).Upholds inv fun _ => True :=
  fun s hs => ⟨h s.registry hs, fun _ _ => trivial⟩

/-! ## Discovery -/

/-- The computation keeps to the declarations of some programs, and so does what it returns. -/
abbrev Traces (fit : Host → Prop) (scope : Scope) (m : SessionM ε α) (post : α → Prop) : Prop :=
  m.Upholds (Registry.Traced fit scope.settings.generatedMarkers) post

section Discovery

variable {fit : Host → Prop} {scope : Scope} {name : String} {decl : Declaration}

theorem traces_cachedTemplate? (name : String) :
    Traces fit scope (cachedTemplate? name) fun found =>
      found ≠ none → Once.Template fit name := by
  refine (upholds_ask _).mono ?_
  rintro found ⟨r, hr, hget⟩ hsome
  obtain ⟨defaults, rfl⟩ := Option.ne_none_iff_exists'.1 hsome
  exact hr.templates hget

theorem traces_denyTemplate (name : String) (file? : Option FileId) :
    Traces fit scope (denyTemplate name file?) fun _ => True :=
  upholds_record fun _ hr => hr.deny name file?

/-- Computing the defaults of a template changes nothing, so that it is published in the epoch in
which it was announced. -/
theorem traces_ensureTemplate (hname : Once.Template fit name) (decl : Option Declaration) :
    Traces fit scope (ensureTemplate scope name decl) fun _ => True := by
  have hregister : Traces fit scope (registerTemplate scope name decl) fun _ => True := by
    intro s hs
    have hannounced := hs.announce name
    rw [registerTemplate, SessionM.exec_bind_ok (exec_record _), SessionM.exec_bind_ok (exec_ask _),
      SessionM.exec_bind, templateDefaults, exec_defaultsWithin]
    -- If the defaults fail, the announcement is all that was recorded.
    cases scope.defaultsIn _ _ _ name decl with
    | error e => exact ⟨hannounced, fun _ _ => trivial⟩
    | ok defaults => exact ⟨hannounced.publishTemplate hname _ defaults, fun _ _ => trivial⟩
  refine (traces_cachedTemplate? name).bind fun kept _ => ?_
  cases kept with
  | some defaults => exact .pure trivial
  | none => exact hregister.nested

theorem traces_declarationOf? (name : String) :
    Traces fit scope (declarationOf? scope name) fun found =>
      ∀ decl, found = some decl → scope.host.Declares name decl := by
  refine (upholds_query _).bind fun entry hentry => .pure fun decl hdecl => ?_
  obtain ⟨⟨id, _⟩, rfl, rfl⟩ := Option.map_eq_some_iff.1 hdecl
  exact ⟨id, hentry⟩

section Nested

variable {recur : String → Lookup (Option Descriptor)}
  (hrecur : ∀ name, Traces fit scope (recur name) fun found => found ≠ none →
    Once.Template fit name)
include hrecur

theorem traces_parentTemplate? (name : String) :
    Traces fit scope (parentTemplate? recur name) fun found =>
      found ≠ none → Once.Template fit name := by
  refine (traces_cachedTemplate? name).bind fun kept hkept => ?_
  cases kept with
  | some defaults => exact .pure fun _ => hkept (Option.some_ne_none _)
  | none =>
    refine (upholds_askGuards _).bind fun met _ => ?_
    split
    · exact .pure fun h => absurd rfl h
    · exact hrecur name

/-- A declaration is told to be a template by the marker or by a template on it. -/
theorem traces_inspectUse {own : String} (hdecl : Once.Declared fit own decl)
    {mark : AnnotationUse} (hmark : mark ∈ decl.annotations) {result : Option Descriptor}
    (hresult : result ≠ none → Once.Attested fit decl) :
    Traces fit scope (inspectUse scope recur own decl result mark) fun found =>
      found ≠ none → Once.Attested fit decl := by
  have hensure (hattested : Once.Attested fit decl) :
      Traces fit scope (do return some (← ensureTemplate scope own (some decl))) fun found =>
        found ≠ none → Once.Attested fit decl :=
    (traces_ensureTemplate (hdecl.template hattested) _).bind fun _ _ => .pure fun _ => hattested
  unfold inspectUse
  -- The marker attests the declaration, and so does a template; what was told before stays.
  split
  · rename_i hmarker
    exact hensure (.inl (hmarker ▸ Declaration.isAnnotatedWith_of_mem hmark))
  · refine (upholds_ask _).bind fun denied _ => ?_
    split
    · exact .pure hresult
    · refine (traces_parentTemplate? hrecur mark.name).bind fun parent hparent => ?_
      cases parent with
      | some _ =>
        refine (upholds_record fun _ hr => hr.depend mark.name own).bind fun _ _ => ?_
        exact hensure (.inr ⟨mark, hmark, hparent (Option.some_ne_none _)⟩)
      | none => exact (traces_denyTemplate mark.name none).bind fun _ _ => .pure hresult

theorem traces_inspectDeclaration {host : Host} (hfit : fit host) {id : DeclId}
    (hid : host.declaration id = .ok decl) :
    Traces fit scope (inspectDeclaration scope recur decl) fun found =>
      found ≠ none → Once.Attested fit decl := by
  unfold inspectDeclaration
  split
  · exact .pure fun h => absurd rfl h
  · rename_i own hown
    have hdecl : Once.Declared fit own decl := .named hfit (.inr ⟨id, hid, hown⟩)
    -- What is told so far is the invariant: a template only on the say of an annotation.
    refine SessionM.Upholds.foldlM _ (fun result hresult mark hmark => ?_) none
      fun h => absurd rfl h
    exact traces_inspectUse hrecur hdecl hmark hresult

theorem traces_discoverUse (mark : AnnotationUse) :
    Traces fit scope (discoverUse recur mark) fun _ => True := by
  unfold discoverUse
  split
  · exact .pure trivial
  · refine (upholds_askGuards _).bind fun met _ => ?_
    split
    · exact .pure trivial
    · refine (upholds_ask _).bind fun denied _ => ?_
      split
      · exact .pure trivial
      · refine (upholds_ask _).bind fun known _ => ?_
        split
        · exact .pure trivial
        · exact (hrecur mark.name).discard

omit hrecur in
theorem traces_settle (name : String) (decl : Declaration) {result : Option Descriptor}
    {post : Option Descriptor → Prop} (hresult : post result) :
    Traces fit scope (settle name decl result) post := by
  unfold settle
  split
  · exact (traces_denyTemplate name _).bind fun _ _ => .pure hresult
  · exact .pure hresult

variable (hfit : fit scope.host)
include hfit

theorem traces_takeListed (name : String) :
    Traces fit scope (takeListed scope recur name) fun _ => True := by
  refine (traces_declarationOf? name).bind fun found hfound => ?_
  split
  · rename_i hroot
    have hname : Once.Template fit name := .root (by simpa using hroot)
    exact (traces_ensureTemplate hname _).discard
  · cases found with
    | none => exact .pure trivial
    | some decl =>
      -- A manifest is believed only about declarations that bear the marker.
      dsimp only
      split
      · rename_i hmarked
        have hname : Once.Template fit name :=
          .marked (.named hfit (.inl (hfound decl rfl))) hmarked
        refine (SessionM.Upholds.forM _ fun mark _ => traces_discoverUse hrecur mark).bind ?_
        exact fun _ _ => (traces_ensureTemplate hname _).discard
      · exact traces_denyTemplate name _

theorem traces_takeManifest (entries : List ManifestEntry) :
    Traces fit scope (takeManifest scope recur entries) fun _ => True := by
  refine SessionM.Upholds.forM _ fun entry _ => ?_
  refine (traces_cachedTemplate? entry.name).bind fun kept _ => ?_
  cases kept with
  | some defaults => exact .pure trivial
  | none => exact traces_takeListed hrecur hfit entry.name

/-- The verdict by the annotations on the declaration of a name. -/
theorem traces_inspectAndSettle {id : DeclId}
    (hfound : scope.host.findData name = .ok (some (id, decl))) :
    Traces fit scope (inspectDeclaration scope recur decl >>= settle name decl) fun found =>
      found ≠ none → Once.Template fit name := by
  have hid : scope.host.declaration id = .ok decl := (Host.findData_eq_some_iff.1 hfound).2
  refine (traces_inspectDeclaration hrecur hfit hid).bind fun result hresult => ?_
  refine traces_settle name decl fun hsome => ?_
  exact Once.Declared.template (.named hfit (.inl ⟨id, hfound⟩)) (hresult hsome)

theorem traces_discoverStep (name : String) :
    Traces fit scope (discoverStep scope recur name) fun found =>
      found ≠ none → Once.Template fit name := by
  refine (traces_declarationOf? name).bind fun found hfound => ?_
  split
  · rename_i hroot
    have hname : Once.Template fit name := .root (by simpa using hroot)
    exact (traces_ensureTemplate hname _).bind fun _ _ => .pure fun _ => hname
  · cases found with
    | none => exact .pure fun h => absurd rfl h
    | some decl =>
      obtain ⟨id, hdata⟩ := hfound decl rfl
      refine (upholds_query _).bind fun file _ => ?_
      split
      · -- In an archive the manifest comes first, and may have kept the name.
        unfold discoverArchived
        split
        · exact .pure fun h => absurd rfl h
        · exact (traces_denyTemplate name none).bind fun _ _ => .pure fun h => absurd rfl h
        · refine (traces_takeManifest hrecur hfit _).bind fun _ _ => ?_
          refine (traces_cachedTemplate? name).bind fun kept hkept => ?_
          cases kept with
          | some defaults => exact .pure fun _ => hkept (Option.some_ne_none _)
          | none => exact traces_inspectAndSettle hrecur hfit hdata
      · exact traces_inspectAndSettle hrecur hfit hdata

end Nested

variable (hfit : fit scope.host)
include hfit

theorem traces_discoverWithin (limit : Nat) (name : String) :
    Traces fit scope (discoverWithin scope limit name) fun found =>
      found ≠ none → Once.Template fit name := by
  -- The induction is on the limit.
  induction limit generalizing name with
  | zero => exact .throw _
  | succ limit ih => exact (traces_discoverStep ih hfit name).within _ _

theorem traces_template? (name : String) :
    Traces fit scope (template? scope name) fun found =>
      found ≠ none → Once.Template fit name := by
  refine (traces_cachedTemplate? name).bind fun kept hkept => ?_
  cases kept with
  | some defaults => exact .pure fun _ => hkept (Option.some_ne_none _)
  | none =>
    refine (upholds_ask _).bind fun denied _ => ?_
    split
    · exact .pure fun h => absurd rfl h
    · refine (upholds_askGuards _).bind fun met _ => ?_
      split
      · exact .pure fun h => absurd rfl h
      · exact traces_discoverWithin hfit _ name

end Discovery

/-! ## Prototypes and origins -/

section Declarations

variable {fit : Host → Prop} {scope : Scope} (hfit : fit scope.host) {name : String}
  {decl : Declaration}
include hfit

/-- A prototype is given by an annotation that is a template. -/
theorem traces_prototypeOfUses (uses : List AnnotationUse) :
    Traces fit scope (prototypeOfUses scope uses) fun prototype =>
      prototype ≠ none → ∃ use ∈ uses, Once.Template fit use.name := by
  -- The induction is on the annotations; an earlier one is passed over without a trace.
  induction uses with
  | nil => exact .pure fun h => absurd rfl h
  | cons use uses ih =>
    refine (traces_template? hfit use.name).bind fun found hfound => ?_
    cases found with
    | some defaults =>
      have huse : Once.Template fit use.name := hfound (Option.some_ne_none _)
      exact (upholds_ofExcept _).bind fun _ _ => .pure fun _ => ⟨use, List.mem_cons_self, huse⟩
    | none =>
      refine ih.mono fun prototype hprototype hsome => ?_
      obtain ⟨other, hother, ht⟩ := hprototype hsome
      exact ⟨other, List.mem_cons_of_mem _ hother, ht⟩

omit hfit in
theorem traces_knownClass? (name : String) :
    Traces fit scope (ask (·.classes.get? name)) fun kept =>
      ∀ prototype, kept = some prototype → prototype ≠ none → Once.Prototype fit name := by
  refine (upholds_ask _).mono ?_
  rintro _ ⟨r, hr, rfl⟩ prototype hget hsome
  obtain ⟨descriptor, rfl⟩ := Option.ne_none_iff_exists'.1 hsome
  exact hr.classes hget

omit hfit in
theorem traces_knownOrigin? (name : String) :
    Traces fit scope (ask (knownOrigin? · name)) fun known =>
      ∀ origin, known = some origin → origin ≠ none →
        Once.Generated fit scope.settings.generatedMarkers name := by
  refine (upholds_ask _).mono ?_
  rintro _ ⟨r, hr, rfl⟩ origin hknown hsome
  obtain ⟨prototype, rfl⟩ := Option.ne_none_iff_exists'.1 hsome
  exact hr.generated (Registry.knownOrigin?_eq_some_some_iff.1 hknown)

omit hfit in
/-- An origin is told by a marker on the declaration, or was told by one before. -/
theorem traces_checkGenerated {register : DeclId → Lookup (Option Descriptor)}
    (hregister : ∀ id, Traces fit scope (register id) fun _ => True)
    (hdecl : Once.Declared fit name decl) :
    Traces fit scope (checkGenerated scope register name decl) fun origin =>
      origin ≠ none → Once.Generated fit scope.settings.generatedMarkers name := by
  refine (traces_knownOrigin? name).bind fun known hknown => ?_
  cases known with
  | some origin => exact .pure (hknown origin rfl)
  | none =>
    refine (upholds_ask _).bind fun epoch _ => ?_
    split
    · rename_i prototype horigin
      have hname : Once.Generated fit scope.settings.generatedMarkers name :=
        ⟨decl, hdecl, by rw [horigin]; exact Option.some_ne_none _⟩
      have hpublish : Traces fit scope
          (record (·.publishGenerated epoch name decl.file prototype) >>= fun _ =>
            Pure.pure (some prototype) : Lookup (Option String)) fun origin =>
          origin ≠ none → Once.Generated fit scope.settings.generatedMarkers name :=
        (upholds_record fun _ hr => hr.publishGenerated epoch decl.file prototype hname).bind
          fun _ _ => .pure fun _ => hname
      -- Whatever the prototype is told to be, the origin is what the marker says.
      refine (upholds_query _).bind fun found _ => ?_
      cases found with
      | none => exact hpublish
      | some id => exact (hregister id).discard.bind fun _ _ => hpublish
    · refine (upholds_record fun _ hr => hr.publishNonGenerated epoch name decl.file).bind ?_
      exact fun _ _ => .pure fun h => absurd rfl h

/-- What a registration tells was given to the name of the declaration. -/
theorem traces_registerWithin (limit : Nat) (id : DeclId) :
    Traces fit scope (registerWithin scope limit id) fun prototype => prototype ≠ none →
      ∃ decl own, scope.host.declaration id = .ok decl ∧ decl.qualifiedName = some own ∧
        Once.Prototype fit own := by
  -- The induction is on the limit, which bounds registrations within each other.
  induction limit generalizing id with
  | zero => exact .throw _
  | succ limit ih =>
    refine (upholds_query _).bind fun decl hid => ?_
    split
    · exact .pure fun h => absurd rfl h
    · rename_i own hown
      have hdecl : Once.Declared fit own decl := .named hfit (.inr ⟨id, hid, hown⟩)
      refine (traces_knownClass? own).bind fun kept hkept => ?_
      cases kept with
      | some prototype =>
        exact .pure fun hsome => ⟨decl, own, hid, hown, hkept prototype rfl hsome⟩
      | none =>
        refine (upholds_askGuards _).bind fun registering _ => ?_
        split
        · exact .pure fun h => absurd rfl h
        · -- The prototype is published before the marker is looked at, under the same name.
          refine SessionM.Upholds.within (.nested ?_) _ _
          refine (upholds_ask _).bind fun epoch _ => ?_
          refine (traces_prototypeOfUses hfit decl.annotations).bind fun prototype hprototype => ?_
          have hname (hsome : prototype ≠ none) : Once.Prototype fit own :=
            ⟨decl, hdecl, hprototype hsome⟩
          refine (upholds_record fun _ hr => hr.publishClass epoch decl.file hname).bind ?_
          intro _ _
          refine (traces_checkGenerated (fun id => (ih id).mono fun _ _ => trivial)
            hdecl).discard.bind ?_
          exact fun _ _ => .pure fun hsome => ⟨decl, own, hid, hown, hname hsome⟩

theorem traces_registerClass (id : DeclId) :
    Traces fit scope (registerClass scope id) fun prototype => prototype ≠ none →
      ∃ decl own, scope.host.declaration id = .ok decl ∧ decl.qualifiedName = some own ∧
        Once.Prototype fit own :=
  traces_registerWithin hfit _ id

theorem traces_prototype? (name : String) :
    Traces fit scope (prototype? scope name) fun prototype =>
      prototype ≠ none → Once.Prototype fit name := by
  refine (traces_knownClass? name).bind fun kept hkept => ?_
  cases kept with
  | some prototype => exact .pure (hkept prototype rfl)
  | none =>
    refine (upholds_query _).bind fun found hfind => ?_
    cases found with
    | none => exact .pure fun h => absurd rfl h
    | some id =>
      -- The declaration may have another name, under which its prototype is kept.
      refine (traces_registerClass hfit id).mono fun prototype hprototype hsome => ?_
      obtain ⟨decl, own, hid, hown, version, hversion, huse⟩ := hprototype hsome
      have hfound : scope.host.Declares name decl := ⟨id, Host.findData_eq_some_iff.2 ⟨hfind, hid⟩⟩
      exact ⟨version, .renamed hfit hfound hown hversion, huse⟩

theorem traces_origin? (name : String) :
    Traces fit scope (origin? scope name) fun origin =>
      origin ≠ none → Once.Generated fit scope.settings.generatedMarkers name := by
  refine (traces_knownOrigin? name).bind fun known hknown => ?_
  cases known with
  | some origin => exact .pure (hknown origin rfl)
  | none =>
    refine (upholds_ask _).bind fun registered _ => ?_
    -- What was registered without an origin is told to have none.
    split
    · exact .pure fun h => absurd rfl h
    · refine (traces_declarationOf? name).bind fun found hfound => ?_
      cases found with
      | none => exact .pure fun h => absurd rfl h
      | some decl =>
        refine traces_checkGenerated (fun id => ?_) (.named hfit (.inl (hfound decl rfl)))
        exact (traces_registerClass hfit id).mono fun _ _ => trivial

end Declarations

/-! ## Validation annotations -/

section Validation

variable {fit : Host → Prop} {scope : Scope} {facets : String → Lookup ValidationDescriptor}

theorem traces_facetsOfUses (hfacets : ∀ name, Traces fit scope (facets name) fun _ => True)
    (name : String) (declaresTargets : Bool) (marks : List AnnotationUse) :
    Traces fit scope (facetsOfUses scope facets name declaresTargets marks) fun _ => True := by
  induction marks with
  | nil => exact .pure trivial
  | cons mark marks ih =>
    refine (upholds_askGuards _).bind fun met _ => ?_
    split
    · exact ih
    · refine (hfacets mark.name).bind fun parent _ => ?_
      refine (upholds_record fun _ hr => hr.depend mark.name name).bind fun _ _ => ?_
      split
      · have htargets : Traces fit scope (inheritedTargets scope declaresTargets mark parent)
            fun _ => True := by
          unfold inheritedTargets
          split
          · exact .pure trivial
          · split
            · exact (upholds_query _).map fun _ _ => trivial
            · exact .pure trivial
        exact htargets.bind fun _ _ => .pure trivial
      · exact ih

theorem traces_facetsWithin (limit : Nat) (name : String) :
    Traces fit scope (facetsWithin scope limit name) fun _ => True := by
  -- The induction is on the limit.
  induction limit generalizing name with
  | zero => exact .throw _
  | succ limit ih =>
    unfold facetsWithin
    split
    · exact .pure trivial
    · refine (upholds_ask _).bind fun kept _ => ?_
      cases kept with
      | some descriptor => exact .pure trivial
      | none =>
        refine (upholds_askGuards _).bind fun met _ => ?_
        split
        · exact .pure trivial
        · refine SessionM.Upholds.within ?_ _ _
          refine (upholds_ask _).bind fun epoch _ => ?_
          refine (traces_declarationOf? name).bind fun decl _ => ?_
          have hpublish (d : ValidationDescriptor) : Traces fit scope
              (record (·.publishValidator epoch name (decl.map (·.file)) d) >>= fun _ =>
                Pure.pure d : Lookup ValidationDescriptor) fun _ => True :=
            (upholds_record fun _ hr => hr.publishValidator epoch name _ d).bind
              fun _ _ => .pure trivial
          cases decl.filter (·.isAnnotationType) with
          | none => exact hpublish {}
          | some decl' => exact (traces_facetsOfUses ih name _ _).bind fun d _ => hpublish d

end Validation

/-! ## Questions -/

section Questions

variable {fit : Host → Prop} {scope : Scope} (hfit : fit scope.host)
include hfit

/-- Whatever is composed of lookups keeps to the declarations. -/
theorem compositional_traces :
    Compositional scope fun m => Traces fit scope m fun _ => True where
  pure _ := .pure trivial
  throw e := .throw e
  query _ := (upholds_query _).mono fun _ _ => trivial
  bind h hf := h.bind fun a _ => hf a
  contain _ h := h.contain trivial
  template? name := (traces_template? hfit name).mono fun _ _ => trivial
  registerClass id := (traces_registerClass hfit id).mono fun _ _ => trivial
  prototype? name := (traces_prototype? hfit name).mono fun _ _ => trivial
  origin? name := (traces_origin? hfit name).mono fun _ _ => trivial
  validationDescriptor name := traces_facetsWithin _ name

theorem traces_reply (q : Question) : Traces fit scope (q.reply scope) fun _ => True := by
  by_cases hq : q.IsLookup
  · exact (compositional_traces hfit).reply q hq
  · -- The other questions do not touch the registry.
    cases q with
    | isRegistering => exact .of_silent fun _ => rfl
    | isAugmenting id => exact .of_silent fun _ => rfl
    | endAugmenting id => exact .of_silent fun _ => rfl
    | beginAugmenting id =>
      refine SessionM.Upholds.map (.of_silent fun s => ?_) fun _ _ => trivial
      show (ite _ _ _ : Except Cancelled Bool × Session).2.registry = _
      split <;> rfl
    | _ => exact absurd trivial hq

end Questions

end Lookup

/-! ## Histories -/

/-- At any time everything that is kept comes from a declaration of one of the programs, whichever
lookups failed. -/
theorem History.traced {settings : DiscoverySettings} {fit : Host → Prop} {host : Host}
    {s : Session} {stale : FileId → Prop} (h : History settings fit host s stale) :
    s.registry.Traced fit settings.generatedMarkers := by
  -- The induction is on the history, in which questions publish and refreshes forget.
  induction h with
  | start _ => exact .fresh
  | @ask host s stale q h ih =>
    rw [Question.exec_ask_session]
    exact (@Lookup.traces_reply fit ⟨host, settings⟩ h.fit q s ih).1
  | reopen _ ih => exact ih
  | edit _ _ ih => exact ih
  | @refresh host s stale file _ ih => exact ih.refresh host file

end PrototypeLens
