import PrototypeLens.Proofs.Session.Conduct
import PrototypeLens.Proofs.Session.Requests

/-!
# What questions keep, however they end

Every question keeps a conduct, whether or not the host answers all queries on the way, and leaves
the guards idle. A lookup that is not cut short strands no declaration.

## Layers

- `Question.reply`: a question with its answer, and the four questions that are about the guards.
- `Compositional`: a property that passes from the lookups to whatever is composed of them.
  `Compositional.reply` takes it to every question.
- `Conduct.Keeps`: the property in question. `Conduct.compositional_keeps` proves it compositional.

## Main results

- `Conduct.exec_ask`: one question leaves an idle session with the invariant of a conduct, and
  strands nothing if it was not cut short.
- `Scope.Visited.holds`: so do any questions, in any number of sessions on one registry.
- `Discipline.conduct`: a discipline about templates alone extends to a conduct.
-/

namespace PrototypeLens

/-! ## Idle sessions -/

/-- Nothing is being computed. -/
structure Guards.Idle (g : Guards) : Prop extends g.Calm where
  validating : g.validating = []

theorem Guards.idle_empty : ({} : Guards).Idle := ⟨⟨rfl, rfl, rfl⟩, rfl⟩

/-! ## Replies -/

/-- What a question is answered with. -/
inductive Reply where
  | done
  | id (found : Option DeclId)
  | descriptor (found : Option Descriptor)
  | flag (holds : Bool)
  | name (found : Option String)
  | text (found : String)
  | validation (found : Option ValidationDescriptor)
  | findings (found : List Diagnostic)

namespace Question

/-- Asks a question. -/
def reply (scope : Scope) : Question → Request Reply
  | findDeclaration name => .id <$> Request.findDeclaration scope name
  | registerDeclaration id => (fun _ => .done) <$> Request.registerDeclaration scope id
  | prototypeData name => .descriptor <$> Request.prototypeData scope name
  | prototypeDataOf id => .descriptor <$> Request.prototypeDataOf scope id
  | isPrototype name => .flag <$> Request.isPrototype scope name
  | isPrototypeDecl id => .flag <$> Request.isPrototypeDecl scope id
  | templateData name => .descriptor <$> Request.templateData scope name
  | prototypeOf name => .name <$> Request.prototypeOf scope name
  | isGenerated name => .flag <$> Request.isGenerated scope name
  | isGeneratedDecl id => .flag <$> Request.isGeneratedDecl scope id
  | prototypeClass name => .id <$> Request.prototypeClass scope name
  | prototypeClassOf id => .id <$> Request.prototypeClassOf scope id
  | generatedNameFor name nested => .text <$> Request.generatedNameFor scope name nested
  | generatedNameOf name => .text <$> Request.generatedNameOf scope name
  | validation name => .validation <$> Request.validation scope name
  | validationFindings site => .findings <$> Request.validationFindings scope site
  | isRegistering => .flag <$> Request.isRegistering
  | beginAugmenting id => .flag <$> Request.beginAugmenting id
  | endAugmenting id => (fun _ => .done) <$> Request.endAugmenting id
  | isAugmenting id => .flag <$> Request.isAugmenting id

/-- Asking a question leaves the session as getting its reply does. -/
theorem exec_ask_session (scope : Scope) (q : Question) (s : Session) :
    ((q.ask scope).exec s).2 = ((q.reply scope).exec s).2 := by
  cases q <;> simp only [ask, reply, SessionM.exec_discard, SessionM.exec_map]

/-- A question for something that lookups tell; the others are about the guards. -/
def IsLookup : Question → Prop
  | isRegistering | beginAugmenting _ | endAugmenting _ | isAugmenting _ => False
  | _ => True

/-- The other questions are answered from the guards, and change only what is being augmented. -/
theorem exec_reply_of_not_isLookup {q : Question} (hq : ¬ q.IsLookup) (scope : Scope) {g : Guards}
    (hidle : g.Idle) : ∃ out g', g'.Idle ∧ ∀ r, (q.reply scope).exec ⟨r, g⟩ = (out, ⟨r, g'⟩) := by
  have hmarked (augmenting : List DeclId) : Guards.Idle { g with augmenting } :=
    ⟨⟨hidle.discovering, hidle.registering, hidle.defaulting⟩, hidle.validating⟩
  cases q with
  | isRegistering => exact ⟨.ok (.flag (0 < g.depth)), g, hidle, fun _ => rfl⟩
  | isAugmenting id => exact ⟨.ok (.flag (g.augmenting.contains id)), g, hidle, fun _ => rfl⟩
  | endAugmenting id =>
    exact ⟨.ok .done, _, hmarked (g.augmenting.filter (· ≠ id)), fun _ => rfl⟩
  | beginAugmenting id =>
    have hbegin (r : Registry) : (Request.beginAugmenting id).exec ⟨r, g⟩ =
        if g.augmenting.contains id then (.ok false, ⟨r, g⟩)
        else (.ok true, ⟨r, { g with augmenting := id :: g.augmenting }⟩) := rfl
    simp only [reply, SessionM.exec_map, hbegin]
    -- A declaration is marked only once.
    by_cases hmet : g.augmenting.contains id = true
    · simp only [if_pos hmet]
      exact ⟨_, g, hidle, fun _ => rfl⟩
    · simp only [if_neg hmet]
      exact ⟨_, _, hmarked _, fun _ => rfl⟩
  | _ => exact absurd trivial hq

end Question

/-! ## What questions are composed of -/

/-- A property of computations that passes from the lookups to everything that is composed of
them. -/
structure Compositional (scope : Scope) (Holds : {ε α : Type} → SessionM ε α → Prop) : Prop where
  pure {ε α : Type} (a : α) : Holds (pure a : SessionM ε α)
  throw {α : Type} (e : LookupError) : Holds (throw e : Lookup α)
  query {α : Type} (result : Except QueryError α) : Holds (Lookup.query result)
  bind {ε α β : Type} {m : SessionM ε α} {f : α → SessionM ε β} :
    Holds m → (∀ a, Holds (f a)) → Holds (m >>= f)
  contain {α : Type} {lookup : Lookup α} (nothing : α) :
    Holds lookup → Holds (Request.contain nothing lookup)
  template? (name : String) : Holds (Lookup.template? scope name)
  registerClass (id : DeclId) : Holds (Lookup.registerClass scope id)
  prototype? (name : String) : Holds (Lookup.prototype? scope name)
  origin? (name : String) : Holds (Lookup.origin? scope name)
  validationDescriptor (name : String) : Holds (Lookup.validationDescriptor scope name)

namespace Compositional

variable {scope : Scope} {Holds : {ε α : Type} → SessionM ε α → Prop}
  (h : Compositional scope Holds)
include h

theorem map {ε α β : Type} {m : SessionM ε α} (f : α → β) (hm : Holds m) : Holds (f <$> m) := by
  rw [← bind_pure_comp]
  exact h.bind hm fun _ => h.pure _

/-- What stands around a declaration decides, or else its own name. -/
theorem declOriginStep (outer name : Option String) : Holds (match outer, name with
    | some origin, _ => Pure.pure (some origin)
    | none, some name => Lookup.origin? scope name
    | none, none => Pure.pure none) := by
  split
  · exact h.pure _
  · exact h.origin? _
  · exact h.pure _

theorem declOriginWithin (limit : Nat) :
    ∀ id, Holds (Lookup.declOriginWithin scope limit id) := by
  -- The induction is on the limit, which bounds the way out through enclosing declarations.
  induction limit with
  | zero => exact fun _ => h.throw _
  | succ limit ih =>
    refine fun id => h.bind (h.query _) fun decl => ?_
    cases decl.parent with
    | none => exact h.bind (h.pure none) fun outer => h.declOriginStep outer _
    | some parent => exact h.bind (ih parent) fun outer => h.declOriginStep outer _

theorem declOrigin? (id : DeclId) : Holds (Lookup.declOrigin? scope id) := h.declOriginWithin _ id

theorem originDeclaration? (origin : Option String) :
    Holds (Lookup.originDeclaration? scope origin) := by
  cases origin with
  | none => exact h.pure _
  | some prototype =>
    refine h.bind (h.query _) fun found => ?_
    cases found with
    | none => exact h.pure _
    | some id => exact h.bind (h.map _ (h.registerClass id)) fun _ => h.pure _

theorem typeFindings (mark : AnnotationUse) (descriptor : ValidationDescriptor)
    (method : Method) : Holds (Lookup.typeFindings scope mark descriptor method) := by
  have htargets : Holds (Lookup.usageTargets scope mark descriptor) := by
    unfold Lookup.usageTargets
    split
    · exact h.map _ (h.query _)
    · exact h.pure _
  refine h.bind htargets fun targets => ?_
  dsimp only
  split
  · exact h.pure _
  · refine h.bind (h.query _) fun allowed => ?_
    cases allowed
    · exact h.pure _
    · exact h.pure _

theorem siteFindings (site : AnnotationSite) : Holds (Lookup.siteFindings scope site) := by
  refine h.bind (h.query _) fun decl => ?_
  split
  · -- Where nothing is found at the site there is nothing to look up.
    exact h.pure _
  · rename_i mark _
    refine h.bind (h.validationDescriptor _) fun descriptor => ?_
    split
    · have hprototype : Holds (Lookup.isInPrototype scope decl) := by
        unfold Lookup.isInPrototype
        split
        · exact h.bind (h.prototype? _) fun _ => h.pure _
        · exact h.pure _
      refine h.bind hprototype fun inPrototype => ?_
      dsimp only
      split
      · exact h.pure _
      · exact h.bind (h.typeFindings mark descriptor _) fun _ => h.pure _
    · exact h.pure _

/-- What passes from lookups to computations holds of the answer to every question about
declarations. -/
theorem reply (q : Question) (hq : q.IsLookup) : Holds (q.reply scope) := by
  cases q with
  | findDeclaration name => exact h.map _ (h.contain _ (h.query _))
  | registerDeclaration id => exact h.map _ (h.contain _ (h.map _ (h.registerClass id)))
  | prototypeData name => exact h.map _ (h.contain _ (h.prototype? name))
  | prototypeDataOf id => exact h.map _ (h.contain _ (h.registerClass id))
  | isPrototype name =>
    exact h.map _ (h.bind (h.contain _ (h.prototype? name)) fun _ => h.pure _)
  | isPrototypeDecl id =>
    exact h.map _ (h.bind (h.contain _ (h.registerClass id)) fun _ => h.pure _)
  | templateData name => exact h.map _ (h.contain _ (h.template? name))
  | prototypeOf name => exact h.map _ (h.contain _ (h.origin? name))
  | isGenerated name =>
    exact h.map _ (h.contain _ (h.bind (h.origin? name) fun _ => h.pure _))
  | isGeneratedDecl id =>
    exact h.map _ (h.contain _ (h.bind (h.declOrigin? id) fun _ => h.pure _))
  | prototypeClass name =>
    exact h.map _ (h.contain _ (h.bind (h.origin? name) h.originDeclaration?))
  | prototypeClassOf id =>
    exact h.map _ (h.contain _ (h.bind (h.declOrigin? id) h.originDeclaration?))
  | generatedNameFor name nested =>
    exact h.map _ (h.contain _ (h.bind (h.prototype? name) fun _ => h.pure _))
  | generatedNameOf name =>
    -- Two requests: the failure of the first one is contained before the second one is made.
    refine h.map _ (h.bind (h.contain none (h.query _)) fun entry => ?_)
    exact h.contain _ (h.bind (h.prototype? name) fun _ => h.pure _)
  | validation name =>
    exact h.map _ (h.contain _ (h.bind (h.validationDescriptor name) fun _ => h.pure _))
  | validationFindings site => exact h.map _ (h.contain _ (h.siteFindings site))
  | isRegistering => exact hq.elim
  | beginAugmenting id => exact hq.elim
  | endAugmenting id => exact hq.elim
  | isAugmenting id => exact hq.elim

end Compositional

namespace Conduct

variable {scope : Scope} {C : Conduct scope} {g : Guards} {ε α : Type}

/-! ## Computations that keep a conduct -/

/-- The computation keeps the conduct under the given guards, however it ends. -/
def Keeps (C : Conduct scope) (g : Guards) (m : SessionM ε α) : Prop :=
  ∀ r, C.Inv r → m.Yields r g fun _ r' => C.Kept g.registering r r'

theorem keeps_registerClass (hidle : g.Idle) (id : DeclId) :
    C.Keeps g (Lookup.registerClass scope id) := by
  intro r hr
  -- If the declaration cannot be read, the registration fails before it changes anything.
  cases hdecl : scope.host.declaration id with
  | ok decl =>
    have hid : C.Resolvable id := by
      intro e herror
      rw [hdecl] at herror
      cases herror
    exact (yields_registerClass hidle.toCalm hid hr).mono fun _ _ h => h.toKept
  | error e =>
    refine ⟨.error (.query e), r, ?_, .refl hr⟩
    rw [Lookup.registerClass, Lookup.registerWithin, hdecl]
    rfl

/-- Whatever is composed of lookups keeps the conduct. -/
theorem compositional_keeps (C : Conduct scope) (hidle : g.Idle) :
    Compositional scope (C.Keeps g) where
  pure _ _ hr := SessionM.yields_pure (.refl hr)
  throw _ _ hr := SessionM.yields_throw (.refl hr)
  query _ _ hr := Lookup.yields_query (.refl hr)
  bind h hf r hr := (h r hr).bind
    (fun a r' h' => (hf a r' h'.inv).mono fun _ _ h'' => h'.trans h'') fun _ _ h' => h'
  contain nothing h r hr := by
    obtain ⟨out, r', hexec, h'⟩ := h r hr
    refine ⟨Request.contained nothing out, r', ?_, h'⟩
    rw [Request.exec_contain, hexec]
  template? _ _ hr := (C.yields_template? hidle.discovering hidle.defaulting hr).mono
    fun _ _ h => .of_spares h.inv h.spares
  registerClass := keeps_registerClass hidle
  prototype? name _ hr := (yields_prototype? hidle.toCalm name hr).mono fun _ _ h => h.toKept
  origin? name _ hr := (yields_origin? hidle.toCalm name hr).mono fun _ _ h => h.1.toKept
  validationDescriptor name _ hr :=
    (yields_validationDescriptor hidle.validating name hr).mono fun _ _ h => h.toKept

/-- A lookup leaves the guards as they are. -/
theorem exec_reply {q : Question} (hq : q.IsLookup) {s : Session} (hidle : s.guards.Idle)
    (hr : C.Inv s.registry) : ((q.reply scope).exec s).2.guards = s.guards ∧
      C.Kept s.guards.registering s.registry ((q.reply scope).exec s).2.registry := by
  obtain ⟨r, g⟩ := s
  obtain ⟨out, r', hexec, h⟩ := (C.compositional_keeps hidle).reply q hq r hr
  rw [hexec]
  exact ⟨rfl, h⟩

/-- Every question leaves an idle session with the property of a conduct, and unless it was cut
short with no name stranded that was not stranded before. -/
theorem exec_ask {s : Session} (hidle : s.guards.Idle) (hr : C.Inv s.registry) (q : Question) :
    ((q.ask scope).exec s).2.guards.Idle ∧ C.Inv ((q.ask scope).exec s).2.registry ∧
      (¬ C.Failed → ∀ name, ((q.ask scope).exec s).2.registry.Stranded name →
        s.registry.Stranded name) := by
  rw [Question.exec_ask_session]
  -- Lookups leave the guards alone, the other questions leave the registry alone.
  by_cases hq : q.IsLookup
  · obtain ⟨hguards, h⟩ := exec_reply (C := C) hq hidle hr
    rw [hguards]
    refine ⟨hidle, h.inv, fun hok name hs => (h.seals hok).stranded ?_ hs⟩
    simp [hidle.registering]
  · obtain ⟨r, g⟩ := s
    obtain ⟨out, g', hidle', hexec⟩ := Question.exec_reply_of_not_isLookup hq scope hidle
    rw [hexec r]
    exact ⟨hidle', hr, fun _ _ hs => hs⟩

/-! ## Healthy hosts -/

theorem named_of_healthy (h : scope.host.Healthy) {name : String} {decl : Declaration}
    (hdecl : scope.host.Declares name decl) : decl.qualifiedName = some name :=
  h.qualifiedName hdecl

/-- A conduct that asks nothing of registries. -/
def ofHealthy (scope : Scope) (h : scope.host.Healthy) : Conduct scope where
  Inv _ := True
  Temp _ := True
  Not _ := True
  Free _ := True
  Leads _ _ := True
  Still _ _ := True
  Taken _ _ _ := True
  Failed := True
  Validated _ _ := True
  Nests _ _ := True
  named := named_of_healthy h
  find_failed _ := trivial
  file_failed _ _ := trivial
  defaults_failed _ _ _ _ := trivial
  take_failed _ _ _ _ := trivial
  archived _ _ _ _ := .of_marked (fun _ _ => trivial) (fun _ => trivial) (fun _ _ => trivial)
    fun _ _ => trivial
  root _ := trivial
  free _ _ _ := trivial
  marked _ _ := trivial
  carried _ _ _ := trivial
  undeclared _ _ := trivial
  plain _ _ _ := trivial
  circular _ _ _ := trivial
  leads _ _ := trivial
  leads_trans _ _ := trivial
  announce _ _ := trivial
  publish _ _ _ _ _ := ⟨trivial, trivial⟩
  kept _ _ := ⟨trivial, trivial⟩
  deny _ _ _ := trivial
  denied _ _ := trivial
  depend _ _ _ := trivial
  still_refl _ := trivial
  still_trans _ _ := trivial
  still_deny _ _ _ := trivial
  still_taken _ _ := trivial
  listed := fun ⟨_, hid, hname⟩ => (h.declares hid hname).mem_names
  publishClass _ _ _ _ := trivial
  publishGenerated _ _ _ _ := trivial
  publishNonGenerated _ _ _ _ := trivial
  validatedRoot _ := trivial
  validatedPlain _ _ _ := trivial
  validatedUses _ _ _ _ _ := trivial
  validatedKept _ _ := trivial
  publishValidator _ _ _ _ := trivial
  nests _ _ _ := trivial
  nests_trans _ _ := trivial

end Conduct

/-- A discipline that concerns only what is said about templates covers the other publications too,
as they say nothing about templates. -/
def Discipline.conduct {scope : Scope} (D : Discipline scope) (h : scope.host.Healthy)
    (hsame : ∀ {r r' : Registry}, D.Inv r → r.SameTemplates r' → D.Inv r')
    (htake : ∀ {r : Registry} {name : String} {decl : Declaration} {use : AnnotationUse}
      {defaults : Descriptor} {e : LookupError}, scope.host.Declares name decl →
      use ∈ decl.annotations → D.Taken r use.name defaults →
      defaults.takeUsage (Lookup.resolveEnricher scope) use = .error e → D.Failed) :
    Conduct scope where
  toDiscipline := D
  Validated _ _ := True
  Nests _ _ := True
  listed := fun ⟨_, hid, hname⟩ => (h.declares hid hname).mem_names
  take_failed := fun ⟨_, hid, hname⟩ => htake (h.declares hid hname)
  publishClass _ hr _ _ := hsame hr (Registry.sameTemplates_publishClass ..)
  publishGenerated _ hr _ _ := hsame hr (Registry.sameTemplates_publishGenerated ..)
  publishNonGenerated _ hr _ _ := hsame hr (Registry.sameTemplates_publishNonGenerated ..)
  validatedRoot _ := trivial
  validatedPlain _ _ _ := trivial
  validatedUses _ _ _ _ _ := trivial
  validatedKept _ _ := trivial
  publishValidator _ hr _ _ := hsame hr (Registry.sameTemplates_publishValidator ..)
  nests _ _ _ := trivial
  nests_trans _ _ := trivial

/-! ## Sessions after questions -/

/-- The sessions after any questions, which may be asked in several sessions on one registry. -/
inductive Scope.Visited (scope : Scope) : Session → Prop where
  /-- The first session starts with an empty registry. -/
  | start : Visited scope ⟨{}, {}⟩
  | ask {s : Session} (q : Question) : Visited scope s → Visited scope ((q.ask scope).exec s).2
  /-- Another session is opened. -/
  | reopen {s : Session} : Visited scope s → Visited scope ⟨s.registry, {}⟩

/-- After any questions nothing is being computed, and what lookups keep holds. -/
theorem Scope.Visited.holds {scope : Scope} {C : Conduct scope} (hfresh : C.Inv {}) {s : Session}
    (hs : scope.Visited s) : s.guards.Idle ∧ C.Inv s.registry := by
  -- The induction is on the session. Another session starts with idle guards on the same registry.
  induction hs with
  | start => exact ⟨Guards.idle_empty, hfresh⟩
  | ask q _ ih =>
    obtain ⟨hidle, hr, _⟩ := Conduct.exec_ask ih.1 ih.2 q
    exact ⟨hidle, hr⟩
  | reopen _ ih => exact ⟨Guards.idle_empty, ih.2⟩

theorem Scope.Visited.idle {scope : Scope} (h : scope.host.Healthy) {s : Session}
    (hs : scope.Visited s) : s.guards.Idle :=
  (hs.holds (C := .ofHealthy scope h) trivial).1

end PrototypeLens
