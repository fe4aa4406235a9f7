import PrototypeLens.Lookup.Class
import PrototypeLens.Proofs.Template.Discovery

/-!
# What lookups keep

A property of registries that answering for a template keeps, and that every publication keeps, is
kept by every lookup, whatever it asks and however it ends. Registering a declaration of the host
then fails only where answering for a template or taking its usage does.

## Layers

- `Scope.Resolves`: what a list of annotations comes to, by what is told of the single ones.
- `Upkeep`: the property, with what answers tell in a registry that has it.
- `Upkeep.Keeps`: a computation keeps the property under given guards. `Upkeep.Told` adds that it
  fails for a known reason only.

## Main results

- `yields_prototypeOfUses`: the annotations on a declaration come to what the answers tell.
- `yields_checkGenerated`, `yields_registerStep` and `yields_registerWithin`: registering keeps the
  property, as long as the limit exceeds the declared names that are not being registered.
- `yields_prototype?` and the lemmas after it: so does every other lookup.
-/

namespace PrototypeLens

/-! ## Upkeep -/

/-- What a list of annotations comes to, where `passed` and `taken` tell what the single ones are:
the first that is taken decides. -/
inductive Scope.Resolves (scope : Scope) (passed : String → Prop)
    (taken : String → Descriptor → Prop) : List AnnotationUse → Option Descriptor → Prop where
  | nil : Resolves scope passed taken [] none
  | taken {use : AnnotationUse} {uses : List AnnotationUse} {defaults prototype : Descriptor} :
      taken use.name defaults →
      defaults.takeUsage (Lookup.resolveEnricher scope) use = .ok prototype →
      Resolves scope passed taken (use :: uses) (some prototype)
  | passed {use : AnnotationUse} {uses : List AnnotationUse} {prototype : Option Descriptor} :
      passed use.name → Resolves scope passed taken uses prototype →
      Resolves scope passed taken (use :: uses) prototype

/-- A prototype comes from an annotation that is taken. -/
theorem Scope.Resolves.exists_taken {scope : Scope} {passed : String → Prop}
    {taken : String → Descriptor → Prop} {uses : List AnnotationUse}
    {prototype : Option Descriptor} (h : scope.Resolves passed taken uses prototype)
    (hsome : prototype ≠ none) : ∃ use ∈ uses, ∃ defaults, taken use.name defaults := by
  -- The induction is on the annotations.
  induction h with
  | nil => exact absurd rfl hsome
  | taken htaken _ => exact ⟨_, List.mem_cons_self, _, htaken⟩
  | passed _ _ ih =>
    obtain ⟨use, huse, htaken⟩ := ih hsome
    exact ⟨use, List.mem_cons_of_mem _ huse, htaken⟩

/-- A property of registries with what the answers for templates tell in a registry that has it. -/
structure Upkeep (scope : Scope) where
  /-- The property that is kept. -/
  Inv : Registry → Prop
  /-- What holds of an annotation that an answer tells not to be a template. -/
  Passed : String → Prop
  /-- What holds of a template and the defaults that an answer tells, in the registry after it. -/
  Taken : Registry → String → Descriptor → Prop
  /-- What holds if an answer fails, or a usage cannot be taken. -/
  Failed : Prop
  /-- Answers keep the property. -/
  answer {r r' : Registry} {name : String} {out : Except LookupError (Option Descriptor)} :
    Inv r → Lookup.Answers scope name r out r' →
    Inv r' ∧ (out = .ok none → Passed name) ∧
      (∀ defaults, out = .ok (some defaults) → Taken r' name defaults) ∧
      (∀ e, out = .error e → Failed)
  /-- Taking a usage of what an answer told fails for that reason only. -/
  take {r : Registry} {name : String} {decl : Declaration} {use : AnnotationUse}
      {defaults : Descriptor} {e : LookupError} :
    scope.host.Declares name decl → use ∈ decl.annotations → Taken r use.name defaults →
    defaults.takeUsage (Lookup.resolveEnricher scope) use = .error e → Failed
  /-- Prototypes are published that the answers for the annotations tell. -/
  publishClass {r : Registry} {name : String} {decl : Declaration} {prototype : Option Descriptor}
      (epoch : Nat) : Inv r → scope.host.Declares name decl →
    scope.Resolves Passed (Taken r) decl.annotations prototype →
    Inv (r.publishClass epoch name decl.file prototype)
  /-- Origins are published for declared names. -/
  publishGenerated {r : Registry} {name : String} {decl : Declaration} (epoch : Nat)
      (prototype : String) : Inv r → scope.host.Declares name decl →
    Inv (r.publishGenerated epoch name decl.file prototype)
  /-- That there is no origin is published for declared names. -/
  publishNonGenerated {r : Registry} {name : String} {decl : Declaration} (epoch : Nat) :
    Inv r → scope.host.Declares name decl → Inv (r.publishNonGenerated epoch name decl.file)
  /-- Validation descriptors are published with the file of the declaration. -/
  publishValidator {r : Registry} {name : String} {decl : Option Declaration} (epoch : Nat)
      (descriptor : ValidationDescriptor) : Inv r → scope.host.Finds name decl →
    Inv (r.publishValidator epoch name (decl.map (·.file)) descriptor)
  /-- Declared names may be recorded as dependents. -/
  recordDependent {r : Registry} {name : String} {decl : Declaration} (parent : String) :
    Inv r → scope.host.Declares name decl → Inv (r.recordDependent parent name)

/-- No annotation is being discovered and no declaration is being registered. -/
structure Guards.Calm (g : Guards) : Prop where
  discovering : g.discovering = []
  registering : g.registering = []
  defaulting : g.defaulting = []

namespace Upkeep

variable {scope : Scope} {ε α β : Type} {g : Guards}

/-! ## Computations that keep the property -/

/-- The computation keeps the property under the given guards, however it ends. -/
def Keeps (U : Upkeep scope) (g : Guards) (m : SessionM ε α) : Prop :=
  ∀ r, U.Inv r → m.Yields r g fun _ r' => U.Inv r'

variable {U : Upkeep scope}

theorem keeps_pure (a : α) : U.Keeps g (pure a : SessionM ε α) := fun _ hr =>
  SessionM.yields_pure hr

theorem keeps_throw (e : ε) : U.Keeps g (throw e : SessionM ε α) := fun _ hr =>
  SessionM.yields_throw hr

theorem keeps_query (result : Except QueryError α) : U.Keeps g (Lookup.query result) := fun _ hr =>
  Lookup.yields_query hr

theorem keeps_ask (view : Registry → α) : U.Keeps g (Lookup.ask view) := fun _ hr =>
  ⟨_, _, Lookup.exec_ask view, hr⟩

theorem keeps_askGuards (view : Guards → α) : U.Keeps g (Lookup.askGuards view) := fun _ hr =>
  ⟨_, _, Lookup.exec_askGuards view, hr⟩

theorem Keeps.bind {m : SessionM ε α} {f : α → SessionM ε β} (h : U.Keeps g m)
    (hf : ∀ a, U.Keeps g (f a)) : U.Keeps g (m >>= f) := fun r hr =>
  (h r hr).bind (fun a r' hr' => hf a r' hr') fun _ _ hr' => hr'

theorem Keeps.map {m : SessionM ε α} {f : α → β} (h : U.Keeps g m) : U.Keeps g (f <$> m) :=
  fun r hr => (h r hr).map

theorem Keeps.discard {m : SessionM ε α} (h : U.Keeps g m) : U.Keeps g (discard m) := h.map

/-! ## Templates and prototypes -/

/-- The property holds, and the lookup failed for a known reason only. -/
def Told (U : Upkeep scope) (out : Except LookupError α) (r : Registry) : Prop :=
  U.Inv r ∧ ∀ e, out = .error e → U.Failed

theorem yields_discard {m : Lookup α} {r : Registry} (h : m.Yields r g U.Told) :
    (discard m).Yields r g U.Told := by
  apply SessionM.Yields.discard
  apply h.mono
  rintro out r' ⟨hr', hfailed⟩
  refine ⟨hr', fun e he => ?_⟩
  cases out with
  | ok a => cases he
  | error e' => exact hfailed e' rfl

variable (h : scope.host.Healthy) (hs : scope.host.Sourced)
include h hs

theorem yields_template? {name : String} (hcalm : g.discovering = []) (hcalm' : g.defaulting = [])
    (hsource : scope.host.InSource name) {r : Registry} (hr : U.Inv r) :
    (Lookup.template? scope name).Yields r g fun out r' => U.Inv r' ∧
      (out = .ok none → U.Passed name) ∧
      (∀ defaults, out = .ok (some defaults) → U.Taken r' name defaults) ∧
      (∀ e, out = .error e → U.Failed) :=
  (Lookup.yields_template? h hs hsource hcalm hcalm').mono fun _ _ hans => U.answer hr hans

/-- The prototype that annotations give is what the answers for them come to. -/
theorem yields_prototypeOfUses (hcalm : g.discovering = []) (hcalm' : g.defaulting = [])
    {name : String} {decl : Declaration} (hdecl : scope.host.Declares name decl)
    (uses : List AnnotationUse) (huses : uses ⊆ decl.annotations) :
    ∀ r, U.Inv r → (Lookup.prototypeOfUses scope uses).Yields r g fun out r' => U.Inv r' ∧
      (∀ prototype, out = .ok prototype → scope.Resolves U.Passed (U.Taken r') uses prototype) ∧
      (∀ e, out = .error e → U.Failed) := by
  -- The induction is on the annotations, for all registries, as every answer may give another.
  induction uses with
  | nil =>
    intro r hr
    refine SessionM.yields_pure ⟨hr, fun prototype hp => ?_, by simp⟩
    cases hp
    exact .nil
  | cons use uses ih =>
    intro r hr
    obtain ⟨huse, huses⟩ := List.cons_subset.1 huses
    refine (yields_template? h hs hcalm hcalm' (hs.inSource hdecl huse) hr).bind ?_
      fun e r₁ hfound => ⟨hfound.1, by simp, fun e' he => hfound.2.2.2 e rfl⟩
    rintro found r₁ ⟨hr₁, hpassed, htaken, _⟩
    cases found with
    | none =>
      -- Passed over: the rest of the list decides.
      apply (ih huses r₁ hr₁).mono
      rintro out r' ⟨hr', hresolves, hfailed⟩
      exact ⟨hr', fun p hp => .passed (hpassed rfl) (hresolves p hp), hfailed⟩
    | some defaults =>
      -- Taken: its usage ends the search, or fails.
      have htaken : U.Taken r₁ use.name defaults := htaken defaults rfl
      refine (Lookup.yields_ofExcept
        (defaults.takeUsage (Lookup.resolveEnricher scope) use)).bind ?_ ?_
      · rintro prototype r' ⟨hok, rfl⟩
        refine SessionM.yields_pure ⟨hr₁, fun p hp => ?_, by simp⟩
        cases hp
        exact .taken htaken hok.symm
      · rintro e r' ⟨herror, rfl⟩
        exact ⟨hr₁, by simp, fun _ _ => U.take hdecl huse htaken herror.symm⟩

omit hs in
/-- Telling the origin of a declaration registers its prototype, which is declared. -/
theorem yields_checkGenerated {register : DeclId → Lookup (Option Descriptor)}
    (hregister : ∀ id decl r, scope.host.declaration id = .ok decl → U.Inv r →
      (register id).Yields r g U.Told)
    {name : String} {decl : Declaration} (hdecl : scope.host.Declares name decl) {r : Registry}
    (hr : U.Inv r) : (Lookup.checkGenerated scope register name decl).Yields r g U.Told := by
  refine .after (Lookup.exec_ask _) ?_
  -- An origin that is known is told as it is.
  cases Lookup.knownOrigin? r name with
  | some origin => exact SessionM.yields_pure ⟨hr, by simp⟩
  | none =>
    refine .after (Lookup.exec_ask _) ?_
    cases Lookup.originOf? scope.settings.generatedMarkers decl with
    | none =>
      exact .after (Lookup.exec_record _)
        (SessionM.yields_pure ⟨U.publishNonGenerated _ hr hdecl, by simp⟩)
    | some prototype =>
      obtain ⟨found, hfind⟩ := h.find_ok prototype
      refine .after (Lookup.exec_query_of_ok hfind) ?_
      cases found with
      | none =>
        exact .after (Lookup.exec_record _)
          (SessionM.yields_pure ⟨U.publishGenerated _ _ hr hdecl, by simp⟩)
      | some id =>
        -- The prototype is registered first; what that comes to has no part in the origin.
        obtain ⟨decl', hdecl', _⟩ := h.found hfind
        refine (yields_discard (hregister id decl' r hdecl' hr)).bind ?_
          fun e r' hr' => ⟨hr'.1, fun _ _ => hr'.2 e rfl⟩
        rintro _ r' ⟨hr', _⟩
        exact .after (Lookup.exec_record _)
          (SessionM.yields_pure ⟨U.publishGenerated _ _ hr' hdecl, by simp⟩)

/-- Registering publishes the prototype and the origin. -/
theorem yields_registerStep (hcalm : g.discovering = []) (hcalm' : g.defaulting = [])
    {register : DeclId → Lookup (Option Descriptor)} {name : String} {decl : Declaration}
    (hdecl : scope.host.Declares name decl)
    (hregister : ∀ id decl r, scope.host.declaration id = .ok decl → U.Inv r →
      (register id).Yields r g U.Told) {r : Registry} (hr : U.Inv r) :
    (Lookup.registerStep scope register name decl).Yields r g U.Told := by
  refine .after (Lookup.exec_ask _) ?_
  have huses := yields_prototypeOfUses h hs hcalm hcalm' hdecl decl.annotations
    (List.Subset.refl _) r hr
  refine huses.bind ?_ fun e r₁ hproto => ⟨hproto.1, fun _ _ => hproto.2.2 e rfl⟩
  rintro prototype r₁ ⟨hr₁, hresolves, _⟩
  refine .after (Lookup.exec_record _) ?_
  -- The class entry is published before the origin is looked for.
  have hpublished : U.Inv (r₁.publishClass r.epoch name decl.file prototype) :=
    U.publishClass r.epoch hr₁ hdecl (hresolves prototype rfl)
  exact (yields_discard (yields_checkGenerated h hregister hdecl hpublished)).bind
    (fun _ r' hr' => SessionM.yields_pure ⟨hr'.1, by simp⟩)
    fun e r' hr' => ⟨hr'.1, fun _ _ => hr'.2 e rfl⟩

/-- Registering a declaration of the host keeps the property, as long as the limit exceeds the
number of declared names that are not being registered. -/
theorem yields_registerWithin (limit : Nat) :
    ∀ {g : Guards} {id : DeclId} {decl : Declaration} (r : Registry),
      scope.host.declaration id = .ok decl → g.discovering = [] → g.defaulting = [] →
      Outlasts limit g.registering scope.host.names → U.Inv r →
      (Lookup.registerWithin scope limit id).Yields r g U.Told := by
  -- What is being registered is declared and not repeated, so that the limit outlasts it.
  induction limit with
  | zero => exact fun _ _ _ _ hlimit => absurd hlimit Outlasts.not_zero
  | succ limit ih =>
    intro g id decl r hdecl hcalm hcalm' hlimit hr
    refine .after (Lookup.exec_query_of_ok hdecl) ?_
    -- A declaration without a name is not registered.
    cases hname : decl.qualifiedName with
    | none => exact SessionM.yields_pure ⟨hr, by simp⟩
    | some name =>
      refine .after (Lookup.exec_ask _) ?_
      cases r.classes.get? name with
      | some prototype => exact SessionM.yields_pure ⟨hr, by simp⟩
      | none =>
        refine .after (Lookup.exec_askGuards _) ?_
        by_cases hmet : name ∈ g.registering
        · rw [if_pos (by simpa using hmet)]
          exact SessionM.yields_pure ⟨hr, by simp⟩
        · rw [if_neg (by simpa using hmet)]
          have hdeclares : scope.host.Declares name decl := h.declares hdecl hname
          refine .within (by simp [NameSet.remove_add hmet]) (.nested ?_)
          refine yields_registerStep (g := { g with
              registering := g.registering.add name, depth := g.depth + 1 })
            h hs hcalm hcalm' hdeclares (fun id' decl' r' hdecl' hr' => ?_) hr
          exact ih r' hdecl' hcalm hcalm' (hlimit.add hdeclares.mem_names hmet) hr'

theorem yields_registerClass (hcalm : g.Calm) {id : DeclId} {decl : Declaration}
    (hdecl : scope.host.declaration id = .ok decl) {r : Registry} (hr : U.Inv r) :
    (Lookup.registerClass scope id).Yields r g U.Told :=
  yields_registerWithin h hs _ r hdecl hcalm.discovering hcalm.defaulting
    (.start hcalm.registering (by omega)) hr

/-- The prototype of a name fails for a known reason only. -/
theorem yields_prototype? (hcalm : g.Calm) (name : String) {r : Registry} (hr : U.Inv r) :
    (Lookup.prototype? scope name).Yields r g U.Told := by
  refine .after (Lookup.exec_ask _) ?_
  cases r.classes.get? name with
  | some prototype => exact SessionM.yields_pure ⟨hr, by simp⟩
  | none =>
    obtain ⟨found, hfind⟩ := h.find_ok name
    refine .after (Lookup.exec_query_of_ok hfind) ?_
    cases found with
    | none => exact SessionM.yields_pure ⟨hr, by simp⟩
    | some id =>
      obtain ⟨decl, hdecl, _⟩ := h.found hfind
      exact yields_registerClass h hs hcalm hdecl hr

/-! ## All lookups keep the property -/

theorem keeps_template? (hcalm : g.Calm) {name : String} (hsource : scope.host.InSource name) :
    U.Keeps g (Lookup.template? scope name) := by
  intro r hr
  have hyields := yields_template? h hs hcalm.discovering hcalm.defaulting hsource hr
  exact hyields.mono fun _ _ hfound => hfound.1

theorem keeps_registerClass (hcalm : g.Calm) (id : DeclId) :
    U.Keeps g (Lookup.registerClass scope id) := by
  intro r hr
  -- What cannot be read is not registered, and the registry stays as it is.
  cases hdecl : scope.host.declaration id with
  | ok decl => exact (yields_registerClass h hs hcalm hdecl hr).mono fun _ _ htold => htold.1
  | error e =>
    refine ⟨.error (.query e), r, ?_, hr⟩
    rw [Lookup.registerClass, Lookup.registerWithin, hdecl]
    rfl

theorem keeps_prototype? (hcalm : g.Calm) (name : String) :
    U.Keeps g (Lookup.prototype? scope name) := fun _ hr =>
  (yields_prototype? h hs hcalm name hr).mono fun _ _ htold => htold.1

theorem keeps_origin? (hcalm : g.Calm) (name : String) :
    U.Keeps g (Lookup.origin? scope name) := by
  intro r hr
  refine .after (Lookup.exec_ask _) ?_
  cases Lookup.knownOrigin? r name with
  | some origin => exact SessionM.yields_pure hr
  | none =>
    refine .after (Lookup.exec_ask _) ?_
    split
    · exact SessionM.yields_pure hr
    · obtain ⟨decl, hfind⟩ := h.finds name
      refine .after (Lookup.exec_declarationOf? hfind) ?_
      cases decl with
      | none => exact SessionM.yields_pure hr
      | some decl =>
        have hyields := yields_checkGenerated h
          (fun id decl r' hdecl hr' => yields_registerClass h hs hcalm hdecl hr')
          (Host.finds_some_iff.1 hfind) hr
        exact hyields.mono fun _ _ htold => htold.1

theorem keeps_declOriginWithin (hcalm : g.Calm) (limit : Nat) :
    ∀ id, U.Keeps g (Lookup.declOriginWithin scope limit id) := by
  -- The induction is on the limit.
  induction limit with
  | zero => exact fun _ => keeps_throw _
  | succ limit ih =>
    refine fun id => (keeps_query _).bind fun decl => ?_
    -- What stands around the declaration is asked first, and its own name only then.
    cases decl.parent with
    | none =>
      refine Keeps.bind (keeps_pure none) fun outer => ?_
      dsimp only
      split
      · exact keeps_pure _
      · exact keeps_origin? h hs hcalm _
      · exact keeps_pure _
    | some parent =>
      refine (ih parent).bind fun outer => ?_
      dsimp only
      split
      · exact keeps_pure _
      · exact keeps_origin? h hs hcalm _
      · exact keeps_pure _

theorem keeps_originDeclaration? (hcalm : g.Calm) (origin : Option String) :
    U.Keeps g (Lookup.originDeclaration? scope origin) := by
  cases origin with
  | none => exact keeps_pure _
  | some prototype =>
    refine (keeps_query _).bind fun found => ?_
    cases found with
    | none => exact keeps_pure _
    | some id => exact (keeps_registerClass h hs hcalm id).discard.bind fun _ => keeps_pure _

end Upkeep

end PrototypeLens
