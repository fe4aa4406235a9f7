import PrototypeLens.Proofs.Session.Requests
import PrototypeLens.Proofs.Walk.Mapping

/-!
# Lookups that run alike

Two lookups match under given guards if, from every registry, they come to the same result and the
same registry and leave the guards as they are. A step of a recursive lookup matches itself as soon
as the nested lookups match that it can come to under these guards: those for names that are not in
progress. The scopes may differ in the lists that bound lookups, as long as their hosts answer
alike.

## Layers

- `Registry.Course`: a relation between a registry and a later one that every publication keeps.
- `Scope.Restates`: two scopes whose hosts answer alike. What is read of a host through queries
  alone is the same on both, walks over types included.
- `Limited`: failures of which some stand for a limit that was reached.
- `SessionM.Matches`: from every registry the two computations come to the same, and to no limit.

## Main results

- `Matches.exec_eq` and `Matches.ne_tooDeep`: what matching is good for.
- `Matches.within`, `Registry.Course.bind`, `forM`, `foldlM`, `answered` and `found`: it passes from
  the parts of a lookup to the whole.
-/

namespace PrototypeLens

/-! ## Registries along a lookup -/

/-- A relation between a registry and a later one that is kept by whatever is recorded about
templates and declarations. -/
structure Registry.Course (K : Registry → Registry → Prop) : Prop where
  refl (r : Registry) : K r r
  trans {r r' r'' : Registry} : K r r' → K r' r'' → K r r''
  announceTemplate (r : Registry) (name : String) : K r (r.announceTemplate name)
  publishTemplate (r : Registry) (epoch : Nat) (name : String) (file : Option FileId)
    (defaults : Descriptor) : K r (r.publishTemplate epoch name file defaults)
  denyTemplate (r : Registry) (name : String) (file : Option FileId) :
    K r (r.denyTemplate name file)
  recordDependent (r : Registry) (parent dependent : String) :
    K r (r.recordDependent parent dependent)
  publishClass (r : Registry) (epoch : Nat) (name : String) (file : FileId)
    (prototype : Option Descriptor) : K r (r.publishClass epoch name file prototype)
  publishGenerated (r : Registry) (epoch : Nat) (name : String) (file : FileId)
    (prototype : String) : K r (r.publishGenerated epoch name file prototype)
  publishNonGenerated (r : Registry) (epoch : Nat) (name : String) (file : FileId) :
    K r (r.publishNonGenerated epoch name file)

/-- Any registry may follow another one. -/
theorem Registry.Course.any : Registry.Course fun _ _ => True :=
  ⟨fun _ => trivial, fun _ _ => trivial, fun _ _ => trivial, fun _ _ _ _ _ => trivial,
    fun _ _ _ => trivial, fun _ _ _ => trivial, fun _ _ _ _ _ => trivial,
    fun _ _ _ _ _ => trivial, fun _ _ _ _ => trivial⟩

/-! ## Scopes that answer alike -/

/-- The second scope answers every query of a lookup as the first one does. The lists that bound
lookups may differ. -/
structure Scope.Restates (scope scope' : Scope) : Prop where
  settings : scope'.settings = scope.settings
  find : scope'.host.find = scope.host.find
  declaration : scope'.host.declaration = scope.host.declaration
  file : scope'.host.file = scope.host.file
  archiveAt : scope'.host.archiveAt = scope.host.archiveAt

namespace Scope.Restates

variable {scope scope' : Scope}

theorem refl (scope : Scope) : scope.Restates scope := ⟨rfl, rfl, rfl, rfl, rfl⟩

theorem findData (h : scope.Restates scope') (name : String) :
    scope'.host.findData name = scope.host.findData name := by
  simp only [Host.findData, h.find, h.declaration]

theorem declarationOf? (h : scope.Restates scope') (name : String) :
    Lookup.declarationOf? scope' name = Lookup.declarationOf? scope name := by
  simp only [Lookup.declarationOf?, h.findData]

theorem resolveEnricher (h : scope.Restates scope') :
    Lookup.resolveEnricher scope' = Lookup.resolveEnricher scope := by
  funext name
  simp only [Lookup.resolveEnricher, h.findData]

theorem targetsOf (h : scope.Restates scope') (value : AttrValue) :
    Lookup.targetsOf scope' value = Lookup.targetsOf scope value := by
  have hclass : Lookup.targetsOfClass scope' = Lookup.targetsOfClass scope := by
    funext name
    simp only [Lookup.targetsOfClass, h.findData]
  simp only [Lookup.targetsOf, hclass]

/-- Where a walk goes does not depend on the list of all nodes. -/
theorem isAssignable (h : scope.Restates scope') (source : JavaType) (target : String) :
    scope'.host.isAssignable source target = scope.host.isAssignable source target := by
  have hwalk (starts : List String) (goal : String → Bool) :
      (scope'.host.supertypeGraph.walk starts goal).map (·.arrived) =
        (scope.host.supertypeGraph.walk starts goal).map (·.arrived) := by
    -- The two graphs have the same successors, which is all that a walk reads.
    have hmaps : scope.host.supertypeGraph.MapsTo id scope'.host.supertypeGraph := by
      intro n
      simp only [Host.supertypeGraph, Host.typeGraph, h.findData]
      cases scope.host.findData n with
      | error e => rfl
      | ok entry => cases entry <;> rfl
    rw [Graph.walk, Graph.walkFrom_map hmaps goal [] starts, Graph.walk]
    cases scope.host.supertypeGraph.walkFrom goal [] starts <;> rfl
  simp only [Host.isAssignable, hwalk]

theorem isAllowed (h : scope.Restates scope') (type : JavaType) (targets : List String) :
    Lookup.isAllowed scope' type targets = Lookup.isAllowed scope type targets := by
  -- The induction is on the targets.
  induction targets with
  | nil => rfl
  | cons target targets ih => simp only [Lookup.isAllowed, h.isAssignable, ih]

end Scope.Restates

/-! ## Matching -/

/-- Failures among which some stand for a limit that was reached. -/
class Limited (ε : Type) where
  /-- A limit was reached. -/
  Exhausted : ε → Prop

instance : Limited LookupError := ⟨(· = .tooDeep)⟩

/-- Requests hand on no failure but cancellation. -/
instance : Limited Cancelled := ⟨fun _ => False⟩

namespace SessionM

variable {ε α : Type} [Limited ε]

/-- What comes of a computation that reaches no limit. -/
structure Unlimited (K : Registry → Registry → Prop) (r : Registry) (out : Except ε α)
    (r' : Registry) : Prop where
  course : K r r'
  error {e : ε} : out = .error e → ¬ Limited.Exhausted e

/-- From every registry two computations come to the same. They leave the guards as they are, take
the registry to one that it relates to, and reach no limit. -/
def Matches (K : Registry → Registry → Prop) (g : Guards) (m m' : SessionM ε α) : Prop :=
  ∀ r, ∃ out r', m.exec ⟨r, g⟩ = (out, ⟨r', g⟩) ∧ m'.exec ⟨r, g⟩ = (out, ⟨r', g⟩) ∧
    Unlimited K r out r'

variable {K : Registry → Registry → Prop} {g : Guards} {m m' : SessionM ε α}

theorem Matches.exec_eq (h : m.Matches K g m') (r : Registry) :
    m.exec ⟨r, g⟩ = m'.exec ⟨r, g⟩ := by
  obtain ⟨out, r', hm, hm', _⟩ := h r
  rw [hm, hm']

theorem Matches.trans {m'' : SessionM ε α} (h : m.Matches K g m') (h' : m'.Matches K g m'') :
    m.Matches K g m'' := by
  intro r
  obtain ⟨out, r', hm, hm', hout⟩ := h r
  exact ⟨out, r', hm, by rw [← h'.exec_eq, hm'], hout⟩

/-- A computation that comes to the same as one that matches itself matches that one. -/
theorem Matches.of_exec_eq {m₁ : SessionM ε α} (h : m.Matches K g m)
    (hexec : ∀ r, m₁.exec ⟨r, g⟩ = m.exec ⟨r, g⟩) : m₁.Matches K g m := by
  intro r
  obtain ⟨out, r', hm, _, hout⟩ := h r
  exact ⟨out, r', (hexec r).trans hm, hm, hout⟩

omit [Limited ε] in
theorem Matches.ne_tooDeep {lookup lookup' : Lookup α} (h : lookup.Matches K g lookup')
    (r : Registry) : (lookup.exec ⟨r, g⟩).1 ≠ .error .tooDeep := by
  obtain ⟨out, r', hexec, _, hout⟩ := h r
  rw [hexec]
  exact fun herror => hout.error herror rfl

/-- Guards that are taken back afterwards do not show. -/
theorem Matches.within {enter leave : Guards → Guards} (hleave : leave (enter g) = g)
    (h : m.Matches K (enter g) m') :
    (SessionM.within enter leave m).Matches K g (SessionM.within enter leave m') := by
  intro r
  obtain ⟨out, r', hm, hm', hout⟩ := h r
  exact ⟨out, r', by rw [exec_within, hm, hleave], by rw [exec_within, hm', hleave], hout⟩

theorem Matches.nested (h : m.Matches K { g with depth := g.depth + 1 } m') :
    (SessionM.nested m).Matches K g (SessionM.nested m') :=
  h.within rfl

theorem Matches.record {change : Registry → Registry} (h : ∀ r, K r (change r)) :
    Matches K g (Lookup.record change) (Lookup.record change) :=
  fun r => ⟨_, _, Lookup.exec_record _, Lookup.exec_record _, h r, nofun⟩

omit [Limited ε] in
/-- What the guards tell is known when the computation goes on. -/
theorem Matches.askGuards {β : Type} {view : Guards → α} {f f' : α → Lookup β}
    (h : Matches K g (f (view g)) (f' (view g))) :
    Matches K g (Lookup.askGuards view >>= f) (Lookup.askGuards view >>= f') :=
  h

omit [Limited ε] in
theorem Matches.contain {lookup lookup' : Lookup α} (nothing : α)
    (h : Matches K g lookup lookup') :
    Matches K g (Request.contain nothing lookup) (Request.contain nothing lookup') := by
  intro r
  obtain ⟨out, r', hexec, hexec', hout⟩ := h r
  refine ⟨Request.contained nothing out, r', ?_, ?_, hout.course, fun _ => id⟩
  · rw [Request.exec_contain, hexec]
  · rw [Request.exec_contain, hexec']

end SessionM

open SessionM (Matches)

namespace Registry.Course

variable {K : Registry → Registry → Prop} (hK : Registry.Course K) {g : Guards} {ε α β : Type}
  [Limited ε]
include hK

theorem pure (a : α) : Matches K g (Pure.pure a : SessionM ε α) (Pure.pure a) :=
  fun r => ⟨_, r, rfl, rfl, hK.refl r, nofun⟩

theorem bind {m m' : SessionM ε α} {f f' : α → SessionM ε β} (hm : Matches K g m m')
    (hf : ∀ a, Matches K g (f a) (f' a)) : Matches K g (m >>= f) (m' >>= f') := by
  intro r
  obtain ⟨out, r₁, hexec, hexec', h₁⟩ := hm r
  -- A failure of the first part ends both, and is no limit.
  cases out with
  | error e =>
    refine ⟨.error e, r₁, SessionM.exec_bind_error hexec, SessionM.exec_bind_error hexec',
      h₁.course, fun he => ?_⟩
    cases he
    exact h₁.error rfl
  | ok a =>
    obtain ⟨out, r', hrest, hrest', h'⟩ := hf a r₁
    exact ⟨out, r', by rw [SessionM.exec_bind_ok hexec, hrest],
      by rw [SessionM.exec_bind_ok hexec', hrest'], hK.trans h₁.course h'.course, h'.error⟩

theorem map {m m' : SessionM ε α} (f : α → β) (hm : Matches K g m m') :
    Matches K g (f <$> m) (f <$> m') := by
  rw [← bind_pure_comp, ← bind_pure_comp]
  exact hK.bind hm fun _ => hK.pure _

theorem discard {m m' : SessionM ε α} (hm : Matches K g m m') :
    Matches K g (discard m) (discard m') :=
  hK.map _ hm

theorem forM {f f' : α → SessionM ε PUnit} (as : List α)
    (hf : ∀ a ∈ as, Matches K g (f a) (f' a)) : Matches K g (as.forM f) (as.forM f') := by
  -- The induction is on the list.
  induction as with
  | nil => exact hK.pure _
  | cons a as ih =>
    refine hK.bind (hf a List.mem_cons_self) fun _ => ?_
    exact ih fun a ha => hf a (List.mem_cons_of_mem _ ha)

theorem foldlM {f f' : β → α → SessionM ε β} (hf : ∀ b a, Matches K g (f b a) (f' b a))
    (as : List α) : ∀ b, Matches K g (as.foldlM f b) (as.foldlM f' b) := by
  induction as with
  | nil => exact fun b => hK.pure b
  | cons a as ih => exact fun b => hK.bind (hf b a) ih

omit [Limited ε] in
theorem ask (view : Registry → α) : Matches K g (Lookup.ask view) (Lookup.ask view) :=
  fun r => ⟨_, r, Lookup.exec_ask _, Lookup.exec_ask _, hK.refl r, nofun⟩

omit [Limited ε] in
theorem ofExcept {result : Except LookupError α} (h : result ≠ .error .tooDeep) :
    Matches K g (Lookup.ofExcept result) (Lookup.ofExcept result) :=
  fun r => ⟨result, r, Lookup.exec_ofExcept _, Lookup.exec_ofExcept _, hK.refl r,
    fun he hexhausted => h (he.trans (congrArg _ hexhausted))⟩

omit [Limited ε] in
/-- A computation goes on only with an answer that the host gave. -/
theorem answered {result : Except QueryError α} {f f' : α → Lookup β}
    (h : ∀ a, result = .ok a → Matches K g (f a) (f' a)) :
    Matches K g (Lookup.query result >>= f) (Lookup.query result >>= f') := by
  -- A query that fails is handed on as such, which is no limit.
  cases result with
  | ok a => exact h a rfl
  | error e =>
    refine fun r => ⟨_, r, rfl, rfl, hK.refl r, fun he hexhausted => ?_⟩
    cases he
    cases hexhausted

omit [Limited ε] in
theorem query (result : Except QueryError α) :
    Matches K g (Lookup.query result) (Lookup.query result) := by
  have h : Matches K g (Lookup.query result >>= Pure.pure)
      (Lookup.query result >>= Pure.pure) :=
    hK.answered fun a _ => hK.pure a
  rwa [bind_pure] at h

omit [Limited ε] in
theorem found {scope : Scope} {name : String} {f f' : Option Declaration → Lookup β}
    (h : ∀ decl, scope.host.Finds name decl → Matches K g (f decl) (f' decl)) :
    Matches K g (Lookup.declarationOf? scope name >>= f)
      (Lookup.declarationOf? scope name >>= f') := by
  unfold Lookup.declarationOf?
  rw [bind_assoc, bind_assoc]
  refine hK.answered fun entry hentry => ?_
  rw [pure_bind, pure_bind]
  exact h _ ⟨entry, hentry, rfl⟩

end Registry.Course

end PrototypeLens
