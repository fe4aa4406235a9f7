import PrototypeLens.Proofs.Session.Faithful
import PrototypeLens.Proofs.Session.Interruption

/-!
# Lookups that the declarations determine

In a registry that is right and where nothing is half done, what a lookup tells depends on the
declarations alone, and the registry stays so. Whatever is composed of such lookups has one result
in all of these registries.

## Layers

- `Host.Definite`: the hosts whose declarations say what every lookup has to tell.
- `Registry.Finished` and `Registry.Clear`: nothing is half done, and everything kept is right.
  `Clear.faithful` is what the upkeep needs, `Host.Definite.clear` is how both come back from a
  lookup.
- `Determined`: one result in all clear registries, and a clear one afterwards. `Determined.bind`
  and `determined_of_unique` are the two ways to show it.

## Main results

- `determined_template?`, `determined_registerClass`, `determined_prototype?`, `determined_origin?`,
  `determined_validationDescriptor`: the lookups, one by one.
- `compositional_determined`: whatever is composed of them.
-/

namespace PrototypeLens

open Relation (TransGen)

/-! ## Definite hosts -/

/-- A host of sources whose declarations say what every lookup has to tell: strategies are
well-formed, neither templates nor validation annotations are circular, and the roots and the
marker carry no template. -/
structure Host.Definite (host : Host) : Prop extends host.Healthy, host.Grounded where
  sourceOnly : host.SourceOnly
  wellFormed : host.WellFormed host.Template
  acyclic : host.Acyclic
  validation_acyclic (name : String) : host.Validating name → ¬ TransGen host.Carries name name

/-! ## Clear registries -/

/-- Nothing is half done: every template on a known one is known, and every declaration that has its
prototype has its origin. -/
structure Registry.Finished (host : Host) (r : Registry) : Prop where
  covered {name parent : String} : name ∈ r.knownTemplates → host.Carries name parent →
    host.Template parent → parent ∈ r.knownTemplates
  sealed (name : String) : ¬ r.Stranded name

/-- Everything that is kept is right, and nothing is half done. -/
structure Registry.Clear (scope : Scope) (r : Registry) : Prop extends
    r.Upright scope, r.Finished scope.host

namespace Registry

variable {scope : Scope} {r r' : Registry} {name : String}

theorem clear_fresh : ({} : Registry).Clear scope where
  toUpright := .fresh
  covered h := nomatch h
  sealed _ h := h.1 rfl

/-- Once the templates on known ones are known, defaults by known templates are the declared
ones. -/
theorem Clear.defaults_template (h : r.Clear scope) {d : Descriptor}
    (hd : r.Contributes scope name d) : scope.Defaults scope.host.Template name d := by
  -- Being a template and being known come to the same for what a known template carries.
  refine hd.defaults.congr hd.known fun n decl hk hdecl use huse => ?_
  exact ⟨h.sound.known, h.covered hk ⟨decl, hdecl, use, huse, rfl⟩⟩

theorem Clear.faithful (h : r.Clear scope) : r.Faithful scope where
  sound := h.sound
  exact := h.exact
  settled := ⟨h.defaults, fun hk _ => h.covered hk⟩
  classes hget := by
    obtain ⟨decl, hdecl, hresolves⟩ := h.classes hget
    refine ⟨decl, hdecl, Scope.Resolves.prototypeOf ?_ [] rfl (by simp)⟩
    exact hresolves.mono fun n d hd => ⟨hd.template, h.defaults_template hd⟩

end Registry

section

variable {scope : Scope} {ε α β : Type} {g : Guards}

/-- The lookups of a host that answers keep its registries upright. -/
def Host.Definite.conduct (h : scope.host.Definite) : Conduct scope :=
  uprightConduct scope.settings (.refl scope.host) h.toHealthy h.sourceOnly h.wellFormed h.acyclic

def Host.Definite.upkeep (h : scope.host.Definite) : Upkeep scope :=
  faithfulUpkeep h.toHealthy h.wellFormed h.acyclic h.toGrounded

/-- What keeps a registry upright and faithful keeps it clear. -/
theorem Host.Definite.clear (h : scope.host.Definite) (hidle : g.Idle) {r r' : Registry}
    (hr : r.Clear scope) (hkept : h.conduct.Kept g.registering r r')
    (hfaithful : r'.Faithful scope) : r'.Clear scope where
  toUpright := hkept.inv
  covered hk hcarries ht := hfaithful.settled.covered hk (by simp) hcarries ht
  -- The conduct seals what is being registered, and nothing is.
  sealed name hs := by
    refine hr.sealed name ((hkept.seals (not_not_intro h.toHealthy)).stranded ?_ hs)
    simp [hidle.registering]

/-! ## Determined computations -/

/-- In all clear registries the computation has the same result, and leaves a clear one. -/
def Determined (scope : Scope) (g : Guards) (m : SessionM ε α) : Prop :=
  ∃ out, ∀ r : Registry, r.Clear scope → m.Yields r g fun out' r' => out' = out ∧ r'.Clear scope

/-- A property that only one result has determines it. -/
theorem determined_of_unique {m : SessionM ε α} (post : Except ε α → Prop)
    (hunique : ∀ out out', post out → post out' → out = out')
    (h : ∀ r : Registry, r.Clear scope → m.Yields r g fun out r' => post out ∧ r'.Clear scope) :
    Determined scope g m := by
  -- The result is that on a fresh registry.
  obtain ⟨out, _, _, hpost, _⟩ := h {} Registry.clear_fresh
  refine ⟨out, fun r hr => (h r hr).mono ?_⟩
  rintro out' r' ⟨hpost', hr'⟩
  exact ⟨hunique _ _ hpost' hpost, hr'⟩

/-- The first result determines what is computed next. -/
theorem Determined.bind {m : SessionM ε α} {f : α → SessionM ε β} (h : Determined scope g m)
    (hf : ∀ a, Determined scope g (f a)) : Determined scope g (m >>= f) := by
  obtain ⟨out, hout⟩ := h
  -- An error is the result of the whole; otherwise the second computation has one result for the
  -- first one.
  cases out with
  | error e =>
    refine ⟨.error e, fun r hr => (hout r hr).bind ?_ ?_⟩
    · rintro a r' ⟨hok, _⟩
      cases hok
    · rintro e' r' ⟨herror, hr'⟩
      cases herror
      exact ⟨rfl, hr'⟩
  | ok a =>
    obtain ⟨out', hout'⟩ := hf a
    refine ⟨out', fun r hr => (hout r hr).bind ?_ ?_⟩
    · rintro a' r' ⟨hok, hr'⟩
      cases hok
      exact hout' r' hr'
    · rintro e r' ⟨herror, _⟩
      cases herror

theorem Determined.contain {lookup : Lookup α} (h : Determined scope g lookup) (nothing : α) :
    Determined scope g (Request.contain nothing lookup) := by
  obtain ⟨out, hout⟩ := h
  refine ⟨Request.contained nothing out, fun r hr => ?_⟩
  obtain ⟨_, r', hexec, rfl, hr'⟩ := hout r hr
  exact ⟨_, r', by rw [Request.exec_contain, hexec], rfl, hr'⟩

/-! ## Lookups -/

/-- A registration of a declaration whose prototype is kept tells that. -/
theorem prototyped_of_registerClass_exec (h : scope.host.Healthy) (hcalm : g.Calm) {r : Registry}
    {id : DeclId} {decl : Declaration} {name : String} {prototype : Option Descriptor}
    {s : Session} (hid : scope.host.declaration id = .ok decl)
    (hname : decl.qualifiedName = some name)
    (hexec : (Lookup.registerClass scope id).exec ⟨r, g⟩ = (.ok prototype, s)) :
    Lookup.Prototyped scope r name prototype := by
  cases hclass : r.classes.get? name with
  | none => exact Lookup.prototyped_of_registerClass h hid hname hcalm hclass hexec
  | some kept =>
    rw [Lookup.registerClass, Lookup.registerWithin,
      SessionM.exec_bind_ok (Lookup.exec_query_of_ok hid), hname] at hexec
    dsimp only at hexec
    rw [SessionM.exec_bind_ok (Lookup.exec_ask _), hclass] at hexec
    cases hexec
    exact .kept hclass

section Lookups

variable (h : scope.host.Definite) (hidle : g.Idle)
include h hidle

theorem determined_template? (name : String) :
    Determined scope g (Lookup.template? scope name) := by
  have hsourced : scope.host.Sourced := h.toHealthy.sourced h.sourceOnly
  refine determined_of_unique (fun out => out = .ok none ∧ ¬ scope.host.Template name ∨
    ∃ d, out = .ok (some d) ∧ scope.host.Template name ∧
      scope.Defaults scope.host.Template name d) ?_ ?_
  · -- The two ways to answer exclude each other, and defaults are unique.
    rintro _ _ (⟨rfl, hnot⟩ | ⟨d, rfl, ht, hd⟩) (⟨rfl, hnot'⟩ | ⟨d', rfl, ht', hd'⟩)
    · rfl
    · exact absurd ht' hnot
    · exact absurd ht hnot'
    · rw [hd.unique hd']
  · intro r hr
    have htold := h.upkeep.yields_template? h.toHealthy hsourced hidle.discovering hidle.defaulting
      (h.sourceOnly.inSource name) hr.faithful
    have hkept := (h.conduct.compositional_keeps hidle).template? name r hr.toUpright
    -- What is right is told by the upkeep, and what is left behind by the conduct.
    refine (htold.and hkept).mono ?_
    rintro out r' ⟨⟨hfaithful, hpassed, htaken, hfailed⟩, hkept⟩
    refine ⟨?_, h.clear hidle hr hkept hfaithful⟩
    match out with
    | .error e => exact (hfailed e rfl).elim
    | .ok none => exact .inl ⟨rfl, hpassed rfl⟩
    | .ok (some d) => exact .inr ⟨d, rfl, htaken d rfl⟩

omit hidle in
/-- The prototype of a name is told as it is declared. -/
theorem prototype_of_prototyped {r : Registry} (hr : r.Clear scope) {name : String}
    {prototype : Option Descriptor} (hp : Lookup.Prototyped scope r name prototype) :
    scope.Prototype scope.host.Template name prototype := by
  have hsourced : scope.host.Sourced := h.toHealthy.sourced h.sourceOnly
  -- What is kept is right; what is not declared has no prototype; what is declared is told by its
  -- annotations.
  rcases hp.resolves (U := h.upkeep) h.toHealthy hsourced hr.faithful with
    hget | ⟨hfind, hnone⟩ | ⟨decl, _, hdecl, _, hresolves⟩
  · exact .inl (hr.faithful.classes hget)
  · exact .inr ⟨hfind.not_declares, hnone⟩
  · exact .inl ⟨decl, hdecl, hresolves.prototypeOf [] rfl (by simp)⟩

omit hidle in
/-- A lookup that tells the prototype of a name. -/
theorem determined_of_prototyped {lookup : Lookup (Option Descriptor)} (name : String)
    (hlookup : ∀ r : Registry, r.Clear scope → lookup.Yields r g fun out r' =>
      (∃ prototype, out = .ok prototype ∧ Lookup.Prototyped scope r name prototype) ∧
        r'.Clear scope) : Determined scope g lookup := by
  refine determined_of_unique (fun out => ∃ prototype, out = .ok prototype ∧
    scope.Prototype scope.host.Template name prototype) ?_ ?_
  · rintro _ _ ⟨p, rfl, hp⟩ ⟨p', rfl, hp'⟩
    rw [hp.unique hp']
  · intro r hr
    refine (hlookup r hr).mono ?_
    rintro out r' ⟨⟨prototype, hout, hp⟩, hr'⟩
    exact ⟨⟨prototype, hout, prototype_of_prototyped h hr hp⟩, hr'⟩

theorem determined_registerClass (id : DeclId) :
    Determined scope g (Lookup.registerClass scope id) := by
  have hsourced : scope.host.Sourced := h.toHealthy.sourced h.sourceOnly
  -- Without a declaration or a name nothing is registered.
  cases hid : scope.host.declaration id with
  | error e =>
    refine ⟨.error (.query e), fun r hr => ⟨_, r, ?_, rfl, hr⟩⟩
    rw [Lookup.registerClass, Lookup.registerWithin, hid]
    rfl
  | ok decl =>
    cases hname : decl.qualifiedName with
    | none =>
      refine ⟨.ok none, fun r hr => ⟨_, r, ?_, rfl, hr⟩⟩
      rw [Lookup.registerClass, Lookup.registerWithin, hid, SessionM.exec_bind_ok
        (Lookup.exec_query_of_ok rfl), hname]
      rfl
    | some name =>
      refine determined_of_prototyped h name fun r hr => ?_
      have htold := h.upkeep.yields_registerClass h.toHealthy hsourced hidle.toCalm hid hr.faithful
      have hkept := (h.conduct.compositional_keeps hidle).registerClass id r hr.toUpright
      obtain ⟨out, r', hexec, ⟨hfaithful, hfailed⟩, hkept⟩ := htold.and hkept
      refine ⟨out, r', hexec, ?_, h.clear hidle hr hkept hfaithful⟩
      -- A failure would have cut the lookup short.
      cases out with
      | error e => exact (hfailed e rfl).elim
      | ok prototype =>
        refine ⟨prototype, rfl, ?_⟩
        exact prototyped_of_registerClass_exec h.toHealthy hidle.toCalm hid hname hexec

/-- The lookup for a prototype succeeds and leaves a clear registry. -/
theorem yields_prototype?_of_clear {r : Registry} (hr : r.Clear scope) (name : String) :
    (Lookup.prototype? scope name).Yields r g fun out r' =>
      (∃ prototype, out = .ok prototype ∧ Lookup.Prototyped scope r name prototype) ∧
        r'.Clear scope := by
  have hsourced : scope.host.Sourced := h.toHealthy.sourced h.sourceOnly
  have htold := h.upkeep.yields_prototype? h.toHealthy hsourced hidle.toCalm name hr.faithful
  have hkept := (h.conduct.compositional_keeps hidle).prototype? name r hr.toUpright
  obtain ⟨out, r', hexec, ⟨hfaithful, hfailed⟩, hkept⟩ := htold.and hkept
  refine ⟨out, r', hexec, ?_, h.clear hidle hr hkept hfaithful⟩
  cases out with
  | error e => exact (hfailed e rfl).elim
  | ok prototype =>
    exact ⟨prototype, rfl, Lookup.prototyped_of_exec h.toHealthy hidle.toCalm hexec⟩

theorem determined_prototype? (name : String) :
    Determined scope g (Lookup.prototype? scope name) :=
  determined_of_prototyped h name fun _ hr => yields_prototype?_of_clear h hidle hr name

/-- The origin of a name is that of its declaration. -/
theorem yields_origin?_of_clear {r : Registry} (hr : r.Clear scope) {name : String}
    {found : Option Declaration} (hfound : scope.host.Finds name found) :
    (Lookup.origin? scope name).Yields r g fun out r' => out = .ok
      (found.bind (Lookup.originOf? scope.settings.generatedMarkers)) ∧ r'.Clear scope := by
  have hsourced : scope.host.Sourced := h.toHealthy.sourced h.sourceOnly
  have htold := Conduct.yields_origin? (C := h.conduct) hidle.toCalm name hr.toUpright
  have hkeeps := h.upkeep.keeps_origin? h.toHealthy hsourced hidle.toCalm name r hr.faithful
  refine (htold.and hkeeps).mono ?_
  rintro out r' ⟨⟨hdone, horigin⟩, hfaithful⟩
  refine ⟨?_, h.clear hidle hr hdone.toKept hfaithful⟩
  cases out with
  | error e => exact absurd h.toHealthy (hdone.failed rfl)
  -- A name that is not stranded is told the origin of its declaration.
  | ok origin =>
    rw [(horigin origin rfl).eq_of_finds (hr.sealed name) (fun hknown => hr.origins hknown) hfound]

theorem determined_origin? (name : String) : Determined scope g (Lookup.origin? scope name) := by
  obtain ⟨found, hfound⟩ := h.finds name
  exact ⟨_, fun r hr => yields_origin?_of_clear h hidle hr hfound⟩

theorem determined_validationDescriptor (name : String) :
    Determined scope g (Lookup.validationDescriptor scope name) := by
  refine determined_of_unique (fun out => ∃ d, out = .ok d ∧ scope.Validates name d) ?_ ?_
  · -- Without circular validation annotations there is one answer.
    rintro _ _ ⟨d, rfl, hd⟩ ⟨d', rfl, hd'⟩
    rw [hd.unique h.validation_acyclic hd']
  · intro r hr
    have htold := Conduct.yields_validationDescriptor (C := h.conduct) hidle.validating name
      hr.toUpright
    have hkeeps : h.upkeep.Keeps g (Lookup.validationDescriptor scope name) :=
      Upkeep.keeps_validationDescriptor h.toHealthy name
    refine (htold.and (hkeeps r hr.faithful)).mono ?_
    rintro out r' ⟨hdone, hfaithful⟩
    refine ⟨?_, h.clear hidle hr hdone.toKept hfaithful⟩
    cases out with
    | error e => exact absurd h.toHealthy (hdone.failed rfl)
    | ok d => exact ⟨d, rfl, hdone.validated rfl⟩

/-- Whatever is composed of lookups is determined. -/
theorem compositional_determined : Compositional scope (Determined scope g) where
  pure a := ⟨.ok a, fun r hr => ⟨_, r, rfl, rfl, hr⟩⟩
  throw e := ⟨.error e, fun r hr => ⟨_, r, rfl, rfl, hr⟩⟩
  query result := ⟨result.mapError .query, fun _ hr => Lookup.yields_query ⟨rfl, hr⟩⟩
  bind := Determined.bind
  contain nothing hlookup := hlookup.contain nothing
  template? := determined_template? h hidle
  registerClass := determined_registerClass h hidle
  prototype? := determined_prototype? h hidle
  origin? := determined_origin? h hidle
  validationDescriptor := determined_validationDescriptor h hidle

end Lookups

end

end PrototypeLens
