import PrototypeLens.Proofs.Session.Resilience
import PrototypeLens.Proofs.Session.Tracing

/-!
# Prototypes that are generated

A name can be answered to be a prototype and to be generated, in one session. It takes a declaration
with a template on it and a marker that tells an origin: the registration of such a declaration
records both. No other name is answered so, and whether a name is can be read off the declarations.

## Layers

- `FindsBoth`: both answers are given, in one order or the other. `findsBoth_iff_of_kind` takes the
  two orders together, where the second answer does not depend on when it is asked for.
- `traces_isPrototype` and `traces_isGenerated`: each answer goes back to a declaration that stood
  at some time, whatever has failed since.
- `exec_isGenerated_of_history`: once every file has been refreshed, the second answer is the
  declared one.
- `yields_isPrototype_of_clear` and `yields_isGenerated_of_clear`: on a definite host both are.

## Main results

- A name that is found to be both stood for a declaration with a template and for one with an
  origin; after all files were refreshed the origin is the current one; and on a definite host the
  name is both exactly if its declaration has a template and an origin.
- A prototype that is marked as generated, and is answered to be both in the first session.
-/

namespace PrototypeLens

namespace Request

variable {settings : DiscoverySettings} {host : Host} {name : String} {s : Session}

/-- The session answers that a name is a prototype and that it is generated, asked one after the
other in some order. -/
def FindsBoth (scope : Scope) (s : Session) (name : String) : Prop :=
  (∃ s' s'', (isPrototype scope name).exec s = (.ok true, s') ∧
    (isGenerated scope name).exec s' = (.ok true, s'')) ∨
  ∃ s' s'', (isGenerated scope name).exec s = (.ok true, s') ∧
    (isPrototype scope name).exec s' = (.ok true, s'')

/-- If it is answered whether the name is generated in every session of a kind, and these questions
leave sessions of that kind, the name has to be generated and found to be a prototype before or
after it was asked whether it is generated. -/
theorem findsBoth_iff_of_kind {scope : Scope} (kind : Session → Prop) {generated : Prop}
    (hs : kind s) (hleaves : ∀ s, kind s → kind ((isPrototype scope name).exec s).2)
    (hgenerated : ∀ s, kind s → ∃ b s', (isGenerated scope name).exec s = (.ok b, s') ∧
      (b = true ↔ generated)) :
    FindsBoth scope s name ↔ generated ∧ (FindsPrototype scope s name ∨
      FindsPrototype scope ((isGenerated scope name).exec s).2 name) := by
  obtain ⟨b, s₁, hexec, hb⟩ := hgenerated s hs
  rw [hexec]
  constructor
  · -- Each order gives the second answer in a session that the first question has left.
    rintro (⟨s', s'', hprototype, hthen⟩ | ⟨s', s'', hthen, hprototype⟩)
    · have hs' := hleaves s hs
      rw [hprototype] at hs'
      obtain ⟨b', s₂, hexec', hb'⟩ := hgenerated s' hs'
      cases hexec'.symm.trans hthen
      exact ⟨hb'.1 rfl, .inl ⟨s', hprototype⟩⟩
    · cases hexec.symm.trans hthen
      exact ⟨hb.1 rfl, .inr ⟨s'', hprototype⟩⟩
  · rintro ⟨hgen, ⟨s', hprototype⟩ | ⟨s', hprototype⟩⟩
    · have hs' := hleaves s hs
      rw [hprototype] at hs'
      obtain ⟨b', s₂, hexec', hb'⟩ := hgenerated s' hs'
      obtain rfl := hb'.2 hgen
      exact .inl ⟨s', s₂, hprototype, hexec'⟩
    · obtain rfl := hb.2 hgen
      exact .inr ⟨s₁, s', hexec, hprototype⟩

/-! ## Any programs -/

section Traced

variable {fit : Host → Prop} {scope : Scope} (hfit : fit scope.host)
include hfit

theorem traces_isPrototype (name : String) :
    Lookup.Traces fit scope (isPrototype scope name) fun holds =>
      holds = true → Once.Prototype fit name := by
  refine ((Lookup.traces_prototype? hfit name).contain fun h => absurd rfl h).bind ?_
  intro found hfound
  refine .pure fun hsome => hfound ?_
  rintro rfl
  cases hsome

theorem traces_isGenerated (name : String) :
    Lookup.Traces fit scope (isGenerated scope name) fun holds =>
      holds = true → Once.Generated fit scope.settings.generatedMarkers name := by
  refine ((Lookup.traces_origin? hfit name).bind fun origin horigin => ?_).contain nofun
  refine .pure fun hsome => horigin ?_
  rintro rfl
  cases hsome

/-- What is answered so stood for a declaration with a template, and for one that told an origin. -/
theorem once_of_findsBoth (hs : s.registry.Traced fit scope.settings.generatedMarkers)
    (h : FindsBoth scope s name) :
    Once.Prototype fit name ∧ Once.Generated fit scope.settings.generatedMarkers name := by
  -- The first answer leaves a traced registry, in which the second one is traced, too.
  rcases h with ⟨s', s'', hfirst, hsecond⟩ | ⟨s', s'', hfirst, hsecond⟩
  · obtain ⟨hs', hprototype⟩ := traces_isPrototype hfit name s hs
    rw [hfirst] at hs' hprototype
    obtain ⟨_, hgenerated⟩ := traces_isGenerated hfit name s' hs'
    rw [hsecond] at hgenerated
    exact ⟨hprototype _ rfl rfl, hgenerated _ rfl rfl⟩
  · obtain ⟨hs', hgenerated⟩ := traces_isGenerated hfit name s hs
    rw [hfirst] at hs' hgenerated
    obtain ⟨_, hprototype⟩ := traces_isPrototype hfit name s' hs'
    rw [hsecond] at hprototype
    exact ⟨hprototype _ rfl rfl, hgenerated _ rfl rfl⟩

end Traced

/-! ## Declarations that tell an origin -/

theorem isSome_origin_iff {markers : List String} {found : Option Declaration}
    (hfound : host.Finds name found) : (found.bind (Lookup.originOf? markers)).isSome = true ↔
      ∃ decl, host.Declares name decl ∧ Lookup.originOf? markers decl ≠ none := by
  rw [Option.isSome_iff_ne_none]
  cases found with
  | none => simp [hfound.not_declares]
  | some decl =>
    have hdecl := Host.finds_some_iff.1 hfound
    exact ⟨fun h => ⟨decl, hdecl, h⟩, fun ⟨_, hdecl', h⟩ => hdecl.unique hdecl' ▸ h⟩

/-- Once every file has been refreshed, a name is answered to be generated if its declaration tells
an origin. -/
theorem exec_isGenerated_of_history {among : String → Prop} {stale : FileId → Prop}
    (hs : History settings (Host.Orderly among) host s stale) (hfresh : ∀ file, ¬ stale file)
    (name : String) : ∃ b s', (isGenerated ⟨host, settings⟩ name).exec s = (.ok b, s') ∧
      (b = true ↔ ∃ decl, host.Declares name decl ∧
        Lookup.originOf? settings.generatedMarkers decl ≠ none) := by
  have h : host.Orderly among := hs.fit
  obtain ⟨hidle, hr⟩ := hs.balanced
  obtain ⟨found, hfound⟩ := h.finds name
  have htells : Lookup.Tells ⟨host, settings⟩ among stale s.guards
      (return (← Lookup.origin? ⟨host, settings⟩ name).isSome) fun b => b = true ↔
        ∃ decl, host.Declares name decl ∧
          Lookup.originOf? settings.generatedMarkers decl ≠ none := by
    -- The origin is what the registered declaration tells, if there is one at all.
    have horigin : Lookup.Tells ⟨host, settings⟩ among stale s.guards
        (Lookup.origin? ⟨host, settings⟩ name)
        (· = found.bind (Lookup.originOf? settings.generatedMarkers)) :=
      Lookup.tells_origin? h hidle hfresh hfound
    refine horigin.bind ?_
    rintro _ rfl
    exact Lookup.tells_pure (isSome_origin_iff hfound)
  exact htells.exec_contain hr false

theorem findsBoth_iff_of_history {among : String → Prop} {stale : FileId → Prop}
    (hs : History settings (Host.Orderly among) host s stale) (hfresh : ∀ file, ¬ stale file)
    (name : String) : FindsBoth ⟨host, settings⟩ s name ↔
      (∃ decl, host.Declares name decl ∧
        Lookup.originOf? settings.generatedMarkers decl ≠ none) ∧
      (FindsPrototype ⟨host, settings⟩ s name ∨
        FindsPrototype ⟨host, settings⟩ ((isGenerated ⟨host, settings⟩ name).exec s).2 name) := by
  refine findsBoth_iff_of_kind (fun s => History settings (Host.Orderly among) host s stale) hs
    ?_ ?_
  · intro s hs
    have hasked := hs.ask (.isPrototype name)
    rwa [Question.ask, SessionM.exec_discard] at hasked
  · exact fun s hs => exec_isGenerated_of_history hs hfresh name

/-! ## Definite hosts -/

section Definite

variable {scope : Scope} (h : scope.host.Definite) {r : Registry} {g : Guards} (hidle : g.Idle)
  (hr : r.Clear scope)
include h hidle hr

/-- A name is found to be a prototype exactly if its declaration carries a template. -/
theorem yields_isPrototype_of_clear (name : String) :
    (isPrototype scope name).Yields r g fun out r' => r'.Clear scope ∧ (out = .ok true ↔
      ∃ decl, scope.host.Declares name decl ∧
        ∃ use ∈ decl.annotations, scope.host.Template use.name) := by
  obtain ⟨_, r', hexec, ⟨prototype, rfl, hp⟩, hr'⟩ := yields_prototype?_of_clear h hidle hr name
  refine ⟨.ok prototype.isSome, r', ?_, hr', ?_⟩
  · rw [exec_isPrototype, prototypeData, exec_contain_ok hexec]
    rfl
  · -- A prototype is answered where a first template was found, and nowhere else.
    rcases prototype_of_prototyped h hr hp with ⟨decl, hdecl, hof⟩ | ⟨hnone, rfl⟩
    · cases hof with
      | none hplain =>
        refine iff_of_false (by simp) ?_
        rintro ⟨decl', hdecl', use, huse, ht⟩
        cases hdecl.unique hdecl'
        exact hplain use huse ht
      | some hfirst _ _ =>
        exact iff_of_true rfl ⟨decl, hdecl, _, hfirst.mem, hfirst.holds⟩
    · exact iff_of_false (by simp) fun ⟨decl, hdecl, _⟩ => hnone decl hdecl

theorem yields_isGenerated_of_clear (name : String) :
    (isGenerated scope name).Yields r g fun out r' => r'.Clear scope ∧
      ∃ b, out = .ok b ∧ (b = true ↔ ∃ decl, scope.host.Declares name decl ∧
        Lookup.originOf? scope.settings.generatedMarkers decl ≠ none) := by
  obtain ⟨found, hfound⟩ := h.finds name
  obtain ⟨_, r', hexec, rfl, hr'⟩ := yields_origin?_of_clear h hidle hr hfound
  refine ⟨_, r', ?_, hr', _, rfl, isSome_origin_iff hfound⟩
  refine exec_contain_ok ?_
  rw [SessionM.exec_bind_ok hexec]
  rfl

end Definite

/-- It is found to be both exactly if its declaration carries a template and tells an origin. -/
theorem findsBoth_iff_of_reached {scope : Scope} (h : scope.host.Definite) (hs : scope.Reached s)
    (name : String) : FindsBoth scope s name ↔ ∃ decl, scope.host.Declares name decl ∧
      Lookup.originOf? scope.settings.generatedMarkers decl ≠ none ∧
        ∃ use ∈ decl.annotations, scope.host.Template use.name := by
  have hclear : scope.Alike s s := .of_reached h hs
  obtain ⟨r, g⟩ := s
  -- The answer about a prototype is the same on every clear registry.
  have hfinds (r : Registry) (hr : r.Clear scope) : FindsPrototype scope ⟨r, g⟩ name ↔
      ∃ decl, scope.host.Declares name decl ∧
        ∃ use ∈ decl.annotations, scope.host.Template use.name := by
    obtain ⟨out, r', hexec, _, hout⟩ := yields_isPrototype_of_clear h hclear.idle hr name
    rw [← hout, FindsPrototype, hexec]
    exact ⟨fun ⟨_, hok⟩ => congrArg Prod.fst hok, fun hok => ⟨_, congrArg (·, _) hok⟩⟩
  -- Neither question changes the guards, nor makes a clear registry another one.
  let kind (s : Session) : Prop := s.guards = g ∧ s.registry.Clear scope
  have hleaves : ∀ s, kind s → kind ((isPrototype scope name).exec s).2 := by
    rintro ⟨r, _⟩ ⟨rfl, hr⟩
    obtain ⟨_, r', hexec, hr', _⟩ := yields_isPrototype_of_clear h hclear.idle hr name
    rw [hexec]
    exact ⟨rfl, hr'⟩
  have hgenerated : ∀ s, kind s → ∃ b s', (isGenerated scope name).exec s = (.ok b, s') ∧
      (b = true ↔ ∃ decl, scope.host.Declares name decl ∧
        Lookup.originOf? scope.settings.generatedMarkers decl ≠ none) := by
    rintro ⟨r, _⟩ ⟨rfl, hr⟩
    obtain ⟨_, r', hexec, _, b, rfl, hb⟩ := yields_isGenerated_of_clear h hclear.idle hr name
    exact ⟨b, _, hexec, hb⟩
  rw [findsBoth_iff_of_kind kind ⟨rfl, hclear.clear⟩ hleaves hgenerated]
  obtain ⟨out, r', hexec, hr', _⟩ := yields_isGenerated_of_clear h hclear.idle hclear.clear name
  rw [hexec, hfinds r hclear.clear, hfinds r' hr', or_self]
  constructor
  · -- The two conditions speak of one declaration, as a name has only one.
    rintro ⟨⟨decl, hdecl, horigin⟩, decl', hdecl', huse⟩
    cases hdecl.unique hdecl'
    exact ⟨decl, hdecl, horigin, huse⟩
  · rintro ⟨decl, hdecl, horigin, huse⟩
    exact ⟨⟨decl, hdecl, horigin⟩, decl, hdecl, huse⟩

/-! ## Names that are both -/

/-- A name that is answered to be a prototype and to be generated stood for a declaration with a
template and for one that told an origin, whatever the programs were and whichever lookups failed.
Where lookups succeed and every file has been refreshed, a prototype is answered to be generated
exactly if its declaration tells an origin. And where the declarations say what every lookup has to
tell, a name is both exactly if its declaration carries a template and tells an origin. -/
theorem findsBoth_declared (settings : DiscoverySettings) (name : String) :
    (∀ fit host s stale, History settings fit host s stale →
      FindsBoth ⟨host, settings⟩ s name →
      Once.Prototype fit name ∧ Once.Generated fit settings.generatedMarkers name) ∧
    (∀ among host s stale, History settings (Host.Orderly among) host s stale →
      (∀ file, ¬ stale file) →
      (FindsBoth ⟨host, settings⟩ s name ↔
        (∃ decl, host.Declares name decl ∧
          Lookup.originOf? settings.generatedMarkers decl ≠ none) ∧
        (FindsPrototype ⟨host, settings⟩ s name ∨
          FindsPrototype ⟨host, settings⟩ ((isGenerated ⟨host, settings⟩ name).exec s).2 name))) ∧
    ∀ scope s, scope.settings = settings → scope.host.Definite → scope.Reached s →
      (FindsBoth scope s name ↔ ∃ decl, scope.host.Declares name decl ∧
        Lookup.originOf? settings.generatedMarkers decl ≠ none ∧
          ∃ use ∈ decl.annotations, scope.host.Template use.name) := by
  refine ⟨fun fit host s stale hs hboth => ?_, fun among host s stale hs hfresh => ?_, ?_⟩
  · exact @once_of_findsBoth name s fit ⟨host, settings⟩ hs.fit hs.traced hboth
  · exact findsBoth_iff_of_history hs hfresh name
  · rintro scope s rfl h hs
    exact findsBoth_iff_of_reached h hs name

end Request

/-! ### A prototype with a marker -/

namespace Program

/-- A prototype that was written by hand. -/
def handwrittenPrototype : Program :=
  .ofDeclarations [{ path := "src/a/P.java" }]
    [{ name := "P", qualifiedName := some "a.P", file := ⟨0⟩, kind := .interfaceType
       annotations := [{ name := codePrototype }] }]

/-- The same, marked as generated. -/
def markedPrototype : Program :=
  handwrittenPrototype.updateDeclaration ⟨0⟩
    { name := "P", qualifiedName := some "a.P", file := ⟨0⟩, kind := .interfaceType
      annotations := [{ name := codePrototype }, generatedFrom "a.Q"] }

theorem consistent_handwrittenPrototype : handwrittenPrototype.Consistent :=
  .ofDeclarations (by decide) (by decide)

theorem consistent_markedPrototype : markedPrototype.Consistent :=
  consistent_handwrittenPrototype.updateDeclaration_same rfl rfl (by decide)

theorem orderly_handwrittenPrototype : handwrittenPrototype.toHost.Orderly fun _ => True :=
  consistent_handwrittenPrototype.orderly
    (consistent_handwrittenPrototype.wellFormed _ (by decide)) (by decide)

theorem orderly_markedPrototype : markedPrototype.toHost.Orderly fun _ => True :=
  consistent_markedPrototype.orderly (consistent_markedPrototype.wellFormed _ (by decide))
    (by decide)

theorem definite_markedPrototype : markedPrototype.toHost.Definite :=
  consistent_markedPrototype.definite (by decide) (by decide) (by decide)
    (fun name => 1 - ["a.P"].idxOf name) (by decide)

end Program

namespace Request

/-- The session after the prototype was asked for, marked, and its file refreshed, and the first
session on the marked one. -/
theorem findsBoth_declared_markedPrototype :
    let host := Program.markedPrototype.toHost
    let markers := ["javax.annotation.processing.Generated"]
    (∃ s stale, History {} (Host.Orderly fun _ => True) host s stale ∧ (∀ file, ¬ stale file) ∧
      (FindsBoth ⟨host, {}⟩ s "a.P" ↔
        (∃ decl, host.Declares "a.P" decl ∧ Lookup.originOf? markers decl ≠ none) ∧
        (FindsPrototype ⟨host, {}⟩ s "a.P" ∨
          FindsPrototype ⟨host, {}⟩ ((isGenerated ⟨host, {}⟩ "a.P").exec s).2 "a.P"))) ∧
    Once.Prototype Host.Definite "a.P" ∧ Once.Generated Host.Definite markers "a.P" ∧
    (FindsBoth ⟨host, {}⟩ ⟨{}, {}⟩ "a.P" ↔ ∃ decl, host.Declares "a.P" decl ∧
      Lookup.originOf? markers decl ≠ none ∧
        ∃ use ∈ decl.annotations, host.Template use.name) := by
  intro host markers
  obtain ⟨htraced, hcurrent, hdefinite⟩ := findsBoth_declared {} "a.P"
  have hp := Program.consistent_handwrittenPrototype
  have hp' := Program.consistent_markedPrototype
  have hstart : History {} (Host.Orderly fun _ => True) Program.handwrittenPrototype.toHost
      ⟨{}, {}⟩ fun _ => False := .start Program.orderly_handwrittenPrototype
  have hasked := hstart.ask (.isPrototype "a.P")
  have hedited := hasked.edit Program.orderly_markedPrototype
  have hs := hedited.refresh ⟨0⟩
  have hfresh : ∀ file, ¬ ((False ∨ ¬ Program.handwrittenPrototype.toHost.SameIn host file) ∧
      file ≠ ⟨0⟩) := by
    -- Only the edited file was stale, and it has been refreshed.
    rintro file ⟨hnever | hchanged, hfile⟩
    · exact hnever
    · apply hchanged
      apply hp.sameIn_updateDeclaration hp' (Ne.symm hfile)
      intro old hold
      cases hold
      exact Ne.symm hfile
  have hfirst : History {} Host.Definite host ⟨{}, {}⟩ fun _ => False :=
    .start Program.definite_markedPrototype
  obtain ⟨hprototype, hgenerated⟩ := htraced _ host _ _ hfirst (.inl ⟨_, _, rfl, rfl⟩)
  refine ⟨⟨_, _, hs, hfresh, hcurrent _ host _ _ hs hfresh⟩, hprototype, hgenerated, ?_⟩
  exact hdefinite ⟨host, {}⟩ _ rfl Program.definite_markedPrototype .start

/-- The first session answers that it is a prototype and that it is generated, in either order. -/
theorem findsBoth_markedPrototype :
    let scope : Scope := ⟨Program.markedPrototype.toHost, {}⟩
    scope.host.Definite ∧ scope.Reached ⟨{}, {}⟩ ∧
      (∃ s s', (isPrototype scope "a.P").exec ⟨{}, {}⟩ = (.ok true, s) ∧
        (isGenerated scope "a.P").exec s = (.ok true, s')) ∧
      ∃ s s', (isGenerated scope "a.P").exec ⟨{}, {}⟩ = (.ok true, s) ∧
        (isPrototype scope "a.P").exec s = (.ok true, s') :=
  ⟨Program.definite_markedPrototype, .start, ⟨_, _, rfl, rfl⟩, _, _, rfl, rfl⟩

end Request

end PrototypeLens
