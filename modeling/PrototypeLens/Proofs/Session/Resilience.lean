import PrototypeLens.Proofs.Session.Determinacy
import PrototypeLens.Proofs.Session.Origins

/-!
# Later answers after a failure

A lookup during which the host fails leaves answers in the registry, and a later lookup believes
them. It is answered as if the failure had not been met, unless something was left half done: a
template that is known before the templates on it are, or a declaration that is registered without
its origin.

## Layers

- `Scope.Alike`: two sessions on clear registries, in which nothing is being computed. Every
  question gets the same reply in both, and they remain alike.
- `Lookup.exec_origin?_of_stranded`: a declaration that is registered without its origin is told to
  have none.
- `Question.upright_after_failure`: what a failing lookup leaves is upright, and it strands only
  declarations that tell an origin.

## Main results

- If every known template was left with the templates that it carries, then all further questions
  are replied to as without the failing lookup exactly if nothing was left stranded.
- Two programs with an index that is not ready: a generated class that loses its origin, and a
  template that never inherits.
-/

namespace PrototypeLens

/-! ## Sessions that answer alike -/

/-- The session after some questions. -/
def Scope.askAll (scope : Scope) (questions : List Question) (s : Session) : Session :=
  questions.foldl (fun s q => ((q.ask scope).exec s).2) s

/-- Two sessions in which nothing is being computed, on clear registries. -/
structure Scope.Alike (scope : Scope) (s s' : Session) : Prop where
  guards : s'.guards = s.guards
  idle : s.guards.Idle
  clear : s.registry.Clear scope
  clear' : s'.registry.Clear scope

namespace Scope.Alike

variable {scope : Scope} {s s' : Session} (h : scope.host.Definite)
include h

/-- Every question gets the same reply, and the sessions remain alike. -/
theorem reply (hs : scope.Alike s s') (q : Question) :
    ((q.reply scope).exec s').1 = ((q.reply scope).exec s).1 ∧
      scope.Alike ((q.reply scope).exec s).2 ((q.reply scope).exec s').2 := by
  obtain ⟨r, g⟩ := s
  obtain ⟨r', g'⟩ := s'
  obtain ⟨rfl, hidle, hr, hr'⟩ := hs
  -- A lookup comes out the same from all clear registries; any other question reads the guards.
  by_cases hq : q.IsLookup
  · obtain ⟨out, hout⟩ := (compositional_determined h hidle).reply q hq
    obtain ⟨_, r₁, hexec, rfl, hr₁⟩ := hout r hr
    obtain ⟨_, r₁', hexec', rfl, hr₁'⟩ := hout r' hr'
    rw [hexec, hexec']
    exact ⟨rfl, rfl, hidle, hr₁, hr₁'⟩
  · obtain ⟨out, g', hidle', hexec⟩ := Question.exec_reply_of_not_isLookup hq scope hidle
    rw [hexec r, hexec r']
    exact ⟨rfl, rfl, hidle', hr, hr'⟩

theorem askAll (hs : scope.Alike s s') (questions : List Question) :
    scope.Alike (scope.askAll questions s) (scope.askAll questions s') := by
  -- The induction is on the questions, which are asked in both sessions.
  induction questions generalizing s s' with
  | nil => exact hs
  | cons q questions ih =>
    apply ih
    show scope.Alike ((q.ask scope).exec s).2 ((q.ask scope).exec s').2
    rw [Question.exec_ask_session, Question.exec_ask_session]
    exact (hs.reply h q).2

/-- Sessions that the host has answered throughout are alike to themselves. -/
theorem of_reached (hs : scope.Reached s) : scope.Alike s s := by
  -- The induction is on the sessions; a question is replied to alike by the session itself.
  induction hs with
  | start => exact ⟨rfl, Guards.idle_empty, Registry.clear_fresh, Registry.clear_fresh⟩
  | ask q _ _ ih =>
    rw [Question.exec_ask_session]
    exact (ih.reply h q).2
  | reopen _ ih => exact ⟨rfl, Guards.idle_empty, ih.clear, ih.clear⟩

end Scope.Alike

/-! ## Failures -/

/-- A declaration that is registered without its origin is told to have none. -/
theorem Lookup.exec_origin?_of_stranded {scope : Scope} {r : Registry} {g : Guards} {name : String}
    (h : r.Stranded name) : (origin? scope name).exec ⟨r, g⟩ = (.ok none, ⟨r, g⟩) := by
  rw [origin?, SessionM.exec_bind_ok (exec_ask _), h.2]
  dsimp only
  rw [SessionM.exec_bind_ok (exec_ask _), if_pos]
  · rfl
  · simpa [Table.contains, Option.isSome_iff_ne_none] using h.1

namespace Question

variable {view host : Host} {settings : DiscoverySettings} {s s' : Session} {q : Question}

/-- A lookup during which the host fails leaves an upright registry, and strands only declarations
that tell an origin. -/
theorem upright_after_failure (h : host.Definite) (hecho : view.Echoes host)
    (hs : Scope.Reached ⟨host, settings⟩ s) (hq : q.IsLookup)
    {out : Except Cancelled Unit} (hfailure : (q.ask ⟨view, settings⟩).exec s = (out, s')) :
    s'.guards = s.guards ∧ s'.registry.Upright ⟨host, settings⟩ ∧
      ∀ name, s'.registry.Stranded name → ∃ decl, host.Declares name decl ∧
        Lookup.originOf? settings.generatedMarkers decl ≠ none := by
  have hstart : Scope.Alike ⟨host, settings⟩ s s := .of_reached h hs
  have hsession : s' = ((q.reply ⟨view, settings⟩).exec s).2 := by
    rw [← exec_ask_session, hfailure]
  obtain ⟨hguards, hkept⟩ := Conduct.exec_reply (C := uprightConduct settings hecho h.toHealthy
    h.sourceOnly h.wellFormed h.acyclic) hq hstart.idle hstart.clear.toUpright
  rw [← hsession] at hguards hkept
  refine ⟨hguards, hkept.inv, fun name hstranded => ?_⟩
  -- It was stranded before, is being registered, or tells an origin; the first two are out.
  rcases hkept.stranded hstranded with hbefore | hmem | ⟨decl, hread, horigin⟩
  · exact absurd hbefore (hstart.clear.sealed name)
  · rw [hstart.idle.registering] at hmem
    cases hmem
  · exact ⟨decl, hecho.reads h.toHealthy hread, horigin⟩

/-- After a lookup during which the host failed, and unless a template was left known without a
template that it carries, all further questions are replied to as if the lookup had not been made
exactly if no declaration was left registered without its origin. -/
theorem replies_after_failure_iff (h : host.Definite) (hecho : view.Echoes host)
    (hs : Scope.Reached ⟨host, settings⟩ s) (hq : q.IsLookup)
    {out : Except Cancelled Unit} (hfailure : (q.ask ⟨view, settings⟩).exec s = (out, s'))
    (hcovered : ∀ name parent, name ∈ s'.registry.knownTemplates → host.Carries name parent →
      host.Template parent → parent ∈ s'.registry.knownTemplates) :
    (∀ (further : List Question) (q' : Question),
      ((q'.reply ⟨host, settings⟩).exec (Scope.askAll ⟨host, settings⟩ further s')).1 =
        ((q'.reply ⟨host, settings⟩).exec (Scope.askAll ⟨host, settings⟩ further s)).1) ↔
      ∀ name, ¬ s'.registry.Stranded name := by
  have hstart : Scope.Alike ⟨host, settings⟩ s s := .of_reached h hs
  obtain ⟨hguards, hupright, hstranded⟩ := upright_after_failure h hecho hs hq hfailure
  constructor
  · -- The next question for its origin shows a declaration that was stranded.
    intro hsame name hlost
    obtain ⟨decl, hdecl, horigin⟩ := hstranded name hlost
    have htold : (Lookup.origin? ⟨host, settings⟩ name).Yields s.registry s.guards fun told r =>
        told = .ok ((some decl).bind (Lookup.originOf? settings.generatedMarkers)) ∧
          r.Clear ⟨host, settings⟩ :=
      yields_origin?_of_clear h hstart.idle hstart.clear hdecl.finds
    obtain ⟨_, r, hexec, rfl, _⟩ := htold
    -- The stranded declaration is told to have none, the other session tells its origin.
    have hreply := hsame [] (.prototypeOf name)
    simp only [Scope.askAll, List.foldl_nil, reply, Request.prototypeOf,
      SessionM.exec_map] at hreply
    rw [Request.exec_contain_ok (Lookup.exec_origin?_of_stranded hlost),
      Request.exec_contain_ok hexec] at hreply
    cases hfound : Lookup.originOf? settings.generatedMarkers decl with
    | none => exact horigin hfound
    | some prototype =>
      rw [Option.bind_some, hfound] at hreply
      cases hreply
  · intro hsealed further q'
    -- Upright, covered and sealed is what it is to be clear.
    have hclear : s'.registry.Clear ⟨host, settings⟩ :=
      { hupright with covered := hcovered _ _, sealed := hsealed }
    have halike : Scope.Alike ⟨host, settings⟩ s s' :=
      ⟨hguards, hstart.idle, hstart.clear, hclear⟩
    exact ((halike.askAll h further).reply h q').1

end Question

/-! ### Failing programs -/

namespace Program

/-- A program of sources is definite if its strategies are well-formed, annotations decrease in rank
and the roots and the marker carry only what is never a template. -/
theorem Consistent.definite {p : Program} (h : p.Consistent)
    (hfiles : ∀ file ∈ p.files, file.location = .source)
    (hstrategy : ∀ decl ∈ p.decls,
      (∀ use ∈ decl.annotations, ∀ attr ∈ use.attrs, attr.name = "strategy" →
        attr.value.IsStrategy) ∧
      ∀ m ∈ decl.methods, m.name = "strategy" → ∀ value ∈ m.defaultValue, value.IsStrategy)
    (hground : ∀ decl ∈ p.decls, ∀ own ∈ decl.qualifiedName,
      own ∈ templateMarker :: rootTemplates → ∀ use ∈ decl.annotations, use.name ∈ neverTemplates)
    (rank : String → Nat)
    (hrank : ∀ decl ∈ p.decls, ∀ own ∈ decl.qualifiedName, ∀ use ∈ decl.annotations,
      rank use.name < rank own) : p.toHost.Definite :=
  { h.healthy, h.grounded hground with
    sourceOnly := h.sourceOnly hfiles
    wellFormed := h.wellFormed _ hstrategy
    acyclic := h.acyclic rank hrank
    validation_acyclic := fun name _ => h.not_circular rank hrank name }

/-- The program with an index that is not ready for some names. -/
def unready (p : Program) (names : List String) : Program :=
  { p with faults := names.map fun name => (.find name, .indexNotReady) }

theorem Consistent.echoes_unready {p : Program} (h : p.Consistent) (names : List String) :
    (p.unready names).toHost.Echoes p.toHost :=
  h.echoes p.ready p.cancelled _

/-- A template that names an enricher where it carries another template. -/
def enrichedTemplate : Program :=
  .ofDeclarations [{ path := "src/a/Model.java" }]
    [{ name := "Base", qualifiedName := some "a.Base", file := ⟨0⟩, kind := .annotationType
       annotations := [{ name := templateMarker }] },
     { name := "T", qualifiedName := some "a.T", file := ⟨0⟩, kind := .annotationType
       annotations := [{ name := "a.Base"
                         attrs := [⟨"enrichers", .array [.classLiteral "e.E"], none⟩] }] }]

/-- A class that was generated from an interface. -/
def generatedFoo : Program :=
  .ofDeclarations [{ path := "src/a/Foo.java" }, { path := "src/a/FooPrototype.java" }]
    [{ name := "Foo", qualifiedName := some "a.Foo", file := ⟨0⟩, kind := .classType
       annotations := [generatedFrom "a.FooPrototype"] },
     { name := "FooPrototype", qualifiedName := some "a.FooPrototype", file := ⟨1⟩
       kind := .interfaceType }]

/-- A template that carries another one, with a default of its own, after the marker. -/
def markedFirst : Program :=
  .ofDeclarations [{ path := "src/a/Model.java" }]
    [{ name := "Base", qualifiedName := some "a.Base", file := ⟨0⟩, kind := .annotationType
       annotations := [{ name := templateMarker }]
       methods := [{ name := "base", returnType := .primitive .boolean
                     defaultValue := some (.bool true) }] },
     { name := "T", qualifiedName := some "a.T", file := ⟨0⟩, kind := .annotationType
       annotations := [{ name := templateMarker }, { name := "a.Base" }] }]

theorem consistent_enrichedTemplate : enrichedTemplate.Consistent :=
  .ofDeclarations (by decide) (by decide)

theorem consistent_generatedFoo : generatedFoo.Consistent :=
  .ofDeclarations (by decide) (by decide)

theorem consistent_markedFirst : markedFirst.Consistent := .ofDeclarations (by decide) (by decide)

theorem definite_enrichedTemplate : enrichedTemplate.toHost.Definite :=
  consistent_enrichedTemplate.definite (by decide) (by decide) (by decide)
    (fun name => 2 - ["a.T", "a.Base"].idxOf name) (by decide)

theorem definite_generatedFoo : generatedFoo.toHost.Definite :=
  consistent_generatedFoo.definite (by decide) (by decide) (by decide)
    (fun name => 1 - ["a.Foo"].idxOf name) (by decide)

theorem definite_markedFirst : markedFirst.toHost.Definite :=
  consistent_markedFirst.definite (by decide) (by decide) (by decide)
    (fun name => 2 - ["a.T", "a.Base"].idxOf name) (by decide)

end Program

namespace Question

/-- Both templates were known when the index failed on the enricher, and the defaults of none were
kept. -/
theorem replies_after_failure_iff_enrichedTemplate :
    let host := Program.enrichedTemplate.toHost
    let view := (Program.enrichedTemplate.unready ["e.E"]).toHost
    host.Definite ∧ view.Echoes host ∧ Scope.Reached ⟨host, {}⟩ ⟨{}, {}⟩ ∧
      ∃ s', ((templateData "a.T").ask ⟨view, {}⟩).exec ⟨{}, {}⟩ = (.ok (), s') ∧
        s'.registry.knownTemplates = ["a.T", "a.Base"] ∧
        ((∀ (further : List Question) (q' : Question),
          ((q'.reply ⟨host, {}⟩).exec (Scope.askAll ⟨host, {}⟩ further s')).1 =
            ((q'.reply ⟨host, {}⟩).exec (Scope.askAll ⟨host, {}⟩ further ⟨{}, {}⟩)).1) ↔
          ∀ name, ¬ s'.registry.Stranded name) := by
  intro host view
  have hecho : view.Echoes host := Program.consistent_enrichedTemplate.echoes_unready _
  have hstart : Scope.Reached ⟨host, {}⟩ ⟨{}, {}⟩ := .start
  have hq : (templateData "a.T").IsLookup := trivial
  have hfailure : ((templateData "a.T").ask ⟨view, {}⟩).exec ⟨{}, {}⟩ =
      (.ok (), (((templateData "a.T").ask ⟨view, {}⟩).exec ⟨{}, {}⟩).2) := rfl
  refine ⟨Program.definite_enrichedTemplate, hecho, hstart, _, hfailure, rfl, ?_⟩
  refine replies_after_failure_iff Program.definite_enrichedTemplate hecho hstart hq hfailure ?_
  -- Every annotation is the marker or the template that is known.
  rintro name parent - ⟨decl, hdecl, use, huse, rfl⟩ ht
  have hmarker : ¬ host.Template templateMarker :=
    Program.definite_enrichedTemplate.not_template_marker Program.definite_enrichedTemplate.acyclic
  have hannotations : ∀ decl ∈ Program.enrichedTemplate.decls, ∀ use ∈ decl.annotations,
      use.name = templateMarker ∨ use.name = "a.Base" := by decide
  rcases hannotations decl (Program.consistent_enrichedTemplate.mem_decls hdecl).1 use huse with
    hname | hname
  · rw [hname] at ht
    exact absurd ht hmarker
  · rw [hname]
    exact List.mem_cons_of_mem _ List.mem_cons_self

/-- The index fails when a generated class is registered and its prototype looked for: the class is
told not to be generated ever after. It fails when a template was registered on the marker and the
next annotation is looked for: the template never inherits from that one. -/
theorem replies_lost_after_failure :
    (let host := Program.generatedFoo.toHost
      let view := (Program.generatedFoo.unready ["a.FooPrototype"]).toHost
      host.Definite ∧ view.Echoes host ∧
        ∃ s', ((isPrototype "a.Foo").ask ⟨view, {}⟩).exec ⟨{}, {}⟩ = (.ok (), s') ∧
          (((prototypeOf "a.Foo").reply ⟨host, {}⟩).exec ⟨{}, {}⟩).1 =
            .ok (.name (some "a.FooPrototype")) ∧
          (((prototypeOf "a.Foo").reply ⟨host, {}⟩).exec s').1 = .ok (.name none)) ∧
    let host := Program.markedFirst.toHost
    let view := (Program.markedFirst.unready ["a.Base"]).toHost
    host.Definite ∧ view.Echoes host ∧
      ∃ s' right wrong, ((templateData "a.T").ask ⟨view, {}⟩).exec ⟨{}, {}⟩ = (.ok (), s') ∧
        (((templateData "a.T").reply ⟨host, {}⟩).exec ⟨{}, {}⟩).1 = .ok (.descriptor (some right)) ∧
        (((templateData "a.T").reply ⟨host, {}⟩).exec s').1 = .ok (.descriptor (some wrong)) ∧
        right.base = true ∧ wrong.base = false := by
  -- The two runs are computed; the failing index tells nothing that the program does not.
  refine ⟨⟨Program.definite_generatedFoo, ?_, _, rfl, rfl, rfl⟩,
    Program.definite_markedFirst, ?_, _, _, _, rfl, rfl, rfl, rfl, rfl⟩
  · exact Program.consistent_generatedFoo.echoes_unready _
  · exact Program.consistent_markedFirst.echoes_unready _

end Question

end PrototypeLens
