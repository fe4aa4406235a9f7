import PrototypeLens.Proofs.Cancellation.Inspections
import PrototypeLens.Proofs.Session.Resilience

/-!
# Cancellation at the boundary

The public requests: the questions of a session, augmentation, the refresh of a file and the
requests of an editor. A request whose queries are not cancelled returns, whatever else they fail
with; and one that returns did not come past a cancelled query, so that it would have returned the
same whatever the cancelled ones had been answered.

## Layers

- `EntryPoint`: the public requests as data, with the state that each of them runs on.
- `Host.RelaysTo.run`: every one of them relays cancellation.
- `Host.uncancelled`: the host with an index that is not ready wherever it cancels. It agrees with
  the host on every query that is not cancelled.

## Main results

- `EntryPoint.returns_of_not_cancels`: where nothing is cancelled, every request returns.
- `EntryPoint.restsOn_not_cancels`: one that returns rests on queries that are not cancelled.
- Both together, for every request, host and state, and for whatever queries the outcome rests on.
-/

namespace PrototypeLens

open Cancellable (IsCancelled)

/-! ## Entry points -/

/-- The public requests, by the state that they run on and by what they return. -/
inductive EntryPoint : Type → Type → Type where
  | question (q : Question) : EntryPoint Session Reply
  | augment (features : Features) (id : DeclId) (kind : MemberKind) :
      EntryPoint Session (List VirtualMember)
  | refresh (file : FileId) : EntryPoint Registry (List ModuleId)
  | isGeneratorUsed : EntryPoint Editor Bool
  | generatorVersion : EntryPoint Editor (Option String)
  | members (features : Features) (id : DeclId) (kind : MemberKind) :
      EntryPoint Editor (List VirtualMember)
  | filesSaved (files : List FileId) : EntryPoint Editor (List ModuleId)
  | close : EntryPoint Editor Unit
  | annotate (features : Features) (file : FileId) : EntryPoint Editor (List Highlight)
  | lineMarkers (file : FileId) : EntryPoint Editor (List LineMarker)
  | literalReferences (file : FileId) : EntryPoint Editor (List LiteralReference)
  | usageProblems (features : Features) (file : FileId) : EntryPoint Editor (List Diagnostic)
  | placementProblems (file : FileId) : EntryPoint Editor (List Diagnostic)
  | validationProblems (file : FileId) : EntryPoint Editor (List Diagnostic)
  | problems (features : Features) (file : FileId) : EntryPoint Editor (List Diagnostic)
  | acceptsDiagnostic (file : FileId) (diagnostic : Diagnostic) : EntryPoint Editor Bool
  | isImplicitUsage (element : Element) : EntryPoint Editor Bool
  | canFindUsages (element : Element) : EntryPoint Editor Bool
  | primaryElements (element : Element) : EntryPoint Editor (List Element)

namespace EntryPoint

variable {σ α : Type}

/-- Makes a request. -/
def run (scope : Scope) : EntryPoint σ α → ExceptT Cancelled (StateM σ) α
  | question q => q.reply scope
  | augment features id kind => Request.augment scope features id kind
  | refresh file => fun r => r.refresh scope.host file
  | isGeneratorUsed => Editor.isGeneratorUsed scope.host
  | generatorVersion => pure (Editor.generatorVersion? scope.host)
  | members features id kind => Editor.augment scope features id kind
  | filesSaved files => Editor.filesSaved scope.host files
  | close => modify Editor.close
  | annotate features file => Editor.annotate scope features file
  | lineMarkers file => Editor.lineMarkers scope file
  | literalReferences file => Editor.literalReferences scope file
  | usageProblems features file => Editor.usageProblems scope features file
  | placementProblems file => Editor.placementProblems scope file
  | validationProblems file => Editor.validationProblems scope file
  | problems features file => Editor.problems scope features file
  | acceptsDiagnostic file diagnostic => Editor.acceptsDiagnostic scope file diagnostic
  | isImplicitUsage element => Editor.isImplicitUsage scope element
  | canFindUsages element => Editor.canFindUsages scope element
  | primaryElements element => Editor.primaryElements scope element

/-- What a request returns in a state, and the state after it. -/
def outcome (call : EntryPoint σ α) (scope : Scope) (s : σ) : Except Cancelled α × σ :=
  call.run scope s

/-- The outcome of a request rests on the given queries: every host that answers these alike gives
the same one. The queries that the request makes are such queries. -/
def RestsOn (call : EntryPoint σ α) (scope : Scope) (s : σ) (asked : Query → Prop) : Prop :=
  ∀ host', scope.host.AgreesOn asked host' →
    call.outcome ⟨host', scope.settings⟩ s = call.outcome scope s

end EntryPoint

/-! ## Requests of an editor -/

namespace Host.RelaysTo

variable {host host' : Host} {settings : DiscoverySettings} {cause : Prop}
  (h : host.RelaysTo host' cause)
include h

theorem isGeneratorUsed :
    RelaysRun cause (Editor.isGeneratorUsed host) (Editor.isGeneratorUsed host') := by
  unfold Editor.isGeneratorUsed
  -- Whether the generator is used is read off the class path, which both hosts share.
  rw [h.classpath, h.archiveAt]
  refine RelaysRun.bind (fun _ => .same rfl not_false) fun editor => ?_
  cases editor.generatorUsed with
  | some used => exact .pure _
  | none => exact RelaysRun.bind (fun _ => .same rfl not_false) fun _ => .pure _

theorem isLinked (id : DeclId) :
    RelaysRun cause (Editor.isLinked ⟨host, settings⟩ id)
      (Editor.isLinked ⟨host', settings⟩ id) := by
  refine (h.isPrototypeDecl id).bind fun isPrototype => ?_
  split
  · exact .pure _
  · exact h.isGeneratedDecl id

theorem canFindUsages (element : Element) :
    RelaysRun cause (Editor.canFindUsages ⟨host, settings⟩ element)
      (Editor.canFindUsages ⟨host', settings⟩ element) := by
  cases element with
  | declaration id => exact Editor.relaysRun_run (h.isLinked id)
  | field id index => exact .pure _
  | method id index =>
    unfold Editor.canFindUsages
    dsimp only
    -- This request asks the host itself; it is cancelled with the query.
    refine (h.declaration id).elim (fun hcause _ => Editor.relaysRun_throw hcause _) fun x hx => ?_
    split
    · exact absurd rfl hx
    · exact .pure _
    · split
      · exact Editor.relaysRun_run (h.isLinked id)
      · exact .pure _

theorem acceptsDiagnostic (file : FileId) (diagnostic : Diagnostic) :
    RelaysRun cause (Editor.acceptsDiagnostic ⟨host, settings⟩ file diagnostic)
      (Editor.acceptsDiagnostic ⟨host', settings⟩ file diagnostic) := by
  unfold Editor.acceptsDiagnostic
  -- The file is read first, and everything else is asked for only if it could be.
  refine (h.file file).elim (fun hcause _ => Editor.relaysRun_throw hcause _) fun x hx => ?_
  split
  · exact absurd rfl hx
  · exact .pure _
  · split
    · exact .pure _
    · refine h.isGeneratorUsed.bind fun used => ?_
      split
      · exact .pure _
      · split
        · exact .pure _
        · exact Editor.relaysRun_inspect (h.acceptsAt file _ _) true

theorem primaryElements (element : Element) :
    RelaysRun cause (Editor.primaryElements ⟨host, settings⟩ element)
      (Editor.primaryElements ⟨host', settings⟩ element) := by
  refine h.isGeneratorUsed.bind fun used => ?_
  split
  · exact .pure _
  · cases element with
    | declaration id => exact Editor.relaysRun_inspect (h.declarationTargets id) []
    | method id index => exact Editor.relaysRun_inspect (h.methodTargets id index) []
    | field id index => exact .pure _

theorem isImplicitUsage (element : Element) :
    RelaysRun cause (Editor.isImplicitUsage ⟨host, settings⟩ element)
      (Editor.isImplicitUsage ⟨host', settings⟩ element) := by
  refine h.isGeneratorUsed.bind fun used => ?_
  split
  · exact .pure _
  · exact Editor.relaysRun_run (h.isPrototypeDecl element.owner)

theorem usageProblems (features : Features) (file : FileId) :
    RelaysRun cause (Editor.usageProblems ⟨host, settings⟩ features file)
      (Editor.usageProblems ⟨host', settings⟩ features file) := by
  unfold Editor.usageProblems
  split
  · exact Editor.relaysRun_inspect (h.prototypeUses file) []
  · exact .pure _

theorem placementProblems (file : FileId) :
    RelaysRun cause (Editor.placementProblems ⟨host, settings⟩ file)
      (Editor.placementProblems ⟨host', settings⟩ file) :=
  Editor.relaysRun_inspect (h.misplaced file) []

theorem validationProblems (file : FileId) :
    RelaysRun cause (Editor.validationProblems ⟨host, settings⟩ file)
      (Editor.validationProblems ⟨host', settings⟩ file) :=
  Editor.relaysRun_inspect (h.misusedValidation file) []

/-- Every public request relays cancellation. -/
theorem run {σ α : Type} (call : EntryPoint σ α) :
    RelaysRun cause (call.run ⟨host, settings⟩) (call.run ⟨host', settings⟩) := by
  -- One case for each request; those of an editor are inspections or borrow its registry.
  cases call with
  | question q => exact h.reply q
  | augment features id kind => exact h.augment features id kind
  | refresh file => exact fun r => h.refresh r file
  | isGeneratorUsed => exact h.isGeneratorUsed
  | generatorVersion =>
    unfold EntryPoint.run Editor.generatorVersion?
    rw [h.classpath, h.archiveAt]
    exact .pure _
  | members features id kind => exact Editor.relaysRun_run (h.augment features id kind)
  | filesSaved files => exact h.filesSaved files
  | close => exact fun _ => .same rfl not_false
  | annotate features file => exact Editor.relaysRun_inspect (h.fileHighlights features file) []
  | lineMarkers file => exact Editor.relaysRun_inspect (h.fileMarkers file) []
  | literalReferences file =>
    exact Editor.relaysRun_inspect (Inspection.relaysRun_query (h.fileReferences _ file)) []
  | usageProblems features file => exact h.usageProblems features file
  | placementProblems file => exact h.placementProblems file
  | validationProblems file => exact h.validationProblems file
  | problems features file =>
    refine (h.usageProblems features file).bind fun uses => ?_
    refine (h.placementProblems file).bind fun misplaced => ?_
    exact (h.validationProblems file).bind fun misused => .pure _
  | acceptsDiagnostic file diagnostic => exact h.acceptsDiagnostic file diagnostic
  | isImplicitUsage element => exact h.isImplicitUsage element
  | canFindUsages element => exact h.canFindUsages element
  | primaryElements element => exact h.primaryElements element

end Host.RelaysTo

/-! ## Hosts that do not cancel -/

namespace Host

/-- An answer in the place of a cancellation. -/
def answered {α : Type} : Except QueryError α → Except QueryError α
  | .error .cancelled => .error .indexNotReady
  | result => result

theorem answered_eq_ok {α : Type} {result : Except QueryError α} {a : α}
    (h : answered result = .ok a) : result = .ok a := by
  unfold answered at h
  split at h
  · cases h
  · exact h

theorem answered_ne_cancelled {α : Type} (result : Except QueryError α) :
    answered result ≠ .error .cancelled := by
  -- What took the place of a cancellation is a failure of another kind.
  unfold answered
  split
  · exact fun h => by cases h
  · assumption

theorem answered_of_ne {α : Type} {result : Except QueryError α} (h : result ≠ .error .cancelled) :
    answered result = result := by
  unfold answered
  split
  · exact absurd rfl h
  · rfl

/-- The host with an index that is not ready wherever it cancels. -/
def uncancelled (host : Host) : Host :=
  { host with
    find := fun name => answered (host.find name)
    declaration := fun id => answered (host.declaration id)
    file := fun id => answered (host.file id)
    declarationsIn := fun id => answered (host.declarationsIn id)
    mem_names := fun h => host.mem_names (answered_eq_ok h)
    mem_ids := fun h => host.mem_ids (answered_eq_ok h) }

theorem not_cancels_uncancelled (host : Host) (q : Query) : ¬ host.uncancelled.Cancels q := by
  cases q <;> exact answered_ne_cancelled _

/-- Where a host cancels nothing, replacing cancellations changes nothing. -/
theorem agreesOn_uncancelled {host : Host} {asked : Query → Prop}
    (h : ∀ q, asked q → ¬ host.Cancels q) : host.AgreesOn asked host.uncancelled where
  answer {q} hq := by
    -- A query that is asked is not cancelled, and so its answer stays as it is.
    have hq := h q hq
    cases q <;> exact answered_of_ne hq
  names := rfl
  ids := rfl
  classpath := rfl
  archiveAt := rfl

theorem AgreesOn.refl (host : Host) (asked : Query → Prop) : host.AgreesOn asked host where
  answer {q} _ := by cases q <;> rfl
  names := rfl
  ids := rfl
  classpath := rfl
  archiveAt := rfl

end Host

/-! ## Cancellation is the only failure, and is not swallowed -/

namespace EntryPoint

variable {σ α : Type}

/-- A request returns unless it is cancelled: whatever else fails, it contains. -/
theorem not_isCancelled_iff {x : Except Cancelled α × σ} :
    ¬ IsCancelled x ↔ ∃ a, x.1 = .ok a := by
  obtain ⟨out, s⟩ := x
  cases out with
  | ok a => exact ⟨fun _ => ⟨a, rfl⟩, fun _ => not_false⟩
  | error e => exact ⟨fun h => absurd trivial h, fun ⟨a, ha⟩ => by cases ha⟩

/-- A request relays the cancellation of a host to a host that answers alike. -/
theorem relays_outcome (call : EntryPoint σ α) {scope : Scope} {host' : Host}
    (h : scope.host.AgreesOn (¬ scope.host.Cancels ·) host') (s : σ) :
    Relays (∃ q, scope.host.Cancels q) (call.outcome scope s)
      (call.outcome ⟨host', scope.settings⟩ s) :=
  h.relaysTo.run call s

/-- On a host that cancels nothing a request returns. -/
theorem returns_of_not_cancels (call : EntryPoint σ α) {scope : Scope}
    (h : ∀ q, ¬ scope.host.Cancels q) (s : σ) : ∃ a, (call.outcome scope s).1 = .ok a := by
  -- Relaying to itself, a host without cancellations leaves no cause for one.
  cases call.relays_outcome (.refl scope.host _) s with
  | cancelled hcause _ =>
    obtain ⟨q, hq⟩ := hcause
    exact absurd hq (h q)
  | same _ hnot => exact not_isCancelled_iff.1 hnot

/-- A request that returns would have returned the same whatever the host had answered to the
queries that it cancels. -/
theorem restsOn_not_cancels (call : EntryPoint σ α) {scope : Scope} {s : σ} {a : α}
    (h : (call.outcome scope s).1 = .ok a) :
    call.RestsOn scope s (¬ scope.host.Cancels ·) := by
  intro host' hagrees
  cases call.relays_outcome hagrees s with
  | cancelled _ hx => exact absurd hx (not_isCancelled_iff.2 ⟨a, h⟩)
  | same heq _ => exact heq

/-- Cancellation is the only failure of a request, and it is never swallowed. If the outcome rests
on queries none of which the host cancels, the request returns. If it returns, its outcome rests on
the queries that the host does not cancel. -/
theorem returns_past_no_cancelled (call : EntryPoint σ α) (scope : Scope) (s : σ) :
    (∀ asked : Query → Prop, call.RestsOn scope s asked →
      (∀ q, asked q → ¬ scope.host.Cancels q) → ∃ a, (call.outcome scope s).1 = .ok a) ∧
    ∀ a, (call.outcome scope s).1 = .ok a →
      ∀ host', scope.host.AgreesOn (¬ scope.host.Cancels ·) host' →
        call.outcome ⟨host', scope.settings⟩ s = call.outcome scope s := by
  refine ⟨fun asked hrests hasked => ?_, fun a ha => call.restsOn_not_cancels ha⟩
  -- The outcome rests on queries that are not cancelled, so it is that of the host that cancels
  -- nothing.
  rw [← hrests _ (Host.agreesOn_uncancelled hasked)]
  exact call.returns_of_not_cancels (fun q => scope.host.not_cancels_uncancelled q) s

end EntryPoint

/-! ## A program that cancels some queries -/

namespace Program

/-- The program with some queries cancelled. -/
def interrupted (p : Program) (queries : List Query) : Program :=
  { p with faults := queries.map fun query => (query, .cancelled) }

/-- A consistent program cancels no query. -/
theorem Consistent.not_cancels {p : Program} (h : p.Consistent) (q : Query) :
    ¬ p.toHost.Cancels q := by
  have hanswer {α : Type} (query : Query) (result : Except QueryError α)
      (hq : p.answer query result = .error .cancelled) : result = .error .cancelled := by
    -- Without faults an answer is the result itself, and no result of a program is a cancellation.
    rwa [h.answer] at hq
  intro hq
  cases q with
  | find name => cases hanswer (.find name) (.ok (p.index.get? name)) hq
  | declaration id =>
    have hresult := hanswer (.declaration id) _ hq
    split at hresult <;> cases hresult
  | file id =>
    have hresult := hanswer (.file id) _ hq
    split at hresult <;> cases hresult
  | declarationsIn id => cases hanswer (.declarationsIn id) (.ok (p.idsIn id)) hq

/-- What is not cancelled is answered as before. -/
theorem Consistent.agreesOn_interrupted {p : Program} (h : p.Consistent) (queries : List Query) :
    (p.interrupted queries).toHost.AgreesOn (¬ (p.interrupted queries).toHost.Cancels ·)
      p.toHost := by
  have hfault {query : Query} {e : QueryError}
      (he : (p.interrupted queries).faults.lookup query = some e) : e = .cancelled := by
    -- Every fault of the program is one of the cancelled queries.
    obtain ⟨before, rest, hfaults, _⟩ := List.lookup_eq_some_iff.1 he
    have hmem : (query, e) ∈ (p.interrupted queries).faults := by simp [hfaults]
    obtain ⟨_, _, heq⟩ := List.mem_map.1 hmem
    exact (Prod.mk.inj heq).2.symm
  have hanswer {α : Type} (query : Query) (result : Except QueryError α)
      (hne : (p.interrupted queries).answer query result ≠ .error .cancelled) :
      p.answer query result = (p.interrupted queries).answer query result := by
    have hcancelled : (p.interrupted queries).cancelled = false := h.cancelled
    have hready : (p.interrupted queries).ready = true := h.ready
    rw [h.answer]
    unfold Program.answer at hne ⊢
    rw [hcancelled, hready] at hne ⊢
    cases result with
    -- A result that failed already is not looked up among the faults.
    | error e => rfl
    | ok a =>
      cases hlookup : (p.interrupted queries).faults.lookup query with
      | none => simp
      | some e =>
        rw [hfault hlookup] at hlookup
        exact absurd (by simp [hlookup]) hne
  exact {
    answer := fun {q} hq => by
      cases q with
      | find name => exact hanswer (.find name) (.ok (p.index.get? name)) hq
      | declaration id => exact hanswer (.declaration id) _ hq
      | file id => exact hanswer (.file id) _ hq
      | declarationsIn id => exact hanswer (.declarationsIn id) (.ok (p.idsIn id)) hq
    names := rfl
    ids := rfl
    classpath := rfl
    archiveAt := rfl }

end Program

namespace EntryPoint

/-- No file can be read before the requests are cancelled. A declaration is found all the same, and
the origin of a class is told as if no query were cancelled. -/
theorem returns_past_no_cancelled_generatedFoo :
    let p := Program.generatedFoo
    let scope := (p.interrupted [.file ⟨0⟩, .file ⟨1⟩]).scope
    let start : Session := ⟨{}, {}⟩
    let find := question (.findDeclaration "a.Foo")
    let origin := question (.prototypeOf "a.Foo")
    scope.host.Cancels (.file ⟨1⟩) ∧
      find.RestsOn scope start (· = .find "a.Foo") ∧ ¬ scope.host.Cancels (.find "a.Foo") ∧
      (∃ a, (find.outcome scope start).1 = .ok a) ∧
      (origin.outcome scope start).1 = .ok (.name (some "a.FooPrototype")) ∧
      scope.host.AgreesOn (¬ scope.host.Cancels ·) p.toHost ∧
      origin.outcome p.scope start = origin.outcome scope start := by
  intro p scope start find origin
  have hrests : find.RestsOn scope start (· = .find "a.Foo") := by
    intro host' hagrees
    have hfind : host'.find "a.Foo" = scope.host.find "a.Foo" :=
      hagrees.answer (q := .find "a.Foo") rfl
    show (Question.reply ⟨host', {}⟩ (.findDeclaration "a.Foo")) start = _
    simp only [Question.reply, Request.findDeclaration, hfind]
    rfl
  have hfind : ¬ scope.host.Cancels (.find "a.Foo") := fun hcancels => by cases hcancels
  have horigin : (origin.outcome scope start).1 = .ok (.name (some "a.FooPrototype")) := rfl
  have hagrees := Program.consistent_generatedFoo.agreesOn_interrupted [.file ⟨0⟩, .file ⟨1⟩]
  refine ⟨rfl, hrests, hfind, ?_, horigin, hagrees, ?_⟩
  · refine (returns_past_no_cancelled find scope start).1 _ hrests fun q hq => ?_
    rw [hq]
    exact hfind
  · exact (returns_past_no_cancelled origin scope start).2 _ horigin _ hagrees

end EntryPoint

end PrototypeLens
