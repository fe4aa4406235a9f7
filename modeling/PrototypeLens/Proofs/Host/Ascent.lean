import PrototypeLens.Proofs.Host.Health
import PrototypeLens.Proofs.Walk.Distance

/-!
# Going up from a declaration

The declared types that lie some steps above a declaration, by the types that declarations mention.
A walk over a type graph finds all of them and nothing else, and those first that lie the fewest
steps above where it starts.

## Layers

- `Ascends`: so many steps up, over the declarations themselves.
- `upperGraph` and `ascends_succ_iff`: the same steps as edges of the graph that is walked.
- `Ascents`: what a list of declarations with their distances has to be.

## Main results

- `Findable.exists_ascents`: the walk up from any declaration ends with such a list.
-/

namespace PrototypeLens

namespace Host

/-- So many steps lead up from a declaration to another one. Each goes to a declared type that the
declaration before mentions and that is admitted. -/
inductive Ascends (host : Host) (mentioned : Declaration → List String)
    (admitted : Declaration → Bool) (start : Declaration) : Nat → Declaration → Prop
  | refl : Ascends host mentioned admitted start 0 start
  | step {k : Nat} {decl upper : Declaration} {name : String} :
      Ascends host mentioned admitted start k decl → name ∈ mentioned decl →
      host.Declares name upper → admitted upper = true →
      Ascends host mentioned admitted start (k + 1) upper

/-- Declarations, each with the number of steps that it lies above another one: those with fewer
steps first, none with a number of steps that do not lead there, and each with as few as there
are. -/
structure Ascents (host : Host) (mentioned : Declaration → List String)
    (admitted : Declaration → Bool) (start : Declaration) (stops : List (Nat × Declaration)) :
    Prop where
  sorted : stops.Pairwise fun p q => p.1 ≤ q.1
  sound {k : Nat} {upper : Declaration} : (k, upper) ∈ stops →
    0 < k ∧ host.Ascends mentioned admitted start k upper
  complete {k : Nat} {upper : Declaration} : 0 < k →
    host.Ascends mentioned admitted start k upper → ∃ j, j ≤ k ∧ (j, upper) ∈ stops

/-! ## Type graphs -/

section TypeGraph

variable {host : Host} {mentioned : Declaration → List String} {admitted : Declaration → Bool}
  {start upper : Declaration} {name : String} {next : List String}

theorem expand_typeGraph_eq_some_iff {neighbours : Declaration → Option (List String)} :
    (host.typeGraph neighbours).expand name = .ok (some (upper, next)) ↔
      host.Declares name upper ∧ neighbours upper = some next := by
  simp only [typeGraph, Declares]
  -- A name leads somewhere only if it is found; what it leads to is up to the declaration.
  cases host.findData name with
  | error e => simp [Except.map]
  | ok entry =>
    cases entry with
    | none => simp [Except.map]
    | some entry =>
      simp only [Except.map, Option.bind_some, Except.ok.injEq, Option.map_eq_some_iff,
        Option.some.injEq, Prod.mk.injEq]
      constructor
      · rintro ⟨next', hnext, rfl, rfl⟩
        exact ⟨⟨entry.1, rfl⟩, hnext⟩
      · rintro ⟨⟨id, rfl⟩, hnext⟩
        exact ⟨next, hnext, rfl, rfl⟩

/-- The declared types that are admitted, with the types that they mention. -/
abbrev upperGraph (host : Host) (mentioned : Declaration → List String)
    (admitted : Declaration → Bool) : Graph QueryError String Declaration :=
  host.typeGraph fun decl => if admitted decl then some (mentioned decl) else none

theorem expand_upperGraph_iff :
    (host.upperGraph mentioned admitted).expand name = .ok (some (upper, next)) ↔
      host.Declares name upper ∧ admitted upper = true ∧ next = mentioned upper := by
  rw [expand_typeGraph_eq_some_iff]
  refine and_congr_right fun _ => ?_
  cases admitted upper <;> simp [eq_comm]

/-- The steps up from a declaration are the edges behind the types that it mentions. -/
theorem ascends_succ_iff {k : Nat} : host.Ascends mentioned admitted start (k + 1) upper ↔
    ∃ name, (host.upperGraph mentioned admitted).Leads (mentioned start) k name ∧
      host.Declares name upper ∧ admitted upper = true := by
  constructor
  · intro h
    -- The induction is on the number of steps: the last one is taken off, and what it starts from
    -- is above by the first ones.
    induction k generalizing upper with
    | zero =>
      obtain _ | ⟨h, hname, hdecl, hadmitted⟩ := h
      cases h
      exact ⟨_, .start hname, hdecl, hadmitted⟩
    | succ k ih =>
      obtain _ | ⟨h, hname, hdecl, hadmitted⟩ := h
      obtain ⟨name, hleads, hdecl', hadmitted'⟩ := ih h
      exact ⟨_, .step hleads (expand_upperGraph_iff.2 ⟨hdecl', hadmitted', rfl⟩) hname, hdecl,
        hadmitted⟩
  · rintro ⟨name, hleads, hdecl, hadmitted⟩
    -- The same along the way through the graph, whose nodes are names.
    induction hleads generalizing upper with
    | start hname => exact .step .refl hname hdecl hadmitted
    | step _ hexpand hname ih =>
      obtain ⟨hdecl', hadmitted', rfl⟩ := expand_upperGraph_iff.1 hexpand
      exact .step (ih hdecl' hadmitted') hname hdecl hadmitted

theorem Findable.typeGraph_walk_ok (h : host.Findable)
    (neighbours : Declaration → Option (List String)) (starts : List String)
    (goal : String → Bool) :
    ∃ journey, (host.typeGraph neighbours).walk starts goal = .ok journey := by
  refine Graph.walk_ok (fun name => ?_) starts goal
  obtain ⟨entry, hentry⟩ := h name
  simp only [typeGraph, hentry, Except.map]
  exact ⟨_, rfl⟩

/-- A walk up from a declaration ends, and finds what lies above the declaration, near types
first. -/
theorem Findable.exists_ascents (h : host.Findable) (mentioned : Declaration → List String)
    (admitted : Declaration → Bool) (start : Declaration) :
    ∃ journey stops, (host.upperGraph mentioned admitted).walk (mentioned start) = .ok journey ∧
      stops.map Prod.snd = journey.found ∧ host.Ascents mentioned admitted start stops := by
  obtain ⟨journey, hjourney⟩ := h.typeGraph_walk_ok
    (fun decl => if admitted decl then some (mentioned decl) else none) (mentioned start)
    fun _ => false
  obtain ⟨stops, hstops⟩ := Graph.walk_stops hjourney
  -- The first step leads to where the walk starts.
  refine ⟨journey, stops.map fun stop => (stop.1 + 1, stop.2), hjourney, ?_, ?_, ?_, ?_⟩
  · rw [← hstops.found_eq, List.map_map]
    rfl
  · exact List.pairwise_map.2 (hstops.sorted.imp Nat.succ_le_succ)
  · intro k upper hmem
    obtain ⟨⟨j, _⟩, hstop, heq⟩ := List.mem_map.1 hmem
    cases heq
    obtain ⟨name, next, _, hdist, hexpand⟩ := hstops.mem_iff.1 hstop
    obtain ⟨hdecl, hadmitted, _⟩ := expand_upperGraph_iff.1 hexpand
    exact ⟨Nat.succ_pos j, ascends_succ_iff.2 ⟨name, hdist.leads, hdecl, hadmitted⟩⟩
  · -- What lies so many steps above is stopped at after at most as many.
    intro k upper hk hascends
    obtain ⟨k, rfl⟩ := Nat.exists_eq_succ_of_ne_zero (Nat.ne_of_gt hk)
    obtain ⟨name, hleads, hdecl, hadmitted⟩ := ascends_succ_iff.1 hascends
    obtain ⟨j, hle, hdist⟩ := hleads.exists_distance
    have hstop : (j, upper) ∈ stops := hstops.mem_iff.2
      ⟨name, _, List.not_mem_nil, hdist, expand_upperGraph_iff.2 ⟨hdecl, hadmitted, rfl⟩⟩
    exact ⟨j + 1, Nat.succ_le_succ hle, List.mem_map.2 ⟨_, hstop, rfl⟩⟩

end TypeGraph

end Host

end PrototypeLens
