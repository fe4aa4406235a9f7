import Mathlib.Data.Nat.Find
import PrototypeLens.Proofs.Walk.Closure
import PrototypeLens.Proofs.Walk.Mapping

/-!
# Walks go from near to far

A walk without a goal asks for the nodes in the order of their distances from where it starts. What
it still has to come to lies on at most two levels, the nearer one first; so a node that it comes to
for the first time is as near as it can be.

## Layers

- `Leads` and `Distance`: paths of so many edges, and the shortest of them.
- `Frontier`: the invariant, which is about the queue with the levels of its nodes. Both steps of a
  walk keep it, by `Frontier.skip` and `Frontier.visit`.
- `Stops`: what a walk finds, each with its distance.

## Main results

- `Frontier.distance`: the first node in the queue is come to by a shortest path.
- `walk_stops`: a walk finds what paths lead to, in the order of the distances.
- `walk_arrived_iff_leads`: it arrives exactly if a path leads to a goal.
-/

namespace PrototypeLens

namespace Graph

/-! ## Distances -/

section Distance

variable {ε κ α : Type} (g : Graph ε κ α) (starts : List κ)

/-- A path of a number of edges leads from a start to a node. -/
inductive Leads : Nat → κ → Prop
  | start {n : κ} : n ∈ starts → Leads 0 n
  | step {k : Nat} {n m : κ} {a : α} {next : List κ} :
      Leads k n → g.expand n = .ok (some (a, next)) → m ∈ next → Leads (k + 1) m

/-- The number of edges on a shortest path from a start to a node. -/
structure Distance (k : Nat) (n : κ) : Prop where
  leads : g.Leads starts k n
  least {j : Nat} : g.Leads starts j n → k ≤ j

variable {g starts}

theorem Distance.unique {j k : Nat} {n : κ} (h : g.Distance starts j n)
    (h' : g.Distance starts k n) : j = k :=
  Nat.le_antisymm (h.least h'.leads) (h'.least h.leads)

/-- A node that a path leads to has a distance. -/
theorem Leads.exists_distance {k : Nat} {n : κ} (h : g.Leads starts k n) :
    ∃ j, j ≤ k ∧ g.Distance starts j n := by
  classical
  have hex : ∃ j, g.Leads starts j n := ⟨k, h⟩
  exact ⟨Nat.find hex, Nat.find_min' hex h, Nat.find_spec hex, fun hj => Nat.find_min' hex hj⟩

end Distance

/-! ## What a walk has before it -/

section Frontier

variable {ε κ α : Type} {g : Graph ε κ α} {starts seen : List κ} {k : Nat} {n : κ}
  {rest : List (Nat × κ)}

/-- What a walk that came to the nodes of `seen` still has to come to, each with the length of the
path by which it is known. -/
structure Frontier (g : Graph ε κ α) (starts seen : List κ) (queue : List (Nat × κ)) : Prop where
  sorted : queue.Pairwise fun p q => p.1 ≤ q.1
  /-- No two paths differ in length by more than one edge. -/
  narrow {p q : Nat × κ} : p ∈ queue → q ∈ queue → p.1 ≤ q.1 + 1
  leads {p : Nat × κ} : p ∈ queue → g.Leads starts p.1 p.2
  started {m : κ} : m ∈ starts → m ∈ seen ∨ (0, m) ∈ queue
  /-- What lies behind a node that was come to is queued with a path that is as short as any by way
  of that node, if it was not come to itself. -/
  closed {j : Nat} {m : κ} {a : α} {next : List κ} : m ∈ seen → g.Leads starts j m →
    g.expand m = .ok (some (a, next)) →
    ∀ m' ∈ next, m' ∈ seen ∨ ∃ p ∈ queue, p.2 = m' ∧ p.1 ≤ j + 1

namespace Frontier

theorem init (g : Graph ε κ α) (starts : List κ) :
    g.Frontier starts [] (starts.map fun n => (0, n)) where
  sorted := List.pairwise_map.2 (List.pairwise_of_forall (by simp))
  narrow hp hq := by
    obtain ⟨_, _, rfl⟩ := List.mem_map.1 hp
    exact Nat.zero_le _
  leads hp := by
    obtain ⟨m, hm, rfl⟩ := List.mem_map.1 hp
    exact .start hm
  started hm := .inr (List.mem_map_of_mem hm)
  closed hm := nomatch hm

/-- A path to a node that was not come to is not shorter than the first one in the queue. -/
theorem exists_le {queue : List (Nat × κ)} (h : g.Frontier starts seen queue)
    (hleads : g.Leads starts k n) (hn : n ∉ seen) : ∃ p ∈ queue, p.1 ≤ k := by
  -- The induction is on the path, to find the edge by which it leaves what was come to.
  induction hleads with
  | start hstart => exact ⟨_, (h.started hstart).resolve_left hn, Nat.le_refl 0⟩
  | @step k m n a next hleads hexpand hmem ih =>
    -- The path leaves what was come to with its last edge, or did so before.
    by_cases hm : m ∈ seen
    · obtain ⟨p, hp, _, hle⟩ := (h.closed hm hleads hexpand n hmem).resolve_left hn
      exact ⟨p, hp, hle⟩
    · obtain ⟨p, hp, hle⟩ := ih hm
      exact ⟨p, hp, Nat.le_succ_of_le hle⟩

theorem first_le (h : g.Frontier starts seen ((k, n) :: rest)) {p : Nat × κ}
    (hp : p ∈ (k, n) :: rest) : k ≤ p.1 := by
  rcases List.mem_cons.1 hp with rfl | hp
  · exact Nat.le_refl _
  · exact (List.pairwise_cons.1 h.sorted).1 p hp

/-- The first node in the queue is come to by a shortest path. -/
theorem distance (h : g.Frontier starts seen ((k, n) :: rest)) (hn : n ∉ seen) :
    g.Distance starts k n where
  leads := h.leads List.mem_cons_self
  least hj := by
    obtain ⟨p, hp, hle⟩ := h.exists_le hj hn
    exact Nat.le_trans (h.first_le hp) hle

/-- A node that was come to before is passed over. -/
theorem skip (h : g.Frontier starts seen ((k, n) :: rest)) (hn : n ∈ seen) :
    g.Frontier starts seen rest where
  sorted := (List.pairwise_cons.1 h.sorted).2
  narrow hp hq := h.narrow (List.mem_cons_of_mem _ hp) (List.mem_cons_of_mem _ hq)
  leads hp := h.leads (List.mem_cons_of_mem _ hp)
  started hm := by
    rcases h.started hm with hseen | hqueue
    · exact .inl hseen
    · rcases List.mem_cons.1 hqueue with heq | hqueue
      · cases heq
        exact .inl hn
      · exact .inr hqueue
  closed hm hleads hexpand m' hm' := by
    rcases h.closed hm hleads hexpand m' hm' with hseen | ⟨p, hp, rfl, hle⟩
    · exact .inl hseen
    · rcases List.mem_cons.1 hp with rfl | hp
      · exact .inl hn
      · exact .inr ⟨p, hp, rfl, hle⟩

/-- The node that is come to puts its neighbours behind the others, which are not farther. -/
theorem visit (h : g.Frontier starts seen ((k, n) :: rest)) (hn : n ∉ seen) {next : List κ}
    (hnext : ∀ m ∈ next, g.Leads starts (k + 1) m)
    (hall : ∀ a next', g.expand n = .ok (some (a, next')) → next' ⊆ next) :
    g.Frontier starts (n :: seen) (rest ++ next.map fun m => (k + 1, m)) := by
  -- All of the queue lies on the level of the node or on the next one.
  have hnear {p : Nat × κ} (hp : p ∈ rest) : k ≤ p.1 ∧ p.1 ≤ k + 1 :=
    ⟨h.first_le (List.mem_cons_of_mem _ hp),
      h.narrow (List.mem_cons_of_mem _ hp) List.mem_cons_self⟩
  have hlevel {p : Nat × κ} (hp : p ∈ rest ++ next.map fun m => (k + 1, m)) :
      k ≤ p.1 ∧ p.1 ≤ k + 1 := by
    rcases List.mem_append.1 hp with hp | hp
    · exact hnear hp
    · obtain ⟨_, _, rfl⟩ := List.mem_map.1 hp
      exact ⟨Nat.le_succ k, Nat.le_refl _⟩
  -- What was queued stays so, or is the node itself.
  have hkept {p : Nat × κ} (hp : p ∈ (k, n) :: rest) :
      p.2 ∈ n :: seen ∨ p ∈ rest ++ next.map fun m => (k + 1, m) := by
    rcases List.mem_cons.1 hp with rfl | hp
    · exact .inl List.mem_cons_self
    · exact .inr (List.mem_append_left _ hp)
  constructor
  case sorted =>
    refine List.pairwise_append.2 ⟨(List.pairwise_cons.1 h.sorted).2,
      List.pairwise_map.2 (List.pairwise_of_forall (by simp)), fun p hp q hq => ?_⟩
    obtain ⟨_, _, rfl⟩ := List.mem_map.1 hq
    exact (hnear hp).2
  case narrow => exact fun hp hq => by have := (hlevel hp).2; have := (hlevel hq).1; omega
  case leads =>
    intro p hp
    rcases List.mem_append.1 hp with hp | hp
    · exact h.leads (List.mem_cons_of_mem _ hp)
    · obtain ⟨m, hm, rfl⟩ := List.mem_map.1 hp
      exact hnext m hm
  case started =>
    intro m hm
    rcases h.started hm with hseen | hqueue
    · exact .inl (List.mem_cons_of_mem _ hseen)
    · exact hkept hqueue
  case closed =>
    intro j m a next' hm hleads hexpand m' hm'
    -- Of the node itself all neighbours are queued; of the others they were queued or come to
    -- before.
    rcases List.mem_cons.1 hm with rfl | hm
    · refine .inr ⟨(k + 1, m'), ?_, rfl, Nat.succ_le_succ ((h.distance hn).least hleads)⟩
      exact List.mem_append_right _ (List.mem_map_of_mem (hall a next' hexpand hm'))
    · rcases h.closed hm hleads hexpand m' hm' with hseen | ⟨p, hp, rfl, hle⟩
      · exact .inl (List.mem_cons_of_mem _ hseen)
      · exact (hkept hp).imp_right fun hp => ⟨p, hp, rfl, hle⟩

end Frontier

end Frontier

/-! ## What a walk finds -/

section Stops

variable {ε κ α : Type} {g : Graph ε κ α} {starts seen : List κ} {k : Nat} {n : κ}
  {found : List α} {stops : List (Nat × α)}

/-- What a walk that came to the nodes of `seen` finds from there on, each with the distance of a
node that holds it. -/
structure Stops (g : Graph ε κ α) (starts seen : List κ) (found : List α)
    (stops : List (Nat × α)) : Prop where
  found_eq : stops.map Prod.snd = found
  sorted : stops.Pairwise fun p q => p.1 ≤ q.1
  mem_iff {k : Nat} {a : α} : (k, a) ∈ stops ↔
    ∃ n next, n ∉ seen ∧ g.Distance starts k n ∧ g.expand n = .ok (some (a, next))

namespace Stops

/-- A node that is not there is no stop. -/
theorem pass (h : g.Stops starts (n :: seen) found stops) (hexpand : g.expand n = .ok none) :
    g.Stops starts seen found stops where
  found_eq := h.found_eq
  sorted := h.sorted
  mem_iff {k a} := by
    rw [h.mem_iff]
    refine exists₂_congr fun m next => and_congr_left fun ⟨_, hm⟩ => ?_
    -- The node that is not there holds nothing, and so it is another one.
    have hne : m ≠ n := by
      rintro rfl
      cases hexpand.symm.trans hm
    simp [hne]

/-- A node that is there is a stop before all that come later. -/
theorem cons (h : g.Stops starts (n :: seen) found stops) {a : α} {next : List κ}
    (hexpand : g.expand n = .ok (some (a, next))) (hn : n ∉ seen) (hdist : g.Distance starts k n)
    (hle : ∀ p ∈ stops, k ≤ p.1) : g.Stops starts seen (a :: found) ((k, a) :: stops) where
  found_eq := by rw [List.map_cons, h.found_eq]
  sorted := List.pairwise_cons.2 ⟨hle, h.sorted⟩
  mem_iff {j b} := by
    rw [List.mem_cons, h.mem_iff]
    constructor
    · rintro (heq | ⟨m, next', hm, hrest⟩)
      · cases heq
        exact ⟨n, next, hn, hdist, hexpand⟩
      · exact ⟨m, next', fun hseen => hm (List.mem_cons_of_mem _ hseen), hrest⟩
    · rintro ⟨m, next', hm, hdist', hexpand'⟩
      -- What the node holds is found at its own distance, of which there is one only.
      by_cases hmn : m = n
      · subst hmn
        cases hexpand.symm.trans hexpand'
        exact .inl (by rw [hdist.unique hdist'])
      · exact .inr ⟨m, next', by simp [hmn, hm], hdist', hexpand'⟩

end Stops

end Stops

variable {ε κ α : Type} [DecidableEq κ] {g : Graph ε κ α} {starts : List κ}

/-- What is left of a walk finds what the nodes hold that were not come to, near ones first. -/
theorem walkFrom_stops {goal : κ → Bool} (hgoal : ∀ n, goal n = false) (seen queue : List κ) :
    ∀ journey, g.walkFrom goal seen queue = .ok journey → ∀ levels : List (Nat × κ),
      levels.map Prod.snd = queue → g.Frontier starts seen levels →
      ∃ stops, g.Stops starts seen journey.found stops := by
  -- The levels of the queue are known to the proof alone; the walk sees the nodes.
  fun_induction walkFrom g goal seen queue with
  | case1 seen =>
    intro journey h levels hlevels hfront
    cases h
    obtain rfl := List.map_eq_nil_iff.1 hlevels
    refine ⟨[], rfl, .nil, fun {k a} => iff_of_false List.not_mem_nil ?_⟩
    -- With an empty queue there is nothing left to come to.
    rintro ⟨n, next, hn, hdist, _⟩
    obtain ⟨p, hp, _⟩ := hfront.exists_le hdist.leads hn
    cases hp
  | case2 seen n rest hn ih =>
    intro journey h levels hlevels hfront
    obtain ⟨⟨k, n⟩, levels, rfl, rfl, rfl⟩ := List.map_eq_cons_iff.1 hlevels
    exact ih journey h levels rfl (hfront.skip hn)
  | case3 seen n rest hn hg => exact absurd hg (by simp [hgoal])
  | case4 seen n rest hn hg e hexpand => exact fun journey h => by cases h
  | case5 seen n rest hn hg hexpand ih =>
    intro journey h levels hlevels hfront
    obtain ⟨⟨k, n⟩, levels, rfl, rfl, rfl⟩ := List.map_eq_cons_iff.1 hlevels
    have hfront' : g.Frontier starts (n :: seen) (levels ++ [].map fun m => (k + 1, m)) :=
      hfront.visit hn (List.forall_mem_nil _) fun a next' h => by cases hexpand.symm.trans h
    obtain ⟨stops, hstops⟩ := ih journey h levels rfl (by simpa using hfront')
    exact ⟨stops, hstops.pass hexpand⟩
  | case6 seen n rest hn hg a next hexpand ih =>
    intro journey h levels hlevels hfront
    obtain ⟨⟨k, n⟩, levels, rfl, rfl, rfl⟩ := List.map_eq_cons_iff.1 hlevels
    have hdist := hfront.distance hn
    have hfront' : g.Frontier starts (n :: seen) (levels ++ next.map fun m => (k + 1, m)) :=
      hfront.visit hn (fun m hm => .step hdist.leads hexpand hm) fun b next' h => by
        cases hexpand.symm.trans h
        exact List.Subset.refl _
    cases hrest : g.walkFrom goal (n :: seen) (levels.map Prod.snd ++ next) with
    | error e =>
      rw [hrest] at h
      cases h
    | ok rest' =>
      rw [hrest] at h
      cases h
      obtain ⟨stops, hstops⟩ := ih rest' hrest _ (by simp [Function.comp_def]) hfront'
      refine ⟨(k, a) :: stops, hstops.cons hexpand hn hdist fun p hp => ?_⟩
      -- What is found later lies behind the queue, and nothing there is nearer than the node.
      obtain ⟨m, _, hm, hdist', _⟩ := hstops.mem_iff.1 hp
      obtain ⟨q, hq, hle⟩ := hfront'.exists_le hdist'.leads hm
      refine Nat.le_trans ?_ hle
      rcases List.mem_append.1 hq with hq | hq
      · exact hfront.first_le (List.mem_cons_of_mem _ hq)
      · obtain ⟨_, _, rfl⟩ := List.mem_map.1 hq
        exact Nat.le_succ k

/-- A walk finds what the nodes hold that a path leads to, in the order of their distances. -/
theorem walk_stops {journey : Journey κ α} (h : g.walk starts = .ok journey) :
    ∃ stops, g.Stops starts [] journey.found stops :=
  walkFrom_stops (fun _ => rfl) [] starts journey h _ (by simp [Function.comp_def])
    (.init g starts)

/-- A walk finds what the nodes hold that a path leads to. -/
theorem mem_found_iff {journey : Journey κ α} (h : g.walk starts = .ok journey) {a : α} :
    a ∈ journey.found ↔
      ∃ n, (∃ k, g.Leads starts k n) ∧ ∃ next, g.expand n = .ok (some (a, next)) := by
  obtain ⟨stops, hstops⟩ := walk_stops h
  rw [← hstops.found_eq, List.mem_map]
  constructor
  · rintro ⟨⟨k, a⟩, hmem, rfl⟩
    obtain ⟨n, next, _, hdist, hexpand⟩ := hstops.mem_iff.1 hmem
    exact ⟨n, ⟨k, hdist.leads⟩, next, hexpand⟩
  · rintro ⟨n, ⟨k, hleads⟩, next, hexpand⟩
    obtain ⟨j, _, hdist⟩ := hleads.exists_distance
    exact ⟨(j, a), hstops.mem_iff.2 ⟨n, next, List.not_mem_nil, hdist, hexpand⟩, rfl⟩

/-! ## Where a walk arrives -/

/-- A walk arrives exactly if a path leads from a start to a goal. -/
theorem walk_arrived_iff_leads {goal : κ → Bool} {journey : Journey κ α}
    (h : g.walk starts goal = .ok journey) :
    journey.arrived = true ↔ ∃ n, goal n = true ∧ ∃ k, g.Leads starts k n := by
  constructor
  · intro harrived
    -- The nodes that paths lead to are a set that no edge leaves, and so the walk stays in it.
    have hedges (m : κ) (a : α) (next : List κ) (hm : ∃ k, g.Leads starts k m)
        (hexpand : g.expand m = .ok (some (a, next))) : ∀ m' ∈ next, ∃ k, g.Leads starts k m' := by
      obtain ⟨k, hk⟩ := hm
      exact fun m' hm' => ⟨k + 1, .step hk hexpand hm'⟩
    obtain ⟨n, hn, hgoal⟩ := (walk_arrived_iff h).1 harrived
    exact ⟨n, hgoal, walkFrom_within [] starts hedges journey h (fun _ hm => nomatch hm)
      (fun m hm => ⟨0, .start hm⟩) n hn⟩
  · rintro ⟨n, hgoal, k, hk⟩
    cases hmissed : journey.arrived with
    | true => rfl
    | false =>
      -- A walk that missed all goals came to everything that a path leads to.
      obtain ⟨hstarts, hclosed⟩ :=
        walkFrom_closed [] starts journey h hmissed fun _ hm => nomatch hm
      have hseen : n ∈ journey.seen := by
        clear hgoal
        induction hk with
        | start hstart => exact hstarts hstart
        | step _ hexpand hm ih => exact hclosed _ ih _ _ hexpand hm
      exact hmissed ▸ (walk_arrived_iff h).2 ⟨n, hseen, hgoal⟩

end Graph

end PrototypeLens
