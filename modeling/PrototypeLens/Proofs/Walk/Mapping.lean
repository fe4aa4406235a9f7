import PrototypeLens.Walk

/-!
# Walks and what the nodes hold

Where a walk goes does not depend on what the nodes hold. A walk does not fail where the nodes that
it may come to can be asked for. It asks for each of them once, and finds what they hold.

## Layers

- `walkFrom_nil`, `walkFrom_of_mem` and `walkFrom_cons`: the equations of the walk.
- `MapsTo` and `Visits`: another graph with the same edges, and the nodes that were visited.

## Main results

- `walk_map`: mapping what the nodes hold maps what is found, and nothing else.
- `walk_ok`: a walk does not fail where no node does.
- `walk_visits`: it asks for each node once.
-/

namespace PrototypeLens

namespace Graph

variable {ε κ α β : Type} [DecidableEq κ] {g : Graph ε κ α}

/-- The nodes of the second graph hold the images of what those of the first one hold. -/
def MapsTo (g : Graph ε κ α) (f : α → β) (g' : Graph ε κ β) : Prop :=
  ∀ n, g'.expand n = (g.expand n).map (Option.map fun (a, next) => (f a, next))

@[simp]
theorem walkFrom_nil (goal : κ → Bool) (seen : List κ) :
    g.walkFrom goal seen [] = .ok ⟨false, [], seen⟩ := by
  rw [walkFrom]

/-- A node that was come to before is passed over. -/
theorem walkFrom_of_mem (goal : κ → Bool) {seen : List κ} {n : κ} (hn : n ∈ seen) (rest : List κ) :
    g.walkFrom goal seen (n :: rest) = g.walkFrom goal seen rest := by
  rw [walkFrom, dif_pos hn]

/-- A node that is come to for the first time and is no goal decides how the walk goes on. -/
theorem walkFrom_cons {goal : κ → Bool} {seen : List κ} {n : κ} (hn : n ∉ seen)
    (hg : ¬ goal n = true) (rest : List κ) :
    g.walkFrom goal seen (n :: rest) = match g.expand n with
      | .error e => .error e
      | .ok none => g.walkFrom goal (n :: seen) rest
      | .ok (some (a, next)) =>
        (g.walkFrom goal (n :: seen) (rest ++ next)).map fun journey =>
          { journey with found := a :: journey.found } := by
  rw [walkFrom, dif_neg hn, if_neg hg]
  split <;> simp only [*]

theorem walkFrom_map {f : α → β} {g' : Graph ε κ β} (h : g.MapsTo f g') (goal : κ → Bool)
    (seen queue : List κ) :
    g'.walkFrom goal seen queue = (g.walkFrom goal seen queue).map fun journey =>
      ⟨journey.arrived, journey.found.map f, journey.seen⟩ := by
  -- Both walks take the same steps, so the cases are those of the first one.
  fun_induction walkFrom g goal seen queue with
  | case1 seen =>
    rw [walkFrom_nil]
    rfl
  | case2 seen n rest hn ih => rw [walkFrom_of_mem goal hn, ih]
  | case3 seen n rest hn hg =>
    rw [walkFrom, dif_neg hn, if_pos hg]
    rfl
  | case4 seen n rest hn hg e hexpand =>
    rw [walkFrom_cons hn hg, h, hexpand]
    rfl
  | case5 seen n rest hn hg hexpand ih =>
    rw [walkFrom_cons hn hg, h, hexpand]
    exact ih
  | case6 seen n rest hn hg a next hexpand ih =>
    rw [walkFrom_cons hn hg, h, hexpand]
    simp only [Except.map, Option.map_some]
    rw [ih]
    cases g.walkFrom goal (n :: seen) (rest ++ next) <;> rfl

theorem walk_map {f : α → β} {g' : Graph ε κ β} (h : g.MapsTo f g') (starts : List κ) :
    g'.walk starts = (g.walk starts).map fun journey =>
      ⟨journey.arrived, journey.found.map f, journey.seen⟩ :=
  walkFrom_map h _ [] starts

/-- What is left of a walk does not fail where no node does that it may come to. -/
theorem walkFrom_ok {among : κ → Prop} (h : ∀ n, among n → ∃ a, g.expand n = .ok a)
    (hedges : ∀ n a next, among n → g.expand n = .ok (some (a, next)) → ∀ m ∈ next, among m)
    (goal : κ → Bool) (seen queue : List κ) :
    (∀ n ∈ queue, among n) → ∃ journey, g.walkFrom goal seen queue = .ok journey := by
  -- The property is that of every node that is queued; edges do not leave it.
  fun_induction walkFrom g goal seen queue with
  | case1 seen => exact fun _ => ⟨_, rfl⟩
  | case2 seen n rest hn ih => exact fun hqueue => ih (List.forall_mem_cons.1 hqueue).2
  | case3 seen n rest hn hg => exact fun _ => ⟨_, rfl⟩
  | case4 seen n rest hn hg e hexpand =>
    intro hqueue
    obtain ⟨a, hok⟩ := h n (List.forall_mem_cons.1 hqueue).1
    cases hexpand.symm.trans hok
  | case5 seen n rest hn hg hexpand ih => exact fun hqueue => ih (List.forall_mem_cons.1 hqueue).2
  | case6 seen n rest hn hg a next hexpand ih =>
    intro hqueue
    obtain ⟨hfirst, hrest⟩ := List.forall_mem_cons.1 hqueue
    obtain ⟨journey, hjourney⟩ :=
      ih (List.forall_mem_append.2 ⟨hrest, hedges n a next hfirst hexpand⟩)
    exact ⟨{ journey with found := a :: journey.found }, by rw [hjourney]; rfl⟩

/-- A walk does not fail where no node does. -/
theorem walk_ok (h : ∀ n, ∃ a, g.expand n = .ok a) (starts : List κ) (goal : κ → Bool) :
    ∃ journey, g.walk starts goal = .ok journey :=
  walkFrom_ok (fun n _ => h n) (fun _ _ _ _ _ _ _ => trivial) goal [] starts fun _ _ => trivial

/-- The nodes that were come to and are there, in order, with what they hold. None of them was come
to before. -/
structure Visits (g : Graph ε κ α) (seen : List κ) (found : List α) (visits : List (κ × α)) :
    Prop where
  found_eq : visits.map Prod.snd = found
  nodup : (visits.map Prod.fst).Nodup
  fresh {n : κ} {a : α} : (n, a) ∈ visits → n ∉ seen
  held {n : κ} {a : α} : (n, a) ∈ visits → ∃ next, g.expand n = .ok (some (a, next))

/-- What is left of a walk asks for each node once, and for none that was come to before. -/
theorem walkFrom_visits {goal : κ → Bool} (seen queue : List κ) :
    ∀ journey, g.walkFrom goal seen queue = .ok journey →
      ∃ visits, g.Visits seen journey.found visits := by
  -- Without a node that is there nothing is visited.
  have hnone (seen : List κ) : g.Visits seen [] [] := ⟨rfl, .nil, nofun, nofun⟩
  fun_induction walkFrom g goal seen queue with
  | case1 seen =>
    intro journey h
    cases h
    exact ⟨[], hnone seen⟩
  | case2 seen n rest hn ih => exact ih
  | case3 seen n rest hn hg =>
    intro journey h
    cases h
    exact ⟨[], hnone seen⟩
  | case4 seen n rest hn hg e hexpand => exact fun journey h => by cases h
  | case5 seen n rest hn hg hexpand ih =>
    -- A node that is not there is no visit, but what comes later is not that node either.
    intro journey h
    obtain ⟨visits, hvisits⟩ := ih journey h
    exact ⟨visits, { hvisits with
      fresh := fun hmem hseen => hvisits.fresh hmem (List.mem_cons_of_mem _ hseen) }⟩
  | case6 seen n rest hn hg held next hexpand ih =>
    intro journey h
    cases hjourney : g.walkFrom goal (n :: seen) (rest ++ next) with
    | error e =>
      rw [hjourney] at h
      cases h
    | ok journey' =>
      rw [hjourney] at h
      cases h
      obtain ⟨visits, hvisits⟩ := ih journey' hjourney
      refine ⟨(n, held) :: visits, by rw [List.map_cons, hvisits.found_eq],
        List.nodup_cons.2 ⟨fun hmem => ?_, hvisits.nodup⟩, fun hmem => ?_, fun hmem => ?_⟩
      · -- What is visited later is not this node, since it was come to by then.
        obtain ⟨⟨m, a⟩, hmem, heq⟩ := List.mem_map.1 hmem
        cases heq
        exact hvisits.fresh hmem List.mem_cons_self
      · rcases List.mem_cons.1 hmem with heq | hmem
        · cases heq
          exact hn
        · exact fun hseen => hvisits.fresh hmem (List.mem_cons_of_mem _ hseen)
      · rcases List.mem_cons.1 hmem with heq | hmem
        · cases heq
          exact ⟨next, hexpand⟩
        · exact hvisits.held hmem

theorem walk_visits {starts : List κ} {journey : Journey κ α} (h : g.walk starts = .ok journey) :
    ∃ visits, g.Visits [] journey.found visits :=
  walkFrom_visits [] starts journey h

end Graph

end PrototypeLens
