import PrototypeLens.Walk

/-!
# Walks reach everything

A walk that does not come to a goal ends with a set of nodes that holds where it started and that no
edge leaves. No walk leaves such a set.

## Layers

- `LeadsInto`: every neighbour of some nodes is among others. It is the invariant of the walk, for
  the nodes that were come to and those that are queued.
- The steps of a walk keep it, by `queue_subset_of_mem` and `queue_subset_visit`.

## Main results

- `walk_arrived_iff`: a walk arrives exactly if it comes to a goal.
- `walk_closed`: without a goal, it comes to everything that the starts lead to.
- `walk_within`: it stays within every property that no edge leaves.
-/

namespace PrototypeLens

namespace Graph

section LeadsInto

variable {ε κ α : Type} {g : Graph ε κ α}

/-- Every neighbour of a node of the first list is in the second one. -/
def LeadsInto (g : Graph ε κ α) (nodes targets : List κ) : Prop :=
  ∀ n ∈ nodes, ∀ a next, g.expand n = .ok (some (a, next)) → next ⊆ targets

theorem LeadsInto.mono {nodes targets targets' : List κ} (h : g.LeadsInto nodes targets)
    (hsub : targets ⊆ targets') : g.LeadsInto nodes targets' :=
  fun n hn a next hnext => List.Subset.trans (h n hn a next hnext) hsub

/-- A node is added once all its neighbours are among the targets. -/
theorem LeadsInto.cons {nodes targets targets' : List κ} {n : κ} (h : g.LeadsInto nodes targets)
    (hsub : targets ⊆ targets')
    (hn : ∀ a next, g.expand n = .ok (some (a, next)) → next ⊆ targets') :
    g.LeadsInto (n :: nodes) targets' := by
  intro m hm
  rcases List.mem_cons.1 hm with rfl | hm
  · exact hn
  · exact h.mono hsub m hm

variable {seen rest queue : List κ} {n : κ}

/-- A node that was come to already adds nothing. -/
theorem queue_subset_of_mem (hn : n ∈ seen) : seen ++ n :: rest ⊆ seen ++ rest :=
  List.append_subset.2 ⟨List.subset_append_left _ _,
    List.cons_subset.2 ⟨List.mem_append_left _ hn, List.subset_append_right _ _⟩⟩

/-- Any other node moves from the queue to what was come to. -/
theorem queue_subset_visit (hrest : rest ⊆ queue) : seen ++ n :: rest ⊆ n :: seen ++ queue :=
  List.append_subset.2 ⟨fun _ hm => List.mem_append_left _ (List.mem_cons_of_mem _ hm),
    List.cons_subset.2 ⟨List.mem_cons_self, fun _ hm => List.mem_append_right _ (hrest hm)⟩⟩

end LeadsInto

variable {ε κ α : Type} [DecidableEq κ] {g : Graph ε κ α}

/-- What is left of a walk arrives exactly if it comes to a goal. -/
theorem walkFrom_arrived_iff {goal : κ → Bool} (seen queue : List κ) :
    ∀ journey, g.walkFrom goal seen queue = .ok journey →
      (journey.arrived = true ↔ ∃ n ∈ journey.seen, n ∉ seen ∧ goal n = true) := by
  -- A node that is passed is no goal.
  have hpassed {seen seen' : List κ} {n : κ} (hg : ¬ goal n = true) :
      (∃ m ∈ seen', m ∉ n :: seen ∧ goal m = true) ↔ ∃ m ∈ seen', m ∉ seen ∧ goal m = true := by
    refine exists_congr fun m => and_congr_right fun _ => and_congr_left fun hm => ?_
    have hne : m ≠ n := fun heq => hg (heq ▸ hm)
    simp [hne]
  fun_induction walkFrom g goal seen queue with
  -- The cases are those of the walk; where it goes on, the goal lies in what is left of it.
  | case1 seen =>
    intro journey h
    cases h
    exact iff_of_false Bool.false_ne_true fun ⟨n, hn, hnot, _⟩ => hnot hn
  | case2 seen n rest hn ih => exact ih
  | case3 seen n rest hn hg =>
    intro journey h
    cases h
    exact iff_of_true rfl ⟨n, List.mem_cons_self, hn, hg⟩
  | case4 seen n rest hn hg e hexpand => exact fun journey h => by cases h
  | case5 seen n rest hn hg hexpand ih => exact fun journey h => (ih journey h).trans (hpassed hg)
  | case6 seen n rest hn hg a next hexpand ih =>
    intro journey h
    cases hrest : g.walkFrom goal (n :: seen) (rest ++ next) with
    | error e =>
      rw [hrest] at h
      cases h
    | ok rest' =>
      rw [hrest] at h
      cases h
      exact (ih rest' hrest).trans (hpassed hg)

/-- A walk arrives exactly if it comes to a goal. -/
theorem walk_arrived_iff {starts : List κ} {goal : κ → Bool} {journey : Journey κ α}
    (h : g.walk starts goal = .ok journey) :
    journey.arrived = true ↔ ∃ n ∈ journey.seen, goal n = true := by
  rw [walkFrom_arrived_iff [] starts journey h]
  simp

/-- What is left of a walk that does not arrive comes to its queue and to everything that it leads
to. -/
theorem walkFrom_closed {goal : κ → Bool} (seen queue : List κ) :
    ∀ journey, g.walkFrom goal seen queue = .ok journey → journey.arrived = false →
      g.LeadsInto seen (seen ++ queue) →
      seen ++ queue ⊆ journey.seen ∧ g.LeadsInto journey.seen journey.seen := by
  -- The invariant: what was come to leads into what was come to and what is queued.
  fun_induction walkFrom g goal seen queue with
  | case1 seen =>
    -- Nothing is queued any more, so that what was come to is closed.
    intro journey h _ hinv
    cases h
    simpa using hinv
  | case2 seen n rest hn ih =>
    intro journey h hmissed hinv
    have hsame : seen ++ n :: rest ⊆ seen ++ rest := queue_subset_of_mem hn
    obtain ⟨hsub, hclosed⟩ := ih journey h hmissed (hinv.mono hsame)
    exact ⟨List.Subset.trans hsame hsub, hclosed⟩
  -- This walk did arrive.
  | case3 seen n rest hn hg =>
    intro journey h hmissed
    cases h
    cases hmissed
  | case4 seen n rest hn hg e hexpand => exact fun journey h => by cases h
  | case5 seen n rest hn hg hexpand ih =>
    -- A node without neighbours.
    intro journey h hmissed hinv
    have hsame : seen ++ n :: rest ⊆ n :: seen ++ rest := queue_subset_visit (.refl _)
    have hinv' : g.LeadsInto (n :: seen) (n :: seen ++ rest) :=
      hinv.cons hsame fun a next hnext => by cases hexpand.symm.trans hnext
    obtain ⟨hsub, hclosed⟩ := ih journey h hmissed hinv'
    exact ⟨List.Subset.trans hsame hsub, hclosed⟩
  | case6 seen n rest hn hg a next hexpand ih =>
    -- The node is come to for the first time, and its neighbours are queued behind the others.
    intro journey h hmissed hinv
    have hsame : seen ++ n :: rest ⊆ n :: seen ++ (rest ++ next) :=
      queue_subset_visit (List.subset_append_left _ _)
    have hinv' : g.LeadsInto (n :: seen) (n :: seen ++ (rest ++ next)) := by
      refine hinv.cons hsame fun a' next' hnext => ?_
      cases hexpand.symm.trans hnext
      exact fun k hk => List.mem_append_right _ (List.mem_append_right _ hk)
    cases hrest : g.walkFrom goal (n :: seen) (rest ++ next) with
    | error e =>
      rw [hrest] at h
      cases h
    | ok rest' =>
      rw [hrest] at h
      cases h
      obtain ⟨hsub, hclosed⟩ := ih rest' hrest hmissed hinv'
      exact ⟨List.Subset.trans hsame hsub, hclosed⟩

/-- A walk without a goal comes to where it starts and to everything that it leads to. -/
theorem walk_closed {starts : List κ} {journey : Journey κ α} (h : g.walk starts = .ok journey) :
    starts ⊆ journey.seen ∧ g.LeadsInto journey.seen journey.seen := by
  have hmissed : journey.arrived = false := by simpa using walk_arrived_iff h
  exact walkFrom_closed [] starts journey h hmissed fun _ hn => nomatch hn

/-- What is left of a walk stays within a property that no edge leaves. -/
theorem walkFrom_within {among : κ → Prop} {goal : κ → Bool} (seen queue : List κ)
    (hedges : ∀ n a next, among n → g.expand n = .ok (some (a, next)) → ∀ m ∈ next, among m) :
    ∀ journey, g.walkFrom goal seen queue = .ok journey → (∀ n ∈ seen, among n) →
      (∀ n ∈ queue, among n) → ∀ n ∈ journey.seen, among n := by
  -- The property holds of what is queued as well, which is what the next node is taken from.
  fun_induction walkFrom g goal seen queue with
  | case1 seen =>
    intro journey h hseen _
    cases h
    exact hseen
  | case2 seen n rest hn ih =>
    intro journey h hseen hqueue
    exact ih journey h hseen (List.forall_mem_cons.1 hqueue).2
  | case3 seen n rest hn hg =>
    intro journey h hseen hqueue
    cases h
    exact List.forall_mem_cons.2 ⟨(List.forall_mem_cons.1 hqueue).1, hseen⟩
  | case4 seen n rest hn hg e hexpand => exact fun journey h => by cases h
  | case5 seen n rest hn hg hexpand ih =>
    intro journey h hseen hqueue
    obtain ⟨hfirst, hrest⟩ := List.forall_mem_cons.1 hqueue
    exact ih journey h (List.forall_mem_cons.2 ⟨hfirst, hseen⟩) hrest
  | case6 seen n rest hn hg a next hexpand ih =>
    intro journey h hseen hqueue
    obtain ⟨hfirst, hrest⟩ := List.forall_mem_cons.1 hqueue
    have hnext : ∀ m ∈ rest ++ next, among m :=
      List.forall_mem_append.2 ⟨hrest, hedges n a next hfirst hexpand⟩
    cases hjourney : g.walkFrom goal (n :: seen) (rest ++ next) with
    | error e =>
      rw [hjourney] at h
      cases h
    | ok journey' =>
      rw [hjourney] at h
      cases h
      exact ih journey' hjourney (List.forall_mem_cons.2 ⟨hfirst, hseen⟩) hnext

/-- A walk stays within a property that holds where it starts and that no edge leaves. -/
theorem walk_within {among : κ → Prop} {starts : List κ} {journey : Journey κ α}
    (h : g.walk starts = .ok journey) (hstarts : ∀ n ∈ starts, among n)
    (hedges : ∀ n a next, among n → g.expand n = .ok (some (a, next)) → ∀ m ∈ next, among m) :
    ∀ n ∈ journey.seen, among n :=
  walkFrom_within [] starts hedges journey h (fun _ hn => nomatch hn) hstarts

end Graph

end PrototypeLens
