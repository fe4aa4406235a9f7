/-!
# Walks

Breadth-first walks over graphs whose nodes are asked for one by one, where asking may fail. A node
that is not there has no neighbours; each node is asked for once. A walk may have a goal: it ends
when it comes to it, without asking for it.
-/

namespace PrototypeLens

/-- A graph with finitely many nodes that are there. -/
structure Graph (ε κ α : Type) where
  /-- What a node holds and its neighbours in order, if it is there. -/
  expand : κ → Except ε (Option (α × List κ))
  /-- A list of all nodes that are there. -/
  nodes : List κ
  /-- Nodes outside the list are not there. -/
  mem_nodes : ∀ {n a}, expand n = .ok (some a) → n ∈ nodes

/-- How a walk ended. -/
structure Journey (κ α : Type) where
  /-- Whether it came to its goal. -/
  arrived : Bool
  /-- What the nodes held that it asked for, in order. -/
  found : List α
  /-- The nodes it came to, the last one first. -/
  seen : List κ

namespace Graph

variable {ε κ α : Type} [DecidableEq κ]

/-- The nodes that are there and were not yet come to. -/
def unseen (g : Graph ε κ α) (seen : List κ) : List κ := g.nodes.filter (· ∉ seen)

theorem unseen_cons (g : Graph ε κ α) (seen : List κ) (n : κ) :
    g.unseen (n :: seen) = (g.unseen seen).filter (· ≠ n) := by
  simp [unseen, List.filter_filter]

theorem unseen_cons_le (g : Graph ε κ α) (seen : List κ) (n : κ) :
    (g.unseen (n :: seen)).length ≤ (g.unseen seen).length := by
  rw [unseen_cons]; exact List.length_filter_le _ _

theorem unseen_cons_lt (g : Graph ε κ α) {seen : List κ} {n : κ} (hn : n ∈ g.nodes)
    (hs : n ∉ seen) : (g.unseen (n :: seen)).length < (g.unseen seen).length := by
  rw [unseen_cons, List.length_filter_lt_length_iff_exists]
  exact ⟨n, by simp [unseen, hn, hs], by simp⟩

/-- The rest of a walk with the nodes of `queue` still to come to. -/
def walkFrom (g : Graph ε κ α) (goal : κ → Bool) (seen : List κ) (queue : List κ) :
    Except ε (Journey κ α) :=
  match queue with
  | [] => .ok ⟨false, [], seen⟩
  | n :: rest =>
    -- Met before: in the queue again by way of another node.
    if _ : n ∈ seen then walkFrom g goal seen rest
    else if goal n then .ok ⟨true, [], n :: seen⟩
    else match _ : g.expand n with
      | .error e => .error e
      | .ok none => walkFrom g goal (n :: seen) rest
      -- The new neighbours come behind all nodes of the queue, nearest first.
      | .ok (some (a, next)) =>
        (walkFrom g goal (n :: seen) (rest ++ next)).map fun journey =>
          { journey with found := a :: journey.found }
termination_by ((g.unseen seen).length, queue.length)
decreasing_by
  · exact Prod.Lex.right _ (by simp)
  · have := g.unseen_cons_le seen n
    rcases Nat.lt_or_eq_of_le this with h | h
    · exact Prod.Lex.left _ _ h
    · rw [h]; exact Prod.Lex.right _ (by simp)
  · exact Prod.Lex.left _ _ (g.unseen_cons_lt (g.mem_nodes ‹_›) ‹_›)

/-- A walk from the nodes of `starts`, in order, until it comes to a goal. -/
def walk (g : Graph ε κ α) (starts : List κ) (goal : κ → Bool := fun _ => false) :
    Except ε (Journey κ α) :=
  g.walkFrom goal [] starts

end Graph

end PrototypeLens
