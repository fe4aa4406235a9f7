import Mathlib.Logic.Relation
import PrototypeLens.Proofs.Expression.Root

/-!
# The search for a root, without limits

The way outwards and the search for the root of a chain by the rules that they follow, with no limit
on the number of steps. In a forest each of them comes to an end from every node, with one result:
the one that the functions with a limit give. What the search ends at is a call without arguments
that goes by the name of a starter, and it stands in no lambda but those around the call that was
asked for.

## Layers

- `Meets`: what the way outwards meets first of a sort; `meets_iff` compares it with the list of
  enclosing nodes.
- `GoesOnAt`: the call at which the search goes on; `goesOnAt_iff`.
- `Searches`: a whole run; `findRoot?_of_searches` says what it gives and `searches_findRoot?` that
  there is one.

## Main results

- `isAt_isStarter_iff`: starters told by their name and arguments.
- `encloses_iff`: to be enclosed is to be reached by children from the other.
- From every node the search ends with one result, at a starter, inside no further lambda.
-/

namespace PrototypeLens

namespace Arena

variable {arena : Arena} {sort : ExprKind → Bool} {id outer owner : ExprId}
  {result : Option ExprId}

/-! ## The rules of the search -/

/-- A way of children leads from a node down to another. -/
def Encloses (arena : Arena) (outer id : ExprId) : Prop := Relation.TransGen arena.IsChild id outer

/-- What the way from a node outwards meets first of a sort. -/
inductive Meets (arena : Arena) (sort : ExprKind → Bool) : ExprId → Option ExprId → Prop
  | outermost {id : ExprId} : arena.parent? id = none → Meets arena sort id none
  | parent {id parent : ExprId} : arena.parent? id = some parent → arena.isAt sort parent = true →
      Meets arena sort id (some parent)
  | beyond {id parent : ExprId} {result : Option ExprId} : arena.parent? id = some parent →
      arena.isAt sort parent = false → Meets arena sort parent result → Meets arena sort id result

/-- The call whose receiver the search takes next. -/
inductive GoesOnAt (arena : Arena) (id : ExprId) : ExprId → Prop
  /-- No lambda stands around the call. -/
  | free : Meets arena ExprKind.isLambda id none → GoesOnAt arena id id
  /-- The innermost lambda around the call lies in no call. -/
  | kept {lambda : ExprId} : Meets arena ExprKind.isLambda id (some lambda) →
      Meets arena ExprKind.isCall lambda none → GoesOnAt arena id id
  /-- The innermost lambda around the call lies in another call. -/
  | passed {lambda outer : ExprId} : Meets arena ExprKind.isLambda id (some lambda) →
      Meets arena ExprKind.isCall lambda (some outer) → GoesOnAt arena id outer

/-- A run of the search from a node, with what it gives. -/
inductive Searches (arena : Arena) : ExprId → Option ExprId → Prop
  | noCall {id : ExprId} : arena.isAt ExprKind.isCall id = false → Searches arena id none
  | starter {id : ExprId} : arena.isAt isStarter id = true → Searches arena id (some id)
  | noReceiver {id owner : ExprId} : arena.isAt ExprKind.isCall id = true →
      arena.isAt isStarter id = false → arena.GoesOnAt id owner →
      arena.receiver? owner = none → Searches arena id none
  | receiver {id owner receiver : ExprId} {result : Option ExprId} :
      arena.isAt ExprKind.isCall id = true → arena.isAt isStarter id = false →
      arena.GoesOnAt id owner → arena.receiver? owner = some receiver →
      Searches arena receiver result → Searches arena id result

/-! ## Starters -/

/-- A starter is a call without arguments by one of a few names. -/
theorem isAt_isStarter_iff : arena.isAt isStarter id = true ↔ ∃ name receiver nameSpan,
    arena.kind? id = some (.call name receiver [] nameSpan) ∧ name ∈ starters := by
  rw [isAt_eq]
  cases hkind : arena.kind? id with
  | none => simp
  | some kind =>
    cases kind with
    | call name receiver args nameSpan =>
      cases args <;> simp [isStarter]
    | lambda | name | literal => simp [isStarter]

namespace Forest

variable (h : arena.Forest)
include h

/-! ## Outwards -/

/-- What encloses a node is what the way outwards passes. -/
theorem encloses_iff : arena.Encloses outer id ↔ outer ∈ arena.ancestors id := by
  constructor
  · intro hencloses
    -- The way is taken from its inner end, where the parents are known.
    induction hencloses using Relation.TransGen.head_induction_on with
    | single hchild =>
      exact h.mem_ancestors_iff.2 ⟨_, h.parent?_eq_some_iff.2 hchild, .inl rfl⟩
    | head hchild _ ih =>
      exact h.mem_ancestors_iff.2 ⟨_, h.parent?_eq_some_iff.2 hchild, .inr ih⟩
  · intro houter
    -- From the node outwards: what encloses it is its parent, or encloses that one.
    induction id using h.inward_induction with
    | hstep id ih =>
      obtain ⟨parent, hparent, houter⟩ := h.mem_ancestors_iff.1 houter
      have hchild := h.parent?_eq_some_iff.1 hparent
      rcases houter with rfl | houter
      · exact .single hchild
      · exact .head hchild (ih parent hparent houter)

/-- The way outwards ends, and it meets what the search among the enclosing nodes finds. -/
theorem meets_iff : arena.Meets sort id result ↔
    (arena.ancestors id).find? (arena.isAt sort) = result := by
  constructor
  · intro hmeets
    induction hmeets with
    | outermost hparent => rw [ancestors_of_none hparent, List.find?_nil]
    | parent hparent hsort => rw [h.ancestors_of_some hparent, List.find?_cons_of_pos hsort]
    | beyond hparent hsort _ ih =>
      rw [h.ancestors_of_some hparent, List.find?_cons_of_neg (by simp [hsort]), ih]
  · rintro rfl
    induction id using h.inward_induction with
    | hstep id ih =>
      cases hparent : arena.parent? id with
      | none =>
        rw [ancestors_of_none hparent]
        exact .outermost hparent
      | some parent =>
        rw [h.ancestors_of_some hparent]
        cases hsort : arena.isAt sort parent with
        | true =>
          rw [List.find?_cons_of_pos hsort]
          exact .parent hparent hsort
        | false =>
          rw [List.find?_cons_of_neg (by simp [hsort])]
          exact .beyond hparent hsort (ih parent hparent)

theorem goesOnAt_iff : arena.GoesOnAt id owner ↔ arena.chainOwner id = owner := by
  constructor
  · -- The three rules are the three cases of the search: no lambda, no call around it, and such a
    -- call.
    rintro (hfree | ⟨hlambda, hkept⟩ | ⟨hlambda, hpassed⟩)
    · exact chainOwner_of_none (Option.bind_eq_none_iff.2 fun lambda hlambda =>
        nomatch (h.meets_iff.1 hfree).symm.trans hlambda)
    · refine chainOwner_of_none ?_
      rw [passedTo?, enclosingLambda?, h.meets_iff.1 hlambda]
      exact h.meets_iff.1 hkept
    · refine chainOwner_of_some ?_
      rw [passedTo?, enclosingLambda?, h.meets_iff.1 hlambda]
      exact h.meets_iff.1 hpassed
  · rintro rfl
    cases hlambda : arena.enclosingLambda? id with
    | none =>
      rw [chainOwner_of_none (by rw [passedTo?, hlambda]; rfl)]
      exact .free (h.meets_iff.2 hlambda)
    | some lambda =>
      have hmeets := h.meets_iff.2 hlambda
      cases houter : arena.enclosingCall? lambda with
      | none =>
        rw [chainOwner_of_none (by rw [passedTo?, hlambda]; exact houter)]
        exact .kept hmeets (h.meets_iff.2 houter)
      | some outer =>
        rw [chainOwner_of_some (by rw [passedTo?, hlambda]; exact houter)]
        exact .passed hmeets (h.meets_iff.2 houter)

/-! ## The search -/

/-- Every run of the search gives what the search with a limit gives. -/
theorem findRoot?_of_searches (hsearches : arena.Searches id result) :
    arena.findRoot? id = result := by
  -- The induction is on the run: each rule is a case of the recursion.
  induction hsearches with
  | noCall hcall => rw [h.findRoot?_eq, hcall]; rfl
  | starter hstarter => exact h.findRoot?_of_isStarter hstarter
  | noReceiver hcall hstarter howner hreceiver =>
    rw [h.findRoot?_of_not_isStarter hcall hstarter, h.goesOnAt_iff.1 howner, hreceiver]
    rfl
  | receiver hcall hstarter howner hreceiver _ ih =>
    rw [h.findRoot?_of_not_isStarter hcall hstarter, h.goesOnAt_iff.1 howner, hreceiver]
    exact ih

/-- The search comes to an end from every node. -/
theorem searches_findRoot? (id : ExprId) : arena.Searches id (arena.findRoot? id) := by
  -- What is left of the search falls with every step, so the runs are found by induction on it.
  induction hleft : arena.remoteness id using Nat.strongRecOn generalizing id with
  | _ left ih =>
    cases hcall : arena.isAt ExprKind.isCall id with
    | false =>
      rw [h.findRoot?_eq, hcall]
      exact .noCall hcall
    | true =>
      cases hstarter : arena.isAt isStarter id with
      | true =>
        rw [h.findRoot?_of_isStarter hstarter]
        exact .starter hstarter
      | false =>
        have howner : arena.GoesOnAt id (arena.chainOwner id) := h.goesOnAt_iff.2 rfl
        rw [h.findRoot?_of_not_isStarter hcall hstarter]
        cases hreceiver : arena.receiver? (arena.chainOwner id) with
        | none => exact .noReceiver hcall hstarter howner hreceiver
        | some receiver =>
          -- Fewer lambdas are left, or as many and an earlier node.
          have hless := hleft ▸ h.remoteness_lt hreceiver
          exact .receiver hcall hstarter howner hreceiver (ih _ hless receiver rfl)

/-- The search ends from every node with one result, which is what is found with the limit. If it
ends at a node, this is a call without arguments by the name of a starter, and every lambda that
encloses it encloses the call that was asked for. -/
theorem findRoot?_ends_at_starter (id : ExprId) :
    (∀ result, arena.Searches id result ↔ arena.findRoot? id = result) ∧
    ∀ root, arena.findRoot? id = some root →
      (∃ name receiver nameSpan,
        arena.kind? root = some (.call name receiver [] nameSpan) ∧ name ∈ starters) ∧
      ∀ lambda, arena.isAt ExprKind.isLambda lambda = true → arena.Encloses lambda root →
        arena.Encloses lambda id := by
  refine ⟨fun result => ⟨h.findRoot?_of_searches, ?_⟩, fun root hroot => ?_⟩
  · rintro rfl
    exact h.searches_findRoot? id
  · obtain ⟨hstarter, hlambdas⟩ := h.isStarter_of_findRoot? hroot
    refine ⟨isAt_isStarter_iff.1 hstarter, fun lambda hlambda hencloses => ?_⟩
    exact h.encloses_iff.2 (hlambdas lambda (h.encloses_iff.1 hencloses) hlambda)

end Forest

/-! ### A chain that is written after what is passed to it -/

/-- The expression `find().where(x -> x.save())`, whose lambda is written before the chain that it
is passed to. -/
def lambdaWrittenFirst : Arena :=
  ((((({} : Arena).push (.name "x") ⟨18, 19⟩).pushCall (some ⟨0⟩) "save" [] ⟨18, 26⟩
    ).push (.lambda ["x"] ⟨1⟩) ⟨13, 26⟩).pushCall none "find" [] ⟨0, 6⟩
    ).pushCall (some ⟨3⟩) "where" [⟨2⟩] ⟨0, 27⟩

theorem forest_lambdaWrittenFirst : lambdaWrittenFirst.Forest := by
  refine .pushCall (.pushCall (.push _ (.pushCall (.push _ .empty ?_ ?_) ?_ ?_ _ _) ?_ ?_)
    ?_ ?_ _ _) ?_ ?_ _ _ <;> decide

/-- From the call in the lambda the search comes to a starter that stands behind it. -/
theorem Forest.findRoot?_ends_at_starter_lambdaWrittenFirst :
    lambdaWrittenFirst.Forest ∧ lambdaWrittenFirst.findRoot? ⟨1⟩ = some ⟨3⟩ ∧
      (∀ result, lambdaWrittenFirst.Searches ⟨1⟩ result ↔
        lambdaWrittenFirst.findRoot? ⟨1⟩ = result) ∧
      ∀ root, lambdaWrittenFirst.findRoot? ⟨1⟩ = some root →
        (∃ name receiver nameSpan,
          lambdaWrittenFirst.kind? root = some (.call name receiver [] nameSpan) ∧
            name ∈ starters) ∧
        ∀ lambda, lambdaWrittenFirst.isAt ExprKind.isLambda lambda = true →
          lambdaWrittenFirst.Encloses lambda root → lambdaWrittenFirst.Encloses lambda ⟨1⟩ :=
  ⟨forest_lambdaWrittenFirst, by decide, forest_lambdaWrittenFirst.findRoot?_ends_at_starter ⟨1⟩⟩

end Arena

end PrototypeLens
