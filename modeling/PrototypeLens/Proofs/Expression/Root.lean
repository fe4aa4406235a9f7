import PrototypeLens.Proofs.Expression.Forest

/-!
# Roots of fluent chains

The search for the starter of a chain goes inwards to a receiver, or out of a lambda and then to the
receiver of the call that the lambda lies in. In a forest each such step leaves lambdas or comes to
an earlier node, so that the search ends and is a recursion without a limit. What it finds is a
starter that no lambda encloses but those around the call it began with. A call has the root of its
receiver unless the receiver is itself a starter and stands in a lambda that lies in a call.

## Layers

- `passedTo?`: the call that the innermost lambda lies in, which decides where the search goes on.
- `remoteness`: what each step of the search makes less, by `Forest.remoteness_lt`.
- `Through`: the different calls that a search has come through. There are no more of them than
  nodes, which is what the limit allows.
- `Forest.findRoot?_eq`: the search as a recursion.

## Main results

- `Forest.isStarter_of_findRoot?`: what is found is a starter, inside no further lambda.
- `Forest.findRoot?_ne_of_passedTo?`: nothing passed to a call is the root of its receiver.
- Exactly when a call has the root of its receiver, and where its root is otherwise.
-/

namespace PrototypeLens

namespace Arena

variable {arena : Arena} {id call receiver lambda outer root : ExprId}

/-! ## Kinds of nodes -/

theorem not_isLambda_of_isCall (h : arena.isAt ExprKind.isCall id = true) :
    arena.isAt ExprKind.isLambda id = false := by
  rw [isAt_eq] at h ⊢
  cases hkind : arena.kind? id with
  | none => rfl
  | some kind =>
    rw [hkind] at h
    cases kind with
    | call => rfl
    | lambda | name | literal => cases h

theorem isCall_of_isStarter (h : arena.isAt isStarter id = true) :
    arena.isAt ExprKind.isCall id = true := by
  rw [isAt_eq] at h ⊢
  cases hkind : arena.kind? id with
  | none =>
    rw [hkind] at h
    cases h
  | some kind =>
    rw [hkind] at h
    cases kind with
    | call => rfl
    | lambda | name | literal => cases h

/-- A receiver is a child of the call that it belongs to. -/
theorem isCall_of_receiver? (h : arena.receiver? call = some receiver) :
    arena.isAt ExprKind.isCall call = true ∧ arena.IsChild receiver call := by
  obtain ⟨node, hnode, hreceiver⟩ := Option.bind_eq_some_iff.1 h
  rcases node with ⟨kind, parent, span⟩
  cases kind with
  | call name receiver' args nameSpan =>
    cases hreceiver
    refine ⟨by simp [isAt, hnode, ExprKind.isCall], _, by rw [kind?, hnode]; rfl, ?_⟩
    simp [ExprKind.children]
  | lambda | name | literal => cases hreceiver

/-! ## Leaving lambdas -/

/-- The call that the innermost lambda around a node lies in. -/
def passedTo? (arena : Arena) (id : ExprId) : Option ExprId :=
  (arena.enclosingLambda? id).bind arena.enclosingCall?

theorem chainOwner_of_none (h : arena.passedTo? id = none) : arena.chainOwner id = id := by
  rw [chainOwner, show (arena.enclosingLambda? id).bind arena.enclosingCall? = none from h]
  rfl

theorem chainOwner_of_some (h : arena.passedTo? id = some outer) : arena.chainOwner id = outer := by
  rw [chainOwner, show (arena.enclosingLambda? id).bind arena.enclosingCall? = some outer from h]
  rfl

/-- How many lambdas enclose a node. -/
def lambdaDepth (arena : Arena) (id : ExprId) : Nat :=
  (arena.ancestors id).countP (arena.isAt ExprKind.isLambda)

/-- What is left of the search from a node: fewer lambdas are less, and under as many of them an
earlier node is. -/
def remoteness (arena : Arena) (id : ExprId) : Nat :=
  arena.lambdaDepth id * arena.nodes.length + id.raw

namespace Forest

variable (h : arena.Forest)
include h

/-- What lies in a lambda has one lambda more around it. -/
theorem lambdaDepth_lt (hlambda : lambda ∈ arena.ancestors id)
    (hkind : arena.isAt ExprKind.isLambda lambda = true) :
    arena.lambdaDepth lambda < arena.lambdaDepth id := by
  -- The lambda and what encloses it are part of what encloses the node.
  have hle : (lambda :: arena.ancestors lambda).countP (arena.isAt ExprKind.isLambda) ≤
      arena.lambdaDepth id := (h.ancestors_suffix hlambda).sublist.countP_le
  rwa [List.countP_cons_of_pos hkind] at hle

theorem lambdaDepth_le (houter : outer ∈ arena.ancestors id) :
    arena.lambdaDepth outer ≤ arena.lambdaDepth id := by
  have hsub : arena.ancestors outer <:+ arena.ancestors id :=
    (List.suffix_cons _ _).trans (h.ancestors_suffix houter)
  exact hsub.sublist.countP_le

theorem parent?_receiver (hreceiver : arena.receiver? call = some receiver) :
    arena.parent? receiver = some call :=
  h.parent?_eq_some_iff.2 (isCall_of_receiver? hreceiver).2

/-- The receiver of a call stands under the lambdas that the call stands under. -/
theorem ancestors_receiver (hreceiver : arena.receiver? call = some receiver) :
    arena.ancestors receiver = call :: arena.ancestors call :=
  h.ancestors_of_some (h.parent?_receiver hreceiver)

theorem lambdaDepth_receiver (hreceiver : arena.receiver? call = some receiver) :
    arena.lambdaDepth receiver = arena.lambdaDepth call := by
  have hcall := not_isLambda_of_isCall (isCall_of_receiver? hreceiver).1
  rw [lambdaDepth, h.ancestors_receiver hreceiver, List.countP_cons_of_neg (by simp [hcall])]
  rfl

/-- The search goes on at a call that encloses what it leaves. -/
theorem chainOwner_eq_or_mem (id : ExprId) :
    arena.chainOwner id = id ∨ arena.chainOwner id ∈ arena.ancestors id := by
  cases hpassed : arena.passedTo? id with
  | none => exact .inl (chainOwner_of_none hpassed)
  | some outer =>
    obtain ⟨lambda, hlambda, houter⟩ := Option.bind_eq_some_iff.1 hpassed
    rw [chainOwner_of_some hpassed]
    have hsub := h.ancestors_suffix (mem_of_enclosingLambda? hlambda).1
    exact .inr (hsub.subset (List.mem_cons_of_mem _ (mem_of_enclosingCall? houter).1))

/-- Each step of the search leaves less of it. -/
theorem remoteness_lt (hreceiver : arena.receiver? (arena.chainOwner id) = some receiver) :
    arena.remoteness receiver < arena.remoteness id := by
  obtain ⟨hlt, hwritten⟩ := h.parent?_lt (h.parent?_receiver hreceiver)
  have hdepth := h.lambdaDepth_receiver hreceiver
  cases hpassed : arena.passedTo? id with
  | none =>
    -- Inwards to a receiver, under the same lambdas.
    rw [chainOwner_of_none hpassed] at hlt hdepth
    rw [remoteness, remoteness, hdepth]
    omega
  | some outer =>
    -- Out of a lambda.
    obtain ⟨lambda, hlambda, houter⟩ := Option.bind_eq_some_iff.1 hpassed
    obtain ⟨hmem, hkind⟩ := mem_of_enclosingLambda? hlambda
    rw [chainOwner_of_some hpassed] at hdepth
    have hless : arena.lambdaDepth receiver + 1 ≤ arena.lambdaDepth id := by
      rw [hdepth]
      exact Nat.lt_of_le_of_lt (h.lambdaDepth_le (mem_of_enclosingCall? houter).1)
        (h.lambdaDepth_lt hmem hkind)
    -- A lambda less outweighs every position in the arena.
    have hmul := Nat.mul_le_mul_right arena.nodes.length hless
    rw [Nat.add_mul, Nat.one_mul] at hmul
    rw [remoteness, remoteness]
    omega

end Forest

/-! ## The search as a recursion -/

theorem mem_ids_iff : id ∈ arena.ids ↔ id.raw < arena.nodes.length := by
  obtain ⟨raw⟩ := id
  simp [ids]

theorem mem_ids_of_isAt {sort : ExprKind → Bool} (h : arena.isAt sort id = true) :
    id ∈ arena.ids := by
  rw [isAt_eq] at h
  cases hkind : arena.kind? id with
  | none =>
    rw [hkind] at h
    cases h
  | some kind => exact mem_ids_iff.2 (lt_length_of_kind? hkind)

/-- Different calls that a search has come through. -/
structure Through (arena : Arena) (calls : List ExprId) (id : ExprId) : Prop where
  nodup : calls.Nodup
  written : calls ⊆ arena.ids
  remote {other : ExprId} : other ∈ calls → arena.remoteness id < arena.remoteness other

namespace Through

variable {calls : List ExprId}

theorem nil (arena : Arena) (id : ExprId) : arena.Through [] id :=
  ⟨.nil, List.nil_subset _, fun h => nomatch h⟩

theorem length_le (h : arena.Through calls id) : calls.length ≤ arena.nodes.length := by
  have hle := h.nodup.length_le_of_subset h.written
  rwa [ids, List.length_map, List.length_range] at hle

theorem cons (h : arena.Through calls id) (hcall : arena.isAt ExprKind.isCall id = true)
    (hless : arena.remoteness receiver < arena.remoteness id) :
    arena.Through (id :: calls) receiver where
  nodup := List.nodup_cons.2 ⟨fun hmem => Nat.lt_irrefl _ (h.remote hmem), h.nodup⟩
  written := List.cons_subset.2 ⟨mem_ids_of_isAt hcall, h.written⟩
  remote hmem := by
    rcases List.mem_cons.1 hmem with rfl | hmem
    · exact hless
    · exact Nat.lt_trans hless (h.remote hmem)

end Through

namespace Forest

variable (h : arena.Forest)
include h

/-- Limits that exceed the number of calls still to come through do not show. -/
theorem rootWithin_eq (limit : Nat) : ∀ (limit' : Nat) {calls : List ExprId} {id : ExprId},
    arena.Through calls id → arena.nodes.length < limit + calls.length →
    arena.nodes.length < limit' + calls.length →
    arena.rootWithin limit id = arena.rootWithin limit' id := by
  -- The induction is on the first limit. As every call on the way is another one, the limit cannot
  -- run out before they do.
  induction limit with
  | zero =>
    intro limit' calls id hthrough hlimit _
    have := hthrough.length_le
    omega
  | succ limit ih =>
    intro limit' calls id hthrough hlimit hlimit'
    have hle := hthrough.length_le
    obtain ⟨limit', rfl⟩ := Nat.exists_eq_succ_of_ne_zero (n := limit') (by omega)
    rw [rootWithin, rootWithin]
    cases hcall : arena.isAt ExprKind.isCall id with
    | false => rfl
    | true =>
      cases hreceiver : arena.receiver? (arena.chainOwner id) with
      | none => rfl
      | some receiver =>
        have hnext := hthrough.cons hcall (h.remoteness_lt hreceiver)
        rw [Option.bind_some, Option.bind_some, ih limit' hnext (by simp; omega) (by simp; omega)]

/-- A starter is its own root; every other call has that of the receiver it leads to. -/
theorem findRoot?_eq (id : ExprId) : arena.findRoot? id =
    if !arena.isAt ExprKind.isCall id then none
    else if arena.isAt isStarter id then some id
    else (arena.receiver? (arena.chainOwner id)).bind arena.findRoot? := by
  rw [findRoot?, rootWithin]
  cases hcall : arena.isAt ExprKind.isCall id with
  | false => rfl
  | true =>
    cases hreceiver : arena.receiver? (arena.chainOwner id) with
    | none => rfl
    | some receiver =>
      -- The search itself allows one more step than there are nodes.
      have hnext := (Through.nil arena id).cons hcall (h.remoteness_lt hreceiver)
      rw [Option.bind_some, Option.bind_some, findRoot?,
        h.rootWithin_eq _ (arena.nodes.length + 1) hnext (Nat.lt_succ_self _)
          (Nat.lt_succ_of_lt (Nat.lt_succ_self _))]

theorem findRoot?_of_isStarter (hstarter : arena.isAt isStarter id = true) :
    arena.findRoot? id = some id := by
  rw [h.findRoot?_eq, isCall_of_isStarter hstarter, hstarter]
  rfl

theorem findRoot?_of_not_isStarter (hcall : arena.isAt ExprKind.isCall id = true)
    (hstarter : arena.isAt isStarter id = false) :
    arena.findRoot? id = (arena.receiver? (arena.chainOwner id)).bind arena.findRoot? := by
  rw [h.findRoot?_eq, hcall, hstarter]
  rfl

/-- What is found is a starter, and every lambda around it is one around the call that was asked
for. -/
theorem isStarter_of_findRoot? (hroot : arena.findRoot? id = some root) :
    arena.isAt isStarter root = true ∧ ∀ lambda ∈ arena.ancestors root,
      arena.isAt ExprKind.isLambda lambda = true → lambda ∈ arena.ancestors id := by
  -- The induction is on what is left of the search, since the next call may be an outer one.
  induction hleft : arena.remoteness id using Nat.strongRecOn generalizing id with
  | _ left ih =>
    cases hcall : arena.isAt ExprKind.isCall id with
    | false =>
      rw [h.findRoot?_eq, hcall] at hroot
      cases hroot
    | true =>
      cases hstarter : arena.isAt isStarter id with
      | true =>
        rw [h.findRoot?_of_isStarter hstarter] at hroot
        cases hroot
        exact ⟨hstarter, fun _ hmem _ => hmem⟩
      | false =>
        rw [h.findRoot?_of_not_isStarter hcall hstarter] at hroot
        obtain ⟨receiver, hreceiver, hroot⟩ := Option.bind_eq_some_iff.1 hroot
        obtain ⟨hfound, hlambdas⟩ := ih _ (hleft ▸ h.remoteness_lt hreceiver) hroot rfl
        refine ⟨hfound, fun lambda hmem hlambda => ?_⟩
        -- A lambda around the receiver is not the call of the receiver but around that.
        have hmem := hlambdas lambda hmem hlambda
        rw [h.ancestors_receiver hreceiver] at hmem
        rcases List.mem_cons.1 hmem with rfl | hmem
        · rw [not_isLambda_of_isCall (isCall_of_receiver? hreceiver).1] at hlambda
          cases hlambda
        · rcases h.chainOwner_eq_or_mem id with howner | howner
          · rwa [howner] at hmem
          · exact (h.ancestors_suffix howner).subset (List.mem_cons_of_mem _ hmem)

/-! ## A call and its receiver -/

/-- A call and its receiver lie in the same lambda. -/
theorem passedTo?_receiver (hreceiver : arena.receiver? call = some receiver) :
    arena.passedTo? receiver = arena.passedTo? call := by
  have hcall := not_isLambda_of_isCall (isCall_of_receiver? hreceiver).1
  rw [passedTo?, h.enclosingLambda?_of_call (h.parent?_receiver hreceiver) hcall]
  rfl

/-- Nothing that is passed to a call is the root of what the call is made on. -/
theorem findRoot?_ne_of_passedTo? (hpassed : arena.passedTo? root = some outer)
    (hreceiver : arena.receiver? outer = some receiver) :
    arena.findRoot? receiver ≠ some root := by
  intro hroot
  obtain ⟨lambda, hlambda, houter⟩ := Option.bind_eq_some_iff.1 hpassed
  obtain ⟨hmem, hkind⟩ := mem_of_enclosingLambda? hlambda
  -- The root would have to stand in no lambda that does not enclose the receiver too.
  have hmem := (h.isStarter_of_findRoot? hroot).2 lambda hmem hkind
  rw [h.ancestors_receiver hreceiver] at hmem
  -- The call encloses the lambda, and so the lambda does not enclose the call.
  have hlt := h.lt_of_mem_ancestors (mem_of_enclosingCall? houter).1
  rcases List.mem_cons.1 hmem with rfl | hmem
  · exact Nat.lt_irrefl _ hlt
  · exact Nat.lt_asymm hlt (h.lt_of_mem_ancestors hmem)

/-- A call has the root of its receiver, unless the receiver is a starter and stands in a lambda
that lies in a call. In such a lambda every call that is no starter has the root of what that call
is made on. -/
theorem findRoot?_receiver_iff (hreceiver : arena.receiver? call = some receiver)
    (hcall : arena.isAt ExprKind.isCall receiver = true)
    (hstarter : arena.isAt isStarter call = false) :
    (arena.findRoot? call = arena.findRoot? receiver ↔
      ¬ (arena.isAt isStarter receiver = true ∧ ∃ outer, arena.passedTo? call = some outer)) ∧
    ∀ outer, arena.passedTo? call = some outer →
      arena.findRoot? call = (arena.receiver? outer).bind arena.findRoot? := by
  have hroot := h.findRoot?_of_not_isStarter (isCall_of_receiver? hreceiver).1 hstarter
  cases hpassed : arena.passedTo? call with
  | none =>
    -- No lambda is left, so the search goes on at the receiver itself.
    rw [chainOwner_of_none hpassed, hreceiver, Option.bind_some] at hroot
    exact ⟨iff_of_true hroot (fun ⟨_, _, hsome⟩ => nomatch hsome), nofun⟩
  | some outer =>
    rw [chainOwner_of_some hpassed] at hroot
    refine ⟨?_, fun outer' houter' => by rwa [← Option.some.inj houter']⟩
    have hpassed' := (h.passedTo?_receiver hreceiver).trans hpassed
    cases hfirst : arena.isAt isStarter receiver with
    | true =>
      -- The chain of the call that the lambda lies in does not begin in the lambda.
      refine iff_of_false (fun heq => ?_) (not_not_intro ⟨rfl, outer, rfl⟩)
      rw [hroot, h.findRoot?_of_isStarter hfirst] at heq
      obtain ⟨before, hbefore, heq⟩ := Option.bind_eq_some_iff.1 heq
      exact h.findRoot?_ne_of_passedTo? hpassed' hbefore heq
    | false =>
      refine iff_of_true ?_ fun ⟨hfalse, _⟩ => nomatch hfalse
      rw [hroot, h.findRoot?_of_not_isStarter hcall hfirst, chainOwner_of_some hpassed']

end Forest

/-! ### A chain in a lambda -/

/-- The expression `find().where(x -> create().done().save())`. -/
def chainInLambda : Arena :=
  ((((({} : Arena).pushCall none "find" [] ⟨0, 6⟩).pushCall none "create" [] ⟨18, 26⟩
    |>.pushCall (some ⟨1⟩) "done" [] ⟨18, 33⟩).pushCall (some ⟨2⟩) "save" [] ⟨18, 40⟩
    ).push (.lambda ["x"] ⟨3⟩) ⟨13, 40⟩).pushCall (some ⟨0⟩) "where" [⟨4⟩] ⟨0, 41⟩

theorem forest_chainInLambda : chainInLambda.Forest := by
  refine .pushCall (.push _ (.pushCall (.pushCall (.pushCall (.pushCall .empty ?_ ?_ _ _)
    ?_ ?_ _ _) ?_ ?_ _ _) ?_ ?_ _ _) ?_ ?_) ?_ ?_ _ _ <;> decide

/-- The saving call has the root of the one before it, and both have that of the outer chain. -/
theorem Forest.findRoot?_receiver_iff_chainInLambda :
    chainInLambda.Forest ∧ chainInLambda.receiver? ⟨3⟩ = some ⟨2⟩ ∧
      chainInLambda.isAt ExprKind.isCall ⟨2⟩ = true ∧ chainInLambda.isAt isStarter ⟨3⟩ = false ∧
      (chainInLambda.findRoot? ⟨3⟩ = chainInLambda.findRoot? ⟨2⟩ ↔
        ¬ (chainInLambda.isAt isStarter ⟨2⟩ = true ∧
          ∃ outer, chainInLambda.passedTo? ⟨3⟩ = some outer)) ∧
      ∀ outer, chainInLambda.passedTo? ⟨3⟩ = some outer →
        chainInLambda.findRoot? ⟨3⟩ =
          (chainInLambda.receiver? outer).bind chainInLambda.findRoot? := by
  have hreceiver : chainInLambda.receiver? ⟨3⟩ = some ⟨2⟩ := by decide
  have hcall : chainInLambda.isAt ExprKind.isCall ⟨2⟩ = true := by decide
  have hstarter : chainInLambda.isAt isStarter ⟨3⟩ = false := by decide
  exact ⟨forest_chainInLambda, hreceiver, hcall, hstarter,
    forest_chainInLambda.findRoot?_receiver_iff hreceiver hcall hstarter⟩

/-- The call after the starter in the lambda belongs to the outer chain, and the starter does
not. -/
theorem Forest.findRoot?_ne_receiver_chainInLambda :
    chainInLambda.Forest ∧ chainInLambda.receiver? ⟨2⟩ = some ⟨1⟩ ∧
      chainInLambda.isAt ExprKind.isCall ⟨1⟩ = true ∧ chainInLambda.isAt isStarter ⟨2⟩ = false ∧
      chainInLambda.findRoot? ⟨2⟩ = some ⟨0⟩ ∧ chainInLambda.findRoot? ⟨1⟩ = some ⟨1⟩ :=
  ⟨forest_chainInLambda, by decide⟩

end Arena

end PrototypeLens
