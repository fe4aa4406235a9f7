import PrototypeLens.Model.Expression

/-!
# Forests of expressions

An arena is a forest if every child is written before its parent and is a child only once. In a
forest the parent of a node is the one node that it is a child of. It stands behind the node, so
that the way outwards ends, and what encloses a node is its parent and what encloses that one.

## Layers

- Writing: `kind?_push` and `parent?_push` tell what a written node changes.
- `Forest`: how such arenas are written. `IsChild` is told by the kinds of the nodes alone.
- `inward_induction`: from the parents to the nodes, which the order of writing allows.

## Main results

- `Forest.parent?_eq_some_iff`: parents and children are two views of one relation.
- `Forest.ancestors_of_some`: the way outwards as a recursion in which no limit shows.
- `Forest.ancestors_suffix`: what encloses a node is itself enclosed by the rest.
-/

namespace PrototypeLens

namespace Arena

variable {arena : Arena} {kind : ExprKind} {id child parent : ExprId}

/-! ## Writing -/

/-- What the node at a position is. -/
def kind? (arena : Arena) (id : ExprId) : Option ExprKind := (arena.get? id).map (·.kind)

/-- The parent of the node at a position. -/
def parent? (arena : Arena) (id : ExprId) : Option ExprId := (arena.get? id).bind (·.parent)

theorem isAt_eq (arena : Arena) (sort : ExprKind → Bool) (id : ExprId) :
    arena.isAt sort id = ((arena.kind? id).map sort).getD false := by
  rw [isAt, kind?, Option.map_map]
  rfl

theorem getElem?_foldl_adopt (parent : ExprId) (children : List ExprId) (nodes : List ExprNode)
    (i : Nat) : (children.foldl (adopt parent) nodes)[i]? = nodes[i]?.map fun node =>
      if ⟨i⟩ ∈ children then { node with parent := some parent } else node := by
  induction children generalizing nodes with
  | nil => simp
  | cons child children ih =>
    rw [List.foldl_cons, ih, adopt, List.getElem?_modify]
    cases nodes[i]? with
    | none => rfl
    | some node =>
      by_cases hfirst : child.raw = i
      · simp [← hfirst]
      · have hne : (⟨i⟩ : ExprId) ≠ child := fun h => hfirst (h ▸ rfl)
        simp [hfirst, hne]

theorem get?_push (arena : Arena) (kind : ExprKind) (span : Span) (id : ExprId) :
    (arena.push kind span).get? id =
      ((arena.nodes ++ [⟨kind, none, span⟩])[id.raw]?).map fun node =>
        if id ∈ kind.children then { node with parent := some ⟨arena.nodes.length⟩ } else node :=
  getElem?_foldl_adopt _ _ _ _

/-- Writing a node changes the kind of no other one. -/
theorem kind?_push (arena : Arena) (kind : ExprKind) (span : Span) (id : ExprId) :
    (arena.push kind span).kind? id =
      if id.raw = arena.nodes.length then some kind else arena.kind? id := by
  rw [kind?, get?_push, List.getElem?_append, kind?, get?]
  grind

/-- Writing a node makes it the parent of its children, if these were written before. -/
theorem parent?_push (hwritten : ∀ child ∈ kind.children, child.raw < arena.nodes.length)
    (span : Span) (id : ExprId) : (arena.push kind span).parent? id =
      if id ∈ kind.children then some ⟨arena.nodes.length⟩ else arena.parent? id := by
  rw [parent?, get?_push, List.getElem?_append, parent?, get?]
  grind

/-! ## Outwards -/

@[simp] theorem outwards_none (arena : Arena) (limit : Nat) : arena.outwards limit none = [] := by
  cases limit <;> rfl

theorem ancestors_eq (arena : Arena) (id : ExprId) :
    arena.ancestors id = arena.outwards arena.nodes.length (arena.parent? id) := rfl

theorem ancestors_of_none (hparent : arena.parent? id = none) : arena.ancestors id = [] := by
  rw [ancestors_eq, hparent, outwards_none]

/-! ## Forests -/

/-- Every child is written before its parent and is a child only once. -/
inductive Forest : Arena → Prop where
  | empty : Forest {}
  /-- The children of what is written are there, each once, and have no parent yet. -/
  | push {arena : Arena} {kind : ExprKind} (span : Span) : Forest arena → kind.children.Nodup →
      (∀ child ∈ kind.children, (arena.get? child).map (·.parent) = some none) →
      Forest (arena.push kind span)

/-- A node is one of the children of another. -/
def IsChild (arena : Arena) (child parent : ExprId) : Prop :=
  ∃ kind, arena.kind? parent = some kind ∧ child ∈ kind.children

theorem lt_length_of_get? {node : ExprNode} (h : arena.get? id = some node) :
    id.raw < arena.nodes.length :=
  (List.getElem?_eq_some_iff.1 h).1

theorem lt_length_of_kind? (h : arena.kind? id = some kind) : id.raw < arena.nodes.length := by
  obtain ⟨node, hnode, _⟩ := Option.map_eq_some_iff.1 h
  exact lt_length_of_get? hnode

theorem isChild_push {span : Span} : (arena.push kind span).IsChild child parent ↔
    if parent.raw = arena.nodes.length then child ∈ kind.children
    else arena.IsChild child parent := by
  rw [IsChild, kind?_push]
  split
  · simp
  · rfl

namespace Forest

theorem pushCall (h : arena.Forest) {receiver : Option ExprId} {args : List ExprId}
    (hnodup : (receiver.toList ++ args).Nodup)
    (hfree : ∀ child ∈ receiver.toList ++ args, (arena.get? child).map (·.parent) = some none)
    (name : String) (span : Span) : (arena.pushCall receiver name args span).Forest :=
  h.push span hnodup hfree

/-- A child is written before its parent. -/
theorem lt_of_isChild (h : arena.Forest) (hchild : arena.IsChild child parent) :
    child.raw < parent.raw := by
  -- The induction is on how the arena was written: a child of the new node was there before it.
  induction h with
  | empty =>
    obtain ⟨kind, hkind, _⟩ := hchild
    cases hkind
  | push span hforest _ hfree ih =>
    rw [isChild_push] at hchild
    split at hchild
    · rename_i hnew
      obtain ⟨node, hnode, _⟩ := Option.map_eq_some_iff.1 (hfree child hchild)
      exact hnew ▸ lt_length_of_get? hnode
    · exact ih hchild

/-- The parent of a node is the node that it is a child of. -/
theorem parent?_eq_some_iff (h : arena.Forest) :
    arena.parent? child = some parent ↔ arena.IsChild child parent := by
  induction h with
  | empty =>
    refine iff_of_false nofun ?_
    rintro ⟨kind, hkind, _⟩
    cases hkind
  | @push arena kind span hforest _ hfree ih =>
    have hwritten : ∀ child ∈ kind.children, child.raw < arena.nodes.length := by
      intro child hchild
      obtain ⟨node, hnode, _⟩ := Option.map_eq_some_iff.1 (hfree child hchild)
      exact lt_length_of_get? hnode
    rw [parent?_push hwritten, isChild_push]
    by_cases hchild : child ∈ kind.children
    · -- It had no parent before, so that no node that was there has it as a child.
      obtain ⟨node, hnode, hfree⟩ := Option.map_eq_some_iff.1 (hfree child hchild)
      have hnone : ¬ arena.IsChild child parent := by
        rw [← ih, parent?, hnode]
        simp [hfree]
      obtain ⟨raw⟩ := parent
      simp [hchild, hnone, eq_comm]
    · rw [if_neg hchild, ih]
      -- No node that was there before can be the new one.
      split
      · rename_i hnew
        refine iff_of_false ?_ hchild
        rintro ⟨kind', hkind', _⟩
        exact absurd (lt_length_of_kind? hkind') (by omega)
      · rfl

variable (h : arena.Forest)
include h

theorem parent?_lt (hparent : arena.parent? id = some parent) :
    id.raw < parent.raw ∧ parent.raw < arena.nodes.length := by
  have hchild := h.parent?_eq_some_iff.1 hparent
  have hlt := h.lt_of_isChild hchild
  obtain ⟨kind, hkind, _⟩ := hchild
  exact ⟨hlt, lt_length_of_kind? hkind⟩

/-- A property that passes from the parent of every node to the node holds everywhere. -/
theorem inward_induction {motive : ExprId → Prop}
    (hstep : ∀ id, (∀ parent, arena.parent? id = some parent → motive parent) → motive id)
    (id : ExprId) : motive id := by
  -- Parents stand behind their children, so what is left to go is the part of the arena behind.
  induction hrest : arena.nodes.length - id.raw using Nat.strongRecOn generalizing id with
  | _ rest ih =>
    refine hstep id fun parent hparent => ih _ ?_ parent rfl
    have := h.parent?_lt hparent
    omega

/-! ## What encloses a node -/

/-- The way outwards is the same for all limits that do not cut it short. -/
theorem outwards_eq (limit : Nat) : ∀ (limit' : Nat) (id : ExprId),
    arena.nodes.length ≤ limit + id.raw → arena.nodes.length ≤ limit' + id.raw →
    id.raw < arena.nodes.length →
    arena.outwards limit (some id) = arena.outwards limit' (some id) := by
  -- The induction is on the first limit, with the second one open.
  induction limit with
  | zero => intro limit' id hlimit _ hid; omega
  | succ limit ih =>
    intro limit' id hlimit hlimit' hid
    obtain ⟨limit', rfl⟩ := Nat.exists_eq_succ_of_ne_zero (n := limit') (by omega)
    rw [outwards, outwards]
    cases hparent : (arena.get? id).bind (·.parent) with
    | none => rw [outwards_none, outwards_none]
    | some parent =>
      have hlt := h.parent?_lt hparent
      rw [ih limit' parent (by omega) (by omega) hlt.2]

theorem ancestors_of_some (hparent : arena.parent? id = some parent) :
    arena.ancestors id = parent :: arena.ancestors parent := by
  have hlt := h.parent?_lt hparent
  obtain ⟨rest, hlength⟩ := Nat.exists_eq_succ_of_ne_zero (n := arena.nodes.length) (by omega)
  rw [ancestors_eq, hparent, hlength, outwards, ancestors_eq]
  show parent :: arena.outwards rest (arena.parent? parent) = _
  cases hnext : arena.parent? parent with
  | none => rw [outwards_none, outwards_none]
  -- The way from here is one step shorter, which is still enough for it.
  | some next =>
    have hnext := h.parent?_lt hnext
    rw [h.outwards_eq rest arena.nodes.length next (by omega) (by omega) hnext.2]

variable {outer : ExprId}

theorem mem_ancestors_iff : outer ∈ arena.ancestors id ↔ ∃ parent,
    arena.parent? id = some parent ∧ (outer = parent ∨ outer ∈ arena.ancestors parent) := by
  cases hparent : arena.parent? id with
  | none => simp [ancestors_of_none hparent]
  | some parent => simp [h.ancestors_of_some hparent]

/-- What encloses a node stands behind it. -/
theorem lt_of_mem_ancestors (houter : outer ∈ arena.ancestors id) : id.raw < outer.raw := by
  induction id using h.inward_induction with
  | hstep id ih =>
    obtain ⟨parent, hparent, houter⟩ := h.mem_ancestors_iff.1 houter
    have hlt := (h.parent?_lt hparent).1
    rcases houter with rfl | houter
    · exact hlt
    · exact Nat.lt_trans hlt (ih parent hparent houter)

/-- What encloses a node is itself enclosed by the rest. -/
theorem ancestors_suffix (houter : outer ∈ arena.ancestors id) :
    outer :: arena.ancestors outer <:+ arena.ancestors id := by
  induction id using h.inward_induction with
  | hstep id ih =>
    obtain ⟨parent, hparent, houter⟩ := h.mem_ancestors_iff.1 houter
    rw [h.ancestors_of_some hparent]
    rcases houter with rfl | houter
    · exact List.suffix_rfl
    · exact (ih parent hparent houter).trans (List.suffix_cons _ _)

end Forest

/-! ## Lambdas and calls around a node -/

theorem mem_of_enclosingLambda? {lambda : ExprId}
    (hlambda : arena.enclosingLambda? id = some lambda) :
    lambda ∈ arena.ancestors id ∧ arena.isAt ExprKind.isLambda lambda = true :=
  ⟨List.mem_of_find?_eq_some hlambda, List.find?_some hlambda⟩

theorem mem_of_enclosingCall? {call : ExprId} (hcall : arena.enclosingCall? id = some call) :
    call ∈ arena.ancestors id ∧ arena.isAt ExprKind.isCall call = true :=
  ⟨List.mem_of_find?_eq_some hcall, List.find?_some hcall⟩

/-- The lambda around a child of a call is the one around the call. -/
theorem Forest.enclosingLambda?_of_call (h : arena.Forest)
    (hparent : arena.parent? id = some parent)
    (hcall : arena.isAt ExprKind.isLambda parent = false) :
    arena.enclosingLambda? id = arena.enclosingLambda? parent := by
  rw [enclosingLambda?, h.ancestors_of_some hparent, List.find?_cons_of_neg (by simp [hcall])]
  rfl

end Arena

end PrototypeLens
