import PrototypeLens.Basic

/-!
# Expressions

A small expression tree, enough to follow fluent call chains. The expressions of a file live in an
arena and refer to each other by position. Writing an expression into the arena makes it the parent
of those of its children that are there already.
-/

namespace PrototypeLens

/-! ## Nodes -/

/-- An expression, with its children by position. -/
inductive ExprKind where
  /-- `receiver.name(args)`; `nameSpan` is the range of the method's name. -/
  | call (name : String) (receiver : Option ExprId) (args : List ExprId) (nameSpan : Span)
  /-- `params -> body`. -/
  | lambda (params : List String) (body : ExprId)
  | name (text : String)
  | literal (text : String)
deriving DecidableEq, Repr

namespace ExprKind

/-- The children of an expression: a receiver before the arguments. -/
def children : ExprKind → List ExprId
  | call _ receiver args _ => receiver.toList ++ args
  | lambda _ body => [body]
  | name _ | literal _ => []

/-- Whether an expression is a method call. -/
def isCall : ExprKind → Bool
  | call .. => true
  | _ => false

/-- Whether an expression is a lambda. -/
def isLambda : ExprKind → Bool
  | lambda .. => true
  | _ => false

end ExprKind

/-- An expression in its arena. -/
structure ExprNode where
  /-- What it is. -/
  kind : ExprKind
  /-- The expression it was last made a child of. -/
  parent : Option ExprId := none
  /-- Its range. -/
  span : Span
deriving DecidableEq, Repr

/-! ## Arenas -/

/-- The expressions of a file. -/
structure Arena where
  /-- The nodes by position. -/
  nodes : List ExprNode := []
deriving DecidableEq, Repr

namespace Arena

/-- The node at a position. -/
def get? (arena : Arena) (id : ExprId) : Option ExprNode := arena.nodes[id.raw]?

/-- Every position of the arena, in order. -/
def ids (arena : Arena) : List ExprId := (List.range arena.nodes.length).map ExprId.mk

/-- Makes `parent` the parent of a node, if the node is there. -/
def adopt (parent : ExprId) (nodes : List ExprNode) (child : ExprId) : List ExprNode :=
  -- The last parent counts, as later expressions take over the children of earlier ones.
  nodes.modify child.raw fun node => { node with parent := some parent }

/-- Writes an expression at the next position. -/
def push (arena : Arena) (kind : ExprKind) (span : Span) : Arena :=
  let id : ExprId := ⟨arena.nodes.length⟩
  ⟨kind.children.foldl (adopt id) (arena.nodes ++ [⟨kind, none, span⟩])⟩

/-- Writes a method call. Its name is taken to follow the receiver and one more character, or to
open the call when it has no receiver in the arena. -/
def pushCall (arena : Arena) (receiver : Option ExprId) (name : String) (args : List ExprId)
    (span : Span) : Arena :=
  let start := match receiver.bind arena.get? with
    | some node => node.span.stop + 1
    | none => span.start
  arena.push (.call name receiver args ⟨start, start + name.utf8ByteSize⟩) span

/-! ## Enclosing expressions -/

/-- The expressions from `id` outwards, at most `limit` of them. -/
def outwards (arena : Arena) : Nat → Option ExprId → List ExprId
  | limit + 1, some id => id :: outwards arena limit ((arena.get? id).bind (·.parent))
  | _, _ => []

/-- The expressions around a position, innermost first. A parent stands behind its children, so no
chain is longer than the arena. -/
def ancestors (arena : Arena) (id : ExprId) : List ExprId :=
  arena.outwards arena.nodes.length ((arena.get? id).bind (·.parent))

/-- Whether the node at a position is of a given sort. -/
def isAt (arena : Arena) (sort : ExprKind → Bool) (id : ExprId) : Bool :=
  ((arena.get? id).map fun node => sort node.kind).getD false

/-- The innermost lambda around a position. -/
def enclosingLambda? (arena : Arena) (id : ExprId) : Option ExprId :=
  (arena.ancestors id).find? (arena.isAt ExprKind.isLambda)

/-- The innermost method call around a position. -/
def enclosingCall? (arena : Arena) (id : ExprId) : Option ExprId :=
  (arena.ancestors id).find? (arena.isAt ExprKind.isCall)

/-! ## Fluent chains -/

/-- The methods that open a fluent chain when they are called without arguments. -/
def starters : List String := ["create", "with", "find", "builder"]

/-- Whether an expression opens a fluent chain. -/
def isStarter : ExprKind → Bool
  | .call name _ args _ => args.isEmpty && starters.contains name
  | _ => false

/-- The call whose receiver continues the search from a call: the call that the innermost lambda
around it is passed to, or else the call itself. -/
def chainOwner (arena : Arena) (id : ExprId) : ExprId :=
  ((arena.enclosingLambda? id).bind arena.enclosingCall?).getD id

/-- The receiver of a method call. -/
def receiver? (arena : Arena) (id : ExprId) : Option ExprId :=
  (arena.get? id).bind fun node => match node.kind with
    | .call _ receiver _ _ => receiver
    | _ => none

/-- The search of `findRoot?`, through at most `limit` calls. -/
def rootWithin (arena : Arena) : Nat → ExprId → Option ExprId
  | 0, _ => none
  | limit + 1, id =>
    if !arena.isAt ExprKind.isCall id then none
    else if arena.isAt isStarter id then some id
    -- Any other call leaves the lambda that it stands in, even if its own receivers lead to a
    -- starter.
    else (arena.receiver? (arena.chainOwner id)).bind (rootWithin arena limit)

/-- The starter of the fluent chain that a call belongs to. A call inside a lambda continues with
the call that the lambda is passed to; from there the search follows the receivers. -/
def findRoot? (arena : Arena) (id : ExprId) : Option ExprId :=
  arena.rootWithin (arena.nodes.length + 1) id

end Arena

end PrototypeLens
