import PrototypeLens.Editor.Usage
import PrototypeLens.Program
import PrototypeLens.Proofs.Walk.Mapping

/-!
# Relaying cancellation

Two computations, where the host of the first one may have cancelled queries that the host of the
second one answers. The first one relays cancellation if it is itself cancelled as soon as one of
its queries is: it is cancelled, or both end alike. Every way of composing computations keeps this,
as long as failures are told apart from cancellation before they are caught.

## Layers

- `Cancellable` and `Relays`: outcomes that may say that the host cancelled, and the relation
  between two of them. It passes through `bind`, `map`, `mapM`, `foldlM` and walks over graphs.
- `Host.Cancels`, `Host.AgreesOn` and `Host.RelaysTo`: hosts that answer alike what is not
  cancelled.
- `RelaysRun`: the same for computations, from every state.

## Main results

- `Host.AgreesOn.relaysTo`: hosts that agree on what is not cancelled relay, and the cause of every
  cancellation is a query that the first one cancels.
- `Graph.relays_walkFrom`: a walk relays if asking for its nodes does.
- `RelaysRun.bind` and `RelaysRun.contain`: computations in a row, and caught failures.
-/

namespace PrototypeLens

/-- Outcomes, some of which say that the host cancelled the request. -/
class Cancellable (γ : Type) where
  IsCancelled : γ → Prop

open Cancellable (IsCancelled)

instance : Cancellable QueryError := ⟨(· = .cancelled)⟩

instance : Cancellable LookupError := ⟨(·.isCancelled = true)⟩

instance : Cancellable Cancelled := ⟨fun _ => True⟩

theorem LookupError.isCancelled_query {e : QueryError} :
    (LookupError.query e).isCancelled = true ↔ e = .cancelled := by
  cases e <;> simp [isCancelled]

/-- A result is cancelled if it is a failure that is. -/
instance {ε α : Type} [Cancellable ε] : Cancellable (Except ε α) where
  IsCancelled
    | .ok _ => False
    | .error e => IsCancelled e

/-- A result together with the state after it is cancelled if the result is. -/
instance {γ σ : Type} [Cancellable γ] : Cancellable (γ × σ) := ⟨fun x => IsCancelled x.1⟩

/-! ## Outcomes -/

/-- The first outcome is cancelled, for which there is a cause, or both are the same and not
cancelled. -/
inductive Relays {γ : Type} [Cancellable γ] (cause : Prop) (x y : γ) : Prop where
  | cancelled : cause → IsCancelled x → Relays cause x y
  | same : y = x → ¬ IsCancelled x → Relays cause x y

namespace Relays

variable {γ δ ε α β : Type} {cause : Prop}

/-- What is made of an outcome without losing or inventing a cancellation. -/
theorem after [Cancellable γ] [Cancellable δ] {x y : γ} (h : Relays cause x y) {f : γ → δ}
    (hf : ∀ z, IsCancelled (f z) ↔ IsCancelled z) : Relays cause (f x) (f y) := by
  -- What is made of a cancelled outcome is cancelled as well, and of the same outcomes the same is
  -- made.
  cases h with
  | cancelled hcause hx => exact .cancelled hcause ((hf x).2 hx)
  | same heq hx => exact .same (congrArg f heq) fun hc => hx ((hf x).1 hc)

/-- An answer that is the same unless it is cancelled. -/
theorem of_answer {x y : Except QueryError α} (hcause : x = .error .cancelled → cause)
    (hsame : x ≠ .error .cancelled → y = x) : Relays cause x y := by
  by_cases hx : x = .error .cancelled
  · exact .cancelled (hcause hx) (by rw [hx]; rfl)
  · refine .same (hsame hx) fun hc => hx ?_
    cases x with
    | ok a => exact hc.elim
    | error e => rw [show e = .cancelled from hc]

/-- Answers are the same, or the first one is cancelled. -/
@[elab_as_elim]
theorem elim {motive : Except QueryError α → Except QueryError α → Prop}
    {x y : Except QueryError α} (h : Relays cause x y)
    (cancelled : cause → ∀ y, motive (.error .cancelled) y)
    (same : ∀ x, x ≠ .error .cancelled → motive x x) : motive x y := by
  cases h with
  | cancelled hcause hx =>
    cases x with
    | ok a => exact hx.elim
    | error e =>
      cases hx
      exact cancelled hcause y
  | same heq hx =>
    subst heq
    exact same y fun hc => hx (by rw [hc]; rfl)

variable [Cancellable ε]

theorem ok (a : α) : Relays cause (.ok a : Except ε α) (.ok a) := .same rfl id

theorem bind {x y : Except ε α} {f g : α → Except ε β} (h : Relays cause x y)
    (hf : ∀ a, Relays cause (f a) (g a)) : Relays cause (x >>= f) (y >>= g) := by
  -- A cancelled outcome ends the first computation here, whatever the second one goes on to do.
  cases h with
  | cancelled hcause hx =>
    cases x with
    | ok a => exact hx.elim
    | error e => exact .cancelled hcause hx
  | same heq hx =>
    subst heq
    cases y with
    | ok a => exact hf a
    | error e => exact .same rfl hx

theorem map {x y : Except ε α} (h : Relays cause x y) (f : α → β) :
    Relays cause (x.map f) (y.map f) :=
  h.after fun z => by cases z <;> exact Iff.rfl

theorem mapM {f g : α → Except ε β} (h : ∀ a, Relays cause (f a) (g a)) (as : List α) :
    Relays cause (as.mapM f) (as.mapM g) := by
  -- The results so far are the same on both sides, or the first side is cancelled already.
  induction as with
  | nil => exact .ok []
  | cons a as ih =>
    rw [List.mapM_cons, List.mapM_cons]
    exact (h a).bind fun b => ih.bind fun bs => .ok _

theorem foldlM {f g : β → α → Except ε β} (h : ∀ b a, Relays cause (f b a) (g b a))
    (as : List α) : ∀ b, Relays cause (as.foldlM f b) (as.foldlM g b) := by
  induction as with
  | nil => exact fun b => .ok b
  | cons a as ih => exact fun b => (h b a).bind ih

end Relays

/-- A walk relays cancellation if asking for its nodes does. -/
theorem Graph.relays_walkFrom {ε κ α : Type} [DecidableEq κ] [Cancellable ε] {cause : Prop}
    {g g' : Graph ε κ α} (h : ∀ n, Relays cause (g.expand n) (g'.expand n)) (goal : κ → Bool)
    (seen queue : List κ) :
    Relays cause (g.walkFrom goal seen queue) (g'.walkFrom goal seen queue) := by
  -- The cases are those of the walk: nothing left, a node that was seen, the goal, and the three
  -- answers that a node may get.
  fun_induction walkFrom g goal seen queue with
  | case1 seen =>
    rw [walkFrom]
    exact .ok _
  | case2 seen n rest hn ih =>
    rw [walkFrom, dif_pos hn]
    exact ih
  | case3 seen n rest hn hg =>
    rw [walkFrom, dif_neg hn, if_pos hg]
    exact .ok _
  | case4 seen n rest hn hg e hexpand =>
    -- A failure ends both walks here unless it is a cancellation.
    rw [walkFrom_cons hn hg]
    have hnode := h n
    rw [hexpand] at hnode
    cases hnode with
    | cancelled hcause he => exact .cancelled hcause he
    | same heq he =>
      rw [heq]
      exact .same rfl he
  | case5 seen n rest hn hg hexpand ih =>
    rw [walkFrom_cons hn hg]
    have hnode := h n
    rw [hexpand] at hnode
    cases hnode with
    | cancelled _ he => exact he.elim
    | same heq _ =>
      rw [heq]
      exact ih
  | case6 seen n rest hn hg a next hexpand ih =>
    rw [walkFrom_cons hn hg]
    have hnode := h n
    rw [hexpand] at hnode
    cases hnode with
    | cancelled _ he => exact he.elim
    | same heq _ =>
      rw [heq]
      exact ih.map _

/-! ## Hosts -/

namespace Host

/-- The host cancels a query. -/
def Cancels (host : Host) : Query → Prop
  | .find name => host.find name = .error .cancelled
  | .declaration id => host.declaration id = .error .cancelled
  | .file id => host.file id = .error .cancelled
  | .declarationsIn id => host.declarationsIn id = .error .cancelled

/-- Two hosts answer a query alike. -/
def SameAnswer (host host' : Host) : Query → Prop
  | .find name => host'.find name = host.find name
  | .declaration id => host'.declaration id = host.declaration id
  | .file id => host'.file id = host.file id
  | .declarationsIn id => host'.declarationsIn id = host.declarationsIn id

/-- Two hosts of the same names, identifiers and archives answer the given queries alike. -/
structure AgreesOn (asked : Query → Prop) (host host' : Host) : Prop where
  answer {q : Query} : asked q → host.SameAnswer host' q
  names : host'.names = host.names
  ids : host'.ids = host.ids
  classpath : host'.classpath = host.classpath
  archiveAt : host'.archiveAt = host.archiveAt

/-- Every answer of the host relays cancellation to that of another host. -/
structure RelaysTo (host host' : Host) (cause : Prop) : Prop where
  find (name : String) : Relays cause (host.find name) (host'.find name)
  declaration (id : DeclId) : Relays cause (host.declaration id) (host'.declaration id)
  file (id : FileId) : Relays cause (host.file id) (host'.file id)
  declarationsIn (id : FileId) : Relays cause (host.declarationsIn id) (host'.declarationsIn id)
  names : host'.names = host.names
  ids : host'.ids = host.ids
  classpath : host'.classpath = host.classpath
  archiveAt : host'.archiveAt = host.archiveAt

/-- A host that answers alike what is not cancelled: the cause of a cancellation is a query that the
host cancels. -/
theorem AgreesOn.relaysTo {host host' : Host} (h : host.AgreesOn (¬ host.Cancels ·) host') :
    host.RelaysTo host' (∃ q, host.Cancels q) where
  find name := .of_answer (fun hc => ⟨.find name, hc⟩) (h.answer (q := .find name))
  declaration id :=
    .of_answer (fun hc => ⟨.declaration id, hc⟩) (h.answer (q := .declaration id))
  file id := .of_answer (fun hc => ⟨.file id, hc⟩) (h.answer (q := .file id))
  declarationsIn id :=
    .of_answer (fun hc => ⟨.declarationsIn id, hc⟩) (h.answer (q := .declarationsIn id))
  names := h.names
  ids := h.ids
  classpath := h.classpath
  archiveAt := h.archiveAt

namespace RelaysTo

variable {host host' : Host} {cause : Prop} (h : host.RelaysTo host' cause)
include h

theorem findData (name : String) :
    Relays cause (host.findData name) (host'.findData name) := by
  -- The second query is asked only if the first one found something, on both sides alike.
  refine (h.find name).bind fun found => ?_
  cases found with
  | none => exact .ok _
  | some id => exact (h.declaration id).bind fun decl => .ok _

/-! ## Types -/

theorem walk_typeGraph (neighbours : Declaration → Option (List String)) (starts : List String)
    (goal : String → Bool) : Relays cause ((host.typeGraph neighbours).walk starts goal)
      ((host'.typeGraph neighbours).walk starts goal) :=
  Graph.relays_walkFrom (fun name => (h.findData name).map _) goal [] starts

theorem isAssignable (source : JavaType) (target : String) :
    Relays cause (host.isAssignable source target) (host'.isAssignable source target) := by
  -- Only the last case asks the host: whether the target is among the supertypes.
  unfold Host.isAssignable
  split
  · exact .ok _
  · split
    · exact .ok _
    · exact .ok _
    · exact .ok _
    · split
      · exact .ok _
      · exact (h.walk_typeGraph _ _ _).map _

theorem walk_hierarchy (starts : List DeclId) :
    Relays cause (host.hierarchy.walk starts) (host'.hierarchy.walk starts) := by
  refine Graph.relays_walkFrom (fun id => ?_) _ [] starts
  exact (h.declaration id).bind fun decl => (Relays.mapM h.find _).bind fun _ => .ok _

end RelaysTo

end Host

/-! ## Computations -/

/-- The first computation relays cancellation to the second one, in every state. -/
def RelaysRun {ε α σ : Type} [Cancellable ε] (cause : Prop) (m m' : ExceptT ε (StateM σ) α) :
    Prop :=
  ∀ s : σ, Relays (γ := Except ε α × σ) cause (m s) (m' s)

namespace RelaysRun

section

variable {ε α β σ : Type} [Cancellable ε] {cause : Prop} {m m' : ExceptT ε (StateM σ) α}
  {f f' : α → ExceptT ε (StateM σ) β}

theorem pure (a : α) : RelaysRun cause (Pure.pure a : ExceptT ε (StateM σ) α) (Pure.pure a) :=
  fun _ => .same rfl id

theorem bind (h : RelaysRun cause m m') (hf : ∀ a, RelaysRun cause (f a) (f' a)) :
    RelaysRun cause (m >>= f) (m' >>= f') := by
  intro s
  -- The outcomes are compared together with the states, so that a run that is not cancelled leaves
  -- the same state on both sides.
  have hs := h s
  show Relays (γ := Except ε β × σ) cause (ExceptT.bindCont f (m s).1 (m s).2)
    (ExceptT.bindCont f' (m' s).1 (m' s).2)
  generalize (m s : Except ε α × σ) = x at hs ⊢
  generalize (m' s : Except ε α × σ) = y at hs ⊢
  obtain ⟨out, s'⟩ := x
  cases hs with
  | cancelled hcause hx =>
    cases out with
    | ok a => exact hx.elim
    | error e => exact .cancelled hcause hx
  | same heq hx =>
    subst heq
    cases out with
    | ok a => exact hf a s'
    | error e => exact .same rfl hx

theorem map (h : RelaysRun cause m m') (f : α → β) : RelaysRun cause (f <$> m) (f <$> m') := by
  rw [← bind_pure_comp, ← bind_pure_comp]
  exact h.bind fun _ => .pure _

theorem mapM (h : ∀ a, RelaysRun cause (f a) (f' a)) (as : List α) :
    RelaysRun cause (as.mapM f) (as.mapM f') := by
  induction as with
  -- What is done for each item is a computation of its own, from the state that the items before it
  -- left.
  | nil => exact .pure []
  | cons a as ih =>
    rw [List.mapM_cons, List.mapM_cons]
    exact (h a).bind fun b => ih.bind fun bs => .pure _

theorem forM {f f' : α → ExceptT ε (StateM σ) Unit} (h : ∀ a, RelaysRun cause (f a) (f' a))
    (as : List α) : RelaysRun cause (as.forM f) (as.forM f') := by
  induction as with
  | nil => exact .pure _
  | cons a as ih => exact (h a).bind fun _ => ih

/-- What runs a computation and makes something of its outcome and of the state after it. -/
theorem after {ε' τ : Type} [Cancellable ε'] {n n' : ExceptT ε' (StateM τ) β}
    (h : RelaysRun cause m m') (enter : τ → σ) (leave : τ → Except ε α × σ → Except ε' β × τ)
    (hn : ∀ t, n t = leave t (m (enter t))) (hn' : ∀ t, n' t = leave t (m' (enter t)))
    (hleave : ∀ t z, IsCancelled (leave t z) ↔ IsCancelled z) : RelaysRun cause n n' := by
  intro t
  have ht := (h (enter t)).after (f := leave t) (hleave t)
  rwa [← hn, ← hn'] at ht

end

variable {ε α : Type} [Cancellable ε] {cause : Prop}

theorem within {m m' : SessionM ε α} (h : RelaysRun cause m m') (enter leave : Guards → Guards) :
    RelaysRun cause (SessionM.within enter leave m) (SessionM.within enter leave m') :=
  h.after (fun s => { s with guards := enter s.guards })
    (fun _ z => (z.1, { z.2 with guards := leave z.2.guards })) (fun _ => rfl) (fun _ => rfl)
    fun _ _ => Iff.rfl

theorem nested {m m' : SessionM ε α} (h : RelaysRun cause m m') :
    RelaysRun cause (SessionM.nested m) (SessionM.nested m') :=
  h.within _ _

end RelaysRun

/-! ## Lookups -/

namespace Lookup

variable {α : Type} {cause : Prop}

theorem relaysRun_query {x y : Except QueryError α} (h : Relays cause x y) :
    RelaysRun cause (query x) (query y) :=
  -- A query that fails makes the lookup fail, and cancelled exactly if the query was.
  fun s => h.after (δ := Except LookupError α × Session) (f := fun x => query x s) fun z => by
    cases z with
    | ok a => exact Iff.rfl
    | error e => exact LookupError.isCancelled_query

theorem relaysRun_ofExcept {x y : Except LookupError α} (h : Relays cause x y) :
    RelaysRun cause (ofExcept x) (ofExcept y) :=
  fun s => h.after (δ := Except LookupError α × Session) (f := fun x => ofExcept x s) fun z => by
    cases z <;> exact Iff.rfl

theorem relaysRun_tooDeep : RelaysRun cause (throw .tooDeep : Lookup α) (throw .tooDeep) :=
  fun _ => .same rfl fun hc => by cases hc

theorem relaysRun_ask (view : Registry → α) : RelaysRun cause (ask view) (ask view) :=
  fun _ => .same rfl id

theorem relaysRun_askGuards (view : Guards → α) :
    RelaysRun cause (askGuards view) (askGuards view) :=
  fun _ => .same rfl id

theorem relaysRun_record (change : Registry → Registry) :
    RelaysRun cause (record change) (record change) :=
  fun _ => .same rfl id

end Lookup

/-- A contained lookup relays cancellation, which is told apart before another failure is
answered. -/
theorem RelaysRun.contain {α : Type} {cause : Prop} {lookup lookup' : Lookup α}
    (h : RelaysRun cause lookup lookup') (nothing : α) :
    RelaysRun cause (Request.contain nothing lookup) (Request.contain nothing lookup') := by
  refine h.after id (fun _ z => (Request.contained nothing z.1, z.2)) (fun _ => rfl)
    (fun _ => rfl) fun _ z => ?_
  obtain ⟨out, s⟩ := z
  -- Containment looks at the failure first: a cancellation passes, and the rest is answered.
  cases out with
  | ok a => exact Iff.rfl
  | error e =>
    by_cases he : e.isCancelled = true
    · simp [IsCancelled, Request.contained, he]
    · simp [IsCancelled, Request.contained, he]

end PrototypeLens
