import PrototypeLens.Proofs.Session.Matching

/-!
# Recursive lookups

Lookups that call each other run under a limit, which no answer may show. Here a recursion is taken
apart into calls and computations, and what it is to return is said without a limit: a computation
returns if it comes out the same whatever would become of any computations but some nested ones,
which return themselves and are each for another subject than all those around them. Where guards
keep track of the subjects, and all of them but the last are among finitely many names, every call
is answered so.

## Layers

- `Recursion`: calls and computations, and `within`, which runs them under a limit.
- `Recursion.Returns` and `Recursion.Answers`: what it is to return without a limit. The nested
  computations are given by a relation, as no other one may have a part in the outcome.
- `Guarding` and `Guarded`: guards that tell the subjects under way, and recursions that respect
  them.
- `Guarding.Suffices`: a limit that is not reached. One computation further in, the limit and the
  names that are not yet met both decrease by one.

## Main results

- `Guarded.matches_within` and `matches_bounded`: neither limits nor the lists of names show.
- `Guarded.answers_within`: every call is answered, by computations that return.
-/

namespace PrototypeLens

open SessionM (Matches)

/-- A recursion of lookups. A call is answered at once or by a computation; a computation makes
further calls. -/
structure Recursion (γ ι κ α : Type) where
  /-- Answers a call, where `compute` runs computations. -/
  call : (ι → Lookup α) → γ → Lookup α
  /-- Runs a computation, where `recur` answers calls. -/
  compute : (γ → Lookup α) → ι → Lookup α
  /-- What a computation is for. -/
  subject : ι → κ

namespace Recursion

variable {γ ι κ α : Type}

/-- Answers a call through at most `limit` nested calls. -/
def within (R : Recursion γ ι κ α) : Nat → γ → Lookup α
  | 0, _ => throw .tooDeep
  | limit + 1, c => R.call (R.compute (R.within limit)) c

/-- A computation returns inside of others, which are for the subjects of a path. It is not cut
short, and the nested computations decide how it comes out, whatever would become of any other. -/
inductive Returns (R : Recursion γ ι κ α) :
    List κ → ι → Session → Except LookupError α × Session → Prop where
  | intro {path : List κ} {i : ι} {s : Session} {outcome : Except LookupError α × Session}
      (Nested : ι → Session → Except LookupError α × Session → Prop) :
      R.subject i ∉ path → outcome.1 ≠ .error .tooDeep →
      (∀ {j s' o}, Nested j s' o → Returns R (R.subject i :: path) j s' o) →
      (∀ run : ι → Lookup α, (∀ {j s' o}, Nested j s' o → (run j).exec s' = o) →
        (R.compute (R.call run) i).exec s = outcome) →
      Returns R path i s outcome

/-- A call is answered inside of computations for the subjects of a path: it is not cut short, and
computations that return decide how it comes out. -/
def Answers (R : Recursion γ ι κ α) (path : List κ) (c : γ) (s : Session)
    (outcome : Except LookupError α × Session) : Prop :=
  outcome.1 ≠ .error .tooDeep ∧ ∃ Nested : ι → Session → Except LookupError α × Session → Prop,
    (∀ {j s' o}, Nested j s' o → R.Returns path j s' o) ∧
    ∀ run : ι → Lookup α, (∀ {j s' o}, Nested j s' o → (run j).exec s' = o) →
      (R.call run c).exec s = outcome

/-! ## Guarded recursions -/

/-- How guards keep a recursion from going on for ever. -/
structure Guarding (γ ι : Type) where
  /-- The subjects of the computations under way. -/
  path : Guards → NameSet
  /-- Names that bound the recursion. -/
  names : List String
  /-- A call that may be made under given guards. -/
  Fresh : Guards → γ → Prop
  /-- A call that a computation makes. -/
  Nested : γ → Prop
  /-- A computation that makes no call unless its subject is among the names. -/
  Listed : ι → Prop

namespace Guarding

variable (G : Guarding γ ι) {g : Guards} {c : γ}

/-- How many names there are that no computation under way is for. -/
def unmet (met : NameSet) : Nat := (G.names.filter (· ∉ met)).length

theorem unmet_le (met : NameSet) : G.unmet met ≤ G.names.length := List.length_filter_le _ _

theorem unmet_cons_lt {met : NameSet} {name : String} (hname : name ∈ G.names)
    (hfresh : name ∉ met) : G.unmet (name :: met) < G.unmet met := by
  -- The new name is the one that is filtered out in addition.
  have hfilter : G.names.filter (· ∉ name :: met) =
      (G.names.filter (· ∉ met)).filter (· ≠ name) := by
    simp [List.filter_filter]
  rw [unmet, unmet, hfilter, List.length_filter_lt_length_iff_exists]
  exact ⟨name, by simp [hname, hfresh], by simp⟩

/-- The limit is not reached from a call. -/
structure Suffices (limit : Nat) (g : Guards) (c : γ) : Prop where
  fresh : G.Fresh g c
  /-- The outermost call need not be like the nested ones. -/
  enough : G.names.length + 2 ≤ limit ∨ G.Nested c ∧ G.unmet (G.path g) < limit

variable {G}

theorem Suffices.pos {limit : Nat} (h : G.Suffices limit g c) : limit ≠ 0 := by
  rintro rfl
  rcases h.enough with h | ⟨_, h⟩
  · exact absurd h (by omega)
  · exact absurd h (Nat.not_lt_zero _)

theorem Suffices.mono {limit limit' : Nat} (h : G.Suffices limit g c) (hle : limit ≤ limit') :
    G.Suffices limit' g c :=
  ⟨h.fresh, h.enough.imp (fun h => by omega) fun h => ⟨h.1, by omega⟩⟩

/-- One computation further in, the limit may be lower by one. -/
theorem Suffices.nested {limit : Nat} (h : G.Suffices (limit + 1) g c) {i : ι} {name : String}
    (hfresh : name ∉ G.path g) (hlisted : G.Nested c → G.Listed i) {g' : Guards} {c' : γ}
    (hpath : G.path g' = name :: G.path g) (hfresh' : G.Fresh g' c') (hnested : G.Nested c')
    (hname : G.Listed i → name ∈ G.names) : G.Suffices limit g' c' := by
  refine ⟨hfresh', .inr ⟨hnested, ?_⟩⟩
  rw [hpath]
  rcases h.enough with h | ⟨hc, h⟩
  · -- The outermost call has the slack of one computation that need not be listed.
    have := G.unmet_le (name :: G.path g)
    omega
  · have := G.unmet_cons_lt (hname (hlisted hc)) hfresh
    omega

end Guarding

/-- Two recursions match under guards: their calls do as far as computations for other subjects than
those under way do, and their computations as far as the calls do that they can make. -/
structure Guarded (K : Registry → Registry → Prop) (G : Guarding γ ι)
    (R R' : Recursion γ ι String α) : Prop where
  call {g : Guards} {c : γ} {run run' : ι → Lookup α} : G.Fresh g c →
    (∀ i, R.subject i ∉ G.path g → (G.Nested c → G.Listed i) → Matches K g (run i) (run' i)) →
    Matches K g (R.call run c) (R'.call run' c)
  compute {g : Guards} {i : ι} {recur recur' : γ → Lookup α} : R.subject i ∉ G.path g →
    (∀ g' c, G.path g' = R.subject i :: G.path g → G.Fresh g' c → G.Nested c →
      (G.Listed i → R.subject i ∈ G.names) → Matches K g' (recur c) (recur' c)) →
    Matches K g (R.compute recur i) (R'.compute recur' i)

namespace Guarded

variable {K : Registry → Registry → Prop} {G : Guarding γ ι} {R R' : Recursion γ ι String α}

/-- Limits that are not reached do not show. -/
theorem matches_within (h : Guarded K G R R') (limit : Nat) :
    ∀ (limit' : Nat) {g : Guards} {c : γ}, G.Suffices limit g c → G.Suffices limit' g c →
      Matches K g (R.within limit c) (R'.within limit' c) := by
  -- The induction is on the first limit; the other one is positive as long as it suffices.
  induction limit with
  | zero => exact fun _ _ _ hlimit _ => absurd rfl hlimit.pos
  | succ limit ih =>
    intro limit' g c hlimit hlimit'
    obtain ⟨limit', rfl⟩ := Nat.exists_eq_succ_of_ne_zero hlimit'.pos
    refine h.call hlimit.fresh fun i hfresh hlisted => ?_
    refine h.compute hfresh fun g' c' hpath hfresh' hnested hname => ?_
    exact ih limit' (hlimit.nested hfresh hlisted hpath hfresh' hnested hname)
      (hlimit'.nested hfresh hlisted hpath hfresh' hnested hname)

/-- The names that bound a recursion do not show either. -/
theorem matches_bounded {G' : Guarding γ ι} (h : Guarded K G R R') (h' : Guarded K G' R' R')
    {limit limit' : Nat} {g : Guards} {c : γ} (hlimit : G.Suffices limit g c)
    (hlimit' : G'.Suffices limit' g c) :
    Matches K g (R.within limit c) (R'.within limit' c) :=
  -- Both are compared with a run under the sum of the two limits.
  (h.matches_within limit (limit + limit') hlimit (hlimit.mono (by omega))).trans
    (h'.matches_within (limit + limit') limit' (hlimit'.mono (by omega)) hlimit')

/-- A computation returns if each of the calls is answered that it can make. -/
theorem returns_compute (h : Guarded K G R R) {recur : γ → Lookup α} {g : Guards} {i : ι}
    (hfresh : R.subject i ∉ G.path g)
    (hrecur : ∀ g' c, G.path g' = R.subject i :: G.path g → G.Fresh g' c → G.Nested c →
      (G.Listed i → R.subject i ∈ G.names) → Matches K g' (recur c) (recur c) ∧
        ∀ r, R.Answers (G.path g') c ⟨r, g'⟩ ((recur c).exec ⟨r, g'⟩)) (r : Registry) :
    R.Returns (G.path g) i ⟨r, g⟩ ((R.compute recur i).exec ⟨r, g⟩) := by
  have hself : Matches K g (R.compute recur i) (R.compute recur i) :=
    h.compute hfresh fun g' c' hpath hfresh' hnested hname =>
      (hrecur g' c' hpath hfresh' hnested hname).1
  -- All computations that return inside of this one may be its nested ones.
  refine .intro (R.Returns (R.subject i :: G.path g)) hfresh (hself.ne_tooDeep r) id
    fun run hrun => ?_
  refine (h.compute hfresh fun g' c' hpath hfresh' hnested hname => ?_).exec_eq r
  obtain ⟨hmatches, hanswers⟩ := hrecur g' c' hpath hfresh' hnested hname
  refine hmatches.of_exec_eq fun r' => ?_
  obtain ⟨_, Nested, hreturns, houtcome⟩ := hanswers r'
  exact houtcome run fun hn => hrun (hpath ▸ hreturns hn)

/-- A call that does not reach the limit is answered. -/
theorem answers_within (h : Guarded K G R R) (limit : Nat) :
    ∀ {g : Guards} {c : γ}, G.Suffices limit g c → ∀ r,
      R.Answers (G.path g) c ⟨r, g⟩ ((R.within limit c).exec ⟨r, g⟩) := by
  -- The induction is on the limit.
  induction limit with
  | zero => exact fun hlimit => absurd rfl hlimit.pos
  | succ limit ih =>
    intro g c hlimit r
    -- Whatever the call computes is fresh, so that one limit less suffices for what that calls.
    have hcalls {i : ι} (hfresh : R.subject i ∉ G.path g) (hlisted : G.Nested c → G.Listed i)
        (g' : Guards) (c' : γ) (hpath : G.path g' = R.subject i :: G.path g)
        (hfresh' : G.Fresh g' c') (hnested : G.Nested c')
        (hname : G.Listed i → R.subject i ∈ G.names) : G.Suffices limit g' c' :=
      hlimit.nested hfresh hlisted hpath hfresh' hnested hname
    have hself {i : ι} (hfresh : R.subject i ∉ G.path g) (hlisted : G.Nested c → G.Listed i) :
        Matches K g (R.compute (R.within limit) i) (R.compute (R.within limit) i) :=
      h.compute hfresh fun g' c' hpath hfresh' hnested hname =>
        have hlimit' := hcalls hfresh hlisted g' c' hpath hfresh' hnested hname
        h.matches_within limit limit hlimit' hlimit'
    have hmatches := h.matches_within (limit + 1) (limit + 1) hlimit hlimit
    refine ⟨hmatches.ne_tooDeep r, R.Returns (G.path g), id, fun run hrun => ?_⟩
    -- Only the computations that return are consulted, and those return by induction.
    refine (h.call hlimit.fresh fun i hfresh hlisted => ?_).exec_eq r
    refine (hself hfresh hlisted).of_exec_eq fun r' => hrun ?_
    refine h.returns_compute hfresh (fun g' c' hpath hfresh' hnested hname => ?_) r'
    have hlimit' := hcalls hfresh hlisted g' c' hpath hfresh' hnested hname
    exact ⟨h.matches_within limit limit hlimit' hlimit', ih hlimit'⟩

end Guarded

end Recursion

end PrototypeLens
