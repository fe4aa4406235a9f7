import PrototypeLens.Lookup.Session

/-!
# Running session computations

What a computation makes of a session, as an equation for each way of building one. Proofs about
lookups rewrite with these equations and never look into the layers of the monad.

## Main results

- `exec_bind` and its forms for a known outcome: one computation after another.
- `exec_map`, `exec_discard` and `exec_within`: the other ways of composing.
- `exec_query_of_ok`, `exec_ask`, `exec_record` and the like: the single steps of a lookup.
- `SessionM.Yields`: a computation leaves the guards as they are, and comes to something of a given
  kind. `Yields.bind`, `Yields.after` and `Yields.within` compose.
-/

namespace PrototypeLens

variable {ε α β : Type}

namespace SessionM

/-- The result of a computation in a session, with the session after it. -/
def exec (m : SessionM ε α) (s : Session) : Except ε α × Session := m s

@[simp] theorem exec_pure (a : α) (s : Session) : (pure a : SessionM ε α).exec s = (.ok a, s) := rfl

theorem exec_bind (m : SessionM ε α) (f : α → SessionM ε β) (s : Session) :
    (m >>= f).exec s = match m.exec s with
      | (.ok a, s') => (f a).exec s'
      | (.error e, s') => (.error e, s') := by
  -- Here alone the layers of the monad are opened.
  show (ExceptT.bindCont f (m s).1) (m s).2 = _
  rw [exec]
  rcases m s with ⟨result, s'⟩
  cases result <;> rfl

theorem exec_bind_ok {m : SessionM ε α} {f : α → SessionM ε β} {s s' : Session} {a : α}
    (h : m.exec s = (.ok a, s')) : (m >>= f).exec s = (f a).exec s' := by
  rw [exec_bind, h]

theorem exec_bind_error {m : SessionM ε α} {f : α → SessionM ε β} {s s' : Session} {e : ε}
    (h : m.exec s = (.error e, s')) : (m >>= f).exec s = (.error e, s') := by
  rw [exec_bind, h]

/-- What returned was returned by its parts. -/
theorem exec_bind_eq_ok {m : SessionM ε α} {f : α → SessionM ε β} {s s' : Session} {b : β}
    (h : (m >>= f).exec s = (.ok b, s')) :
    ∃ a s₁, m.exec s = (.ok a, s₁) ∧ (f a).exec s₁ = (.ok b, s') := by
  rw [exec_bind] at h
  rcases hm : m.exec s with ⟨out, s₁⟩
  rw [hm] at h
  cases out with
  | error e => cases h
  | ok a => exact ⟨a, s₁, rfl, h⟩

theorem exec_map (f : α → β) (m : SessionM ε α) (s : Session) :
    (f <$> m).exec s = ((m.exec s).1.map f, (m.exec s).2) := by
  rw [← bind_pure_comp, exec_bind]
  rcases m.exec s with ⟨result, s'⟩
  cases result <;> rfl

theorem exec_discard (m : SessionM ε α) (s : Session) :
    (discard m).exec s = ((m.exec s).1.map fun _ => (), (m.exec s).2) :=
  exec_map _ m s

theorem exec_within (enter leave : Guards → Guards) (body : SessionM ε α) (s : Session) :
    (within enter leave body).exec s =
      ((body.exec { s with guards := enter s.guards }).1,
        { (body.exec { s with guards := enter s.guards }).2 with
          guards := leave (body.exec { s with guards := enter s.guards }).2.guards }) := rfl

/-- The result between two changes of the guards is that of the computation itself, and so is the
registry. -/
theorem exec_of_exec_within {enter leave : Guards → Guards} {body : SessionM ε α} {r : Registry}
    {g : Guards} {out : Except ε α} {s : Session}
    (h : (within enter leave body).exec ⟨r, g⟩ = (out, s)) :
    ∃ g', body.exec ⟨r, enter g⟩ = (out, ⟨s.registry, g'⟩) := by
  rcases hexec : body.exec ⟨r, enter g⟩ with ⟨out', s'⟩
  rw [exec_within, hexec] at h
  cases h
  exact ⟨s'.guards, rfl⟩

end SessionM

namespace Lookup

variable {r : Registry} {g : Guards}

theorem exec_query_of_ok {result : Except QueryError α} {a : α} (h : result = .ok a) :
    (query result).exec ⟨r, g⟩ = (.ok a, ⟨r, g⟩) := by
  rw [h]
  rfl

theorem exec_query_eq_ok {result : Except QueryError α} {a : α} {s s' : Session}
    (h : (query result).exec s = (.ok a, s')) : result = .ok a ∧ s' = s := by
  cases result with
  | error e => cases h
  | ok a =>
    cases h
    exact ⟨rfl, rfl⟩

@[simp] theorem exec_ofExcept (result : Except LookupError α) :
    (ofExcept result).exec ⟨r, g⟩ = (result, ⟨r, g⟩) := by
  cases result <;> rfl

@[simp] theorem exec_ask (view : Registry → α) :
    (ask view).exec ⟨r, g⟩ = (.ok (view r), ⟨r, g⟩) := rfl

@[simp] theorem exec_askGuards (view : Guards → α) :
    (askGuards view).exec ⟨r, g⟩ = (.ok (view g), ⟨r, g⟩) := rfl

@[simp] theorem exec_record (change : Registry → Registry) :
    (record change).exec ⟨r, g⟩ = (.ok (), ⟨change r, g⟩) := rfl

end Lookup

/-! ## What a computation yields -/

namespace SessionM

/-- The computation leaves the guards as they are, and `post` holds of its result and of the
registry after it. -/
def Yields (m : SessionM ε α) (r : Registry) (g : Guards) (post : Except ε α → Registry → Prop) :
    Prop :=
  ∃ out r', m.exec ⟨r, g⟩ = (out, ⟨r', g⟩) ∧ post out r'

variable {m : SessionM ε α} {f : α → SessionM ε β} {r r' : Registry} {g : Guards}
  {post mid : Except ε α → Registry → Prop} {post' : Except ε β → Registry → Prop}

theorem Yields.mono (h : m.Yields r g mid) (himp : ∀ out r', mid out r' → post out r') :
    m.Yields r g post := by
  obtain ⟨out, r', hexec, hmid⟩ := h
  exact ⟨out, r', hexec, himp out r' hmid⟩

/-- What is known of one run is known together. -/
theorem Yields.and {also : Except ε α → Registry → Prop} (h : m.Yields r g mid)
    (h' : m.Yields r g also) : m.Yields r g fun out r' => mid out r' ∧ also out r' := by
  obtain ⟨out, r', hexec, hmid⟩ := h
  obtain ⟨out', r'', hexec', halso⟩ := h'
  cases hexec.symm.trans hexec'
  exact ⟨out, r', hexec, hmid, halso⟩

theorem yields_pure {a : α} (h : post (.ok a) r) : (pure a : SessionM ε α).Yields r g post :=
  ⟨_, _, rfl, h⟩

theorem yields_throw {e : ε} (h : post (.error e) r) : (throw e : SessionM ε α).Yields r g post :=
  ⟨_, _, rfl, h⟩

/-- One computation after another: what the first one yields has to suffice for the second one, or
for a failure. -/
theorem Yields.bind (h : m.Yields r g mid) (hok : ∀ a r', mid (.ok a) r' → (f a).Yields r' g post')
    (herror : ∀ e r', mid (.error e) r' → post' (.error e) r') : (m >>= f).Yields r g post' := by
  obtain ⟨out, r', hexec, hmid⟩ := h
  -- The second computation starts from what the first one has come to.
  cases out with
  | ok a =>
    obtain ⟨out', r'', hexec', hpost⟩ := hok a r' hmid
    exact ⟨out', r'', by rw [exec_bind_ok hexec, hexec'], hpost⟩
  | error e => exact ⟨.error e, r', exec_bind_error hexec, herror e r' hmid⟩

/-- One computation after another, where the first one is known to succeed. -/
theorem Yields.after {a : α} (hexec : m.exec ⟨r, g⟩ = (.ok a, ⟨r', g⟩))
    (h : (f a).Yields r' g post') : (m >>= f).Yields r g post' := by
  obtain ⟨out, r'', hexec', hpost⟩ := h
  exact ⟨out, r'', by rw [exec_bind_ok hexec, hexec'], hpost⟩

theorem Yields.map {f : α → β} (h : m.Yields r g fun out r' => post' (out.map f) r') :
    (f <$> m).Yields r g post' := by
  obtain ⟨out, r', hexec, hpost⟩ := h
  exact ⟨out.map f, r', by rw [exec_map, hexec], hpost⟩

theorem Yields.discard {post' : Except ε Unit → Registry → Prop}
    (h : m.Yields r g fun out r' => post' (out.map fun _ => ()) r') :
    (discard m).Yields r g post' :=
  h.map

/-- Guards that are taken back afterwards do not show. -/
theorem Yields.within {enter leave : Guards → Guards} (hleave : leave (enter g) = g)
    (h : m.Yields r (enter g) post) : (SessionM.within enter leave m).Yields r g post := by
  obtain ⟨out, r', hexec, hpost⟩ := h
  exact ⟨out, r', by rw [exec_within, hexec, hleave], hpost⟩

theorem Yields.nested (h : m.Yields r { g with depth := g.depth + 1 } post) :
    (SessionM.nested m).Yields r g post :=
  h.within rfl

end SessionM

namespace Lookup

variable {r : Registry} {g : Guards} {post : Except LookupError α → Registry → Prop}

theorem yields_query {result : Except QueryError α} (h : post (result.mapError .query) r) :
    (query result).Yields r g post := by
  cases result with
  | ok a => exact ⟨_, _, rfl, h⟩
  | error e => exact ⟨_, _, rfl, h⟩

theorem yields_ofExcept (result : Except LookupError α) :
    (ofExcept result).Yields r g fun out r' => out = result ∧ r' = r :=
  ⟨_, _, exec_ofExcept result, rfl, rfl⟩

end Lookup

/-- A name that was not in a set is taken off again. -/
theorem NameSet.remove_add {names : NameSet} {name : String} (h : name ∉ names) :
    (names.add name).remove name = names := by
  rw [add, if_neg h, remove, List.filter_cons_of_neg (by simp)]
  -- Only the name itself is taken off, and it was not there.
  refine List.filter_eq_self.2 fun other hother => ?_
  have hne : other ≠ name := fun e => h (e ▸ hother)
  simp [hne]

/-! ## Limits -/

/-- A limit on the nesting outlasts a path: the path is of different members of a list, and the
limit exceeds the number of those that are not on it. -/
structure Outlasts {κ : Type} (limit : Nat) (path all : List κ) : Prop where
  nodup : path.Nodup
  subset : path ⊆ all
  lt : all.length < limit + path.length

namespace Outlasts

variable {κ : Type} {limit : Nat} {path all : List κ} {k : κ}

/-- At the start the path is empty, and the limit exceeds the whole list. -/
theorem start (hpath : path = []) (h : all.length < limit) : Outlasts limit path all := by
  subst hpath
  exact ⟨.nil, List.nil_subset _, h⟩

/-- A path of different members is no longer than the list. -/
theorem not_zero : ¬ Outlasts 0 path all := by
  intro h
  have hlength : path.length ≤ all.length := h.nodup.length_le_of_subset h.subset
  have hlt := h.lt
  omega

/-- A new member on the path makes up for the smaller limit. -/
theorem cons (h : Outlasts (limit + 1) path all) (hmem : k ∈ all) (hnew : k ∉ path) :
    Outlasts limit (k :: path) all where
  nodup := List.nodup_cons.2 ⟨hnew, h.nodup⟩
  subset := List.cons_subset.2 ⟨hmem, h.subset⟩
  lt := by
    have hlt := h.lt
    simp only [List.length_cons]
    omega

theorem add {path names : NameSet} {name : String} (h : Outlasts (limit + 1) path names)
    (hmem : name ∈ names) (hnew : name ∉ path) : Outlasts limit (path.add name) names := by
  rw [NameSet.add, if_neg hnew]
  exact h.cons hmem hnew

end Outlasts

end PrototypeLens
