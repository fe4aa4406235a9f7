/-!
# Tables and name sets

Finite maps as lists of entries in which the first entry of a key counts, and finite sets of names.
A table is known by its `get?`; every operation says what it does to that.
-/

namespace PrototypeLens

/-! ## Tables -/

/-- A finite map. -/
structure Table (κ α : Type) where
  /-- The entries; the first one of a key counts. -/
  entries : List (κ × α) := []
deriving Repr

namespace Table

variable {κ α : Type} [DecidableEq κ]

/-- The table without entries. -/
def empty : Table κ α := ⟨[]⟩

instance : EmptyCollection (Table κ α) := ⟨empty⟩
instance : Inhabited (Table κ α) := ⟨empty⟩

/-- The value of a key. -/
def get? (t : Table κ α) (k : κ) : Option α := t.entries.lookup k

/-- Whether a key has a value. -/
def contains (t : Table κ α) (k : κ) : Bool := (t.get? k).isSome

/-- Removes a key. -/
def erase (t : Table κ α) (k : κ) : Table κ α := ⟨t.entries.filter fun entry => entry.1 ≠ k⟩

/-- Gives a key a value, in place of the one it has. -/
def insert (t : Table κ α) (k : κ) (v : α) : Table κ α := ⟨(k, v) :: (t.erase k).entries⟩

/-- Gives a key a value unless it has one. -/
def insertNew (t : Table κ α) (k : κ) (v : α) : Table κ α :=
  if t.contains k then t else ⟨(k, v) :: t.entries⟩

/-- The keys with a value that satisfies a condition. -/
def keysWhere (t : Table κ α) (p : α → Bool) : List κ :=
  (t.entries.map (·.1)).filter fun k => (t.get? k).any p

/-! ## What the operations do -/

@[simp] theorem get?_empty (k : κ) : (∅ : Table κ α).get? k = none := rfl

theorem get?_cons (k' : κ) (v : α) (entries : List (κ × α)) (k : κ) :
    (Table.mk ((k', v) :: entries)).get? k =
      if k = k' then some v else (Table.mk entries).get? k := by
  by_cases h : k = k'
  · subst h; simp [get?]
  · simp [get?, List.lookup_cons, h, beq_eq_false_iff_ne.2 h]

theorem get?_erase (t : Table κ α) (k k' : κ) :
    (t.erase k).get? k' = if k' = k then none else t.get? k' := by
  obtain ⟨entries⟩ := t
  induction entries with
  | nil => simp [erase, get?]
  | cons entry rest ih =>
    obtain ⟨a, v⟩ := entry
    simp only [erase, List.filter_cons] at ih ⊢
    by_cases ha : a = k
    · subst ha
      simp only [ne_eq, not_true_eq_false, decide_false, Bool.false_eq_true, ↓reduceIte]
      rw [ih, get?_cons]
      by_cases h : k' = a <;> simp [h]
    · simp only [ne_eq, ha, not_false_eq_true, decide_true, ↓reduceIte]
      rw [get?_cons, get?_cons, ih]
      by_cases h : k' = a
      · subst h; simp [ha]
      · simp [h]

theorem get?_insert (t : Table κ α) (k k' : κ) (v : α) :
    (t.insert k v).get? k' = if k' = k then some v else t.get? k' := by
  simp only [insert]
  rw [get?_cons]
  by_cases h : k' = k
  · simp [h]
  · have : (Table.mk (t.erase k).entries).get? k' = (t.erase k).get? k' := rfl
    rw [this, get?_erase]; simp [h]

theorem get?_insertNew (t : Table κ α) (k k' : κ) (v : α) :
    (t.insertNew k v).get? k' = if k' = k then some ((t.get? k).getD v) else t.get? k' := by
  cases hv : t.get? k with
  | none =>
    have : t.insertNew k v = ⟨(k, v) :: t.entries⟩ := by simp [insertNew, contains, hv]
    rw [this, get?_cons]; rfl
  | some w =>
    have : t.insertNew k v = t := by simp [insertNew, contains, hv]
    rw [this]
    by_cases h : k' = k
    · subst h; simp [hv]
    · simp [h]

/-- What a table tells is among its entries. -/
theorem mem_entries_of_get? {t : Table κ α} {k : κ} {v : α} (h : t.get? k = some v) :
    (k, v) ∈ t.entries := by
  obtain ⟨entries⟩ := t
  induction entries with
  | nil => simp [get?] at h
  | cons entry rest ih =>
    obtain ⟨a, w⟩ := entry
    rw [get?_cons] at h
    by_cases hk : k = a
    · simp only [hk, ↓reduceIte] at h
      cases h
      rw [hk]
      exact List.mem_cons_self
    · simp only [hk, ↓reduceIte] at h
      exact List.mem_cons_of_mem _ (ih h)

theorem mem_keys_of_get? {t : Table κ α} {k : κ} {v : α} (h : t.get? k = some v) :
    k ∈ t.entries.map (·.1) :=
  List.mem_map_of_mem (mem_entries_of_get? h)

theorem mem_keysWhere_iff {t : Table κ α} {p : α → Bool} {k : κ} :
    k ∈ t.keysWhere p ↔ ∃ v, t.get? k = some v ∧ p v = true := by
  simp only [keysWhere, List.mem_filter, Option.any_eq_true]
  constructor
  · rintro ⟨_, v, hv, hp⟩; exact ⟨v, hv, hp⟩
  · rintro ⟨v, hv, hp⟩; exact ⟨mem_keys_of_get? hv, v, hv, hp⟩

end Table

/-! ## Name sets -/

/-- A finite set of names. -/
abbrev NameSet := List String

namespace NameSet

def add (names : NameSet) (name : String) : NameSet := if name ∈ names then names else name :: names

/-- Removes a name. -/
def remove (names : NameSet) (name : String) : NameSet := names.filter (· ≠ name)

theorem mem_add {names : NameSet} {name other : String} :
    other ∈ names.add name ↔ other = name ∨ other ∈ names := by
  simp only [add]
  split
  · rename_i h
    exact ⟨Or.inr, fun h' => h'.elim (fun e => e ▸ h) id⟩
  · simp

theorem mem_remove {names : NameSet} {name other : String} :
    other ∈ names.remove name ↔ other ∈ names ∧ other ≠ name := by
  simp [remove]

end NameSet

end PrototypeLens
