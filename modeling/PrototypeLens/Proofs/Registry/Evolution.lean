import PrototypeLens.Lookup.Class
import PrototypeLens.Proofs.Registry.Recording

/-!
# How the answers about declarations change

The registry keeps two answers about a declaration: its prototype and its origin. Looking for
templates leaves both alone, or drops those of all declarations at once. Registering declarations
adds a prototype and an origin together, except that the origin may be missing for as long as the
registration is under way.

## Layers

- `Spares`: what looking for templates does to the answers about declarations. It is reflexive and
  transitive, and holds of every operation on templates.
- `Stranded`: a prototype without an origin, which only a registration under way leaves behind.
- `Seals`: what registering declarations does, in terms of the names that are being registered.

## Main results

- `knownOrigin?_publishGenerated` and `knownOrigin?_publishNonGenerated`: a published origin is the
  first one, and comes with its file.
- `seals_publishGenerated` and `seals_publishNonGenerated`: publishing an origin strands nothing.
- `Seals.of_publishClass`: a registration that ends with a known origin, or in a later epoch,
  strands nothing either.
-/

namespace PrototypeLens

namespace Registry

variable {r r' r'' : Registry} {name : String}

/-! ## Looking for templates -/

/-- The answers about declarations are the same, or a later epoch has dropped them all. -/
inductive Spares (r r' : Registry) : Prop where
  | kept : r'.epoch = r.epoch → r'.classes = r.classes → r'.generated = r.generated →
      r'.nonGenerated = r.nonGenerated → Spares r r'
  | dropped : r.epoch < r'.epoch → r'.classes = ∅ → r'.generated = ∅ → r'.nonGenerated = [] →
      Spares r r'

namespace Spares

theorem refl (r : Registry) : r.Spares r := .kept rfl rfl rfl rfl

theorem trans (h : r.Spares r') (h' : r'.Spares r'') : r.Spares r'' := by
  -- The last change decides: it drops everything, or leaves what the first one left.
  cases h' with
  | kept hepoch hclasses hgenerated hnon =>
    cases h with
    | kept hepoch₁ hclasses₁ hgenerated₁ hnon₁ =>
      exact .kept (hepoch.trans hepoch₁) (hclasses.trans hclasses₁) (hgenerated.trans hgenerated₁)
        (hnon.trans hnon₁)
    | dropped hepoch₁ hclasses₁ hgenerated₁ hnon₁ =>
      exact .dropped (hepoch ▸ hepoch₁) (hclasses.trans hclasses₁) (hgenerated.trans hgenerated₁)
        (hnon.trans hnon₁)
  | dropped hepoch hclasses hgenerated hnon =>
    have hle : r.epoch ≤ r'.epoch := by
      cases h with
      | kept hepoch₁ _ _ _ => exact Nat.le_of_eq hepoch₁.symm
      | dropped hepoch₁ _ _ _ => exact Nat.le_of_lt hepoch₁
    exact .dropped (Nat.lt_of_le_of_lt hle hepoch) hclasses hgenerated hnon

end Spares

theorem spares_recordOwner? (r : Registry) (name : String) (file? : Option FileId) :
    r.Spares (r.recordOwner? name file?) := by
  cases file? <;> exact .kept rfl rfl rfl rfl

theorem spares_announceTemplate (r : Registry) (name : String) :
    r.Spares (r.announceTemplate name) := by
  unfold announceTemplate
  split
  · exact .refl r
  · exact .dropped (Nat.lt_succ_self _) rfl rfl rfl

theorem spares_publishTemplate (r : Registry) (epoch : Nat) (name : String)
    (file? : Option FileId) (defaults : Descriptor) :
    r.Spares (r.publishTemplate epoch name file? defaults) := by
  unfold publishTemplate
  split
  · have hsame : r.Spares { r with templates := r.templates.insertNew name defaults } :=
      .kept rfl rfl rfl rfl
    exact hsame.trans (spares_recordOwner? ..)
  · exact .refl r

theorem spares_denyTemplate (r : Registry) (name : String) (file? : Option FileId) :
    r.Spares (r.denyTemplate name file?) := by
  unfold denyTemplate
  split
  · exact .refl r
  · have hsame : r.Spares { r with nonTemplates := r.nonTemplates.add name } :=
      .kept rfl rfl rfl rfl
    exact hsame.trans (spares_recordOwner? ..)

theorem spares_recordDependent (r : Registry) (parent dependent : String) :
    r.Spares (r.recordDependent parent dependent) := .kept rfl rfl rfl rfl

theorem spares_publishValidator (r : Registry) (epoch : Nat) (name : String)
    (file? : Option FileId) (descriptor : ValidationDescriptor) :
    r.Spares (r.publishValidator epoch name file? descriptor) := by
  unfold publishValidator
  split
  · have hsame : r.Spares { r with validators := r.validators.insertNew name descriptor } :=
      .kept rfl rfl rfl rfl
    exact hsame.trans (spares_recordOwner? ..)
  · exact .refl r

/-! ## Registering declarations -/

/-- The prototype of a name is kept, but not whether it is generated. -/
def Stranded (r : Registry) (name : String) : Prop :=
  r.classes.get? name ≠ none ∧ Lookup.knownOrigin? r name = none

theorem Stranded.of_spares (h : r.Spares r') (hs : r'.Stranded name) : r.Stranded name := by
  obtain ⟨hclass, horigin⟩ := hs
  -- Where all prototypes were dropped, none is stranded.
  cases h with
  | kept _ hclasses hgenerated hnon =>
    refine ⟨hclasses ▸ hclass, ?_⟩
    rw [Lookup.knownOrigin?, hgenerated, hnon] at horigin
    exact horigin
  | dropped _ hclasses _ _ =>
    rw [hclasses] at hclass
    exact absurd rfl hclass

/-- What registering declarations does while those of `path` are being registered: no other name
becomes stranded, and the names of `path` lose their prototypes with the epoch. -/
structure Seals (path : NameSet) (r r' : Registry) : Prop where
  epoch_le : r.epoch ≤ r'.epoch
  stranded {name : String} : name ∉ path → r'.Stranded name → r.Stranded name
  /-- A name that is being registered gets no prototype. -/
  still_none {name : String} : name ∈ path → r.classes.get? name = none →
    r'.classes.get? name = none
  none_later {name : String} : name ∈ path → r'.epoch ≠ r.epoch → r'.classes.get? name = none

namespace Seals

variable {path : NameSet}

theorem of_spares (h : r.Spares r') : r.Seals path r' where
  epoch_le := by
    cases h with
    | kept hepoch _ _ _ => exact Nat.le_of_eq hepoch.symm
    | dropped hepoch _ _ _ => exact Nat.le_of_lt hepoch
  stranded _ hs := hs.of_spares h
  still_none _ hnone := by
    cases h with
    | kept _ hclasses _ _ => rw [hclasses, hnone]
    | dropped _ hclasses _ _ => rw [hclasses, Table.get?_empty]
  none_later _ hepoch := by
    cases h with
    | kept hsame _ _ _ => exact absurd hsame hepoch
    | dropped _ hclasses _ _ => rw [hclasses, Table.get?_empty]

theorem refl (r : Registry) : r.Seals path r := .of_spares (.refl r)

theorem trans (h : r.Seals path r') (h' : r'.Seals path r'') : r.Seals path r'' where
  epoch_le := Nat.le_trans h.epoch_le h'.epoch_le
  stranded hname hs := h.stranded hname (h'.stranded hname hs)
  still_none hname hnone := h'.still_none hname (h.still_none hname hnone)
  none_later hname hepoch := by
    -- The epoch changed in one of the two steps; what the first step drops the second does not
    -- bring back.
    by_cases hsame : r'.epoch = r.epoch
    · exact h'.none_later hname (hsame ▸ hepoch)
    · exact h'.still_none hname (h.none_later hname hsame)

end Seals

/-! ## Publishing origins -/

theorem knownOrigin?_eq_none_iff :
    Lookup.knownOrigin? r name = none ↔ r.generated.get? name = none ∧ name ∉ r.nonGenerated := by
  unfold Lookup.knownOrigin?
  cases r.generated.get? name <;> simp

theorem knownOrigin?_eq_some_some_iff {prototype : String} :
    Lookup.knownOrigin? r name = some (some prototype) ↔
      r.generated.get? name = some prototype := by
  unfold Lookup.knownOrigin?
  cases r.generated.get? name <;> simp

theorem knownOrigin?_eq_some_none_iff :
    Lookup.knownOrigin? r name = some none ↔
      r.generated.get? name = none ∧ name ∈ r.nonGenerated := by
  unfold Lookup.knownOrigin?
  cases r.generated.get? name <;> simp

theorem publishClass_classes_get?_of_ne (r : Registry) (epoch : Nat) {name other : String}
    (file : FileId) (prototype : Option Descriptor) (hother : other ≠ name) :
    (r.publishClass epoch name file prototype).classes.get? other = r.classes.get? other := by
  unfold publishClass
  split
  · rw [recordOwner, Table.get?_insertNew, if_neg hother]
  · rfl

@[simp] theorem knownOrigin?_publishClass (r : Registry) (epoch : Nat) (name other : String)
    (file : FileId) (prototype : Option Descriptor) :
    Lookup.knownOrigin? (r.publishClass epoch name file prototype) other =
      Lookup.knownOrigin? r other := by
  unfold publishClass
  split <;> rfl

@[simp] theorem publishClass_epoch (r : Registry) (epoch : Nat) (name : String) (file : FileId)
    (prototype : Option Descriptor) :
    (r.publishClass epoch name file prototype).epoch = r.epoch := by
  unfold publishClass
  split <;> rfl

@[simp] theorem publishGenerated_epoch (r : Registry) (epoch : Nat) (name : String) (file : FileId)
    (prototype : String) : (r.publishGenerated epoch name file prototype).epoch = r.epoch := by
  unfold publishGenerated
  split <;> rfl

@[simp] theorem publishNonGenerated_epoch (r : Registry) (epoch : Nat) (name : String)
    (file : FileId) : (r.publishNonGenerated epoch name file).epoch = r.epoch := by
  unfold publishNonGenerated
  split <;> rfl

@[simp] theorem publishClass_nonGenerated (r : Registry) (epoch : Nat) (name : String)
    (file : FileId) (prototype : Option Descriptor) :
    (r.publishClass epoch name file prototype).nonGenerated = r.nonGenerated := by
  unfold publishClass
  split <;> rfl

@[simp] theorem publishGenerated_nonGenerated (r : Registry) (epoch : Nat) (name : String)
    (file : FileId) (prototype : String) :
    (r.publishGenerated epoch name file prototype).nonGenerated = r.nonGenerated := by
  unfold publishGenerated
  split <;> rfl

theorem publishGenerated_of_epoch (r : Registry) (name : String) (file : FileId)
    (prototype : String) : r.publishGenerated r.epoch name file prototype =
      { r with generated := r.generated.insertNew name prototype }.recordOwner name file :=
  if_pos rfl

theorem publishNonGenerated_of_epoch (r : Registry) (name : String) (file : FileId) :
    r.publishNonGenerated r.epoch name file =
      { r with nonGenerated := r.nonGenerated.add name }.recordOwner name file :=
  if_pos rfl

theorem generated_get?_of_publishGenerated {name other : String} {file : FileId}
    {prototype : String}
    (h : (r.publishGenerated r.epoch name file prototype).generated.get? other = none) :
    r.generated.get? other = none := by
  -- Publishing under a name only fills its place.
  simp only [publishGenerated_of_epoch, recordOwner, Table.get?_insertNew] at h
  split at h
  · cases h
  · exact h

/-- An origin that is known after one was published was known before, or it is that one, and then
its file was recorded. -/
theorem knownOrigin?_publishGenerated {epoch : Nat} {other : String} {file : FileId}
    {prototype : String} {origin : Option String}
    (h : Lookup.knownOrigin? (r.publishGenerated epoch name file prototype) other = some origin) :
    Lookup.knownOrigin? r other = some origin ∨
      other = name ∧ origin = some prototype ∧
        (r.publishGenerated epoch name file prototype).owners.get? name = some file := by
  by_cases hepoch : r.epoch = epoch
  · subst hepoch
    cases origin with
    | none =>
      rw [knownOrigin?_eq_some_none_iff] at h ⊢
      -- An origin under a name outweighs its denial, so that the denial was in force before, too.
      have hnone := generated_get?_of_publishGenerated h.1
      rw [publishGenerated_of_epoch] at h
      exact .inl ⟨hnone, h.2⟩
    | some p =>
      rw [publishGenerated_of_epoch] at h ⊢
      rw [knownOrigin?_eq_some_some_iff] at h ⊢
      simp only [recordOwner, Table.get?_insertNew] at h
      by_cases hother : other = name
      · -- The first origin that is published under a name stays.
        subst hother
        rw [if_pos rfl] at h
        cases hget : r.generated.get? other with
        | none =>
          rw [hget] at h
          exact .inr ⟨rfl, by rw [← h]; rfl, by simp [recordOwner, Table.get?_insert]⟩
        | some kept =>
          rw [hget] at h
          exact .inl h
      · rw [if_neg hother] at h
        exact .inl h
  · rw [publishGenerated, if_neg hepoch] at h
    exact .inl h

/-- That there is no origin is likewise known from before, or recorded with its file. -/
theorem knownOrigin?_publishNonGenerated {epoch : Nat} {other : String} {file : FileId}
    {origin : Option String}
    (h : Lookup.knownOrigin? (r.publishNonGenerated epoch name file) other = some origin) :
    Lookup.knownOrigin? r other = some origin ∨
      other = name ∧ origin = none ∧
        (r.publishNonGenerated epoch name file).owners.get? name = some file := by
  by_cases hepoch : r.epoch = epoch
  · subst hepoch
    rw [publishNonGenerated_of_epoch] at h ⊢
    cases origin with
    | some p =>
      rw [knownOrigin?_eq_some_some_iff] at h ⊢
      exact .inl h
    | none =>
      rw [knownOrigin?_eq_some_none_iff] at h ⊢
      -- An origin that was known already outweighs the denial.
      rcases NameSet.mem_add.1 h.2 with rfl | hmem
      · exact .inr ⟨rfl, rfl, by simp [recordOwner, Table.get?_insert]⟩
      · exact .inl ⟨h.1, hmem⟩
  · rw [publishNonGenerated, if_neg hepoch] at h
    exact .inl h

/-- A published origin is known, if the epoch is still the same. -/
theorem knownOrigin?_publishGenerated_self (r : Registry) (name : String) (file : FileId)
    (prototype : String) :
    Lookup.knownOrigin? (r.publishGenerated r.epoch name file prototype) name ≠ none := by
  rw [publishGenerated_of_epoch, ne_eq, knownOrigin?_eq_none_iff]
  simp [recordOwner, Table.get?_insertNew]

theorem knownOrigin?_publishNonGenerated_self (r : Registry) (name : String) (file : FileId) :
    Lookup.knownOrigin? (r.publishNonGenerated r.epoch name file) name ≠ none := by
  rw [publishNonGenerated_of_epoch, ne_eq, knownOrigin?_eq_none_iff]
  simp [recordOwner, NameSet.mem_add]

/-- No origin is lost by publishing another. -/
theorem stranded_of_publishGenerated {epoch : Nat} {other : String} {file : FileId}
    {prototype : String} (h : (r.publishGenerated epoch name file prototype).Stranded other) :
    r.Stranded other := by
  obtain ⟨hclass, horigin⟩ := h
  rw [publishGenerated_classes] at hclass
  refine ⟨hclass, ?_⟩
  by_cases hepoch : r.epoch = epoch
  · subst hepoch
    rw [knownOrigin?_eq_none_iff] at horigin ⊢
    have hnone := generated_get?_of_publishGenerated horigin.1
    rw [publishGenerated_of_epoch] at horigin
    exact ⟨hnone, horigin.2⟩
  · rwa [publishGenerated, if_neg hepoch] at horigin

theorem stranded_of_publishNonGenerated {epoch : Nat} {other : String} {file : FileId}
    (h : (r.publishNonGenerated epoch name file).Stranded other) : r.Stranded other := by
  obtain ⟨hclass, horigin⟩ := h
  rw [publishNonGenerated_classes] at hclass
  refine ⟨hclass, ?_⟩
  by_cases hepoch : r.epoch = epoch
  · subst hepoch
    rw [publishNonGenerated_of_epoch, knownOrigin?_eq_none_iff] at horigin
    rw [knownOrigin?_eq_none_iff]
    exact ⟨horigin.1, fun hmem => horigin.2 (NameSet.mem_add.2 (.inr hmem))⟩
  · rwa [publishNonGenerated, if_neg hepoch] at horigin

/-! ## Sealing -/

theorem seals_publishGenerated {path : NameSet} (r : Registry) (epoch : Nat) (name : String)
    (file : FileId) (prototype : String) :
    r.Seals path (r.publishGenerated epoch name file prototype) where
  epoch_le := Nat.le_of_eq (publishGenerated_epoch ..).symm
  stranded _ hs := stranded_of_publishGenerated hs
  still_none _ hnone := by rw [publishGenerated_classes, hnone]
  none_later _ hepoch := absurd (publishGenerated_epoch ..) hepoch

theorem seals_publishNonGenerated {path : NameSet} (r : Registry) (epoch : Nat) (name : String)
    (file : FileId) : r.Seals path (r.publishNonGenerated epoch name file) where
  epoch_le := Nat.le_of_eq (publishNonGenerated_epoch ..).symm
  stranded _ hs := stranded_of_publishNonGenerated hs
  still_none _ hnone := by rw [publishNonGenerated_classes, hnone]
  none_later _ hepoch := absurd (publishNonGenerated_epoch ..) hepoch

/-- The registration of a name is over once its origin is known, or its prototype is gone with the
epoch. -/
theorem Seals.of_publishClass {path : NameSet} {epoch : Nat} {file : FileId}
    {prototype : Option Descriptor}
    (h : (r.publishClass epoch name file prototype).Seals (path.add name) r')
    (hname : name ∉ path) (hdone : ¬ r'.Stranded name) : r.Seals path r' where
  epoch_le := by simpa using h.epoch_le
  stranded {other} hother hs := by
    -- Only the name itself was published without its origin.
    have hne : other ≠ name := fun heq => hdone (heq ▸ hs)
    obtain ⟨hclass, horigin⟩ :=
      h.stranded (fun hmem => (NameSet.mem_add.1 hmem).elim hne hother) hs
    rw [publishClass_classes_get?_of_ne _ _ _ _ hne] at hclass
    rw [knownOrigin?_publishClass] at horigin
    exact ⟨hclass, horigin⟩
  still_none {other} hother hnone := by
    have hne : other ≠ name := fun heq => hname (heq ▸ hother)
    apply h.still_none (NameSet.mem_add.2 (.inr hother))
    rw [publishClass_classes_get?_of_ne _ _ _ _ hne, hnone]
  none_later hother hepoch :=
    h.none_later (NameSet.mem_add.2 (.inr hother)) (by simpa using hepoch)

end Registry

end PrototypeLens
