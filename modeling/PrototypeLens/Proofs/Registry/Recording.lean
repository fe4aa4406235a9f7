import PrototypeLens.Registry.Basic

/-!
# What recording leaves alone

Every operation of the registry changes a few of its tables. For each operation and each table that
a proof asks about: what stands in it afterwards.

## Layers

- `recordOwner?_classes` and its likes: recording an owner changes the table of owners only.
- `SameTemplates`: a change that is not about templates, which holds of publishing prototypes,
  origins and validation.

## Main results

- `publishTemplate_templates_get?`, `publishClass_classes_get?`, `publishValidator_validators_get?`:
  an answer that is kept afterwards was kept before or is the published one. The first publication
  under a name stays.
- `mem_denyTemplate` and `mem_denyTemplate_self`: exactly a name that is not known gets denied.
- `mem_announceTemplate_nonTemplates` and `subset_announceTemplate`: what a new template leaves
  denied.
-/

namespace PrototypeLens

namespace Registry

variable (r : Registry) (name other : String) (file : FileId) (file? : Option FileId)
  (epoch : Nat)

/-! ## Owners and dependents -/

@[simp] theorem recordOwner?_epoch : (r.recordOwner? name file?).epoch = r.epoch := by
  cases file? <;> rfl

@[simp] theorem recordOwner?_classes : (r.recordOwner? name file?).classes = r.classes := by
  cases file? <;> rfl

@[simp] theorem recordOwner?_templates : (r.recordOwner? name file?).templates = r.templates := by
  cases file? <;> rfl

@[simp] theorem recordOwner?_knownTemplates :
    (r.recordOwner? name file?).knownTemplates = r.knownTemplates := by
  cases file? <;> rfl

@[simp] theorem recordOwner?_nonTemplates :
    (r.recordOwner? name file?).nonTemplates = r.nonTemplates := by
  cases file? <;> rfl

@[simp] theorem recordOwner?_validators :
    (r.recordOwner? name file?).validators = r.validators := by
  cases file? <;> rfl

@[simp] theorem recordOwner?_dependents :
    (r.recordOwner? name file?).dependents = r.dependents := by
  cases file? <;> rfl

/-! ## Announcing and publishing templates -/

@[simp] theorem mem_announceTemplate_knownTemplates :
    other ∈ (r.announceTemplate name).knownTemplates ↔ other = name ∨ other ∈ r.knownTemplates := by
  unfold announceTemplate
  split
  · rename_i hk
    exact ⟨Or.inr, fun h => h.elim (fun e => e ▸ hk) id⟩
  · exact NameSet.mem_add

/-- What is announced is known. -/
theorem mem_knownTemplates_announceTemplate : name ∈ (r.announceTemplate name).knownTemplates :=
  (r.mem_announceTemplate_knownTemplates name name).2 (.inl rfl)

/-- What was known stays so. -/
theorem knownTemplates_subset_announceTemplate :
    r.knownTemplates ⊆ (r.announceTemplate name).knownTemplates := fun other hk =>
  (r.mem_announceTemplate_knownTemplates name other).2 (.inr hk)

/-- A template is announced with nothing kept, unless it was known. -/
theorem announceTemplate_templates_get? {d : Descriptor}
    (h : (r.announceTemplate name).templates.get? other = some d) :
    name ∈ r.knownTemplates ∧ r.templates.get? other = some d := by
  unfold announceTemplate at h
  -- Only a template that is known already leaves the defaults that are kept.
  split at h
  · rename_i hk
    exact ⟨hk, h⟩
  · cases h

theorem announceTemplate_templates_get?_eq_none (h : r.templates.get? other = none) :
    (r.announceTemplate name).templates.get? other = none := by
  cases hget : (r.announceTemplate name).templates.get? other with
  | none => rfl
  | some d => exact absurd (r.announceTemplate_templates_get? name other hget).2 (by simp [h])

theorem mem_announceTemplate_nonTemplates
    (h : other ∈ (r.announceTemplate name).nonTemplates) :
    other ∈ neverTemplates ∨ other ∈ r.nonTemplates := by
  unfold announceTemplate at h
  split at h
  · exact .inr h
  · exact .inl h

theorem subset_announceTemplate {barred : NameSet} (hnever : barred ⊆ neverTemplates)
    (h : barred ⊆ r.nonTemplates) : barred ⊆ (r.announceTemplate name).nonTemplates := by
  unfold announceTemplate
  split
  · exact h
  · exact hnever

@[simp] theorem announceTemplate_dependents :
    (r.announceTemplate name).dependents = r.dependents := by
  unfold announceTemplate
  split <;> rfl

@[simp] theorem announceTemplate_validators :
    (r.announceTemplate name).validators = r.validators := by
  unfold announceTemplate
  split <;> rfl

@[simp] theorem announceTemplate_owners : (r.announceTemplate name).owners = r.owners := by
  unfold announceTemplate
  split <;> rfl

theorem publishTemplate_self (d : Descriptor) :
    r.publishTemplate r.epoch name file? d =
      { r with templates := r.templates.insertNew name d }.recordOwner? name file? :=
  if_pos rfl

theorem publishTemplate_knownTemplates (d : Descriptor) :
    (r.publishTemplate r.epoch name file? d).knownTemplates = r.knownTemplates := by
  rw [publishTemplate_self, recordOwner?_knownTemplates]

/-- A template that is kept after one was published was kept before, or it is that one. -/
theorem publishTemplate_templates_get? {d kept : Descriptor}
    (h : (r.publishTemplate r.epoch name file? d).templates.get? other = some kept) :
    r.templates.get? other = some kept ∨ other = name ∧ kept = d := by
  rw [publishTemplate_self, recordOwner?_templates, Table.get?_insertNew] at h
  by_cases hother : other = name
  · -- The first defaults that are published under a name stay.
    rw [if_pos hother] at h
    subst hother
    cases hget : r.templates.get? other with
    | none =>
      rw [hget] at h
      exact .inr ⟨rfl, (Option.some.inj h).symm⟩
    | some d₀ =>
      rw [hget] at h
      exact .inl h
  · rw [if_neg hother] at h
    exact .inl h

/-- Where none was kept, the published defaults are. -/
theorem publishTemplate_templates_get?_self {d : Descriptor}
    (h : r.templates.get? name = none) :
    (r.publishTemplate r.epoch name file? d).templates.get? name = some d := by
  rw [publishTemplate_self, recordOwner?_templates, Table.get?_insertNew, if_pos rfl, h]
  rfl

/-! ## Publishing other answers -/

/-- Two registries that tell the same about templates. -/
structure SameTemplates (r r' : Registry) : Prop where
  templates : r'.templates = r.templates
  knownTemplates : r'.knownTemplates = r.knownTemplates
  nonTemplates : r'.nonTemplates = r.nonTemplates

theorem sameTemplates_publishClass (prototype : Option Descriptor) :
    r.SameTemplates (r.publishClass epoch name file prototype) := by
  unfold publishClass
  split <;> exact ⟨rfl, rfl, rfl⟩

theorem sameTemplates_publishGenerated (prototype : String) :
    r.SameTemplates (r.publishGenerated epoch name file prototype) := by
  unfold publishGenerated
  split <;> exact ⟨rfl, rfl, rfl⟩

theorem sameTemplates_publishNonGenerated :
    r.SameTemplates (r.publishNonGenerated epoch name file) := by
  unfold publishNonGenerated
  split <;> exact ⟨rfl, rfl, rfl⟩

theorem sameTemplates_publishValidator (descriptor : ValidationDescriptor) :
    r.SameTemplates (r.publishValidator epoch name file? descriptor) := by
  unfold publishValidator
  split
  · constructor <;> simp
  · exact ⟨rfl, rfl, rfl⟩

theorem sameTemplates_recordDependent (parent dependent : String) :
    r.SameTemplates (r.recordDependent parent dependent) := ⟨rfl, rfl, rfl⟩

@[simp] theorem publishGenerated_classes (prototype : String) :
    (r.publishGenerated epoch name file prototype).classes = r.classes := by
  unfold publishGenerated
  split <;> rfl

@[simp] theorem publishNonGenerated_classes :
    (r.publishNonGenerated epoch name file).classes = r.classes := by
  unfold publishNonGenerated
  split <;> rfl

@[simp] theorem publishClass_validators (prototype : Option Descriptor) :
    (r.publishClass epoch name file prototype).validators = r.validators := by
  unfold publishClass
  split <;> rfl

@[simp] theorem publishGenerated_validators (prototype : String) :
    (r.publishGenerated epoch name file prototype).validators = r.validators := by
  unfold publishGenerated
  split <;> rfl

@[simp] theorem publishNonGenerated_validators :
    (r.publishNonGenerated epoch name file).validators = r.validators := by
  unfold publishNonGenerated
  split <;> rfl

@[simp] theorem publishClass_dependents (prototype : Option Descriptor) :
    (r.publishClass epoch name file prototype).dependents = r.dependents := by
  unfold publishClass
  split <;> rfl

@[simp] theorem publishGenerated_dependents (prototype : String) :
    (r.publishGenerated epoch name file prototype).dependents = r.dependents := by
  unfold publishGenerated
  split <;> rfl

@[simp] theorem publishNonGenerated_dependents :
    (r.publishNonGenerated epoch name file).dependents = r.dependents := by
  unfold publishNonGenerated
  split <;> rfl

@[simp] theorem publishValidator_dependents (descriptor : ValidationDescriptor) :
    (r.publishValidator epoch name file? descriptor).dependents = r.dependents := by
  unfold publishValidator
  split
  · rw [recordOwner?_dependents]
  · rfl

/-- What is kept of an annotation after something was published was kept before, or it is that. -/
theorem publishValidator_validators_get? {descriptor kept : ValidationDescriptor}
    (h : (r.publishValidator epoch name file? descriptor).validators.get? other = some kept) :
    r.validators.get? other = some kept ∨ other = name ∧ kept = descriptor := by
  unfold publishValidator at h
  split at h
  · rw [recordOwner?_validators, Table.get?_insertNew] at h
    by_cases hother : other = name
    · -- The first descriptor that is published under a name stays.
      rw [if_pos hother] at h
      subst hother
      cases hget : r.validators.get? other with
      | none =>
        rw [hget] at h
        exact .inr ⟨rfl, (Option.some.inj h).symm⟩
      | some d =>
        rw [hget] at h
        exact .inl h
    · rw [if_neg hother] at h
      exact .inl h
  · exact .inl h

@[simp] theorem publishValidator_classes (descriptor : ValidationDescriptor) :
    (r.publishValidator epoch name file? descriptor).classes = r.classes := by
  unfold publishValidator
  split
  · simp
  · rfl

/-- A prototype that is kept after one was published was kept before, or it is that one, and then
its file was recorded. -/
theorem publishClass_classes_get? {prototype kept : Option Descriptor}
    (h : (r.publishClass epoch name file prototype).classes.get? other = some kept) :
    r.classes.get? other = some kept ∨
      other = name ∧ kept = prototype ∧
        (r.publishClass epoch name file prototype).owners.get? name = some file := by
  unfold publishClass at h ⊢
  -- A publication of an earlier epoch is discarded, so that there is nothing to show then.
  split at h
  · rename_i hepoch
    simp only [recordOwner, Table.get?_insertNew] at h
    by_cases hother : other = name
    · -- The first prototype that is published under a name stays.
      rw [if_pos hother] at h
      subst hother
      cases hget : r.classes.get? other with
      | none =>
        rw [hget] at h
        refine .inr ⟨rfl, (Option.some.inj h).symm, ?_⟩
        rw [if_pos hepoch, recordOwner, Table.get?_insert, if_pos rfl]
      | some p =>
        rw [hget] at h
        exact .inl h
    · rw [if_neg hother] at h
      exact .inl h
  · exact .inl h

/-! ## Denying -/

@[simp] theorem denyTemplate_epoch : (r.denyTemplate name file?).epoch = r.epoch := by
  unfold denyTemplate
  split
  · rfl
  · simp

@[simp] theorem denyTemplate_templates : (r.denyTemplate name file?).templates = r.templates := by
  unfold denyTemplate
  split
  · rfl
  · simp

@[simp] theorem denyTemplate_knownTemplates :
    (r.denyTemplate name file?).knownTemplates = r.knownTemplates := by
  unfold denyTemplate
  split
  · rfl
  · simp

@[simp] theorem denyTemplate_classes : (r.denyTemplate name file?).classes = r.classes := by
  unfold denyTemplate
  split
  · rfl
  · simp

@[simp] theorem denyTemplate_validators :
    (r.denyTemplate name file?).validators = r.validators := by
  unfold denyTemplate
  split
  · rfl
  · simp

@[simp] theorem denyTemplate_dependents :
    (r.denyTemplate name file?).dependents = r.dependents := by
  unfold denyTemplate
  split
  · rfl
  · simp

theorem subset_denyTemplate : r.nonTemplates ⊆ (r.denyTemplate name file?).nonTemplates := by
  intro n hn
  unfold denyTemplate
  split
  · exact hn
  · rw [recordOwner?_nonTemplates]
    exact NameSet.mem_add.2 (.inr hn)

/-- A name that is not known as a template is denied. -/
theorem mem_denyTemplate_self (h : name ∉ r.knownTemplates) :
    name ∈ (r.denyTemplate name file?).nonTemplates := by
  unfold denyTemplate
  split
  · rename_i hor
    -- Nothing is recorded because the name is denied already.
    simpa [h] using hor
  · rw [recordOwner?_nonTemplates]
    exact NameSet.mem_add.2 (.inl rfl)

theorem mem_denyTemplate (h : other ∈ (r.denyTemplate name file?).nonTemplates) :
    other ∈ r.nonTemplates ∨ other = name ∧ other ∉ r.knownTemplates := by
  unfold denyTemplate at h
  split at h
  · exact .inl h
  · rename_i hnew
    rw [recordOwner?_nonTemplates] at h
    rcases NameSet.mem_add.1 h with rfl | h
    · refine .inr ⟨rfl, fun hk => hnew (by simp [hk])⟩
    · exact .inl h

end Registry

end PrototypeLens
