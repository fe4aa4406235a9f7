import PrototypeLens.Proofs.Registry.Evolution
import PrototypeLens.Registry.Refresh

/-!
# How the tables of a registry fit together

Kept defaults are those of known templates, and a known template is not denied. Whatever is kept
about a declaration is kept with the file that it was read from. Where names tell declarations
apart, too, no declaration is kept as generated and as not generated. Every change of a registry
leaves it so.

## Layers

- `Coherent` is the invariant, one field for each pair of tables.
- `Coherent.of_spares` covers the changes that are about templates, `Coherent.of_owner` those that
  are about one declaration. Each operation is an instance of one of them.

## Main results

- `Coherent.announce`, `Coherent.publishTemplate`, `Coherent.deny`, `Coherent.publishValidator`:
  what looking for templates changes.
- `Coherent.publishClass`, `Coherent.publishGenerated`, `Coherent.publishNonGenerated`: what
  registering a declaration changes. The two about origins ask that the other one is not kept.
- `Coherent.refresh` and `coherent_close`: what forgets.
-/

namespace PrototypeLens

/-! ## Keys -/

namespace Table

variable {κ α : Type} [DecidableEq κ]

theorem contains_insert (t : Table κ α) (k k' : κ) (v : α) :
    (t.insert k v).contains k' = true ↔ k' = k ∨ t.contains k' = true := by
  rw [contains, get?_insert]
  by_cases hk : k' = k <;> simp [hk, contains]

theorem contains_insertNew (t : Table κ α) (k k' : κ) (v : α) :
    (t.insertNew k v).contains k' = true ↔ k' = k ∨ t.contains k' = true := by
  rw [contains, get?_insertNew]
  by_cases hk : k' = k <;> simp [hk, contains]

theorem contains_erase (t : Table κ α) (k k' : κ) :
    (t.erase k).contains k' = true ↔ k' ≠ k ∧ t.contains k' = true := by
  rw [contains, get?_erase]
  by_cases hk : k' = k <;> simp [hk, contains]

end Table

namespace Registry

variable {r r' : Registry} {name other : String} {unique : Prop}

/-! ## Coherent registries -/

/-- The prototype or the origin of a name is kept. -/
def Describes (r : Registry) (name : String) : Prop :=
  r.classes.contains name = true ∨ r.generated.contains name = true ∨ name ∈ r.nonGenerated

/-- The file is kept that the answers about a name were read from. -/
def Owned (r : Registry) (name : String) : Prop := r.owners.contains name = true

/-- The tables fit together. That there is one answer about an origin is only said where the names
are `unique`. -/
structure Coherent (unique : Prop) (r : Registry) : Prop where
  known {name : String} : r.templates.contains name = true → name ∈ r.knownTemplates
  denied {name : String} : name ∈ r.knownTemplates → name ∈ r.nonTemplates → name ∈ neverTemplates
  exclusive {name : String} : unique → r.generated.contains name = true → name ∉ r.nonGenerated
  owned {name : String} : r.Describes name → r.Owned name

theorem coherent_fresh (unique : Prop) : Coherent unique {} where
  known h := nomatch h
  denied h := nomatch h
  exclusive _ h := nomatch h
  owned h := by rcases h with h | h | h <;> cases h

/-- Only the epoch changes. -/
theorem Coherent.withEpoch (h : r.Coherent unique) (epoch : Nat) :
    Coherent unique { r with epoch } :=
  ⟨h.known, h.denied, h.exclusive, h.owned⟩

/-! ## Owners -/

theorem Owned.recordOwner? (h : r.Owned other) (name : String) (file? : Option FileId) :
    (r.recordOwner? name file?).Owned other := by
  cases file? with
  | none => exact h
  | some file => exact (Table.contains_insert ..).2 (.inr h)

/-! ## Templates -/

/-- A change about templates that loses no owner and leaves the answers about declarations alone, or
drops them. -/
theorem Coherent.of_spares (h : r.Coherent unique) (hspares : r.Spares r')
    (howners : ∀ name, r.Owned name → r'.Owned name)
    (hknown : ∀ name, r'.templates.contains name = true → name ∈ r'.knownTemplates)
    (hdenied : ∀ name, name ∈ r'.knownTemplates → name ∈ r'.nonTemplates →
      name ∈ neverTemplates) : r'.Coherent unique where
  known := hknown _
  denied := hdenied _
  exclusive hunique hgenerated := by
    -- Both tables of origins are the old ones, or both are empty.
    cases hspares with
    | kept _ _ hsame hsame' =>
      rw [hsame] at hgenerated
      rw [hsame']
      exact h.exclusive hunique hgenerated
    | dropped _ _ hsame _ =>
      rw [hsame] at hgenerated
      cases hgenerated
  owned {name} hdescribes := by
    cases hspares with
    | kept _ hclasses hgenerated hnon =>
      refine howners name (h.owned ?_)
      rwa [Describes, hclasses, hgenerated, hnon] at hdescribes
    | dropped _ hclasses hgenerated hnon =>
      rw [Describes, hclasses, hgenerated, hnon] at hdescribes
      rcases hdescribes with hc | hc | hc <;> cases hc

theorem Coherent.announce (h : r.Coherent unique) (name : String) :
    (r.announceTemplate name).Coherent unique := by
  unfold announceTemplate
  split
  · -- A known template changes nothing.
    exact h
  · rename_i hnew
    have hspares := r.spares_announceTemplate name
    rw [announceTemplate, if_neg hnew] at hspares
    -- A new one leaves no defaults, and denies what is never a template.
    exact h.of_spares hspares (fun _ howned => howned) (fun _ hc => nomatch hc) fun _ _ hn => hn

theorem Coherent.publishTemplate (h : r.Coherent unique) (hknown : name ∈ r.knownTemplates)
    (file? : Option FileId) (defaults : Descriptor) :
    (r.publishTemplate r.epoch name file? defaults).Coherent unique := by
  refine h.of_spares (spares_publishTemplate ..) (fun other howned => ?_) (fun other hc => ?_)
    fun other hk hn => ?_
  · rw [publishTemplate_self]
    refine Owned.recordOwner? ?_ name file?
    exact howned
  · rw [publishTemplate_self, recordOwner?_templates] at hc
    rw [publishTemplate_knownTemplates]
    rcases (Table.contains_insertNew ..).1 hc with rfl | hc
    · -- The published defaults are those of a known template, the others were kept before.
      exact hknown
    · exact h.known hc
  · rw [publishTemplate_self] at hk hn
    rw [recordOwner?_knownTemplates] at hk
    rw [recordOwner?_nonTemplates] at hn
    exact h.denied hk hn

theorem Coherent.deny (h : r.Coherent unique) (name : String) (file? : Option FileId) :
    (r.denyTemplate name file?).Coherent unique := by
  refine h.of_spares (spares_denyTemplate ..) (fun other howned => ?_) (fun other hc => ?_)
    fun other hk hn => ?_
  · unfold denyTemplate
    split
    · exact howned
    · refine Owned.recordOwner? ?_ name file?
      exact howned
  · rw [denyTemplate_templates] at hc
    rw [denyTemplate_knownTemplates]
    exact h.known hc
  · rw [denyTemplate_knownTemplates] at hk
    rcases mem_denyTemplate _ _ _ _ hn with hn | ⟨_, hunknown⟩
    · exact h.denied hk hn
    · -- Denying spares what is known.
      exact absurd hk hunknown

theorem Coherent.recordDependent (h : r.Coherent unique) (parent dependent : String) :
    (r.recordDependent parent dependent).Coherent unique :=
  ⟨h.known, h.denied, h.exclusive, h.owned⟩

theorem Coherent.publishValidator (h : r.Coherent unique) (epoch : Nat) (name : String)
    (file? : Option FileId) (descriptor : ValidationDescriptor) :
    (r.publishValidator epoch name file? descriptor).Coherent unique := by
  have hsame := r.sameTemplates_publishValidator name file? epoch descriptor
  refine h.of_spares (spares_publishValidator ..) (fun other howned => ?_) (fun other hc => ?_)
    fun other hk hn => ?_
  · unfold Registry.publishValidator
    split
    · refine Owned.recordOwner? ?_ name file?
      exact howned
    · exact howned
  · rw [hsame.knownTemplates]
    exact h.known (hsame.templates ▸ hc)
  · exact h.denied (hsame.knownTemplates ▸ hk) (hsame.nonTemplates ▸ hn)

/-! ## Declarations -/

/-- A change about one declaration that records its owner. -/
theorem Coherent.of_owner (h : r.Coherent unique) (hsame : r.SameTemplates r') {file : FileId}
    (howners : r'.owners = r.owners.insert name file)
    (hdescribes : ∀ other, r'.Describes other → other = name ∨ r.Describes other)
    (hexclusive : unique → ∀ other, r'.generated.contains other = true →
      other ∉ r'.nonGenerated) : r'.Coherent unique where
  known hc := by
    rw [hsame.knownTemplates]
    exact h.known (hsame.templates ▸ hc)
  denied hk hn := h.denied (hsame.knownTemplates ▸ hk) (hsame.nonTemplates ▸ hn)
  exclusive hunique := hexclusive hunique _
  owned {other} hd := by
    rw [Owned, howners, Table.contains_insert]
    exact (hdescribes other hd).imp_right h.owned

theorem Coherent.publishClass (h : r.Coherent unique) (epoch : Nat) (name : String) (file : FileId)
    (prototype : Option Descriptor) :
    (r.publishClass epoch name file prototype).Coherent unique := by
  unfold Registry.publishClass
  split
  · -- The owner is recorded with the prototype, which no other name gets.
    refine h.of_owner ⟨rfl, rfl, rfl⟩ rfl (fun other hd => ?_) fun hunique _ => h.exclusive hunique
    rcases hd with hc | hd
    · rcases (Table.contains_insertNew ..).1 hc with rfl | hc
      · exact .inl rfl
      · exact .inr (.inl hc)
    · exact .inr (.inr hd)
  · exact h

/-- A declaration is published as generated that is not kept as one that is not. -/
theorem Coherent.publishGenerated (h : r.Coherent unique) (epoch : Nat) (file : FileId)
    (prototype : String) (hnew : unique → name ∉ r.nonGenerated) :
    (r.publishGenerated epoch name file prototype).Coherent unique := by
  unfold Registry.publishGenerated
  split
  · refine h.of_owner ⟨rfl, rfl, rfl⟩ rfl (fun other hd => ?_) fun hunique other hc => ?_
    · rcases hd with hc | hc | hn
      · -- The name that gets an origin is the one whose owner is recorded.
        exact .inr (.inl hc)
      · rcases (Table.contains_insertNew ..).1 hc with rfl | hc
        · exact .inl rfl
        · exact .inr (.inr (.inl hc))
      · exact .inr (.inr (.inr hn))
    · rcases (Table.contains_insertNew ..).1 hc with rfl | hc
      · exact hnew hunique
      · exact h.exclusive hunique hc
  · exact h

/-- A declaration is published as not generated that is not kept as one that is. -/
theorem Coherent.publishNonGenerated (h : r.Coherent unique) (epoch : Nat) (file : FileId)
    (hnew : unique → ¬ r.generated.contains name = true) :
    (r.publishNonGenerated epoch name file).Coherent unique := by
  unfold Registry.publishNonGenerated
  split
  · refine h.of_owner ⟨rfl, rfl, rfl⟩ rfl (fun other hd => ?_) fun hunique other hc hn => ?_
    · rcases hd with hc | hc | hn
      · exact .inr (.inl hc)
      · exact .inr (.inr (.inl hc))
      · rcases NameSet.mem_add.1 hn with rfl | hn
        · exact .inl rfl
        · -- The denial is of that name only.
          exact .inr (.inr (.inr hn))
    · rcases NameSet.mem_add.1 hn with rfl | hn
      · exact hnew hunique hc
      · exact h.exclusive hunique hc hn
  · exact h

/-! ## Forgetting -/

theorem Coherent.forget (h : r.Coherent unique) (name : String) :
    (r.forget name).Coherent unique where
  known hc := by
    obtain ⟨hne, hc⟩ := (Table.contains_erase ..).1 hc
    exact NameSet.mem_remove.2 ⟨h.known hc, hne⟩
  denied hk hn := h.denied (NameSet.mem_remove.1 hk).1 (NameSet.mem_remove.1 hn).1
  exclusive hunique hc hn :=
    h.exclusive hunique ((Table.contains_erase ..).1 hc).2 (NameSet.mem_remove.1 hn).1
  -- What is still described was described, and is not the name that goes.
  owned {other} hd := by
    have hkept : other ≠ name ∧ r.Describes other := by
      rcases hd with hc | hc | hn
      · exact ((Table.contains_erase ..).1 hc).imp_right .inl
      · exact ((Table.contains_erase ..).1 hc).imp_right fun hc => .inr (.inl hc)
      · exact (NameSet.mem_remove.1 hn).symm.imp_right fun hn => .inr (.inr hn)
    exact (Table.contains_erase ..).2 ⟨hkept.1, h.owned hkept.2⟩

theorem Coherent.invalidateAll (h : r.Coherent unique) : r.invalidateAll.Coherent unique :=
  h.of_spares (.dropped (Nat.lt_succ_self _) rfl rfl rfl) (fun _ howned => howned)
    (fun _ hc => nomatch hc) fun _ _ hn => hn

theorem Coherent.forgetAll (h : r.Coherent unique) (names : List String) :
    (r.forgetAll names).Coherent unique := by
  have hdropped (r : Registry) (h : r.Coherent unique) :
      (names.foldl Registry.forget r).Coherent unique := by
    induction names generalizing r with
    | nil => exact h
    | cons name names ih => exact ih _ (h.forget name)
  -- A known template among the names decides if everything else is dropped on top.
  unfold Registry.forgetAll
  dsimp only
  split
  · exact (hdropped _ (h.withEpoch _)).invalidateAll
  · exact hdropped _ (h.withEpoch _)

/-- A refresh leaves a registry coherent, also one that is cancelled. -/
theorem Coherent.refresh (h : r.Coherent unique) (host : Host) (file : FileId) :
    (r.refresh host file).2.Coherent unique := by
  unfold Registry.refresh
  split
  · exact h
  · exact h.forgetAll _

theorem coherent_close (unique : Prop) (r : Registry) : r.close.Coherent unique :=
  (coherent_fresh unique).withEpoch _

end Registry

end PrototypeLens
