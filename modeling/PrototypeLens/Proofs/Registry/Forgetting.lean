import PrototypeLens.Proofs.Host.Health
import PrototypeLens.Proofs.Walk.Closure
import PrototypeLens.Registry.Refresh

/-!
# What a refresh forgets

A refresh of a file forgets every name whose answers were read from the file, every name that the
file declares, and every name whose answers were derived from theirs. What is left was there before,
about other names; and if a known template is among what is forgotten, no answer is left that could
have been given with it.

## Layers

- `withDependents_closed` and `withDependents_within`: the names that a walk along the recorded
  dependents collects are the least that hold the first ones.
- `Forgets`: what is left, table by table. One name at a time keeps it, by `Forgets.forget`.
- `Covers`: the names that a refresh of a file has to forget.

## Main results

- `forgets_forgetAll`: forgetting names leaves what was kept about others.
- `not_known_of_forgetAll_classes` and `not_known_of_forgetAll_templates`: an answer that is left
  shows that no known template was forgotten.
- `Host.Healthy.refresh`: on a healthy host a refresh forgets names that cover the file.
-/

namespace PrototypeLens

namespace Registry

variable {r : Registry} {names : List String} {name : String}

/-- The names whose answers were derived from that of `parent`. -/
def dependentsOf (r : Registry) (parent : String) : NameSet := (r.dependents.get? parent).getD []

/-! ## Dependents -/

/-- The dependents of names hold the names and everything that was derived from a member. -/
theorem withDependents_closed (r : Registry) (names : List String) :
    names ⊆ r.withDependents names ∧
      ∀ parent ∈ r.withDependents names, r.dependentsOf parent ⊆ r.withDependents names := by
  rw [withDependents]
  match hwalk : r.dependencyGraph.walk names with
  | .ok journey =>
    obtain ⟨hsub, hclosed⟩ := Graph.walk_closed hwalk
    refine ⟨hsub, fun parent hparent dependent hdependent => ?_⟩
    -- A name without recorded dependents is not expanded by the walk.
    cases hget : r.dependents.get? parent with
    | none =>
      rw [dependentsOf, hget] at hdependent
      cases hdependent
    | some dependents =>
      rw [dependentsOf, hget] at hdependent
      exact hclosed parent hparent () dependents (by simp [dependencyGraph, hget]) hdependent

/-- The dependents of names stay within a property that holds of the names and that passes from a
name to what was derived from it. -/
theorem withDependents_within (r : Registry) {names : List String} {among : String → Prop}
    (hnames : ∀ name ∈ names, among name)
    (hderived : ∀ parent name, among parent → name ∈ r.dependentsOf parent → among name) :
    ∀ name ∈ r.withDependents names, among name := by
  rw [withDependents]
  match hwalk : r.dependencyGraph.walk names with
  | .ok journey =>
    apply Graph.walk_within hwalk hnames
    intro parent a next hparent hexpand name hname
    cases hget : r.dependents.get? parent with
    | none => simp [dependencyGraph, hget] at hexpand
    | some dependents =>
      simp only [dependencyGraph, hget, Option.map_some, Except.ok.injEq, Option.some.injEq,
        Prod.mk.injEq] at hexpand
      apply hderived parent name hparent
      rw [dependentsOf, hget, hexpand.2]
      exact hname

/-! ## Forgetting names -/

/-- What is left in a registry after some names were forgotten. -/
structure Forgets (r : Registry) (names : List String) (r' : Registry) : Prop where
  /-- Defaults that are left were kept, of other names. -/
  templates {name : String} {defaults : Descriptor} : r'.templates.get? name = some defaults →
    name ∉ names ∧ r.templates.get? name = some defaults
  /-- Prototypes that are left were kept, of other names. -/
  classes {name : String} {prototype : Option Descriptor} :
    r'.classes.get? name = some prototype →
    name ∉ names ∧ r.classes.get? name = some prototype
  /-- Exactly the other known templates stay known. -/
  known {name : String} : name ∈ r'.knownTemplates ↔ name ∈ r.knownTemplates ∧ name ∉ names
  /-- What is denied was denied and is another name, or it is never a template. -/
  denied {name : String} : name ∈ r'.nonTemplates →
    name ∈ neverTemplates ∨ name ∈ r.nonTemplates ∧ name ∉ names
  owners {name : String} : name ∉ names → r'.owners.get? name = r.owners.get? name
  dependents {name : String} : name ∉ names → r'.dependentsOf name = r.dependentsOf name

theorem forgets_nil (r : Registry) : r.Forgets [] { r with epoch := r.epoch + 1 } where
  templates h := ⟨by simp, h⟩
  classes h := ⟨by simp, h⟩
  known := by simp
  denied h := .inr ⟨h, by simp⟩
  owners _ := rfl
  dependents _ := rfl

theorem Forgets.forget {r' : Registry} (h : r.Forgets names r') (name : String) :
    r.Forgets (names ++ [name]) (r'.forget name) where
  templates {other d} hget := by
    -- Forgetting one more name empties its entry and leaves the others.
    simp only [Registry.forget, Table.get?_erase] at hget
    split at hget
    · cases hget
    · rename_i hne
      obtain ⟨hnot, hkept⟩ := h.templates hget
      exact ⟨by simp [hnot, hne], hkept⟩
  classes {other p} hget := by
    simp only [Registry.forget, Table.get?_erase] at hget
    split at hget
    · cases hget
    · rename_i hne
      obtain ⟨hnot, hkept⟩ := h.classes hget
      exact ⟨by simp [hnot, hne], hkept⟩
  known {other} := by
    simp only [Registry.forget, NameSet.mem_remove, h.known, List.mem_append, List.mem_singleton,
      not_or, and_assoc]
  denied {other} hmem := by
    simp only [Registry.forget, NameSet.mem_remove] at hmem
    refine (h.denied hmem.1).imp_right fun hold => ⟨hold.1, ?_⟩
    simp [hold.2, hmem.2]
  owners {other} hnot := by
    simp only [List.mem_append, List.mem_singleton, not_or] at hnot
    rw [Registry.forget, Table.get?_erase, if_neg hnot.2, h.owners hnot.1]
  dependents {other} hnot := by
    simp only [List.mem_append, List.mem_singleton, not_or] at hnot
    rw [← h.dependents hnot.1, dependentsOf, dependentsOf, Registry.forget, Table.get?_erase,
      if_neg hnot.2]

theorem forgets_foldl {r' : Registry} {seen : List String} (h : r.Forgets seen r') :
    r.Forgets (seen ++ names) (names.foldl forget r') := by
  induction names generalizing seen r' with
  -- The names are forgotten one by one; the ones before are in the accumulator.
  | nil => simpa using h
  | cons name names ih => simpa using ih (h.forget name)

theorem Forgets.invalidateAll {r' : Registry} (h : r.Forgets names r') :
    r.Forgets names r'.invalidateAll where
  templates hget := nomatch hget
  classes hget := nomatch hget
  known := h.known
  denied hmem := .inl hmem
  owners := h.owners
  dependents := h.dependents

theorem forgets_forgetAll (r : Registry) (names : List String) :
    r.Forgets names (r.forgetAll names) := by
  have hdropped : r.Forgets ([] ++ names) (names.foldl forget { r with epoch := r.epoch + 1 }) :=
    forgets_foldl r.forgets_nil
  rw [forgetAll]
  -- Whether a known template was among the names decides if more is dropped.
  split
  · exact hdropped.invalidateAll
  · exact hdropped

/-- No prototype is left if a known template is forgotten. -/
theorem not_known_of_forgetAll_classes {prototype : Option Descriptor}
    (h : (r.forgetAll names).classes.get? name = some prototype) :
    ∀ other ∈ names, other ∉ r.knownTemplates := by
  intro other hother hk
  rw [forgetAll, if_pos (List.any_eq_true.2 ⟨other, hother, by simpa using hk⟩)] at h
  cases h

/-- No defaults are left if a known template is forgotten. -/
theorem not_known_of_forgetAll_templates {defaults : Descriptor}
    (h : (r.forgetAll names).templates.get? name = some defaults) :
    ∀ other ∈ names, other ∉ r.knownTemplates := by
  intro other hother hk
  rw [forgetAll, if_pos (List.any_eq_true.2 ⟨other, hother, by simpa using hk⟩)] at h
  cases h

theorem foldl_forget_classes_get? (hname : name ∉ names) :
    (names.foldl forget r).classes.get? name = r.classes.get? name := by
  induction names generalizing r with
  -- A name that is not among them is passed over by each step.
  | nil => rfl
  | cons other names ih =>
    obtain ⟨hne, hname⟩ := not_or.1 (mt List.mem_cons.2 hname)
    rw [List.foldl_cons, ih hname, forget, Table.get?_erase, if_neg hne]

theorem mem_foldl_forget_nonTemplates (hname : name ∉ names) :
    name ∈ (names.foldl forget r).nonTemplates ↔ name ∈ r.nonTemplates := by
  induction names generalizing r with
  | nil => rfl
  | cons other names ih =>
    obtain ⟨hne, hname⟩ := not_or.1 (mt List.mem_cons.2 hname)
    rw [List.foldl_cons, ih hname, forget, NameSet.mem_remove, and_iff_left hne]

/-- What is denied without being forgotten stays so, if it is never a template. -/
theorem subset_forgetAll_nonTemplates {barred : NameSet} (hnever : barred ⊆ neverTemplates)
    (hbarred : barred ⊆ r.nonTemplates) (hnames : ∀ name ∈ barred, name ∉ names) :
    barred ⊆ (r.forgetAll names).nonTemplates := by
  rw [forgetAll]
  -- An invalidation starts anew from what is never a template.
  split
  · exact hnever
  · exact fun name hname => (mem_foldl_forget_nonTemplates (hnames name hname)).2 (hbarred hname)

/-- If no known template is forgotten, what was told about other names stays as it was. -/
theorem forgetAll_of_unknown (hunknown : ∀ other ∈ names, other ∉ r.knownTemplates)
    (hname : name ∉ names) :
    (r.forgetAll names).classes.get? name = r.classes.get? name ∧
      (name ∈ (r.forgetAll names).nonTemplates ↔ name ∈ r.nonTemplates) := by
  have hnone : names.any (· ∈ r.knownTemplates) = false := by simpa using hunknown
  rw [forgetAll, hnone]
  exact ⟨foldl_forget_classes_get? hname, mem_foldl_forget_nonTemplates hname⟩

/-! ## Refreshing -/

/-- The names are exactly those that answers read from a file, or derived from such, are about. -/
structure Covers (host : Host) (r : Registry) (file : FileId) (names : List String) : Prop where
  owned {name : String} : r.owners.get? name = some file → name ∈ names
  declared {name : String} {decl : Declaration} : host.Declares name decl → decl.file = file →
    name ∈ names
  /-- They hold what was derived from a member. -/
  closed {parent : String} : parent ∈ names → r.dependentsOf parent ⊆ names
  /-- They hold nothing else. -/
  least {among : String → Prop} : (∀ name, r.owners.get? name = some file → among name) →
    (∀ name decl, host.Declares name decl → decl.file = file → among name) →
    (∀ parent name, among parent → name ∈ r.dependentsOf parent → among name) →
    ∀ name ∈ names, among name

end Registry

namespace Host.Healthy

variable {host : Host}

/-- The names that a file declares can be listed. -/
theorem declaredNames_ok (h : host.Healthy) (file : FileId) :
    ∃ names, Registry.declaredNames host file = .ok names ∧
      ∀ name, name ∈ names ↔ ∃ decl, host.Declares name decl ∧ decl.file = file := by
  obtain ⟨ids, hids, hmem⟩ := h.listed file
  -- Every declaration that is listed can be read.
  obtain ⟨decls, hdecls⟩ := exists_mapM_ok_iff.2 fun id (hid : id ∈ ids) =>
    ((hmem id).1 hid).imp fun _ hd => hd.1
  refine ⟨decls.filterMap (·.qualifiedName), ?_, fun name => ?_⟩
  · simp only [Registry.declaredNames, hids, bind, Except.bind, hdecls, pure, Except.pure]
  · rw [List.mem_filterMap]
    constructor
    · rintro ⟨decl, hd, hname⟩
      obtain ⟨id, hid, hdeclaration⟩ := (mem_iff_of_mapM hdecls).1 hd
      obtain ⟨decl', hdecl', hfile⟩ := (hmem id).1 hid
      rw [hdeclaration] at hdecl'
      cases hdecl'
      exact ⟨decl, h.declares hdeclaration hname, hfile⟩
    · rintro ⟨decl, hd, hfile⟩
      obtain ⟨id, _, hid⟩ := hd.declaration
      exact ⟨decl, (mem_iff_of_mapM hdecls).2 ⟨id, (hmem id).2 ⟨decl, hid, hfile⟩, hid⟩,
        h.qualifiedName hd⟩

/-- A refresh of a file forgets names that cover the file. -/
theorem refresh (h : host.Healthy) (r : Registry) (file : FileId) :
    ∃ names, (r.refresh host file).2 = r.forgetAll names ∧ r.Covers host file names := by
  obtain ⟨declared, hdeclared, hmem⟩ := h.declaredNames_ok file
  obtain ⟨hsub, hclosed⟩ := r.withDependents_closed (r.ownedBy file ++ declared)
  -- Owners are a table of files by name, which is read backwards here.
  have howned (name : String) : name ∈ r.ownedBy file ↔ r.owners.get? name = some file := by
    simp [Registry.ownedBy, Table.mem_keysWhere_iff]
  refine ⟨r.withDependents (r.ownedBy file ++ declared), ?_, fun hname => hsub ?_,
    fun hdecl hfile => hsub ?_, fun hparent => hclosed _ hparent, fun howner hdecls hderived => ?_⟩
  · simp only [Registry.refresh, Registry.refreshedNames, hdeclared]
  · exact List.mem_append_left _ ((howned _).2 hname)
  · exact List.mem_append_right _ ((hmem _).2 ⟨_, hdecl, hfile⟩)
  · refine r.withDependents_within (fun name hname => ?_) hderived
    rcases List.mem_append.1 hname with hname | hname
    · exact howner name ((howned name).1 hname)
    · obtain ⟨decl, hdecl, hfile⟩ := (hmem name).1 hname
      exact hdecls name decl hdecl hfile

end Host.Healthy

end PrototypeLens
