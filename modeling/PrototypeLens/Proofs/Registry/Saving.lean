import PrototypeLens.Proofs.Registry.Coherence
import PrototypeLens.Proofs.Registry.Forgetting

/-!
# What saved files leave of a registry

Saving a file forgets what derives from it: the names whose answers were read from it, the names
that it declares, and what was derived from these. What several files leave, saved one after the
other, can be told from the registry before the first of them: the names that derive from one of the
files are gone, and if a known template is among these, so are the answers about other names that an
edited template may change.

## Layers

- `Firm` and `Volatile`: answers that go with their name only, and answers that a known template
  takes along. `Left` says which of them are still there.
- `Without`: a registry from which some names are gone, table by table. `Without.trans` puts two
  such steps together, and `without_forgetAll` is one step.
- `derived`: the names that a refresh of a file forgets.

## Main results

- `Without.derived_subset` and `Without.mem_derived`: what derives from a file is the same after
  others were saved, up to what they have taken along.
- `Without.save`: saving one more file after others.
- `Without.any_answers_iff`: whether a file still has an answer to lose, told from the registry
  before the first file was saved.
-/

namespace PrototypeLens

namespace Registry

variable {r r' r'' : Registry} {gone gone' : String → Prop} {name : String}

/-! ## Answers -/

/-- There is an answer about the name that is dropped with the name only. -/
def Firm (r : Registry) (name : String) : Prop :=
  name ∈ r.knownTemplates ∨ r.validators.contains name = true

/-- There is an answer about the name that is also dropped with a known template. -/
def Volatile (r : Registry) (name : String) : Prop :=
  r.classes.contains name = true ∨ r.templates.contains name = true ∨ name ∈ r.nonTemplates ∨
    r.generated.contains name = true ∨ name ∈ r.nonGenerated

theorem answers_iff (r : Registry) (name : String) :
    r.answers name = true ↔ r.Firm name ∨ r.Volatile name := by
  simp only [answers, Firm, Volatile, Bool.or_eq_true]
  grind

/-- There still is an answer about the name when the names of `gone` are forgotten. -/
def Left (r : Registry) (gone : String → Prop) (name : String) : Prop :=
  ¬ gone name ∧
    (r.Firm name ∨ r.Volatile name ∧ ∀ template, gone template → template ∉ r.knownTemplates)

/-- The fewer names are forgotten, the more is left. -/
theorem Left.anti (h : r.Left gone name) (himp : ∀ other, gone' other → gone other) :
    r.Left gone' name :=
  ⟨fun hgone => h.1 (himp name hgone),
    h.2.imp_right fun ⟨hvolatile, hknown⟩ => ⟨hvolatile, fun t ht => hknown t (himp t ht)⟩⟩

/-! ## Forgetting -/

/-- What is left of a registry when everything about the names of `gone` was forgotten. Names that
are never templates are denied anew whenever a known template is forgotten, so that nothing is said
about the answers about them. -/
structure Without (r : Registry) (gone : String → Prop) (r' : Registry) : Prop where
  owners {name : String} {file : FileId} :
    r'.owners.get? name = some file ↔ r.owners.get? name = some file ∧ ¬ gone name
  dependents {name dependent : String} :
    dependent ∈ r'.dependentsOf name ↔ dependent ∈ r.dependentsOf name ∧ ¬ gone name
  known {name : String} : name ∈ r'.knownTemplates ↔ name ∈ r.knownTemplates ∧ ¬ gone name
  firm {name : String} : r'.Firm name ↔ r.Firm name ∧ ¬ gone name
  volatile {name : String} : name ∉ neverTemplates → (r'.Volatile name ↔
    (r.Volatile name ∧ ∀ template, gone template → template ∉ r.knownTemplates) ∧ ¬ gone name)

theorem Without.congr (h : r.Without gone r') (hiff : ∀ name, gone name ↔ gone' name) :
    r.Without gone' r' := by
  rwa [← funext fun name => propext (hiff name)]

theorem without_refl (r : Registry) : r.Without (fun _ => False) r where
  owners := by simp
  dependents := by simp
  known := by simp
  firm := by simp
  volatile _ := by simp

theorem Without.trans (h : r.Without gone r') (h' : r'.Without gone' r'') :
    r.Without (fun name => gone name ∨ gone' name) r'' where
  -- A field that speaks of one name at a time only collects what both steps took.
  owners {_ _} := by rw [h'.owners, h.owners, and_assoc, not_or]
  dependents {_ _} := by rw [h'.dependents, h.dependents, and_assoc, not_or]
  known {_} := by rw [h'.known, h.known, and_assoc, not_or]
  firm {_} := by rw [h'.firm, h.firm, and_assoc, not_or]
  volatile {name} hname := by
    rw [h'.volatile hname, h.volatile hname, not_or]
    -- A template that is forgotten second was known after the first ones were forgotten.
    constructor
    · rintro ⟨⟨⟨⟨hvolatile, hknown⟩, hgone⟩, hknown'⟩, hgone'⟩
      refine ⟨⟨hvolatile, fun t ht hk => ?_⟩, hgone, hgone'⟩
      rcases ht with ht | ht
      · exact hknown t ht hk
      · exact hknown' t ht (h.known.2 ⟨hk, fun hgone => hknown t hgone hk⟩)
    · rintro ⟨⟨hvolatile, hknown⟩, hgone, hgone'⟩
      exact ⟨⟨⟨⟨hvolatile, fun t ht => hknown t (.inl ht)⟩, hgone⟩,
        fun t ht hk => hknown t (.inr ht) (h.known.1 hk).1⟩, hgone'⟩

/-- What holds of a name until the name is forgotten. -/
theorem foldl_forget_iff {holds : Registry → String → Prop}
    (h : ∀ r name other, holds (r.forget name) other ↔ holds r other ∧ other ≠ name)
    (names : List String) (r : Registry) (name : String) :
    holds (names.foldl forget r) name ↔ holds r name ∧ name ∉ names := by
  -- The induction is on the names, with the registry open.
  induction names generalizing r with
  | nil => simp
  | cons other names ih =>
    rw [List.foldl_cons, ih, h, List.mem_cons, not_or, and_assoc]

theorem firm_forget (r : Registry) (name other : String) :
    (r.forget name).Firm other ↔ r.Firm other ∧ other ≠ name := by
  simp only [Firm, forget, NameSet.mem_remove, Table.contains_erase, and_or_left, and_comm]

theorem volatile_forget (r : Registry) (name other : String) :
    (r.forget name).Volatile other ↔ r.Volatile other ∧ other ≠ name := by
  simp only [Volatile, forget, NameSet.mem_remove, Table.contains_erase, and_or_left, and_comm]

/-- Forgetting names leaves the registry without them. -/
theorem without_forgetAll (r : Registry) (names : List String) :
    r.Without (· ∈ names) (r.forgetAll names) := by
  have hdropped : forgetAll r names =
      if names.any (· ∈ r.knownTemplates) then
        (names.foldl forget { r with epoch := r.epoch + 1 }).invalidateAll
      else names.foldl forget { r with epoch := r.epoch + 1 } := rfl
  -- What an invalidation spares depends on the names alone.
  have hspared (holds : Registry → String → Prop)
      (hforget : ∀ r name other, holds (r.forget name) other ↔ holds r other ∧ other ≠ name)
      (hinvalidate : ∀ r name, holds r.invalidateAll name ↔ holds r name)
      (hepoch : holds { r with epoch := r.epoch + 1 } = holds r) (name : String) :
      holds (r.forgetAll names) name ↔ holds r name ∧ name ∉ names := by
    rw [hdropped, ← hepoch, ← foldl_forget_iff hforget]
    split
    · exact hinvalidate _ name
    · exact Iff.rfl
  refine ⟨fun {name file} => ?_, fun {name dependent} => ?_, fun {name} => ?_, fun {name} => ?_,
    fun {name} hname => ?_⟩
  · refine hspared (fun r name => r.owners.get? name = some file)
      (fun r name other => ?_) (fun _ _ => Iff.rfl) rfl name
    by_cases hne : other = name <;> simp [forget, Table.get?_erase, hne]
  · refine hspared (fun r name => dependent ∈ r.dependentsOf name)
      (fun r name other => ?_) (fun _ _ => Iff.rfl) rfl name
    by_cases hne : other = name <;> simp [dependentsOf, forget, Table.get?_erase, hne]
  · exact hspared (fun r name => name ∈ r.knownTemplates)
      (fun r name other => NameSet.mem_remove) (fun _ _ => Iff.rfl) rfl name
  · exact hspared Firm firm_forget (fun _ _ => Iff.rfl) rfl name
  · have hkept : (names.foldl forget { r with epoch := r.epoch + 1 }).Volatile name ↔
        r.Volatile name ∧ name ∉ names := foldl_forget_iff volatile_forget names _ name
    rw [hdropped]
    -- A known template among the names takes all volatile answers along.
    split
    · rename_i hany
      obtain ⟨template, hmem, hk⟩ := List.any_eq_true.1 hany
      -- Then no volatile answer is left but the denial of what is never a template.
      refine iff_of_false (fun hvolatile => ?_) fun h => h.1.2 template hmem (by simpa using hk)
      simp [Volatile, invalidateAll, Table.contains, hname] at hvolatile
    · rename_i hnone
      have hunknown : ∀ template ∈ names, template ∉ r.knownTemplates := by simpa using hnone
      rw [hkept, and_iff_left (a := r.Volatile name) hunknown]

/-- There is an answer in what is left exactly if the answer is left. -/
theorem Without.answers_iff (h : r.Without gone r') (hname : name ∉ neverTemplates) :
    r'.answers name = true ↔ r.Left gone name := by
  rw [Registry.answers_iff, h.firm, h.volatile hname, Left, ← or_and_right, and_comm]

/-! ## What derives from a file -/

variable {host : Host} {file : FileId}

/-- The names that a refresh of a file forgets, where a failure of the host leaves the recorded
owners only. -/
def derived (r : Registry) (host : Host) (file : FileId) : List String :=
  r.withDependents (r.ownedBy file ++ (declaredNames host file).toOption.getD [])

/-- A refresh forgets what derives from the file, unless it is cancelled before. -/
theorem refreshedNames_ok (r : Registry) (h : declaredNames host file ≠ .error .cancelled) :
    r.refreshedNames host file =
      .ok (r.ownedBy file ++ (declaredNames host file).toOption.getD []) := by
  unfold refreshedNames
  split
  · -- Only a cancelled query is passed on; after any other failure the recorded owners are used.
    rename_i declared hdeclared
    simp [hdeclared, Except.toOption]
  · exact absurd ‹_› h
  · rename_i e _ herror
    simp [herror, Except.toOption]

theorem refresh_eq (r : Registry) (h : declaredNames host file ≠ .error .cancelled) :
    r.refresh host file =
      (if (r.derived host file).any r.answers then moduleOf host file else .ok [],
        r.forgetAll (r.derived host file)) := by
  simp only [refresh, r.refreshedNames_ok h]
  rfl

/-- What derives from a file holds what was derived from a member. -/
theorem derived_closed (r : Registry) (host : Host) (file : FileId) :
    ∀ parent ∈ r.derived host file, r.dependentsOf parent ⊆ r.derived host file :=
  (r.withDependents_closed _).2

theorem mem_derived_of_owner (h : r.owners.get? name = some file) : name ∈ r.derived host file :=
  (r.withDependents_closed _).1
    (List.mem_append_left _ (by simp [ownedBy, Table.mem_keysWhere_iff, h]))

theorem mem_derived_of_declared (h : name ∈ (declaredNames host file).toOption.getD []) :
    name ∈ r.derived host file :=
  (r.withDependents_closed _).1 (List.mem_append_right _ h)

/-- What derives from a file stays within a property of the names that were read from it or are
declared in it, which passes on to what was derived. -/
theorem derived_within {among : String → Prop}
    (howner : ∀ name, r.owners.get? name = some file → among name)
    (hdeclared : ∀ name ∈ (declaredNames host file).toOption.getD [], among name)
    (hderived : ∀ parent name, among parent → name ∈ r.dependentsOf parent → among name) :
    ∀ name ∈ r.derived host file, among name := by
  refine r.withDependents_within (fun name hname => ?_) hderived
  rcases List.mem_append.1 hname with hname | hname
  · exact howner name (by simpa [ownedBy, Table.mem_keysWhere_iff] using hname)
  · exact hdeclared name hname

/-- What derives from a file of a healthy host covers the file. -/
theorem covers_derived (h : host.Healthy) (r : Registry) (file : FileId) :
    r.Covers host file (r.derived host file) := by
  obtain ⟨names, hnames, hmem⟩ := h.declaredNames_ok file
  have hdeclared (name : String) : name ∈ (declaredNames host file).toOption.getD [] ↔
      ∃ decl, host.Declares name decl ∧ decl.file = file := by
    rw [hnames]
    exact hmem name
  refine ⟨mem_derived_of_owner, fun hdecl hfile => ?_, fun hparent => ?_,
    fun howner hdecls hderived => ?_⟩
  · exact mem_derived_of_declared ((hdeclared _).2 ⟨_, hdecl, hfile⟩)
  · exact r.derived_closed host file _ hparent
  · refine derived_within howner (fun name hname => ?_) hderived
    obtain ⟨decl, hdecl, hfile⟩ := (hdeclared name).1 hname
    exact hdecls name decl hdecl hfile

namespace Without

/-- Forgetting makes nothing derive from a file that did not before. -/
theorem derived_subset (h : r.Without gone r') (host : Host) (file : FileId) :
    r'.derived host file ⊆ r.derived host file := by
  -- Forgetting takes owners and dependents away, and leaves the host.
  refine derived_within (fun name howner => ?_) (fun name hdeclared => ?_)
    fun parent name hparent hname => ?_
  · exact mem_derived_of_owner (h.owners.1 howner).1
  · exact mem_derived_of_declared hdeclared
  · exact r.derived_closed host file parent hparent (h.dependents.1 hname).1

/-- What derived from a file and is not forgotten derives from it still, if with a name everything
was forgotten that was derived from it. -/
theorem mem_derived (h : r.Without gone r')
    (hclosed : ∀ parent, gone parent → ∀ name ∈ r.dependentsOf parent, gone name)
    (hname : name ∈ r.derived host file) : gone name ∨ name ∈ r'.derived host file := by
  -- The walk is closed under the property that the name is gone or still derives from the file.
  have hall : ∀ name ∈ r.derived host file, gone name ∨ name ∈ r'.derived host file := by
    refine derived_within (fun name howner => ?_) (fun name hdeclared => ?_)
      fun parent name hparent hname => ?_
    · by_cases hgone : gone name
      · exact .inl hgone
      · exact .inr (mem_derived_of_owner (h.owners.2 ⟨howner, hgone⟩))
    · exact .inr (mem_derived_of_declared hdeclared)
    · by_cases hgone : gone parent
      · exact .inl (hclosed parent hgone name hname)
      · exact .inr (r'.derived_closed host file parent (hparent.resolve_left hgone)
          (h.dependents.2 ⟨hname, hgone⟩))
  exact hall name hname

end Without

end Registry

/-! ## Saved files -/

/-- A Java source of the project. -/
def Host.IsSource (host : Host) (file : FileId) : Prop :=
  ∃ data, host.file file = .ok data ∧ data.isJavaSource = true

/-- A Java source of a build module. -/
def Host.IsSourceOf (host : Host) (unit : ModuleId) (file : FileId) : Prop :=
  ∃ data, host.file file = .ok data ∧ data.isJavaSource = true ∧ data.buildModule = some unit

theorem Host.IsSourceOf.isSource {host : Host} {unit : ModuleId} {file : FileId}
    (h : host.IsSourceOf unit file) : host.IsSource file :=
  h.imp fun _ ⟨hdata, hsource, _⟩ => ⟨hdata, hsource⟩

/-- A source belongs to one module. -/
theorem Host.IsSourceOf.unique {host : Host} {unit unit' : ModuleId} {file : FileId}
    (h : host.IsSourceOf unit file) (h' : host.IsSourceOf unit' file) : unit = unit' := by
  obtain ⟨data, hdata, _, hunit⟩ := h
  obtain ⟨data', hdata', _, hunit'⟩ := h'
  cases hdata.symm.trans hdata'
  exact Option.some.inj (hunit.symm.trans hunit')

namespace Registry

variable {r r' : Registry} {host : Host} {saved saved' : FileId → Prop} {file : FileId}
  {name : String}

/-- The name is forgotten when the given files are saved. -/
def Gone (r : Registry) (host : Host) (saved : FileId → Prop) (name : String) : Prop :=
  ∃ file, saved file ∧ host.IsSource file ∧ name ∈ r.derived host file

theorem Gone.mono (h : r.Gone host saved name) (himp : ∀ file, saved file → saved' file) :
    r.Gone host saved' name :=
  h.imp fun file ⟨hsaved, hmem⟩ => ⟨himp file hsaved, hmem⟩

/-- With a name everything is forgotten that was derived from it. -/
theorem Gone.dependents {parent : String} (h : r.Gone host saved parent)
    (hname : name ∈ r.dependentsOf parent) : r.Gone host saved name :=
  h.imp fun file ⟨hsaved, hsource, hparent⟩ =>
    ⟨hsaved, hsource, r.derived_closed host file parent hparent hname⟩

-- No file is saved, so that nothing is gone.
theorem left_gone_none : r.Left (r.Gone host fun _ => False) name ↔ r.answers name = true := by
  simp [Left, Gone, answers_iff]

/-- Before any file is saved. -/
theorem without_gone_nil (r : Registry) (host : Host) : r.Without (r.Gone host (· ∈ [])) r :=
  r.without_refl.congr fun name => by simp [Gone]

/-- Saving one more file after others. -/
theorem Without.save (h : r.Without (r.Gone host saved) r') (hsource : host.IsSource file) :
    r.Without (r.Gone host fun f => saved f ∨ f = file) (r'.forgetAll (r'.derived host file)) := by
  refine (h.trans (r'.without_forgetAll _)).congr fun name => ⟨?_, ?_⟩
  · rintro (hgone | hmem)
    · exact hgone.mono fun _ => .inl
    · exact ⟨file, .inr rfl, hsource, h.derived_subset host file hmem⟩
  · -- What derived from the file is gone with the others, or derives from it still.
    rintro ⟨f, hsaved | rfl, hf, hmem⟩
    · exact .inl ⟨f, hsaved, hf, hmem⟩
    · exact h.mem_derived (fun _ hgone _ => hgone.dependents) hmem

/-- After others were saved there is an answer that derives from a file exactly if one is left. -/
theorem Without.any_answers_iff (h : r.Without (r.Gone host saved) r')
    (hown : ∀ name ∈ r.derived host file, name ∉ neverTemplates) :
    (r'.derived host file).any r'.answers = true ↔
      ∃ name ∈ r.derived host file, r.Left (r.Gone host saved) name := by
  rw [List.any_eq_true]
  constructor
  · rintro ⟨name, hmem, hanswers⟩
    have hmem := h.derived_subset host file hmem
    exact ⟨name, hmem, (h.answers_iff (hown name hmem)).1 hanswers⟩
  · rintro ⟨name, hmem, hleft⟩
    exact ⟨name, (h.mem_derived (fun _ hgone _ => hgone.dependents) hmem).resolve_left hleft.1,
      (h.answers_iff (hown name hmem)).2 hleft⟩

end Registry

end PrototypeLens
