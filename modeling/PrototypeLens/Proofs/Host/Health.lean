import PrototypeLens.Proofs.Template.Meaning

/-!
# Healthy hosts

What a lookup may rely on of its host. A host is healthy if it answers every query about what it
holds and no two declarations share a qualified name; its sources are where annotations are read
from their declarations and not from a manifest.

## Layers

- `mapM_eq_ok_iff` and its consequences: what is asked of each of a list in turn.
- `Host.Sourced` and `Host.SourceOnly`: where declarations lie.
- `Host.Healthy`: which queries are answered, and with what.
- `Host.SameIn`: two hosts with the same declarations in a file.
- `Host.WellFormed`: strategies that are written as constants.

## Main results

- `findData_eq_some_iff`: a name resolves to a declaration by way of its identifier.
- `Healthy.findData_ok` and `Healthy.declares`: names are answered, and lead to their declarations.
- `SameIn.declares_iff`: what a file declares is declared alike on both hosts.
-/

namespace PrototypeLens

/-! ## Queries in turn -/

section InTurn

variable {ε α β : Type} {f : α → Except ε β} {as : List α} {bs : List β}

/-- What is asked of each in turn gives the answer to each. -/
theorem mapM_eq_ok_iff : as.mapM f = .ok bs ↔ as.map f = bs.map .ok := by
  -- The induction is on the questions; a failure of the first one leaves nothing to compare.
  induction as generalizing bs with
  | nil => cases bs <;> simp [pure, Except.pure]
  | cons a as ih =>
    rw [List.mapM_cons, List.map_cons]
    cases hb : f a with
    | error e => cases bs <;> simp [bind, Except.bind]
    | ok b =>
      cases hrest : as.mapM f with
      | error e =>
        cases bs with
        | nil => simp [bind, Except.bind]
        | cons b' bs =>
          -- The rest fails, so its answers are not those of the list.
          have hne : as.map f ≠ bs.map .ok := fun heq => by simpa [hrest] using ih.2 heq
          simp [bind, Except.bind, hne]
      | ok bs' => cases bs <;> simp [bind, Except.bind, pure, Except.pure, ← ih, hrest]

/-- The answers are those to a member. -/
theorem mem_iff_of_mapM (h : as.mapM f = .ok bs) {b : β} : b ∈ bs ↔ ∃ a ∈ as, f a = .ok b := by
  have hmem : .ok b ∈ bs.map (Except.ok (ε := ε)) ↔ b ∈ bs := by simp
  rw [← hmem, ← mapM_eq_ok_iff.1 h, List.mem_map]

/-- Everything asked in turn is answered if each question is. -/
theorem exists_mapM_ok_iff : (∃ bs, as.mapM f = .ok bs) ↔ ∀ a ∈ as, ∃ b, f a = .ok b := by
  -- As soon as one question fails, all of them together do.
  induction as with
  | nil => exact iff_of_true ⟨[], rfl⟩ nofun
  | cons a as ih =>
    rw [List.forall_mem_cons, ← ih, List.mapM_cons]
    cases f a with
    | error e => simp [bind, Except.bind]
    | ok b => cases as.mapM f <;> simp [bind, Except.bind, pure, Except.pure]

end InTurn

namespace Host

variable {host : Host} {name : String} {decl : Declaration}

/-! ## Where declarations lie -/

/-- The declaration of a name, if there is one, does not lie in an archive. -/
def InSource (host : Host) (name : String) : Prop :=
  ∀ decl, host.Declares name decl → ∀ file, host.file decl.file = .ok file →
    file.location = .source

/-- Names resolve to declarations of that name, and the annotations on them are not declared in
archives. -/
structure Sourced (host : Host) : Prop where
  /-- A declaration that a name resolves to has that name. -/
  named {name : String} {decl : Declaration} :
    host.Declares name decl → decl.qualifiedName = some name
  /-- An annotation on a declaration lies in a source file. -/
  inSource {name : String} {decl : Declaration} {use : AnnotationUse} :
    host.Declares name decl → use ∈ decl.annotations → host.InSource use.name

/-- No declaration lies in an archive. -/
def SourceOnly (host : Host) : Prop :=
  ∀ id decl, host.declaration id = .ok decl → ∀ file, host.file decl.file = .ok file →
    file.location = .source

/-! ## Health -/

/-- Every name resolves to a declaration or to nothing. -/
def Findable (host : Host) : Prop := ∀ name, ∃ entry, host.findData name = .ok entry

/-- A host that answers every query about what it holds, and whose declarations have qualified
names of their own. -/
structure Healthy (host : Host) : Prop where
  find_ok (name : String) : ∃ found, host.find name = .ok found
  /-- What a name resolves to has a declaration of that name. -/
  found {name : String} {id : DeclId} : host.find name = .ok (some id) →
    ∃ decl, host.declaration id = .ok decl ∧ decl.qualifiedName = some name
  /-- A qualified name resolves to the one declaration that has it. -/
  indexed {id : DeclId} {decl : Declaration} {name : String} :
    host.declaration id = .ok decl → decl.qualifiedName = some name →
    host.find name = .ok (some id)
  file_ok {id : DeclId} {decl : Declaration} : host.declaration id = .ok decl →
    ∃ file, host.file decl.file = .ok file
  /-- The declarations of a file can be listed. -/
  listed (file : FileId) : ∃ ids, host.declarationsIn file = .ok ids ∧
    ∀ id, id ∈ ids ↔ ∃ decl, host.declaration id = .ok decl ∧ decl.file = file

theorem findData_eq_some_iff {id : DeclId} :
    host.findData name = .ok (some (id, decl)) ↔
      host.find name = .ok (some id) ∧ host.declaration id = .ok decl := by
  simp only [findData, bind, Except.bind, pure, Except.pure]
  constructor
  · -- The lookup goes from the name to the identifier and from there to the declaration; each step
    -- may fail.
    intro h
    split at h
    · cases h
    · split at h
      · rename_i found hfound
        split at h
        · cases h
        · rename_i data hdata
          cases h
          exact ⟨hfound, hdata⟩
      · cases h
  · rintro ⟨hfind, hdecl⟩
    rw [hfind]
    simp only [hdecl]

theorem Declares.declaration (h : host.Declares name decl) :
    ∃ id, host.find name = .ok (some id) ∧ host.declaration id = .ok decl := by
  obtain ⟨id, h⟩ := h
  exact ⟨id, findData_eq_some_iff.1 h⟩

namespace Healthy

theorem findData_ok (h : host.Healthy) (name : String) :
    ∃ entry, host.findData name = .ok entry := by
  obtain ⟨found, hfind⟩ := h.find_ok name
  cases found with
  | none => exact ⟨none, by simp [findData, hfind, bind, Except.bind, pure, Except.pure]⟩
  | some id =>
    obtain ⟨decl, hdecl, _⟩ := h.found hfind
    exact ⟨some (id, decl), findData_eq_some_iff.2 ⟨hfind, hdecl⟩⟩

theorem findData_ne_error (h : host.Healthy) {e : QueryError} : host.findData name ≠ .error e := by
  obtain ⟨entry, hentry⟩ := h.findData_ok name
  rw [hentry]
  exact nofun

theorem file_ne_error (h : host.Healthy) (hd : host.Declares name decl) {e : QueryError} :
    host.file decl.file ≠ .error e := by
  obtain ⟨id, _, hdecl⟩ := hd.declaration
  obtain ⟨file, hfile⟩ := h.file_ok hdecl
  rw [hfile]
  exact nofun

/-- Every name resolves to a declaration or to nothing. -/
theorem finds (h : host.Healthy) (name : String) : ∃ decl, host.Finds name decl := by
  obtain ⟨entry, hentry⟩ := h.findData_ok name
  exact ⟨_, entry, hentry, rfl⟩

theorem qualifiedName (h : host.Healthy) (hd : host.Declares name decl) :
    decl.qualifiedName = some name := by
  obtain ⟨id, hfind, hdecl⟩ := hd.declaration
  obtain ⟨decl', hdecl', hname⟩ := h.found hfind
  rw [hdecl] at hdecl'
  cases hdecl'
  exact hname

theorem declares (h : host.Healthy) {id : DeclId} (hdecl : host.declaration id = .ok decl)
    (hname : decl.qualifiedName = some name) : host.Declares name decl :=
  ⟨id, findData_eq_some_iff.2 ⟨h.indexed hdecl hname, hdecl⟩⟩

/-- Without archives every name lies in the sources. -/
theorem sourced (h : host.Healthy) (hs : host.SourceOnly) : host.Sourced where
  named := h.qualifiedName
  inSource _ _ decl hd file hf := by
    obtain ⟨id, _, hdecl⟩ := hd.declaration
    exact hs id decl hdecl file hf

end Healthy

theorem SourceOnly.inSource (hs : host.SourceOnly) (name : String) : host.InSource name := by
  intro decl hd file hf
  obtain ⟨id, _, hdecl⟩ := hd.declaration
  exact hs id decl hdecl file hf

/-! ## Edits -/

/-- Two hosts have the same declarations in a file. -/
def SameIn (host host' : Host) (file : FileId) : Prop :=
  ∀ id decl, decl.file = file → (host.declaration id = .ok decl ↔ host'.declaration id = .ok decl)

theorem SameIn.declares_iff {host' : Host} (h : host.SameIn host' decl.file)
    (hhealthy : host.Healthy) (hhealthy' : host'.Healthy) :
    host.Declares name decl ↔ host'.Declares name decl := by
  constructor
  · intro hdecl
    -- A declaration is told by its identifier, which both hosts share in the file.
    obtain ⟨id, _, hid⟩ := hdecl.declaration
    exact hhealthy'.declares ((h id decl rfl).1 hid) (hhealthy.qualifiedName hdecl)
  · intro hdecl
    obtain ⟨id, _, hid⟩ := hdecl.declaration
    exact hhealthy.declares ((h id decl rfl).2 hid) (hhealthy'.qualifiedName hdecl)

end Host

/-! ## Well-formed strategies -/

/-- A value that is one of the strategy constants. -/
def AttrValue.IsStrategy (value : AttrValue) : Prop :=
  ∃ strategy, value.enumConstant?.bind Strategy.ofConstant? = some strategy

instance (value : AttrValue) : Decidable value.IsStrategy :=
  decidable_of_iff _ Option.isSome_iff_exists

/-- The strategies that are written for the names of `isTemplate` are well-formed: at their usages
and among their own element defaults. -/
structure Host.WellFormed (host : Host) (isTemplate : String → Prop) : Prop where
  /-- A usage of a template gives a strategy by a constant. -/
  uses {name : String} {decl : Declaration} {use : AnnotationUse} :
    host.Declares name decl → use ∈ decl.annotations → isTemplate use.name →
    ∀ attr ∈ use.attrs, attr.name = "strategy" → attr.value.IsStrategy
  /-- A template gives its default strategy by a constant. -/
  elements {name : String} {decl : Declaration} : host.Declares name decl → isTemplate name →
    ∀ m ∈ decl.methods, m.origin = .source → m.name = "strategy" →
    ∀ value, m.defaultValue = some value → value.IsStrategy

theorem Host.WellFormed.mono {host : Host} {isTemplate other : String → Prop}
    (h : host.WellFormed isTemplate) (himp : ∀ name, other name → isTemplate name) :
    host.WellFormed other where
  uses hdecl huse hname := h.uses hdecl huse (himp _ hname)
  elements hdecl hname := h.elements hdecl (himp _ hname)

end PrototypeLens
