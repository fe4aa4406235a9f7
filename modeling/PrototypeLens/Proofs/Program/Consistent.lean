import PrototypeLens.Program
import PrototypeLens.Proofs.Host.Health

/-!
# Consistent programs

A program whose index lists exactly the qualified names of its declarations is a healthy host.
Adding files, adding, replacing and removing declarations keep it consistent as long as qualified
names stay unique.

## Layers

- `Answering`: a program that answers every query. `Consistent` adds what its index tells.
- `Consistent.insert` and `Consistent.erase`: the two ways in which an edit changes the declarations
  and the index together. Adding, replacing and removing are cases of them.
- What an edit leaves alone: the files that neither the old nor the new declaration lies in.

## Main results

- `Consistent.healthy`: a consistent program is a healthy host.
- `Consistent.addDeclaration`, `Consistent.updateDeclaration` and `Consistent.removeDeclaration`.
- `Consistent.sameIn_updateDeclaration` and its siblings: the declarations of other files stay.
-/

namespace PrototypeLens

namespace Program

/-- The program answers every query about what it holds. -/
structure Answering (p : Program) : Prop where
  ready : p.ready = true
  cancelled : p.cancelled = false
  faults : p.faults = []

namespace Answering

variable {p : Program}

theorem answer (h : p.Answering) {α : Type} (query : Query) (result : Except QueryError α) :
    p.answer query result = result := by
  unfold Program.answer
  -- With no faults, the last test finds none.
  simp only [h.cancelled, h.ready, h.faults]
  cases result with
  | ok a => rfl
  | error e => rfl

theorem declaration_eq_ok_iff (h : p.Answering) {id : DeclId} {decl : Declaration} :
    p.toHost.declaration id = .ok decl ↔ p.declarations.get? id = some decl := by
  simp only [toHost, h.answer]
  cases p.declarations.get? id with
  | none => simp
  | some decl' => simp

end Answering

/-- The program answers every query, its index tells exactly the qualified names of its
declarations, and these stand in existing files. -/
structure Consistent (p : Program) : Prop where
  ready : p.ready = true
  cancelled : p.cancelled = false
  faults : p.faults = []
  /-- A name stands for a declaration that has it. -/
  sound {name : String} {id : DeclId} : p.index.get? name = some id →
    ∃ decl, p.declarations.get? id = some decl ∧ decl.qualifiedName = some name
  /-- The name of a declaration stands for it. -/
  complete {id : DeclId} {decl : Declaration} {name : String} :
    p.declarations.get? id = some decl → decl.qualifiedName = some name →
    p.index.get? name = some id
  files {id : DeclId} {decl : Declaration} : p.declarations.get? id = some decl →
    decl.file.raw < p.files.length
  /-- Identifiers are given out in order. -/
  fresh {id : DeclId} {decl : Declaration} : p.declarations.get? id = some decl →
    id.raw < p.nextDeclaration

namespace Consistent

variable {p : Program} {id : DeclId} {decl : Declaration} {name : String}

/-! ## Consistent programs are healthy -/

theorem answering (h : p.Consistent) : p.Answering := ⟨h.ready, h.cancelled, h.faults⟩

theorem answer (h : p.Consistent) {α : Type} (query : Query) (result : Except QueryError α) :
    p.answer query result = result :=
  h.answering.answer query result

theorem find_eq (h : p.Consistent) (name : String) :
    p.toHost.find name = .ok (p.index.get? name) :=
  h.answer (.find name) (.ok (p.index.get? name))

theorem declaration_eq_ok_iff (h : p.Consistent) :
    p.toHost.declaration id = .ok decl ↔ p.declarations.get? id = some decl :=
  h.answering.declaration_eq_ok_iff

theorem mem_idsIn_iff {file : FileId} :
    id ∈ p.idsIn file ↔ ∃ decl, p.declarations.get? id = some decl ∧ decl.file = file := by
  simp [idsIn, Table.mem_keysWhere_iff]

theorem healthy (h : p.Consistent) : p.toHost.Healthy where
  find_ok name := ⟨_, h.find_eq name⟩
  found hfind := by
    rw [h.find_eq] at hfind
    obtain ⟨decl, hdecl, hname⟩ := h.sound (Except.ok.inj hfind)
    exact ⟨decl, h.declaration_eq_ok_iff.2 hdecl, hname⟩
  indexed hdecl hname := by
    rw [h.find_eq, h.complete (h.declaration_eq_ok_iff.1 hdecl) hname]
  file_ok {id decl} hdecl := by
    have hlt := h.files (h.declaration_eq_ok_iff.1 hdecl)
    exact ⟨p.files[decl.file.raw], by simp [toHost, h.answer, List.getElem?_eq_getElem hlt]⟩
  listed file := by
    -- The declarations of a file are those that say so, which is how they are listed.
    refine ⟨p.idsIn file, h.answer (.declarationsIn file) (.ok (p.idsIn file)), fun id => ?_⟩
    rw [mem_idsIn_iff]
    exact exists_congr fun decl => and_congr_left fun _ => h.declaration_eq_ok_iff.symm

theorem declares_iff (h : p.Consistent) :
    p.toHost.Declares name decl ↔
      ∃ id, p.declarations.get? id = some decl ∧ decl.qualifiedName = some name := by
  constructor
  · intro hd
    obtain ⟨id, _, hid⟩ := hd.declaration
    exact ⟨id, h.declaration_eq_ok_iff.1 hid, h.healthy.qualifiedName hd⟩
  · rintro ⟨id, hid, hname⟩
    exact h.healthy.declares (h.declaration_eq_ok_iff.2 hid) hname

theorem mem_files (h : p.Consistent) {id : FileId} {file : SourceFile}
    (hfile : p.toHost.file id = .ok file) : file ∈ p.files := by
  simp only [toHost, h.answer] at hfile
  -- A position beyond the files is an error, and not an answer.
  cases hget : p.files[id.raw]? with
  | none =>
    rw [hget] at hfile
    cases hfile
  | some file' =>
    rw [hget] at hfile
    cases hfile
    exact List.mem_of_getElem? hget

/-- Without archives among its files all declarations lie in the sources. -/
theorem sourceOnly (h : p.Consistent) (hfiles : ∀ file ∈ p.files, file.location = .source) :
    p.toHost.SourceOnly :=
  fun _ _ _ file hfile => hfiles file (h.mem_files hfile)

/-! ## Editing -/

/-- A program may start with any files. -/
theorem ofFiles (files : List SourceFile) : ({ files } : Program).Consistent where
  ready := rfl
  cancelled := rfl
  faults := rfl
  sound h := nomatch h
  complete h := nomatch h
  files h := nomatch h
  fresh h := nomatch h

theorem addFile (h : p.Consistent) (file : SourceFile) : (p.addFile file).2.Consistent where
  ready := h.ready
  cancelled := h.cancelled
  faults := h.faults
  sound := h.sound
  complete := h.complete
  files {id decl} hdecl := by
    have hlt : decl.file.raw < p.files.length := h.files hdecl
    simp only [Program.addFile, List.length_append, List.length_singleton]
    omega
  fresh := h.fresh

theorem get?_indexName {index : Table String DeclId} :
    (indexName index id decl).get? name =
      if decl.qualifiedName = some name then some id else index.get? name := by
  unfold indexName
  split
  · rename_i own hown
    rw [Table.get?_insert, hown]
    by_cases hname : name = own
    · simp [hname]
    · simp [hname, Ne.symm hname]
  · rename_i hown
    simp [hown]

/-- Taking a name away that stands for `id` leaves what stands for other identifiers. -/
theorem get?_erase_index {own : String} {other : DeclId} (hown : p.index.get? own = some id)
    (hother : other ≠ id) :
    (p.index.erase own).get? name = some other ↔ p.index.get? name = some other := by
  -- The name that is taken away stood for the identifier, and so for no other one.
  rw [Table.get?_erase]
  by_cases hname : name = own
  · rw [if_pos hname, hname, hown]
    simp [Ne.symm hother]
  · rw [if_neg hname]

/-- No declaration but the one under `id` has the name of `decl`. -/
def NameFree (p : Program) (id : DeclId) (decl : Declaration) : Prop :=
  ∀ other decl', other ≠ id → p.declarations.get? other = some decl' →
    decl'.qualifiedName = none ∨ decl'.qualifiedName ≠ decl.qualifiedName

/-- A declaration may be put under an identifier if no other one has its name. -/
theorem insert (h : p.Consistent) {index : Table String DeclId} {next : Nat}
    (hfile : decl.file.raw < p.files.length)
    (hindex : ∀ name, index.get? name = some id → decl.qualifiedName = some name)
    (hkeep : ∀ name other, other ≠ id → (index.get? name = some other ↔
      p.index.get? name = some other))
    (hfree : NameFree p id decl)
    (hnext : p.nextDeclaration ≤ next) (hid : id.raw < next) :
    Consistent { p with
      declarations := p.declarations.insert id decl
      nextDeclaration := next
      index := indexName index id decl } where
  ready := h.ready
  cancelled := h.cancelled
  faults := h.faults
  sound {name other} hget := by
    simp only [get?_indexName, Table.get?_insert] at hget ⊢
    -- The new name stands for `id`, any other one for what it stood for.
    split at hget
    · rename_i hname
      cases hget
      exact ⟨decl, if_pos rfl, hname⟩
    · rename_i hname
      by_cases hother : other = id
      · subst hother
        exact absurd (hindex name hget) hname
      · obtain ⟨decl', hdecl', hname'⟩ := h.sound ((hkeep name other hother).1 hget)
        exact ⟨decl', by rw [if_neg hother, hdecl'], hname'⟩
  complete {other decl' name} hget hname := by
    simp only [get?_indexName, Table.get?_insert] at hget ⊢
    by_cases hother : other = id
    · rw [if_pos hother] at hget
      cases hget
      rw [if_pos hname, hother]
    · rw [if_neg hother] at hget
      rcases hfree other decl' hother hget with hnone | hne
      · rw [hnone] at hname
        cases hname
      · rw [if_neg fun hown => hne (hname.trans hown.symm)]
        exact (hkeep name other hother).2 (h.complete hget hname)
  files {other decl'} hget := by
    rw [Table.get?_insert] at hget
    by_cases hother : other = id
    · rw [if_pos hother] at hget
      cases hget
      exact hfile
    · rw [if_neg hother] at hget
      exact h.files hget
  fresh {other decl'} hget := by
    rw [Table.get?_insert] at hget
    by_cases hother : other = id
    · exact hother ▸ hid
    · rw [if_neg hother] at hget
      exact Nat.lt_of_lt_of_le (h.fresh hget) hnext

/-- A declaration with a new name may be added. -/
theorem addDeclaration (h : p.Consistent) (hfile : decl.file.raw < p.files.length)
    (hfree : NameFree p ⟨p.nextDeclaration⟩ decl) : (p.addDeclaration decl).2.Consistent := by
  -- No name stands for an identifier that was never given out.
  refine h.insert hfile (fun name hget => ?_) (fun _ _ _ => Iff.rfl) hfree (by omega) (by simp)
  obtain ⟨decl', hdecl', _⟩ := h.sound hget
  exact absurd (h.fresh hdecl') (Nat.lt_irrefl _)

/-- A declaration may be replaced, also under a new name. -/
theorem updateDeclaration (h : p.Consistent) (hfile : decl.file.raw < p.files.length)
    (hid : id.raw < p.nextDeclaration) (hfree : NameFree p id decl) :
    (p.updateDeclaration id decl).Consistent := by
  unfold Program.updateDeclaration
  cases hold : (p.declarations.get? id).bind (·.qualifiedName) with
  | none =>
    refine h.insert hfile (fun name hget => ?_) (fun _ _ _ => Iff.rfl) hfree (by omega) hid
    -- Without an old name, a name that stands for the identifier has nothing to come from.
    obtain ⟨old, hdecl, hname⟩ := h.sound hget
    rw [hdecl] at hold
    exact absurd (hold.symm.trans hname) (by simp)
  | some old =>
    obtain ⟨decl₀, hdecl₀, hname₀⟩ := Option.bind_eq_some_iff.1 hold
    have hindex : p.index.get? old = some id := h.complete hdecl₀ hname₀
    refine h.insert hfile (fun name hget => ?_) (fun name other => get?_erase_index hindex) hfree
      (by omega) hid
    -- Only the old name stood for the declaration, and it is gone.
    rw [Table.get?_erase] at hget
    by_cases hname : name = old
    · rw [if_pos hname] at hget
      cases hget
    · rw [if_neg hname] at hget
      obtain ⟨decl', hdecl', hname'⟩ := h.sound hget
      rw [hdecl₀] at hdecl'
      cases hdecl'
      exact absurd (Option.some.inj (hname'.symm.trans hname₀)) hname

/-- A declaration may be replaced under its own name. -/
theorem updateDeclaration_same (h : p.Consistent) {old : Declaration}
    (hold : p.declarations.get? id = some old) (hname : old.qualifiedName = decl.qualifiedName)
    (hfile : decl.file.raw < p.files.length) : (p.updateDeclaration id decl).Consistent := by
  apply h.updateDeclaration hfile (h.fresh hold)
  intro other decl' hother hdecl'
  cases hown : decl'.qualifiedName with
  | none => exact .inl rfl
  | some own =>
    right
    intro hsame
    -- The name would stand for both identifiers.
    have hindex : p.index.get? own = some id := h.complete hold (hname.trans hsame.symm)
    have hindex' : p.index.get? own = some other := h.complete hdecl' hown
    exact hother (Option.some.inj (hindex'.symm.trans hindex))

/-- A declaration may be taken away together with the names that stand for it. -/
theorem erase (h : p.Consistent) {index : Table String DeclId}
    (hkeep : ∀ name other, other ≠ id → (index.get? name = some other ↔
      p.index.get? name = some other))
    (hgone : ∀ name, index.get? name ≠ some id) :
    Consistent { p with declarations := p.declarations.erase id, index } where
  ready := h.ready
  cancelled := h.cancelled
  faults := h.faults
  sound {name other} hget := by
    -- No name stands for what is gone, so that each of them stands for another one.
    have hother : other ≠ id := fun e => hgone name (e ▸ hget)
    obtain ⟨decl, hdecl, hname⟩ := h.sound ((hkeep name other hother).1 hget)
    exact ⟨decl, by rw [Table.get?_erase, if_neg hother, hdecl], hname⟩
  complete {other decl name} hget hname := by
    rw [Table.get?_erase] at hget
    split at hget
    · cases hget
    · rename_i hother
      exact (hkeep name other hother).2 (h.complete hget hname)
  files hget := by
    rw [Table.get?_erase] at hget
    split at hget
    · cases hget
    · exact h.files hget
  fresh hget := by
    rw [Table.get?_erase] at hget
    split at hget
    · cases hget
    · exact h.fresh hget

/-- A declaration may be removed. -/
theorem removeDeclaration (h : p.Consistent) (id : DeclId) :
    (p.removeDeclaration id).2.Consistent := by
  unfold Program.removeDeclaration
  cases hdecl : p.declarations.get? id with
  | none => exact h
  | some decl =>
    -- No name stands for the declaration but its own.
    have hstands (name : String) (hget : p.index.get? name = some id) :
        decl.qualifiedName = some name := by
      obtain ⟨decl', hdecl', hname⟩ := h.sound hget
      rw [hdecl] at hdecl'
      cases hdecl'
      exact hname
    dsimp only
    cases hown : decl.qualifiedName with
    -- Without a name there is nothing to take from the index.
    | none =>
      refine h.erase (fun _ _ _ => Iff.rfl) fun name hget => ?_
      have hname := hstands name hget
      rw [hown] at hname
      cases hname
    | some own =>
      have hindex : p.index.get? own = some id := h.complete hdecl hown
      simp only [hindex, if_true]
      refine h.erase (fun name other => get?_erase_index hindex) fun name hget => ?_
      rw [Table.get?_erase] at hget
      split at hget
      · cases hget
      · rename_i hname
        exact hname (Option.some.inj ((hstands name hget).symm.trans hown))

/-! ## What an edit leaves alone -/

theorem sameIn (h : p.Consistent) {p' : Program} (h' : p'.Consistent) {file : FileId}
    (hsame : ∀ id decl, decl.file = file →
      (p.declarations.get? id = some decl ↔ p'.declarations.get? id = some decl)) :
    p.toHost.SameIn p'.toHost file := by
  intro id decl hfile
  rw [h.declaration_eq_ok_iff, h'.declaration_eq_ok_iff, hsame id decl hfile]

/-- Adding a declaration changes its own file only. -/
theorem sameIn_addDeclaration (h : p.Consistent) (h' : (p.addDeclaration decl).2.Consistent)
    {file : FileId} (hnew : decl.file ≠ file) :
    p.toHost.SameIn (p.addDeclaration decl).2.toHost file := by
  refine h.sameIn h' fun other decl' hfile => ?_
  rw [Program.addDeclaration, Table.get?_insert]
  split
  · rename_i hother
    -- The new declaration is under an identifier of its own; all others are as they were.
    constructor
    · intro hget
      exact absurd (h.fresh (hother ▸ hget)) (Nat.lt_irrefl _)
    · intro hget
      exact absurd (Option.some.inj hget ▸ hfile) hnew
  · rfl

/-- Replacing a declaration changes the files that the old and the new one lie in. -/
theorem sameIn_updateDeclaration (h : p.Consistent)
    (h' : (p.updateDeclaration id decl).Consistent) {file : FileId} (hnew : decl.file ≠ file)
    (hold : ∀ old, p.declarations.get? id = some old → old.file ≠ file) :
    p.toHost.SameIn (p.updateDeclaration id decl).toHost file := by
  refine h.sameIn h' fun other decl' hfile => ?_
  rw [Program.updateDeclaration, Table.get?_insert]
  split
  · rename_i hother
    -- Under the identifier there was a declaration of another file, and now there is one.
    constructor
    · intro hget
      exact absurd hfile (hold decl' (hother ▸ hget))
    · intro hget
      exact absurd (Option.some.inj hget ▸ hfile) hnew
  · rfl

/-- Replacing a declaration changes what the names of the old and the new one stand for. -/
theorem declares_updateDeclaration (h : p.Consistent)
    (h' : (p.updateDeclaration id decl).Consistent) {name : String} {decl' : Declaration}
    (hnew : decl.qualifiedName ≠ some name)
    (hold : ∀ old, p.declarations.get? id = some old → old.qualifiedName ≠ some name) :
    (p.updateDeclaration id decl).toHost.Declares name decl' ↔ p.toHost.Declares name decl' := by
  rw [h'.declares_iff, h.declares_iff]
  refine exists_congr fun other => and_congr_left fun hname => ?_
  rw [Program.updateDeclaration, Table.get?_insert]
  -- Names are told apart as the files were: neither the old nor the new one has this name.
  split
  · rename_i hother
    constructor
    · intro hget
      exact absurd (Option.some.inj hget ▸ hname) hnew
    · intro hget
      exact absurd hname (hold decl' (hother ▸ hget))
  · rfl

/-- Removing a declaration changes the file that it lay in. -/
theorem sameIn_removeDeclaration (h : p.Consistent) {file : FileId}
    (hold : ∀ old, p.declarations.get? id = some old → old.file ≠ file) :
    p.toHost.SameIn (p.removeDeclaration id).2.toHost file := by
  refine h.sameIn (h.removeDeclaration id) fun other decl' hfile => ?_
  unfold Program.removeDeclaration
  cases hget : p.declarations.get? id with
  | none => rfl
  | some old =>
    rw [Table.get?_erase]
    -- Removing an identifier that has no declaration changes nothing; otherwise it had one of
    -- another file.
    split
    · rename_i hother
      constructor
      · intro hget'
        exact absurd hfile (hold decl' (hother ▸ hget'))
      · intro hnone
        cases hnone
    · rfl

end Consistent

end Program

end PrototypeLens
