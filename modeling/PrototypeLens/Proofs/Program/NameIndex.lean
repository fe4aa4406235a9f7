import Mathlib.Data.List.Induction
import PrototypeLens.Proofs.Program.Consistent

/-!
# The index of names

Declarations are added, replaced and removed in any order. Several of them may have one name, and
one may be put under an identifier that was never given out. At any time the index has for a name
the declaration that was given it last, unless the name was released since then: a declaration of
that name was renamed, whether the name stood for it or not, or the one was removed that it stood
for. The index is exact about a name if and only if a name that was released is left on no
declaration, and one that was not is still the name of the declaration it was given to last.

## Layers

- `Edit`: the three edits. `nameOf?_edit` and `get?_index_edit` say what one of them does to the
  names of declarations and to the index.
- `Fits`: edits that keep names apart. After such edits nothing of what follows is needed.
- `GivenLast` and `Released`: what the index depends on, over a whole history of edits.
- `IndexSound`: what the index keeps as long as only declarations are replaced that were given out.

## Main results

- `Consistent.indexesExactly_editAll`: as long as names are kept apart the index is exact.
- `get?_index_edited`: what the index has for a name after any edits.
- When the index is exact about a name, for every history of edits.
-/

namespace PrototypeLens

namespace Program

/-! ## Edits -/

/-- An edit of the declarations of a program. -/
inductive Edit where
  | add (decl : Declaration)
  | update (id : DeclId) (decl : Declaration)
  | remove (id : DeclId)

namespace Edit

/-- The declaration that an edit puts in. -/
def decl? : Edit → Option Declaration
  | add decl => some decl
  | update _ decl => some decl
  | remove _ => none

/-- The qualified name of the declaration that an edit puts in. -/
def name? (e : Edit) : Option String := e.decl?.bind (·.qualifiedName)

end Edit

def edit (p : Program) : Edit → Program
  | .add decl => (p.addDeclaration decl).2
  | .update id decl => p.updateDeclaration id decl
  | .remove id => (p.removeDeclaration id).2

/-- The identifier whose declaration an edit changes. -/
def target (p : Program) : Edit → DeclId
  | .add _ => ⟨p.nextDeclaration⟩
  | .update id _ => id
  | .remove id => id

/-- The qualified name of the declaration that is stored under an identifier. -/
def nameOf? (p : Program) (id : DeclId) : Option String :=
  (p.declarations.get? id).bind (·.qualifiedName)

/-- A name is found exactly if a stored declaration has it, and what is found is stored and has
it. -/
def IndexesExactly (p : Program) (name : String) : Prop :=
  ∃ found, p.toHost.find name = .ok found ∧
    (found.isSome = true ↔ ∃ id, p.nameOf? id = some name) ∧
    ∀ id ∈ found, p.nameOf? id = some name

/-- As long as no two declarations have one name, the index is exact. -/
theorem Consistent.indexesExactly {p : Program} (h : p.Consistent) (name : String) :
    p.IndexesExactly name := by
  -- In both directions the index and the declarations tell the same.
  have hnamed {id : DeclId} : p.index.get? name = some id ↔ p.nameOf? id = some name := by
    rw [nameOf?, Option.bind_eq_some_iff]
    exact ⟨fun hindex => h.sound hindex, fun ⟨_, hdecl, hname⟩ => h.complete hdecl hname⟩
  refine ⟨_, h.find_eq name, ?_, fun id hid => hnamed.1 hid⟩
  rw [Option.isSome_iff_exists]
  exact exists_congr fun id => hnamed

/-! ### What one edit does -/

section Step

variable {p : Program} {e : Edit} {id : DeclId} {decl : Declaration} {name : String}

/-- The old name of a replaced declaration stands for nothing, whatever it stood for. -/
theorem get?_index_updateDeclaration :
    (p.updateDeclaration id decl).index.get? name =
      if decl.qualifiedName = some name then some id
      else if p.nameOf? id = some name then none else p.index.get? name := by
  rw [updateDeclaration, Consistent.get?_indexName, ← nameOf?]
  -- The new name is written last, so that it wins if it is the old one as well.
  split
  · rfl
  · cases p.nameOf? id with
    | none => simp
    | some old => simp only [Table.get?_erase, Option.some.injEq, eq_comm]

theorem get?_declarations_removeDeclaration {other : DeclId} :
    (p.removeDeclaration id).2.declarations.get? other =
      if other = id then none else p.declarations.get? other := by
  -- Removing what is not there changes nothing.
  unfold removeDeclaration
  cases hget : p.declarations.get? id with
  | none =>
    by_cases hother : other = id
    · rw [if_pos hother, hother, hget]
    · rw [if_neg hother]
  | some decl => exact Table.get?_erase ..

/-- The name of a removed declaration stands for nothing if it stood for that one. -/
theorem get?_index_removeDeclaration :
    (p.removeDeclaration id).2.index.get? name =
      if p.nameOf? id = some name ∧ p.index.get? name = some id then none
      else p.index.get? name := by
  unfold removeDeclaration nameOf?
  cases p.declarations.get? id with
  | none => simp
  | some decl =>
    cases hown : decl.qualifiedName with
    | none => simp [hown]
    | some own =>
      -- The index is touched only if the name stood for the declaration that is removed.
      by_cases hindex : p.index.get? own = some id
      · simp only [hown, hindex, if_true, Table.get?_erase, Option.bind_some, Option.some.injEq]
        by_cases hname : name = own
        · simp [hname, hindex]
        · simp [hname, Ne.symm hname]
      · simp only [hown, hindex, if_false, Option.bind_some, Option.some.injEq]
        rw [if_neg]
        rintro ⟨rfl, h⟩
        exact hindex h

theorem get?_declarations_edit :
    (p.edit e).declarations.get? id =
      if id = p.target e then e.decl? else p.declarations.get? id := by
  cases e with
  | add decl => exact Table.get?_insert ..
  | update other decl => exact Table.get?_insert ..
  | remove other => exact get?_declarations_removeDeclaration

/-- An edit gives its name to its target and leaves the names of all others. -/
theorem nameOf?_edit :
    (p.edit e).nameOf? id = if id = p.target e then e.name? else p.nameOf? id := by
  rw [nameOf?, get?_declarations_edit]
  split
  · rfl
  · rfl

/-- The edits that take away a name that stands for certain declarations. A replacement does so if
the old declaration has the name, whether the name stands for that one or not, a removal only if it
does. -/
def Takes (p : Program) (name : String) (stands : DeclId → Prop) : Edit → Prop
  | .add _ => False
  | .update id _ => p.nameOf? id = some name
  | .remove id => p.nameOf? id = some name ∧ stands id

/-- After an edit its own name stands for its target, a name that it takes for nothing, and any
other name for what it stood for. -/
theorem get?_index_edit :
    (p.edit e).index.get? name = some id ↔
      e.name? = some name ∧ p.target e = id ∨
      e.name? ≠ some name ∧ ¬ p.Takes name (p.index.get? name = some ·) e ∧
        p.index.get? name = some id := by
  cases e with
  | add decl =>
    have h : (p.edit (.add decl)).index.get? name = _ := Consistent.get?_indexName
    -- Each edit is compared by its own equation, with and without the name in question.
    rw [h]
    by_cases hname : decl.qualifiedName = some name <;>
      simp [hname, Edit.name?, Edit.decl?, target, Takes]
  | update other decl =>
    have h : (p.edit (.update other decl)).index.get? name = _ := get?_index_updateDeclaration
    rw [h]
    by_cases hname : decl.qualifiedName = some name <;>
      simp [hname, Edit.name?, Edit.decl?, target, Takes]
  | remove other =>
    have h : (p.edit (.remove other)).index.get? name = _ := get?_index_removeDeclaration
    rw [h]
    simp [Edit.name?, Edit.decl?, Takes]

theorem nextDeclaration_le_edit : p.nextDeclaration ≤ (p.edit e).nextDeclaration := by
  cases e with
  | add decl => exact Nat.le_succ _
  | update id decl => exact Nat.le_refl _
  | remove id =>
    simp only [edit, removeDeclaration]
    cases p.declarations.get? id with
    | none => exact Nat.le_refl _
    | some decl => exact Nat.le_refl _

/-- An edit does not change whether queries are answered. -/
theorem answer_edit {α : Type} (query : Query) (result : Except QueryError α) :
    (p.edit e).answer query result = p.answer query result := by
  cases e with
  | add decl => rfl
  | update id decl => rfl
  | remove id =>
    simp only [edit, removeDeclaration]
    cases p.declarations.get? id with
    | none => rfl
    | some decl => rfl

end Step

/-! ## Edits that keep names apart -/

/-- An edit that puts a declaration into a file of the program, under an identifier that is given
out, and under a name that no other declaration has. -/
def Fits (p : Program) : Edit → Prop
  | .add decl => decl.file.raw < p.files.length ∧ Consistent.NameFree p ⟨p.nextDeclaration⟩ decl
  | .update id decl =>
    decl.file.raw < p.files.length ∧ id.raw < p.nextDeclaration ∧ Consistent.NameFree p id decl
  | .remove _ => True

/-- Every edit fits the program that the edits before it leave. -/
def FitAll (p : Program) : List Edit → Prop
  | [] => True
  | e :: edits => p.Fits e ∧ (p.edit e).FitAll edits

/-- The files whose declarations an edit changes: that of the new declaration and that of the old
one. -/
def Touches (p : Program) (file : FileId) (e : Edit) : Prop :=
  (∃ decl, e.decl? = some decl ∧ decl.file = file) ∨
    ∃ old, p.declarations.get? (p.target e) = some old ∧ old.file = file

namespace Consistent

variable {p : Program} {e : Edit}

theorem edit (h : p.Consistent) (hfits : p.Fits e) : (p.edit e).Consistent := by
  cases e with
  | add decl => exact h.addDeclaration hfits.1 hfits.2
  | update id decl => exact h.updateDeclaration hfits.1 hfits.2.1 hfits.2.2
  | remove id => exact h.removeDeclaration id

/-- Such edits leave the declarations of all files alone that they do not touch. -/
theorem sameIn_edit (h : p.Consistent) (hfits : p.Fits e) {file : FileId}
    (huntouched : ¬ p.Touches file e) : p.toHost.SameIn (p.edit e).toHost file := by
  have h' := h.edit hfits
  have hold : ∀ old, p.declarations.get? (p.target e) = some old → old.file ≠ file :=
    fun old hget hfile => huntouched (.inr ⟨old, hget, hfile⟩)
  -- The new declaration and the old one both lie in files that the edit touches.
  cases e with
  | add decl => exact h.sameIn_addDeclaration h' fun hfile => huntouched (.inl ⟨decl, rfl, hfile⟩)
  | update id decl =>
    exact h.sameIn_updateDeclaration h' (fun hfile => huntouched (.inl ⟨decl, rfl, hfile⟩)) hold
  | remove id => exact h.sameIn_removeDeclaration hold

theorem editAll (h : p.Consistent) {edits : List Edit} (hfits : p.FitAll edits) :
    (edits.foldl Program.edit p).Consistent := by
  -- The induction is on the edits, with the program open.
  induction edits generalizing p with
  | nil => exact h
  | cons e edits ih => exact ih (h.edit hfits.1) hfits.2

/-- As long as edits keep names apart, the index stays exact about every name. -/
theorem indexesExactly_editAll (h : p.Consistent) {edits : List Edit} (hfits : p.FitAll edits)
    (name : String) : (edits.foldl Program.edit p).IndexesExactly name :=
  (h.editAll hfits).indexesExactly name

end Consistent

/-! ## Histories -/

/-- The program with some files after a sequence of edits. -/
def edited (files : List SourceFile) (edits : List Edit) : Program :=
  edits.foldl edit { files }

@[simp] theorem edited_concat (files : List SourceFile) (edits : List Edit) (e : Edit) :
    edited files (edits ++ [e]) = (edited files edits).edit e := by
  simp [edited]

section History

variable {files : List SourceFile} {edits : List Edit} {e : Edit} {id : DeclId} {name : String}

theorem answer_edited {α : Type} (query : Query) (result : Except QueryError α) :
    (edited files edits).answer query result = result := by
  induction edits using List.reverseRecOn with
  | nil => cases result <;> rfl
  -- Edits change neither readiness nor faults, and the program began without any.
  | append_singleton edits e ih => rw [edited_concat, answer_edit, ih]

theorem find_edited (files : List SourceFile) (edits : List Edit) (name : String) :
    (edited files edits).toHost.find name = .ok ((edited files edits).index.get? name) :=
  answer_edited (.find name) (.ok ((edited files edits).index.get? name))

/-- The declaration that a name was given to last. -/
inductive GivenLast (files : List SourceFile) (name : String) : List Edit → DeclId → Prop
  | gives {edits : List Edit} {e : Edit} : e.name? = some name →
    GivenLast files name (edits ++ [e]) ((edited files edits).target e)
  | keeps {edits : List Edit} {e : Edit} {id : DeclId} : e.name? ≠ some name →
    GivenLast files name edits id → GivenLast files name (edits ++ [e]) id

/-- The name was taken away since it was given last. -/
inductive Released (files : List SourceFile) (name : String) : List Edit → Prop
  | takes {edits : List Edit} {e : Edit} : e.name? ≠ some name →
    (edited files edits).Takes name (GivenLast files name edits) e →
    Released files name (edits ++ [e])
  | keeps {edits : List Edit} {e : Edit} : e.name? ≠ some name →
    Released files name edits → Released files name (edits ++ [e])

theorem not_givenLast_nil : ¬ GivenLast files name [] id := by
  -- The empty history is no history with a last edit.
  generalize hnil : ([] : List Edit) = edits
  intro h
  cases h with
  | gives => simp at hnil
  | keeps => simp at hnil

theorem givenLast_concat :
    GivenLast files name (edits ++ [e]) id ↔
      e.name? = some name ∧ (edited files edits).target e = id ∨
      e.name? ≠ some name ∧ GivenLast files name edits id := by
  constructor
  · generalize hedits : edits ++ [e] = edits'
    intro h
    cases h with
    | gives hname =>
      obtain ⟨rfl, he⟩ := List.append_inj' hedits rfl
      cases he
      exact .inl ⟨hname, rfl⟩
    | keeps hname h =>
      obtain ⟨rfl, he⟩ := List.append_inj' hedits rfl
      cases he
      exact .inr ⟨hname, h⟩
  · rintro (⟨hname, rfl⟩ | ⟨hname, h⟩)
    · exact .gives hname
    · exact .keeps hname h

theorem released_concat :
    Released files name (edits ++ [e]) ↔ e.name? ≠ some name ∧
      ((edited files edits).Takes name (GivenLast files name edits) e ∨
        Released files name edits) := by
  constructor
  · generalize hedits : edits ++ [e] = edits'
    intro h
    cases h with
    | takes hname h =>
      obtain ⟨rfl, he⟩ := List.append_inj' hedits rfl
      cases he
      exact ⟨hname, .inl h⟩
    | keeps hname h =>
      obtain ⟨rfl, he⟩ := List.append_inj' hedits rfl
      cases he
      exact ⟨hname, .inr h⟩
  · rintro ⟨hname, h | h⟩
    · exact .takes hname h
    · exact .keeps hname h

/-- The index has for a name the declaration that it was given to last, unless it was released
since then. -/
theorem get?_index_edited :
    (edited files edits).index.get? name = some id ↔
      GivenLast files name edits id ∧ ¬ Released files name edits := by
  -- The induction is on the history from its end: what the last edit does is known from what the
  -- others left.
  induction edits using List.reverseRecOn generalizing id with
  | nil => exact iff_of_false nofun fun h => not_givenLast_nil h.1
  | append_singleton edits e ih =>
    rw [edited_concat, get?_index_edit, givenLast_concat, released_concat]
    -- The last edit gives the name, and so it stands for the target and is not released.
    by_cases hname : e.name? = some name
    · simp [hname]
    by_cases hreleased : Released files name edits
    · simp [hname, ih, hreleased]
    -- The name stands for the declaration that it was given to last.
    have hstands : ((edited files edits).index.get? name = some ·) = GivenLast files name edits :=
      funext fun other => propext (by rw [ih, and_iff_left hreleased])
    rw [hstands, ih]
    simp only [hname, hreleased]
    tauto

/-- A stored declaration has a name that was given. -/
theorem exists_givenLast (h : (edited files edits).nameOf? id = some name) :
    ∃ owner, GivenLast files name edits owner := by
  induction edits using List.reverseRecOn with
  | nil => cases h
  | append_singleton edits e ih =>
    -- Either the last edit gave the name, or the declaration had it before.
    by_cases hname : e.name? = some name
    · exact ⟨_, .gives hname⟩
    · rw [edited_concat, nameOf?_edit] at h
      split at h
      · exact absurd h hname
      · obtain ⟨owner, howner⟩ := ih h
        exact ⟨owner, .keeps hname howner⟩

end History

/-! ## Edits of declarations that were given out -/

/-- Only declarations whose identifier was given out before are replaced. -/
def Orderly (files : List SourceFile) (edits : List Edit) : Prop :=
  ∀ before id decl, before ++ [.update id decl] <+: edits →
    id.raw < (edited files before).nextDeclaration

/-- Stored declarations have identifiers that were given out, and what the index has for a name is
stored and has it. -/
structure IndexSound (p : Program) : Prop where
  given {id : DeclId} {name : String} : p.nameOf? id = some name → id.raw < p.nextDeclaration
  stored {id : DeclId} {name : String} :
    p.index.get? name = some id → p.nameOf? id = some name

namespace IndexSound

variable {p : Program} {e : Edit}

/-- An edit keeps the index sound unless it replaces a declaration whose identifier was not given
out. -/
theorem edit (h : p.IndexSound)
    (hgiven : ∀ id decl, e = .update id decl → id.raw < p.nextDeclaration) :
    (p.edit e).IndexSound where
  given {id name} hname := by
    rw [nameOf?_edit] at hname
    split at hname
    · rename_i hid
      rw [hid]
      cases e with
      | add decl => exact Nat.lt_succ_self _
      | update other decl => exact hgiven other decl rfl
      | remove other => cases hname
    · exact Nat.lt_of_lt_of_le (h.given hname) nextDeclaration_le_edit
  stored {id name} hindex := by
    rw [nameOf?_edit]
    obtain ⟨hname, rfl⟩ | ⟨-, hkeeps, hindex⟩ := get?_index_edit.1 hindex
    · rw [if_pos rfl, hname]
    · have hold := h.stored hindex
      rw [if_neg, hold]
      rintro rfl
      -- The name would have been taken from the target, or the target is new.
      cases e with
      | add decl => exact Nat.lt_irrefl _ (h.given hold)
      | update id decl => exact hkeeps hold
      | remove id => exact hkeeps ⟨hold, hindex⟩

theorem edited {files : List SourceFile} {edits : List Edit} (h : Orderly files edits) :
    (edited files edits).IndexSound := by
  induction edits using List.reverseRecOn with
  | nil => exact ⟨nofun, nofun⟩
  | append_singleton edits e ih =>
    have hbefore : (Program.edited files edits).IndexSound :=
      -- The edits before the last one are orderly as well.
      ih fun before id decl hbegins => h before id decl (hbegins.trans (List.prefix_append _ _))
    rw [edited_concat]
    exact hbefore.edit fun id decl he => h edits id decl (he ▸ List.prefix_rfl)

end IndexSound

/-! ## When the index is exact -/

/-- After any edits the index is exact about a name if and only if no stored declaration has the
name in case that it was released, and otherwise the declaration that it was given to last still has
it. The second is so if only declarations are replaced whose identifiers were given out. -/
theorem indexesExactly_edited_iff (files : List SourceFile) (edits : List Edit) (name : String) :
    ((edited files edits).IndexesExactly name ↔
      (Released files name edits → ∀ id, (edited files edits).nameOf? id ≠ some name) ∧
      (¬ Released files name edits → ∀ id, GivenLast files name edits id →
        (edited files edits).nameOf? id = some name)) ∧
    (Orderly files edits → ¬ Released files name edits → ∀ id, GivenLast files name edits id →
      (edited files edits).nameOf? id = some name) := by
  refine ⟨⟨?_, ?_⟩, fun h hkept id hid =>
    (IndexSound.edited h).stored (get?_index_edited.2 ⟨hid, hkept⟩)⟩
  · rintro ⟨found, hfind, hsome, hfound⟩
    cases (find_edited files edits name).symm.trans hfind
    constructor
    · -- A released name stands for nothing, and then no declaration may have it.
      intro hreleased id hid
      obtain ⟨owner, howner⟩ := Option.isSome_iff_exists.1 (hsome.2 ⟨id, hid⟩)
      exact (get?_index_edited.1 howner).2 hreleased
    · exact fun hkept id hid => hfound id (get?_index_edited.2 ⟨hid, hkept⟩)
  · rintro ⟨hreleased, hkept⟩
    refine ⟨_, find_edited files edits name, ⟨fun h => ?_, fun ⟨id, hid⟩ => ?_⟩, fun id hid => ?_⟩
    · obtain ⟨owner, howner⟩ := Option.isSome_iff_exists.1 h
      have hlast := get?_index_edited.1 howner
      exact ⟨owner, hkept hlast.2 owner hlast.1⟩
    · -- The name was given at some time, and it stands for the last that it was given to.
      obtain ⟨owner, howner⟩ := exists_givenLast hid
      have hindex := get?_index_edited.2 ⟨howner, fun h => hreleased h id hid⟩
      exact Option.isSome_iff_exists.2 ⟨owner, hindex⟩
    · have hlast := get?_index_edited.1 hid
      exact hkept hlast.2 id hlast.1

/-- A class of a given qualified name. -/
def classNamed (name : String) : Declaration where
  name := name
  qualifiedName := some name
  kind := .classType
  file := ⟨0⟩

/-- The first of two declarations of one name is removed, and the name stands for the second. -/
theorem indexesExactly_edited_iff_sharedName :
    (edited [] [.add (classNamed "a.Shared"), .add (classNamed "a.Shared"),
      .remove ⟨0⟩]).IndexesExactly "a.Shared" := by
  obtain ⟨-, hkept⟩ := get?_index_edited.1 (rfl : (edited [] [.add (classNamed "a.Shared"),
    .add (classNamed "a.Shared"), .remove ⟨0⟩]).index.get? "a.Shared" = some ⟨1⟩)
  refine (indexesExactly_edited_iff ..).1.2 ⟨fun h => absurd h hkept, fun _ id hid => ?_⟩
  cases get?_index_edited.2 ⟨hid, hkept⟩
  rfl

/-- Of two declarations of one name the first is renamed, or the second is removed, and the name is
not found although the other one has it. The replacement of a declaration whose identifier was not
given out is lost with the next one that is added, and its name is found without a declaration. -/
theorem not_indexesExactly_sharedName :
    ¬ (edited [] [.add (classNamed "a.Shared"), .add (classNamed "a.Shared"),
      .update ⟨0⟩ (classNamed "a.Other")]).IndexesExactly "a.Shared" ∧
    ¬ (edited [] [.add (classNamed "a.Shared"), .add (classNamed "a.Shared"),
      .remove ⟨1⟩]).IndexesExactly "a.Shared" ∧
    ¬ (edited [] [.update ⟨0⟩ (classNamed "a.Shared"),
      .add (classNamed "a.Other")]).IndexesExactly "a.Shared" := by
  refine ⟨?_, ?_, ?_⟩
  · rintro ⟨found, hfind, hsome, -⟩
    cases hfind
    cases hsome.2 ⟨⟨1⟩, rfl⟩
  · rintro ⟨found, hfind, hsome, -⟩
    cases hfind
    cases hsome.2 ⟨⟨0⟩, rfl⟩
  · rintro ⟨found, hfind, -, hfound⟩
    cases hfind
    exact absurd (hfound ⟨0⟩ rfl) (by decide)

end Program

end PrototypeLens
