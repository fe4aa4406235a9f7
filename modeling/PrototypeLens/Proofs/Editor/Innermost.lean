import Mathlib.Data.List.MinMax
import PrototypeLens.Editor.Basic
import PrototypeLens.Proofs.Program.Checks

/-!
# The declaration around an offset

A message of the host at an offset is put down to the innermost declaration there. Of the
declarations whose spans hold the offset it is the one with the shortest span, and of equally long
ones the one that was declared first. Where the spans of the file are nested in each other or apart,
this is the declaration that stands within all the others.

## Layers

- `Span.Within`, `Span.Nested`, `Span.Apart` and `Host.Laminar`: how spans lie to each other.
- `Host.Innermost`: what is looked for, with `Innermost.unique` and `Innermost.within`.
- `foldl_innermost`: the search is the first minimum of a list of candidates, `argmin` over the
  lengths of their spans.
- `Host.ListsInOrder`: a host that lists the declarations of a file by identifier.
  `innermost_of_argmin` turns the minimum into the innermost declaration there.

## Main results

- The search always comes to its end, finds nothing exactly where no span holds the offset, and
  otherwise the innermost declaration.
- In a file with nested spans, what it finds lies within every other declaration around the offset.
-/

namespace PrototypeLens

/-! ## Nested spans -/

namespace Span

/-- A span lies in another one. -/
def Within (s t : Span) : Prop := t.start ≤ s.start ∧ s.stop ≤ t.stop

/-- A span lies in another one and is shorter. -/
def Nested (s t : Span) : Prop := s.Within t ∧ s.length < t.length

instance (s t : Span) : Decidable (s.Within t) :=
  inferInstanceAs (Decidable (t.start ≤ s.start ∧ s.stop ≤ t.stop))

instance (s t : Span) : Decidable (s.Nested t) :=
  inferInstanceAs (Decidable (s.Within t ∧ s.length < t.length))

/-- No offset falls into both spans. -/
def Apart (s t : Span) : Prop :=
  ∀ offset, ¬ (s.contains offset = true ∧ t.contains offset = true)

theorem within_refl (s : Span) : s.Within s := ⟨le_rfl, le_rfl⟩

end Span

/-! ## Declarations around an offset -/

namespace Host

variable {host : Host} {file : FileId} {offset : Nat} {id other : DeclId} {span span' : Span}

/-- A declaration of the file has the span. -/
def Spans (host : Host) (file : FileId) (id : DeclId) (span : Span) : Prop :=
  ∃ decl, host.declaration id = .ok decl ∧ decl.file = file ∧ decl.span = some span

/-- A declaration of the file has the span, and the offset falls into it. -/
def Covers (host : Host) (file : FileId) (offset : Nat) (id : DeclId) (span : Span) : Prop :=
  host.Spans file id span ∧ span.contains offset = true

/-- Of the declarations of the file around the offset this one has the shortest span, and of those
with the shortest span the lowest identifier. -/
structure Innermost (host : Host) (file : FileId) (offset : Nat) (id : DeclId) (span : Span) :
    Prop where
  covers : host.Covers file offset id span
  shortest {other : DeclId} {span' : Span} : host.Covers file offset other span' →
    span.length ≤ span'.length
  first {other : DeclId} {span' : Span} : host.Covers file offset other span' →
    span'.length = span.length → id.raw ≤ other.raw

/-- Different declarations of the file have spans that are nested or apart. -/
def Laminar (host : Host) (file : FileId) : Prop :=
  ∀ id other span span', id ≠ other → host.Spans file id span → host.Spans file other span' →
    span.Apart span' ∨ span.Nested span' ∨ span'.Nested span

theorem Spans.unique (h : host.Spans file id span) (h' : host.Spans file id span') :
    span = span' := by
  obtain ⟨decl, hdecl, _, hspan⟩ := h
  obtain ⟨decl', hdecl', _, hspan'⟩ := h'
  cases hdecl.symm.trans hdecl'
  exact Option.some.inj (hspan.symm.trans hspan')

theorem Innermost.unique (h : host.Innermost file offset id span)
    (h' : host.Innermost file offset other span') : id = other := by
  have hlength : span.length = span'.length :=
    le_antisymm (h.shortest h'.covers) (h'.shortest h.covers)
  have hraw : id.raw = other.raw :=
    le_antisymm (h.first h'.covers hlength.symm) (h'.first h.covers hlength)
  obtain ⟨n⟩ := id
  obtain ⟨m⟩ := other
  exact congrArg DeclId.mk hraw

/-- Where spans are nested or apart, the innermost declaration lies in every other one around the
offset. -/
theorem Innermost.within (h : host.Innermost file offset id span) (hlaminar : host.Laminar file)
    (hother : host.Covers file offset other span') : span.Within span' := by
  by_cases hsame : id = other
  · cases hsame
    cases h.covers.1.unique hother.1
    exact span.within_refl
  · -- They share the offset, and the other one is not the shorter of the two.
    rcases hlaminar id other span span' hsame h.covers.1 hother.1 with hapart | hin | hout
    · exact absurd ⟨h.covers.2, hother.2⟩ (hapart offset)
    · exact hin.1
    · exact absurd (h.shortest hother) (Nat.not_le.2 hout.2)

end Host

/-! ## The search -/

/-- The declaration with the length of its span, if the offset falls into that. -/
def candidate? (offset : Nat) (span? : DeclId → Option Span) (id : DeclId) :
    Option (DeclId × Nat) :=
  ((span? id).filter (·.contains offset)).map fun span => (id, span.length)

/-- The search finds the first of the shortest candidates. -/
theorem foldl_innermost (offset : Nat) (span? : DeclId → Option Span) (ids : List DeclId) :
    ids.foldl (fun best id => innermost offset best id (span? id)) none =
      (ids.filterMap (candidate? offset span?)).argmin (·.2) := by
  -- Both are folds over the declarations. They agree step by step, as a declaration without a span
  -- around the offset is skipped by both.
  rw [List.argmin, List.foldl_filterMap]
  congr 1
  funext best id
  cases hspan : span? id with
  | none => simp [innermost, candidate?, hspan]
  | some span =>
    by_cases hcontains : span.contains offset = true
    · cases best with
      | none => simp [innermost, candidate?, hspan, Option.filter_some, hcontains, List.argAux]
      | some best =>
        simp [innermost, candidate?, hspan, Option.filter_some, hcontains, List.argAux]
    · simp [innermost, candidate?, hspan, Option.filter_some, hcontains]

/-- Of two members of a list in order the one that comes first is the lower one. -/
theorem rel_of_idxOf_le {α : Type} [DecidableEq α] {R : α → α → Prop} (hrefl : ∀ a, R a a)
    {as : List α} (hordered : as.Pairwise R) {a b : α} (ha : a ∈ as) (hb : b ∈ as)
    (hle : as.idxOf a ≤ as.idxOf b) : R a b := by
  -- The order of the list says it for different members, reflexivity for one and the same.
  rcases hle.lt_or_eq with hlt | heq
  · have hrel := List.pairwise_iff_getElem.1 hordered _ _ (List.idxOf_lt_length_of_mem ha)
      (List.idxOf_lt_length_of_mem hb) hlt
    simpa only [List.getElem_idxOf] using hrel
  · cases (List.idxOf_inj ha).1 heq
    exact hrefl a

namespace Host

variable {host : Host} {file : FileId} {offset : Nat} {id : DeclId} {ids : List DeclId}

/-- The span of a declaration. -/
def span? (host : Host) (id : DeclId) : Option Span :=
  (host.declaration id).toOption.bind (·.span)

theorem foldlM_innermost (hread : ∀ id ∈ ids, ∃ decl, host.declaration id = .ok decl)
    (best : Option (DeclId × Nat)) :
    ids.foldlM (fun best id => do
        return innermost offset best id (← host.declaration id).span) best =
      .ok (ids.foldl (fun best id => innermost offset best id (host.span? id)) best) := by
  induction ids generalizing best with
  | nil => rfl
  | cons id ids ih =>
    obtain ⟨⟨decl, hdecl⟩, hread⟩ := List.forall_mem_cons.1 hread
    rw [List.foldlM_cons, List.foldl_cons, span?, hdecl]
    exact ih hread _

/-- The host lists the declarations of a file by their identifiers. -/
structure ListsInOrder (host : Host) (file : FileId) (ids : List DeclId) : Prop where
  listed : host.declarationsIn file = .ok ids
  mem_iff (id : DeclId) : id ∈ ids ↔ ∃ decl, host.declaration id = .ok decl ∧ decl.file = file
  ascending : ids.Pairwise fun id other => id.raw ≤ other.raw

/-- The declarations around an offset, in order, with the lengths of their spans. -/
def candidates (host : Host) (offset : Nat) (ids : List DeclId) : List (DeclId × Nat) :=
  ids.filterMap (candidate? offset host.span?)

namespace ListsInOrder

variable (h : host.ListsInOrder file ids)
include h

theorem mem_candidates_iff {length : Nat} : (id, length) ∈ host.candidates offset ids ↔
    ∃ span, host.Covers file offset id span ∧ span.length = length := by
  simp only [candidates, List.mem_filterMap, candidate?, Option.map_eq_some_iff,
    Option.filter_eq_some_iff, Prod.mk.injEq, h.mem_iff]
  constructor
  · rintro ⟨_, ⟨decl, hdecl, hfile⟩, span, ⟨hspan, hcontains⟩, rfl, hlength⟩
    rw [span?, hdecl] at hspan
    exact ⟨span, ⟨⟨decl, hdecl, hfile, hspan⟩, hcontains⟩, hlength⟩
  · rintro ⟨span, ⟨⟨decl, hdecl, hfile, hspan⟩, hcontains⟩, hlength⟩
    refine ⟨id, ⟨decl, hdecl, hfile⟩, span, ⟨?_, hcontains⟩, rfl, hlength⟩
    rw [span?, hdecl]
    exact hspan

theorem ascending_candidates :
    (host.candidates offset ids).Pairwise fun p q => p.1.raw ≤ q.1.raw := by
  refine h.ascending.filterMap _ fun id other hle p hp q hq => ?_
  obtain ⟨_, _, rfl⟩ := Option.map_eq_some_iff.1 hp
  obtain ⟨_, _, rfl⟩ := Option.map_eq_some_iff.1 hq
  exact hle

/-- Every declaration that is listed can be read, so that the search comes to its end. -/
theorem declarationAt?_eq (offset : Nat) : declarationAt? host file offset =
    .ok (((host.candidates offset ids).argmin (·.2)).map (·.1)) := by
  have hread : ∀ id ∈ ids, ∃ decl, host.declaration id = .ok decl := fun id hid =>
    ((h.mem_iff id).1 hid).imp fun _ hd => hd.1
  rw [declarationAt?, h.listed, candidates, ← foldl_innermost]
  exact congrArg (· >>= fun best => .ok (best.map (·.1))) (foldlM_innermost hread none)

/-- The first of the shortest candidates is the innermost declaration. -/
theorem innermost_of_argmin {length : Nat}
    (hargmin : (host.candidates offset ids).argmin (·.2) = some (id, length)) :
    ∃ span, host.Innermost file offset id span := by
  obtain ⟨hmem, hshortest, hfirst⟩ := List.argmin_eq_some_iff.1 hargmin
  obtain ⟨span, hcovers, rfl⟩ := h.mem_candidates_iff.1 hmem
  refine ⟨span, hcovers, fun {other span'} hother => ?_, fun {other span'} hother hlength => ?_⟩
  · exact hshortest (other, span'.length) (h.mem_candidates_iff.2 ⟨span', hother, rfl⟩)
  · -- It comes first in the list, which is in the order of identifiers.
    have hother' := h.mem_candidates_iff.2 ⟨span', hother, rfl⟩
    exact rel_of_idxOf_le (R := fun p q : DeclId × Nat => p.1.raw ≤ q.1.raw) (fun _ => le_rfl)
      h.ascending_candidates (a := (id, span.length)) (b := (other, span'.length)) hmem hother'
      (hfirst _ hother' hlength.le)

end ListsInOrder

end Host

/-! ## Programs -/

namespace Program

variable {p : Program}

/-- A program that answers lists the declarations of a file by their identifiers. -/
theorem Answering.listsInOrder (h : p.Answering) (file : FileId) :
    p.toHost.ListsInOrder file (p.idsIn file) where
  listed := h.answer (.declarationsIn file) (.ok (p.idsIn file))
  mem_iff id := by
    rw [Consistent.mem_idsIn_iff]
    exact exists_congr fun decl => and_congr_left fun _ => h.declaration_eq_ok_iff.symm
  ascending := by
    -- The listing is sorted by identifier when it is asked for.
    have hsorted : (p.idsIn file).Pairwise fun id other => decide (id.raw ≤ other.raw) = true := by
      refine List.pairwise_mergeSort (fun a b c hab hbc => ?_) (fun a b => ?_) _
      · exact decide_eq_true ((of_decide_eq_true hab).trans (of_decide_eq_true hbc))
      · simpa using Nat.le_total a.raw b.raw
    exact hsorted.imp of_decide_eq_true

/-- The declaration at an offset is always found or told to be missing: it is missing exactly if the
offset falls into no span of a declaration of the file, it is a given one exactly if that is the
innermost one, and where spans are nested or apart it lies in every other one around the offset. -/
theorem declarationAt?_innermost (h : p.Answering) (file : FileId) (offset : Nat) :
    ∃ found, declarationAt? p.toHost file offset = .ok found ∧
      (found = none ↔ ∀ id span, ¬ p.toHost.Covers file offset id span) ∧
      (∀ id, found = some id ↔ ∃ span, p.toHost.Innermost file offset id span) ∧
      (p.toHost.Laminar file → ∀ id span, found = some id → p.toHost.Covers file offset id span →
        ∀ other span', p.toHost.Covers file offset other span' → span.Within span') := by
  have hlists := h.listsInOrder file
  refine ⟨_, hlists.declarationAt?_eq offset, ?_⟩
  -- The minimum of a list is missing only if the list is empty.
  have hnone : ((p.toHost.candidates offset (p.idsIn file)).argmin (·.2)).map (·.1) = none ↔
      ∀ id span, ¬ p.toHost.Covers file offset id span := by
    rw [Option.map_eq_none_iff, List.argmin_eq_none, List.eq_nil_iff_forall_not_mem]
    constructor
    · exact fun hempty id span hcovers =>
        hempty (id, span.length) (hlists.mem_candidates_iff.2 ⟨span, hcovers, rfl⟩)
    · rintro hnone ⟨id, length⟩ hmem
      obtain ⟨span, hcovers, _⟩ := hlists.mem_candidates_iff.1 hmem
      exact hnone id span hcovers
  have hsome (id : DeclId)
      (hid : ((p.toHost.candidates offset (p.idsIn file)).argmin (·.2)).map (·.1) = some id) :
      ∃ span, p.toHost.Innermost file offset id span := by
    obtain ⟨⟨_, length⟩, hargmin, rfl⟩ := Option.map_eq_some_iff.1 hid
    exact hlists.innermost_of_argmin hargmin
  refine ⟨hnone, fun id => ⟨hsome id, ?_⟩, ?_⟩
  · rintro ⟨span, hinnermost⟩
    -- Something is found then, and two innermost declarations are the same.
    obtain ⟨found, hfound⟩ := Option.ne_none_iff_exists'.1
      fun hempty => hnone.1 hempty id span hinnermost.covers
    obtain ⟨span', hinnermost'⟩ := hsome found hfound
    rw [hfound, hinnermost.unique hinnermost']
  · intro hlaminar id span hid hcovers other span' hother
    obtain ⟨span₀, hinnermost⟩ := hsome id hid
    cases hcovers.1.unique hinnermost.covers.1
    exact hinnermost.within hlaminar hother

/-- A declaration within another one, and one without a span. -/
def nestedSpans : Program :=
  .ofDeclarations [{ path := "src/a/Outer.java" }]
    [{ name := "Outer", qualifiedName := some "a.Outer", file := ⟨0⟩, kind := .classType
       span := some ⟨0, 100⟩ },
     { name := "Inner", qualifiedName := some "a.Outer.Inner", file := ⟨0⟩, kind := .classType
       parent := some ⟨0⟩, span := some ⟨20, 60⟩ },
     { name := "Other", qualifiedName := some "a.Other", file := ⟨0⟩, kind := .classType }]

theorem consistent_nestedSpans : nestedSpans.Consistent := .ofDeclarations (by decide) (by decide)

theorem spans_nestedSpans {id : DeclId} {span : Span}
    (h : nestedSpans.toHost.Spans ⟨0⟩ id span) :
    (id = ⟨0⟩ ∧ span = ⟨0, 100⟩) ∨ (id = ⟨1⟩ ∧ span = ⟨20, 60⟩) := by
  obtain ⟨decl, hdecl, _, hspan⟩ := h
  have hmem := Table.mem_entries_of_get? (consistent_nestedSpans.declaration_eq_ok_iff.1 hdecl)
  -- There are two spans to look at.
  have hchecked : ∀ entry ∈ nestedSpans.declarations.entries, ∀ span ∈ entry.2.span,
      (entry.1 = ⟨0⟩ ∧ span = ⟨0, 100⟩) ∨ (entry.1 = ⟨1⟩ ∧ span = ⟨20, 60⟩) := by decide
  exact hchecked _ hmem _ hspan

theorem laminar_nestedSpans : nestedSpans.toHost.Laminar ⟨0⟩ := by
  intro id other span span' hne hspan hspan'
  rcases spans_nestedSpans hspan with ⟨rfl, rfl⟩ | ⟨rfl, rfl⟩ <;>
    rcases spans_nestedSpans hspan' with ⟨rfl, rfl⟩ | ⟨rfl, rfl⟩
  · exact absurd rfl hne
  · exact .inr (.inr (by decide))
  · exact .inr (.inl (by decide))
  · exact absurd rfl hne

theorem innermost_nestedSpans : nestedSpans.toHost.Innermost ⟨0⟩ 30 ⟨1⟩ ⟨20, 60⟩ where
  covers := ⟨⟨_, rfl, rfl, rfl⟩, rfl⟩
  shortest h := by rcases spans_nestedSpans h.1 with ⟨rfl, rfl⟩ | ⟨rfl, rfl⟩ <;> decide
  first h hlength := by
    rcases spans_nestedSpans h.1 with ⟨rfl, rfl⟩ | ⟨rfl, rfl⟩
    · exact absurd hlength (by decide)
    · exact le_rfl

/-- The search can be made use of: the inner declaration is found, and it lies in the outer one. -/
theorem declarationAt?_innermost_nestedSpans :
    declarationAt? nestedSpans.toHost ⟨0⟩ 30 = .ok (some ⟨1⟩) ∧
    Span.Within ⟨20, 60⟩ ⟨0, 100⟩ := by
  obtain ⟨found, hfound, _, hsome, hwithin⟩ :=
    declarationAt?_innermost consistent_nestedSpans.answering ⟨0⟩ 30
  have hinner := (hsome ⟨1⟩).2 ⟨_, innermost_nestedSpans⟩
  exact ⟨hinner ▸ hfound, hwithin laminar_nestedSpans _ _ hinner innermost_nestedSpans.covers ⟨0⟩ _
    ⟨⟨_, rfl, rfl, rfl⟩, rfl⟩⟩

end Program

end PrototypeLens
