import PrototypeLens.Lookup.Session
import PrototypeLens.Proofs.Program.Consistent
import PrototypeLens.Proofs.Template.Settled

/-!
# Checking programs

What is asked of a host, checked declaration by declaration of a program. A program that is made of
declarations with different names is consistent; the other checks bound the rank of annotations and
look at the strategies that are written.

## Layers

- `Program.ofDeclarations`: a program from a list of declarations.
- `Consistent.mem_decls`: what a name resolves to is one of them.

## Main results

- `Consistent.ofDeclarations`: files that exist and different names make a consistent program.
- `Consistent.not_circular` and `Consistent.acyclic`: a rank that falls along annotations excludes
  cycles.
- `Consistent.grounded` and `Consistent.wellFormed`: the other two checks.
-/

namespace PrototypeLens

/-! ## Programs from declarations -/

namespace Program

def decls (p : Program) : List Declaration := p.declarations.entries.map (·.2)

/-- The program with some declarations added in order. -/
def addAll (p : Program) (decls : List Declaration) : Program :=
  decls.foldl (fun p decl => (p.addDeclaration decl).2) p

/-- The program with some files and declarations. -/
def ofDeclarations (files : List SourceFile) (decls : List Declaration) : Program :=
  addAll { files } decls

/-- What a lookup asks of a program, under the default settings. -/
def scope (p : Program) : Scope := ⟨p.toHost, {}⟩

namespace Consistent

variable {p : Program} {decl : Declaration} {name : String}

/-- Declarations with new and different names may be added. -/
theorem addAll (decls : List Declaration) (h : p.Consistent)
    (hfiles : ∀ decl ∈ decls, decl.file.raw < p.files.length)
    (hnames : (decls.filterMap (·.qualifiedName)).Nodup)
    (hfresh : ∀ name ∈ decls.filterMap (·.qualifiedName), p.index.get? name = none) :
    (p.addAll decls).Consistent := by
  -- The induction is on the declarations, with the program open: each is added to what the ones
  -- before it made.
  induction decls generalizing p with
  | nil => exact h
  | cons decl decls ih =>
    have hfree : NameFree p ⟨p.nextDeclaration⟩ decl := by
      intro other decl' _ hdecl'
      -- A declaration without a name gets in the way of none, and another one is not in the index.
      cases hown : decl.qualifiedName with
      | none =>
        cases hother : decl'.qualifiedName with
        | none => exact .inl rfl
        | some name => exact .inr (by simp)
      | some own =>
        right
        intro hsame
        have hindex := h.complete hdecl' hsame
        rw [hfresh own (by simp [hown])] at hindex
        cases hindex
    -- The names that are left are different from each other, and from those of the index.
    refine ih (h.addDeclaration (hfiles decl List.mem_cons_self) hfree)
      (fun decl' hdecl' => hfiles decl' (List.mem_cons_of_mem _ hdecl')) ?_ fun name hname => ?_
    · cases hown : decl.qualifiedName with
      | none => simpa [hown] using hnames
      | some own => exact (List.nodup_cons.1 (by simpa [hown] using hnames)).2
    · have hold : p.index.get? name = none := by
        refine hfresh name ?_
        rw [List.mem_filterMap] at hname ⊢
        obtain ⟨decl', hdecl', hname⟩ := hname
        exact ⟨decl', List.mem_cons_of_mem _ hdecl', hname⟩
      simp only [Program.addDeclaration, get?_indexName]
      rw [if_neg, hold]
      intro hown
      have hnodup : (name :: decls.filterMap (·.qualifiedName)).Nodup := by
        simpa [hown] using hnames
      exact (List.nodup_cons.1 hnodup).1 hname

theorem ofDeclarations {files : List SourceFile} {decls : List Declaration}
    (hfiles : ∀ decl ∈ decls, decl.file.raw < files.length)
    (hnames : (decls.filterMap (·.qualifiedName)).Nodup) :
    (Program.ofDeclarations files decls).Consistent :=
  addAll decls (.ofFiles files) hfiles hnames fun _ _ => rfl

/-! ## Checks -/

theorem mem_decls (h : p.Consistent) (hdecl : p.toHost.Declares name decl) :
    decl ∈ p.decls ∧ decl.qualifiedName = some name := by
  obtain ⟨id, hid, hname⟩ := h.declares_iff.1 hdecl
  exact ⟨List.mem_map_of_mem (Table.mem_entries_of_get? hid), hname⟩

/-- A name that no annotation has is carried by none. -/
theorem not_carries (h : p.Consistent) {mark : String}
    (hcheck : ∀ decl ∈ p.decls, ∀ use ∈ decl.annotations, use.name ≠ mark) (name : String) :
    ¬ p.toHost.Carries name mark := by
  rintro ⟨decl, hdecl, use, huse, hname⟩
  exact hcheck decl (h.mem_decls hdecl).1 use huse hname

/-- A rank that decreases from a declaration to the annotations on it excludes cycles. -/
theorem not_circular (h : p.Consistent) (rank : String → Nat)
    (hrank : ∀ decl ∈ p.decls, ∀ own ∈ decl.qualifiedName, ∀ use ∈ decl.annotations,
      rank use.name < rank own) (name : String) :
    ¬ Relation.TransGen p.toHost.Carries name name := by
  have hstep {n m : String} (hc : p.toHost.Carries n m) : rank m < rank n := by
    obtain ⟨decl, hdecl, use, huse, rfl⟩ := hc
    obtain ⟨hmem, hname⟩ := h.mem_decls hdecl
    exact hrank decl hmem n hname use huse
  have hpath {n m : String} (hc : Relation.TransGen p.toHost.Carries n m) : rank m < rank n := by
    -- The induction is on the path: every step of it makes the rank fall.
    induction hc with
    | single hc => exact hstep hc
    | tail _ hc ih => exact Nat.lt_trans (hstep hc) ih
  exact fun hcycle => Nat.lt_irrefl _ (hpath hcycle)

theorem acyclic (h : p.Consistent) (rank : String → Nat)
    (hrank : ∀ decl ∈ p.decls, ∀ own ∈ decl.qualifiedName, ∀ use ∈ decl.annotations,
      rank use.name < rank own) : p.toHost.Acyclic :=
  fun name _ => h.not_circular rank hrank name

/-- The roots and the marker carry no template if they carry only what is never one. -/
theorem grounded (h : p.Consistent)
    (hcheck : ∀ decl ∈ p.decls, ∀ own ∈ decl.qualifiedName, own ∈ templateMarker :: rootTemplates →
      ∀ use ∈ decl.annotations, use.name ∈ neverTemplates) : p.toHost.Grounded := by
  have hnone {name parent : String} (hname : name ∈ templateMarker :: rootTemplates)
      (hc : p.toHost.Carries name parent) : ¬ p.toHost.Template parent := by
    obtain ⟨decl, hdecl, use, huse, rfl⟩ := hc
    obtain ⟨hmem, hown⟩ := h.mem_decls hdecl
    -- What is never a template is none, whatever it carries itself.
    exact Host.not_template_of_never (hcheck decl hmem name hown hname use huse)
  exact ⟨fun hroot => hnone (List.mem_cons_of_mem _ hroot), hnone List.mem_cons_self⟩

/-- Strategies are well-formed if every one that is written is a constant. -/
theorem wellFormed (h : p.Consistent) (isTemplate : String → Prop)
    (hcheck : ∀ decl ∈ p.decls,
      (∀ use ∈ decl.annotations, ∀ attr ∈ use.attrs, attr.name = "strategy" →
        attr.value.IsStrategy) ∧
      ∀ m ∈ decl.methods, m.name = "strategy" → ∀ value ∈ m.defaultValue, value.IsStrategy) :
    p.toHost.WellFormed isTemplate where
  uses hdecl huse _ := (hcheck _ (h.mem_decls hdecl).1).1 _ huse
  elements hdecl _ m hm _ hname value hvalue :=
    (hcheck _ (h.mem_decls hdecl).1).2 m hm hname value hvalue

end Consistent

end Program

end PrototypeLens
