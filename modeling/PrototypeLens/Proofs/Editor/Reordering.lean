import PrototypeLens.Proofs.Cancellation.EntryPoints
import PrototypeLens.Proofs.Editor.Saving
import PrototypeLens.Proofs.Program.Checks

/-!
# Saving files in another order

A module is reported in some order of the saved files if one of its files has an answer at all, and
in every order if one of its files has an answer left after the files of all other modules. So the
report of a save depends on the order exactly where the files of other modules take all answers of a
module along.

## Layers

- `Affects` and `Withstands`: a file of the module has an answer before anything is saved, and has
  one after the files of the other modules.
- `Withstands.reports`: such an answer is reported in any order. This is the heart of it, as the
  files of the module itself may take the answer along.
- `reports_some_order_iff` and `reports_every_order_iff`: reports in terms of the two.

## Main results

- `Editor.reported_perm_of_withstands` and `Editor.reported_perm_of_single`: conditions under which
  the order does not matter. Files of a single module meet them.
- When exactly the order does not matter, and two files for which it does.
-/

namespace PrototypeLens

namespace Registry

variable {r : Registry} {host : Host} {files order : List FileId} {unit : ModuleId}

/-- A file of the module has an answer before any file is saved. -/
def Affects (r : Registry) (host : Host) (files : List FileId) (unit : ModuleId) : Prop :=
  ∃ file ∈ files, r.HasLeft host (fun _ => False) unit file

/-- A file of the module has an answer left after the files of the other modules were saved. -/
def Withstands (r : Registry) (host : Host) (files : List FileId) (unit : ModuleId) : Prop :=
  ∃ file ∈ files, r.HasLeft host (fun f => f ∈ files ∧ ¬ host.IsSourceOf unit f) unit file

theorem Withstands.of_perm (h : r.Withstands host files unit) (hperm : order.Perm files) :
    r.Withstands host order unit := by
  obtain ⟨file, hfile, hleft⟩ := h
  exact ⟨file, hperm.mem_iff.2 hfile, hleft.anti fun f hf => ⟨hperm.mem_iff.1 hf.1, hf.2⟩⟩

/-- If all sources belong to the module, no other files take its answers along. -/
theorem Affects.withstands (h : r.Affects host files unit)
    (hall : ∀ file ∈ files, host.IsSource file → host.IsSourceOf unit file) :
    r.Withstands host files unit := by
  obtain ⟨file, hfile, hsource, name, hname, hleft⟩ := h
  refine ⟨file, hfile, hsource, name, hname, hleft.anti ?_⟩
  rintro other ⟨f, ⟨hf, hother⟩, hsourced, _⟩
  exact absurd (hall f hf hsourced) hother

/-- A module that is reported has a file with an answer. -/
theorem Reports.affects (h : r.Reports host unit [] files) : r.Affects host files unit := by
  obtain ⟨before, file, after, rfl, hleft⟩ := reports_iff.1 h
  exact ⟨file, by simp, hleft.anti fun _ hf => hf.elim⟩

/-- The first file has all of its answers left. -/
theorem reports_of_first {file : FileId} (h : r.HasLeft host (fun _ => False) unit file)
    (files : List FileId) : r.Reports host unit [] (file :: files) :=
  .inl (h.anti fun f hf => by simp at hf)

/-- A module with an answer that the files of other modules leave is reported in any order: at the
turn of the first of its files that drops the answer, unless that file drops a known template
before, which is reported as well. -/
theorem Withstands.reports (h : r.Withstands host files unit) : r.Reports host unit [] files := by
  classical
  obtain ⟨file, hfile, hsource, name, hname, hleft⟩ := h
  -- The names that decide whether there still is an answer about the name.
  let Decides (other : String) : Prop := other = name ∨ ¬ r.Firm name ∧ other ∈ r.knownTemplates
  let Drops (f : FileId) : Prop :=
    host.IsSourceOf unit f ∧ ∃ other ∈ r.derived host f, Decides other
  obtain ⟨first, hfirst⟩ : ∃ first, files.find? (fun f => decide (Drops f)) = some first := by
    rw [← Option.isSome_iff_exists, List.find?_isSome]
    exact ⟨file, hfile, decide_eq_true ⟨hsource, name, hname, .inl rfl⟩⟩
  obtain ⟨hdrops, before, after, rfl, hbefore⟩ := List.find?_eq_some_iff_append.1 hfirst
  obtain ⟨hsourceFirst, other, hother, hdecides⟩ := of_decide_eq_true hdrops
  -- No such name is gone before: not with a file of the module, nor with one of another.
  have hkept : ∀ other, Decides other → ¬ r.Gone host (· ∈ before) other := by
    rintro other hdecides ⟨f, hf, hsourced, hmem⟩
    by_cases hunit : host.IsSourceOf unit f
    · have hnot := hbefore f hf
      simp only [Bool.not_eq_true', decide_eq_false_iff_not] at hnot
      exact hnot ⟨hunit, other, hmem, hdecides⟩
    · have hgone : r.Gone host (fun f => f ∈ before ++ first :: after ∧
          ¬ host.IsSourceOf unit f) other :=
        ⟨f, ⟨List.mem_append_left _ hf, hunit⟩, hsourced, hmem⟩
      rcases hdecides with rfl | ⟨hfirm, hknown⟩
      · exact hleft.1 hgone
      · exact (hleft.2.resolve_left hfirm).2 other hgone hknown
  refine reports_iff.2 ⟨before, first, after, rfl, hsourceFirst, other, hother, ?_⟩
  rw [List.nil_append]
  refine ⟨hkept other hdecides, ?_⟩
  rcases hdecides with rfl | ⟨_, hknown⟩
  · by_cases hfirm : r.Firm other
    · exact .inl hfirm
    · exact .inr ⟨hleft.2.resolve_left hfirm |>.1, fun t ht hk => hkept t (.inr ⟨hfirm, hk⟩) ht⟩
  · exact .inl (.inl hknown)

/-- A module that is reported after all files of the other modules has an answer that these
leave. -/
theorem withstands_of_reports_last {others own : List FileId}
    (hothers : ∀ f, f ∈ others ↔ f ∈ files ∧ ¬ host.IsSourceOf unit f) (hown : own ⊆ files)
    (h : r.Reports host unit [] (others ++ own)) : r.Withstands host files unit := by
  rcases (reports_append others own).1 h with h | h
  · -- It is reported among the files of the others, which is impossible, or among its own.
    obtain ⟨before, file, after, heq, hleft⟩ := reports_iff.1 h
    have hfile : file ∈ others := by rw [heq]; simp
    exact absurd hleft.1 ((hothers file).1 hfile).2
  · obtain ⟨before, file, after, heq, hleft⟩ := reports_iff.1 h
    refine ⟨file, hown (by rw [heq]; simp), hleft.anti fun f hf => ?_⟩
    exact List.mem_append_left _ (by simpa using (hothers f).2 hf)

/-- A module is reported in some order exactly if it has a file with an answer. -/
theorem reports_some_order_iff :
    (∃ order, order.Perm files ∧ r.Reports host unit [] order) ↔ r.Affects host files unit := by
  constructor
  · rintro ⟨order, hperm, h⟩
    obtain ⟨file, hfile, hleft⟩ := h.affects
    exact ⟨file, hperm.mem_iff.1 hfile, hleft⟩
  · rintro ⟨file, hfile, hleft⟩
    -- The file with the answer is saved first.
    exact ⟨file :: files.erase file, (List.perm_cons_erase hfile).symm, reports_of_first hleft _⟩

/-- A module is reported in every order exactly if it has a file with an answer that the files of
the other modules leave. -/
theorem reports_every_order_iff :
    (∀ order, order.Perm files → r.Reports host unit [] order) ↔
      r.Withstands host files unit := by
  classical
  constructor
  · -- The worst order is the one in which the files of the module come last.
    intro h
    have hperm : (files.filter (fun f => ¬ host.IsSourceOf unit f) ++
        files.filter (fun f => ¬¬ host.IsSourceOf unit f)).Perm files := by
      simpa using List.filter_append_perm (fun f => decide (¬ host.IsSourceOf unit f)) files
    refine withstands_of_reports_last (fun f => ?_) List.filter_sublist.subset (h _ hperm)
    simp
  · exact fun h order hperm => (h.of_perm hperm).reports

end Registry

/-! ## The report of a save -/

namespace Editor

variable {host : Host} {files : List FileId} {editor : Editor}

theorem reported_eq_of_perm (h : editor.registry.Savable host files) {order : List FileId}
    (hperm : order.Perm files) : reported host order editor =
      .ok { unit | editor.registry.Reports host unit [] order } :=
  reported_eq (h.of_subset hperm.subset)

/-- Two orders are reported alike exactly if they report the same modules. -/
theorem reported_eq_iff (h : editor.registry.Savable host files) {order : List FileId}
    (hperm : order.Perm files) : reported host order editor = reported host files editor ↔
      ∀ unit, editor.registry.Reports host unit [] order ↔
        editor.registry.Reports host unit [] files := by
  -- Both reports are sets of modules.
  rw [reported_eq_of_perm h hperm, reported_eq_of_perm h (.refl files), Except.ok.injEq,
    Set.ext_iff]
  rfl

/-- If every module with an answer has one that the files of the other modules leave, then what is
reported in one order is reported in every order. -/
theorem reported_perm_of_withstands (h : editor.registry.Savable host files)
    (hwithstands : ∀ unit, editor.registry.Affects host files unit →
      editor.registry.Withstands host files unit) {order : List FileId}
    (hperm : order.Perm files) : reported host order editor = reported host files editor := by
  refine (reported_eq_iff h hperm).2 fun unit => ?_
  have hevery {order' : List FileId} (hperm' : order'.Perm files)
      (hreports : editor.registry.Reports host unit [] order') :
      ∀ order : List FileId, order.Perm files → editor.registry.Reports host unit [] order :=
    Registry.reports_every_order_iff.2
      (hwithstands unit (Registry.reports_some_order_iff.1 ⟨order', hperm', hreports⟩))
  exact ⟨fun hreports => hevery hperm hreports files (.refl files),
    fun hreports => hevery (.refl files) hreports order hperm⟩

/-- Files of which only one module has sources are reported alike in every order. -/
theorem reported_perm_of_single (h : editor.registry.Savable host files) {own : ModuleId}
    (hown : ∀ file ∈ files, host.IsSource file → host.IsSourceOf own file) {order : List FileId}
    (hperm : order.Perm files) : reported host order editor = reported host files editor := by
  refine reported_perm_of_withstands h (fun unit haffects => ?_) hperm
  -- A module with an answer is that one, and no files of other modules take its answers along.
  have hunit : unit = own := by
    obtain ⟨file, hfile, hsource, _⟩ := haffects
    exact hsource.unique (hown file hfile hsource.isSource)
  subst hunit
  exact haffects.withstands hown

/-- The files can be saved in every order. The order does not matter for what is reported exactly
if every module with an answer has one that the files of the other modules leave. -/
theorem reported_perm_iff (h : editor.registry.Savable host files) :
    (∀ order : List FileId, order.Perm files →
      ∃ units, reported host order editor = .ok units) ∧
    ((∀ order : List FileId, order.Perm files →
        reported host order editor = reported host files editor) ↔
      ∀ unit, editor.registry.Affects host files unit →
        editor.registry.Withstands host files unit) := by
  refine ⟨fun order hperm => ⟨_, reported_eq_of_perm h hperm⟩, fun hall unit haffects => ?_,
    fun hwithstands order hperm => reported_perm_of_withstands h hwithstands hperm⟩
  -- Reported in some order, the module is reported in every order.
  obtain ⟨order, hperm, hreports⟩ := Registry.reports_some_order_iff.2 haffects
  have hfiles := ((reported_eq_iff h hperm).1 (hall order hperm) unit).1 hreports
  exact Registry.reports_every_order_iff.1 fun order' hperm' =>
    ((reported_eq_iff h hperm').1 (hall order' hperm') unit).2 hfiles

end Editor

/-! ### A check that is shared by two modules -/

namespace Program

/-- A validation annotation of one module, and one of another module that is built on it. -/
def sharedCheck : Program :=
  .ofDeclarations
    [{ path := "src/a/M.java", buildModule := some ⟨1⟩ },
     { path := "src/a/N.java", buildModule := some ⟨2⟩ }]
    [{ name := "M", qualifiedName := some "a.M", file := ⟨0⟩, kind := .annotationType
       annotations := [{ name := ValidationDescriptor.validateRoot }] },
     { name := "N", qualifiedName := some "a.N", file := ⟨1⟩, kind := .annotationType
       annotations := [{ name := "a.M" }] }]

theorem consistent_sharedCheck : sharedCheck.Consistent :=
  .ofDeclarations (by decide) (by decide)

/-- The registry after asking what the second annotation validates. -/
def checkedRegistry : Registry :=
  (((Question.validation "a.N").ask sharedCheck.scope).exec ⟨{}, {}⟩).2.registry

theorem owners_checkedRegistry :
    checkedRegistry.owners = ⟨[("a.N", ⟨1⟩), ("a.M", ⟨0⟩)]⟩ := rfl

/-- Only the second annotation derives from another of the program. -/
theorem dependentsOf_checkedRegistry {parent name : String} (hparent : parent ∈ ["a.M", "a.N"])
    (hname : name ∈ checkedRegistry.dependentsOf parent) : parent = "a.M" ∧ name = "a.N" := by
  have hM : checkedRegistry.dependentsOf "a.M" = ["a.N"] := rfl
  have hN : checkedRegistry.dependentsOf "a.N" = [] := rfl
  simp only [List.mem_cons, List.not_mem_nil, or_false] at hparent
  rcases hparent with rfl | rfl
  · rw [hM] at hname
    exact ⟨rfl, List.mem_singleton.1 hname⟩
  · rw [hN] at hname
    cases hname

/-- The two annotations are all that derives from a file, and the second file has its own only. -/
theorem derived_checkedRegistry (file : FileId) :
    ∀ name ∈ checkedRegistry.derived sharedCheck.toHost file,
      name ∈ ["a.M", "a.N"] ∧ (file = ⟨1⟩ → name = "a.N") := by
  -- What derives from a file is the least set, so that it is enough to follow owners,
  -- declarations and dependents.
  refine (Registry.covers_derived consistent_sharedCheck.healthy _ file).least
    (fun name howner => ?_) (fun name decl hdecl hfile => ?_) fun parent name hparent hname => ?_
  · simp only [owners_checkedRegistry, Table.get?_cons] at howner
    split at howner
    · rename_i hname
      simp [hname]
    · split at howner
      · rename_i hname
        cases howner
        simp [hname]
      · cases howner
  · obtain ⟨hmem, hown⟩ := consistent_sharedCheck.mem_decls hdecl
    have hdecls : ∀ decl ∈ sharedCheck.decls, ∀ own ∈ decl.qualifiedName,
        own ∈ ["a.M", "a.N"] ∧ (decl.file = ⟨1⟩ → own = "a.N") := by decide
    exact hfile ▸ hdecls decl hmem name hown
  · obtain ⟨_, rfl⟩ := dependentsOf_checkedRegistry hparent.1 hname
    simp

theorem savable_checkedRegistry (files : List FileId) :
    checkedRegistry.Savable sharedCheck.toHost files where
  attends {file} _ :=
    consistent_sharedCheck.healthy.attends (consistent_sharedCheck.not_cancels (.file file))
  own {file} _ _ name hname := by
    have hmem := (derived_checkedRegistry file name hname).1
    have hnever : ∀ name ∈ ["a.M", "a.N"], name ∉ neverTemplates := by decide
    exact hnever name hmem

end Program

namespace Editor

theorem reported_perm_iff_sharedCheck :
    let host := Program.sharedCheck.toHost
    let editor : Editor := { registry := Program.checkedRegistry }
    editor.registry.Savable host [⟨0⟩, ⟨1⟩] ∧
      (∀ order : List FileId, order.Perm [⟨0⟩, ⟨1⟩] →
        ∃ units, reported host order editor = .ok units) ∧
      ((∀ order : List FileId, order.Perm [⟨0⟩, ⟨1⟩] →
          reported host order editor = reported host [⟨0⟩, ⟨1⟩] editor) ↔
        ∀ unit, editor.registry.Affects host [⟨0⟩, ⟨1⟩] unit →
          editor.registry.Withstands host [⟨0⟩, ⟨1⟩] unit) :=
  ⟨Program.savable_checkedRegistry _, reported_perm_iff (Program.savable_checkedRegistry _)⟩

/-- The second module is reported if its file is saved first, and not if the file of the first
module is: that one takes the answer about the second annotation along. -/
theorem reported_depends_on_order :
    let host := Program.sharedCheck.toHost
    let editor : Editor := { registry := Program.checkedRegistry }
    host.Healthy ∧ [(⟨1⟩ : FileId), ⟨0⟩].Perm [⟨0⟩, ⟨1⟩] ∧
      ∃ units units', reported host [⟨1⟩, ⟨0⟩] editor = .ok units ∧
        reported host [⟨0⟩, ⟨1⟩] editor = .ok units' ∧ ⟨2⟩ ∈ units ∧ ⟨2⟩ ∉ units' := by
  intro host editor
  have hcovers (file : FileId) :=
    Registry.covers_derived Program.consistent_sharedCheck.healthy Program.checkedRegistry file
  refine ⟨Program.consistent_sharedCheck.healthy, .swap _ _ _, _, _,
    reported_eq (Program.savable_checkedRegistry _),
    reported_eq (Program.savable_checkedRegistry _), ?_, fun hreports => ?_⟩
  · -- Saved first, the second file has its own answer.
    refine Registry.reports_of_first ⟨⟨_, rfl, rfl, rfl⟩, "a.N", ?_, ?_⟩ _
    · exact (hcovers ⟨1⟩).owned rfl
    · exact Registry.left_gone_none.2 rfl
  · -- Saved second, it has lost the answer to the first one; and that file is of another module.
    rcases hreports with ⟨⟨data, hdata, _, hunit⟩, _⟩ | ⟨_, name, hname, hleft⟩ | hnone
    · cases hdata
      cases hunit
    · obtain rfl := (Program.derived_checkedRegistry ⟨1⟩ name hname).2 rfl
      have hfirst : "a.M" ∈ Program.checkedRegistry.derived host ⟨0⟩ := (hcovers ⟨0⟩).owned rfl
      refine hleft.1 ⟨⟨0⟩, by simp, ⟨_, rfl, rfl⟩, ?_⟩
      exact (hcovers ⟨0⟩).closed hfirst (List.mem_singleton.2 rfl)
    · exact hnone

end Editor

end PrototypeLens
