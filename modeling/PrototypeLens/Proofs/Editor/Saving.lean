import Mathlib.Data.Set.Basic
import PrototypeLens.Editor.Basic
import PrototypeLens.Proofs.Registry.Saving

/-!
# What a save reports

A save refreshes its files in order. It reports the build module of a file if, at its turn, there
still is an answer that derives from the file; so a file is passed over if the files before it took
its answers along.

## Layers

- `Host.Attends` and `Registry.Savable`: files whose save is not cancelled.
- `HasLeft` and `Reports`: whether a module is reported, told from the registry before the save.
- `filesSaved_append`, `filesSaved_of_isSource` and `filesSaved_of_not_isSource`: a save is made of
  the turns of its files.

## Main results

- `reports_saved_append`: files that were saved before have nothing more to report.
- `filesSaved_ok`: a save reports exactly those modules, and leaves what the files have not taken
  along.
- `reported_eq`: the report as a set of modules.
-/

namespace PrototypeLens

/-! ## Files that can be saved -/

/-- No query about a saved file is cancelled. -/
structure Host.Attends (host : Host) (saved : FileId) : Prop where
  file : host.file saved ≠ .error .cancelled
  declared : Registry.declaredNames host saved ≠ .error .cancelled

theorem Host.Healthy.attends {host : Host} (h : host.Healthy) {saved : FileId}
    (hfile : host.file saved ≠ .error .cancelled) : host.Attends saved where
  file := hfile
  declared herror := by
    obtain ⟨names, hnames, _⟩ := h.declaredNames_ok saved
    cases hnames.symm.trans herror

/-- The files can be saved: the host attends to them, and no answer about a name that is never a
template derives from a source among them. -/
structure Registry.Savable (r : Registry) (host : Host) (files : List FileId) : Prop where
  attends {file : FileId} : file ∈ files → host.Attends file
  own {file : FileId} : file ∈ files → host.IsSource file →
    ∀ name ∈ r.derived host file, name ∉ neverTemplates

/-- Some of the files, in any order, can be saved as well. -/
theorem Registry.Savable.of_subset {r : Registry} {host : Host} {files files' : List FileId}
    (h : r.Savable host files) (hsub : files' ⊆ files) : r.Savable host files' where
  attends hfile := h.attends (hsub hfile)
  own hfile := h.own (hsub hfile)

/-! ## What is reported -/

namespace Registry

variable {r : Registry} {host : Host} {earlier files : List FileId} {unit : ModuleId}

/-- A file of the module still has answers left when the files of `earlier` were saved. -/
def HasLeft (r : Registry) (host : Host) (earlier : FileId → Prop) (unit : ModuleId)
    (file : FileId) : Prop :=
  host.IsSourceOf unit file ∧ ∃ name ∈ r.derived host file, r.Left (r.Gone host earlier) name

theorem HasLeft.anti {earlier earlier' : FileId → Prop} {file : FileId}
    (h : r.HasLeft host earlier unit file) (himp : ∀ f, earlier' f → earlier f) :
    r.HasLeft host earlier' unit file :=
  h.imp_right fun ⟨name, hmem, hleft⟩ => ⟨name, hmem, hleft.anti fun _ hgone => hgone.mono himp⟩

/-- Files are saved one after the other, after those of `earlier`, and at the turn of a file of the
module it still has answers left. -/
def Reports (r : Registry) (host : Host) (unit : ModuleId) :
    (earlier files : List FileId) → Prop
  | _, [] => False
  | earlier, file :: files =>
    r.HasLeft host (· ∈ earlier) unit file ∨ r.Reports host unit (earlier ++ [file]) files

theorem reports_append (files files' : List FileId) :
    r.Reports host unit earlier (files ++ files') ↔
      r.Reports host unit earlier files ∨ r.Reports host unit (earlier ++ files) files' := by
  -- The induction is on the first files, with those before open.
  induction files generalizing earlier with
  | nil => simp [Reports]
  | cons file files ih =>
    simp only [List.cons_append, Reports, ih, List.append_assoc, List.nil_append, or_assoc]

theorem reports_iff : r.Reports host unit earlier files ↔
    ∃ before file after, files = before ++ file :: after ∧
      r.HasLeft host (· ∈ earlier ++ before) unit file := by
  constructor
  · intro h
    induction files generalizing earlier with
    | nil => exact h.elim
    | cons file files ih =>
      rcases h with h | h
      · exact ⟨[], file, files, rfl, by simpa using h⟩
      · obtain ⟨before, f, after, rfl, hleft⟩ := ih h
        exact ⟨file :: before, f, after, rfl, by simpa using hleft⟩
  · rintro ⟨before, file, after, rfl, hleft⟩
    rw [reports_append]
    exact .inr (.inl hleft)

/-- What is reported after more files is reported after fewer. -/
theorem Reports.anti {earlier' : List FileId} (h : r.Reports host unit earlier files)
    (hsub : earlier' ⊆ earlier) : r.Reports host unit earlier' files := by
  obtain ⟨before, file, after, hfiles, hleft⟩ := reports_iff.1 h
  exact reports_iff.2 ⟨before, file, after, hfiles, hleft.anti fun f hf => by
    rcases List.mem_append.1 hf with hf | hf
    · exact List.mem_append_left _ (hsub hf)
    · exact List.mem_append_right _ hf⟩

/-- Files that were saved have nothing left. -/
theorem not_reports_of_subset (hsub : files ⊆ earlier) :
    ¬ r.Reports host unit earlier files := by
  intro h
  -- What derives from a saved file is gone.
  obtain ⟨before, file, after, rfl, hsource, name, hmem, hleft⟩ := reports_iff.1 h
  refine hleft.1 ⟨file, ?_, hsource.isSource, hmem⟩
  exact List.mem_append_left _ (hsub (by simp))

/-- Files that were saved before report nothing more, and change nothing for the others. -/
theorem reports_saved_append (files files' : List FileId) :
    r.Reports host unit files (files ++ files') ↔ r.Reports host unit files files' := by
  rw [reports_append, or_iff_right (not_reports_of_subset (List.Subset.refl files))]
  exact ⟨fun h => h.anti (List.subset_append_left _ _), fun h => h.anti (by simp)⟩

end Registry

/-! ## Saving -/

namespace Editor

theorem bind_ok {α β : Type} {m : EditorM α} {f : α → EditorM β} {editor editor' : Editor} {a : α}
    (h : m editor = (.ok a, editor')) : (m >>= f) editor = f a editor' := by
  show StateT.bind m (ExceptT.bindCont f) editor = _
  simp only [StateT.bind, bind, h]
  rfl

theorem bind_error {α β : Type} {m : EditorM α} {f : α → EditorM β} {editor editor' : Editor}
    {e : Cancelled} (h : m editor = (.error e, editor')) :
    (m >>= f) editor = (.error e, editor') := by
  show StateT.bind m (ExceptT.bindCont f) editor = _
  simp only [StateT.bind, bind, h]
  rfl

variable {host : Host} {file : FileId} {files files' : List FileId} {units units' : List ModuleId}
  {editor editor' editor'' : Editor}

/-- A save of files in a row is a save of the first ones and then of the others. -/
theorem filesSaved_append (host : Host) (files files' : List FileId) :
    filesSaved host (files ++ files') = do
      let units ← filesSaved host files
      let units' ← filesSaved host files'
      return units ++ units' := by
  -- The induction is on the first files; what is no source contributes nothing.
  induction files with
  | nil => simp [filesSaved]
  | cons file files ih =>
    rw [List.cons_append, filesSaved, filesSaved]
    cases isRefreshedOnSave host file with
    | error e => simp
    | ok source =>
      cases source with
      | false => exact ih
      | true => simp only [ih, bind_assoc, pure_bind, List.append_assoc]

theorem filesSaved_append_ok (h : filesSaved host files editor = (.ok units, editor'))
    (h' : filesSaved host files' editor' = (.ok units', editor'')) :
    filesSaved host (files ++ files') editor = (.ok (units ++ units'), editor'') := by
  rw [filesSaved_append, bind_ok h, bind_ok h']
  rfl

theorem isRefreshedOnSave_eq_true (h : isRefreshedOnSave host file = .ok true) :
    host.IsSource file := by
  unfold isRefreshedOnSave at h
  split at h
  · rename_i data hdata
    exact ⟨data, hdata, Except.ok.inj h⟩
  · cases h
  · cases h

/-- What does not count as a source is passed over. -/
theorem filesSaved_of_not_isSource (h : host.Attends file) (hsource : ¬ host.IsSource file) :
    filesSaved host [file] editor = (.ok [], editor) := by
  have hpassed : isRefreshedOnSave host file = .ok false := by
    unfold isRefreshedOnSave
    split
    · rename_i data hdata
      exact congrArg _ (Bool.eq_false_iff.2 fun hjava => hsource ⟨data, hdata, hjava⟩)
    · exact absurd ‹_› h.file
    · rfl
  rw [filesSaved, hpassed]
  rfl

/-- A source is refreshed, and its module is reported if there was an answer. -/
theorem filesSaved_of_isSource (h : host.Attends file) (hsource : host.IsSource file)
    (editor : Editor) :
    ∃ units, filesSaved host [file] editor = (.ok units, { editor with
        registry := editor.registry.forgetAll (editor.registry.derived host file) }) ∧
      ∀ unit, unit ∈ units ↔ host.IsSourceOf unit file ∧
        (editor.registry.derived host file).any editor.registry.answers = true := by
  obtain ⟨data, hdata, hjava⟩ := hsource
  have hrefreshed : isRefreshedOnSave host file = .ok true := by
    simp only [isRefreshedOnSave, hdata, hjava]
  have hof (unit : ModuleId) : host.IsSourceOf unit file ↔ data.buildModule = some unit := by
    constructor
    · rintro ⟨data', hdata', _, hunit⟩
      cases hdata.symm.trans hdata'
      exact hunit
    · exact fun hunit => ⟨data, hdata, hjava, hunit⟩
  obtain ⟨units, hunits, hmem⟩ : ∃ units, refresh host file editor = (.ok units, { editor with
      registry := editor.registry.forgetAll (editor.registry.derived host file) }) ∧
      ∀ unit, unit ∈ units ↔ host.IsSourceOf unit file ∧
        (editor.registry.derived host file).any editor.registry.answers = true := by
    simp only [refresh, editor.registry.refresh_eq h.declared, Registry.moduleOf, hdata]
    -- The module is asked for only if something was dropped.
    split
    · rename_i hany
      exact ⟨_, rfl, fun unit => by rw [hof, hany, and_iff_left rfl, Option.mem_toList]⟩
    · rename_i hnone
      exact ⟨[], rfl, fun unit => by simp [hnone]⟩
  refine ⟨units, ?_, hmem⟩
  rw [filesSaved, hrefreshed]
  refine (bind_ok hunits).trans ?_
  simp only [filesSaved, pure_bind, List.append_nil]
  rfl

/-! ## A whole save -/

open Registry in
/-- What a save reports, and what it leaves of the registry before the files of `earlier`. -/
theorem filesSaved_ok {r : Registry} {earlier : List FileId}
    (h : r.Savable host files) (hleft : r.Without (r.Gone host (· ∈ earlier)) editor.registry) :
    ∃ units editor', filesSaved host files editor = (.ok units, editor') ∧
      r.Without (r.Gone host (· ∈ earlier ++ files)) editor'.registry ∧
      ∀ unit, unit ∈ units ↔ r.Reports host unit earlier files := by
  -- The induction is on the files. What is assumed of the registry is what the earlier files have
  -- left of the one before the save.
  induction files generalizing earlier editor with
  | nil => exact ⟨[], editor, rfl, by simpa using hleft, by simp [Reports]⟩
  | cons file files ih =>
    have hrest : r.Savable host files := h.of_subset (List.subset_cons_self _ _)
    -- The turn of the first file, and what is left after it.
    obtain ⟨units, editor₁, hfile, hleft₁, hunits⟩ : ∃ units editor₁,
        filesSaved host [file] editor = (.ok units, editor₁) ∧
        r.Without (r.Gone host (· ∈ earlier ++ [file])) editor₁.registry ∧
        ∀ unit, unit ∈ units ↔ r.HasLeft host (· ∈ earlier) unit file := by
      have hattends := h.attends List.mem_cons_self
      by_cases hsource : host.IsSource file
      · obtain ⟨units, hfile, hunits⟩ := filesSaved_of_isSource hattends hsource editor
        refine ⟨units, _, hfile, ?_, fun unit => ?_⟩
        · simpa using hleft.save hsource
        · rw [hunits, hleft.any_answers_iff (h.own List.mem_cons_self hsource), HasLeft]
      · -- What is no source forgets nothing, so that saving it makes no difference to what is gone.
        refine ⟨[], _, filesSaved_of_not_isSource hattends hsource, ?_, fun unit => ?_⟩
        · refine hleft.congr fun name => ⟨fun hgone => hgone.mono (by simp +contextual), ?_⟩
          rintro ⟨f, hf, hsourced, hmem⟩
          rcases List.mem_append.1 hf with hf | hf
          · exact ⟨f, hf, hsourced, hmem⟩
          · exact absurd (List.mem_singleton.1 hf ▸ hsourced) hsource
        · exact iff_of_false (by simp) fun hleft => hsource hleft.1.isSource
    -- The others follow as after the first file.
    obtain ⟨units', editor', hfiles, hleft', hunits'⟩ := ih hrest hleft₁
    refine ⟨units ++ units', editor', filesSaved_append_ok hfile hfiles, ?_, fun unit => ?_⟩
    · simpa using hleft'
    · rw [List.mem_append, hunits, hunits', Reports]

/-- The build modules that a save reports, in no order. -/
def reported (host : Host) (files : List FileId) (editor : Editor) :
    Except Cancelled (Set ModuleId) :=
  (filesSaved host files editor).1.map fun units => { unit | unit ∈ units }

theorem reported_of_ok (h : filesSaved host files editor = (.ok units, editor')) :
    reported host files editor = .ok { unit | unit ∈ units } := by
  rw [reported, h]
  rfl

/-- What a save reports can be told from the registry before it. -/
theorem reported_eq (h : editor.registry.Savable host files) :
    reported host files editor = .ok { unit | editor.registry.Reports host unit [] files } := by
  obtain ⟨units, editor', hok, _, hunits⟩ := filesSaved_ok h (editor.registry.without_gone_nil host)
  rw [reported_of_ok hok]
  exact congrArg Except.ok (Set.ext hunits)

end Editor

end PrototypeLens
