import PrototypeLens.Proofs.Editor.Reordering

/-!
# Saving again after a cancellation

A save may be cancelled at any of its queries: while a file is looked up, while its declarations are
listed, or while its build module is asked for, when its answers are dropped already. It leaves the
editor as saving the first of the files would have done, and what these would have been reported for
is lost: the save that is tried again reports what the other files still give.

## Layers

- `Attendance`: the hosts that answer during the turn of a file. They may cancel, but never answer
  differently from the host itself.
- `filesSavedDuring`: a save with such hosts. `filesSavedDuring_steady` says that it is a save if
  nothing changes.
- `refreshDuring_cases` and `filesSavedDuring_cons_cancelled`: where a turn may be cancelled, and
  what is dropped until then.

## Main results

- `filesSavedDuring_cancelled`: a cancelled save leaves the editor as saving some first files does.
- What trying again reports, and when exactly nothing is lost.
- A save of two files that is cancelled after the first one and loses its module.
-/

namespace PrototypeLens

/-! ## Hosts that change during a save -/

/-- The hosts that answer during the turn of a file. -/
structure Attendance where
  /-- Answers what file it is. -/
  onFile : Host
  /-- Answers what the file declares. -/
  onDeclarations : Host
  /-- Answers which build module the file belongs to. -/
  onModule : Host

/-- All of them answer like the host, unless they cancel the query. -/
structure Attendance.Follows (turn : Attendance) (host : Host) : Prop where
  onFile : turn.onFile.AgreesOn (¬ turn.onFile.Cancels ·) host
  onDeclarations : turn.onDeclarations.AgreesOn (¬ turn.onDeclarations.Cancels ·) host
  onModule : turn.onModule.AgreesOn (¬ turn.onModule.Cancels ·) host

/-- The host itself answers. -/
def Attendance.steady (host : Host) : Attendance := ⟨host, host, host⟩

/-- A refresh during which the host changes. -/
def Registry.refreshDuring (r : Registry) (turn : Attendance) (file : FileId) :
    Except Cancelled (List ModuleId) × Registry :=
  match r.refreshedNames turn.onDeclarations file with
  | .error e => (.error e, r)
  | .ok names =>
    let names := r.withDependents names
    (if names.any r.answers then moduleOf turn.onModule file else .ok [], r.forgetAll names)

namespace Editor

/-- A refresh during which the host changes. -/
def refreshDuring (turn : Attendance) (file : FileId) : EditorM (List ModuleId) := fun editor =>
  let (result, registry) := editor.registry.refreshDuring turn file
  (result, { editor with registry })

/-- A save during which the host changes. -/
def filesSavedDuring : List (FileId × Attendance) → EditorM (List ModuleId)
  | [] => pure []
  | (file, turn) :: turns => do
    match isRefreshedOnSave turn.onFile file with
    | .error e => throw e
    | .ok false => filesSavedDuring turns
    | .ok true =>
      let affected ← refreshDuring turn file
      return affected ++ (← filesSavedDuring turns)

/-- With a host that does not change it is a refresh. -/
theorem refreshDuring_steady (host : Host) (file : FileId) :
    refreshDuring (.steady host) file = refresh host file := rfl

/-- With a host that does not change it is a save. -/
theorem filesSavedDuring_steady (host : Host) (files : List FileId) :
    filesSavedDuring (files.map fun file => (file, .steady host)) = filesSaved host files := by
  -- The induction is on the files, each of which has the same host for its turn.
  induction files with
  | nil => rfl
  | cons file files ih =>
    rw [List.map_cons, filesSavedDuring, filesSaved, ih, refreshDuring_steady]
    rfl

end Editor

/-! ## Where a save is cancelled -/

section

variable {host : Host} {turn : Attendance} {file : FileId}

/-- A refresh is cancelled before it drops anything, or has dropped what derives from the file. -/
theorem Registry.refreshDuring_cases (hturn : turn.Follows host) (hattends : host.Attends file)
    (r : Registry) :
    r.refreshDuring turn file = (.error {}, r) ∨
      (r.refreshDuring turn file).2 = r.forgetAll (r.derived host file) := by
  have hnames := r.refreshedNames_ok hattends.declared
  unfold refreshDuring
  -- Only listing the declarations can be cancelled before anything is dropped.
  cases hturn.onDeclarations.relaysTo.refreshedNames r file with
  | cancelled _ hcancelled =>
    left
    cases herror : r.refreshedNames turn.onDeclarations file with
    | error e => rfl
    | ok names =>
      rw [herror] at hcancelled
      exact hcancelled.elim
  | same heq _ =>
    right
    rw [← heq, hnames]
    rfl

namespace Editor

variable {files : List FileId} {editor cut : Editor} {e : Cancelled}

/-- The turn of a source is cancelled before anything is dropped, or leaves the editor as saving the
file does, whether it is cancelled or not. -/
theorem refreshDuring_cases (hturn : turn.Follows host) (hattends : host.Attends file)
    (hsource : host.IsSource file) (editor : Editor) :
    refreshDuring turn file editor = (.error {}, editor) ∨
      ∃ out units editor', refreshDuring turn file editor = (out, editor') ∧
        filesSaved host [file] editor = (.ok units, editor') := by
  -- The module is asked for afterwards, so that its cancellation does not show in what is left.
  rcases editor.registry.refreshDuring_cases hturn hattends with hcancelled | hdropped
  · left
    simp only [refreshDuring, hcancelled]
  · right
    obtain ⟨units, hfile, _⟩ := filesSaved_of_isSource hattends hsource editor
    refine ⟨(editor.registry.refreshDuring turn file).1, units, _, ?_, hfile⟩
    rw [← hdropped]
    rfl

/-- Where an answer is only mapped, a cancellation is that of the computation. -/
theorem error_of_map {α β : Type} {m : EditorM α} {f : α → β}
    (h : (do let a ← m; return f a : EditorM β) editor = (.error e, cut)) :
    m editor = (.error e, cut) := by
  -- The computation is the only part that can fail.
  match hm : m editor with
  | (.ok a, editor') =>
    rw [bind_ok hm] at h
    cases h
  | (.error e', editor') =>
    rw [bind_error hm] at h
    cases h
    rfl

/-- Looking up the file of a turn is cancelled, or tells what the host tells. -/
theorem isRefreshedOnSave_turn (hturn : turn.Follows host) (file : FileId) :
    (∃ e, isRefreshedOnSave turn.onFile file = .error e) ∨
      ∃ source, isRefreshedOnSave turn.onFile file = .ok source ∧
        isRefreshedOnSave host file = .ok source := by
  cases hsource : isRefreshedOnSave turn.onFile file with
  | error e => exact .inl ⟨e, rfl⟩
  | ok source =>
    right
    cases hturn.onFile.relaysTo.isRefreshedOnSave file with
    | cancelled _ hcancelled =>
      rw [hsource] at hcancelled
      exact hcancelled.elim
    | same heq _ => exact ⟨source, rfl, heq.trans hsource⟩

/-- Where a save is cancelled, its first turn is cancelled before it drops anything, or once it has
dropped the answers and cannot tell the module any more, or it is over and a later one is. -/
theorem filesSavedDuring_cons_cancelled {turns : List (FileId × Attendance)}
    (hturn : turn.Follows host) (hattends : host.Attends file)
    (hcut : filesSavedDuring ((file, turn) :: turns) editor = (.error e, cut)) :
    cut = editor ∨ ∃ units editor', filesSaved host [file] editor = (.ok units, editor') ∧
      (cut = editor' ∨ filesSavedDuring turns editor' = (.error e, cut)) := by
  rw [filesSavedDuring] at hcut
  rcases isRefreshedOnSave_turn hturn file with
    ⟨e', herror⟩ | ⟨source, hsource, hsource'⟩
  · rw [herror] at hcut
    cases hcut
    exact .inl rfl
  · rw [hsource] at hcut
    cases source with
    | false =>
      -- What is no source is passed over by both.
      refine .inr ⟨[], editor, ?_, .inr hcut⟩
      rw [filesSaved, hsource']
      rfl
    | true =>
      rcases refreshDuring_cases hturn hattends (isRefreshedOnSave_eq_true hsource') editor with
        hcancelled | ⟨out, units, editor', hout, hfile⟩
      · cases (bind_error hcancelled).symm.trans hcut
        exact .inl rfl
      · refine .inr ⟨units, editor', hfile, ?_⟩
        cases out with
        | error e' =>
          cases (bind_error hout).symm.trans hcut
          exact .inl rfl
        | ok affected => exact .inr (error_of_map ((bind_ok hout).symm.trans hcut))

/-- A save that is cancelled leaves the editor as saving the first of the files does. -/
theorem filesSavedDuring_cancelled {turns : List (FileId × Attendance)}
    (hturns : ∀ entry ∈ turns, entry.2.Follows host ∧ host.Attends entry.1)
    (hcut : filesSavedDuring turns editor = (.error e, cut)) :
    ∃ saved rest units, turns.map (·.1) = saved ++ rest ∧
      filesSaved host saved editor = (.ok units, cut) := by
  -- The induction is on the turns, with the editor open: after a turn that is over, the others go
  -- on from what it left.
  induction turns generalizing editor with
  | nil => cases hcut
  | cons entry turns ih =>
    obtain ⟨file, turn⟩ := entry
    obtain ⟨hturn, hattends⟩ := hturns _ List.mem_cons_self
    rcases filesSavedDuring_cons_cancelled hturn hattends hcut with
      rfl | ⟨units, editor', hfile, rfl | hlater⟩
    · exact ⟨[], _, [], rfl, rfl⟩
    · exact ⟨[file], _, units, rfl, hfile⟩
    · have hrest : ∀ entry ∈ turns, entry.2.Follows host ∧ host.Attends entry.1 :=
        fun entry hentry => hturns entry (List.mem_cons_of_mem _ hentry)
      obtain ⟨saved, rest, units', hfiles, hsaved⟩ := ih hrest hlater
      exact ⟨file :: saved, rest, units ++ units', by simp [hfiles],
        filesSaved_append_ok hfile hsaved⟩

/-! ## Trying again -/

/-- A save is cancelled and tried again. It was cancelled after some of the files, and the second
time it reports what the other files do; so nothing is lost exactly if these report the modules that
the first ones would have been reported for. -/
theorem reported_retry_iff {turns : List (FileId × Attendance)}
    (h : editor.registry.Savable host (turns.map (·.1)))
    (hturns : ∀ entry ∈ turns, entry.2.Follows host)
    (hcut : filesSavedDuring turns editor = (.error e, cut)) :
    ∃ saved rest units once again, turns.map (·.1) = saved ++ rest ∧
      filesSaved host saved editor = (.ok units, cut) ∧
      reported host (turns.map (·.1)) editor = .ok once ∧
      reported host (turns.map (·.1)) cut = .ok again ∧
      reported host rest cut = .ok again ∧
      once = { unit | unit ∈ units } ∪ again ∧
      (once ⊆ again ↔ ∀ unit ∈ units, unit ∈ again) := by
  obtain ⟨saved, rest, units, hfiles, hsaved⟩ := filesSavedDuring_cancelled (fun entry hentry =>
    ⟨hturns entry hentry, h.attends (List.mem_map_of_mem hentry)⟩) hcut
  rw [hfiles] at h ⊢
  have hsavable : editor.registry.Savable host saved := h.of_subset (List.subset_append_left _ _)
  have hrest : editor.registry.Savable host rest := h.of_subset (List.subset_append_right _ _)
  have hnone : editor.registry.Without (editor.registry.Gone host (· ∈ [])) editor.registry :=
    editor.registry.without_gone_nil host
  -- What the first files report, and what they leave.
  obtain ⟨_, _, hok, hleft, hunits⟩ := filesSaved_ok hsavable hnone
  cases hsaved.symm.trans hok
  -- What the others report then, and what all of them do.
  obtain ⟨again, _, hagain, _, hreported⟩ := filesSaved_ok hrest hleft
  obtain ⟨all, _, hall, _, hreportedAll⟩ := filesSaved_ok h hleft
  -- The files that were saved before have nothing left to report.
  have hsame : ({ unit | unit ∈ all } : Set ModuleId) = { unit | unit ∈ again } := by
    ext unit
    show unit ∈ all ↔ unit ∈ again
    rw [hreported, hreportedAll, List.nil_append, Registry.reports_saved_append]
  refine ⟨saved, rest, units, _, { unit | unit ∈ again }, rfl, hsaved,
    reported_of_ok (filesSaved_append_ok hsaved hagain), hsame ▸ reported_of_ok hall,
    reported_of_ok hagain, ?_, ?_⟩
  · ext unit
    simp
  · simp [Set.subset_def, or_imp]

end Editor

end

/-! ### A cancelled save of a shared check -/

namespace Program

/-- The host while the declarations of the second file cannot be listed. -/
def sharedCheckBusy : Host := (sharedCheck.interrupted [.declarationsIn ⟨1⟩]).toHost

theorem agreesOn_sharedCheckBusy :
    sharedCheckBusy.AgreesOn (¬ sharedCheckBusy.Cancels ·) sharedCheck.toHost :=
  consistent_sharedCheck.agreesOn_interrupted _

/-- The save of both files is cancelled after the first one. -/
theorem filesSaved_sharedCheckBusy : ∃ units cut,
    Editor.filesSaved sharedCheckBusy [⟨0⟩, ⟨1⟩] { registry := checkedRegistry } =
      (.error {}, cut) ∧
    Editor.filesSaved sharedCheck.toHost [⟨0⟩] { registry := checkedRegistry } =
      (.ok units, cut) := by
  have hattends : sharedCheck.toHost.Attends ⟨0⟩ :=
    (savable_checkedRegistry [⟨0⟩]).attends List.mem_cons_self
  have hbusy : sharedCheckBusy.Attends ⟨0⟩ := ⟨hattends.file, hattends.declared⟩
  obtain ⟨units, hfirst, _⟩ := Editor.filesSaved_of_isSource hbusy ⟨_, rfl, rfl⟩
    { registry := checkedRegistry }
  obtain ⟨units', hfirst', _⟩ := Editor.filesSaved_of_isSource hattends ⟨_, rfl, rfl⟩
    { registry := checkedRegistry }
  refine ⟨units', _, ?_, hfirst'⟩
  rw [show [(⟨0⟩ : FileId), ⟨1⟩] = [⟨0⟩] ++ [⟨1⟩] from rfl, Editor.filesSaved_append,
    Editor.bind_ok hfirst]
  exact Editor.bind_error rfl

end Program

namespace Editor

theorem reported_retry_iff_sharedCheck :
    let host := Program.sharedCheck.toHost
    let editor : Editor := { registry := Program.checkedRegistry }
    let turns := [(⟨0⟩ : FileId), ⟨1⟩].map fun file =>
      (file, Attendance.steady Program.sharedCheckBusy)
    editor.registry.Savable host (turns.map (·.1)) ∧
      (∀ entry ∈ turns, entry.2.Follows host) ∧
      ∃ cut, filesSavedDuring turns editor = (.error {}, cut) ∧
        ∃ saved rest units once again, turns.map (·.1) = saved ++ rest ∧
          filesSaved host saved editor = (.ok units, cut) ∧
          reported host (turns.map (·.1)) editor = .ok once ∧
          reported host (turns.map (·.1)) cut = .ok again ∧
          reported host rest cut = .ok again ∧
          once = { unit | unit ∈ units } ∪ again ∧
          (once ⊆ again ↔ ∀ unit ∈ units, unit ∈ again) := by
  intro host editor turns
  have hsavable : editor.registry.Savable host (turns.map (·.1)) :=
    Program.savable_checkedRegistry _
  have hagrees := Program.agreesOn_sharedCheckBusy
  have hturns : ∀ entry ∈ turns, entry.2.Follows host := by
    intro entry hentry
    obtain ⟨file, _, rfl⟩ := List.mem_map.1 hentry
    exact ⟨hagrees, hagrees, hagrees⟩
  obtain ⟨_, cut, hcut, _⟩ := Program.filesSaved_sharedCheckBusy
  rw [← filesSavedDuring_steady] at hcut
  exact ⟨hsavable, hturns, cut, hcut, reported_retry_iff hsavable hturns hcut⟩

/-- The save is cancelled when the answers of the first file are dropped, and the second time its
module is not reported. -/
theorem reported_lost_after_cancellation :
    let host := Program.sharedCheck.toHost
    let editor : Editor := { registry := Program.checkedRegistry }
    let busy := Program.sharedCheckBusy
    host.Healthy ∧ busy.AgreesOn (¬ busy.Cancels ·) host ∧
      ∃ cut once again, filesSaved busy [⟨0⟩, ⟨1⟩] editor = (.error {}, cut) ∧
        reported host [⟨0⟩, ⟨1⟩] editor = .ok once ∧
        reported host [⟨0⟩, ⟨1⟩] cut = .ok again ∧ ⟨1⟩ ∈ once ∧ ⟨1⟩ ∉ again := by
  intro host editor busy
  have hcovers := Registry.covers_derived Program.consistent_sharedCheck.healthy
    Program.checkedRegistry ⟨0⟩
  obtain ⟨units, cut, hcut, hfirst⟩ := Program.filesSaved_sharedCheckBusy
  -- What the first file leaves, and what both report after that.
  have hnone : Program.checkedRegistry.Without (Program.checkedRegistry.Gone host (· ∈ []))
      editor.registry := Program.checkedRegistry.without_gone_nil host
  obtain ⟨_, _, hok, hleft, _⟩ :=
    filesSaved_ok (Program.savable_checkedRegistry [⟨0⟩]) hnone
  cases hfirst.symm.trans hok
  obtain ⟨again, _, hagain, _, hreports⟩ :=
    filesSaved_ok (Program.savable_checkedRegistry [⟨0⟩, ⟨1⟩]) hleft
  refine ⟨Program.consistent_sharedCheck.healthy, Program.agreesOn_sharedCheckBusy, cut, _, _,
    hcut, reported_eq (Program.savable_checkedRegistry _), reported_of_ok hagain, ?_, ?_⟩
  · -- The first file is reported when nothing is cancelled, as its answer is there.
    refine Registry.reports_of_first ⟨⟨_, rfl, rfl, rfl⟩, "a.M", hcovers.owned rfl, ?_⟩ _
    exact Registry.left_gone_none.2 rfl
  · -- The second time it has nothing left, and the second file is of another module.
    intro hmem
    have hreported := (Registry.reports_saved_append [⟨0⟩] [⟨1⟩]).1 ((hreports ⟨1⟩).1 hmem)
    rcases hreported with ⟨⟨data, hdata, _, hunit⟩, _⟩ | hnone
    · cases hdata
      cases hunit
    · exact hnone

end Editor

end PrototypeLens
