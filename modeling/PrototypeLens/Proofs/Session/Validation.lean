import PrototypeLens.Proofs.Session.Asking
import PrototypeLens.Proofs.Session.Nesting
import PrototypeLens.Proofs.Validation.Search
import PrototypeLens.Proofs.Program.Checks

/-!
# What sessions answer about validation

A session answers that an annotation validates exactly if the registry shows it. What it answers so
is a validation annotation, and without circular validation annotations it answers so for all of
them. On a cycle a kept denial can hide one from the next search.

## Layers

- `Host.judges_validating` and `Host.judges_validating_iff`: what searches find out is right, and
  without circles nothing is missed.
- `Registry.course_validators`: what is recorded about anything else leaves those answers alone.
- `KeepsVerdicts`: a computation keeps the answers in agreement with a verdict.

## Main results

- `Scope.Visited.idle_and_verdicts`: so does every question.
- After any questions an annotation is answered to validate exactly if the registry shows it, which
  is right but for circles.
- Two annotations on each other, of which one is answered to validate nothing.
-/

namespace PrototypeLens

open Relation (TransGen)
open ValidationDescriptor (root?)

/-! ## Verdicts -/

namespace Host

variable {host : Host}

theorem validating_of_shows {r : Registry} {path : NameSet} {name : String}
    (hr : r.Verdicts fun name valid => valid = true → host.Validating name)
    (h : r.Shows host path name) : host.Validating name := by
  -- The induction is on the way by which the registry shows it.
  induction h with
  | root _ hroot => exact .root hroot
  | kept _ hkept hvalid => exact hr hkept hvalid
  | carried _ _ hdecl hkind hmark _ ih => exact .carried hdecl hkind hmark ih

/-- Only validation annotations are found out to validate. -/
theorem judges_validating (host : Host) :
    host.Judges fun name valid => valid = true → host.Validating name :=
  fun hr _ _ hshown hvalid => validating_of_shows hr (hshown.1 hvalid)

/-- A validation annotation that no cycle goes through shows to validate, wherever the search for
it stands. -/
theorem shows_of_validating (hacyclic : ∀ n, host.Validating n → ¬ TransGen host.Carries n n)
    {r : Registry} (hr : r.Verdicts fun name valid => valid = true ↔ host.Validating name)
    {path : NameSet} {name : String} (hfresh : name ∉ path)
    (hleads : ∀ m ∈ path, TransGen host.Carries m name) (h : host.Validating name) :
    r.Shows host path name := by
  -- The induction is on what makes it a validation annotation, for all paths that lead to it.
  induction h with
  | root hroot => exact .root hfresh hroot
  | @carried name decl mark hdecl hkind hmark hvalidating ih =>
    cases hkept : r.validators.get? name with
    | some d => exact .kept hfresh hkept ((hr hkept).2 (.carried hdecl hkind hmark hvalidating))
    | none =>
      have hcarries : host.Carries name mark.name := ⟨decl, hdecl, mark, hmark, rfl⟩
      have hleads' : ∀ m ∈ path, TransGen host.Carries m mark.name :=
        fun m hm => (hleads m hm).tail hcarries
      refine .carried hfresh hkept hdecl hkind hmark (ih (fun hmem => ?_) hleads')
      exact hacyclic mark.name hvalidating (hleads' mark.name hmem)

/-- Without circular validation annotations exactly the validation annotations are found out to
validate. -/
theorem judges_validating_iff (hacyclic : ∀ n, host.Validating n → ¬ TransGen host.Carries n n) :
    host.Judges fun name valid => valid = true ↔ host.Validating name := by
  intro r path name valid hr hleads hfresh hshown
  rw [hshown]
  exact ⟨validating_of_shows fun hkept => (hr hkept).1,
    shows_of_validating hacyclic hr hfresh hleads⟩

end Host

/-! ## Keeping verdicts -/

/-- What is recorded about templates and declarations leaves the answers about validation as they
are. -/
theorem Registry.course_validators :
    Registry.Course fun r r' => r'.validators = r.validators where
  refl _ := rfl
  trans h h' := h'.trans h
  announceTemplate r name := by
    unfold announceTemplate
    split <;> rfl
  publishTemplate r epoch name file defaults := by
    unfold publishTemplate
    split
    · rw [recordOwner?_validators]
    · rfl
  denyTemplate r name file := by
    unfold denyTemplate
    split
    · rfl
    · rw [recordOwner?_validators]
  recordDependent _ _ _ := rfl
  publishClass r epoch name file prototype := by
    unfold publishClass
    split <;> rfl
  publishGenerated r epoch name file prototype := by
    unfold publishGenerated
    split <;> rfl
  publishNonGenerated r epoch name file := by
    unfold publishNonGenerated
    split <;> rfl

section Verdicts

variable {scope : Scope} {Verdict : String → Bool → Prop}

/-- The computation keeps the answers in agreement with the verdict, and the guards as they are. -/
def KeepsVerdicts (Verdict : String → Bool → Prop) (g : Guards) {ε α : Type} (m : SessionM ε α) :
    Prop :=
  ∀ r, r.Verdicts Verdict → m.Yields r g fun _ r' => r'.Verdicts Verdict

theorem keepsVerdicts_of_matches {g : Guards} {α : Type} {m m' : Lookup α}
    (h : m.Matches (fun r r' => r'.validators = r.validators) g m') :
    KeepsVerdicts Verdict g m := by
  intro r hr
  obtain ⟨out, r', hexec, _, hout⟩ := h r
  exact ⟨out, r', hexec, fun hkept => hr (hout.course ▸ hkept)⟩

/-- Whatever is composed of lookups keeps the answers in agreement with what searches find out. -/
theorem compositional_keepsVerdicts (h : scope.host.Findable)
    (hjudges : scope.host.Judges Verdict) {g : Guards} (hidle : g.Idle) :
    Compositional scope (KeepsVerdicts Verdict g) where
  pure _ _ hr := SessionM.yields_pure hr
  throw _ _ hr := SessionM.yields_throw hr
  query _ _ hr := Lookup.yields_query hr
  bind hm hf r hr := (hm r hr).bind (fun a r' hr' => hf a r' hr') fun _ _ hr' => hr'
  contain nothing hm r hr := by
    obtain ⟨out, r', hexec, hr'⟩ := hm r hr
    exact ⟨Request.contained nothing out, r', by rw [Request.exec_contain, hexec], hr'⟩
  template? name := keepsVerdicts_of_matches
    (Lookup.matches_template? (.refl scope) Registry.course_validators name)
  registerClass id := keepsVerdicts_of_matches
    (Lookup.matches_registerClass (.refl scope) Registry.course_validators id)
  prototype? name := keepsVerdicts_of_matches
    (Lookup.matches_prototype? (.refl scope) Registry.course_validators name)
  origin? name := keepsVerdicts_of_matches
    (Lookup.matches_origin? (.refl scope) Registry.course_validators name)
  validationDescriptor name _ hr :=
    (Lookup.searches_validationDescriptor h hjudges hidle.validating name hr).mono
      fun _ _ ⟨_, _, hd⟩ => hd.verdicts

/-- Every question leaves an idle session idle, and its answers in agreement with the verdict. -/
theorem Scope.Visited.idle_and_verdicts (h : scope.host.Findable)
    (hjudges : scope.host.Judges Verdict) {s : Session} (hs : scope.Visited s) :
    s.guards.Idle ∧ s.registry.Verdicts Verdict := by
  induction hs with
  | start => exact ⟨Guards.idle_empty, fun hkept => by cases hkept⟩
  | @ask s q _ ih =>
    obtain ⟨r, g⟩ := s
    rw [Question.exec_ask_session]
    -- Lookups search; the other questions do not touch the registry.
    by_cases hq : q.IsLookup
    · obtain ⟨out, r', hexec, hr'⟩ :=
        (compositional_keepsVerdicts h hjudges ih.1).reply q hq r ih.2
      rw [hexec]
      exact ⟨ih.1, hr'⟩
    · obtain ⟨out, g', hidle, hexec⟩ := Question.exec_reply_of_not_isLookup hq scope ih.1
      rw [hexec r]
      exact ⟨hidle, ih.2⟩
  | reopen _ ih => exact ⟨Guards.idle_empty, ih.2⟩

end Verdicts

/-! ## Answers -/

namespace Request

variable {scope : Scope}

theorem exec_validation {name : String} {s s' : Session} {d : ValidationDescriptor}
    (h : (Lookup.validationDescriptor scope name).exec s = (.ok d, s')) :
    (validation scope name).exec s = (.ok (if d.isValidation then some d else none), s') :=
  exec_contain_ok (by rw [SessionM.exec_bind_ok h]; rfl)

/-- After any questions, an annotation is answered to validate exactly if the registry shows it,
and then it is a validation annotation. So the answer is right exactly if a validation annotation is
shown to be one; it always is without circular validation annotations. -/
theorem validation_isSome_iff (h : scope.host.Findable) {s : Session} (hs : scope.Visited s)
    (name : String) :
    ∃ found s', (validation scope name).exec s = (.ok found, s') ∧
      (found.isSome ↔ s.registry.Shows scope.host [] name) ∧
      (found.isSome → scope.host.Validating name) ∧
      ((found.isSome ↔ scope.host.Validating name) ↔
        (scope.host.Validating name → s.registry.Shows scope.host [] name)) ∧
      ((∀ n, scope.host.Validating n → ¬ TransGen scope.host.Carries n n) →
        (found.isSome ↔ scope.host.Validating name)) := by
  obtain ⟨r, g⟩ := s
  have hsound : scope.host.Judges fun name valid => valid = true → scope.host.Validating name :=
    scope.host.judges_validating
  -- That the answers are right needs no assumption on circles.
  obtain ⟨hidle, hr⟩ := hs.idle_and_verdicts h hsound
  obtain ⟨_, r', hexec, d, rfl, hd⟩ :=
    Lookup.searches_validationDescriptor h hsound hidle.validating name hr
  have hfound : (if d.isValidation then some d else none).isSome = true ↔
      r.Shows scope.host [] name := by
    rw [← hd.shown]
    cases d.isValidation <;> simp
  have hvalidating : r.Shows scope.host [] name → scope.host.Validating name :=
    Host.validating_of_shows hr
  refine ⟨_, _, exec_validation hexec, hfound, fun hsome => hvalidating (hfound.1 hsome), ?_, ?_⟩
  · rw [hfound]
    exact ⟨fun hiff => hiff.2, fun hshows => ⟨hvalidating, hshows⟩⟩
  · intro hacyclic
    -- Without circles the same registry agrees with the declarations both ways.
    obtain ⟨_, hr⟩ := hs.idle_and_verdicts h (Host.judges_validating_iff hacyclic)
    rw [hfound]
    exact ⟨hvalidating, Host.shows_of_validating hacyclic hr (by simp) (by simp)⟩

end Request

/-! ### Circular validation annotations -/

/-- Two annotations on each other, one of which validates by a root as well. -/
def Program.circularValidation : Program :=
  .ofDeclarations [{ path := "src/a/Checks.java" }]
    [{ name := "A", qualifiedName := some "a.A", file := ⟨0⟩, kind := .annotationType
       annotations := [{ name := "a.B" }, { name := ValidationDescriptor.validateRoot }] },
     { name := "B", qualifiedName := some "a.B", file := ⟨0⟩, kind := .annotationType
       annotations := [{ name := "a.A" }] }]

theorem Program.consistent_circularValidation : circularValidation.Consistent :=
  .ofDeclarations (by decide) (by decide)

/-- The session after asking what the first annotation validates. -/
def Program.afterValidation : Session :=
  (((Question.validation "a.A").ask circularValidation.scope).exec ⟨{}, {}⟩).2

namespace Request

theorem validation_isSome_iff_circularValidation :
    let scope := Program.circularValidation.scope
    let s := Program.afterValidation
    scope.host.Findable ∧ scope.Visited s ∧
      ∃ found s', (validation scope "a.B").exec s = (.ok found, s') ∧
        (found.isSome ↔ s.registry.Shows scope.host [] "a.B") ∧
        (found.isSome → scope.host.Validating "a.B") ∧
        ((found.isSome ↔ scope.host.Validating "a.B") ↔
          (scope.host.Validating "a.B" → s.registry.Shows scope.host [] "a.B")) ∧
        ((∀ n, scope.host.Validating n → ¬ TransGen scope.host.Carries n n) →
          (found.isSome ↔ scope.host.Validating "a.B")) := by
  intro scope s
  have hfind : scope.host.Findable := Program.consistent_circularValidation.healthy.findData_ok
  have hs : scope.Visited s := .ask (.validation "a.A") .start
  exact ⟨hfind, hs, validation_isSome_iff hfind hs "a.B"⟩

/-- The one annotation is passed over in the search for the other, which is kept to validate
nothing. -/
theorem validation_none_of_circular :
    let scope := Program.circularValidation.scope
    scope.host.Healthy ∧ scope.Visited Program.afterValidation ∧ scope.host.Validating "a.B" ∧
      ((validation scope "a.B").exec Program.afterValidation).1 = .ok none := by
  intro scope
  have hp := Program.consistent_circularValidation
  refine ⟨hp.healthy, .ask (.validation "a.A") .start, ?_, by rfl⟩
  have hdeclares {own : String} (id : DeclId) (decl : Declaration)
      (hid : Program.circularValidation.declarations.get? id = some decl)
      (hown : decl.qualifiedName = some own) : scope.host.Declares own decl :=
    hp.declares_iff.2 ⟨id, hid, hown⟩
  -- The root on the first annotation makes it validate, and through it the second one.
  have hA : scope.host.Validating "a.A" := by
    refine .carried (hdeclares ⟨0⟩ _ rfl rfl) rfl (List.mem_cons_of_mem _ List.mem_cons_self) ?_
    exact .root rfl
  exact .carried (hdeclares ⟨1⟩ _ rfl rfl) rfl List.mem_cons_self hA

end Request

end PrototypeLens
