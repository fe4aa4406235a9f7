import PrototypeLens.Proofs.Program.Checks
import PrototypeLens.Proofs.Session.Requests
import PrototypeLens.Proofs.Template.Exactness

/-!
# Which annotations are answered to be templates

After any questions, an annotation that is answered to be a template is one. The converse fails on
cycles of annotations: an annotation that is still being discovered counts as no template, and what
is denied on that account stays denied until another template is announced. The answer is right
exactly if what the registry has denied leaves a way to see that the annotation is a template.

## Layers

- `Registry.Truthful`: what is kept is a template, and without cycles nothing that is one is denied.
- `truthfulUpkeep`: questions keep it.

## Main results

- When exactly the answer agrees with the declarations, with the two directions that always hold.
- Two annotations on each other, of which one is denied after the other was asked for.
-/

namespace PrototypeLens

variable {scope : Scope}

/-! ## Truthful registries -/

/-- What the registry holds are templates; without circular templates it denies none. -/
structure Registry.Truthful (host : Host) (r : Registry) : Prop where
  sound : r.Sound neverTemplates host.Template
  exact : host.Acyclic → r.Exact host

namespace Registry.Truthful

theorem fresh : ({} : Registry).Truthful scope.host :=
  ⟨.fresh (List.Subset.refl _), fun _ => .fresh⟩

theorem congr {r r' : Registry} (h : r.Truthful scope.host) (hsame : r.SameTemplates r') :
    r'.Truthful scope.host :=
  ⟨h.sound.congr hsame, fun hacyclic => (h.exact hacyclic).congr hsame⟩

theorem answer {r r' : Registry} {name : String} {out : Except LookupError (Option Descriptor)}
    (h : r.Truthful scope.host) (hans : Lookup.Answers scope name r out r') :
    r'.Truthful scope.host where
  sound := (hans.sound scope.host.closed_template h.sound).1
  exact hacyclic := hans.exact hacyclic h.sound (h.exact hacyclic)

end Registry.Truthful

/-- Lookups keep a registry truthful. -/
def truthfulUpkeep (scope : Scope) : Upkeep scope where
  Inv := Registry.Truthful scope.host
  Passed _ := True
  Taken _ _ _ := True
  Failed := True
  answer hr hans := ⟨hr.answer hans, by simp, by simp, by simp⟩
  take _ _ _ _ := trivial
  publishClass _ hr _ _ := hr.congr (Registry.sameTemplates_publishClass ..)
  publishGenerated _ _ hr _ := hr.congr (Registry.sameTemplates_publishGenerated ..)
  publishNonGenerated _ hr _ := hr.congr (Registry.sameTemplates_publishNonGenerated ..)
  publishValidator _ _ hr _ := hr.congr (Registry.sameTemplates_publishValidator ..)
  recordDependent _ hr _ := hr.congr (Registry.sameTemplates_recordDependent ..)

/-! ## Answers about templates -/

/-- After any questions, the answer whether an annotation is a template agrees with the declarations
exactly if the registry tells the annotation to be one in case it is. What is no template is never
answered to be one, and without circular templates the answer always agrees. -/
theorem Request.templateData_agrees_iff (h : scope.host.Healthy) (hsourced : scope.host.Sourced)
    (hwf : scope.host.WellFormed scope.host.Template) {s : Session} (hs : scope.Reached s)
    {name : String} (hsource : scope.host.InSource name) :
    ∃ found s', (Request.templateData scope name).exec s = (.ok found, s') ∧
      ((found.isSome ↔ scope.host.Template name) ↔
        (scope.host.Template name → s.registry.Tells scope.host name)) ∧
      (found.isSome → scope.host.Template name) ∧
      (scope.host.Acyclic → (found.isSome ↔ scope.host.Template name)) := by
  obtain ⟨r, g⟩ := s
  -- What the questions before have left is truthful, and nothing is being discovered.
  obtain ⟨hcalm, hr⟩ := Upkeep.holds_of_reached (U := truthfulUpkeep scope) h hsourced .fresh hs
  obtain ⟨out, r', hexec, hans⟩ := Lookup.yields_template? h hsourced hsource (r := r)
    hcalm.discovering hcalm.defaulting
  obtain ⟨_, _, hok⟩ := hans.sound scope.host.closed_template hr.sound
  cases out with
  | error e => exact absurd rfl (hok h hwf e)
  | ok found =>
    -- The answer is what the registry tells, which is never more than what is declared.
    obtain ⟨hverdict, _, _⟩ := hans.verdict
    have hsound : found.isSome → scope.host.Template name := by
      intro hsome
      exact hr.sound.template_of_tells (hverdict.1 hsome)
    refine ⟨found, ⟨r', g⟩, exec_contain_ok hexec, ?_, hsound, ?_⟩
    · rw [← hverdict]
      -- An answer that is never too much agrees exactly if it is enough.
      exact ⟨fun hiff => hiff.2, fun himp => ⟨hsound, himp⟩⟩
    · intro hacyclic
      refine ⟨hsound, fun ht => ?_⟩
      exact hverdict.2 ((hr.exact hacyclic).tells hacyclic ht)

/-! ## A template that is denied -/

/-- The session after asking for some templates in order. -/
def Scope.afterTemplates (scope : Scope) (names : List String) : Session :=
  names.foldl (fun s name => ((Question.ask scope (.templateData name)).exec s).2) ⟨{}, {}⟩

theorem Scope.reached_afterTemplates (hsource : scope.host.SourceOnly) (names : List String) :
    scope.Reached (scope.afterTemplates names) := by
  have hfold (s : Session) (hs : scope.Reached s) : scope.Reached
      (names.foldl (fun s name => ((Question.ask scope (.templateData name)).exec s).2) s) := by
    -- The induction is on the names, with the session open.
    induction names generalizing s with
    | nil => exact hs
    | cons name names ih => exact ih _ (.ask (.templateData name) hs (hsource.inSource name))
  exact hfold _ .start

/-- Two annotations on each other, one of which carries a root as well. -/
def Program.circularTemplates : Program :=
  .ofDeclarations [{ path := "src/a/Model.java" }]
    [{ name := "A", qualifiedName := some "a.A", file := ⟨0⟩, kind := .annotationType
       annotations := [{ name := "a.B" }, { name := codePrototype }] },
     { name := "B", qualifiedName := some "a.B", file := ⟨0⟩, kind := .annotationType
       annotations := [{ name := "a.A" }] }]

theorem Program.consistent_circularTemplates : circularTemplates.Consistent :=
  .ofDeclarations (by decide) (by decide)

/-- The annotation without a root is a template through the other one. -/
theorem Program.template_circularTemplates : circularTemplates.toHost.Template "a.B" := by
  have hcarries {own mark : String} (id : DeclId) (decl : Declaration)
      (hid : circularTemplates.declarations.get? id = some decl)
      (hown : decl.qualifiedName = some own) (use : AnnotationUse) (huse : use ∈ decl.annotations)
      (hmark : use.name = mark) : circularTemplates.toHost.Carries own mark :=
    ⟨decl, consistent_circularTemplates.declares_iff.2 ⟨id, hid, hown⟩, use, huse, hmark⟩
  have hroot : circularTemplates.toHost.Carries "a.A" codePrototype :=
    hcarries ⟨0⟩ _ rfl rfl ⟨codePrototype, [], none⟩ (by simp) rfl
  have hback : circularTemplates.toHost.Carries "a.B" "a.A" :=
    hcarries ⟨1⟩ _ rfl rfl ⟨"a.A", [], none⟩ (by simp) rfl
  have hA : circularTemplates.toHost.Template "a.A" :=
    .carried hroot (.given (by decide)) (by decide)
  exact .carried hback hA (by decide)

theorem Request.templateData_agrees_iff_circularTemplates :
    let scope := Program.circularTemplates.scope
    let s := scope.afterTemplates ["a.A"]
    scope.host.Healthy ∧ scope.host.Sourced ∧ scope.host.WellFormed scope.host.Template ∧
      scope.Reached s ∧ scope.host.InSource "a.B" ∧
      ∃ found s', (Request.templateData scope "a.B").exec s = (.ok found, s') ∧
        ((found.isSome ↔ scope.host.Template "a.B") ↔
          (scope.host.Template "a.B" → s.registry.Tells scope.host "a.B")) ∧
        (found.isSome → scope.host.Template "a.B") ∧
        (scope.host.Acyclic → (found.isSome ↔ scope.host.Template "a.B")) := by
  intro scope s
  have hp := Program.consistent_circularTemplates
  have hsource : scope.host.SourceOnly := hp.sourceOnly (by decide)
  have hsourced := hp.healthy.sourced hsource
  have hwf : scope.host.WellFormed scope.host.Template := hp.wellFormed _ (by decide)
  have hs := scope.reached_afterTemplates hsource ["a.A"]
  exact ⟨hp.healthy, hsourced, hwf, hs, hsource.inSource "a.B",
    templateData_agrees_iff hp.healthy hsourced hwf hs (hsource.inSource "a.B")⟩

theorem Request.templateData_circularTemplates :
    ((Request.templateData Program.circularTemplates.scope "a.B").exec
      (Program.circularTemplates.scope.afterTemplates ["a.A", enumPrototype, "a.A"])).1 =
        .ok none := by
  -- Three questions are computed one after the other.
  rfl

/-- Once another root is known, asking for the one annotation denies the other. -/
theorem Request.templateData_denies_circular_template :
    let scope := Program.circularTemplates.scope
    let s := scope.afterTemplates ["a.A", enumPrototype, "a.A"]
    scope.host.Healthy ∧ scope.host.SourceOnly ∧ scope.host.WellFormed scope.host.Template ∧
      scope.Reached s ∧ scope.host.Template "a.B" ∧
      ((Request.templateData scope "a.B").exec s).1 = .ok none := by
  intro scope s
  have hp := Program.consistent_circularTemplates
  have hsource : scope.host.SourceOnly := hp.sourceOnly (by decide)
  exact ⟨hp.healthy, hsource, hp.wellFormed _ (by decide), scope.reached_afterTemplates hsource _,
    Program.template_circularTemplates, Request.templateData_circularTemplates⟩

end PrototypeLens
