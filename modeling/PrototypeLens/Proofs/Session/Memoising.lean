import PrototypeLens.Proofs.Session.Validation
import PrototypeLens.Proofs.Validation.Recursion

/-!
# Kept answers about validation

Where no annotation type leads back to itself, what an annotation validates is told by recursion
over the annotations on it. Every answer that is kept about validation is the one of the recursion,
so that it makes no difference which of them are kept.

## Layers

- `FirstValidation.first`: without circles the annotation that decides is the first one that
  validates.
- `Host.Facets.of_facetsFrom`: what it gives is what the recursion tells.
- `Registry.Recalls`: every kept answer is that of a solution, which `recallingConduct` keeps
  through lookups.

## Main results

- `Scope.Visited.idle_and_recalls`: after any questions only answers of the solution are kept.
- `exec_validationDescriptor`: the answer that is given is that of the solution.
- The recursion has exactly one solution, which all kept and given answers follow.
- An instance with a group of targets that is expanded and passed on.
-/

namespace PrototypeLens

open Relation (TransGen)
open ValidationDescriptor (root?)

/-! ## The annotation that decides -/

/-- Where nothing is circular and a function tells what others validate, the annotation that decides
is the first one that validates. -/
theorem FirstValidation.first {leads : String → String → Prop}
    {facets : String → ValidationDescriptor} (hacyclic : ∀ name, ¬ leads name name)
    {marks : List AnnotationUse} {found : Option (AnnotationUse × ValidationDescriptor)}
    (h : FirstValidation leads (fun name d => d = facets name) marks found) :
    (found = none ∧ ∀ mark ∈ marks, (facets mark.name).isValidation = false) ∨
      ∃ before mark after, marks = before ++ mark :: after ∧
        found = some (mark, facets mark.name) ∧ (facets mark.name).isValidation = true ∧
        ∀ other ∈ before, (facets other.name).isValidation = false := by
  -- An annotation that is met again tells nothing about itself, so circles have to be excluded.
  induction h with
  | nil => exact .inl ⟨rfl, by simp⟩
  | circular hlead _ _ => exact absurd hlead (hacyclic _)
  | @passed mark marks parent found hparent hvalid _ ih =>
    subst hparent
    refine ih.imp (fun ⟨hfound, hnone⟩ => ⟨hfound, List.forall_mem_cons.2 ⟨hvalid, hnone⟩⟩) ?_
    rintro ⟨before, first, after, rfl, hfound, hfirst, hbefore⟩
    exact ⟨mark :: before, first, after, rfl, hfound, hfirst,
      List.forall_mem_cons.2 ⟨hvalid, hbefore⟩⟩
  | @taken mark marks parent hparent hvalid =>
    subst hparent
    -- The annotations before the first one are those that were passed over.
    exact .inr ⟨[], mark, marks, rfl, rfl, hvalid, by simp⟩

/-- What the annotation that decides gives is what the recursion tells. -/
theorem Host.Facets.of_facetsFrom {scope : Scope} {facets : String → ValidationDescriptor}
    {name : String} {decl : Declaration} {d : ValidationDescriptor}
    (hroot : root? name = none) (hdecl : scope.host.Declares name decl)
    (hkind : decl.isAnnotationType = true) {leads : String → String → Prop}
    (hacyclic : ∀ name, ¬ leads name name)
    {found : Option (AnnotationUse × ValidationDescriptor)}
    (hfirst : FirstValidation leads (fun name d => d = facets name) decl.annotations found)
    (hfacets : scope.facetsFrom name decl.declaresTargets found = .ok d) :
    scope.host.Facets facets name d := by
  rcases hfirst.first hacyclic with ⟨rfl, hnone⟩ | ⟨before, mark, after, happ, rfl, hvalid, hbefore⟩
  · cases hfacets
    exact .passed hroot hdecl hkind hnone
  · rw [Scope.facetsFrom] at hfacets
    -- Reading the targets may fail, but then no descriptor came out.
    cases htargets : scope.takenTargets decl.declaresTargets mark (facets mark.name) with
    | error e =>
      rw [htargets] at hfacets
      cases hfacets
    | ok targets =>
      rw [htargets] at hfacets
      cases hfacets
      refine .first hroot hdecl hkind ⟨before, after, happ, hvalid, fun other hother => ?_⟩
        (Scope.targets_of_takenTargets htargets)
      simp [hbefore other hother]

/-! ## Registries that recall -/

/-- Every kept answer about validation is the one that `facets` tells. -/
def Registry.Recalls (r : Registry) (facets : String → ValidationDescriptor) : Prop :=
  ∀ {name : String} {d : ValidationDescriptor}, r.validators.get? name = some d → d = facets name

theorem Registry.Recalls.congr {r r' : Registry} {facets : String → ValidationDescriptor}
    (h : r.Recalls facets) (hsame : r'.validators = r.validators) : r'.Recalls facets :=
  fun hkept => h (hsame ▸ hkept)

section

variable {scope : Scope} {facets : String → ValidationDescriptor}

/-- Lookups keep the answers of a solution of the recursion. -/
def recallingConduct (h : scope.host.Healthy)
    (hacyclic : ∀ name, ¬ TransGen scope.host.MetaCarries name name)
    (hsolves : scope.host.Solves facets) : Conduct scope :=
  { Conduct.ofHealthy scope h with
    Inv := fun r => r.Recalls facets
    Validated := fun name d => d = facets name
    Nests := TransGen scope.host.MetaCarries
    defaults_failed := fun _ _ _ _ => trivial
    free := fun _ _ _ => trivial
    announce := fun hr _ => hr.congr (Registry.course_validators.announceTemplate _ _)
    publish := fun hr _ _ _ _ =>
      ⟨hr.congr (Registry.course_validators.publishTemplate _ _ _ _ _), trivial⟩
    kept := fun _ _ => ⟨trivial, trivial⟩
    deny := fun hr _ _ => hr.congr (Registry.course_validators.denyTemplate _ _ _)
    denied := fun _ _ => trivial
    depend := fun _ _ hr => hr.congr (Registry.course_validators.recordDependent _ _ _)
    publishClass := fun _ hr _ _ => hr.congr (Registry.course_validators.publishClass _ _ _ _ _)
    publishGenerated := fun _ hr _ _ =>
      hr.congr (Registry.course_validators.publishGenerated _ _ _ _ _)
    publishNonGenerated := fun _ hr _ _ =>
      hr.congr (Registry.course_validators.publishNonGenerated _ _ _ _)
    -- A root, an annotation without a declaration as one, and any other are the cases of both the
    -- lookup and the recursion.
    validatedRoot := fun hroot => (Host.Facets.root hroot).unique (hsolves _)
    validatedPlain := by
      intro name decl hroot hfind hkind
      refine (Host.Facets.plain hroot fun decl' hdecl => ?_).unique (hsolves name)
      simpa [hfind.unique hdecl.finds, Option.filter_some] using hkind
    validatedUses := fun hroot hdecl hkind hfirst hfacets =>
      (Host.Facets.of_facetsFrom hroot hdecl hkind hacyclic hfirst hfacets).unique (hsolves _)
    validatedKept := fun hr hkept => hr hkept
    publishValidator := by
      intro r name decl d epoch hr _ hd other kept hkept
      rcases r.publishValidator_validators_get? _ _ _ _ hkept with hold | ⟨rfl, rfl⟩
      · exact hr hold
      · exact hd
    nests := fun hdecl hkind hmark => .single ⟨_, hdecl, hkind, _, hmark, rfl⟩
    nests_trans := .trans }

/-- Every question leaves an idle session idle, and its answers those of the solution. -/
theorem Scope.Visited.idle_and_recalls (h : scope.host.Healthy)
    (hacyclic : ∀ name, ¬ TransGen scope.host.MetaCarries name name)
    (hsolves : scope.host.Solves facets) {s : Session} (hs : scope.Visited s) :
    s.guards.Idle ∧ s.registry.Recalls facets :=
  hs.holds (C := recallingConduct h hacyclic hsolves) fun hkept => by cases hkept

theorem Lookup.exec_validationDescriptor (h : scope.host.Healthy)
    (hacyclic : ∀ name, ¬ TransGen scope.host.MetaCarries name name)
    (hsolves : scope.host.Solves facets) {s : Session} (hidle : s.guards.Idle)
    (hr : s.registry.Recalls facets) (name : String) :
    ∃ s', (validationDescriptor scope name).exec s = (.ok (facets name), s') := by
  obtain ⟨r, g⟩ := s
  obtain ⟨out, r', hexec, hresolved⟩ := Conduct.yields_validationDescriptor
    (C := recallingConduct h hacyclic hsolves) hidle.validating name hr
  -- The search succeeds; the conduct tells what it comes to.
  have hjudges : scope.host.Judges fun _ _ => True := fun _ _ _ _ => trivial
  have hverdicts : r.Verdicts fun _ _ => True := fun _ => trivial
  obtain ⟨_, _, hexec', d, rfl, _⟩ :=
    searches_validationDescriptor (fun n => h.findData_ok n) hjudges hidle.validating name hverdicts
  cases hexec.symm.trans hexec'
  cases hresolved.validated rfl
  exact ⟨_, hexec⟩

/-! ## Answers -/

/-- Without circular meta-annotations the recursion over the annotations on an annotation type has
exactly one solution. After any questions every kept answer about validation is that of the
solution, and so is every answer that is given. -/
theorem Request.validation_eq_solution (h : scope.host.Healthy)
    (hacyclic : ∀ name, ¬ TransGen scope.host.MetaCarries name name) :
    ∃ facets, scope.host.Solves facets ∧
      (∀ other, scope.host.Solves other → other = facets) ∧
      ∀ s, scope.Visited s → ∀ name,
        (∀ d, s.registry.validators.get? name = some d → d = facets name) ∧
        (∃ s', (Lookup.validationDescriptor scope name).exec s = (.ok (facets name), s')) ∧
        ∃ s', (validation scope name).exec s =
          (.ok (if (facets name).isValidation then some (facets name) else none), s') := by
  -- Ranks on the annotations make the recursion well-founded.
  obtain ⟨facets, hsolves⟩ := Scope.exists_solves (fun name => h.findData_ok name) hacyclic
  refine ⟨facets, hsolves, fun other hother => hother.unique hacyclic hsolves, ?_⟩
  intro s hs name
  obtain ⟨hidle, hr⟩ := hs.idle_and_recalls h hacyclic hsolves
  obtain ⟨s', hexec⟩ := Lookup.exec_validationDescriptor h hacyclic hsolves hidle hr name
  exact ⟨fun d hkept => hr hkept, ⟨s', hexec⟩, s', exec_validation hexec⟩

end

/-! ### A group of targets -/

/-- An annotation that validates numbers and one more type, another one that takes after it, and
one that leaves the targets to its usages. -/
def Program.numericChecks : Program :=
  .ofDeclarations [{ path := "src/a/Checks.java" }]
    [{ name := "Numbers", qualifiedName := some (targetGroupScope ++ "Numbers"), file := ⟨0⟩
       kind := .classType, implemented := [targetsAware] },
     { name := "Numeric", qualifiedName := some "a.Numeric", file := ⟨0⟩, kind := .annotationType
       annotations := [{ name := "a.Plain" },
         { name := ValidationDescriptor.validateRoot
           attrs := [⟨"targets", .array [.classLiteral (targetGroupScope ++ "Numbers"),
             .classLiteral "a.Amount"], none⟩] }] },
     { name := "Plain", qualifiedName := some "a.Plain", file := ⟨0⟩, kind := .annotationType },
     { name := "Positive", qualifiedName := some "a.Positive", file := ⟨0⟩, kind := .annotationType
       annotations := [{ name := "a.Numeric" }, { name := ValidationDescriptor.sanitizeRoot }] },
     { name := "Open", qualifiedName := some "a.Open", file := ⟨0⟩, kind := .annotationType
       annotations := [{ name := "a.Positive" }]
       methods := [{ name := "targets", returnType := .named "java.lang.Class" }] }]

theorem Program.consistent_numericChecks : numericChecks.Consistent :=
  .ofDeclarations (by decide) (by decide)

/-- A rank by which every annotation is used on higher ones only. -/
def Program.numericRank (name : String) : Nat :=
  if name = "a.Numeric" then 1 else if name = "a.Positive" then 2
  else if name = "a.Open" then 3 else 0

theorem Request.validation_eq_solution_numericChecks :
    let scope := Program.numericChecks.scope
    scope.host.Healthy ∧ (∀ name, ¬ TransGen scope.host.MetaCarries name name) ∧
      ∃ facets, scope.host.Solves facets ∧
        (∀ other, scope.host.Solves other → other = facets) ∧
        ∀ s, scope.Visited s → ∀ name,
          (∀ d, s.registry.validators.get? name = some d → d = facets name) ∧
          (∃ s', (Lookup.validationDescriptor scope name).exec s = (.ok (facets name), s')) ∧
          ∃ s', (validation scope name).exec s =
            (.ok (if (facets name).isValidation then some (facets name) else none), s') := by
  intro scope
  have hp := Program.consistent_numericChecks
  have hacyclic (name : String) : ¬ TransGen scope.host.MetaCarries name name := by
    intro hloop
    have hcarries : TransGen scope.host.Carries name name :=
      TransGen.mono (fun _ _ hmark => hmark.carries) _ _ hloop
    exact hp.not_circular Program.numericRank (by decide) name hcarries
  exact ⟨hp.healthy, hacyclic, validation_eq_solution hp.healthy hacyclic⟩

/-- The group is expanded and the other class kept; the targets are passed on, and then dropped. -/
example :
    let scope := Program.numericChecks.scope
    let s := (((Question.validation "a.Open").ask scope).exec ⟨{}, {}⟩).2
    (s.registry.validators.get? "a.Positive").map (·.targets) =
        some (some (numbersOf groupPrimitives ++ numbersOf groupWrappers ++ ["a.Amount"])) ∧
      s.registry.validators.get? "a.Open" =
        some { declaration := some "a.Open", validator := true } := by
  decide +kernel

end PrototypeLens
