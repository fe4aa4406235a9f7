import PrototypeLens.Proofs.Program.Checks
import PrototypeLens.Proofs.Session.Registration
import PrototypeLens.Proofs.Session.Requests
import PrototypeLens.Proofs.Template.Steps

/-!
# Answers are the declared ones

Where no template lies on a cycle of annotations, and the roots and the marker carry none, every
prototype that a session answers is the one that the declarations give, whatever was asked before.
The registry may hold anything that is read off the declarations; that it never holds anything else
is kept through every intermediate state of a discovery.

## Layers

- `Registry.Faithful`: known templates are templates, templates are told, defaults are settled, and
  kept prototypes are declared.
- `Scope.Resolves.firstUse` and `Scope.Resolves.prototypeOf`: going through the annotations one by
  one comes to what the first template among them gives.
- `faithfulUpkeep`: lookups keep a registry faithful and do not fail.

## Main results

- After any questions exactly one prototype is declared for a name, and it is what is answered.
- An instance with a template that derives from another one.
-/

namespace PrototypeLens

variable {scope : Scope}

/-! ## Faithful registries -/

/-- Everything that the registry tells about templates and prototypes is read off the host. -/
structure Registry.Faithful (scope : Scope) (r : Registry) : Prop where
  sound : r.Sound neverTemplates scope.host.Template
  exact : r.Exact scope.host
  settled : r.Settled scope []
  /-- Kept prototypes are declared. -/
  classes {name : String} {prototype : Option Descriptor} :
    r.classes.get? name = some prototype →
    ∃ decl, scope.host.Declares name decl ∧ scope.PrototypeOf scope.host.Template decl prototype

namespace Registry.Faithful

variable {r r' : Registry}

theorem fresh : ({} : Registry).Faithful scope where
  sound := .fresh (List.Subset.refl _)
  exact := .fresh
  settled := .fresh
  classes h := nomatch h

/-- What is said about prototypes may change as long as it is declared. -/
theorem congr (h : r.Faithful scope) (hsame : r.SameTemplates r')
    (hclasses : ∀ name prototype, r'.classes.get? name = some prototype →
      r.classes.get? name = some prototype ∨ ∃ decl, scope.host.Declares name decl ∧
        scope.PrototypeOf scope.host.Template decl prototype) : r'.Faithful scope where
  sound := h.sound.congr hsame
  exact := h.exact.congr hsame
  settled := h.settled.congr hsame
  classes hget := (hclasses _ _ hget).elim h.classes id

end Registry.Faithful

/-- What annotations come to is what the first template among them gives. -/
theorem Scope.Resolves.firstUse {isTemplate : String → Prop}
    {taken : String → Descriptor → Prop} {decl : Declaration} {uses : List AnnotationUse}
    {prototype : Option Descriptor}
    (h : scope.Resolves (fun name => ¬ isTemplate name) taken uses prototype)
    (htemplate : ∀ name defaults, taken name defaults → isTemplate name) :
    ∀ before, decl.annotations = before ++ uses → (∀ use ∈ before, ¬ isTemplate use.name) →
      prototype = none ∧ (∀ use ∈ decl.annotations, ¬ isTemplate use.name) ∨
      ∃ use defaults p, decl.FirstUse isTemplate use ∧ taken use.name defaults ∧
        defaults.takeUsage (Lookup.resolveEnricher scope) use = .ok p ∧ prototype = some p := by
  -- The annotations before `uses` are those that were passed over so far.
  induction h with
  | nil =>
    intro before happ hbefore
    rw [List.append_nil] at happ
    exact .inl ⟨rfl, happ ▸ hbefore⟩
  | @taken use uses defaults prototype htaken hok =>
    intro before happ hbefore
    have hfirst : decl.FirstUse isTemplate use :=
      ⟨before, uses, happ, htemplate _ _ htaken, hbefore⟩
    exact .inr ⟨use, defaults, prototype, hfirst, htaken, hok, rfl⟩
  -- One more annotation is passed over, and joins those before.
  | @passed use uses prototype hpassed _ ih =>
    intro before happ hbefore
    refine ih (before ++ [use]) (by simp [happ]) fun other hother => ?_
    rcases List.mem_append.1 hother with hother | hother
    · exact hbefore other hother
    · cases List.mem_singleton.1 hother
      exact hpassed

/-- What annotations come to by answers that are declared is the declared prototype. -/
theorem Scope.Resolves.prototypeOf {isTemplate : String → Prop} {decl : Declaration}
    {uses : List AnnotationUse} {prototype : Option Descriptor}
    (h : scope.Resolves (fun name => ¬ isTemplate name)
      (fun name defaults => isTemplate name ∧ scope.Defaults isTemplate name defaults) uses
      prototype) (before : List AnnotationUse) (happ : decl.annotations = before ++ uses)
    (hbefore : ∀ use ∈ before, ¬ isTemplate use.name) :
    scope.PrototypeOf isTemplate decl prototype := by
  rcases h.firstUse (fun _ _ htaken => htaken.1) before happ hbefore with
    ⟨rfl, hnone⟩ | ⟨use, defaults, p, hfirst, htaken, hok, rfl⟩
  · exact .none hnone
  · exact .some hfirst htaken.2 hok

/-! ## Upkeep -/

section

variable (h : scope.host.Healthy) (hwf : scope.host.WellFormed scope.host.Template)
  (hacyclic : scope.host.Acyclic) (hgrounded : scope.host.Grounded)

/-- Lookups keep a registry faithful and do not fail. -/
def faithfulUpkeep : Upkeep scope where
  Inv := Registry.Faithful scope
  Passed name := ¬ scope.host.Template name
  Taken _ name defaults :=
    scope.host.Template name ∧ scope.Defaults scope.host.Template name defaults
  Failed := False
  answer {r r' name out} hr hans := by
    obtain ⟨hsound, hfound, hok⟩ := hans.sound scope.host.closed_template hr.sound
    have hexact := hans.exact hacyclic hr.sound hr.exact
    cases out with
    | error e => exact absurd rfl (hok h hwf e)
    | ok found =>
      have hsettled := hans.settled hacyclic hgrounded hr.sound hr.exact hr.settled
      -- No step of a discovery publishes a prototype.
      have hfaithful : r'.Faithful scope := ⟨hsound, hexact, hsettled, fun hget =>
        hr.classes (Registry.classes_of_steps hans.steps hget)⟩
      obtain ⟨hverdict, _, hkept⟩ := hans.verdict
      refine ⟨hfaithful, fun hnone ht => ?_, fun defaults hsome => ?_, by simp⟩
      · -- A template is told by an exact registry, hence found.
        cases hnone
        exact absurd (hverdict.2 (hr.exact.tells hacyclic ht)) (by simp)
      · cases hsome
        exact ⟨hfound defaults rfl, hsettled.defaults_template hsound (hkept defaults rfl)⟩
  take hdecl huse htaken := Scope.takeUsage_ne_error h hwf hdecl huse htaken.1
  publishClass epoch hr hdecl hresolves := by
    refine hr.congr (Registry.sameTemplates_publishClass ..) fun name prototype hget => ?_
    -- A prototype is kept already or it is the one that was resolved, if it was not in time.
    rcases Registry.publishClass_classes_get? _ _ _ _ _ hget with hget | ⟨rfl, rfl, _⟩
    · exact .inl hget
    · exact .inr ⟨_, hdecl, hresolves.prototypeOf [] rfl (by simp)⟩
  publishGenerated _ _ hr _ := hr.congr (Registry.sameTemplates_publishGenerated ..)
    fun _ _ hget => .inl (by simpa using hget)
  publishNonGenerated _ hr _ := hr.congr (Registry.sameTemplates_publishNonGenerated ..)
    fun _ _ hget => .inl (by simpa using hget)
  publishValidator _ _ hr _ := hr.congr (Registry.sameTemplates_publishValidator ..)
    fun _ _ hget => .inl (by simpa using hget)
  recordDependent _ hr _ := hr.congr (Registry.sameTemplates_recordDependent ..)
    fun _ _ hget => .inl hget

end

/-! ## Prototypes -/

/-- After any questions, the prototype that is answered for a name is the declared one: none for
what is not declared or carries no template, else the defaults of the first template on the
declaration, changed by the attributes of its usage. -/
theorem Request.prototypeData_eq_declared (h : scope.host.Healthy)
    (hsource : scope.host.SourceOnly) (hwf : scope.host.WellFormed scope.host.Template)
    (hacyclic : scope.host.Acyclic) (hgrounded : scope.host.Grounded) {s : Session}
    (hs : scope.Reached s) (name : String) :
    ∃ prototype s', (Request.prototypeData scope name).exec s = (.ok prototype, s') ∧
      ∀ p, scope.Prototype scope.host.Template name p ↔ p = prototype := by
  have hsourced : scope.host.Sourced := h.sourced hsource
  obtain ⟨r, g⟩ := s
  obtain ⟨hcalm, hr⟩ := Upkeep.holds_of_reached (U := faithfulUpkeep h hwf hacyclic hgrounded)
    h hsourced .fresh hs
  obtain ⟨out, r', hexec, _, hfailed⟩ := Upkeep.yields_prototype? h hsourced hcalm name hr
  cases out with
  | error e => exact (hfailed e rfl).elim
  | ok prototype =>
    have hdeclared : scope.Prototype scope.host.Template name prototype := by
      -- It was kept, or nothing is declared by the name, or the declaration was registered now.
      rcases (Lookup.prototyped_of_exec h hcalm hexec).resolves h hsourced hr with
        hget | ⟨hfind, hnone⟩ | ⟨decl, _, hdecl, _, hresolves⟩
      · exact .inl (hr.classes hget)
      · exact .inr ⟨hfind.not_declares, hnone⟩
      · exact .inl ⟨decl, hdecl, hresolves.prototypeOf [] rfl (by simp)⟩
    refine ⟨prototype, ⟨r', g⟩, exec_contain_ok hexec, ?_⟩
    intro p
    constructor
    · intro hp
      exact hp.unique hdeclared
    · rintro rfl
      exact hdeclared

/-- An entity whose template derives from another one, with a strategy of its own. -/
def Program.derivedEntity : Program :=
  .ofDeclarations [{ path := "src/app/Model.java" }]
    [{ name := "CodePrototypeTemplate", qualifiedName := some templateMarker, file := ⟨0⟩
       kind := .annotationType, annotations := [{ name := "java.lang.annotation.Target" }] },
     { name := "Base", qualifiedName := some "app.Base", file := ⟨0⟩, kind := .annotationType
       annotations := [{ name := templateMarker }] },
     { name := "Plain", qualifiedName := some "app.Plain", file := ⟨0⟩, kind := .annotationType
       annotations := [{ name := "app.Base", attrs :=
         [⟨"strategy", .enumConstant "app.GenerationStrategy" "PLAIN", none⟩] }] },
     { name := "Order", qualifiedName := some "app.Order", file := ⟨0⟩, kind := .interfaceType
       annotations := [{ name := "app.Plain" }] }]

theorem Request.prototypeData_eq_declared_derivedEntity :
    let scope := Program.derivedEntity.scope
    scope.host.Healthy ∧ scope.host.SourceOnly ∧ scope.host.WellFormed scope.host.Template ∧
      scope.host.Acyclic ∧ scope.host.Grounded ∧ ∃ s, scope.Reached s ∧
      ∃ prototype s', (Request.prototypeData scope "app.Order").exec s = (.ok prototype, s') ∧
        ∀ p, scope.Prototype scope.host.Template "app.Order" p ↔ p = prototype := by
  intro scope
  have hp : Program.derivedEntity.Consistent := .ofDeclarations (by decide) (by decide)
  have hsource : scope.host.SourceOnly := hp.sourceOnly (by decide)
  have hwf : scope.host.WellFormed scope.host.Template := hp.wellFormed _ (by decide)
  -- Each annotation stands below those that it carries, the marker at the bottom.
  have hacyclic : scope.host.Acyclic := hp.acyclic
    (fun name => 4 - ["app.Order", "app.Plain", "app.Base", templateMarker].idxOf name) (by decide)
  have hgrounded : scope.host.Grounded := hp.grounded (by decide)
  have hstart : scope.Reached ⟨{}, {}⟩ := .start
  have hs := hstart.ask (.templateData "app.Plain") (hsource.inSource "app.Plain")
  exact ⟨hp.healthy, hsource, hwf, hacyclic, hgrounded, _, hs,
    prototypeData_eq_declared hp.healthy hsource hwf hacyclic hgrounded hs "app.Order"⟩

end PrototypeLens
