import PrototypeLens.Lookup.Request
import PrototypeLens.Proofs.Session.Upkeep

/-!
# What requests keep

Every request that a session answers keeps whatever lookups keep, and leaves its guards calm. So a
property of registries holds through all sessions once it holds at the start.

## Layers

- `keeps_facetsWithin` and the lemmas around it: resolving what an annotation validates keeps the
  property. The answers about classes come from `Session.Upkeep`.
- `keeps_siteFindings`: so does collecting the findings at a site.
- `exec_contain` and its relatives: what a request makes of the outcome of a lookup.
- `Question` and `Scope.Reached`: what can be asked, and the sessions that come of it.

## Main results

- `Upkeep.holds_ask`: every question keeps the property, one case for each question.
- `Upkeep.holds_of_reached`: what holds of the empty registry holds after any questions.
-/

namespace PrototypeLens

namespace Upkeep

variable {scope : Scope} {U : Upkeep scope} {g : Guards}

/-! ## Validation -/

theorem keeps_inheritedTargets (declaresTargets : Bool) (mark : AnnotationUse)
    (parent : ValidationDescriptor) :
    U.Keeps g (Lookup.inheritedTargets scope declaresTargets mark parent) := by
  unfold Lookup.inheritedTargets
  split
  · exact keeps_pure _
  · split
    · exact (keeps_query _).map
    · exact keeps_pure _

theorem keeps_facetsOfUses {facets : String → Lookup ValidationDescriptor}
    (hfacets : ∀ name, U.Keeps g (facets name)) {name : String} {decl : Declaration}
    (hdecl : scope.host.Declares name decl) (declaresTargets : Bool) (marks : List AnnotationUse) :
    U.Keeps g (Lookup.facetsOfUses scope facets name declaresTargets marks) := by
  -- The induction is on the annotations.
  induction marks with
  | nil => exact keeps_pure _
  | cons mark marks ih =>
    refine (keeps_askGuards _).bind fun validating => ?_
    split
    · exact ih
    · -- The dependent is recorded whatever the annotation turns out to validate.
      refine (hfacets mark.name).bind fun parent => ?_
      have hrecord : U.Keeps g (Lookup.record (·.recordDependent mark.name name)) := fun r hr =>
        ⟨_, _, Lookup.exec_record _, U.recordDependent mark.name hr hdecl⟩
      refine hrecord.bind fun _ => ?_
      split
      · exact (keeps_inheritedTargets _ _ _).bind fun _ => keeps_pure _
      · exact ih

theorem keeps_facetsStep (h : scope.host.Healthy) {facets : String → Lookup ValidationDescriptor}
    (hfacets : ∀ name, U.Keeps g (facets name)) (name : String) :
    U.Keeps g (Lookup.facetsStep scope facets name) := by
  obtain ⟨decl, hfind⟩ := h.finds name
  intro r hr
  -- Two queries are made before anything is done, of which the second one is answered.
  refine .after (Lookup.exec_ask _) (.after (Lookup.exec_declarationOf? hfind) ?_)
  have hpublish (result : ValidationDescriptor) : U.Keeps g (do
      Lookup.record (·.publishValidator r.epoch name (decl.map (·.file)) result)
      pure result) := by
    intro r' hr'
    refine .after (Lookup.exec_record _) ?_
    exact SessionM.yields_pure (U.publishValidator r.epoch result hr' hfind)
  -- An annotation that is not declared as such is published with nothing to validate.
  cases hkind : decl.filter (·.isAnnotationType) with
  | none => exact hpublish {} r hr
  | some decl' =>
    obtain ⟨rfl, _⟩ := Option.filter_eq_some_iff.1 hkind
    have hdecl : scope.host.Declares name decl' := Host.finds_some_iff.1 hfind
    exact (keeps_facetsOfUses hfacets hdecl _ _).bind hpublish r hr

/-- Resolving an annotation keeps the property, whatever is being resolved. -/
theorem keeps_facetsWithin (h : scope.host.Healthy) (limit : Nat) :
    ∀ {g : Guards} (name : String), U.Keeps g (Lookup.facetsWithin scope limit name) := by
  -- The name joins the guards, so the induction is over all of them.
  induction limit with
  | zero => exact fun _ => keeps_throw _
  | succ limit ih =>
    intro g name
    unfold Lookup.facetsWithin
    split
    · exact keeps_pure _
    · refine (keeps_ask _).bind fun kept => ?_
      cases kept with
      | some descriptor => exact keeps_pure _
      | none =>
        intro r hr
        refine .after (Lookup.exec_askGuards _) ?_
        by_cases hmet : name ∈ g.validating
        · rw [if_pos (by simpa using hmet)]
          exact SessionM.yields_pure hr
        · rw [if_neg (by simpa using hmet)]
          -- The name is taken off the guards again, to which it was added.
          refine .within (by simp [NameSet.remove_add hmet]) ?_
          exact keeps_facetsStep h (fun name' => ih name') name r hr

theorem keeps_validationDescriptor (h : scope.host.Healthy) (name : String) :
    U.Keeps g (Lookup.validationDescriptor scope name) :=
  keeps_facetsWithin h _ name

/-! ## Findings -/

theorem keeps_typeFindings (mark : AnnotationUse) (descriptor : ValidationDescriptor)
    (method : Method) : U.Keeps g (Lookup.typeFindings scope mark descriptor method) := by
  refine Keeps.bind ?_ fun targets => ?_
  · unfold Lookup.usageTargets
    split
    · exact (keeps_query _).map
    · exact keeps_pure _
  · dsimp only
    split
    · exact keeps_pure _
    · refine (keeps_query _).bind fun allowed => ?_
      split
      · exact keeps_pure _
      · exact keeps_pure _

section Requests

variable (h : scope.host.Healthy) (hs : scope.host.Sourced) (hcalm : g.Calm)
include h hs hcalm

theorem keeps_isInPrototype (decl : Declaration) :
    U.Keeps g (Lookup.isInPrototype scope decl) := by
  unfold Lookup.isInPrototype
  split
  · exact (keeps_prototype? h hs hcalm _).bind fun _ => keeps_pure _
  · exact keeps_pure _

theorem keeps_usageFindings (decl : Declaration) (target : SiteTarget) (mark : AnnotationUse)
    (descriptor : ValidationDescriptor) :
    U.Keeps g (Lookup.usageFindings scope decl target mark descriptor) := by
  refine (keeps_isInPrototype h hs hcalm decl).bind fun inPrototype => ?_
  dsimp only
  split
  · exact keeps_pure _
  · exact (keeps_typeFindings mark descriptor _).bind fun _ => keeps_pure _

theorem keeps_siteFindings (site : AnnotationSite) :
    U.Keeps g (Lookup.siteFindings scope site) := by
  refine (keeps_query _).bind fun decl => ?_
  split
  · exact keeps_pure _
  · refine (keeps_validationDescriptor h _).bind fun descriptor => ?_
    split
    · exact keeps_usageFindings h hs hcalm _ _ _ _
    · exact keeps_pure _

end Requests

end Upkeep

/-! ## Answers -/

namespace Request

variable {α : Type} {lookup : Lookup α} {nothing : α} {s s' : Session}

theorem exec_contain (nothing : α) (lookup : Lookup α) (s : Session) :
    (contain nothing lookup).exec s =
      (contained nothing (lookup.exec s).1, (lookup.exec s).2) := rfl

theorem exec_contain_ok {a : α} (h : lookup.exec s = (.ok a, s')) :
    (contain nothing lookup).exec s = (.ok a, s') := by
  rw [exec_contain, h, contained]

/-- Only a lookup that succeeds is answered by something. -/
theorem exec_of_contain_some {lookup : Lookup (Option α)} {a : α}
    (h : (contain none lookup).exec s = (.ok (some a), s')) :
    lookup.exec s = (.ok (some a), s') := by
  rw [exec_contain] at h
  rcases hexec : lookup.exec s with ⟨out, s₁⟩
  rw [hexec] at h
  obtain ⟨hout, rfl⟩ := Prod.mk.inj h
  cases out with
  | ok found =>
    cases hout
    rfl
  | error e =>
    -- A failure is answered by nothing or handed on, and neither is something.
    simp only [contained] at hout
    split at hout <;> cases hout

theorem exec_isPrototype (scope : Scope) (name : String) (s : Session) :
    (isPrototype scope name).exec s =
      (((prototypeData scope name).exec s).1.map Option.isSome,
        ((prototypeData scope name).exec s).2) := by
  rw [isPrototype, bind_pure_comp, SessionM.exec_map]

/-- A name that is answered to be a prototype has one. -/
theorem prototypeData_of_isPrototype {scope : Scope} {name : String}
    (h : (isPrototype scope name).exec s = (.ok true, s')) :
    ∃ prototype, (prototypeData scope name).exec s = (.ok (some prototype), s') := by
  rw [exec_isPrototype] at h
  rcases hexec : (prototypeData scope name).exec s with ⟨out, s₁⟩
  rw [hexec] at h
  obtain ⟨hout, rfl⟩ := Prod.mk.inj h
  match out, hout with
  | .ok (some prototype), _ => exact ⟨prototype, rfl⟩

/-- The session answers that an annotation is a template. -/
def FindsTemplate (scope : Scope) (s : Session) (name : String) : Prop :=
  ∃ defaults s', (templateData scope name).exec s = (.ok (some defaults), s')

/-- The session answers that a name is a prototype. -/
def FindsPrototype (scope : Scope) (s : Session) (name : String) : Prop :=
  ∃ s', (isPrototype scope name).exec s = (.ok true, s')

end Request

/-! ## Questions -/

/-- What a session can be asked. -/
inductive Question where
  | findDeclaration (name : String)
  | registerDeclaration (id : DeclId)
  | prototypeData (name : String)
  | prototypeDataOf (id : DeclId)
  | isPrototype (name : String)
  | isPrototypeDecl (id : DeclId)
  | templateData (name : String)
  | prototypeOf (name : String)
  | isGenerated (name : String)
  | isGeneratedDecl (id : DeclId)
  | prototypeClass (name : String)
  | prototypeClassOf (id : DeclId)
  | generatedNameFor (name : String) (nested : Bool)
  | generatedNameOf (name : String)
  | validation (name : String)
  | validationFindings (site : AnnotationSite)
  | isRegistering
  | beginAugmenting (id : DeclId)
  | endAugmenting (id : DeclId)
  | isAugmenting (id : DeclId)

namespace Question

/-- Asks a question, whatever the answer. -/
def ask (scope : Scope) : Question → Request Unit
  | findDeclaration name => discard (Request.findDeclaration scope name)
  | registerDeclaration id => Request.registerDeclaration scope id
  | prototypeData name => discard (Request.prototypeData scope name)
  | prototypeDataOf id => discard (Request.prototypeDataOf scope id)
  | isPrototype name => discard (Request.isPrototype scope name)
  | isPrototypeDecl id => discard (Request.isPrototypeDecl scope id)
  | templateData name => discard (Request.templateData scope name)
  | prototypeOf name => discard (Request.prototypeOf scope name)
  | isGenerated name => discard (Request.isGenerated scope name)
  | isGeneratedDecl id => discard (Request.isGeneratedDecl scope id)
  | prototypeClass name => discard (Request.prototypeClass scope name)
  | prototypeClassOf id => discard (Request.prototypeClassOf scope id)
  | generatedNameFor name nested => discard (Request.generatedNameFor scope name nested)
  | generatedNameOf name => discard (Request.generatedNameOf scope name)
  | validation name => discard (Request.validation scope name)
  | validationFindings site => discard (Request.validationFindings scope site)
  | isRegistering => discard Request.isRegistering
  | beginAugmenting id => discard (Request.beginAugmenting id)
  | endAugmenting id => Request.endAugmenting id
  | isAugmenting id => discard (Request.isAugmenting id)

/-- A question for a template is about an annotation in the sources. -/
def InSource (host : Host) : Question → Prop
  | templateData name => host.InSource name
  | _ => True

end Question

/-- The sessions after any questions, which may be asked in several sessions on one registry. -/
inductive Scope.Reached (scope : Scope) : Session → Prop where
  /-- The first session starts with an empty registry. -/
  | start : Reached scope ⟨{}, {}⟩
  | ask {s : Session} (q : Question) : Reached scope s → q.InSource scope.host →
      Reached scope ((q.ask scope).exec s).2
  /-- Another session is opened. -/
  | reopen {s : Session} : Reached scope s → Reached scope ⟨s.registry, {}⟩

namespace Upkeep

variable {scope : Scope} {U : Upkeep scope} {g : Guards} {α : Type}

theorem Keeps.contain {lookup : Lookup α} (hkeeps : U.Keeps g lookup) (nothing : α) :
    U.Keeps g (Request.contain nothing lookup) := by
  intro r hr
  obtain ⟨out, r', hexec, hr'⟩ := hkeeps r hr
  refine ⟨Request.contained nothing out, r', ?_, hr'⟩
  rw [Request.exec_contain, hexec]

/-- A session's guards are calm and its registry has the property. -/
def Holds (U : Upkeep scope) (s : Session) : Prop := s.guards.Calm ∧ U.Inv s.registry

theorem Keeps.holds {m : Request Unit} {s : Session} (hkeeps : U.Keeps s.guards m)
    (hs : U.Holds s) : U.Holds (m.exec s).2 := by
  obtain ⟨out, r', hexec, hr'⟩ := hkeeps s.registry hs.2
  rw [hexec]
  exact ⟨hs.1, hr'⟩

/-- Every question keeps the property. -/
theorem holds_ask (h : scope.host.Healthy) (hsourced : scope.host.Sourced) {s : Session}
    (hs : U.Holds s) (q : Question) (hq : q.InSource scope.host) :
    U.Holds ((q.ask scope).exec s).2 := by
  have hcalm : s.guards.Calm := hs.1
  -- Most questions are one lookup whose failures are contained.
  have hcontain {α : Type} {lookup : Lookup α} (hkeeps : U.Keeps s.guards lookup) (nothing : α) :
      U.Holds ((discard (Request.contain nothing lookup)).exec s).2 :=
    (hkeeps.contain nothing).discard.holds hs
  cases q with
  | findDeclaration name => exact hcontain (keeps_query _) _
  | registerDeclaration id =>
    exact ((keeps_registerClass h hsourced hcalm id).discard.contain _).holds hs
  | prototypeData name => exact hcontain (keeps_prototype? h hsourced hcalm name) _
  | prototypeDataOf id => exact hcontain (keeps_registerClass h hsourced hcalm id) _
  | isPrototype name =>
    exact ((((keeps_prototype? h hsourced hcalm name).contain _).bind
      fun _ => keeps_pure _).discard).holds hs
  | isPrototypeDecl id =>
    exact ((((keeps_registerClass h hsourced hcalm id).contain _).bind
      fun _ => keeps_pure _).discard).holds hs
  | templateData name => exact hcontain (keeps_template? h hsourced hcalm hq) _
  | prototypeOf name => exact hcontain (keeps_origin? h hsourced hcalm name) _
  | isGenerated name =>
    exact hcontain ((keeps_origin? h hsourced hcalm name).bind fun _ => keeps_pure _) _
  | isGeneratedDecl id =>
    exact hcontain ((keeps_declOriginWithin h hsourced hcalm _ id).bind fun _ => keeps_pure _) _
  | prototypeClass name =>
    exact hcontain ((keeps_origin? h hsourced hcalm name).bind
      fun origin => keeps_originDeclaration? h hsourced hcalm origin) _
  | prototypeClassOf id =>
    exact hcontain ((keeps_declOriginWithin h hsourced hcalm _ id).bind
      fun origin => keeps_originDeclaration? h hsourced hcalm origin) _
  | generatedNameFor name nested =>
    exact hcontain ((keeps_prototype? h hsourced hcalm name).bind fun _ => keeps_pure _) _
  | generatedNameOf name =>
    -- Two requests: the failure of the first one is contained before the second one is made.
    refine ((((keeps_query _).contain none).bind fun entry => ?_).discard).holds hs
    exact ((keeps_prototype? h hsourced hcalm name).bind fun _ => keeps_pure _).contain _
  | validation name =>
    exact hcontain ((keeps_validationDescriptor h name).bind fun _ => keeps_pure _) _
  | validationFindings site => exact hcontain (keeps_siteFindings h hsourced hcalm site) _
  | isRegistering => exact hs
  | beginAugmenting id =>
    rw [Question.ask, SessionM.exec_discard]
    simp only [SessionM.exec, Request.beginAugmenting]
    -- Augmenting a declaration marks a guard of its own.
    split
    · exact hs
    · exact ⟨⟨hcalm.discovering, hcalm.registering, hcalm.defaulting⟩, hs.2⟩
  | endAugmenting id => exact ⟨⟨hcalm.discovering, hcalm.registering, hcalm.defaulting⟩, hs.2⟩
  | isAugmenting id => exact hs

/-- What holds of the empty registry holds after any questions. -/
theorem holds_of_reached (h : scope.host.Healthy) (hsourced : scope.host.Sourced)
    (hstart : U.Inv {}) {s : Session} (hs : scope.Reached s) : U.Holds s := by
  -- The induction is on the questions; a new session has calm guards and the old registry.
  induction hs with
  | start => exact ⟨⟨rfl, rfl, rfl⟩, hstart⟩
  | ask q _ hq ih => exact holds_ask h hsourced ih q hq
  | reopen _ ih => exact ⟨⟨rfl, rfl, rfl⟩, ih.2⟩

end Upkeep

end PrototypeLens
