import PrototypeLens.Proofs.Session.Archives
import PrototypeLens.Proofs.Session.Classification
import PrototypeLens.Proofs.Session.Nesting
import PrototypeLens.Proofs.Session.Registration
import PrototypeLens.Proofs.Session.Resilience
import PrototypeLens.Proofs.Session.Retaining

/-!
# Asking twice

The second answer to a question is what the first one left in the registry, if it left it there. A
template may be lost again to others that are announced after it, and an annotation that was found
to be none is not denied if it is known as a template; only then does the second answer take a way
of its own.

## Layers

- `exec_template?_of_kept` and `exec_template?_of_denied`: what is left decides the second answer.
- `unchanged_or_denied_of_discoverStep`: a discovery that finds no template denies the name, unless
  it did nothing or the name is known as a template.
- `template?_eq_ok`: the ways in which a lookup succeeds.
- `exec_template?_again`, `kept_of_template?` and `exec_prototype?_again`: the second answer is the
  first one.

## Main results

- `templateData_repeats_of_sourced`: in sources an annotation is answered twice alike.
- `Question.reply_repeats_of_definite`: on a definite host every question is.
- `Scope.Repeats`: when the two answers are the same, part by part, which holds after any questions.
- A manifest with two templates that name the marker by its simple name, of which the first is
  answered to be none and then to be one.
-/

namespace PrototypeLens

/-! ## Templates -/

namespace Lookup

variable {scope : Scope} {name : String} {r : Registry} {g : Guards} {s s' : Session}

/-- The defaults that are kept are told. -/
theorem exec_template?_of_kept {defaults : Descriptor}
    (h : r.templates.get? name = some defaults) :
    (template? scope name).exec ⟨r, g⟩ = (.ok (some defaults), ⟨r, g⟩) := by
  rw [template?, SessionM.exec_bind_ok exec_cachedTemplate?, h]
  rfl

/-- What is denied is told to be none. -/
theorem exec_template?_of_denied (hkept : r.templates.get? name = none)
    (hdenied : name ∈ r.nonTemplates) :
    (template? scope name).exec ⟨r, g⟩ = (.ok none, ⟨r, g⟩) := by
  rw [template?, SessionM.exec_bind_ok exec_cachedTemplate?, hkept]
  dsimp only
  rw [isNonTemplate, SessionM.exec_bind_ok (exec_ask _), if_pos (by simpa using hdenied)]
  rfl

/-- A verdict that tells of no template denies the name. -/
theorem denied_of_settle {m : Lookup (Option Descriptor)} {decl : Declaration}
    (h : (m >>= settle name decl).exec s = (.ok none, s'))
    (hknown : name ∉ s'.registry.knownTemplates) : name ∈ s'.registry.nonTemplates := by
  obtain ⟨found, ⟨r, g⟩, _, hsettle⟩ := SessionM.exec_bind_eq_ok h
  cases found with
  | some defaults => cases hsettle
  | none =>
    cases hsettle
    -- The denial stands, as the name is not known as a template.
    exact r.mem_denyTemplate_self name (some decl.file) (by simpa using hknown)

/-- A discovery that finds no template either denies the name or leaves everything as it was. -/
theorem unchanged_or_denied_of_discoverStep {limit : Nat}
    (h : (discoverStep scope (discoverWithin scope limit) name).exec s = (.ok none, s'))
    (hknown : name ∉ s'.registry.knownTemplates) :
    s' = s ∨ name ∈ s'.registry.nonTemplates := by
  cases discovers_of_discoverStep ((discovering_retains scope).discoverWithin limit) h with
  | unchanged hsame => exact .inl hsame
  | denied hdenied =>
    rw [hdenied] at hknown ⊢
    exact .inr (s.registry.mem_denyTemplate_self name none (by simpa using hknown))
  | inspected _ _ h => exact .inr (denied_of_settle h hknown)

/-- A lookup that succeeds tells what is kept, or finds nothing and changes nothing, or has
discovered the annotation. -/
theorem template?_eq_ok {found : Option Descriptor}
    (h : (template? scope name).exec s = (.ok found, s')) :
    found = s.registry.templates.get? name ∧ s' = s ∨ found = none ∧ s' = s ∨
      ∃ limit g g', (discoverStep scope (discoverWithin scope limit) name).exec ⟨s.registry, g⟩ =
        (.ok found, ⟨s'.registry, g'⟩) := by
  obtain ⟨r, g⟩ := s
  rw [template?, SessionM.exec_bind_ok exec_cachedTemplate?] at h
  cases hget : r.templates.get? name with
  | some kept =>
    rw [hget] at h
    cases h
    exact .inl ⟨rfl, rfl⟩
  | none =>
    rw [hget] at h
    dsimp only at h
    rw [isNonTemplate, SessionM.exec_bind_ok (exec_ask _)] at h
    split at h
    · cases h
      exact .inr (.inl ⟨rfl, rfl⟩)
    · rw [isDiscovering, SessionM.exec_bind_ok (exec_askGuards _)] at h
      split at h
      · cases h
        exact .inr (.inl ⟨rfl, rfl⟩)
      · rw [discover, discoverWithin] at h
        obtain ⟨g', hstep⟩ := SessionM.exec_of_exec_within h
        exact .inr (.inr ⟨_, _, g', hstep⟩)

/-- Where no template is found, asking again finds none either, unless the name is known as one. -/
theorem exec_template?_again {r' : Registry}
    (h : (template? scope name).exec ⟨r, g⟩ = (.ok none, ⟨r', g⟩))
    (hkept : r'.templates.get? name = none) (hknown : name ∉ r'.knownTemplates) :
    (template? scope name).exec ⟨r', g⟩ = (.ok none, ⟨r', g⟩) := by
  -- What changed nothing is told again by the same run.
  obtain ⟨_, hsame⟩ | ⟨_, hsame⟩ | ⟨_, _, _, hstep⟩ := template?_eq_ok h
  · cases hsame
    exact h
  · cases hsame
    exact h
  · rcases unchanged_or_denied_of_discoverStep hstep hknown with hsame | hdenied
    · cases hsame
      exact h
    · exact exec_template?_of_denied hkept hdenied

/-- Where a template is found without a new one, it is kept. -/
theorem kept_of_template? (h : scope.host.Healthy) {defaults : Descriptor}
    (hexec : (template? scope name).exec s = (.ok (some defaults), s'))
    (hknown : s'.registry.knownTemplates ⊆ s.registry.knownTemplates) :
    s'.registry.templates.get? name = some defaults := by
  obtain ⟨hkept, rfl⟩ | ⟨hnone, _⟩ | ⟨limit, _, _, hstep⟩ := template?_eq_ok hexec
  · exact hkept.symm
  · cases hnone
  · -- It was discovered just now, and no template was announced after it.
    have hrecur := (discovering_retains scope).discoverWithin limit
    exact (kept_of_discoverStep hrecur h hstep hknown :)

end Lookup

/-! ## Prototypes -/

namespace Lookup

variable {scope : Scope} {name : String} {r r' : Registry} {g : Guards}
  {prototype : Option Descriptor}

/-- Where a prototype is found without a new template, asking again finds the same. -/
theorem exec_prototype?_again (h : scope.host.Healthy) (hidle : g.Idle)
    (hexec : (prototype? scope name).exec ⟨r, g⟩ = (.ok prototype, ⟨r', g⟩))
    (hknown : r'.knownTemplates ⊆ r.knownTemplates) :
    (prototype? scope name).exec ⟨r', g⟩ = (.ok prototype, ⟨r', g⟩) := by
  have hrun := hexec
  rw [prototype?, SessionM.exec_bind_ok (exec_ask _)] at hrun
  cases hclass : r.classes.get? name with
  | some kept =>
    rw [hclass] at hrun
    cases hrun
    exact hexec
  | none =>
    rw [hclass] at hrun
    dsimp only at hrun
    obtain ⟨found, hfind⟩ := h.find_ok name
    rw [SessionM.exec_bind_ok (exec_query_of_ok hfind)] at hrun
    cases found with
    | none =>
      cases hrun
      exact hexec
    | some id =>
      obtain ⟨decl, hid, hname⟩ := h.found hfind
      dsimp only at hrun
      rw [registerClass, registerWithin, SessionM.exec_bind_ok (exec_query_of_ok hid),
        hname] at hrun
      dsimp only at hrun
      rw [SessionM.exec_bind_ok (exec_ask _), hclass] at hrun
      dsimp only at hrun
      rw [SessionM.exec_bind_ok (exec_askGuards _), if_neg (by simp [hidle.registering])] at hrun
      -- Two changes of the guards surround the registration.
      obtain ⟨g₁, hnested⟩ := SessionM.exec_of_exec_within hrun
      obtain ⟨g₂, hstep⟩ := SessionM.exec_of_exec_within hnested
      have hkept : r'.classes.get? name = some prototype :=
        kept_of_registerStep (g := { g with
            registering := g.registering.add name, depth := g.depth + 1 })
          h (retains_registerWithin _) hidle.discovering hidle.defaulting ⟨id, hid, hname⟩
          hclass hstep hknown
      rw [prototype?, SessionM.exec_bind_ok (exec_ask _), hkept]
      rfl

end Lookup

/-! ## Sources -/

section

variable {scope : Scope} {s : Session} {name : String}

/-- Without archives an annotation is answered twice alike, also if it lies on a cycle. -/
theorem Request.templateData_repeats_of_sourced (h : scope.host.Healthy)
    (hsourced : scope.host.Sourced) (hwf : scope.host.WellFormed scope.host.Template)
    (hsource : scope.host.InSource name) (hs : scope.Reached s) :
    ∃ found s₁ s₂, (templateData scope name).exec s = (.ok found, s₁) ∧
      (templateData scope name).exec s₁ = (.ok found, s₂) := by
  obtain ⟨r, g⟩ := s
  obtain ⟨hcalm, hr⟩ := Upkeep.holds_of_reached (U := truthfulUpkeep scope) h hsourced .fresh hs
  have htells {r : Registry} (hr : r.Truthful scope.host) : ∃ found r',
      (templateData scope name).exec ⟨r, g⟩ = (.ok found, ⟨r', g⟩) ∧
        Lookup.Answers scope name r (.ok found) r' := by
    obtain ⟨out, r', hexec, hans⟩ := Lookup.yields_template? h hsourced hsource (r := r)
      hcalm.discovering hcalm.defaulting
    cases out with
    | error e => exact absurd rfl ((hans.sound scope.host.closed_template hr.sound).2.2 h hwf e)
    | ok found => exact ⟨found, r', exec_contain_ok hexec, hans⟩
  obtain ⟨found, r', hexec, hans⟩ := htells hr
  obtain ⟨hverdict, hquiet, hkept⟩ := hans.verdict
  cases found with
  | some defaults =>
    exact ⟨_, _, _, hexec, exec_contain_ok (Lookup.exec_template?_of_kept (hkept _ rfl))⟩
  | none =>
    -- What is denied on the way is attested by nothing.
    obtain ⟨again, r'', hexec', hans'⟩ := htells (hr.answer hans)
    have hagain : again.isSome ↔ (none : Option Descriptor).isSome := by
      rw [hans'.verdict.1, (hquiet rfl).tells_iff, hverdict]
    cases again with
    | some defaults => exact absurd (hagain.1 rfl) nofun
    | none => exact ⟨_, _, _, hexec, hexec'⟩

/-- On a definite host every lookup is replied to twice alike. -/
theorem Question.reply_repeats_of_definite (h : scope.host.Definite) (hs : scope.Reached s)
    {q : Question} (hq : q.IsLookup) :
    ((q.reply scope).exec ((q.ask scope).exec s).2).1 = ((q.reply scope).exec s).1 := by
  have hbefore : scope.Alike s s := .of_reached h hs
  have hsource : q.InSource scope.host := by
    cases q
    case templateData name => exact h.sourceOnly.inSource name
    all_goals trivial
  have hafter := Scope.Alike.of_reached h (hs.ask q hsource)
  obtain ⟨hguards, _⟩ := Conduct.exec_reply (C := .ofHealthy scope h.toHealthy) hq hbefore.idle
    trivial
  -- A question leaves the guards alone and the registry clear, so that the session is like the one
  -- before it.
  rw [← Question.exec_ask_session] at hguards
  have halike : scope.Alike s ((q.ask scope).exec s).2 :=
    ⟨hguards, hbefore.idle, hbefore.clear, hafter.clear⟩
  exact (halike.reply h q).1

end

/-! ## Answers -/

/-- When a question is answered twice alike. -/
structure Scope.Repeats (scope : Scope) (s : Session) (name : String) : Prop where
  /-- After a lookup of an annotation that left it as a template, or that found none and did not
  leave it known as one, the answer is what is left; so it is the same exactly if the lookup told
  that. -/
  template {found : Option Descriptor} {s' : Session} :
    (Lookup.template? scope name).exec s = (.ok found, s') →
    (s'.registry.templates.get? name ≠ none ∨
      found = none ∧ name ∉ s'.registry.knownTemplates) →
    (Request.templateData scope name).exec s' = (.ok (s'.registry.templates.get? name), s')
  /-- After a lookup of an annotation that told a template and announced no new one the answer is
  the same. -/
  unannounced {defaults : Descriptor} {s' : Session} :
    (Lookup.template? scope name).exec s = (.ok (some defaults), s') →
    s'.registry.knownTemplates ⊆ s.registry.knownTemplates →
    (Request.templateData scope name).exec s' = (.ok (some defaults), s')
  /-- After a lookup of a prototype that announced no template the answer is the same. -/
  prototype {found : Option Descriptor} {s' : Session} :
    (Lookup.prototype? scope name).exec s = (.ok found, s') →
    s'.registry.knownTemplates ⊆ s.registry.knownTemplates →
    (Request.prototypeData scope name).exec s' = (.ok found, s')
  /-- In sources an annotation is answered the same. -/
  sourced : scope.host.Sourced → scope.host.WellFormed scope.host.Template →
    scope.host.InSource name → scope.Reached s → ∃ found s₁ s₂,
      (Request.templateData scope name).exec s = (.ok found, s₁) ∧
        (Request.templateData scope name).exec s₁ = (.ok found, s₂)
  /-- Where manifests and declarations agree, an annotation is a template both times or not at
  all. -/
  concordant : scope.host.WellFormed scope.Discoverable → scope.Concordant → ∃ found again s₁ s₂,
    (Request.templateData scope name).exec s = (.ok found, s₁) ∧
      (Request.templateData scope name).exec s₁ = (.ok again, s₂) ∧
      (again.isSome ↔ found.isSome)
  /-- On a definite host every lookup is replied to alike. -/
  definite : scope.host.Definite → scope.Reached s → ∀ q : Question, q.IsLookup →
    ((q.reply scope).exec ((q.ask scope).exec s).2).1 = ((q.reply scope).exec s).1

/-- After any questions, what is asked twice is answered as follows. -/
theorem Request.answers_repeat {scope : Scope} (h : scope.host.Healthy) {s : Session}
    (hs : scope.Visited s) (name : String) : scope.Repeats s name where
  template {found s'} hexec hleft := by
    -- The lookup leaves the guards as they were, which the second request starts with.
    obtain ⟨r, g⟩ := s
    obtain ⟨_, r', hrun, _⟩ := Lookup.matches_template? (.refl scope) .any (g := g) name r
    cases hexec.symm.trans hrun
    refine exec_contain_ok ?_
    cases hkept : r'.templates.get? name with
    | some defaults => exact Lookup.exec_template?_of_kept hkept
    | none =>
      obtain ⟨rfl, hknown⟩ := hleft.resolve_left (not_not_intro hkept)
      exact Lookup.exec_template?_again hexec hkept hknown
  unannounced {_ s'} hexec hknown := by
    obtain ⟨r', g'⟩ := s'
    have hkept := Lookup.kept_of_template? h hexec hknown
    exact exec_contain_ok (Lookup.exec_template?_of_kept hkept)
  prototype {found s'} hexec hknown := by
    obtain ⟨r, g⟩ := s
    obtain ⟨_, r', hrun, _⟩ := Lookup.matches_prototype? (.refl scope) .any (g := g) name r
    cases hexec.symm.trans hrun
    exact exec_contain_ok (Lookup.exec_prototype?_again h (hs.idle h) hexec hknown)
  sourced hsourced hwf hsource hreached :=
    templateData_repeats_of_sourced h hsourced hwf hsource hreached
  concordant hwf hconcordant := by
    -- Both answers tell whether the annotation can be discovered.
    obtain ⟨found, s₁, hexec, hfound⟩ := templateData_discovers h hwf hconcordant hs name
    have hasked : (((Question.templateData name).ask scope).exec s).2 = s₁ := by
      rw [Question.ask, SessionM.exec_discard, hexec]
    obtain ⟨again, s₂, hexec', hagain⟩ := templateData_discovers h hwf hconcordant
      (hasked ▸ hs.ask (.templateData name)) name
    exact ⟨found, again, s₁, s₂, hexec, hexec', hagain.trans hfound.symm⟩
  definite hdefinite hreached _ := Question.reply_repeats_of_definite hdefinite hreached

/-! ### Templates with the simple name of the marker -/

/-- Two templates that a manifest lists and that name the marker by its simple name. -/
def Program.simplyMarked : Program :=
  (Program.ofDeclarations [{ path := "a/T.class", location := .archive "lib.jar" }]
    [{ name := "T", qualifiedName := some "a.T", file := ⟨0⟩, kind := .annotationType
       annotations := [{ name := "CodePrototypeTemplate" }] },
     { name := "U", qualifiedName := some "a.U", file := ⟨0⟩, kind := .annotationType
       annotations := [{ name := "CodePrototypeTemplate" }] }]
  ).withLibrary "template:a.T\ntemplate:a.U\n"

theorem Program.consistent_simplyMarked : simplyMarked.Consistent :=
  .withLibrary (.ofDeclarations (by decide) (by decide)) _

/-- The session after asking for the first of them. -/
def Program.afterSimplyMarked : Session :=
  (((Question.templateData "a.T").ask simplyMarked.scope).exec ⟨{}, {}⟩).2

theorem Request.answers_repeat_simplyMarked :
    let scope := Program.simplyMarked.scope
    scope.host.Healthy ∧ scope.Visited Program.afterSimplyMarked ∧
      scope.Repeats Program.afterSimplyMarked "a.T" := by
  intro scope
  have h : scope.host.Healthy := Program.consistent_simplyMarked.healthy
  have hs : scope.Visited Program.afterSimplyMarked := .ask (.templateData "a.T") .start
  exact ⟨h, hs, answers_repeat h hs "a.T"⟩

/-- The second one is registered after the first, and the annotations on that do not count as the
marker, so it is answered to be no template until both of them are known. -/
theorem Request.templateData_differs_simplyMarked :
    let scope := Program.simplyMarked.scope
    scope.host.Healthy ∧ scope.Visited ⟨{}, {}⟩ ∧
      ((templateData scope "a.T").exec ⟨{}, {}⟩).1.toOption.map Option.isSome = some false ∧
      ((templateData scope "a.T").exec Program.afterSimplyMarked).1.toOption.map Option.isSome =
        some true :=
  ⟨Program.consistent_simplyMarked.healthy, .start, by decide +kernel, by decide +kernel⟩

end PrototypeLens
