import PrototypeLens.Proofs.Session.Asking
import PrototypeLens.Proofs.Session.Nesting
import PrototypeLens.Proofs.Session.Resilience

/-!
# Lookups return

Every lookup is answered, whatever the registry holds, whichever annotations and generated
declarations lead back to themselves and whatever the manifests of archives list, as long as no
declaration stands around itself. What nests on the way is each time for another name. The lists of
the host, which bound the lookups, show in no reply.

## Layers

- `Lookup.enclosing`: the recursion over the declarations around a declaration, which is not
  guarded. `Lookup.Inside` keeps track of those that it has come through.
- `matches_enclosing`, `matches_declOriginWithin` and `returns_enclosing`: its computations match
  and return. The guarded recursions are in `Session.Nesting`.
- `matches_siteFindings` and the lemmas before it: what is composed of lookups matches.
- `Question.matches_reply`: so does the reply to every question that looks something up.

## Main results

- `Question.exec_reply_of_restates`: a reply does not depend on the lists that bound lookups.
- `Scope.Returning`: all lookups of a session return, each in terms of computations that return. It
  holds as soon as no declaration stands around itself.
- A program in which annotations and generated classes lead back to themselves.
-/

namespace PrototypeLens

open Relation (TransGen)
open SessionM (Matches)

theorem Scope.Restates.enclosedBy {scope scope' : Scope} (h : scope.Restates scope') :
    scope'.host.EnclosedBy = scope.host.EnclosedBy := by
  funext id outer
  simp only [Host.EnclosedBy, h.declaration]

namespace Lookup

variable {scope scope' : Scope} {K : Registry → Registry → Prop} {g : Guards}

/-! ## Enclosing declarations -/

/-- The recursion behind the origin of a declaration and those around it. -/
def enclosing (scope : Scope) : Recursion DeclId DeclId DeclId (Option String) where
  call compute := compute
  compute recur id := do
    let decl ← query (scope.host.declaration id)
    let outer ← match decl.parent with
      | some parent => recur parent
      | none => pure none
    match outer, decl.qualifiedName with
    | some origin, _ => pure (some origin)
    | none, some name => origin? scope name
    | none, none => pure none
  subject := id

/-- Different declarations that stand in one another, the outermost of them in the one that comes
next. -/
structure Inside (host : Host) (inner : List DeclId) (id : DeclId) : Prop where
  nodup : inner.Nodup
  declared : inner ⊆ host.ids
  enclosed {i : DeclId} : i ∈ inner → TransGen host.EnclosedBy i id

namespace Inside

variable {host : Host} {inner : List DeclId} {id : DeclId}

theorem nil (host : Host) (id : DeclId) : Inside host [] id :=
  ⟨.nil, List.nil_subset _, fun h => nomatch h⟩

theorem length_le (h : Inside host inner id) : inner.length ≤ host.ids.length :=
  h.nodup.length_le_of_subset h.declared

theorem fresh (h : Inside host inner id) (hacyclic : ∀ id, ¬ TransGen host.EnclosedBy id id) :
    id ∉ inner :=
  fun hmem => hacyclic id (h.enclosed hmem)

theorem cons (h : Inside host inner id) (hacyclic : ∀ id, ¬ TransGen host.EnclosedBy id id)
    {outer : DeclId} (houter : host.EnclosedBy id outer) : Inside host (id :: inner) outer where
  nodup := List.nodup_cons.2 ⟨h.fresh hacyclic, h.nodup⟩
  declared := by
    -- What stands in another declaration is one that the host has.
    obtain ⟨decl, hdecl, _⟩ := houter
    exact List.cons_subset.2 ⟨host.mem_ids hdecl, h.declared⟩
  enclosed hi := by
    rcases List.mem_cons.1 hi with rfl | hi
    · exact .single houter
    · exact (h.enclosed hi).tail houter

end Inside

section Enclosing

variable (h : scope.Restates scope') (hK : Registry.Course K)
include h hK

/-- What stands around a declaration is looked up first. -/
theorem matches_enclosing {recur recur' : DeclId → Lookup (Option String)} {id : DeclId}
    (hrecur : ∀ outer, scope.host.EnclosedBy id outer →
      Matches K g (recur outer) (recur' outer)) :
    Matches K g ((enclosing scope).compute recur id) ((enclosing scope').compute recur' id) := by
  dsimp only [enclosing]
  rw [h.declaration]
  refine hK.answered fun decl hdecl => ?_
  -- The own name is asked for only where nothing around it tells an origin.
  have hown (outer : Option String) : Matches K g
      (match outer, decl.qualifiedName with
        | some origin, _ => pure (some origin)
        | none, some name => origin? scope name
        | none, none => pure none)
      (match outer, decl.qualifiedName with
        | some origin, _ => pure (some origin)
        | none, some name => origin? scope' name
        | none, none => pure none) := by
    split
    · exact hK.pure _
    · exact matches_origin? h hK _
    · exact hK.pure _
  cases hparent : decl.parent with
  | some parent => exact hK.bind (hrecur parent ⟨decl, hdecl, hparent⟩) hown
  | none => exact hK.bind (hK.pure _) hown

variable (hacyclic : ∀ id, ¬ TransGen scope.host.EnclosedBy id id)
include hacyclic

theorem matches_declOriginWithin (limit : Nat) :
    ∀ (limit' : Nat) {inner : List DeclId} {id : DeclId}, Inside scope.host inner id →
      Inside scope'.host inner id → scope.host.ids.length < limit + inner.length →
      scope'.host.ids.length < limit' + inner.length →
      Matches K g (declOriginWithin scope limit id) (declOriginWithin scope' limit' id) := by
  -- The declarations of both hosts stand in each other in the same way.
  have hacyclic' : ∀ id, ¬ TransGen scope'.host.EnclosedBy id id := by
    rwa [h.enclosedBy]
  induction limit with
  | zero =>
    -- The declarations inside are different ones of the host's.
    intro limit' inner id hinside _ hlimit _
    have := hinside.length_le
    omega
  | succ limit ih =>
    intro limit' inner id hinside hinside' hlimit hlimit'
    -- The other limit is not used up either, for the same reason.
    have hpos : limit' ≠ 0 := by
      have := hinside'.length_le
      omega
    obtain ⟨limit', rfl⟩ := Nat.exists_eq_succ_of_ne_zero hpos
    refine matches_enclosing h hK fun outer houter => ?_
    have houter' : scope'.host.EnclosedBy id outer := by rwa [h.enclosedBy]
    refine ih limit' (hinside.cons hacyclic houter) (hinside'.cons hacyclic' houter') ?_ ?_ <;>
    · rw [List.length_cons]
      omega

theorem matches_declOrigin? (id : DeclId) :
    Matches K g (declOrigin? scope id) (declOrigin? scope' id) :=
  matches_declOriginWithin h hK hacyclic _ _ (.nil _ id) (.nil _ id) (Nat.lt_succ_self _)
    (Nat.lt_succ_self _)

end Enclosing

/-- Looking up what stands around a declaration returns. -/
theorem returns_enclosing (hacyclic : ∀ id, ¬ TransGen scope.host.EnclosedBy id id) (limit : Nat) :
    ∀ {inner : List DeclId} {id : DeclId}, Inside scope.host inner id →
      scope.host.ids.length < limit + inner.length → ∀ s,
      (enclosing scope).Returns inner id s ((declOriginWithin scope limit id).exec s) := by
  induction limit with
  | zero =>
    intro inner id hinside hlimit
    have := hinside.length_le
    omega
  | succ limit ih =>
    rintro inner id hinside hlimit ⟨r, g⟩
    have hself := matches_declOriginWithin (g := g) (.refl scope) .any hacyclic (limit + 1)
      (limit + 1) hinside hinside hlimit hlimit
    -- What returns one declaration further out may be nested here.
    refine .intro ((enclosing scope).Returns (id :: inner)) (hinside.fresh hacyclic)
      (hself.ne_tooDeep r) (fun h => h) fun run hrun => ?_
    refine (matches_enclosing (.refl scope) .any fun outer houter => ?_).exec_eq r
    have hnext := hinside.cons hacyclic houter
    have hlimit' : scope.host.ids.length < limit + (id :: inner).length := by
      rw [List.length_cons]
      omega
    refine (matches_declOriginWithin (.refl scope) .any hacyclic limit limit hnext hnext hlimit'
      hlimit').of_exec_eq fun r' => ?_
    exact hrun (ih hnext hlimit' _)

theorem answers_declOrigin? (hacyclic : ∀ id, ¬ TransGen scope.host.EnclosedBy id id)
    (s : Session) (id : DeclId) :
    (enclosing scope).Answers [] id s ((declOrigin? scope id).exec s) :=
  ⟨(matches_declOrigin? (.refl scope) .any hacyclic id).ne_tooDeep s.registry,
    (enclosing scope).Returns [], fun h => h, fun _ hrun =>
      hrun (returns_enclosing hacyclic _ (.nil _ id) (Nat.lt_succ_self _) s)⟩

/-! ## Findings -/

section Findings

variable (h : scope.Restates scope') (hK : Registry.Course K)
  (hpublish : ∀ r epoch name file d, K r (Registry.publishValidator r epoch name file d))
include h hK

theorem matches_originDeclaration? (origin : Option String) :
    Matches K g (originDeclaration? scope origin) (originDeclaration? scope' origin) := by
  cases origin with
  | none => exact hK.pure _
  | some prototype =>
    unfold originDeclaration?
    rw [h.find]
    refine hK.bind (hK.query _) fun found => ?_
    cases found with
    | none => exact hK.pure _
    | some id => exact hK.bind (hK.discard (matches_registerClass h hK id)) fun _ => hK.pure _

theorem matches_usageFindings (decl : Declaration) (target : SiteTarget) (mark : AnnotationUse)
    (descriptor : ValidationDescriptor) :
    Matches K g (usageFindings scope decl target mark descriptor)
      (usageFindings scope' decl target mark descriptor) := by
  have hprototype : Matches K g (isInPrototype scope decl) (isInPrototype scope' decl) := by
    unfold isInPrototype
    split
    · exact hK.bind (matches_prototype? h hK _) fun _ => hK.pure _
    · exact hK.pure _
  have htargets : Matches K g (usageTargets scope mark descriptor)
      (usageTargets scope' mark descriptor) := by
    unfold usageTargets
    split
    · rw [h.targetsOf]
      exact hK.map _ (hK.query _)
    · exact hK.pure _
  have htype (method : Method) : Matches K g (typeFindings scope mark descriptor method)
      (typeFindings scope' mark descriptor method) := by
    refine hK.bind htargets fun targets => ?_
    dsimp only
    split
    · exact hK.pure _
    · rw [h.isAllowed]
      refine hK.bind (hK.query _) fun allowed => ?_
      cases allowed
      · exact hK.pure _
      · exact hK.pure _
  refine hK.bind hprototype fun inPrototype => ?_
  dsimp only
  split
  · exact hK.pure _
  · exact hK.bind (htype _) fun _ => hK.pure _

include hpublish

theorem matches_siteFindings (site : AnnotationSite) :
    Matches K g (siteFindings scope site) (siteFindings scope' site) := by
  unfold siteFindings
  rw [h.declaration]
  refine hK.bind (hK.query _) fun decl => ?_
  cases site.resolve? decl with
  | none => exact hK.pure _
  | some mark =>
    refine hK.bind (matches_validationDescriptor h hK hpublish mark.name) fun descriptor => ?_
    split
    · exact matches_usageFindings h hK decl site.target mark descriptor
    · exact hK.pure _

end Findings

end Lookup

/-! ## Replies -/

namespace Question

variable {scope scope' : Scope} {K : Registry → Registry → Prop} {g : Guards}
  (h : scope.Restates scope') (hK : Registry.Course K)
  (hpublish : ∀ r epoch name file d, K r (Registry.publishValidator r epoch name file d))
  (hacyclic : ∀ id, ¬ TransGen scope.host.EnclosedBy id id)
include h hK hpublish hacyclic

open Lookup in
theorem matches_reply (q : Question) (hq : q.IsLookup) :
    Matches K g (q.reply scope) (q.reply scope') := by
  -- Most replies are one lookup, whose failures are contained.
  have hprototype (name : String) : Matches K g (prototype? scope name) (prototype? scope' name) :=
    matches_prototype? h hK name
  have horigin (name : String) : Matches K g (origin? scope name) (origin? scope' name) :=
    matches_origin? h hK name
  have hdeclaration (id : DeclId) : Matches K g (declOrigin? scope id) (declOrigin? scope' id) :=
    matches_declOrigin? h hK hacyclic id
  have hregister (id : DeclId) : Matches K g (registerClass scope id) (registerClass scope' id) :=
    matches_registerClass h hK id
  cases q with
  | findDeclaration name =>
    rw [reply, reply, Request.findDeclaration, Request.findDeclaration, h.find]
    exact hK.map _ (.contain _ (hK.query _))
  | registerDeclaration id => exact hK.map _ (.contain _ (hK.discard (hregister id)))
  | prototypeData name => exact hK.map _ (.contain _ (hprototype name))
  | prototypeDataOf id => exact hK.map _ (.contain _ (hregister id))
  | isPrototype name =>
    exact hK.map _ (hK.bind (.contain _ (hprototype name)) fun _ => hK.pure _)
  | isPrototypeDecl id =>
    exact hK.map _ (hK.bind (.contain _ (hregister id)) fun _ => hK.pure _)
  | templateData name => exact hK.map _ (.contain _ (matches_template? h hK name))
  | prototypeOf name => exact hK.map _ (.contain _ (horigin name))
  | isGenerated name =>
    exact hK.map _ (.contain _ (hK.bind (horigin name) fun _ => hK.pure _))
  | isGeneratedDecl id =>
    exact hK.map _ (.contain _ (hK.bind (hdeclaration id) fun _ => hK.pure _))
  | prototypeClass name =>
    exact hK.map _ (.contain _ (hK.bind (horigin name) (matches_originDeclaration? h hK)))
  | prototypeClassOf id =>
    exact hK.map _ (.contain _ (hK.bind (hdeclaration id) (matches_originDeclaration? h hK)))
  | generatedNameFor name nested =>
    exact hK.map _ (.contain _ (hK.bind (hprototype name) fun _ => hK.pure _))
  | generatedNameOf name =>
    rw [reply, reply, Request.generatedNameOf, Request.generatedNameOf, h.findData]
    -- Here a query is contained on its own, and a lookup follows.
    refine hK.map _ (hK.bind (.contain none (hK.query _)) fun entry => ?_)
    exact .contain _ (hK.bind (hprototype name) fun _ => hK.pure _)
  | validation name =>
    refine hK.map _ (.contain _ (hK.bind ?_ fun _ => hK.pure _))
    exact matches_validationDescriptor h hK hpublish name
  | validationFindings site =>
    exact hK.map _ (.contain _ (matches_siteFindings h hK hpublish site))
  | isRegistering => exact hq.elim
  | beginAugmenting id => exact hq.elim
  | endAugmenting id => exact hq.elim
  | isAugmenting id => exact hq.elim

omit hK hpublish in
/-- A reply does not depend on the lists that bound lookups. -/
theorem exec_reply_of_restates (q : Question) (s : Session) :
    (q.reply scope').exec s = (q.reply scope).exec s := by
  by_cases hq : q.IsLookup
  · -- A question that looks something up matches itself; any other is the same on both.
    exact ((matches_reply (g := s.guards) h .any (fun _ _ _ _ _ => trivial) hacyclic q
      hq).exec_eq s.registry).symm
  · cases q with
    | isRegistering => rfl
    | beginAugmenting id => rfl
    | endAugmenting id => rfl
    | isAugmenting id => rfl
    | _ => exact absurd trivial hq

end Question

/-! ## Termination -/

/-- The lookups of a session return. Each is told apart into computations that return, nested for
subjects that are different from each other and from those that are under way in the session; and no
reply depends on the lists that bound lookups. -/
structure Scope.Returning (scope : Scope) (s : Session) : Prop where
  discover {name : String} : name ∉ s.guards.discovering →
    (Lookup.discovering scope).Answers s.guards.discovering name s
      ((Lookup.discover scope name).exec s)
  templateDefaults (name : String) (decl : Option Declaration) :
    (Lookup.defaulting scope).Answers s.guards.defaulting (name, decl) s
      ((Lookup.templateDefaults scope name decl).exec s)
  registerClass (id : DeclId) :
    (Lookup.registering scope).Answers s.guards.registering id s
      ((Lookup.registerClass scope id).exec s)
  validationDescriptor (name : String) :
    (Lookup.validating scope).Answers s.guards.validating name s
      ((Lookup.validationDescriptor scope name).exec s)
  declOrigin? (id : DeclId) :
    (Lookup.enclosing scope).Answers [] id s ((Lookup.declOrigin? scope id).exec s)
  reply {scope' : Scope} : scope.Restates scope' → ∀ q : Question,
    (q.reply scope').exec s = (q.reply scope).exec s

/-- If no declaration stands around itself, the lookups of every session return. -/
theorem Scope.returning_of_acyclic {scope : Scope}
    (hacyclic : ∀ id, ¬ TransGen scope.host.EnclosedBy id id) (s : Session) :
    scope.Returning s where
  discover hfresh := Lookup.answers_discover scope s hfresh
  templateDefaults := Lookup.answers_templateDefaults scope s
  registerClass := Lookup.answers_registerClass scope s
  validationDescriptor := Lookup.answers_validationDescriptor scope s
  declOrigin? := Lookup.answers_declOrigin? hacyclic s
  reply h q := q.exec_reply_of_restates h hacyclic s

/-- Two annotations on each other, and two classes that claim to be generated from each other, one
of them with a class inside. -/
def Program.circular : Program :=
  .ofDeclarations [{ path := "src/a/Model.java" }]
    [{ name := "A", qualifiedName := some "a.A", file := ⟨0⟩, kind := .annotationType
       annotations := [{ name := "a.B" }] },
     { name := "B", qualifiedName := some "a.B", file := ⟨0⟩, kind := .annotationType
       annotations := [{ name := "a.A" }] },
     { name := "F", qualifiedName := some "a.F", file := ⟨0⟩, kind := .classType
       annotations := [generatedFrom "a.G", { name := "a.A" }] },
     { name := "G", qualifiedName := some "a.G", file := ⟨0⟩, kind := .classType
       annotations := [generatedFrom "a.F"] },
     { name := "I", qualifiedName := some "a.F.I", file := ⟨0⟩, kind := .classType
       parent := some ⟨2⟩ }]

theorem Program.consistent_circular : circular.Consistent := .ofDeclarations (by decide) (by decide)

theorem Scope.returning_circular :
    let host := Program.circular.toHost
    (∀ id, ¬ TransGen host.EnclosedBy id id) ∧ TransGen host.Carries "a.A" "a.A" ∧
      host.EnclosedBy ⟨4⟩ ⟨2⟩ ∧ Scope.Returning ⟨host, {}⟩ ⟨{}, {}⟩ := by
  intro host
  have hp := Program.consistent_circular
  have hacyclic := (hp.orderly (hp.wellFormed _ (by decide)) (by decide)).acyclic
  have hcarries {own mark : String} (id : DeclId) (decl : Declaration)
      (hid : Program.circular.declarations.get? id = some decl)
      (hown : decl.qualifiedName = some own) (use : AnnotationUse) (huse : use ∈ decl.annotations)
      (hmark : use.name = mark) : host.Carries own mark :=
    ⟨decl, hp.declares_iff.2 ⟨id, hid, hown⟩, use, huse, hmark⟩
  have hAB : host.Carries "a.A" "a.B" :=
    hcarries ⟨0⟩ _ rfl rfl ⟨"a.B", [], none⟩ List.mem_cons_self rfl
  have hBA : host.Carries "a.B" "a.A" :=
    hcarries ⟨1⟩ _ rfl rfl ⟨"a.A", [], none⟩ List.mem_cons_self rfl
  exact ⟨hacyclic, .tail (.single hAB) hBA, ⟨_, rfl, rfl⟩, Scope.returning_of_acyclic hacyclic _⟩

end PrototypeLens
