import PrototypeLens.Proofs.Registry.Coherence
import PrototypeLens.Proofs.Session.Congruence
import PrototypeLens.Proofs.Session.Resilience

/-!
# Registries stay coherent

The tables of a registry fit together after any lookups, however they ended, and after any
refreshes, whatever the program was at each time. Where no two declarations go by one name, no
declaration is kept both as generated and as not generated.

## Layers

- `Host.GoesBy` and `Host.Unambiguous`: a name has one declaration. A healthy host has this, and a
  host whose queries fail keeps it.
- `Registry.Follows`: the registry stays coherent, and no generated declaration is newly kept as one
  that is not. The second half is what `checkGenerated` relies on after it has registered the
  prototype.
- `Coheres`: a computation after which every coherent registry is followed by such a one, with a
  lemma for each lookup. `congruence_coheres` and `discovering_coheres` take it through the nested
  ones.

## Main results

- `coheres_checkGenerated` and `coheres_registerWithin`: the lookups that write both tables.
- `coheres_reply`: every question leaves a coherent registry coherent.
- `Reachable.coherent`, and what the tables have to do with each other in every registry that a
  workspace comes to.
-/

namespace PrototypeLens

/-! ## Names of declarations -/

namespace Host

variable {host : Host}

/-- The declaration has the qualified name, or it is what the name resolves to. -/
def GoesBy (host : Host) (name : String) (decl : Declaration) : Prop :=
  host.Declares name decl ∨ ∃ id, host.declaration id = .ok decl ∧ decl.qualifiedName = some name

/-- Qualified names are unique. -/
def Unambiguous (host : Host) : Prop :=
  ∀ name decl decl', host.GoesBy name decl → host.GoesBy name decl' → decl = decl'

/-- On a healthy host qualified names are unique. -/
theorem Healthy.unambiguous (h : host.Healthy) : host.Unambiguous := by
  have hdeclares {name : String} {decl : Declaration} (hname : host.GoesBy name decl) :
      host.Declares name decl :=
    -- A declaration that is read by its identifier has its name resolved to it on a healthy host.
    hname.elim id fun ⟨_, hid, hqualified⟩ => h.declares hid hqualified
  exact fun _ _ _ hname hname' => (hdeclares hname).unique (hdeclares hname')

/-- Qualified names stay unique where queries fail. -/
theorem Echoes.unambiguous {view : Host} (h : view.Echoes host) (hhost : host.Unambiguous) :
    view.Unambiguous := by
  have hnames {name : String} {decl : Declaration} (hname : view.GoesBy name decl) :
      host.GoesBy name decl := by
    -- What a query still answers is what the host says.
    rcases hname with ⟨id, hfind⟩ | ⟨id, hid, hqualified⟩
    · exact .inl ⟨id, h.findData name _ hfind⟩
    · exact .inr ⟨id, h.declaration id _ hid, hqualified⟩
  exact fun _ _ _ hname hname' => hhost _ _ _ (hnames hname) (hnames hname')

end Host

/-! ## What lookups keep -/

variable {scope : Scope} {unique : Prop}

/-- The registry is coherent, and no declaration that is generated is newly kept as one that is
not. -/
structure Registry.Follows (scope : Scope) (unique : Prop) (r r' : Registry) : Prop where
  coherent : r'.Coherent unique
  spared {name origin : String} {decl : Declaration} : unique → scope.host.GoesBy name decl →
    Lookup.originOf? scope.settings.generatedMarkers decl = some origin →
    name ∈ r'.nonGenerated → name ∈ r.nonGenerated

namespace Registry.Follows

variable {r r' r'' : Registry}

theorem refl (h : r.Coherent unique) : r.Follows scope unique r := ⟨h, fun _ _ _ hn => hn⟩

theorem trans (h : r.Follows scope unique r') (h' : r'.Follows scope unique r'') :
    r.Follows scope unique r'' :=
  ⟨h'.coherent, fun hu hdecl horigin hn =>
    h.spared hu hdecl horigin (h'.spared hu hdecl horigin hn)⟩

theorem of_spares (h : r'.Coherent unique) (hspares : r.Spares r') :
    r.Follows scope unique r' := by
  refine ⟨h, fun _ _ _ hn => ?_⟩
  -- The names that are kept as not generated are the old ones, or there are none.
  cases hspares with
  | kept _ _ _ hsame => rwa [hsame] at hn
  | dropped _ _ _ hsame =>
    rw [hsame] at hn
    cases hn

end Registry.Follows

/-- The computation leaves every coherent registry coherent, however it ends. -/
def SessionM.Coheres (scope : Scope) (unique : Prop) {ε α : Type} (m : SessionM ε α) : Prop :=
  ∀ s : Session, s.registry.Coherent unique →
    s.registry.Follows scope unique (m.exec s).2.registry

namespace SessionM.Coheres

variable {ε α β : Type} {m : SessionM ε α} {f : α → SessionM ε β}

/-- What leaves the registry alone leaves it coherent. -/
theorem of_silent (h : ∀ s, (m.exec s).2.registry = s.registry) : m.Coheres scope unique := by
  intro s hs
  rw [h]
  exact .refl hs

theorem pure (a : α) : (Pure.pure a : SessionM ε α).Coheres scope unique := of_silent fun _ => rfl

theorem bind (h : m.Coheres scope unique) (hf : ∀ a, (f a).Coheres scope unique) :
    (m >>= f).Coheres scope unique := by
  intro s hs
  have hm := h s hs
  rw [exec_bind]
  rcases hexec : m.exec s with ⟨out, s'⟩
  rw [hexec] at hm
  cases out with
  | error e => exact hm
  -- An error ends the computation where it is; otherwise the second one goes on from there.
  | ok a => exact hm.trans (hf a s' hm.coherent)

theorem map (h : m.Coheres scope unique) (f : α → β) : (f <$> m).Coheres scope unique := by
  rw [← bind_pure_comp]
  exact h.bind fun _ => .pure _

theorem discard (h : m.Coheres scope unique) : (discard m).Coheres scope unique := h.map _

theorem within (h : m.Coheres scope unique) (enter leave : Guards → Guards) :
    (SessionM.within enter leave m).Coheres scope unique :=
  fun s hs => h { s with guards := enter s.guards } hs

theorem contain {lookup : Lookup α} (h : lookup.Coheres scope unique) (nothing : α) :
    (Request.contain nothing lookup).Coheres scope unique := h

end SessionM.Coheres

namespace Lookup

open SessionM (Coheres)

variable {α : Type}

theorem coheres_query (result : Except QueryError α) : (query result).Coheres scope unique := by
  cases result <;> exact .of_silent fun _ => rfl

/-- What is done with an answer may rely on it. -/
theorem coheres_query_bind {β : Type} {result : Except QueryError α} {f : α → Lookup β}
    (hf : ∀ a, result = .ok a → (f a).Coheres scope unique) :
    (query result >>= f).Coheres scope unique := by
  cases result with
  | error e => exact .of_silent fun _ => rfl
  | ok a => exact hf a rfl

theorem coheres_ofExcept (result : Except LookupError α) :
    (ofExcept result).Coheres scope unique := by
  cases result <;> exact .of_silent fun _ => rfl

theorem coheres_ask (view : Registry → α) : (ask view).Coheres scope unique :=
  .of_silent fun _ => rfl

theorem coheres_askGuards (view : Guards → α) : (askGuards view).Coheres scope unique :=
  .of_silent fun _ => rfl

theorem coheres_tooDeep : (throw .tooDeep : Lookup α).Coheres scope unique :=
  .of_silent fun _ => rfl

theorem coheres_record {change : Registry → Registry} (h : ∀ r : Registry, r.Coherent unique →
    r.Follows scope unique (change r)) : (record change).Coheres scope unique :=
  fun s hs => h s.registry hs

/-! ## Templates and validation -/

/-- A template is published right after it was announced: computing its defaults changes nothing in
between. -/
theorem coheres_registerTemplate (name : String) (decl : Option Declaration) :
    (registerTemplate scope name decl).Coheres scope unique := by
  intro s hs
  have hannounced := hs.announce name
  have hspares := s.registry.spares_announceTemplate name
  rw [registerTemplate, SessionM.exec_bind_ok (exec_record _), SessionM.exec_bind_ok (exec_ask _),
    SessionM.exec_bind, templateDefaults, exec_defaultsWithin]
  -- If the defaults fail nothing is published, and the announcement alone is coherent.
  cases scope.defaultsIn _ _ _ name decl with
  | error e => exact .of_spares hannounced hspares
  | ok defaults =>
    have hknown := s.registry.mem_knownTemplates_announceTemplate name
    exact .of_spares (hannounced.publishTemplate hknown _ defaults)
      (hspares.trans (Registry.spares_publishTemplate ..))

theorem congruence_coheres (scope : Scope) (unique : Prop) :
    Congruence scope scope fun m _ => m.Coheres scope unique where
  names := rfl
  pure := .pure
  tooDeep := coheres_tooDeep
  bind := .bind
  within enter leave h := h.within enter leave
  ask := coheres_ask
  askGuards := coheres_askGuards
  declarationOf? _ := (coheres_query _).bind fun _ => .pure _
  takeUsage _ _ := coheres_ofExcept _
  takeDefaults _ _ _ := coheres_ofExcept _

theorem discovering_coheres (scope : Scope) (unique : Prop) :
    Congruence.Discovering scope scope fun m _ => m.Coheres scope unique where
  toCongruence := congruence_coheres scope unique
  settings := rfl
  archiveAt := rfl
  file _ := coheres_query _
  targetsOf _ := coheres_query _
  registerTemplate := coheres_registerTemplate
  denyTemplate name file :=
    coheres_record fun r hr => .of_spares (hr.deny name file) (r.spares_denyTemplate name file)
  recordDependent parent dependent :=
    coheres_record fun r hr => .of_spares (hr.recordDependent parent dependent)
      (r.spares_recordDependent parent dependent)
  publishValidator epoch name file descriptor :=
    coheres_record fun r hr => .of_spares (hr.publishValidator epoch name file descriptor)
      (r.spares_publishValidator epoch name file descriptor)

/-! ## Declarations -/

section Declarations

variable (hunique : unique → scope.host.Unambiguous)
include hunique

/-- Whether a declaration is generated is published only if it was not known before; and what was
registered in the meantime does not deny that it is. -/
theorem coheres_checkGenerated {register : DeclId → Lookup (Option Descriptor)}
    (hregister : ∀ id, (register id).Coheres scope unique) {name : String} {decl : Declaration}
    (hdecl : scope.host.GoesBy name decl) :
    (checkGenerated scope register name decl).Coheres scope unique := by
  -- An origin that is known already changes nothing; the other two cases publish one.
  intro s hs
  rw [checkGenerated, SessionM.exec_bind_ok (exec_ask _)]
  cases hknown : knownOrigin? s.registry name with
  | some origin => exact .refl hs
  | none =>
    obtain ⟨hgenerated, hnon⟩ := Registry.knownOrigin?_eq_none_iff.1 hknown
    dsimp only
    rw [SessionM.exec_bind_ok (exec_ask _)]
    cases horigin : originOf? scope.settings.generatedMarkers decl with
    | none =>
      have hfresh : unique → ¬ s.registry.generated.contains name = true :=
        fun _ => by simp [Table.contains, hgenerated]
      refine ⟨hs.publishNonGenerated _ _ hfresh, ?_⟩
      intro other origin decl' hu hdecl' horigin' hn
      -- The declaration is the one of its name, and has no origin.
      rw [SessionM.exec_bind_ok (exec_record _)] at hn
      rw [SessionM.exec_pure, Registry.publishNonGenerated_of_epoch] at hn
      rcases NameSet.mem_add.1 hn with rfl | hn
      · cases hunique hu _ _ _ hdecl hdecl'
        cases horigin.symm.trans horigin'
      · exact hn
    | some prototype =>
      have hpublish (s' : Session) (h : s.registry.Follows scope unique s'.registry) :
          s.registry.Follows scope unique
            ((record (·.publishGenerated s.registry.epoch name decl.file prototype) >>= fun _ =>
              Pure.pure (some prototype) : Lookup (Option String)).exec s').2.registry := by
        -- What was registered in the meantime has not denied the origin, as the declaration tells
        -- one.
        have hfresh (hu : unique) : name ∉ s'.registry.nonGenerated := fun hn =>
          hnon (h.spared hu hdecl horigin hn)
        refine h.trans ⟨h.coherent.publishGenerated _ _ _ hfresh, fun _ _ _ hn => ?_⟩
        rwa [SessionM.exec_bind_ok (exec_record _), SessionM.exec_pure,
          Registry.publishGenerated_nonGenerated] at hn
      dsimp only
      -- The prototype is registered first if it is declared.
      cases hfind : scope.host.find prototype with
      | error e => exact .refl hs
      | ok found =>
        rw [SessionM.exec_bind_ok (exec_query_of_ok rfl)]
        cases found with
        | none => exact hpublish s (.refl hs)
        | some id =>
          dsimp only
          rw [SessionM.exec_bind]
          have hs' := (hregister id).discard s hs
          rcases hexec : (discard (register id)).exec s with ⟨out, s'⟩
          rw [hexec] at hs'
          cases out with
          | error e => exact hs'
          | ok _ => exact hpublish s' hs'

theorem coheres_registerWithin (limit : Nat) (id : DeclId) :
    (registerWithin scope limit id).Coheres scope unique := by
  -- The induction is on the limit, which bounds registrations within each other.
  induction limit generalizing id with
  | zero => exact coheres_tooDeep
  | succ limit ih =>
    refine coheres_query_bind fun decl hid => ?_
    split
    · exact .pure _
    · rename_i name hname
      refine (coheres_ask _).bind fun kept => ?_
      cases kept with
      | some prototype => exact .pure _
      | none =>
        refine (coheres_askGuards _).bind fun registering => ?_
        split
        · exact .pure _
        · refine Coheres.within (.within ?_ _ _) _ _
          refine (coheres_ask _).bind fun epoch => ?_
          -- The prototype, its publication and the origin are the three steps.
          refine ((discovering_coheres scope unique).prototypeOfUses _).bind fun prototype => ?_
          refine (coheres_record fun r hr => ?_).bind fun _ => ?_
          · refine ⟨hr.publishClass epoch name decl.file prototype, fun _ _ _ hn => ?_⟩
            rwa [Registry.publishClass_nonGenerated] at hn
          · have hchecked := coheres_checkGenerated hunique ih (.inr ⟨id, hid, hname⟩)
            exact hchecked.discard.bind fun _ => .pure _

theorem coheres_registerClass (id : DeclId) : (registerClass scope id).Coheres scope unique :=
  coheres_registerWithin hunique _ id

theorem coheres_origin? (name : String) : (origin? scope name).Coheres scope unique := by
  refine (coheres_ask _).bind fun known => ?_
  cases known with
  | some origin => exact .pure _
  | none =>
    refine (coheres_ask _).bind fun registered => ?_
    split
    · exact .pure _
    · unfold declarationOf?
      rw [bind_assoc]
      refine coheres_query_bind fun entry hentry => ?_
      cases entry with
      | none => exact .pure _
      | some entry =>
        have hdecl : scope.host.GoesBy name entry.2 := .inl ⟨entry.1, hentry⟩
        exact coheres_checkGenerated hunique (coheres_registerClass hunique) hdecl

/-- Whatever is composed of lookups leaves registries coherent. -/
theorem compositional_coheres : Compositional scope (SessionM.Coheres scope unique) where
  pure := .pure
  throw _ := .of_silent fun _ => rfl
  query := coheres_query
  bind := .bind
  contain nothing h := h.contain nothing
  template? := (discovering_coheres scope unique).template?
  registerClass := coheres_registerClass hunique
  prototype? name := by
    refine (coheres_ask _).bind fun kept => ?_
    cases kept with
    | some prototype => exact .pure _
    | none =>
      refine (coheres_query _).bind fun found => ?_
      cases found with
      | none => exact .pure _
      | some id => exact coheres_registerClass hunique id
  origin? := coheres_origin? hunique
  validationDescriptor := (discovering_coheres scope unique).validationDescriptor

/-- Every question leaves a coherent registry coherent. -/
theorem coheres_reply (q : Question) : (q.reply scope).Coheres scope unique := by
  by_cases hq : q.IsLookup
  · exact (compositional_coheres hunique).reply q hq
  · -- The other questions do not touch the registry.
    cases q with
    | isRegistering => exact .of_silent fun _ => rfl
    | isAugmenting id => exact .of_silent fun _ => rfl
    | endAugmenting id => exact .of_silent fun _ => rfl
    | beginAugmenting id =>
      refine Coheres.map (.of_silent fun s => ?_) _
      show (ite _ _ _ : Except Cancelled Bool × Session).2.registry = _
      split <;> rfl
    | _ => exact absurd trivial hq

end Declarations

end Lookup

/-! ## Histories -/

/-- The registries of a workspace, after lookups, refreshes and closings in any order. The program
is any `fit` one at each time, so that it may be edited in between; its queries may fail, so that
any lookup may fail or be cancelled. -/
inductive Registry.Reachable (fit : Host → Prop) : Registry → Prop where
  | opened : Reachable fit {}
  | asked {r : Registry} (scope : Scope) (g : Guards) (q : Question) : fit scope.host →
      Reachable fit r → Reachable fit ((q.reply scope).exec ⟨r, g⟩).2.registry
  | refreshed {r : Registry} (host : Host) (file : FileId) : fit host →
      Reachable fit r → Reachable fit (r.refresh host file).2
  | closed {r : Registry} : Reachable fit r → Reachable fit r.close

namespace Registry.Reachable

variable {fit : Host → Prop} {r : Registry}

/-- Every registry that is reached is coherent. -/
theorem coherent (h : Reachable fit r) :
    r.Coherent (∀ host, fit host → host.Unambiguous) := by
  -- The induction is on the history; the host may be another one at each step.
  induction h with
  | opened => exact coherent_fresh _
  | asked scope g q hfit _ ih =>
    exact (Lookup.coheres_reply (fun hunique => hunique _ hfit) q ⟨_, g⟩ ih).coherent
  | refreshed host file _ _ ih => exact ih.refresh host file
  | closed _ _ => exact coherent_close _ _

/-- In every registry that is reached, whatever failed on the way: templates with defaults are known
as templates; what is known as a template is denied only if it is never one; whether a declaration
is generated is told in one way only, if qualified names have been unique; and whatever is kept
about a declaration is kept with the file that it was read from. -/
theorem representation (h : Reachable fit r) :
    (∀ name, r.templates.contains name = true → name ∈ r.knownTemplates) ∧
    (∀ name, name ∈ r.knownTemplates → name ∈ r.nonTemplates → name ∈ neverTemplates) ∧
    ((∀ host, fit host → host.Unambiguous) →
      ∀ name, r.generated.contains name = true → name ∉ r.nonGenerated) ∧
    (∀ name, r.classes.contains name = true ∨ r.generated.contains name = true ∨
      name ∈ r.nonGenerated → ∃ file, r.owners.get? name = some file) :=
  have hr := h.coherent
  ⟨fun _ => hr.known, fun _ => hr.denied, fun hunique _ => hr.exclusive hunique,
    fun _ hdescribes => Option.isSome_iff_exists.1 (hr.owned hdescribes)⟩

/-- A generated class is looked up while its prototype cannot be found, and again after the registry
was closed. -/
theorem representation_generatedFoo :
    let host := Program.generatedFoo.toHost
    let fit := fun current : Host => current.Echoes host
    ∃ r, Reachable fit r ∧ r.templates.contains codePrototype = true ∧
      codePrototype ∈ r.knownTemplates ∧ r.generated.contains "a.Foo" = true ∧
      "a.Foo" ∉ r.nonGenerated ∧ ∃ file, r.owners.get? "a.Foo" = some file := by
  intro host fit
  let view := (Program.generatedFoo.unready ["a.FooPrototype"]).toHost
  have hview : fit view := Program.consistent_generatedFoo.echoes_unready _
  have hhost : fit host := .refl host
  -- The failed question comes first, and the closing undoes what it has left.
  have hopened : Reachable fit {} := .opened
  have hfailed := hopened.asked ⟨view, {}⟩ {} (.prototypeOf "a.Foo") hview
  have htemplate := hfailed.closed.asked ⟨host, {}⟩ {} (.templateData codePrototype) hhost
  have hasked := htemplate.asked ⟨host, {}⟩ {} (.prototypeOf "a.Foo") hhost
  obtain ⟨r, hr, htemplates, hgenerated⟩ : ∃ r, Reachable fit r ∧
      r.templates.contains codePrototype = true ∧ r.generated.contains "a.Foo" = true :=
    ⟨_, hasked, by decide +kernel, by decide +kernel⟩
  obtain ⟨hknown, _, hexclusive, howned⟩ := representation hr
  have hunique := Program.consistent_generatedFoo.healthy.unambiguous
  exact ⟨r, hr, htemplates, hknown _ htemplates, hgenerated,
    hexclusive (fun _ hfit => hfit.unambiguous hunique) _ hgenerated,
    howned _ (.inr (.inl hgenerated))⟩

end Registry.Reachable

end PrototypeLens
