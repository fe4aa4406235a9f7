import PrototypeLens.Augment.Basic
import PrototypeLens.Proofs.Cancellation.Relay
import PrototypeLens.Proofs.Session.Asking
import PrototypeLens.Proofs.Session.Congruence

/-!
# Lookups relay cancellation

Every lookup, and every question that a session is asked, relays the cancellation of the host's
queries: it does not take a cancelled query for one that tells nothing.

## Layers

- Descriptors: taking attributes relays what resolving the enrichers does.
- `Host.RelaysTo.congruence` and `Host.RelaysTo.discovering`: relaying is a congruence of lookups,
  so that templates and validation follow from the general argument.
- Declarations, origins and findings, one lemma for each lookup, in the shape of its code.

## Main results

- `Host.RelaysTo.registerClass`, `Host.RelaysTo.origin?`, `Host.RelaysTo.declOrigin?` and
  `Host.RelaysTo.siteFindings`.
- `Host.RelaysTo.reply`: every question relays cancellation.
-/

namespace PrototypeLens

open Cancellable (IsCancelled)

/-! ## Descriptors -/

namespace Descriptor

variable {resolve resolve' : String → Except QueryError (Option Enricher)} {cause : Prop}
  (h : ∀ name, Relays cause (resolve name) (resolve' name))
include h

theorem relays_setEnrichers (value : AttrValue) (set : List Enricher → Descriptor) :
    Relays (γ := Except LookupError Descriptor) cause
    (match resolveEnrichers resolve value with
      | .ok enrichers => .ok (set enrichers)
      | .error e => .error (.query e))
    (match resolveEnrichers resolve' value with
      | .ok enrichers => .ok (set enrichers)
      | .error e => .error (.query e)) := by
  -- Only the failures of resolving are translated, and a cancellation stays one.
  have hresolved :
      Relays cause (resolveEnrichers resolve value) (resolveEnrichers resolve' value) :=
    (Relays.mapM h value.classes).map _
  refine hresolved.after (δ := Except LookupError Descriptor) (f := fun x => match x with
    | .ok enrichers => .ok (set enrichers)
    | .error e => .error (.query e)) fun z => ?_
  cases z with
  | ok enrichers => exact Iff.rfl
  | error e => exact LookupError.isCancelled_query

theorem relays_takeAttr (origin : AttrOrigin) (usage : String) (d : Descriptor) (name : String)
    (value : AttrValue) : Relays cause (takeAttr resolve origin usage d name value)
      (takeAttr resolve' origin usage d name value) := by
  -- A strategy is read without the host. It can be refused, but not cancelled.
  unfold takeAttr
  split
  · split
    · exact .ok _
    · exact .same rfl fun hc => by cases hc
  · exact relays_setEnrichers h value fun enrichers => { d with enrichers }
  · exact relays_setEnrichers h value fun inheritedEnrichers => { d with inheritedEnrichers }
  · exact .ok _

theorem relays_takeUsage (d : Descriptor) (mark : AnnotationUse) :
    Relays cause (d.takeUsage resolve mark) (d.takeUsage resolve' mark) :=
  Relays.foldlM (fun d _ => relays_takeAttr h _ _ d _ _) _ _

theorem relays_takeDefaults (d : Descriptor) (template : String) (methods : List Method) :
    Relays cause (d.takeDefaults resolve template methods)
      (d.takeDefaults resolve' template methods) := by
  refine Relays.foldlM (fun d method => ?_) _ _
  split
  · exact relays_takeAttr h _ _ d _ _
  · exact .ok _

end Descriptor

namespace Host.RelaysTo

variable {host host' : Host} {settings : DiscoverySettings} {cause : Prop}
  (h : host.RelaysTo host' cause)
include h

theorem resolveEnricher (name : String) :
    Relays cause (Lookup.resolveEnricher ⟨host, settings⟩ name)
      (Lookup.resolveEnricher ⟨host', settings⟩ name) :=
  (h.findData name).map _

/-! ## Templates and validation -/

theorem congruence : Congruence ⟨host, settings⟩ ⟨host', settings⟩ (RelaysRun cause) where
  names := h.names
  pure := .pure
  tooDeep := Lookup.relaysRun_tooDeep
  bind := .bind
  within enter leave hm := hm.within enter leave
  ask := Lookup.relaysRun_ask
  askGuards := Lookup.relaysRun_askGuards
  declarationOf? name := (Lookup.relaysRun_query (h.findData name)).bind fun _ => .pure _
  takeUsage d mark :=
    Lookup.relaysRun_ofExcept (Descriptor.relays_takeUsage h.resolveEnricher d mark)
  takeDefaults d name methods :=
    Lookup.relaysRun_ofExcept (Descriptor.relays_takeDefaults h.resolveEnricher d name methods)

theorem discovering :
    Congruence.Discovering ⟨host, settings⟩ ⟨host', settings⟩ (RelaysRun cause) where
  toCongruence := h.congruence
  settings := rfl
  archiveAt := h.archiveAt
  file id := Lookup.relaysRun_query (h.file id)
  targetsOf value :=
    Lookup.relaysRun_query ((Relays.mapM (fun name => (h.findData name).map _) _).map _)
  registerTemplate name decl := by
    -- The defaults are the only part of a registration that asks the host.
    refine (Lookup.relaysRun_record _).bind fun _ => (Lookup.relaysRun_ask _).bind fun epoch => ?_
    refine (h.congruence.templateDefaults name decl).bind fun defaults => ?_
    exact (Lookup.relaysRun_record _).bind fun _ => .pure _
  denyTemplate name file := Lookup.relaysRun_record _
  recordDependent parent dependent := Lookup.relaysRun_record _
  publishValidator epoch name file descriptor := Lookup.relaysRun_record _

/-! ## Declarations -/

theorem checkGenerated {register register' : DeclId → Lookup (Option Descriptor)}
    (hregister : ∀ id, RelaysRun cause (register id) (register' id)) (name : String)
    (decl : Declaration) :
    RelaysRun cause (Lookup.checkGenerated ⟨host, settings⟩ register name decl)
      (Lookup.checkGenerated ⟨host', settings⟩ register' name decl) := by
  -- Both runs read the same registry, so what it knows settles both alike.
  refine (Lookup.relaysRun_ask _).bind fun known => ?_
  cases known with
  | some origin => exact .pure _
  | none =>
    refine (Lookup.relaysRun_ask _).bind fun epoch => ?_
    cases Lookup.originOf? settings.generatedMarkers decl with
    | none => exact (Lookup.relaysRun_record _).bind fun _ => .pure _
    | some prototype =>
      refine (Lookup.relaysRun_query (h.find prototype)).bind fun found => ?_
      cases found with
      | none => exact (Lookup.relaysRun_record _).bind fun _ => .pure _
      | some id =>
        refine ((hregister id).map _).bind fun _ => ?_
        exact (Lookup.relaysRun_record _).bind fun _ => .pure _

theorem registerWithin (limit : Nat) (id : DeclId) :
    RelaysRun cause (Lookup.registerWithin ⟨host, settings⟩ limit id)
      (Lookup.registerWithin ⟨host', settings⟩ limit id) := by
  -- The induction is on the limit; the nested registration is that of the prototype that the
  -- declaration names.
  induction limit generalizing id with
  | zero => exact Lookup.relaysRun_tooDeep
  | succ limit ih =>
    refine (Lookup.relaysRun_query (h.declaration id)).bind fun decl => ?_
    split
    · exact .pure _
    · rename_i name _
      refine (Lookup.relaysRun_ask _).bind fun kept => ?_
      cases kept with
      | some prototype => exact .pure _
      | none =>
        -- A registration that is under way is noted in the guards, which both runs share.
        refine (Lookup.relaysRun_askGuards _).bind fun registering => ?_
        split
        · exact .pure _
        · refine RelaysRun.within (.nested ?_) _ _
          refine (Lookup.relaysRun_ask _).bind fun epoch => ?_
          refine (h.discovering.prototypeOfUses decl.annotations).bind fun prototype => ?_
          refine (Lookup.relaysRun_record _).bind fun _ => ?_
          exact ((h.checkGenerated ih name decl).map _).bind fun _ => .pure _

theorem registerClass (id : DeclId) :
    RelaysRun cause (Lookup.registerClass ⟨host, settings⟩ id)
      (Lookup.registerClass ⟨host', settings⟩ id) := by
  rw [Lookup.registerClass, Lookup.registerClass, h.names]
  exact h.registerWithin _ id

theorem prototype? (name : String) :
    RelaysRun cause (Lookup.prototype? ⟨host, settings⟩ name)
      (Lookup.prototype? ⟨host', settings⟩ name) := by
  refine (Lookup.relaysRun_ask _).bind fun kept => ?_
  cases kept with
  | some prototype => exact .pure _
  | none =>
    refine (Lookup.relaysRun_query (h.find name)).bind fun found => ?_
    cases found with
    | none => exact .pure _
    | some id => exact h.registerClass id

/-! ## Origins -/

theorem origin? (name : String) :
    RelaysRun cause (Lookup.origin? ⟨host, settings⟩ name)
      (Lookup.origin? ⟨host', settings⟩ name) := by
  refine (Lookup.relaysRun_ask _).bind fun known => ?_
  cases known with
  | some origin => exact .pure _
  | none =>
    refine (Lookup.relaysRun_ask _).bind fun registered => ?_
    split
    · exact .pure _
    · refine (h.congruence.declarationOf? name).bind fun decl => ?_
      cases decl with
      | none => exact .pure _
      | some decl => exact h.checkGenerated h.registerClass name decl

theorem declOriginStep (outer name : Option String) : RelaysRun cause
    (match outer, name with
      | some origin, _ => (pure (some origin) : Lookup (Option String))
      | none, some name => Lookup.origin? ⟨host, settings⟩ name
      | none, none => pure none)
    (match outer, name with
      | some origin, _ => pure (some origin)
      | none, some name => Lookup.origin? ⟨host', settings⟩ name
      | none, none => pure none) := by
  split
  · exact .pure _
  · exact h.origin? _
  · exact .pure _

theorem declOriginWithin (limit : Nat) (id : DeclId) :
    RelaysRun cause (Lookup.declOriginWithin ⟨host, settings⟩ limit id)
      (Lookup.declOriginWithin ⟨host', settings⟩ limit id) := by
  -- From the outermost declaration inwards: the limit counts the steps outwards.
  induction limit generalizing id with
  | zero => exact Lookup.relaysRun_tooDeep
  | succ limit ih =>
    refine (Lookup.relaysRun_query (h.declaration id)).bind fun decl => ?_
    cases decl.parent with
    | none => exact (RelaysRun.pure none).bind fun outer => h.declOriginStep outer _
    | some parent => exact (ih parent).bind fun outer => h.declOriginStep outer _

theorem declOrigin? (id : DeclId) :
    RelaysRun cause (Lookup.declOrigin? ⟨host, settings⟩ id)
      (Lookup.declOrigin? ⟨host', settings⟩ id) := by
  rw [Lookup.declOrigin?, Lookup.declOrigin?, h.ids]
  exact h.declOriginWithin _ id

theorem originDeclaration? (origin : Option String) :
    RelaysRun cause (Lookup.originDeclaration? ⟨host, settings⟩ origin)
      (Lookup.originDeclaration? ⟨host', settings⟩ origin) := by
  cases origin with
  | none => exact .pure _
  | some prototype =>
    refine (Lookup.relaysRun_query (h.find prototype)).bind fun found => ?_
    cases found with
    | none => exact .pure _
    | some id => exact ((h.registerClass id).map _).bind fun _ => .pure _

/-! ## Findings -/

theorem isAllowed (type : JavaType) (targets : List String) :
    Relays cause (Lookup.isAllowed ⟨host, settings⟩ type targets)
      (Lookup.isAllowed ⟨host', settings⟩ type targets) := by
  induction targets with
  | nil => exact .ok _
  | cons target targets ih =>
    -- The first target that allows the type ends the search on both sides.
    refine (h.isAssignable type target).bind fun allowed => ?_
    cases allowed with
    | true => exact .ok _
    | false => exact ih

theorem typeFindings (mark : AnnotationUse) (descriptor : ValidationDescriptor)
    (method : Method) :
    RelaysRun cause (Lookup.typeFindings ⟨host, settings⟩ mark descriptor method)
      (Lookup.typeFindings ⟨host', settings⟩ mark descriptor method) := by
  have htargets : RelaysRun cause (Lookup.usageTargets ⟨host, settings⟩ mark descriptor)
      (Lookup.usageTargets ⟨host', settings⟩ mark descriptor) := by
    unfold Lookup.usageTargets
    split
    · exact (h.discovering.targetsOf _).map _
    · exact .pure _
  refine htargets.bind fun targets => ?_
  dsimp only
  split
  · exact .pure _
  · refine (Lookup.relaysRun_query (h.isAllowed _ _)).bind fun allowed => ?_
    cases allowed with
    | true => exact .pure _
    | false => exact .pure _

theorem isInPrototype (decl : Declaration) :
    RelaysRun cause (Lookup.isInPrototype ⟨host, settings⟩ decl)
      (Lookup.isInPrototype ⟨host', settings⟩ decl) := by
  unfold Lookup.isInPrototype
  split
  · exact (h.prototype? _).bind fun _ => .pure _
  · exact .pure _

theorem siteFindings (site : AnnotationSite) :
    RelaysRun cause (Lookup.siteFindings ⟨host, settings⟩ site)
      (Lookup.siteFindings ⟨host', settings⟩ site) := by
  refine (Lookup.relaysRun_query (h.declaration site.decl)).bind fun decl => ?_
  split
  · exact .pure _
  · rename_i mark _
    refine (h.discovering.validationDescriptor mark.name).bind fun descriptor => ?_
    split
    · refine (h.isInPrototype decl).bind fun inPrototype => ?_
      dsimp only
      split
      · exact .pure _
      · exact (h.typeFindings mark descriptor _).bind fun _ => .pure _
    · exact .pure _

end Host.RelaysTo

/-! ## Requests -/

namespace Host.RelaysTo

variable {host host' : Host} {settings : DiscoverySettings} {cause : Prop}
  (h : host.RelaysTo host' cause)
include h

theorem prototypeDataOf (id : DeclId) :
    RelaysRun cause (Request.prototypeDataOf ⟨host, settings⟩ id)
      (Request.prototypeDataOf ⟨host', settings⟩ id) :=
  (h.registerClass id).contain none

theorem isPrototypeDecl (id : DeclId) :
    RelaysRun cause (Request.isPrototypeDecl ⟨host, settings⟩ id)
      (Request.isPrototypeDecl ⟨host', settings⟩ id) :=
  (h.prototypeDataOf id).bind fun _ => .pure _

theorem isGeneratedDecl (id : DeclId) :
    RelaysRun cause (Request.isGeneratedDecl ⟨host, settings⟩ id)
      (Request.isGeneratedDecl ⟨host', settings⟩ id) :=
  ((h.declOrigin? id).bind fun _ => .pure _).contain false

theorem generatedNameOf (name : String) :
    RelaysRun cause (Request.generatedNameOf ⟨host, settings⟩ name)
      (Request.generatedNameOf ⟨host', settings⟩ name) := by
  refine ((Lookup.relaysRun_query (h.findData name)).contain none).bind fun entry => ?_
  exact ((h.prototype? name).bind fun _ => .pure _).contain _

/-- Every question relays cancellation. -/
theorem reply (q : Question) :
    RelaysRun cause (q.reply ⟨host, settings⟩) (q.reply ⟨host', settings⟩) := by
  -- Each question is a lookup whose failures are contained; the last ones read the guards alone.
  cases q with
  | findDeclaration name => exact ((Lookup.relaysRun_query (h.find name)).contain none).map _
  | registerDeclaration id => exact (((h.registerClass id).map _).contain ()).map _
  | prototypeData name => exact ((h.prototype? name).contain none).map _
  | prototypeDataOf id => exact ((h.registerClass id).contain none).map _
  | isPrototype name => exact (((h.prototype? name).contain none).bind fun _ => .pure _).map _
  | isPrototypeDecl id => exact (((h.registerClass id).contain none).bind fun _ => .pure _).map _
  | templateData name => exact ((h.discovering.template? name).contain none).map _
  | prototypeOf name => exact ((h.origin? name).contain none).map _
  | isGenerated name => exact (((h.origin? name).bind fun _ => .pure _).contain false).map _
  | isGeneratedDecl id => exact (((h.declOrigin? id).bind fun _ => .pure _).contain false).map _
  | prototypeClass name =>
    exact (((h.origin? name).bind h.originDeclaration?).contain none).map _
  | prototypeClassOf id =>
    exact (((h.declOrigin? id).bind h.originDeclaration?).contain none).map _
  | generatedNameFor name nested =>
    exact (((h.prototype? name).bind fun _ => .pure _).contain _).map _
  | generatedNameOf name => exact (h.generatedNameOf name).map _
  | validation name =>
    exact (((h.discovering.validationDescriptor name).bind fun _ => .pure _).contain none).map _
  | validationFindings site => exact ((h.siteFindings site).contain []).map _
  | isRegistering => exact fun s => .same rfl id
  | beginAugmenting id =>
    refine RelaysRun.map (fun s => .same rfl ?_) _
    show ¬ IsCancelled (ite _ _ _ : Except Cancelled Bool × Session)
    split <;> exact not_false
  | endAugmenting id => exact fun s => .same rfl not_false
  | isAugmenting id => exact fun s => .same rfl not_false

end Host.RelaysTo

end PrototypeLens
