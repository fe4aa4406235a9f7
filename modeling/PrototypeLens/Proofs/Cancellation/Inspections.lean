import PrototypeLens.Editor.Highlight
import PrototypeLens.Editor.LiteralReference
import PrototypeLens.Editor.Marker
import PrototypeLens.Editor.Problems
import PrototypeLens.Editor.Suppression
import PrototypeLens.Proofs.Augment.Synthesis
import PrototypeLens.Proofs.Cancellation.Lookups

/-!
# Inspections relay cancellation

Augmentation, refreshing and the requests of an editor contain failures of their own. They relay the
cancellation of the host's queries all the same.

## Layers

- `contained`: what is made of a result where failures are contained. Three functions of the code
  catch failures in this way, as `Registry.refreshedNames_eq` and its two siblings say.
- Inspections: a query or a request as a part of one, and an inspection that is contained.
- Augmentation and refreshing, in the shape of their code.
- The inspections of an editor: highlights, markers, problems and usages. Each of them follows its
  own code step by step, and is built from the requests above.

## Main results

- `Host.RelaysTo.augment`: augmentation relays cancellation.
- `Host.RelaysTo.refresh` and `Host.RelaysTo.filesSaved`: so do the refresh of a file and the saving
  of several, though some entries may be gone by then.
- One lemma of this form for each inspection, from `Host.RelaysTo.fileHighlights` to
  `Host.RelaysTo.methodTargets`.
-/

namespace PrototypeLens

open Cancellable (IsCancelled)

/-! ## Containment -/

section Containment

variable {α β : Type} {cause : Prop}

/-- What is made of a result where failures are contained: a cancellation passes, and any other
failure is answered by `nothing`. -/
def contained (f : α → β) (nothing : β) : Except QueryError α → Except Cancelled β
  | .ok a => .ok (f a)
  | .error .cancelled => .error {}
  | .error _ => .ok nothing

theorem isCancelled_contained (f : α → β) (nothing : β) (result : Except QueryError α) :
    IsCancelled (contained f nothing result) ↔ IsCancelled result := by
  -- There are three kinds of failure, and only one of them passes.
  rcases result with e | a
  · cases e <;> simp [contained, IsCancelled]
  · exact Iff.rfl

theorem Relays.contained {x y : Except QueryError α} (h : Relays cause x y) (f : α → β)
    (nothing : β) :
    Relays cause (PrototypeLens.contained f nothing x) (PrototypeLens.contained f nothing y) :=
  h.after (isCancelled_contained f nothing)

namespace Inspection

theorem relaysRun_query {x y : Except QueryError α} (h : Relays cause x y) :
    RelaysRun cause (query x) (query y) :=
  fun s => h.after (δ := Except QueryError α × Session) (f := fun x => query x s) fun z => by
    cases z <;> exact Iff.rfl

/-- A cancelled request cancels the inspection that it is a part of. -/
theorem relaysRun_ask {request request' : Request α} (h : RelaysRun cause request request') :
    RelaysRun cause (ask request) (ask request') := by
  -- A request has one way to fail, which is to be cancelled, and the inspection fails in the same
  -- way.
  have hask (r : Request α) (s : Session) :
      ask r s = ((r s).1.mapError fun _ => QueryError.cancelled, (r s).2) := by
    unfold ask
    rcases r s with ⟨e | a, s'⟩ <;> rfl
  refine h.after id (fun _ z => (z.1.mapError fun _ => .cancelled, z.2)) (hask _) (hask _)
    fun _ z => ?_
  obtain ⟨e | a, s⟩ := z
  · exact ⟨fun _ => trivial, fun _ => rfl⟩
  · exact Iff.rfl

theorem relaysRun_contain {inspection inspection' : Inspection α}
    (h : RelaysRun cause inspection inspection') (nothing : α) :
    RelaysRun cause (contain nothing inspection) (contain nothing inspection') :=
  h.after id (fun _ z => (contained id nothing z.1, z.2)) (fun _ => rfl) (fun _ => rfl)
    fun _ z => isCancelled_contained id nothing z.1

end Inspection

namespace Editor

/-- An editor that is cancelled itself. -/
theorem relaysRun_throw (hcause : cause) (m : EditorM α) : RelaysRun cause (throw {}) m :=
  fun _ => .cancelled hcause trivial

theorem relaysRun_run {request request' : Request α} (h : RelaysRun cause request request') :
    RelaysRun cause (run request) (run request') :=
  -- The editor lends its registry to the request and takes it back afterwards.
  h.after (fun editor => { registry := editor.registry })
    (fun editor z => (z.1, { editor with registry := z.2.registry })) (fun _ => rfl) (fun _ => rfl)
    fun _ _ => Iff.rfl

theorem relaysRun_inspect {inspection inspection' : Inspection α}
    (h : RelaysRun cause inspection inspection') (nothing : α) :
    RelaysRun cause (inspect nothing inspection) (inspect nothing inspection') :=
  relaysRun_run (Inspection.relaysRun_contain h nothing)

end Editor

end Containment

section

variable (host : Host) (file : FileId)

theorem Registry.refreshedNames_eq (r : Registry) : r.refreshedNames host file =
    contained (r.ownedBy file ++ ·) (r.ownedBy file) (declaredNames host file) := by
  -- Without the declared names the owned ones are refreshed, unless the host cancelled.
  unfold refreshedNames
  rcases declaredNames host file with e | declared
  · cases e <;> rfl
  · rfl

theorem Registry.moduleOf_eq :
    moduleOf host file = contained (·.buildModule.toList) [] (host.file file) := by
  unfold moduleOf
  rcases host.file file with e | data
  · cases e <;> rfl
  · rfl

theorem Editor.isRefreshedOnSave_eq :
    isRefreshedOnSave host file = contained (·.isJavaSource) false (host.file file) := by
  unfold isRefreshedOnSave
  rcases host.file file with e | data
  · cases e <;> rfl
  · rfl

end

namespace Host.RelaysTo

variable {host host' : Host} {settings : DiscoverySettings} {cause : Prop}
  (h : host.RelaysTo host' cause)
include h

/-! ## Augmentation -/

theorem inheritedElements (decl : Declaration) :
    Relays cause (PrototypeLens.inheritedElements host decl)
      (PrototypeLens.inheritedElements host' decl) :=
  (h.walk_typeGraph _ _ _).map _

theorem bracketlessFields (decl : Declaration) :
    Relays cause (PrototypeLens.bracketlessFields host decl)
      (PrototypeLens.bracketlessFields host' decl) :=
  ((h.walk_typeGraph _ _ _).map _).map _

omit h in
theorem guarded (id : DeclId) {x y : Except QueryError (List VirtualMember)}
    (hmembers : Relays cause x y) :
    RelaysRun cause (Request.guarded id x) (Request.guarded id y) := by
  -- The mark of the declaration is set and cleared around the walk, and both runs see the same
  -- mark.
  rw [Request.guarded_eq, Request.guarded_eq]
  refine RelaysRun.bind (fun _ => .same rfl not_false) fun augmenting => ?_
  split
  · exact .pure _
  · exact (Lookup.relaysRun_query hmembers).contain _

theorem inheritedMembers (features : Features) (id : DeclId) (decl : Declaration)
    (kind : MemberKind) :
    RelaysRun cause (Request.inheritedMembers ⟨host, settings⟩ features id decl kind)
      (Request.inheritedMembers ⟨host', settings⟩ features id decl kind) := by
  unfold Request.inheritedMembers
  split
  · exact guarded id (h.inheritedElements decl)
  · exact .pure _

theorem bracketlessMembers (features : Features) (id : DeclId) (decl : Declaration)
    (kind : MemberKind) :
    RelaysRun cause (Request.bracketlessMembers ⟨host, settings⟩ features id decl kind)
      (Request.bracketlessMembers ⟨host', settings⟩ features id decl kind) := by
  -- What is collected after the test depends on its result, not on which of the two questions gave
  -- it.
  have hfields (relevant : Bool) : RelaysRun cause
      (if relevant && kind = .field && features.bracketlessMethods then
        Request.guarded id (PrototypeLens.bracketlessFields host decl) else pure [])
      (if relevant && kind = .field && features.bracketlessMethods then
        Request.guarded id (PrototypeLens.bracketlessFields host' decl) else pure []) := by
    split
    · exact guarded id (h.bracketlessFields decl)
    · exact .pure _
  -- The second question is asked only where the first one says no.
  refine (h.isPrototypeDecl id).bind fun isPrototype => ?_
  cases isPrototype with
  | true => exact (RelaysRun.pure true).bind hfields
  | false => exact (h.isGeneratedDecl id).bind hfields

theorem augment (features : Features) (id : DeclId) (kind : MemberKind) :
    RelaysRun cause (Request.augment ⟨host, settings⟩ features id kind)
      (Request.augment ⟨host', settings⟩ features id kind) := by
  refine RelaysRun.bind (fun _ => .same rfl not_false) fun registering => ?_
  split
  · exact .pure _
  · refine (((Lookup.relaysRun_query (h.declaration id)).map some).contain none).bind
      fun found => ?_
    -- Nothing is added where the declaration cannot be read, which is no cancellation.
    cases found with
    | none => exact .pure _
    | some decl =>
      dsimp only
      split
      · exact (h.inheritedMembers features id decl kind).bind fun _ => .pure _
      · refine (h.bracketlessMembers features id decl kind).bind fun bracketless => ?_
        refine RelaysRun.bind ?_ fun enriched => (RelaysRun.pure _).bind fun _ => .pure _
        refine (h.prototypeDataOf id).bind fun descriptor => ?_
        cases descriptor with
        | none => exact .pure _
        | some descriptor => exact .pure _

/-! ## Refreshing -/

theorem refreshedNames (r : Registry) (file : FileId) :
    Relays cause (r.refreshedNames host file) (r.refreshedNames host' file) := by
  have hdeclared : Relays cause (Registry.declaredNames host file)
      (Registry.declaredNames host' file) :=
    (h.declarationsIn file).bind fun ids => (Relays.mapM h.declaration ids).bind fun _ => .ok _
  rw [Registry.refreshedNames_eq, Registry.refreshedNames_eq]
  exact hdeclared.contained _ _

theorem moduleOf (file : FileId) :
    Relays cause (Registry.moduleOf host file) (Registry.moduleOf host' file) := by
  rw [Registry.moduleOf_eq, Registry.moduleOf_eq]
  exact (h.file file).contained _ _

/-- A refresh relays cancellation, though by then it may have dropped what derives from the
file. -/
theorem refresh (r : Registry) (file : FileId) :
    Relays cause (r.refresh host file) (r.refresh host' file) := by
  unfold Registry.refresh
  -- Cancelled here, the refresh drops nothing; otherwise both hosts refresh the same names.
  cases h.refreshedNames r file with
  | cancelled hcause hx =>
    revert hx
    cases r.refreshedNames host file with
    | ok names => exact fun hx => hx.elim
    | error e => exact fun hx => .cancelled hcause hx
  | same heq hx =>
    rw [heq]
    revert hx
    cases r.refreshedNames host file with
    | error e => exact fun hx => .same rfl hx
    | ok names =>
      intro _
      dsimp only
      split
      · -- The entries are dropped before the module is asked for, so that the state may have
        -- changed when this query is cancelled.
        exact (h.moduleOf file).after (δ := Except Cancelled (List ModuleId) × Registry)
          (f := fun x => (x, r.forgetAll (r.withDependents names))) fun _ => Iff.rfl
      · exact .same rfl id

theorem editorRefresh (file : FileId) :
    RelaysRun cause (Editor.refresh host file) (Editor.refresh host' file) :=
  fun editor => (h.refresh editor.registry file).after
    (δ := Except Cancelled (List ModuleId) × Editor)
    (f := fun z => (z.1, { editor with registry := z.2 })) fun _ => Iff.rfl

theorem isRefreshedOnSave (file : FileId) :
    Relays cause (Editor.isRefreshedOnSave host file) (Editor.isRefreshedOnSave host' file) := by
  rw [Editor.isRefreshedOnSave_eq, Editor.isRefreshedOnSave_eq]
  exact (h.file file).contained _ _

theorem filesSaved (files : List FileId) :
    RelaysRun cause (Editor.filesSaved host files) (Editor.filesSaved host' files) := by
  -- The induction is on the files: after a cancelled one the rest is not saved.
  induction files with
  | nil => exact .pure _
  | cons file files ih =>
    unfold Editor.filesSaved
    cases h.isRefreshedOnSave file with
    | cancelled hcause hx =>
      revert hx
      cases Editor.isRefreshedOnSave host file with
      | ok refreshed => exact fun hx => hx.elim
      -- This file was cancelled, and with it all that are left.
      | error e => exact fun _ _ => .cancelled hcause trivial
    | same heq hx =>
      rw [heq]
      revert hx
      cases Editor.isRefreshedOnSave host file with
      | error e => exact fun hx => absurd trivial hx
      | ok refreshed =>
        intro _
        -- Both hosts say the same about the file: it is skipped twice or refreshed twice.
        cases refreshed with
        | false => exact ih
        | true => exact (h.editorRefresh file).bind fun affected => ih.bind fun _ => .pure _

/-! ## Positions -/

theorem navigationTarget (id : DeclId) :
    Relays cause (PrototypeLens.navigationTarget host id)
      (PrototypeLens.navigationTarget host' id) :=
  (h.declaration id).bind fun decl => (h.file decl.file).bind fun _ => .ok _

theorem declarationAt? (file : FileId) (offset : Nat) :
    Relays cause (PrototypeLens.declarationAt? host file offset)
      (PrototypeLens.declarationAt? host' file offset) := by
  refine (h.declarationsIn file).bind fun ids => ?_
  -- The innermost declaration so far is kept from one step to the next; it is the same on both
  -- sides.
  refine (Relays.foldlM (fun best id => ?_) ids none).bind fun _ => .ok _
  exact (h.declaration id).bind fun _ => .ok _

theorem allMethods (id : DeclId) :
    Relays cause (PrototypeLens.allMethods host id) (PrototypeLens.allMethods host' id) :=
  (h.walk_hierarchy [id]).map _

/-! ## Requests as parts of inspections -/

theorem ask_findDeclaration (name : String) :
    RelaysRun cause (Inspection.ask (Request.findDeclaration ⟨host, settings⟩ name))
      (Inspection.ask (Request.findDeclaration ⟨host', settings⟩ name)) :=
  Inspection.relaysRun_ask ((Lookup.relaysRun_query (h.find name)).contain none)

theorem ask_isPrototypeDecl (id : DeclId) :
    RelaysRun cause (Inspection.ask (Request.isPrototypeDecl ⟨host, settings⟩ id))
      (Inspection.ask (Request.isPrototypeDecl ⟨host', settings⟩ id)) :=
  Inspection.relaysRun_ask (h.isPrototypeDecl id)

theorem ask_prototypeDataOf (id : DeclId) :
    RelaysRun cause (Inspection.ask (Request.prototypeDataOf ⟨host, settings⟩ id))
      (Inspection.ask (Request.prototypeDataOf ⟨host', settings⟩ id)) :=
  Inspection.relaysRun_ask (h.prototypeDataOf id)

theorem ask_isPrototype (name : String) :
    RelaysRun cause (Inspection.ask (Request.isPrototype ⟨host, settings⟩ name))
      (Inspection.ask (Request.isPrototype ⟨host', settings⟩ name)) :=
  Inspection.relaysRun_ask (((h.prototype? name).contain none).bind fun _ => .pure _)

theorem ask_isGenerated (name : String) :
    RelaysRun cause (Inspection.ask (Request.isGenerated ⟨host, settings⟩ name))
      (Inspection.ask (Request.isGenerated ⟨host', settings⟩ name)) :=
  Inspection.relaysRun_ask (((h.origin? name).bind fun _ => .pure _).contain false)

theorem ask_generatedNameOf (name : String) :
    RelaysRun cause (Inspection.ask (Request.generatedNameOf ⟨host, settings⟩ name))
      (Inspection.ask (Request.generatedNameOf ⟨host', settings⟩ name)) :=
  Inspection.relaysRun_ask (h.generatedNameOf name)

theorem ask_prototypeClass (name : String) :
    RelaysRun cause (Inspection.ask (Request.prototypeClass ⟨host, settings⟩ name))
      (Inspection.ask (Request.prototypeClass ⟨host', settings⟩ name)) :=
  Inspection.relaysRun_ask (((h.origin? name).bind h.originDeclaration?).contain none)

/-! ## Highlights -/

theorem generatesTooltip (name : String) :
    RelaysRun cause (Inspection.generatesTooltip ⟨host, settings⟩ name)
      (Inspection.generatesTooltip ⟨host', settings⟩ name) := by
  refine (h.ask_generatedNameOf name).bind fun generated => ?_
  refine (h.ask_findDeclaration generated).bind fun found => ?_
  cases found with
  | none => exact (RelaysRun.pure _).bind fun _ => .pure _
  | some id =>
    exact (Inspection.relaysRun_query (h.navigationTarget id)).bind fun _ => .pure _

theorem generatedByTooltip (prototype : DeclId) :
    RelaysRun cause (Inspection.generatedByTooltip ⟨host, settings⟩ prototype)
      (Inspection.generatedByTooltip ⟨host', settings⟩ prototype) := by
  refine (Inspection.relaysRun_query (h.declaration prototype)).bind fun decl => ?_
  exact (Inspection.relaysRun_query (h.navigationTarget prototype)).bind fun _ => .pure _

theorem generatedHighlight (name : String) (span : Span) (kind : HighlightKind) :
    RelaysRun cause (Inspection.generatedHighlight ⟨host, settings⟩ name span kind)
      (Inspection.generatedHighlight ⟨host', settings⟩ name span kind) := by
  refine (h.ask_prototypeClass name).bind fun found => ?_
  cases found with
  | none => exact .pure _
  | some prototype => exact (h.generatedByTooltip prototype).bind fun _ => .pure _

theorem declarationHighlight (id : DeclId) :
    RelaysRun cause (Inspection.declarationHighlight ⟨host, settings⟩ id)
      (Inspection.declarationHighlight ⟨host', settings⟩ id) := by
  refine (Inspection.relaysRun_query (h.declaration id)).bind fun decl => ?_
  split
  · rename_i name span _ _
    -- A declaration is highlighted as a prototype or as generated, and the first of the two is
    -- asked first.
    refine (h.ask_isPrototypeDecl id).bind fun isPrototype => ?_
    split
    · exact (h.generatesTooltip name).bind fun _ => .pure _
    · refine (h.ask_isGenerated name).bind fun isGenerated => ?_
      split
      · exact h.generatedHighlight name span _
      · exact .pure _
  · exact .pure _

theorem referenceHighlight (reference : TypeReference) :
    RelaysRun cause (Inspection.referenceHighlight ⟨host, settings⟩ reference)
      (Inspection.referenceHighlight ⟨host', settings⟩ reference) := by
  refine (h.ask_isGenerated reference.name).bind fun isGenerated => ?_
  split
  · exact h.generatedHighlight _ _ _
  · refine (h.ask_isPrototype reference.name).bind fun isPrototype => ?_
    split
    · exact (h.generatesTooltip reference.name).bind fun _ => .pure _
    · exact .pure _

theorem fileHighlights (features : Features) (file : FileId) :
    RelaysRun cause (Inspection.fileHighlights ⟨host, settings⟩ features file)
      (Inspection.fileHighlights ⟨host', settings⟩ features file) := by
  refine (Inspection.relaysRun_query (h.file file)).bind fun data => ?_
  refine (Inspection.relaysRun_query (h.declarationsIn file)).bind fun ids => ?_
  refine (RelaysRun.mapM h.declarationHighlight ids).bind fun declared => ?_
  exact (RelaysRun.mapM h.referenceHighlight _).bind fun _ => .pure _

/-! ## References and markers -/

theorem fileReferences (markers : List String) (file : FileId) :
    Relays cause (PrototypeLens.fileReferences host markers file)
      (PrototypeLens.fileReferences host' markers file) := by
  refine (h.declarationsIn file).bind fun ids => (Relays.mapM (fun id => ?_) ids).bind
    fun _ => .ok _
  refine (h.declaration id).bind fun decl => (Relays.mapM (fun text => ?_) _).bind fun _ => .ok _
  exact (h.find text.1).map _

theorem fileMarkers (file : FileId) :
    RelaysRun cause (Inspection.fileMarkers ⟨host, settings⟩ file)
      (Inspection.fileMarkers ⟨host', settings⟩ file) := by
  refine (Inspection.relaysRun_query (h.file file)).bind fun data => ?_
  refine (Inspection.relaysRun_query (h.declarationsIn file)).bind fun ids => ?_
  refine (RelaysRun.mapM (fun id => ?_) ids).bind fun _ => .pure _
  refine (h.ask_isPrototypeDecl id).bind fun isPrototype => ?_
  split
  · exact (Inspection.relaysRun_query (h.declaration id)).bind fun _ => .pure _
  · exact .pure _

/-! ## Problems -/

theorem useFindings (file : FileId) (reference : TypeReference) :
    RelaysRun cause (Inspection.useFindings ⟨host, settings⟩ file reference)
      (Inspection.useFindings ⟨host', settings⟩ file reference) := by
  unfold Inspection.useFindings
  split
  · exact .pure _
  · rename_i enclosing _
    -- Uses inside of prototypes are not reported, so that the enclosing declaration is asked about
    -- first.
    have hreports : RelaysRun cause (Inspection.reportsUses ⟨host, settings⟩ enclosing)
        (Inspection.reportsUses ⟨host', settings⟩ enclosing) := by
      refine (Inspection.relaysRun_query (h.declaration enclosing)).bind fun decl => ?_
      split
      · exact .pure _
      · exact (h.ask_isPrototypeDecl enclosing).bind fun _ => .pure _
    refine hreports.bind fun reports => ?_
    split
    · exact .pure _
    · refine (h.ask_isPrototype reference.name).bind fun isPrototype => ?_
      split
      · exact .pure _
      · refine (h.ask_generatedNameOf reference.name).bind fun generated => ?_
        exact (h.ask_findDeclaration generated).bind fun _ => .pure _

theorem prototypeUses (file : FileId) :
    RelaysRun cause (Inspection.prototypeUses ⟨host, settings⟩ file)
      (Inspection.prototypeUses ⟨host', settings⟩ file) := by
  refine (Inspection.relaysRun_query (h.declarationsIn file)).bind fun ids => ?_
  -- Registering the declarations of the file comes before its uses are looked at; each registration
  -- is contained.
  refine (RelaysRun.forM (fun id => ?_) ids).bind fun _ => ?_
  · exact Inspection.relaysRun_ask (((h.registerClass id).map _).contain ())
  · refine (Inspection.relaysRun_query (h.file file)).bind fun data => ?_
    exact (RelaysRun.mapM (h.useFindings file) _).bind fun _ => .pure _

theorem misplaced (file : FileId) :
    RelaysRun cause (Inspection.misplaced ⟨host, settings⟩ file)
      (Inspection.misplaced ⟨host', settings⟩ file) := by
  refine (Inspection.relaysRun_query (h.declarationsIn file)).bind fun ids => ?_
  refine (RelaysRun.mapM (fun id => ?_) ids).bind fun _ => .pure _
  refine (h.ask_prototypeDataOf id).bind fun descriptor => ?_
  cases descriptor with
  | none => exact .pure _
  | some d => exact (Inspection.relaysRun_query (h.declaration id)).bind fun _ => .pure _

theorem misusedValidation (file : FileId) :
    RelaysRun cause (Inspection.misusedValidation ⟨host, settings⟩ file)
      (Inspection.misusedValidation ⟨host', settings⟩ file) := by
  refine (Inspection.relaysRun_query (h.declarationsIn file)).bind fun ids => ?_
  refine (RelaysRun.mapM (fun id => ?_) ids).bind fun _ => .pure _
  refine (Inspection.relaysRun_query (h.declaration id)).bind fun decl => ?_
  -- Every site of an annotation is checked for itself, and its failures are contained there.
  refine (RelaysRun.mapM (fun site => ?_) _).bind fun _ => .pure _
  exact Inspection.relaysRun_ask ((h.siteFindings site).contain [])

theorem acceptsAt (file : FileId) (message : String) (span : Span) :
    RelaysRun cause (Inspection.acceptsAt ⟨host, settings⟩ file message span)
      (Inspection.acceptsAt ⟨host', settings⟩ file message span) := by
  refine (Inspection.relaysRun_query (h.declarationAt? file span.start)).bind fun found => ?_
  cases found with
  | none => exact .pure _
  | some id =>
    refine (Inspection.relaysRun_query (h.declaration id)).bind fun decl => ?_
    exact (h.ask_prototypeDataOf id).bind fun _ => .pure _

/-! ## Usages -/

theorem declarationTargets (id : DeclId) :
    RelaysRun cause (Inspection.declarationTargets ⟨host, settings⟩ id)
      (Inspection.declarationTargets ⟨host', settings⟩ id) := by
  refine (Inspection.relaysRun_query (h.declaration id)).bind fun decl => ?_
  split
  · exact .pure _
  · refine (h.ask_generatedNameOf _).bind fun generatedName => ?_
    refine (h.ask_findDeclaration generatedName).bind fun found => ?_
    cases found with
    | none => exact .pure _
    | some generated =>
      refine (Inspection.relaysRun_ask (h.isGeneratedDecl id)).bind fun isGenerated => ?_
      split
      · exact (h.ask_prototypeClass generatedName).bind fun _ => .pure _
      · exact (RelaysRun.pure _).bind fun _ => .pure _

theorem modifierTargets (method : Method) (methods : List PlacedMethod) :
    RelaysRun cause (Inspection.modifierTargets ⟨host, settings⟩ method methods)
      (Inspection.modifierTargets ⟨host', settings⟩ method methods) := by
  unfold Inspection.modifierTargets
  split
  · exact .pure _
  · -- The modifier is found by its name; its methods are those of its whole hierarchy.
    refine (h.ask_findDeclaration _).bind fun found => ?_
    cases found with
    | none => exact .pure _
    | some modifier =>
      exact (Inspection.relaysRun_query (h.allMethods modifier)).bind fun _ => .pure _

theorem generatedTargets (name : String) (method : Method) :
    RelaysRun cause (Inspection.generatedTargets ⟨host, settings⟩ name method)
      (Inspection.generatedTargets ⟨host', settings⟩ name method) := by
  refine (h.ask_generatedNameOf name).bind fun generatedName => ?_
  refine (h.ask_findDeclaration generatedName).bind fun found => ?_
  cases found with
  | none => exact .pure _
  | some generated =>
    refine (Inspection.relaysRun_query (h.allMethods generated)).bind fun methods => ?_
    exact (h.modifierTargets method methods).bind fun _ => .pure _

theorem prototypeTargets (id : DeclId) (method : Method) :
    RelaysRun cause (Inspection.prototypeTargets ⟨host, settings⟩ id method)
      (Inspection.prototypeTargets ⟨host', settings⟩ id method) := by
  -- From a generated method the way leads back to the prototype that it comes from.
  refine (Inspection.relaysRun_ask
    (((h.declOrigin? id).bind h.originDeclaration?).contain none)).bind fun found => ?_
  cases found with
  | none => exact .pure _
  | some prototype =>
    exact (Inspection.relaysRun_query (h.allMethods prototype)).bind fun _ => .pure _

theorem methodTargets (id : DeclId) (index : Nat) :
    RelaysRun cause (Inspection.methodTargets ⟨host, settings⟩ id index)
      (Inspection.methodTargets ⟨host', settings⟩ id index) := by
  refine (Inspection.relaysRun_query (h.declaration id)).bind fun decl => ?_
  split
  · refine (h.ask_isPrototypeDecl id).bind fun isPrototype => ?_
    split
    · exact h.generatedTargets _ _
    · exact h.prototypeTargets id _
  · exact .pure _

end Host.RelaysTo

end PrototypeLens
