import PrototypeLens.Lookup.Validation
import PrototypeLens.Proofs.Session.Upkeep
import PrototypeLens.Proofs.Template.Discipline
import PrototypeLens.Proofs.Validation.Meaning

/-!
# What lookups keep, however they end

A conduct is a discipline that also covers what is published about declarations and validation
annotations. Every lookup keeps it, also one that is cut short. One that is not cut short gives an
origin to every declaration that it gives a prototype, so that it leaves none stranded.

## Layers

- `Conduct`: what the property has to say about each publication, on top of a discipline about
  templates.
- `Kept`, `Done`, `Traced` and `Resolved`: what comes of a lookup, of one that may fail, of the
  check for an origin, and of the resolution of a validation annotation. Each one extends the one
  before.
- One `yields` lemma for each lookup, from the parts to the whole.

## Main results

- `yields_prototypeOfUses`: the prototype is that of the first annotation that is a template.
- `yields_checkGenerated` and `yields_registerWithin`: registering a declaration, with the prototype
  that it was generated from registered on the way.
- `yields_prototype?` and `yields_origin?`: what is asked about a name.
- `yields_facetsWithin` and `yields_validationDescriptor`: what an annotation validates.
-/

namespace PrototypeLens

/-! ## Conduct -/

/-- The declaration of a name, however it was come to. -/
def Host.Reads (host : Host) (name : String) (decl : Declaration) : Prop :=
  ∃ id, host.declaration id = .ok decl ∧ decl.qualifiedName = some name

/-- The declaration of a name tells an origin. -/
def Scope.HasOrigin (scope : Scope) (name : String) : Prop :=
  ∃ decl, scope.host.Reads name decl ∧
    Lookup.originOf? scope.settings.generatedMarkers decl ≠ none

/-- What can be told about the origin of a name: what is known, nothing about one that is stranded
or undeclared, or else what its declaration tells. -/
inductive Lookup.OriginTold (scope : Scope) (r : Registry) (name : String) :
    Option String → Prop where
  | known {origin : Option String} :
      knownOrigin? r name = some origin → OriginTold scope r name origin
  | stranded : r.Stranded name → OriginTold scope r name none
  | undeclared : scope.host.Finds name none → OriginTold scope r name none
  | declared {decl : Declaration} : scope.host.Declares name decl →
      OriginTold scope r name (originOf? scope.settings.generatedMarkers decl)

/-- As long as what is known is right, a name that is not stranded is told the origin of its
declaration. -/
theorem Lookup.OriginTold.eq_of_finds {scope : Scope} {r : Registry} {name : String}
    {origin : Option String} {found : Option Declaration} (h : OriginTold scope r name origin)
    (hsealed : ¬ r.Stranded name)
    (hright : ∀ {origin}, knownOrigin? r name = some origin → ∃ decl,
      scope.host.Declares name decl ∧ originOf? scope.settings.generatedMarkers decl = origin)
    (hfound : scope.host.Finds name found) :
    origin = found.bind (originOf? scope.settings.generatedMarkers) := by
  cases h with
  | known hknown =>
    obtain ⟨decl, hdecl, rfl⟩ := hright hknown
    rw [hfound.unique hdecl.finds, Option.bind_some]
  | stranded hstranded => exact absurd hstranded hsealed
  | undeclared hnothing => rw [hfound.unique hnothing, Option.bind_none]
  | declared hdecl => rw [hfound.unique hdecl.finds, Option.bind_some]

/-- A discipline that covers everything that lookups publish. -/
structure Conduct (scope : Scope) extends Discipline scope where
  /-- What holds of what an annotation is told to validate. -/
  Validated : String → ValidationDescriptor → Prop
  /-- Resolving what a name validates comes to another one. -/
  Nests : String → String → Prop
  /-- The qualified names of declarations are among the names of the host. -/
  listed {name : String} {decl : Declaration} : scope.host.Reads name decl → name ∈ scope.host.names
  take_failed {r : Registry} {name : String} {decl : Declaration} {use : AnnotationUse}
      {defaults : Descriptor} {e : LookupError} :
    scope.host.Reads name decl → use ∈ decl.annotations → Taken r use.name defaults →
    defaults.takeUsage (Lookup.resolveEnricher scope) use = .error e → Failed
  publishClass {r : Registry} {name : String} {decl : Declaration} {prototype : Option Descriptor}
      (epoch : Nat) : Inv r → scope.host.Reads name decl →
    scope.Resolves Not (Taken r) decl.annotations prototype →
    Inv (r.publishClass epoch name decl.file prototype)
  publishGenerated {r : Registry} {name : String} {decl : Declaration} {prototype : String}
      (epoch : Nat) : Inv r → scope.host.Reads name decl →
    Lookup.originOf? scope.settings.generatedMarkers decl = some prototype →
    Inv (r.publishGenerated epoch name decl.file prototype)
  publishNonGenerated {r : Registry} {name : String} {decl : Declaration} (epoch : Nat) :
    Inv r → scope.host.Reads name decl →
    Lookup.originOf? scope.settings.generatedMarkers decl = none →
    Inv (r.publishNonGenerated epoch name decl.file)
  validatedRoot {name : String} {d : ValidationDescriptor} :
    ValidationDescriptor.root? name = some d → Validated name d
  validatedPlain {name : String} {decl : Option Declaration} :
    ValidationDescriptor.root? name = none → scope.host.Finds name decl →
    decl.filter (·.isAnnotationType) = none → Validated name {}
  validatedUses {name : String} {decl : Declaration} {d : ValidationDescriptor}
      {found : Option (AnnotationUse × ValidationDescriptor)} :
    ValidationDescriptor.root? name = none → scope.host.Declares name decl →
    decl.isAnnotationType = true → FirstValidation Nests Validated decl.annotations found →
    scope.facetsFrom name decl.declaresTargets found = .ok d → Validated name d
  validatedKept {r : Registry} {name : String} {d : ValidationDescriptor} :
    Inv r → r.validators.get? name = some d → Validated name d
  publishValidator {r : Registry} {name : String} {decl : Option Declaration}
      {d : ValidationDescriptor} (epoch : Nat) : Inv r → scope.host.Finds name decl →
    Validated name d → Inv (r.publishValidator epoch name (decl.map (·.file)) d)
  nests {name : String} {decl : Declaration} {mark : AnnotationUse} :
    scope.host.Declares name decl → decl.isAnnotationType = true → mark ∈ decl.annotations →
    Nests name mark.name
  nests_trans {name other third : String} : Nests name other → Nests other third → Nests name third

namespace Conduct

variable {scope : Scope} {C : Conduct scope} {g : Guards} {name : String}

/-! ## What comes of a lookup -/

/-- A lookup keeps the property. Apart from those that are being registered it strands no name
unless it is cut short, and then only one whose declaration tells an origin. -/
structure Kept (C : Conduct scope) (path : NameSet) (r r' : Registry) : Prop where
  inv : C.Inv r'
  stranded {name : String} : r'.Stranded name →
    r.Stranded name ∨ name ∈ path ∨ scope.HasOrigin name
  seals : ¬ C.Failed → r.Seals path r'

namespace Kept

variable {path : NameSet} {r r' r'' : Registry}

theorem refl (hr : C.Inv r) : C.Kept path r r := ⟨hr, .inl, fun _ => .refl r⟩

theorem trans (h : C.Kept path r r') (h' : C.Kept path r' r'') : C.Kept path r r'' where
  inv := h'.inv
  stranded hs := (h'.stranded hs).elim h.stranded .inr
  seals hok := (h.seals hok).trans (h'.seals hok)

theorem of_spares (hr : C.Inv r') (h : r.Spares r') : C.Kept path r r' :=
  ⟨hr, fun hs => .inl (hs.of_spares h), fun _ => .of_spares h⟩

end Kept

/-- A lookup that keeps the property and fails only where it is cut short. -/
structure Done (C : Conduct scope) {α : Type} (path : NameSet) (r : Registry)
    (out : Except LookupError α) (r' : Registry) : Prop extends C.Kept path r r' where
  failed {e : LookupError} : out = .error e → C.Failed

namespace Done

variable {α β : Type} {path : NameSet} {r r' : Registry}

theorem ok (h : C.Kept path r r') (a : α) : C.Done path r (.ok a) r' where
  toKept := h
  failed h := by cases h

theorem pure (hr : C.Inv r) (a : α) : C.Done path r (.ok a) r := .ok (.refl hr) a

theorem error {e : LookupError} (h : C.Done path r (.error e : Except LookupError α) r') :
    C.Done path r (.error e : Except LookupError β) r' :=
  ⟨h.toKept, fun _ => h.failed rfl⟩

theorem discard {out : Except LookupError α} (h : C.Done path r out r') :
    C.Done path r (out.map fun _ => ()) r' := by
  cases out with
  | ok a => exact .ok h.toKept ()
  | error e => exact h.error

end Done

theorem done_of_kept {α : Type} {path : NameSet} {r r' : Registry} {out : Except LookupError α}
    (h : C.toDiscipline.Kept r out r') : C.Done path r out r' :=
  ⟨.of_spares h.inv h.spares, h.failed⟩

/-! ## Prototypes -/

/-- The prototype that annotations give is what the answers for them come to. -/
theorem yields_prototypeOfUses (hcalm : g.discovering = []) (hidle : g.defaulting = [])
    {decl : Declaration} (hread : scope.host.Reads name decl) (uses : List AnnotationUse)
    (huses : uses ⊆ decl.annotations) :
    ∀ r, C.Inv r → (Lookup.prototypeOfUses scope uses).Yields r g fun out r' =>
      C.toDiscipline.Kept r out r' ∧
      ∀ prototype, out = .ok prototype → scope.Resolves C.Not (C.Taken r') uses prototype := by
  -- The first annotation that is a template decides.
  induction uses with
  -- The annotations that were passed over are told to be no templates, which is what the meaning of
  -- a prototype asks for.
  | nil =>
    intro r hr
    refine SessionM.yields_pure ⟨.pure hr _, fun prototype hp => ?_⟩
    cases hp
    exact .nil
  | cons use uses ih =>
    intro r hr
    obtain ⟨huse, huses⟩ := List.cons_subset.1 huses
    refine (C.yields_template? hcalm hidle hr).bind ?_
      fun e r₁ h₁ => ⟨h₁.toKept.error, fun _ h => by cases h⟩
    intro found r₁ h₁
    cases found with
    | none =>
      refine (ih huses r₁ h₁.inv).mono fun out r' h => ⟨h₁.toKept.trans h.1, fun p hp => ?_⟩
      exact .passed (h₁.passed rfl).1 (h.2 p hp)
    | some defaults =>
      have htaken : C.Taken r₁ use.name defaults := (h₁.taken rfl).2
      -- Taking the elements of the annotation may fail, which counts as cut short.
      refine (Lookup.yields_ofExcept
        (defaults.takeUsage (Lookup.resolveEnricher scope) use)).bind ?_ ?_
      · rintro prototype r' ⟨hok, rfl⟩
        refine SessionM.yields_pure ⟨h₁.toKept.trans (.pure h₁.inv _), fun p hp => ?_⟩
        cases hp
        exact .taken htaken hok.symm
      · rintro e r' ⟨herror, rfl⟩
        refine ⟨⟨h₁.inv, h₁.spares, fun _ => C.take_failed hread huse htaken herror.symm⟩, ?_⟩
        exact fun _ h => by cases h

/-! ## Origins -/

theorem failed_of_find {e : QueryError} (h : scope.host.find name = .error e) : C.Failed := by
  have hdata : scope.host.findData name = .error e := by
    simp only [Host.findData, h, bind, Except.bind]
  exact C.find_failed hdata

/-- An identifier whose declaration is missing only where lookups are cut short. -/
def Resolvable (C : Conduct scope) (id : DeclId) : Prop :=
  ∀ e, scope.host.declaration id = .error e → C.Failed

theorem resolvable_of_find {id : DeclId} (hfind : scope.host.find name = .ok (some id)) :
    C.Resolvable id := by
  intro e herror
  have hdata : scope.host.findData name = .error e := by
    simp only [Host.findData, hfind, herror, bind, Except.bind]
  exact C.find_failed hdata

/-- What comes of telling the origin of a declaration. A name that is being registered has its
origin afterwards, or has lost its prototype with the epoch. -/
structure Traced (C : Conduct scope) (name : String) (decl : Declaration) (path : NameSet)
    (r : Registry) (out : Except LookupError (Option String)) (r' : Registry) : Prop extends
    C.Done path r out r' where
  /-- Without an origin that is recorded at once. -/
  plain : Lookup.originOf? scope.settings.generatedMarkers decl = none → ¬ r'.Stranded name
  settled : ¬ C.Failed → name ∈ path → ¬ r'.Stranded name
  told {origin : Option String} : out = .ok origin → Lookup.knownOrigin? r name = some origin ∨
    Lookup.knownOrigin? r name = none ∧
      origin = Lookup.originOf? scope.settings.generatedMarkers decl

section Origins

variable {decl : Declaration} {r : Registry}

/-- What is cut short told no origin, and left none only where there is one to tell. -/
theorem Traced.error {path : NameSet} {r' : Registry} {e : LookupError} {prototype : String}
    (horigin : Lookup.originOf? scope.settings.generatedMarkers decl = some prototype)
    (h : C.Done path r (.error e : Except LookupError (Option String)) r') :
    C.Traced name decl path r (.error e) r' where
  toDone := h
  plain hnone := by cases horigin.symm.trans hnone
  settled hok := absurd (h.failed rfl) hok
  told ho := by cases ho

theorem yields_publishGenerated (hread : scope.host.Reads name decl) {prototype : String}
    (horigin : Lookup.originOf? scope.settings.generatedMarkers decl = some prototype)
    (hknown : Lookup.knownOrigin? r name = none) {r₁ : Registry}
    (h : C.Kept g.registering r r₁) :
    (Lookup.record (·.publishGenerated r.epoch name decl.file prototype) >>= fun _ =>
      pure (some prototype)).Yields r₁ g (C.Traced name decl g.registering r) := by
  -- Four facts: the property, the seal, that there is an origin to tell, and which one was told.
  refine .after (Lookup.exec_record _) (SessionM.yields_pure ⟨.ok ?_ _, fun hnone => ?_,
    fun hok hmem hs => ?_, fun ho => ?_⟩)
  · refine h.trans ⟨C.publishGenerated _ h.inv hread horigin, fun hs => .inl ?_, fun _ => ?_⟩
    · exact Registry.stranded_of_publishGenerated hs
    · exact Registry.seals_publishGenerated ..
  · cases horigin.symm.trans hnone
  · -- The origin is known, unless the epoch has passed; then the prototype is gone as well.
    by_cases hepoch : r₁.epoch = r.epoch
    · rw [← hepoch] at hs
      exact Registry.knownOrigin?_publishGenerated_self r₁ name decl.file prototype hs.2
    · have hnone := (h.seals hok).none_later hmem hepoch
      exact (Registry.stranded_of_publishGenerated hs).1 hnone
  · cases ho
    exact .inr ⟨hknown, horigin.symm⟩

theorem yields_publishNonGenerated (hread : scope.host.Reads name decl)
    (horigin : Lookup.originOf? scope.settings.generatedMarkers decl = none)
    (hknown : Lookup.knownOrigin? r name = none) (hr : C.Inv r) :
    (Lookup.record (·.publishNonGenerated r.epoch name decl.file) >>= fun _ =>
      pure (none : Option String)).Yields r g (C.Traced name decl g.registering r) := by
  have hanswered : ¬ (r.publishNonGenerated r.epoch name decl.file).Stranded name := fun hs =>
    Registry.knownOrigin?_publishNonGenerated_self r name decl.file hs.2
  have hkept : C.Kept g.registering r (r.publishNonGenerated r.epoch name decl.file) :=
    ⟨C.publishNonGenerated _ hr hread horigin,
      fun hs => .inl (Registry.stranded_of_publishNonGenerated hs),
      fun _ => Registry.seals_publishNonGenerated ..⟩
  refine .after (Lookup.exec_record _) (SessionM.yields_pure ⟨.ok hkept _,
    fun _ => hanswered, fun _ _ => hanswered, fun ho => ?_⟩)
  cases ho
  exact .inr ⟨hknown, horigin.symm⟩

/-- Telling the origin of a declaration registers its prototype. -/
theorem yields_checkGenerated {register : DeclId → Lookup (Option Descriptor)}
    (hregister : ∀ id r, C.Resolvable id → C.Inv r →
      (register id).Yields r g (C.Done g.registering r))
    (hread : scope.host.Reads name decl) (hr : C.Inv r) :
    (Lookup.checkGenerated scope register name decl).Yields r g
      (C.Traced name decl g.registering r) := by
  -- What is known already is told as it is.
  refine .after (Lookup.exec_ask _) ?_
  cases hknown : Lookup.knownOrigin? r name with
  | some origin =>
    have hanswered : ¬ r.Stranded name := by
      intro hs
      rw [hs.2] at hknown
      cases hknown
    refine SessionM.yields_pure ⟨.pure hr _, fun _ => hanswered, fun _ _ => hanswered, ?_⟩
    intro origin' ho
    cases ho
    exact .inl hknown
  | none =>
    refine .after (Lookup.exec_ask _) ?_
    cases horigin : Lookup.originOf? scope.settings.generatedMarkers decl with
    | none => exact yields_publishNonGenerated hread horigin hknown hr
    | some prototype =>
      dsimp only
      cases hfind : scope.host.find prototype with
      | error e =>
        refine ⟨_, _, SessionM.exec_bind_error rfl, .error horigin ⟨.refl hr, fun _ => ?_⟩⟩
        exact C.failed_of_find hfind
      | ok found =>
        refine .after (Lookup.exec_query_of_ok rfl) ?_
        cases found with
        | none => exact yields_publishGenerated hread horigin hknown (.refl hr)
        | some id =>
          -- The prototype is registered first; that may raise the epoch.
          have hregistered : (discard (register id)).Yields r g
              (C.Done (α := Unit) g.registering r) := by
            apply SessionM.Yields.discard
            exact (hregister id r (C.resolvable_of_find hfind) hr).mono fun _ _ h => h.discard
          refine hregistered.bind (fun _ r₁ h => ?_) fun e r₁ h => ?_
          · exact yields_publishGenerated hread horigin hknown h.toKept
          · exact .error horigin h.error

end Origins

/-! ## Registering declarations -/

/-- A declaration whose prototype is published and whose origin is told next is registered. -/
theorem Traced.done {path : NameSet} (hpath : g.registering = path.add name) (hnew : name ∉ path)
    {decl : Declaration} (hread : scope.host.Reads name decl) {r r₁ r' : Registry}
    (hspares : r.Spares r₁) {epoch : Nat} {prototype : Option Descriptor}
    {out : Except LookupError (Option String)}
    (h : C.Traced name decl g.registering (r₁.publishClass epoch name decl.file prototype) out r') :
    C.Done path r out r' := by
  refine ⟨⟨h.inv, fun {other} hs => ?_, fun hok => ?_⟩, h.failed⟩
  · by_cases hother : other = name
    · -- Its own registration is cut short only before an origin is recorded.
      subst hother
      exact .inr (.inr ⟨decl, hread, fun hnone => h.plain hnone hs⟩)
    · rcases h.stranded hs with ⟨hclass, horigin⟩ | hmem | horigin
      · rw [Registry.publishClass_classes_get?_of_ne _ _ _ _ hother] at hclass
        rw [Registry.knownOrigin?_publishClass] at horigin
        exact .inl (.of_spares hspares ⟨hclass, horigin⟩)
      · -- A name that is being registered is this one or one of those further out.
        rw [hpath] at hmem
        exact .inr (.inl ((NameSet.mem_add.1 hmem).resolve_left hother))
      · exact .inr (.inr horigin)
  · have hmem : name ∈ g.registering := hpath ▸ NameSet.mem_add.2 (.inl rfl)
    have hseals := h.seals hok
    rw [hpath] at hseals
    exact (Registry.Seals.of_spares hspares).trans
      (hseals.of_publishClass hnew (h.settled hok hmem))

/-- Registering publishes the prototype and the origin. -/
theorem yields_registerStep {register : DeclId → Lookup (Option Descriptor)}
    (hcalm : g.discovering = []) (hidle : g.defaulting = []) {path : NameSet}
    (hpath : g.registering = path.add name) (hnew : name ∉ path)
    (hregister : ∀ id r, C.Resolvable id → C.Inv r →
      (register id).Yields r g (C.Done g.registering r))
    {decl : Declaration} (hread : scope.host.Reads name decl) {r : Registry} (hr : C.Inv r) :
    (Lookup.registerStep scope register name decl).Yields r g (C.Done path r) := by
  refine .after (Lookup.exec_ask _) ?_
  -- The annotations are asked first, then the class entry is published, then the origin is told.
  have huses := yields_prototypeOfUses hcalm hidle hread decl.annotations (List.Subset.refl _) r hr
  refine huses.bind ?_ fun e r₁ h => done_of_kept h.1
  rintro prototype r₁ ⟨h₁, hresolves⟩
  refine .after (Lookup.exec_record _) ?_
  have hpublished : C.Inv (r₁.publishClass r.epoch name decl.file prototype) :=
    C.publishClass r.epoch h₁.inv hread (hresolves prototype rfl)
  have htraced : (discard (Lookup.checkGenerated scope register name decl)).Yields
      (r₁.publishClass r.epoch name decl.file prototype) g (C.Done (α := Unit) path r) := by
    apply SessionM.Yields.discard
    exact (yields_checkGenerated hregister hread hpublished).mono fun _ _ h =>
      (h.done hpath hnew hread h₁.spares).discard
  exact htraced.bind (fun _ r' h => SessionM.yields_pure (.ok h.toKept _)) fun _ _ h => h.error

/-- Registering a declaration of the host keeps the property, as long as the limit exceeds the
number of declared names that are not being registered. -/
theorem yields_registerWithin (limit : Nat) :
    ∀ {g : Guards} {id : DeclId} (r : Registry), C.Resolvable id → g.discovering = [] →
      g.defaulting = [] → Outlasts limit g.registering scope.host.names → C.Inv r →
      (Lookup.registerWithin scope limit id).Yields r g (C.Done g.registering r) := by
  -- What is being registered is declared and not repeated, so that the limit outlasts it.
  induction limit with
  | zero => exact fun _ _ _ _ hlimit => absurd hlimit Outlasts.not_zero
  | succ limit ih =>
    intro g id r hid hcalm hidle hlimit hr
    unfold Lookup.registerWithin
    cases hdecl : scope.host.declaration id with
    | error e => exact ⟨_, _, SessionM.exec_bind_error rfl, .refl hr, fun _ => hid e hdecl⟩
    | ok decl =>
      refine .after (Lookup.exec_query_of_ok rfl) ?_
      cases hname : decl.qualifiedName with
      | none => exact SessionM.yields_pure (.pure hr _)
      | some name =>
        refine .after (Lookup.exec_ask _) ?_
        -- A kept prototype ends the registration, and so does a registration of the name that is
        -- under way.
        cases r.classes.get? name with
        | some prototype => exact SessionM.yields_pure (.pure hr _)
        | none =>
          refine .after (Lookup.exec_askGuards _) ?_
          by_cases hmet : name ∈ g.registering
          · rw [if_pos (by simpa using hmet)]
            exact SessionM.yields_pure (.pure hr _)
          · rw [if_neg (by simpa using hmet)]
            have hread : scope.host.Reads name decl := ⟨id, hdecl, hname⟩
            refine .within (by simp [NameSet.remove_add hmet]) (.nested ?_)
            refine yields_registerStep (g := { g with
                registering := g.registering.add name, depth := g.depth + 1 })
              hcalm hidle rfl hmet (fun id' r' hid' hr' => ?_) hread hr
            exact ih r' hid' hcalm hidle (hlimit.add (C.listed hread) hmet) hr'

section Registering

variable {r : Registry} (hcalm : g.Calm)
include hcalm

theorem yields_registerClass {id : DeclId} (hid : C.Resolvable id) (hr : C.Inv r) :
    (Lookup.registerClass scope id).Yields r g (C.Done g.registering r) :=
  yields_registerWithin _ r hid hcalm.discovering hcalm.defaulting
    (.start hcalm.registering (by omega)) hr

theorem yields_prototype? (name : String) (hr : C.Inv r) :
    (Lookup.prototype? scope name).Yields r g (C.Done g.registering r) := by
  refine .after (Lookup.exec_ask _) ?_
  cases r.classes.get? name with
  | some prototype => exact SessionM.yields_pure (.pure hr _)
  | none =>
    dsimp only
    cases hfind : scope.host.find name with
    | error e =>
      exact ⟨_, _, SessionM.exec_bind_error rfl, .refl hr, fun _ => C.failed_of_find hfind⟩
    | ok found =>
      refine .after (Lookup.exec_query_of_ok rfl) ?_
      cases found with
      | none => exact SessionM.yields_pure (.pure hr _)
      | some id => exact yields_registerClass hcalm (C.resolvable_of_find hfind) hr

theorem yields_origin? (name : String) (hr : C.Inv r) :
    (Lookup.origin? scope name).Yields r g fun out r' => C.Done g.registering r out r' ∧
      ∀ origin, out = .ok origin → Lookup.OriginTold scope r name origin := by
  refine .after (Lookup.exec_ask _) ?_
  cases hknown : Lookup.knownOrigin? r name with
  | some origin =>
    refine SessionM.yields_pure ⟨.pure hr _, fun o ho => ?_⟩
    cases ho
    exact .known hknown
  | none =>
    refine .after (Lookup.exec_ask _) ?_
    by_cases hclass : r.classes.get? name = none
    · rw [if_neg (by simp [Table.contains, hclass])]
      -- Nothing is registered when the declaration cannot be read.
      refine (C.yields_declarationOf? hr name).bind ?_
        fun e r' h => ⟨done_of_kept h.1.error, fun _ ho => by cases ho⟩
      rintro found r' ⟨_, hfound⟩
      obtain ⟨rfl, hfind⟩ := hfound found rfl
      cases found with
      | none =>
        refine SessionM.yields_pure ⟨.pure hr _, fun o ho => ?_⟩
        cases ho
        exact .undeclared hfind
      | some decl =>
        have hdecl : scope.host.Declares name decl := Host.finds_some_iff.1 hfind
        obtain ⟨id, _, hid⟩ := hdecl.declaration
        have hread : scope.host.Reads name decl := ⟨id, hid, C.named hdecl⟩
        refine (yields_checkGenerated (fun id r hid hr => yields_registerClass hcalm hid hr) hread
          hr).mono fun out r'' h => ⟨h.toDone, fun o ho => ?_⟩
        rcases h.told ho with hkept | ⟨_, rfl⟩
        · exact .known hkept
        · exact .declared hdecl
    · -- That its prototype is kept counts as an answer.
      rw [if_pos (by simpa [Table.contains, Option.isSome_iff_ne_none] using hclass)]
      refine SessionM.yields_pure ⟨.pure hr _, fun o ho => ?_⟩
      cases ho
      exact .stranded ⟨hclass, hknown⟩

end Registering

/-! ## Resolving validation annotations -/

section Validation

/-- What comes of asking what an annotation validates. -/
structure Resolved (C : Conduct scope) (name : String) (path : NameSet) (r : Registry)
    (out : Except LookupError ValidationDescriptor) (r' : Registry) : Prop extends
    C.Done path r out r' where
  validated {d : ValidationDescriptor} : out = .ok d → C.Validated name d

namespace Resolved

variable {path : NameSet} {r r' : Registry}

theorem ok (h : C.Kept path r r') {d : ValidationDescriptor} (hd : C.Validated name d) :
    C.Resolved name path r (.ok d) r' where
  toDone := .ok h d
  validated hok := by
    cases hok
    exact hd

theorem error {α : Type} {e : LookupError}
    (h : C.Done path r (.error e : Except LookupError α) r') :
    C.Resolved name path r (.error e) r' where
  toDone := h.error
  validated h := by cases h

end Resolved

theorem failed_of_targetsOf {value : AttrValue} {e : QueryError}
    (h : Lookup.targetsOf scope value = .error e) : C.Failed := by
  have hmapM (names : List String) {e : QueryError}
      (h : names.mapM (Lookup.targetsOfClass scope) = .error e) : C.Failed := by
    induction names generalizing e with
    -- The induction is on the classes; the first one that cannot be looked up makes the whole fail.
    | nil => cases h
    | cons name names ih =>
      rw [List.mapM_cons] at h
      cases hdata : scope.host.findData name with
      | error e' => exact C.find_failed hdata
      | ok entry =>
        cases hrest : names.mapM (Lookup.targetsOfClass scope) with
        | error e' => exact ih hrest
        | ok targets =>
          rw [Lookup.targetsOfClass, hdata, hrest] at h
          cases h
  cases hclasses : value.classes.mapM (Lookup.targetsOfClass scope) with
  | error e' => exact hmapM _ hclasses
  | ok targets =>
    rw [Lookup.targetsOf, hclasses] at h
    cases h

theorem exec_inheritedTargets (scope : Scope) (declaresTargets : Bool) (mark : AnnotationUse)
    (parent : ValidationDescriptor) (s : Session) :
    (Lookup.inheritedTargets scope declaresTargets mark parent).exec s =
      ((scope.takenTargets declaresTargets mark parent).mapError .query, s) := by
  rw [Lookup.inheritedTargets, Scope.takenTargets]
  -- The targets are taken over from the parent, or read off the annotation, or left out.
  split
  · rfl
  · cases mark.attr? "targets" with
    | none => rfl
    | some value =>
      simp only [SessionM.exec_map]
      cases Lookup.targetsOf scope value <;> rfl

theorem failed_of_takenTargets {declaresTargets : Bool} {mark : AnnotationUse}
    {parent : ValidationDescriptor} {e : QueryError}
    (h : scope.takenTargets declaresTargets mark parent = .error e) : C.Failed := by
  rw [Scope.takenTargets] at h
  split at h
  · cases h
  · split at h
    · rename_i value _
      cases htargets : Lookup.targetsOf scope value with
      | error e' => exact C.failed_of_targetsOf htargets
      | ok targets =>
        rw [htargets] at h
        cases h
    · cases h

theorem yields_inheritedTargets {r : Registry} (hr : C.Inv r) (declaresTargets : Bool)
    (mark : AnnotationUse) (parent : ValidationDescriptor) :
    (Lookup.inheritedTargets scope declaresTargets mark parent).Yields r g fun out r' =>
      C.Done g.registering r out r' ∧ ∀ targets, out = .ok targets →
        scope.takenTargets declaresTargets mark parent = .ok targets := by
  refine ⟨_, r, exec_inheritedTargets .., ?_⟩
  cases htargets : scope.takenTargets declaresTargets mark parent with
  | error e =>
    exact ⟨⟨.refl hr, fun _ => C.failed_of_takenTargets htargets⟩, fun _ h => by cases h⟩
  | ok targets =>
    refine ⟨.pure hr _, fun targets' hok => ?_⟩
    cases hok
    rfl

variable {facets : String → Lookup ValidationDescriptor}

/-- The annotations on an annotation type are resolved one by one. -/
theorem yields_facetsOfUses {decl : Declaration} (hdecl : scope.host.Declares name decl)
    (hkind : decl.isAnnotationType = true) (hpath : ∀ m ∈ g.validating, m = name ∨ C.Nests m name)
    (hfacets : ∀ mark r, C.Inv r → mark ∉ g.validating → (∀ m ∈ g.validating, C.Nests m mark) →
      (facets mark).Yields r g (C.Resolved mark g.registering r))
    (declaresTargets : Bool) (marks : List AnnotationUse) (hmarks : marks ⊆ decl.annotations) :
    ∀ r, C.Inv r → (Lookup.facetsOfUses scope facets name declaresTargets marks).Yields r g
      fun out r' => C.Done g.registering r out r' ∧
        ∀ d, out = .ok d → ∃ found, FirstValidation C.Nests C.Validated marks found ∧
          scope.facetsFrom name declaresTargets found = .ok d := by
  -- The induction is on the annotations: one that is being resolved is skipped, the first one that
  -- validates decides, and any other is passed over.
  induction marks with
  | nil =>
    intro r hr
    refine SessionM.yields_pure ⟨.pure hr _, fun d hd => ⟨none, .nil, ?_⟩⟩
    cases hd
    rfl
  | cons mark marks ih =>
    intro r hr
    obtain ⟨hmark, hmarks⟩ := List.cons_subset.1 hmarks
    have hnests : ∀ m ∈ g.validating, C.Nests m mark.name := by
      intro m hm
      rcases hpath m hm with rfl | hname
      · exact C.nests hdecl hkind hmark
      · exact C.nests_trans hname (C.nests hdecl hkind hmark)
    refine .after (Lookup.exec_askGuards _) ?_
    by_cases hmet : mark.name ∈ g.validating
    · -- It is being resolved, and leads to itself by way of this declaration.
      rw [if_pos (by simpa using hmet)]
      refine (ih hmarks r hr).mono fun out r' h => ⟨h.1, fun d hd => ?_⟩
      obtain ⟨found, hfirst, hfacets⟩ := h.2 d hd
      exact ⟨found, .circular (hnests _ hmet) hfirst, hfacets⟩
    · rw [if_neg (by simpa using hmet)]
      refine (hfacets mark.name r hr hmet hnests).bind ?_
        fun e r₁ h => ⟨h.toDone.error, fun _ hd => by cases hd⟩
      intro parent r₁ h₁
      refine .after (Lookup.exec_record _) ?_
      have h₂ : C.Kept g.registering r (r₁.recordDependent mark.name name) :=
        h₁.toKept.trans (.of_spares (C.depend _ _ h₁.inv) (Registry.spares_recordDependent ..))
      by_cases hvalid : parent.isValidation = true
      · -- The first one that validates decides.
        rw [if_pos hvalid]
        refine (yields_inheritedTargets h₂.inv declaresTargets mark parent).bind ?_
          fun e r₂ h => ⟨⟨h₂.trans h.1.toKept, fun _ => h.1.failed rfl⟩, fun _ hd => by cases hd⟩
        rintro targets r₂ ⟨h₃, htargets⟩
        refine SessionM.yields_pure ⟨.ok (h₂.trans h₃.toKept) _, fun d hd => ?_⟩
        cases hd
        refine ⟨some (mark, parent), .taken (h₁.validated rfl) hvalid, ?_⟩
        rw [Scope.facetsFrom, htargets targets rfl]
        rfl
      · rw [if_neg hvalid]
        refine (ih hmarks _ h₂.inv).mono fun out r' h => ⟨⟨h₂.trans h.1.toKept, h.1.failed⟩, ?_⟩
        intro d hd
        obtain ⟨found, hfirst, hfacets⟩ := h.2 d hd
        exact ⟨found, .passed (h₁.validated rfl) (by simpa using hvalid) hfirst, hfacets⟩

/-- The answer about an annotation is that of its declaration, and is kept. -/
theorem yields_facetsStep {r : Registry} (hr : C.Inv r)
    (hroot : ValidationDescriptor.root? name = none)
    (hpath : ∀ m ∈ g.validating, m = name ∨ C.Nests m name)
    (hfacets : name ∈ scope.host.names → ∀ mark r, C.Inv r → mark ∉ g.validating →
      (∀ m ∈ g.validating, C.Nests m mark) →
      (facets mark).Yields r g (C.Resolved mark g.registering r)) :
    (Lookup.facetsStep scope facets name).Yields r g (C.Resolved name g.registering r) := by
  refine .after (Lookup.exec_ask _) ?_
  refine (C.yields_declarationOf? hr name).bind ?_
    fun e r' h => .error (done_of_kept h.1)
  rintro decl r' ⟨_, hfound⟩
  obtain ⟨rfl, hfind⟩ := hfound decl rfl
  -- Every way to answer ends with a publication.
  have hpublish {r₁ : Registry} {d : ValidationDescriptor} (hd : C.Validated name d)
      (h₁ : C.Kept g.registering r' r₁) :
      (Lookup.record (·.publishValidator r'.epoch name (decl.map (·.file)) d) >>=
        fun _ => pure d).Yields r₁ g (C.Resolved name g.registering r') := by
    refine .after (Lookup.exec_record _) (SessionM.yields_pure (.ok ?_ hd))
    exact h₁.trans (.of_spares (C.publishValidator _ h₁.inv hfind hd)
      (Registry.spares_publishValidator ..))
  cases hdecl : decl.filter (·.isAnnotationType) with
  | none => exact hpublish (C.validatedPlain hroot hfind hdecl) (.refl hr)
  | some decl' =>
    obtain ⟨rfl, hkind⟩ := Option.filter_eq_some_iff.1 hdecl
    have hdeclares : scope.host.Declares name decl' := Host.finds_some_iff.1 hfind
    have huses := yields_facetsOfUses hdeclares hkind hpath (hfacets hdeclares.mem_names)
      decl'.declaresTargets decl'.annotations (List.Subset.refl _) r' hr
    refine huses.bind (fun d r₁ h => ?_) fun e r₁ h => .error h.1
    obtain ⟨found, hfirst, hfacets⟩ := h.2 d rfl
    exact hpublish (C.validatedUses hroot hdeclares hkind hfirst hfacets) h.1.toKept

/-- Resolving an annotation, as long as the limit exceeds the number of declared names that are not
being resolved. -/
theorem yields_facetsWithin (limit : Nat) :
    ∀ {name : String} {g : Guards} (r : Registry), Outlasts limit g.validating scope.host.names →
      C.Inv r → name ∉ g.validating → (∀ m ∈ g.validating, C.Nests m name) →
      (Lookup.facetsWithin scope limit name).Yields r g (C.Resolved name g.registering r) := by
  -- What is being resolved is declared and not repeated, so that the limit outlasts it.
  induction limit with
  | zero => exact fun _ hlimit => absurd hlimit Outlasts.not_zero
  | succ limit ih =>
    intro name g r hlimit hr hfresh hnests
    unfold Lookup.facetsWithin
    cases hroot : ValidationDescriptor.root? name with
    | some d =>
      exact SessionM.yields_pure (.ok (.refl hr) (C.validatedRoot hroot))
    | none =>
      -- Built-in and kept descriptors are answered without a look at the declaration.
      refine .after (Lookup.exec_ask _) ?_
      cases hkept : r.validators.get? name with
      | some d =>
        exact SessionM.yields_pure (.ok (.refl hr) (C.validatedKept hr hkept))
      | none =>
        refine .after (Lookup.exec_askGuards _) ?_
        rw [if_neg (by simpa using hfresh)]
        have hpath : ∀ m ∈ g.validating.add name, m = name ∨ C.Nests m name := fun m hm =>
          (NameSet.mem_add.1 hm).imp_right (hnests m)
        refine .within (by simp [NameSet.remove_add hfresh]) ?_
        refine yields_facetsStep (g := { g with validating := g.validating.add name }) hr hroot
          hpath fun hname mark r₁ hr₁ hmet hnest => ?_
        exact ih r₁ (hlimit.add hname hfresh) hr₁ hmet hnest

theorem yields_validationDescriptor (hidle : g.validating = []) (name : String) {r : Registry}
    (hr : C.Inv r) : (Lookup.validationDescriptor scope name).Yields r g
      (C.Resolved name g.registering r) :=
  yields_facetsWithin _ r (.start hidle (by omega)) hr (by simp [hidle]) (by simp [hidle])

end Validation

end Conduct

end PrototypeLens
