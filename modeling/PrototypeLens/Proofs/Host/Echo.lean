import PrototypeLens.Proofs.Program.Consistent
import PrototypeLens.Proofs.Template.Defaults
import PrototypeLens.Proofs.Validation.Meaning

/-!
# Hosts that fail

A host may fail to answer some queries, for whatever reason, and answer the others as before. What
can still be computed from it is what would have been computed otherwise.

## Layers

- `Repeats`: the second result is the first one, unless that is a failure. It passes through `bind`,
  `map`, `mapM` and `foldlM`.
- `Host.Echoes`: every answer of a host is that of another one, and its failures say nothing.
- Descriptors, defaults and validation descriptors, in the shape of their definitions.

## Main results

- `Program.Consistent.echoes`: a program that fails some queries echoes the one that does not.
- `Host.Echoes.defaultsIn`: defaults that can be computed are the defaults.
- `Host.Echoes.facetsFrom`: so are what annotations above give to a validation descriptor.
-/

namespace PrototypeLens

/-! ## Results that may be missing -/

/-- The second result is the first one, unless that is a failure. -/
def Repeats {ε α : Type} (x y : Except ε α) : Prop := ∀ a, x = .ok a → y = .ok a

namespace Repeats

variable {ε ε' α β : Type} {x y : Except ε α}

theorem refl (x : Except ε α) : Repeats x x := fun _ => id

theorem bind {f g : α → Except ε β} (h : Repeats x y) (hf : ∀ a, Repeats (f a) (g a)) :
    Repeats (x >>= f) (y >>= g) := by
  intro b hb
  -- The first result succeeded, or there would be nothing to repeat.
  cases x with
  | error e => cases hb
  | ok a =>
    rw [h a rfl]
    exact hf a b hb

theorem map (h : Repeats x y) (f : α → β) : Repeats (x.map f) (y.map f) := by
  intro b hb
  cases x with
  | error e => cases hb
  | ok a =>
    rw [h a rfl]
    exact hb

theorem mapError (h : Repeats x y) (f : ε → ε') : Repeats (x.mapError f) (y.mapError f) := by
  intro a ha
  cases x with
  | error e => cases ha
  | ok a' =>
    rw [h a' rfl]
    exact ha

theorem mapM {f g : α → Except ε β} (h : ∀ a, Repeats (f a) (g a)) (as : List α) :
    Repeats (as.mapM f) (as.mapM g) := by
  induction as with
  | nil => exact refl _
  | cons a as ih =>
    rw [List.mapM_cons, List.mapM_cons]
    -- The results so far are the same, so that the rest is asked for from the same ones.
    exact (h a).bind fun b => ih.bind fun bs => refl _

theorem foldlM {f g : β → α → Except ε β} (h : ∀ b a, Repeats (f b a) (g b a)) (as : List α) :
    ∀ b, Repeats (as.foldlM f b) (as.foldlM g b) := by
  induction as with
  | nil => exact fun _ => refl _
  | cons a as ih =>
    intro b
    rw [List.foldlM_cons, List.foldlM_cons]
    exact (h b a).bind ih

end Repeats

/-! ## Hosts -/

/-- Every answer of `view` is that of `host`; where `view` fails, nothing is said. They list the
same names. -/
structure Host.Echoes (view host : Host) : Prop where
  names : view.names = host.names
  find (name : String) : Repeats (view.find name) (host.find name)
  declaration (id : DeclId) : Repeats (view.declaration id) (host.declaration id)
  file (id : FileId) : Repeats (view.file id) (host.file id)
  declarationsIn (id : FileId) : Repeats (view.declarationsIn id) (host.declarationsIn id)

theorem Host.Echoes.refl (host : Host) : host.Echoes host where
  names := rfl
  find _ := .refl _
  declaration _ := .refl _
  file _ := .refl _
  declarationsIn _ := .refl _

/-- A consistent program that is not ready or cancelled, or where queries are told to fail. -/
theorem Program.Consistent.echoes {p : Program} (h : p.Consistent) (ready cancelled : Bool)
    (faults : List (Query × QueryError)) :
    { p with ready, cancelled, faults }.toHost.Echoes p.toHost := by
  have hanswer {α : Type} (query : Query) (result : Except QueryError α) :
      Repeats ({ p with ready, cancelled, faults }.answer query result)
        (p.answer query result) := by
    intro a ha
    -- Without faults, the program answers with the result itself.
    rw [h.answer]
    exact answer_eq_ok ha
  exact {
    names := rfl
    find := fun name => hanswer (.find name) (.ok (p.index.get? name))
    declaration := fun _ => hanswer _ _
    file := fun _ => hanswer _ _
    declarationsIn := fun id => hanswer (.declarationsIn id) (.ok (p.idsIn id)) }

namespace Host.Echoes

variable {view host : Host} {name : String} {decl : Declaration} (h : view.Echoes host)
include h

theorem findData (name : String) : Repeats (view.findData name) (host.findData name) := by
  -- What a name resolves to is asked for in turn, and both answers are the same.
  refine (h.find name).bind fun found => ?_
  cases found with
  | none => exact .refl _
  | some id => exact (h.declaration id).bind fun decl => .refl _

theorem finds {found : Option Declaration} (hfind : view.Finds name found) :
    host.Finds name found := by
  obtain ⟨entry, hentry, hdecl⟩ := hfind
  exact ⟨entry, h.findData name entry hentry, hdecl⟩

theorem declares (hdecl : view.Declares name decl) : host.Declares name decl := by
  obtain ⟨id, hentry⟩ := hdecl
  exact ⟨id, h.findData name _ hentry⟩

theorem carries {mark : String} (hcarries : view.Carries name mark) : host.Carries name mark := by
  obtain ⟨decl, hdecl, huse⟩ := hcarries
  exact ⟨decl, h.declares hdecl, huse⟩

theorem wellFormed {isTemplate : String → Prop} (hwf : host.WellFormed isTemplate) :
    view.WellFormed isTemplate where
  uses hdecl := hwf.uses (h.declares hdecl)
  elements hdecl := hwf.elements (h.declares hdecl)

end Host.Echoes

/-! ## Descriptors -/

namespace Descriptor

variable {resolve resolve' : String → Except QueryError (Option Enricher)}
  (h : ∀ name, Repeats (resolve name) (resolve' name))
include h

/-- Enrichers that are resolved are the same. -/
theorem repeats_setEnrichers (value : AttrValue) (set : List Enricher → Descriptor) :
    Repeats (match resolveEnrichers resolve value with
      | .ok enrichers => .ok (set enrichers)
      | .error e => .error (LookupError.query e))
    (match resolveEnrichers resolve' value with
      | .ok enrichers => .ok (set enrichers)
      | .error e => .error (LookupError.query e)) := by
  have henrichers : Repeats (resolveEnrichers resolve value) (resolveEnrichers resolve' value) :=
    (Repeats.mapM h value.classes).map _
  -- If resolving failed, taking the attribute failed with it.
  intro d hd
  cases henriched : resolveEnrichers resolve value with
  | error e =>
    rw [henriched] at hd
    cases hd
  | ok enrichers =>
    rw [henriched] at hd
    rw [henrichers _ henriched]
    exact hd

theorem repeats_takeAttr (origin : AttrOrigin) (usage : String) (d : Descriptor) (name : String)
    (value : AttrValue) : Repeats (takeAttr resolve origin usage d name value)
      (takeAttr resolve' origin usage d name value) := by
  unfold takeAttr
  split
  · exact .refl _
  · exact repeats_setEnrichers h value fun enrichers => { d with enrichers }
  · exact repeats_setEnrichers h value fun inheritedEnrichers => { d with inheritedEnrichers }
  · exact .refl _

theorem repeats_takeUsage (d : Descriptor) (mark : AnnotationUse) :
    Repeats (d.takeUsage resolve mark) (d.takeUsage resolve' mark) :=
  Repeats.foldlM (fun d _ => repeats_takeAttr h _ _ d _ _) _ _

theorem repeats_takeDefaults (d : Descriptor) (template : String) (methods : List Method) :
    Repeats (d.takeDefaults resolve template methods)
      (d.takeDefaults resolve' template methods) := by
  refine Repeats.foldlM (fun d method => ?_) _ _
  split
  · exact repeats_takeAttr h _ _ d _ _
  · exact .refl _

end Descriptor

namespace Host.Echoes

variable {view host : Host} {settings : DiscoverySettings} (h : view.Echoes host)
include h

theorem resolveEnricher (name : String) :
    Repeats (Lookup.resolveEnricher ⟨view, settings⟩ name)
      (Lookup.resolveEnricher ⟨host, settings⟩ name) :=
  (h.findData name).map _

theorem takeUsage (d : Descriptor) (mark : AnnotationUse) :
    Repeats (d.takeUsage (Lookup.resolveEnricher ⟨view, settings⟩) mark)
      (d.takeUsage (Lookup.resolveEnricher ⟨host, settings⟩) mark) :=
  Descriptor.repeats_takeUsage h.resolveEnricher d mark

theorem ownDefaults (name : String) (decl : Option Declaration) (inherited : Descriptor) :
    Repeats (Scope.ownDefaults ⟨view, settings⟩ name decl inherited)
      (Scope.ownDefaults ⟨host, settings⟩ name decl inherited) := by
  cases decl with
  | none => exact .refl _
  | some decl => exact Descriptor.repeats_takeDefaults h.resolveEnricher _ _ _

/-! ## Defaults -/

theorem keptOr (r : Registry)
    {recur recur' : String → Option Declaration → Except LookupError Descriptor}
    (hrecur : ∀ name decl, Repeats (recur name decl) (recur' name decl)) (name : String) :
    Repeats (Scope.keptOr ⟨view, settings⟩ r recur name)
      (Scope.keptOr ⟨host, settings⟩ r recur' name) := by
  unfold Scope.keptOr
  split
  · exact .refl _
  · exact ((h.findData name).mapError _).bind fun entry => hrecur name _

theorem inheritedIn (r : Registry)
    {recur recur' : String → Option Declaration → Except LookupError Descriptor}
    (hrecur : ∀ name decl, Repeats (recur name decl) (recur' name decl))
    (parent : Option AnnotationUse) :
    Repeats (Scope.inheritedIn ⟨view, settings⟩ r recur parent)
      (Scope.inheritedIn ⟨host, settings⟩ r recur' parent) := by
  cases parent with
  | none => exact .refl _
  | some parent =>
    exact (h.keptOr r hrecur parent.name).bind fun defaults => h.takeUsage defaults parent

theorem defaultsIn (r : Registry) (limit : Nat) :
    ∀ (path : NameSet) (name : String) (decl : Option Declaration),
      Repeats (Scope.defaultsIn ⟨view, settings⟩ r limit path name decl)
        (Scope.defaultsIn ⟨host, settings⟩ r limit path name decl) := by
  -- The limit is the same for both hosts, and so is the path, so that they stop at the same point.
  induction limit with
  | zero => exact fun _ _ _ => .refl _
  | succ limit ih =>
    intro path name decl
    rw [Scope.defaultsIn, Scope.defaultsIn]
    split
    · exact .refl _
    · -- What is inherited comes first, and the own defaults are taken from there.
      exact (h.inheritedIn r (ih _) _).bind fun inherited => h.ownDefaults name decl inherited

/-! ## Validation descriptors -/

theorem targetsOf (value : AttrValue) : Repeats (Lookup.targetsOf ⟨view, settings⟩ value)
    (Lookup.targetsOf ⟨host, settings⟩ value) :=
  (Repeats.mapM (fun name => (h.findData name).map _) value.classes).map _

theorem facetsFrom (name : String) (declaresTargets : Bool)
    (found : Option (AnnotationUse × ValidationDescriptor)) :
    Repeats (Scope.facetsFrom ⟨view, settings⟩ name declaresTargets found)
      (Scope.facetsFrom ⟨host, settings⟩ name declaresTargets found) := by
  cases found with
  | none => exact .refl _
  | some found =>
    have htargets : Repeats
        (Scope.takenTargets ⟨view, settings⟩ declaresTargets found.1 found.2)
        (Scope.takenTargets ⟨host, settings⟩ declaresTargets found.1 found.2) := by
      unfold Scope.takenTargets
      split
      · exact .refl _
      · split
        · exact (h.targetsOf _).map _
        · exact .refl _
    exact htargets.map _

end Host.Echoes

end PrototypeLens
