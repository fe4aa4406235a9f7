import PrototypeLens.Proofs.Descriptor.Taking
import PrototypeLens.Proofs.Template.Meaning

/-!
# The enrichers of prototypes

A descriptor holds the enrichers that the classes named by a usage or by an element default declare.
So every enricher of a declared prototype is the one that its class declares.

## Layers

- `Enricher.ofDeclaration_className`: an enricher is called by the class that it was read from.
- `Host.DeclaresEnricher` and `Descriptor.Enriched`: the enrichers of a descriptor, and those that
  it passes on, are the ones that their classes declare.
- `Enriched.takeAttr`: an attribute replaces enrichers by declared ones, or leaves them alone.

## Main results

- `Enriched.takeUsage`, `takeDefaults` and `ownDefaults`: so do usages and element defaults.
- `Scope.Defaults.enriched` and `Scope.Prototype.enriched`: so the declared defaults and prototypes
  hold declared enrichers only.
-/

namespace PrototypeLens

namespace Enricher

theorem takeParameterAttr_className (e : Enricher) (attr : Attr AttrValue) :
    (e.takeParameterAttr attr).className = e.className := by
  unfold takeParameterAttr
  -- No attribute is the class itself.
  repeat' split
  all_goals rfl

theorem foldl_className {α : Type} {f : Enricher → α → Enricher}
    (h : ∀ e a, (f e a).className = e.className) (as : List α) (e : Enricher) :
    (as.foldl f e).className = e.className := by
  -- The induction is on the list.
  induction as generalizing e with
  | nil => rfl
  | cons a as ih => rw [List.foldl_cons, ih, h]

theorem takeAttr_className (e : Enricher) (attr : Attr AttrValue) :
    (e.takeAttr attr).className = e.className := by
  unfold takeAttr
  dsimp only
  split
  case h_8 =>
    -- The parameters are described by an annotation of their own.
    split
    · exact foldl_className takeParameterAttr_className _ e
    · rfl
  all_goals rfl

/-- An enricher is called by the class that declares it. -/
theorem ofDeclaration_className (className : String) (decl : Declaration) :
    (ofDeclaration className decl).className = className := by
  unfold ofDeclaration
  split
  · exact foldl_className takeAttr_className _ _
  · rfl

end Enricher

/-! ## Enrichers that their classes declare -/

/-- The enricher is the one that its class declares. -/
def Host.DeclaresEnricher (host : Host) (e : Enricher) : Prop :=
  ∃ decl, host.Declares e.className decl ∧ Enricher.ofDeclaration e.className decl = e

/-- The enrichers of a descriptor and those that it passes on are the ones that their classes
declare. -/
def Descriptor.Enriched (host : Host) (d : Descriptor) : Prop :=
  ∀ e ∈ d.enrichers ++ d.inheritedEnrichers, host.DeclaresEnricher e

variable {scope : Scope} {d d' : Descriptor}

/-- An enricher that resolves is the one that its class declares. -/
theorem Lookup.resolveEnricher_declared {name : String} {e : Enricher}
    (hok : resolveEnricher scope name = .ok (some e)) : scope.host.DeclaresEnricher e := by
  rw [resolveEnricher] at hok
  cases hentry : scope.host.findData name with
  | error e =>
    rw [hentry] at hok
    cases hok
  | ok entry =>
    rw [hentry] at hok
    cases entry with
    | none => cases hok
    | some found =>
      cases hok
      rw [Host.DeclaresEnricher, Enricher.ofDeclaration_className]
      exact ⟨found.2, ⟨found.1, hentry⟩, rfl⟩

namespace Descriptor

open Lookup (resolveEnricher)

theorem resolveEnrichers_declared {value : AttrValue} {enrichers : List Enricher}
    (hok : resolveEnrichers (resolveEnricher scope) value = .ok enrichers) :
    ∀ e ∈ enrichers, scope.host.DeclaresEnricher e := by
  rw [resolveEnrichers] at hok
  cases hfound : value.classes.mapM (resolveEnricher scope) with
  | error e =>
    rw [hfound] at hok
    cases hok
  | ok found =>
    rw [hfound] at hok
    cases hok
    intro e he
    -- A class that does not resolve is left out.
    obtain ⟨_, hmem, rfl⟩ := List.mem_filterMap.1 he
    obtain ⟨name, _, hname⟩ := (mem_iff_of_mapM hfound).1 hmem
    exact Lookup.resolveEnricher_declared hname

theorem takePlain_enrichers (origin : AttrOrigin) (d : Descriptor) (name : String)
    (value : AttrValue) : (takePlain origin d name value).enrichers = d.enrichers ∧
      (takePlain origin d name value).inheritedEnrichers = d.inheritedEnrichers := by
  unfold takePlain
  dsimp only
  split
  case h_1 =>
    cases origin with
    | usage => cases contributedText? .usage value <;> exact ⟨rfl, rfl⟩
    | templateDefault => exact ⟨rfl, rfl⟩
  all_goals exact ⟨rfl, rfl⟩

theorem enriched_empty (host : Host) : Enriched host {} := by
  intro e he
  cases he

/-- An attribute replaces enrichers by declared ones. -/
theorem Enriched.takeAttr (h : d.Enriched scope.host) {origin : AttrOrigin} {usage name : String}
    {value : AttrValue}
    (hok : takeAttr (resolveEnricher scope) origin usage d name value = .ok d') :
    d'.Enriched scope.host := by
  obtain ⟨hown, hpassed⟩ := List.forall_mem_append.1 h
  unfold Descriptor.takeAttr at hok
  -- The strategy, the two lists of enrichers, and all other attributes.
  split at hok
  · split at hok
    · cases hok
      exact h
    · cases hok
  · split at hok
    · rename_i hresolved
      cases hok
      exact List.forall_mem_append.2 ⟨resolveEnrichers_declared hresolved, hpassed⟩
    · cases hok
  · split at hok
    · rename_i hresolved
      cases hok
      exact List.forall_mem_append.2 ⟨hown, resolveEnrichers_declared hresolved⟩
    · cases hok
  · cases hok
    obtain ⟨hsame, hsame'⟩ := takePlain_enrichers origin d name value
    rwa [Enriched, hsame, hsame']

theorem Enriched.takeUsage (h : d.Enriched scope.host) {mark : AnnotationUse}
    (hok : d.takeUsage (resolveEnricher scope) mark = .ok d') : d'.Enriched scope.host :=
  foldlM_induct (fun _ _ _ _ hd => hd.takeAttr)
    (show (d.setCustom prototypeKey (.text mark.name)).Enriched scope.host from h) hok

theorem Enriched.takeDefaults (h : d.Enriched scope.host) {template : String}
    {methods : List Method}
    (hok : d.takeDefaults (resolveEnricher scope) template methods = .ok d') :
    d'.Enriched scope.host := by
  refine foldlM_induct (fun method _ d d' hd hmethod => ?_) h hok
  split at hmethod
  · exact hd.takeAttr hmethod
  · cases hmethod
    exact hd

theorem Enriched.ownDefaults (h : d.Enriched scope.host) {name : String}
    {decl : Option Declaration} (hok : scope.ownDefaults name decl d = .ok d') :
    d'.Enriched scope.host := by
  unfold Scope.ownDefaults at hok
  dsimp only at hok
  -- The flag of an enumeration is no enricher.
  have hflagged : Enriched scope.host (if name = enumPrototype
      then d.setCustom enumKey (.flag true) else d) := by
    split
    · exact h
    · exact h
  cases decl with
  | none =>
    cases hok
    exact hflagged
  | some decl => exact hflagged.takeDefaults hok

end Descriptor

/-! ## Declared prototypes -/

namespace Scope

variable {isTemplate : String → Prop} {name : String}

/-- The enrichers among the defaults of a template are the ones that their classes declare. -/
theorem Defaults.enriched (h : scope.Defaults isTemplate name d) : d.Enriched scope.host := by
  -- The induction is on how the defaults are declared.
  induction h with
  | base _ _ hown => exact (Descriptor.enriched_empty _).ownDefaults hown
  | inherited _ _ _ htaken hown ih => exact (ih.takeUsage htaken).ownDefaults hown

/-- The enrichers of a declared prototype are the ones that their classes declare. -/
theorem Prototype.enriched (h : scope.Prototype isTemplate name (some d)) :
    d.Enriched scope.host := by
  rcases h with ⟨decl, _, hprototype⟩ | ⟨_, hnone⟩
  · cases hprototype with
    | some _ hdefaults htaken => exact hdefaults.enriched.takeUsage htaken
  · cases hnone

end Scope

end PrototypeLens
