import Mathlib.Data.List.Basic
import PrototypeLens.Proofs.Descriptor.Taking
import PrototypeLens.Proofs.Session.Conduct
import PrototypeLens.Proofs.Validation.Reach

/-!
# Searching for validation annotations

Resolving an annotation finds out whether it shows to validate by the answers that are kept, no more
and no less. On the way it keeps answers about other annotations; as long as nothing is found, those
are right denials for where the search stands, though not for a search that begins elsewhere.

## Layers

- `Registry.Verdicts`, `Host.Judges`: kept answers agree with a verdict, and searching preserves
  that.
- `Searched`, `Searches`: what comes of a search, whether it found what shows and what it kept.

## Main results

- `Lookup.searches_facetsOfUses`: the annotations on a declaration, by induction on the list.
- `Lookup.searches_facetsStep`: one annotation that is neither a root nor kept.
- `Lookup.searches_facetsWithin`: the bounded recursion, by induction on the limit.
- `Lookup.searches_validationDescriptor`: a whole question between calls.
-/

namespace PrototypeLens

open Relation (TransGen)
open ValidationDescriptor (root?)

namespace Host.Findable

variable {scope : Scope} (h : scope.host.Findable)
include h

theorem finds (name : String) : ∃ decl, scope.host.Finds name decl := by
  obtain ⟨entry, hentry⟩ := h name
  exact ⟨_, entry, hentry, rfl⟩

theorem takenTargets_ok (declaresTargets : Bool) (mark : AnnotationUse)
    (parent : ValidationDescriptor) :
    ∃ targets, scope.takenTargets declaresTargets mark parent = .ok targets := by
  rw [Scope.takenTargets]
  -- The targets are none, those of the usage or those of the parent; only the second asks the host.
  split
  · exact ⟨none, rfl⟩
  · split
    · rename_i value _
      have hclass (name : String) : ∃ types, Lookup.targetsOfClass scope name = .ok types := by
        obtain ⟨entry, hentry⟩ := h name
        exact ⟨_, by rw [Lookup.targetsOfClass, hentry]; rfl⟩
      obtain ⟨types, htypes⟩ := exists_mapM_ok_iff.2
        fun name (_ : name ∈ value.classes) => hclass name
      exact ⟨some types.flatten, by rw [Lookup.targetsOf, htypes]; rfl⟩
    · exact ⟨parent.targets, rfl⟩

end Host.Findable

/-! ## Verdicts -/

/-- Every kept answer agrees with a verdict on whether its annotation validates. -/
def Registry.Verdicts (Verdict : String → Bool → Prop) (r : Registry) : Prop :=
  ∀ {name : String} {d : ValidationDescriptor}, r.validators.get? name = some d →
    Verdict name d.isValidation

/-- What a search finds out agrees with the verdict if the kept answers do. -/
def Host.Judges (host : Host) (Verdict : String → Bool → Prop) : Prop :=
  ∀ {r : Registry} {path : NameSet} {name : String} {valid : Bool}, r.Verdicts Verdict →
    (∀ m ∈ path, TransGen host.Carries m name) → name ∉ path →
    (valid = true ↔ r.Shows host path name) → Verdict name valid

/-- What comes of a search: whether it was shown what was looked for. Unless it was, only denials
are kept. -/
structure Searched (host : Host) (Verdict : String → Bool → Prop) (path : NameSet) (shown : Prop)
    (r : Registry) (d : ValidationDescriptor) (r' : Registry) : Prop where
  shown : d.isValidation = true ↔ shown
  denies : d.isValidation = false → r.Denies host path r'
  verdicts : r'.Verdicts Verdict

/-- The search is answered. -/
def Searches (host : Host) (Verdict : String → Bool → Prop) (path : NameSet) (shown : Prop)
    (r : Registry) (out : Except LookupError ValidationDescriptor) (r' : Registry) : Prop :=
  ∃ d, out = .ok d ∧ Searched host Verdict path shown r d r'

theorem ValidationDescriptor.isValidation_of_root {name : String} {d : ValidationDescriptor}
    (h : root? name = some d) : d.isValidation = true := by
  unfold root? at h
  split at h
  · cases h
    rfl
  split at h
  · cases h
    rfl
  split at h
  · cases h
    rfl
  · cases h

namespace Lookup

variable {scope : Scope} {Verdict : String → Bool → Prop} {g : Guards}
  {facets : String → Lookup ValidationDescriptor}

/-- The annotations on a declaration are searched one by one, until one validates. -/
theorem searches_facetsOfUses (h : scope.host.Findable) (name : String) (declaresTargets : Bool)
    (marks : List AnnotationUse)
    (hfacets : ∀ mark ∈ marks, ∀ r, r.Verdicts Verdict → mark.name ∉ g.validating →
      (facets mark.name).Yields r g (Searches scope.host Verdict g.validating
        (r.Shows scope.host g.validating mark.name) r)) :
    ∀ r, r.Verdicts Verdict →
      (facetsOfUses scope facets name declaresTargets marks).Yields r g
        (Searches scope.host Verdict g.validating
          (∃ mark ∈ marks, r.Shows scope.host g.validating mark.name) r) := by
  -- Each annotation starts from the registry that the one before it left.
  induction marks with
  | nil =>
    intro r hr
    exact SessionM.yields_pure ⟨{}, rfl, ⟨iff_of_false nofun (by simp), fun _ => .of_eq rfl, hr⟩⟩
  | cons mark marks ih =>
    intro r hr
    have ih := ih fun mark' hmark' => hfacets mark' (List.mem_cons_of_mem _ hmark')
    refine .after (exec_askGuards _) ?_
    by_cases hmet : mark.name ∈ g.validating
    · -- The search is in the middle of it.
      rw [if_pos (by simpa using hmet)]
      refine (ih r hr).mono fun out r' ⟨d, hok, hd⟩ => ⟨d, hok, { hd with shown := ?_ }⟩
      rw [hd.shown, List.exists_mem_cons_iff, or_iff_right fun hshown => hshown.fresh hmet]
    · rw [if_neg (by simpa using hmet)]
      refine (hfacets mark List.mem_cons_self r hr hmet).bind ?_ fun e r' ⟨d, hok, _⟩ => nomatch hok
      rintro parent r₁ ⟨_, ⟨⟩, h₁⟩
      refine .after (exec_record _) ?_
      have hsame : (r₁.recordDependent mark.name name).validators = r₁.validators := rfl
      by_cases hvalid : parent.isValidation = true
      · -- It validates: nothing more is asked.
        rw [if_pos hvalid]
        obtain ⟨targets, htargets⟩ := h.takenTargets_ok declaresTargets mark parent
        have hexec : (inheritedTargets scope declaresTargets mark parent).exec
            ⟨r₁.recordDependent mark.name name, g⟩ =
              (.ok targets, ⟨r₁.recordDependent mark.name name, g⟩) := by
          rw [Conduct.exec_inheritedTargets, htargets]
          rfl
        refine .after hexec ?_
        refine SessionM.yields_pure ⟨_, rfl, ⟨?_, fun hdenied => ?_, hsame ▸ h₁.verdicts⟩⟩
        · exact iff_of_true hvalid ⟨mark, List.mem_cons_self, h₁.shown.1 hvalid⟩
        · cases hvalid.symm.trans hdenied
      · -- It was denied, which is no obstacle to what comes next.
        rw [if_neg hvalid]
        have hdenied : parent.isValidation = false := by simpa using hvalid
        have h₂ : r.Denies scope.host g.validating (r₁.recordDependent mark.name name) :=
          (h₁.denies hdenied).trans (.of_eq hsame)
        refine (ih _ (hsame ▸ h₁.verdicts)).mono fun out r' ⟨d, hok, hd⟩ => ?_
        refine ⟨d, hok, ⟨?_, fun hnot => h₂.trans (hd.denies hnot), hd.verdicts⟩⟩
        rw [hd.shown, List.exists_mem_cons_iff,
          or_iff_right fun hshown => hvalid (h₁.shown.2 hshown)]
        simp only [h₂.shows_iff]

/-- An annotation that is neither a root nor kept is found out, and the answer is kept. -/
theorem searches_facetsStep (h : scope.host.Findable) (hjudges : scope.host.Judges Verdict)
    {path : NameSet} {name : String} (hpath : g.validating = name :: path) (hfresh : name ∉ path)
    (hleads : ∀ m ∈ path, TransGen scope.host.Carries m name) {r : Registry}
    (hr : r.Verdicts Verdict) (hroot : root? name = none)
    (hkept : r.validators.get? name = none)
    (hfacets : ∀ mark, scope.host.Carries name mark → ∀ r, r.Verdicts Verdict →
      mark ∉ g.validating → (facets mark).Yields r g (Searches scope.host Verdict g.validating
        (r.Shows scope.host g.validating mark) r)) :
    (facetsStep scope facets name).Yields r g
      (Searches scope.host Verdict path (r.Shows scope.host path name) r) := by
  obtain ⟨decl, hfind⟩ := h.finds name
  refine .after (exec_ask _) (.after (exec_declarationOf? hfind) ?_)
  -- What was found out inside of the search for the name is right for what is around it.
  have hpublish {d : ValidationDescriptor} {r₁ : Registry}
      (hd : Searched scope.host Verdict (name :: path)
        (r.ShowsOn scope.host (name :: path) name) r d r₁) :
      (record (·.publishValidator r.epoch name (decl.map (·.file)) d) >>= fun _ =>
        pure d).Yields r₁ g
          (Searches scope.host Verdict path (r.Shows scope.host path name) r) := by
    refine .after (exec_record _) (SessionM.yields_pure ⟨d, rfl, ?_⟩)
    have hshown : d.isValidation = true ↔ r.Shows scope.host path name := by
      rw [hd.shown, Registry.Shows.iff_showsOn hfresh hroot hkept]
    refine ⟨hshown, fun hdenied => ?_, fun {other kept} hother => ?_⟩
    · have hnot : ¬ r.ShowsOn scope.host (name :: path) name := by
        rw [← hd.shown, hdenied]
        exact nofun
      refine ((hd.denies hdenied).of_nested hroot hkept hnot).publish hkept ?_ hdenied
      rwa [Registry.Shows.iff_showsOn hfresh hroot hkept]
    · rcases r₁.publishValidator_validators_get? _ _ _ _ hother with hold | ⟨rfl, rfl⟩
      · exact hd.verdicts hold
      · exact hjudges hr hleads hfresh hshown
  -- What is no declared annotation type has nothing on it that could show.
  cases hdecl : decl.filter (·.isAnnotationType) with
  | none =>
    refine hpublish ⟨iff_of_false nofun ?_, fun _ => .of_eq rfl, hr⟩
    rintro ⟨decl', hdecl', hkind, _⟩
    rw [hfind.unique hdecl'.finds, Option.filter_some, if_pos hkind] at hdecl
    cases hdecl
  | some decl' =>
    obtain ⟨rfl, hkind⟩ := Option.filter_eq_some_iff.1 hdecl
    have hdeclares : scope.host.Declares name decl' := Host.finds_some_iff.1 hfind
    refine (searches_facetsOfUses h name _ decl'.annotations (fun mark hmark r₁ hr₁ hnew =>
      hfacets mark.name ⟨decl', hdeclares, mark, hmark, rfl⟩ r₁ hr₁ hnew) r hr).bind ?_
        fun e r' ⟨d, hok, _⟩ => nomatch hok
    rintro d r₁ ⟨_, ⟨⟩, hd⟩
    rw [hpath] at hd
    refine hpublish { hd with shown := hd.shown.trans ?_ }
    constructor
    · exact fun hshown => ⟨decl', hdeclares, hkind, hshown⟩
    · rintro ⟨decl, hdecl, _, hshown⟩
      rwa [hdeclares.unique hdecl]

/-- Resolving an annotation is such a search, as long as the limit exceeds the number of declared
names that it is not in the middle of. -/
theorem searches_facetsWithin (h : scope.host.Findable) (hjudges : scope.host.Judges Verdict)
    (limit : Nat) :
    ∀ {name : String} {g : Guards} (r : Registry), Outlasts limit g.validating scope.host.names →
      r.Verdicts Verdict → name ∉ g.validating →
      (∀ m ∈ g.validating, TransGen scope.host.Carries m name) →
      (facetsWithin scope limit name).Yields r g (Searches scope.host Verdict g.validating
        (r.Shows scope.host g.validating name) r) := by
  induction limit with
  | zero => exact fun _ hlimit => absurd hlimit Outlasts.not_zero
  | succ limit ih =>
    intro name g r hlimit hr hfresh hleads
    have hadd : g.validating.add name = name :: g.validating := if_neg hfresh
    unfold facetsWithin
    -- A root answers at once, then what is kept, and only then the declaration is asked.
    cases hroot : root? name with
    | some d =>
      have hvalid := ValidationDescriptor.isValidation_of_root hroot
      refine SessionM.yields_pure ⟨d, rfl, iff_of_true hvalid (.root hfresh hroot), ?_, hr⟩
      exact fun _ => .of_eq rfl
    | none =>
      refine .after (exec_ask _) ?_
      cases hkept : r.validators.get? name with
      | some d =>
        refine SessionM.yields_pure ⟨d, rfl, ?_, fun _ => .of_eq rfl, hr⟩
        refine ⟨.kept hfresh hkept, fun hshown => ?_⟩
        cases hshown with
        | root _ hroot' => cases hroot.symm.trans hroot'
        | kept _ hkept' hvalid =>
          cases hkept.symm.trans hkept'
          exact hvalid
        | carried _ hnone => cases hkept.symm.trans hnone
      | none =>
        refine .after (exec_askGuards _) ?_
        rw [if_neg (by simpa using hfresh)]
        refine .within (by simp [NameSet.remove_add hfresh]) ?_
        refine searches_facetsStep (g := { g with validating := g.validating.add name }) h hjudges
          hadd hfresh hleads hr hroot hkept fun mark hcarries r₁ hr₁ hnew => ?_
        have hname : name ∈ scope.host.names := by
          obtain ⟨decl, hdecl, _⟩ := hcarries
          exact hdecl.mem_names
        refine ih r₁ (hlimit.add hname hfresh) hr₁ hnew fun m hm => ?_
        rcases NameSet.mem_add.1 hm with rfl | hm
        · exact .single hcarries
        · exact (hleads m hm).tail hcarries

theorem searches_validationDescriptor (h : scope.host.Findable)
    (hjudges : scope.host.Judges Verdict) (hidle : g.validating = []) (name : String)
    {r : Registry} (hr : r.Verdicts Verdict) :
    (validationDescriptor scope name).Yields r g
      (Searches scope.host Verdict [] (r.Shows scope.host [] name) r) := by
  have hsearch : (validationDescriptor scope name).Yields r g
      (Searches scope.host Verdict g.validating (r.Shows scope.host g.validating name) r) :=
    searches_facetsWithin h hjudges (scope.host.names.length + 1) r (.start hidle (by omega)) hr
      (by simp [hidle]) (by simp [hidle])
  rwa [hidle] at hsearch

end Lookup

end PrototypeLens
