import PrototypeLens.Proofs.Registry.Recording
import PrototypeLens.Proofs.Validation.Meaning

/-!
# What kept answers show about validation

A search for what an annotation validates takes the answers that are kept as they are, and passes
over the annotations that it is in the middle of. What it can come to so is again a least set, of
which the validation annotations of the host alone are the one without kept answers and without a
path. Answers that deny what cannot be come to do not change it.

## Layers

- `Registry.Shows`: what can be come to from a name, past the names of a path.
- `Registry.ShowsOn`: the same by way of an annotation on its declaration.
- `Registry.Denies`: between two registries only right denials were added.

## Main results

- `Shows.detour`, `Shows.iff_showsOn`: a search need not come back to the name where it began.
- `Denies.shows_iff`: right denials change nothing about what shows to validate.
- `Denies.trans`, `Denies.of_nested`, `Denies.publish`: they compose, come out of a nested search,
  and arise when an answer is kept.
-/

namespace PrototypeLens

open ValidationDescriptor (root?)

/-- An annotation shows to validate, by the kept answers and the declarations of a host, without
coming to the names of a path: it is a root, an answer is kept that says so, or none is kept and an
annotation on it shows to validate. -/
inductive Registry.Shows (r : Registry) (host : Host) (path : NameSet) : String → Prop where
  | root {name : String} {d : ValidationDescriptor} :
      name ∉ path → root? name = some d → Shows r host path name
  | kept {name : String} {d : ValidationDescriptor} :
      name ∉ path → r.validators.get? name = some d → d.isValidation = true →
      Shows r host path name
  | carried {name : String} {decl : Declaration} {mark : AnnotationUse} :
      name ∉ path → r.validators.get? name = none → host.Declares name decl →
      decl.isAnnotationType = true → mark ∈ decl.annotations → Shows r host path mark.name →
      Shows r host path name

namespace Registry

variable {r r' r'' : Registry} {host : Host} {path path' : NameSet} {name other : String}

/-- A declared annotation type carries an annotation that shows to validate. -/
def ShowsOn (r : Registry) (host : Host) (path : NameSet) (name : String) : Prop :=
  ∃ decl, host.Declares name decl ∧ decl.isAnnotationType = true ∧
    ∃ mark ∈ decl.annotations, r.Shows host path mark.name

namespace Shows

theorem fresh (h : r.Shows host path name) : name ∉ path := by
  cases h <;> assumption

/-- A shorter path leaves more to come to. -/
theorem anti (hsub : path ⊆ path') (h : r.Shows host path' name) : r.Shows host path name := by
  -- By induction on how it shows; every rule asks for less with fewer names on the path.
  induction h with
  | root hfresh hroot => exact .root (fun hmem => hfresh (hsub hmem)) hroot
  | kept hfresh hkept hvalid => exact .kept (fun hmem => hfresh (hsub hmem)) hkept hvalid
  | carried hfresh hkept hdecl hkind hmark _ ih =>
    exact .carried (fun hmem => hfresh (hsub hmem)) hkept hdecl hkind hmark ih

/-- What leads to a validation annotation by way of a name does so from that name on, or does not
need it. -/
theorem detour (hroot : root? name = none) (hkept : r.validators.get? name = none)
    (h : r.Shows host path other) :
    r.Shows host (name :: path) other ∨ r.ShowsOn host (name :: path) name := by
  induction h with
  -- The name is none of the roots and has no kept answer; so these are not the name.
  | @root other d hfresh hroot' =>
    refine .inl (.root (fun hmem => ?_) hroot')
    rcases List.mem_cons.1 hmem with rfl | hmem
    · cases hroot.symm.trans hroot'
    · exact hfresh hmem
  | @kept other d hfresh hkept' hvalid =>
    refine .inl (.kept (fun hmem => ?_) hkept' hvalid)
    rcases List.mem_cons.1 hmem with rfl | hmem
    · cases hkept.symm.trans hkept'
    · exact hfresh hmem
  | @carried other decl mark hfresh hkept' hdecl hkind hmark _ ih =>
    refine ih.elim (fun hshown => ?_) .inr
    by_cases hother : other = name
    · subst hother
      exact .inr ⟨decl, hdecl, hkind, mark, hmark, hshown⟩
    · refine .inl (.carried (fun hmem => ?_) hkept' hdecl hkind hmark hshown)
      exact (List.mem_cons.1 hmem).elim hother hfresh

/-- A name that is neither a root nor kept shows to validate by an annotation on it, from which the
search need not come back to the name. -/
theorem iff_showsOn (hfresh : name ∉ path) (hroot : root? name = none)
    (hkept : r.validators.get? name = none) :
    r.Shows host path name ↔ r.ShowsOn host (name :: path) name := by
  constructor
  · intro h
    refine (h.detour hroot hkept).resolve_left fun hshown => ?_
    exact hshown.fresh List.mem_cons_self
  · rintro ⟨decl, hdecl, hkind, mark, hmark, hshown⟩
    exact .carried hfresh hkept hdecl hkind hmark (hshown.anti (List.subset_cons_self _ _))

end Shows

/-! ## Denials -/

/-- Between two registries only such answers were added that deny what does not show to validate. -/
def Denies (r : Registry) (host : Host) (path : NameSet) (r' : Registry) : Prop :=
  ∀ name, r'.validators.get? name = r.validators.get? name ∨
    r.validators.get? name = none ∧ ¬ r.Shows host path name ∧
      ∃ d, r'.validators.get? name = some d ∧ d.isValidation = false

theorem Denies.of_eq (h : r'.validators = r.validators) : r.Denies host path r' :=
  fun name => .inl (by rw [h])

/-- Right denials do not change what shows to validate. -/
theorem Denies.shows_iff (h : r.Denies host path r') :
    r'.Shows host path name ↔ r.Shows host path name := by
  constructor
  · -- An answer that was added denies, so it shows nothing by itself; where it stands now, none was
    -- kept before.
    intro hshown
    induction hshown with
    | root hfresh hroot => exact .root hfresh hroot
    | @kept name d hfresh hkept hvalid =>
      rcases h name with hsame | ⟨_, _, d', hkept', hdenied⟩
      · exact .kept hfresh (hsame ▸ hkept) hvalid
      · cases hkept.symm.trans hkept'
        cases hvalid.symm.trans hdenied
    | @carried name decl mark hfresh hkept hdecl hkind hmark _ ih =>
      rcases h name with hsame | ⟨hnone, _⟩
      · exact .carried hfresh (hsame ▸ hkept) hdecl hkind hmark ih
      · exact .carried hfresh hnone hdecl hkind hmark ih
  · intro hshown
    -- An answer that was added denies what does not show, so it stands on no way to what does.
    induction hshown with
    | root hfresh hroot => exact .root hfresh hroot
    | @kept name d hfresh hkept hvalid =>
      rcases h name with hsame | ⟨hnone, _⟩
      · exact .kept hfresh (hsame.trans hkept) hvalid
      · cases hnone.symm.trans hkept
    | @carried name decl mark hfresh hkept hdecl hkind hmark hshown ih =>
      rcases h name with hsame | ⟨_, hnot, _⟩
      · exact .carried hfresh (hsame.trans hkept) hdecl hkind hmark ih
      · exact absurd (.carried hfresh hkept hdecl hkind hmark hshown) hnot

theorem Denies.trans (h : r.Denies host path r') (h' : r'.Denies host path r'') :
    r.Denies host path r'' := by
  intro name
  -- What the second half denies did not show at its start, so not at the start of the first either.
  rcases h' name with hsame' | ⟨hnone', hnot, d, hkept, hdenied⟩
  · rw [hsame']
    exact h name
  · rcases h name with hsame | ⟨_, _, d', hkept', _⟩
    · exact .inr ⟨hsame ▸ hnone', fun hshown => hnot (h.shows_iff.2 hshown), d, hkept, hdenied⟩
    · cases hnone'.symm.trans hkept'

/-- Denials inside of a search for a name are right outside of it if the name is denied as well. -/
theorem Denies.of_nested (hroot : root? name = none) (hkept : r.validators.get? name = none)
    (hnot : ¬ r.ShowsOn host (name :: path) name) (h : r.Denies host (name :: path) r') :
    r.Denies host path r' := by
  intro other
  -- A name that shows outside does so inside as well, or by way of the name that is denied.
  refine (h other).imp_right fun ⟨hnone, hother, hdenied⟩ => ⟨hnone, fun hshown => ?_, hdenied⟩
  exact (hshown.detour hroot hkept).elim hother hnot

/-- Publishing what an annotation validates adds that answer, or changes nothing. -/
theorem publishValidator_validators_cases (r : Registry) (epoch : Nat) (name other : String)
    (file : Option FileId) (d : ValidationDescriptor) :
    (r.publishValidator epoch name file d).validators.get? other = r.validators.get? other ∨
      other = name ∧ r.validators.get? other = none ∧
        (r.publishValidator epoch name file d).validators.get? other = some d := by
  -- Published in another epoch, nothing is kept; otherwise only where none was kept before.
  unfold publishValidator
  split
  · rw [recordOwner?_validators, Table.get?_insertNew]
    by_cases hother : other = name
    · subst hother
      rw [if_pos rfl]
      cases hkept : r.validators.get? other with
      | some kept => exact .inl rfl
      | none => exact .inr ⟨rfl, rfl, rfl⟩
    · exact .inl (if_neg hother)
  · exact .inl rfl

/-- Keeping rightly that a name validates nothing is a denial. -/
theorem Denies.publish {epoch : Nat} {file : Option FileId} {d : ValidationDescriptor}
    (h : r.Denies host path r') (hkept : r.validators.get? name = none)
    (hnot : ¬ r.Shows host path name) (hdenied : d.isValidation = false) :
    r.Denies host path (r'.publishValidator epoch name file d) := by
  intro other
  rcases r'.publishValidator_validators_cases epoch name other file d with
    hsame | ⟨rfl, _, hnew⟩
  · rw [hsame]
    exact h other
  · exact .inr ⟨hkept, hnot, d, hnew, hdenied⟩

end Registry

end PrototypeLens
