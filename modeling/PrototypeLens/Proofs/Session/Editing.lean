import PrototypeLens.Proofs.Registry.Support
import PrototypeLens.Proofs.Session.Faithful
import PrototypeLens.Proofs.Template.Retention

/-!
# What a refresh leaves after a class was edited

The declaration of a class is edited that stands on no declaration as an annotation, and its file is
refreshed. What is left in the registry are defaults and prototypes that were declared before the
edit. The templates are the same, so that the registry is still sound; the defaults that are left
are those of complete templates.

## Layers

- `Registry.Recorded`: owners and dependents are those of declared names, which `recordedUpkeep`
  keeps through lookups.
- `Host.EditsClass`: an edit of one class. `template_iff` shows that it makes no other template and
  undoes none.
- `Registry.Remnant`: what is left is sound and exact, and rests on complete templates.

## Main results

- `complete_of_forgetAll`: if any defaults are left, all known templates are complete.
- `sound_of_forgetAll`, `exact_of_forgetAll` and `restsOn_of_forgetAll`, which together make
  `remnant_of_forgetAll`.
-/

namespace PrototypeLens

open Relation (ReflTransGen)

/-! ## Recorded names -/

/-- Owners and dependents are recorded for declared names only. -/
structure Registry.Recorded (host : Host) (r : Registry) : Prop where
  owners {name : String} {file : FileId} : r.owners.get? name = some file →
    ∃ decl, host.Declares name decl
  dependents {parent name : String} : name ∈ r.dependentsOf parent →
    ∃ decl, host.Declares name decl

namespace Registry.Recorded

variable {host : Host} {r r' : Registry} {name parent : String} {decl : Declaration}

theorem fresh : ({} : Registry).Recorded host where
  owners h := nomatch h
  dependents h := nomatch h

theorem extend (h : r.Recorded host) (hext : r.Extends host r')
    (hdependents : r'.dependents = r.dependents) : r'.Recorded host where
  owners {name file} howner := by
    rcases hext.owners name with hsame | ⟨decl, hdecl, _⟩
    · exact h.owners (hsame ▸ howner)
    · exact ⟨decl, hdecl⟩
  dependents hdep := h.dependents (by rwa [dependentsOf, ← hdependents])

theorem recordDependent (h : r.Recorded host) (hdecl : host.Declares name decl) :
    (r.recordDependent parent name).Recorded host where
  owners := h.owners
  dependents {other dependent} hdep := by
    rcases mem_dependentsOf_recordDependent.1 hdep with ⟨_, rfl⟩ | hdep
    · exact ⟨decl, hdecl⟩
    · exact h.dependents hdep

theorem step (h : r.Recorded host) (hstep : Step host r r') : r'.Recorded host := by
  have hannounced (name : String) : (r.announceTemplate name).Recorded host :=
    h.extend (extends_announceTemplate r name) (by simp)
  cases hstep with
  | announce name => exact hannounced name
  | register defaults hfind _ =>
    refine (hannounced _).extend (extends_publishTemplate _ defaults hfind) ?_
    rw [publishTemplate_self, recordOwner?_dependents]
  | deny hfile => exact h.extend (extends_denyTemplate r hfile) (by simp)
  | depend hcarries =>
    obtain ⟨decl, hdecl, _⟩ := hcarries
    exact h.recordDependent hdecl

theorem of_steps (h : r.Recorded host) (hsteps : ReflTransGen (Step host) r r') :
    r'.Recorded host := by
  -- The induction is on the steps of the lookup.
  induction hsteps with
  | refl => exact h
  | tail _ hstep ih => exact ih.step hstep

end Registry.Recorded

/-- Lookups record declared names only. -/
def recordedUpkeep (scope : Scope) : Upkeep scope where
  Inv := Registry.Recorded scope.host
  Passed _ := True
  Taken _ _ _ := True
  Failed := True
  answer hr hans := ⟨hr.of_steps hans.steps, by simp, by simp, by simp⟩
  take _ _ _ _ := trivial
  publishClass epoch hr hdecl _ :=
    hr.extend (Registry.extends_publishClass _ epoch _ hdecl) (by simp)
  publishGenerated epoch prototype hr hdecl :=
    hr.extend (Registry.extends_publishGenerated _ epoch prototype hdecl) (by simp)
  publishNonGenerated epoch hr hdecl :=
    hr.extend (Registry.extends_publishNonGenerated _ epoch hdecl) (by simp)
  publishValidator epoch descriptor hr hfind :=
    hr.extend (Registry.extends_publishValidator _ epoch descriptor hfind) (by simp)
  recordDependent _ hr hdecl := hr.recordDependent hdecl

/-! ## Editing a class -/

/-- At most the declaration of `own` differs, which stands on no declaration as an annotation. -/
structure Host.EditsClass (host host' : Host) (own : String) : Prop where
  others {name : String} {decl : Declaration} : name ≠ own →
    (host'.Declares name decl ↔ host.Declares name decl)
  uncarried (name : String) : ¬ host.Carries name own
  uncarried' (name : String) : ¬ host'.Carries name own

namespace Host.EditsClass

variable {host host' : Host} {own name mark : String}

theorem symm (h : host.EditsClass host' own) : host'.EditsClass host own where
  others hne := (h.others hne).symm
  uncarried := h.uncarried'
  uncarried' := h.uncarried

theorem carries (h : host.EditsClass host' own) (hne : name ≠ own)
    (hcarries : host.Carries name mark) : host'.Carries name mark := by
  obtain ⟨decl, hdecl, huse⟩ := hcarries
  exact ⟨decl, (h.others hne).2 hdecl, huse⟩

/-- The edit makes no other template. -/
theorem template (h : host.EditsClass host' own) (ht : host.Template name) (hne : name ≠ own) :
    host'.Template name := by
  -- The induction is on the derivation: the class is no annotation, so that it stands nowhere along
  -- it.
  induction ht with
  | given hroot => exact .given hroot
  | marked hcarries hbarred => exact .marked (h.carries hne hcarries) hbarred
  | carried hcarries _ hbarred ih =>
    refine .carried (h.carries hne hcarries) (ih fun heq => ?_) hbarred
    exact h.uncarried _ (heq ▸ hcarries)

theorem template_iff (h : host.EditsClass host' own) (hne : name ≠ own) :
    host'.Template name ↔ host.Template name :=
  ⟨fun ht => h.symm.template ht hne, fun ht => h.template ht hne⟩

end Host.EditsClass

/-! ## Refreshing the file of the class -/

/-- What a refresh leaves of a registry: it tells the templates of the program, rests on the
defaults that it keeps, and knows only complete templates if it keeps any. -/
structure Registry.Remnant (scope : Scope) (r : Registry) : Prop where
  sound : r.Sound neverTemplates scope.host.Template
  exact : r.Exact scope.host
  rests : r.RestsOn scope r.templates.get? []
  complete {name other : String} {d : Descriptor} : r.templates.get? name = some d →
    other ∈ r.knownTemplates → r.Complete scope.host other

section

variable {host host' : Host} {settings : DiscoverySettings} {own : String} {decl : Declaration}
  {r : Registry} {names : List String}

/-- What is forgotten is declared, before the edit or after it. -/
theorem Registry.Recorded.declared_of_covers (h : r.Recorded host)
    (hcovers : r.Covers host' decl.file names) :
    ∀ name ∈ names, ∃ decl, host.Declares name decl ∨ host'.Declares name decl :=
  hcovers.least (fun _ howner => (h.owners howner).imp fun _ => .inl)
    (fun _ decl hdecl _ => ⟨decl, .inr hdecl⟩)
    fun _ _ _ hderived => (h.dependents hderived).imp fun _ => .inl

variable (hedit : host.EditsClass host' own) (hdecl : host'.Declares own decl)
  (hcovers : r.Covers host' decl.file names)
include hedit hdecl hcovers

namespace Registry.Faithful

/-- Either nothing is left, or all known templates are complete. -/
theorem complete_of_forgetAll (h : r.Faithful ⟨host, settings⟩) {name : String} {d : Descriptor}
    (hkept : (r.forgetAll names).templates.get? name = some d) {other : String}
    (hknown : other ∈ (r.forgetAll names).knownTemplates) :
    (r.forgetAll names).Complete host' other := by
  have hforgets := r.forgets_forgetAll names
  -- Defaults that are left show that no known template was forgotten.
  have hunknown := not_known_of_forgetAll_templates hkept
  have hown : own ∉ r.knownTemplates := hunknown own (hcovers.declared hdecl rfl)
  -- Along derivations the templates stay known, and none of them is the class.
  have hchain (parent : String) (hparent : ReflTransGen host'.Derives other parent) :
      parent ∈ r.knownTemplates := by
    induction hparent with
    | refl => exact (hforgets.known.1 hknown).1
    | @tail mark parent _ hderives ih =>
      obtain ⟨hcarries, ht⟩ := hderives
      have hmark : mark ≠ own := fun heq => hown (heq ▸ ih)
      have hne : parent ≠ own := fun heq => hedit.uncarried' mark (heq ▸ hcarries)
      exact h.settled.covered ih (by simp) (hedit.symm.carries hmark hcarries)
        ((hedit.template_iff hne).1 ht)
  intro parent hparent
  exact hforgets.known.2 ⟨hchain parent hparent, fun hmem => hunknown parent hmem
    (hchain parent hparent)⟩

variable (hnever : ∀ name ∈ neverTemplates, ∀ decl, ¬ host'.Declares name decl)

include hnever in
/-- What is left is sound for the program after the edit. -/
theorem sound_of_forgetAll (h : r.Faithful ⟨host, settings⟩) (hrecorded : r.Recorded host) :
    (r.forgetAll names).Sound neverTemplates host'.Template where
  never := List.Subset.refl _
  denied := by
    refine subset_forgetAll_nonTemplates (List.Subset.refl _) h.sound.denied ?_
    intro name hname hmem
    -- What is never a template is declared in neither program.
    obtain ⟨decl', hdecl' | hdecl'⟩ := hrecorded.declared_of_covers hcovers name hmem
    · have hne : name ≠ own := fun heq => hnever name hname decl (heq ▸ hdecl)
      exact hnever name hname decl' ((hedit.others hne).2 hdecl')
    · exact hnever name hname decl' hdecl'
  known {name} hknown := by
    obtain ⟨hknown, hleft⟩ := (r.forgets_forgetAll names).known.1 hknown
    have hne : name ≠ own := fun heq => hleft (heq ▸ hcovers.declared hdecl rfl)
    exact hedit.template (h.sound.known hknown) hne
  kept hget := by
    have hforgets := r.forgets_forgetAll names
    obtain ⟨hleft, hget⟩ := hforgets.templates hget
    exact hforgets.known.2 ⟨h.sound.kept hget, hleft⟩

theorem exact_of_forgetAll (h : r.Faithful ⟨host, settings⟩) :
    (r.forgetAll names).Exact host' := by
  intro name hdenied ht
  rcases (r.forgets_forgetAll names).denied hdenied with hnever | ⟨hdenied, hleft⟩
  · exact Host.not_template_of_never hnever ht
  · have hne : name ≠ own := fun heq => hleft (heq ▸ hcovers.declared hdecl rfl)
    exact h.exact name hdenied ((hedit.template_iff hne).1 ht)

/-- The registry rests on the defaults that are left. -/
theorem restsOn_of_forgetAll (h : r.Faithful ⟨host, settings⟩) :
    (r.forgetAll names).RestsOn ⟨host', settings⟩ (r.forgetAll names).templates.get? [] where
  retains hnone := hnone
  told hget := .inl hget
  complete hget _ := by
    have hforgets := r.forgets_forgetAll names
    obtain ⟨hleft, hkept⟩ := hforgets.templates hget
    have hknown := hforgets.known.2 ⟨h.sound.kept hkept, hleft⟩
    exact h.complete_of_forgetAll hedit hdecl hcovers hget hknown

include hnever in
theorem remnant_of_forgetAll (h : r.Faithful ⟨host, settings⟩) (hrecorded : r.Recorded host) :
    (r.forgetAll names).Remnant ⟨host', settings⟩ where
  sound := h.sound_of_forgetAll hedit hdecl hcovers hnever hrecorded
  exact := h.exact_of_forgetAll hedit hdecl hcovers
  rests := h.restsOn_of_forgetAll hedit hdecl hcovers
  complete hget hknown := h.complete_of_forgetAll hedit hdecl hcovers hget hknown

end Registry.Faithful

end

end PrototypeLens
