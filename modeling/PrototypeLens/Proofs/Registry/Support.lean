import PrototypeLens.Proofs.Registry.Forgetting
import PrototypeLens.Proofs.Template.Steps

/-!
# What supports an answer

Why an answer that something is a template may still be believed after the program has changed. A
chain of declarations leads from the answer to a root or to the marker; along the chain each name is
owned by the file that declares it, and is recorded as a dependent of the annotation that it
carries. The chain may break only at a name that a refresh will forget: its owner is stale, and so
is the file that declares it, if there is one.

Lookups, edits and refreshes keep such chains, although they do so for different reasons. Without
stale files a chain is a derivation of the template.

## Layers

- `Extends`: a registry that grows. Every publication is one of these.
- `Current` and `Suspect`: a name whose owner is right, and one that a refresh is going to forget.
- `Supported` and `Backed`: the chains, for a template and for a prototype.
- `Upheld`: whatever is kept is supported. It is the invariant.

## Main results

- `upheld_of_steps` and `Upheld.publishClass`: lookups keep it, because the registry grows and each
  new answer has grounds in what is kept already.
- `Upheld.refresh`: a refresh keeps it, because what depends on a forgotten name is forgotten.
- `Upheld.edit`: an edit keeps it, because whatever it changes lies in an edited file.
- `Registry.Supported.rooted` and `Registry.Backed.declared`: what support means without stale
  files.
-/

namespace PrototypeLens

open Relation (ReflTransGen)

namespace Registry

variable {host : Host} {stale : FileId → Prop} {r r' r'' : Registry} {name : String}
  {decl : Declaration}

/-! ## Growing registries -/

/-- Owners change to the file of the declaration only, and nothing is forgotten. -/
structure Extends (host : Host) (r r' : Registry) : Prop where
  /-- An owner stays, or becomes the file that declares the name. -/
  owners (name : String) : r'.owners.get? name = r.owners.get? name ∨
    ∃ decl, host.Declares name decl ∧ r'.owners.get? name = some decl.file
  dependents {parent name : String} : name ∈ r.dependentsOf parent → name ∈ r'.dependentsOf parent
  known {name : String} : name ∈ r.knownTemplates → name ∈ r'.knownTemplates

namespace Extends

theorem of_eq (howners : r'.owners = r.owners) (hdependents : r'.dependents = r.dependents)
    (hknown : r'.knownTemplates = r.knownTemplates) : r.Extends host r' where
  owners _ := .inl (by rw [howners])
  dependents h := by rwa [dependentsOf, hdependents]
  known h := by rwa [hknown]

theorem refl (r : Registry) : r.Extends host r := .of_eq rfl rfl rfl

theorem trans (h : r.Extends host r') (h' : r'.Extends host r'') : r.Extends host r'' where
  owners name := by
    rcases h'.owners name with hsame | hnew
    · rw [hsame]
      exact h.owners name
    · exact .inr hnew
  dependents hdep := h'.dependents (h.dependents hdep)
  known hknown := h'.known (h.known hknown)

theorem recordOwner (h : r.Extends host r') (hdecl : host.Declares name decl) :
    r.Extends host (r'.recordOwner name decl.file) where
  owners other := by
    rw [Registry.recordOwner, Table.get?_insert]
    by_cases hother : other = name
    · rw [if_pos hother]
      exact .inr ⟨decl, hother ▸ hdecl, rfl⟩
    · rw [if_neg hother]
      exact h.owners other
  dependents hdep := h.dependents hdep
  known hknown := h.known hknown

theorem recordOwner? {file? : Option FileId} (h : r.Extends host r')
    (hfile : ∀ file, file? = some file → ∃ decl, host.Declares name decl ∧ decl.file = file) :
    r.Extends host (r'.recordOwner? name file?) := by
  cases file? with
  | none => exact h
  | some file =>
    obtain ⟨decl, hdecl, rfl⟩ := hfile file rfl
    exact h.recordOwner hdecl

end Extends

/-- The file that a publication records is that of the declaration that was found. -/
theorem file_of_finds {found : Option Declaration} (hfind : host.Finds name found) (file : FileId)
    (hfile : found.map (·.file) = some file) :
    ∃ decl, host.Declares name decl ∧ decl.file = file := by
  obtain ⟨decl, rfl, rfl⟩ := Option.map_eq_some_iff.1 hfile
  exact ⟨decl, Host.finds_some_iff.1 hfind, rfl⟩

theorem extends_announceTemplate (r : Registry) (name : String) :
    r.Extends host (r.announceTemplate name) where
  owners _ := .inl (by rw [announceTemplate_owners])
  dependents hdep := by simpa [dependentsOf] using hdep
  known hknown := r.knownTemplates_subset_announceTemplate name hknown

theorem extends_denyTemplate (r : Registry) {file? : Option FileId}
    (hfile : ∀ file, file? = some file → ∃ decl, host.Declares name decl ∧ decl.file = file) :
    r.Extends host (r.denyTemplate name file?) := by
  unfold denyTemplate
  split
  · exact .refl r
  · have hsame : r.Extends host { r with nonTemplates := r.nonTemplates.add name } :=
      .of_eq rfl rfl rfl
    exact hsame.recordOwner? hfile

theorem extends_recordDependent (r : Registry) (parent dependent : String) :
    r.Extends host (r.recordDependent parent dependent) where
  owners _ := .inl rfl
  dependents hdep := mem_dependentsOf_recordDependent.2 (.inr hdep)
  known hknown := hknown

theorem extends_publishClass (r : Registry) (epoch : Nat) (prototype : Option Descriptor)
    (hdecl : host.Declares name decl) :
    r.Extends host (r.publishClass epoch name decl.file prototype) := by
  unfold publishClass
  split
  · have hsame : r.Extends host { r with classes := r.classes.insertNew name prototype } :=
      .of_eq rfl rfl rfl
    exact hsame.recordOwner hdecl
  · exact .refl r

theorem extends_publishGenerated (r : Registry) (epoch : Nat) (prototype : String)
    (hdecl : host.Declares name decl) :
    r.Extends host (r.publishGenerated epoch name decl.file prototype) := by
  unfold publishGenerated
  split
  · have hsame : r.Extends host { r with generated := r.generated.insertNew name prototype } :=
      .of_eq rfl rfl rfl
    exact hsame.recordOwner hdecl
  · exact .refl r

theorem extends_publishNonGenerated (r : Registry) (epoch : Nat)
    (hdecl : host.Declares name decl) :
    r.Extends host (r.publishNonGenerated epoch name decl.file) := by
  unfold publishNonGenerated
  split
  · have hsame : r.Extends host { r with nonGenerated := r.nonGenerated.add name } :=
      .of_eq rfl rfl rfl
    exact hsame.recordOwner hdecl
  · exact .refl r

theorem extends_publishValidator (r : Registry) (epoch : Nat) (descriptor : ValidationDescriptor)
    {found : Option Declaration} (hfind : host.Finds name found) :
    r.Extends host (r.publishValidator epoch name (found.map (·.file)) descriptor) := by
  unfold publishValidator
  split
  · have hsame : r.Extends host { r with validators := r.validators.insertNew name descriptor } :=
      .of_eq rfl rfl rfl
    exact hsame.recordOwner? (file_of_finds hfind)
  · exact .refl r

theorem extends_publishTemplate (r : Registry) (defaults : Descriptor) {found : Option Declaration}
    (hfind : host.Finds name found) :
    r.Extends host (r.publishTemplate r.epoch name (found.map (·.file)) defaults) := by
  rw [publishTemplate_self]
  have hsame : r.Extends host { r with templates := r.templates.insertNew name defaults } :=
    .of_eq rfl rfl rfl
  exact hsame.recordOwner? (file_of_finds hfind)

/-! ## Support -/

/-- The declaration of a name whose file is the recorded owner of the name. -/
def Current (host : Host) (r : Registry) (name : String) (decl : Declaration) : Prop :=
  host.Declares name decl ∧ r.owners.get? name = some decl.file

/-- A name that some refresh is going to forget: its owner is stale, and its declaration, if there
is one, lies in a stale file. -/
def Suspect (host : Host) (stale : FileId → Prop) (r : Registry) (name : String) : Prop :=
  (∃ file, r.owners.get? name = some file ∧ stale file) ∧
    ∀ decl, host.Declares name decl → stale decl.file

/-- The names that chains of current declarations lead from to a root, to the marker or to a suspect
name, where each name depends on the annotation that it carries. -/
inductive Supported (host : Host) (stale : FileId → Prop) (r : Registry) : String → Prop where
  | root {name : String} : name ∈ rootTemplates → Supported host stale r name
  | suspect {name : String} : r.Suspect host stale name → Supported host stale r name
  | marked {name : String} {decl : Declaration} {use : AnnotationUse} :
      r.Current host name decl → use ∈ decl.annotations → use.name = templateMarker →
      Supported host stale r name
  | carried {name : String} {decl : Declaration} {use : AnnotationUse} :
      r.Current host name decl → use ∈ decl.annotations → name ∈ r.dependentsOf use.name →
      Supported host stale r use.name → Supported host stale r name

/-- Why a name is taken for a prototype: it is suspect, or its current declaration carries a known
template that is supported. -/
inductive Backed (host : Host) (stale : FileId → Prop) (r : Registry) (name : String) : Prop where
  | suspect : r.Suspect host stale name → Backed host stale r name
  | carried {decl : Declaration} {use : AnnotationUse} : r.Current host name decl →
      use ∈ decl.annotations → use.name ∈ r.knownTemplates → r.Supported host stale use.name →
      Backed host stale r name

/-- Whatever the registry keeps as a template or as a prototype may be believed. -/
structure Upheld (host : Host) (stale : FileId → Prop) (r : Registry) : Prop where
  known {name : String} {defaults : Descriptor} : r.templates.get? name = some defaults →
    name ∈ r.knownTemplates
  supported {name : String} {defaults : Descriptor} : r.templates.get? name = some defaults →
    r.Supported host stale name
  backed {name : String} {prototype : Descriptor} :
    r.classes.get? name = some (some prototype) → r.Backed host stale name
  /-- What is known to be a template is denied only if it is never one. -/
  denied {name : String} : name ∈ r.knownTemplates → name ∈ r.nonTemplates → name ∈ neverTemplates

theorem upheld_fresh : ({} : Registry).Upheld host stale where
  known h := nomatch h
  supported h := nomatch h
  backed h := nomatch h
  denied h := nomatch h

/-! ## Support in a growing registry -/

theorem Current.extend (h : r.Current host name decl) (hext : r.Extends host r') :
    r'.Current host name decl := by
  obtain ⟨hdecl, howner⟩ := h
  refine ⟨hdecl, ?_⟩
  -- A new owner is the file of the same declaration.
  rcases hext.owners name with hsame | ⟨decl', hdecl', hnew⟩
  · rw [hsame, howner]
  · rw [hnew, hdecl'.unique hdecl]

theorem Suspect.extend (h : r.Suspect host stale name) (hext : r.Extends host r') :
    r'.Suspect host stale name := by
  obtain ⟨⟨file, howner, hstale⟩, hdecls⟩ := h
  refine ⟨?_, hdecls⟩
  -- A new owner is the file of a declaration, which lies in a stale file as well.
  rcases hext.owners name with hsame | ⟨decl, hdecl, hnew⟩
  · exact ⟨file, hsame.trans howner, hstale⟩
  · exact ⟨decl.file, hnew, hdecls decl hdecl⟩

theorem Supported.extend (h : r.Supported host stale name) (hext : r.Extends host r') :
    r'.Supported host stale name := by
  -- The induction is on the chain: each link is carried over, and the dependents only grow.
  induction h with
  | root hroot => exact .root hroot
  | suspect hsuspect => exact .suspect (hsuspect.extend hext)
  | marked hcurrent huse hmarker => exact .marked (hcurrent.extend hext) huse hmarker
  | carried hcurrent huse hdep _ ih =>
    exact .carried (hcurrent.extend hext) huse (hext.dependents hdep) ih

theorem Backed.extend (h : r.Backed host stale name) (hext : r.Extends host r') :
    r'.Backed host stale name := by
  cases h with
  | suspect hsuspect => exact .suspect (hsuspect.extend hext)
  | carried hcurrent huse hknown hsupported =>
    exact .carried (hcurrent.extend hext) huse (hext.known hknown) (hsupported.extend hext)

/-- A registry that grows without a new template or prototype stays upheld. -/
theorem Upheld.extend (h : r.Upheld host stale) (hext : r.Extends host r')
    (hsame : r.SameTemplates r') (hclasses : r'.classes = r.classes) : r'.Upheld host stale where
  known hget := hext.known (h.known (hsame.templates ▸ hget))
  supported hget := (h.supported (hsame.templates ▸ hget)).extend hext
  backed hget := (h.backed (hclasses ▸ hget)).extend hext
  denied hknown hdenied := h.denied (hsame.knownTemplates ▸ hknown) (hsame.nonTemplates ▸ hdenied)

/-! ## Lookups -/

theorem Upheld.recordDependent (h : r.Upheld host stale) (parent dependent : String) :
    (r.recordDependent parent dependent).Upheld host stale :=
  h.extend (r.extends_recordDependent parent dependent)
    (r.sameTemplates_recordDependent parent dependent) rfl

/-- A new template leaves nothing that is kept, and denies only what is never a template. -/
theorem Upheld.announce (h : r.Upheld host stale) (name : String) :
    (r.announceTemplate name).Upheld host stale := by
  unfold announceTemplate
  split
  · exact h
  · -- A new template leaves no table from which an answer could be taken.
    exact ⟨nofun, nofun, nofun, fun _ hdenied => hdenied⟩

theorem Upheld.deny (h : r.Upheld host stale) {file? : Option FileId}
    (hfile : ∀ file, file? = some file → ∃ decl, host.Declares name decl ∧ decl.file = file) :
    (r.denyTemplate name file?).Upheld host stale := by
  have hext : r.Extends host (r.denyTemplate name file?) := r.extends_denyTemplate hfile
  refine ⟨fun hget => ?_, fun hget => ?_, fun hget => ?_, fun hknown hdenied => ?_⟩
  · rw [denyTemplate_templates] at hget
    exact hext.known (h.known hget)
  · rw [denyTemplate_templates] at hget
    exact (h.supported hget).extend hext
  · rw [denyTemplate_classes] at hget
    exact (h.backed hget).extend hext
  · -- A known template is not denied.
    rw [denyTemplate_knownTemplates] at hknown
    rcases r.mem_denyTemplate _ _ _ hdenied with hdenied | ⟨_, hunknown⟩
    · exact h.denied hknown hdenied
    · exact absurd hknown hunknown

/-- The name of a template that is registered with grounds is supported once its owner is
recorded. -/
theorem Grounds.supported {found : Option Declaration} (h : r.Grounds host name)
    (hr : r.Upheld host stale) (hfind : host.Finds name found) (hext : r.Extends host r')
    (howner : ∀ decl, found = some decl → r'.owners.get? name = some decl.file) :
    r'.Supported host stale name := by
  have hcurrent {decl : Declaration} (hdecl : host.Declares name decl) :
      r'.Current host name decl := ⟨hdecl, howner decl (hfind.unique hdecl.finds)⟩
  -- Each ground is a link at the new end of a chain; what it rests on was supported before.
  cases h with
  | root hroot => exact .root hroot
  | marked hcarries =>
    obtain ⟨decl, hdecl, use, huse, hmarker⟩ := hcarries
    exact .marked (hcurrent hdecl) huse hmarker
  | carried hcarries hkept hdep =>
    obtain ⟨decl, hdecl, use, huse, rfl⟩ := hcarries
    exact .carried (hcurrent hdecl) huse (hext.dependents hdep) ((hr.supported hkept).extend hext)

/-- Publishing the defaults of a known template that is supported then keeps the registry upheld. -/
theorem Upheld.publishTemplate (h : r.Upheld host stale) {found : Option Declaration}
    {defaults : Descriptor} (hfind : host.Finds name found) (hname : name ∈ r.knownTemplates)
    (hsupported : (r.publishTemplate r.epoch name (found.map (·.file)) defaults).Supported host
      stale name) :
    (r.publishTemplate r.epoch name (found.map (·.file)) defaults).Upheld host stale := by
  have hext := r.extends_publishTemplate defaults hfind
  rw [publishTemplate_self] at hsupported hext ⊢
  -- What is kept afterwards was kept before, except for the template itself.
  have hkept {other : String} {d : Descriptor}
      (hget : (r.templates.insertNew name defaults).get? other = some d) :
      other = name ∨ r.templates.get? other = some d := by
    rw [Table.get?_insertNew] at hget
    by_cases hother : other = name
    · exact .inl hother
    · rw [if_neg hother] at hget
      exact .inr hget
  refine ⟨fun hget => ?_, fun hget => ?_, fun hget => ?_, fun hknown hdenied => ?_⟩
  · rw [recordOwner?_templates] at hget
    rcases hkept hget with rfl | hget
    · exact hext.known hname
    · exact hext.known (h.known hget)
  · rw [recordOwner?_templates] at hget
    rcases hkept hget with rfl | hget
    · exact hsupported
    · exact (h.supported hget).extend hext
  · rw [recordOwner?_classes] at hget
    exact (h.backed hget).extend hext
  · rw [recordOwner?_knownTemplates] at hknown
    rw [recordOwner?_nonTemplates] at hdenied
    exact h.denied hknown hdenied

/-- Registering a template with grounds for it keeps the registry upheld. -/
theorem Upheld.register (h : r.Upheld host stale) {found : Option Declaration}
    (defaults : Descriptor) (hfind : host.Finds name found) (hgrounds : r.Grounds host name) :
    ((r.announceTemplate name).publishTemplate (r.announceTemplate name).epoch name
      (found.map (·.file)) defaults).Upheld host stale := by
  have hannounced : (r.announceTemplate name).Extends host _ :=
    (r.announceTemplate name).extends_publishTemplate defaults hfind
  refine (h.announce name).publishTemplate hfind ?_ ?_
  · exact r.mem_knownTemplates_announceTemplate _
  · -- The grounds are those of the registry before the announcement, whose templates are supported.
    refine hgrounds.supported h hfind ((r.extends_announceTemplate name).trans hannounced) ?_
    rintro decl rfl
    rw [publishTemplate_self]
    exact (Table.get?_insert ..).trans (if_pos rfl)

theorem Step.upheld (h : Step host r r') (hr : r.Upheld host stale) : r'.Upheld host stale := by
  cases h with
  | announce name => exact hr.announce name
  | register defaults hfind hgrounds => exact hr.register defaults hfind hgrounds
  | deny hfile => exact hr.deny hfile
  | depend _ => exact hr.recordDependent _ _

theorem upheld_of_steps (h : ReflTransGen (Step host) r r') (hr : r.Upheld host stale) :
    r'.Upheld host stale := by
  induction h with
  | refl => exact hr
  | tail _ hstep ih => exact hstep.upheld ih

/-- Publishing a prototype of a declaration that carries a kept template keeps the registry
upheld. -/
theorem Upheld.publishClass (h : r.Upheld host stale) (epoch : Nat) {prototype : Option Descriptor}
    (hdecl : host.Declares name decl)
    (hkept : prototype ≠ none → ∃ use ∈ decl.annotations, ∃ defaults,
      r.templates.get? use.name = some defaults) :
    (r.publishClass epoch name decl.file prototype).Upheld host stale := by
  have hext := r.extends_publishClass epoch prototype hdecl
  have hsame := r.sameTemplates_publishClass name decl.file epoch prototype
  refine ⟨fun hget => ?_, fun hget => ?_, fun hget => ?_, fun hknown hdenied => ?_⟩
  · rw [hsame.templates] at hget
    exact hext.known (h.known hget)
  · rw [hsame.templates] at hget
    exact (h.supported hget).extend hext
  · rcases r.publishClass_classes_get? _ _ _ _ hget with hget | ⟨rfl, rfl, howner⟩
    · exact (h.backed hget).extend hext
    · -- The new prototype rests on the kept template that its declaration carries.
      obtain ⟨use, huse, defaults, hget⟩ := hkept (by simp)
      have hsupported := (h.supported hget).extend hext
      exact .carried ⟨hdecl, howner⟩ huse (hext.known (h.known hget)) hsupported
  · rw [hsame.knownTemplates] at hknown
    rw [hsame.nonTemplates] at hdenied
    exact h.denied hknown hdenied

/-! ## Refreshes -/

section Refresh

variable {file : FileId} {names : List String}

theorem Current.forget (h : r.Current host name decl) (hforgets : r.Forgets names r')
    (hname : name ∉ names) : r'.Current host name decl :=
  ⟨h.1, (hforgets.owners hname).trans h.2⟩

/-- What is suspect after a refresh of a file is so for another file. -/
theorem Suspect.forget (h : r.Suspect host stale name) (hforgets : r.Forgets names r')
    (hcovers : r.Covers host file names) (hname : name ∉ names) :
    r'.Suspect host (fun f => stale f ∧ f ≠ file) name := by
  obtain ⟨⟨owner, howner, hstale⟩, hdecls⟩ := h
  -- Neither the owner nor the declaration is of the file: its names are all forgotten.
  have howner' : owner ≠ file := by
    rintro rfl
    exact hname (hcovers.owned howner)
  refine ⟨⟨owner, (hforgets.owners hname).trans howner, hstale, howner'⟩, ?_⟩
  intro decl hdecl
  exact ⟨hdecls decl hdecl, fun hfile => hname (hcovers.declared hdecl hfile)⟩

/-- A chain whose first name is left is left as a whole, since what depends on a forgotten name is
forgotten. -/
theorem Supported.forget (h : r.Supported host stale name) (hforgets : r.Forgets names r')
    (hcovers : r.Covers host file names) (hname : name ∉ names) :
    r'.Supported host (fun f => stale f ∧ f ≠ file) name := by
  -- Induction from the far end of the chain; what is assumed of a name passes to its annotation.
  induction h with
  | root hroot => exact .root hroot
  | suspect hsuspect => exact .suspect (hsuspect.forget hforgets hcovers hname)
  | marked hcurrent huse hmarker =>
    exact .marked (hcurrent.forget hforgets hname) huse hmarker
  | carried hcurrent huse hdep _ ih =>
    rename_i use _
    have hparent : use.name ∉ names := fun hmem => hname (hcovers.closed hmem hdep)
    refine .carried (hcurrent.forget hforgets hname) huse ?_ (ih hparent)
    rwa [hforgets.dependents hparent]

theorem Backed.forget (h : r.Backed host stale name) (hforgets : r.Forgets names r')
    (hcovers : r.Covers host file names) (hname : name ∉ names)
    (hknown : ∀ other ∈ names, other ∉ r.knownTemplates) :
    r'.Backed host (fun f => stale f ∧ f ≠ file) name := by
  cases h with
  | suspect hsuspect => exact .suspect (hsuspect.forget hforgets hcovers hname)
  | @carried _ use hcurrent huse hk hsupported =>
    have hparent : use.name ∉ names := fun hmem => hknown _ hmem hk
    exact .carried (hcurrent.forget hforgets hname) huse (hforgets.known.2 ⟨hk, hparent⟩)
      (hsupported.forget hforgets hcovers hparent)

/-- After a refresh of a file, support no longer rests on the file. -/
theorem Upheld.refresh (h : r.Upheld host stale) (hhealthy : host.Healthy) (file : FileId) :
    (r.refresh host file).2.Upheld host (fun f => stale f ∧ f ≠ file) := by
  obtain ⟨names, hrefresh, hcovers⟩ := hhealthy.refresh r file
  have hforgets := r.forgets_forgetAll names
  rw [hrefresh]
  refine ⟨fun hget => ?_, fun hget => ?_, fun hget => ?_, fun hknown hdenied => ?_⟩
  · obtain ⟨hname, hget⟩ := hforgets.templates hget
    exact hforgets.known.2 ⟨h.known hget, hname⟩
  · obtain ⟨hname, hget⟩ := hforgets.templates hget
    exact (h.supported hget).forget hforgets hcovers hname
  · -- A prototype that is left shows that no known template was forgotten.
    have hknown := not_known_of_forgetAll_classes hget
    obtain ⟨hname, hget⟩ := hforgets.classes hget
    exact (h.backed hget).forget hforgets hcovers hname hknown
  · rcases hforgets.denied hdenied with hnever | ⟨hdenied, _⟩
    · exact hnever
    · exact h.denied (hforgets.known.1 hknown).1 hdenied

end Refresh

end Registry

/-! ## Edits -/

section Edit

variable {host host' : Host} {stale : FileId → Prop} {r : Registry} {name : String}
  {decl : Declaration}

namespace Registry

variable (hhealthy : host.Healthy) (hhealthy' : host'.Healthy)
include hhealthy hhealthy'

theorem Suspect.edit (h : r.Suspect host stale name) :
    r.Suspect host' (fun f => stale f ∨ ¬ host.SameIn host' f) name := by
  obtain ⟨⟨owner, howner, hstale⟩, hdecls⟩ := h
  refine ⟨⟨owner, howner, .inl hstale⟩, ?_⟩
  intro decl hdecl
  -- A declaration that stands now stood before, or lies in a file that was edited.
  by_cases hsame : host.SameIn host' decl.file
  · exact .inl (hdecls decl ((hsame.declares_iff hhealthy hhealthy').2 hdecl))
  · exact .inr hsame

/-- An edit leaves a declaration as it is, or makes its name suspect: an owner whose file was edited
is stale, and a declaration that stands now and did not stand then lies in an edited file. -/
theorem Current.edit (h : r.Current host name decl) :
    r.Current host' name decl ∨
      r.Suspect host' (fun f => stale f ∨ ¬ host.SameIn host' f) name := by
  obtain ⟨hdecl, howner⟩ := h
  by_cases hsame : host.SameIn host' decl.file
  · exact .inl ⟨(hsame.declares_iff hhealthy hhealthy').1 hdecl, howner⟩
  · refine .inr ⟨⟨decl.file, howner, .inr hsame⟩, ?_⟩
    intro decl' hdecl'
    right
    intro hsame'
    -- A declaration in an unedited file stood before, and a name has one declaration.
    have hdecl'' : host.Declares name decl' := (hsame'.declares_iff hhealthy hhealthy').2 hdecl'
    rw [hdecl.unique hdecl''] at hsame
    exact hsame hsame'

theorem Supported.edit (h : r.Supported host stale name) :
    r.Supported host' (fun f => stale f ∨ ¬ host.SameIn host' f) name := by
  -- The induction is on the chain: it is kept up to the first name that the edit makes suspect.
  induction h with
  | root hroot => exact .root hroot
  | suspect hsuspect => exact .suspect (hsuspect.edit hhealthy hhealthy')
  | marked hcurrent huse hmarker =>
    rcases hcurrent.edit hhealthy hhealthy' with hcurrent | hsuspect
    · exact .marked hcurrent huse hmarker
    · exact .suspect hsuspect
  | carried hcurrent huse hdep _ ih =>
    rcases hcurrent.edit hhealthy hhealthy' with hcurrent | hsuspect
    · exact .carried hcurrent huse hdep ih
    · exact .suspect hsuspect

theorem Backed.edit (h : r.Backed host stale name) :
    r.Backed host' (fun f => stale f ∨ ¬ host.SameIn host' f) name := by
  cases h with
  | suspect hsuspect => exact .suspect (hsuspect.edit hhealthy hhealthy')
  | carried hcurrent huse hknown hsupported =>
    rcases hcurrent.edit hhealthy hhealthy' with hcurrent | hsuspect
    · exact .carried hcurrent huse hknown (hsupported.edit hhealthy hhealthy')
    · exact .suspect hsuspect

/-- After an edit, support may also rest on the edited files. -/
theorem Upheld.edit (h : r.Upheld host stale) :
    r.Upheld host' (fun f => stale f ∨ ¬ host.SameIn host' f) where
  known hget := h.known hget
  supported hget := (h.supported hget).edit hhealthy hhealthy'
  backed hget := (h.backed hget).edit hhealthy hhealthy'
  denied := h.denied

end Registry

end Edit

/-! ## Without stale files -/

/-- A supported name can be derived from the current declarations. -/
theorem Registry.Supported.rooted {host : Host} {stale : FileId → Prop} {r : Registry}
    {name : String} (h : r.Supported host stale name) (hfresh : ∀ file, ¬ stale file) :
    host.Rooted name := by
  induction h with
  | root hroot => exact .given hroot
  | suspect hsuspect =>
    obtain ⟨⟨file, _, hstale⟩, _⟩ := hsuspect
    exact absurd hstale (hfresh file)
  | marked hcurrent huse hmarker => exact .marked ⟨_, hcurrent.1, _, huse, hmarker⟩ id
  | carried hcurrent huse _ _ ih => exact .carried ⟨_, hcurrent.1, _, huse, rfl⟩ ih id

/-- A backed name has a current declaration that carries such a name. -/
theorem Registry.Backed.declared {host : Host} {stale : FileId → Prop} {r : Registry}
    {name : String} (h : r.Backed host stale name) (hfresh : ∀ file, ¬ stale file) :
    ∃ decl, host.Declares name decl ∧ ∃ use ∈ decl.annotations, host.Rooted use.name := by
  cases h with
  | suspect hsuspect =>
    obtain ⟨⟨file, _, hstale⟩, _⟩ := hsuspect
    exact absurd hstale (hfresh file)
  | carried hcurrent huse _ hsupported =>
    exact ⟨_, hcurrent.1, _, huse, hsupported.rooted hfresh⟩

end PrototypeLens
