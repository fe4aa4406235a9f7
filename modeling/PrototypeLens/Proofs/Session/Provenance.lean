import PrototypeLens.Proofs.Registry.Attribution
import PrototypeLens.Proofs.Session.Coherence
import PrototypeLens.Proofs.Session.History

/-!
# Where answers come from

What is told of a name was read from a declaration that the name stood for at some time: a prototype
from an annotation on it that was a template, an origin from a marker on it. This holds whatever the
program was at each time, also if its names were ambiguous, and however lookups ended.

## Layers

- `Once.Declared`: a declaration that a name stood for in one of the programs, through other names
  if it resolved to a declaration of another one.
- `Once.Template`, `Once.Prototype` and `Once.Generated`: what such declarations made of a name.

## Main results

- `Registry.Traced`: every template, prototype and origin that is kept goes back to one of those.
  One lemma for each change to the registry, which `Session.Tracing` takes through lookups.
- `Registry.Traced.refresh`: a refresh keeps it, whether or not the names to forget are found.
-/

namespace PrototypeLens

/-! ## Declarations of several programs -/

namespace Once

variable {fit : Host → Prop}

/-- A declaration that a name stood for in one of some programs. A name may resolve to a declaration
of another name, and then it stands for what that one stands for. -/
inductive Declared (fit : Host → Prop) : String → Declaration → Prop where
  | named {host : Host} {name : String} {decl : Declaration} :
      fit host → host.GoesBy name decl → Declared fit name decl
  | renamed {host : Host} {name own : String} {found decl : Declaration} :
      fit host → host.Declares name found → found.qualifiedName = some own →
      Declared fit own decl → Declared fit name decl

/-- A name that may have been told to be a template: a root, or what stood for a declaration with
the marker or with such a template. -/
inductive Template (fit : Host → Prop) : String → Prop where
  | root {name : String} : name ∈ rootTemplates → Template fit name
  | marked {name : String} {decl : Declaration} : Declared fit name decl →
      decl.isAnnotatedWith templateMarker = true → Template fit name
  | carried {name : String} {decl : Declaration} {use : AnnotationUse} : Declared fit name decl →
      use ∈ decl.annotations → Template fit use.name → Template fit name

/-- A name that stood for a declaration with a template. -/
def Prototype (fit : Host → Prop) (name : String) : Prop :=
  ∃ decl, Declared fit name decl ∧ ∃ use ∈ decl.annotations, Template fit use.name

/-- A name that stood for a declaration that told an origin. -/
def Generated (fit : Host → Prop) (markers : List String) (name : String) : Prop :=
  ∃ decl, Declared fit name decl ∧ Lookup.originOf? markers decl ≠ none

/-- The marker or a template on a declaration makes a template of it. -/
def Attested (fit : Host → Prop) (decl : Declaration) : Prop :=
  decl.isAnnotatedWith templateMarker = true ∨ ∃ use ∈ decl.annotations, Template fit use.name

theorem Declared.template {name : String} {decl : Declaration} (h : Declared fit name decl)
    (hattested : Attested fit decl) : Template fit name := by
  rcases hattested with hmarked | ⟨use, huse, ht⟩
  · exact .marked h hmarked
  · exact .carried h huse ht

end Once

/-! ## What is kept -/

/-- Everything that is kept comes from a declaration of some program. -/
structure Registry.Traced (fit : Host → Prop) (markers : List String) (r : Registry) : Prop where
  templates {name : String} {defaults : Descriptor} :
    r.templates.get? name = some defaults → Once.Template fit name
  classes {name : String} {prototype : Descriptor} :
    r.classes.get? name = some (some prototype) → Once.Prototype fit name
  generated {name origin : String} :
    r.generated.get? name = some origin → Once.Generated fit markers name

namespace Registry.Traced

variable {fit : Host → Prop} {markers : List String} {r r' : Registry} {name : String}

theorem fresh : Registry.Traced fit markers {} := ⟨nofun, nofun, nofun⟩

/-- A change about templates keeps the answers about declarations, or drops them. -/
theorem of_spares (h : r.Traced fit markers) (hspares : r.Spares r')
    (htemplates : ∀ {name : String} {defaults : Descriptor},
      r'.templates.get? name = some defaults → Once.Template fit name) :
    r'.Traced fit markers where
  templates := htemplates
  classes hget := by
    -- Nothing is told of any declaration after a drop.
    cases hspares with
    | kept _ hclasses _ _ => exact h.classes (hclasses ▸ hget)
    | dropped _ hclasses _ _ =>
      rw [hclasses] at hget
      cases hget
  generated hget := by
    cases hspares with
    | kept _ _ hgenerated _ => exact h.generated (hgenerated ▸ hget)
    | dropped _ _ hgenerated _ =>
      rw [hgenerated] at hget
      cases hget

theorem announce (h : r.Traced fit markers) (name : String) :
    (r.announceTemplate name).Traced fit markers :=
  -- Templates that were dropped or kept were kept before.
  h.of_spares (r.spares_announceTemplate name) fun hget =>
    h.templates (r.announceTemplate_templates_get? _ _ hget).2

theorem publishTemplate (h : r.Traced fit markers) (hname : Once.Template fit name)
    (file? : Option FileId) (defaults : Descriptor) :
    (r.publishTemplate r.epoch name file? defaults).Traced fit markers := by
  refine h.of_spares (spares_publishTemplate ..) fun hget => ?_
  -- Defaults that were kept before stay, those of the name itself among them.
  rcases r.publishTemplate_templates_get? _ _ _ hget with hkept | ⟨rfl, _⟩
  · exact h.templates hkept
  · exact hname

theorem deny (h : r.Traced fit markers) (name : String) (file? : Option FileId) :
    (r.denyTemplate name file?).Traced fit markers :=
  h.of_spares (r.spares_denyTemplate name file?) fun hget => by
    rw [denyTemplate_templates] at hget
    exact h.templates hget

theorem depend (h : r.Traced fit markers) (parent dependent : String) :
    (r.recordDependent parent dependent).Traced fit markers :=
  ⟨h.templates, h.classes, h.generated⟩

theorem publishValidator (h : r.Traced fit markers) (epoch : Nat) (name : String)
    (file? : Option FileId) (descriptor : ValidationDescriptor) :
    (r.publishValidator epoch name file? descriptor).Traced fit markers :=
  h.of_spares (r.spares_publishValidator epoch name file? descriptor) fun hget => by
    rw [(sameTemplates_publishValidator ..).templates] at hget
    exact h.templates hget

theorem publishClass (h : r.Traced fit markers) (epoch : Nat) (file : FileId)
    {prototype : Option Descriptor} (hname : prototype ≠ none → Once.Prototype fit name) :
    (r.publishClass epoch name file prototype).Traced fit markers where
  templates hget := by
    rw [(sameTemplates_publishClass ..).templates] at hget
    exact h.templates hget
  classes hget := by
    -- What was published in time is told by the one who publishes, all else is older.
    rcases publishClass_classes_get? _ _ _ _ _ hget with hkept | ⟨rfl, rfl, _⟩
    · exact h.classes hkept
    · exact hname (Option.some_ne_none _)
  generated hget := by
    -- A class entry leaves the known origins as they are.
    rw [← knownOrigin?_eq_some_some_iff, knownOrigin?_publishClass] at hget
    exact h.generated (knownOrigin?_eq_some_some_iff.1 hget)

theorem publishGenerated (h : r.Traced fit markers) (epoch : Nat) (file : FileId)
    (prototype : String) (hname : Once.Generated fit markers name) :
    (r.publishGenerated epoch name file prototype).Traced fit markers where
  templates hget := by
    rw [(sameTemplates_publishGenerated ..).templates] at hget
    exact h.templates hget
  classes hget := by
    rw [publishGenerated_classes] at hget
    exact h.classes hget
  generated hget := by
    rw [← knownOrigin?_eq_some_some_iff] at hget
    rcases knownOrigin?_publishGenerated hget with hkept | ⟨rfl, _, _⟩
    · exact h.generated (knownOrigin?_eq_some_some_iff.1 hkept)
    · exact hname

theorem publishNonGenerated (h : r.Traced fit markers) (epoch : Nat) (name : String)
    (file : FileId) : (r.publishNonGenerated epoch name file).Traced fit markers where
  templates hget := by
    rw [(sameTemplates_publishNonGenerated ..).templates] at hget
    exact h.templates hget
  classes hget := by
    rw [publishNonGenerated_classes] at hget
    exact h.classes hget
  generated hget := by
    rw [← knownOrigin?_eq_some_some_iff] at hget
    -- This publication tells that there is no origin.
    rcases knownOrigin?_publishNonGenerated hget with hkept | ⟨_, hnone, _⟩
    · exact h.generated (knownOrigin?_eq_some_some_iff.1 hkept)
    · cases hnone

theorem forgetAll (h : r.Traced fit markers) (names : List String) :
    (r.forgetAll names).Traced fit markers where
  templates hget := h.templates ((r.forgets_forgetAll names).templates hget).2
  classes hget := h.classes ((r.forgets_forgetAll names).classes hget).2
  generated hget := by
    rw [← knownOrigin?_eq_some_some_iff] at hget
    exact h.generated (knownOrigin?_eq_some_some_iff.1 (knownOrigin?_forgetAll hget).2)

theorem refresh (h : r.Traced fit markers) (host : Host) (file : FileId) :
    (r.refresh host file).2.Traced fit markers := by
  rw [Registry.refresh]
  cases r.refreshedNames host file with
  | error e => exact h
  | ok names => exact h.forgetAll _

end Registry.Traced

end PrototypeLens
