import PrototypeLens.Proofs.Registry.Forgetting
import PrototypeLens.Proofs.Template.Verdict

/-!
# The steps of discovery

What discovery does to the registry, one change after another, with the grounds on which a template
is registered at the moment when it is. What every such step preserves, discovery and answering for
a template preserve, also when they fail.

## Layers

- `Registry.Grounds`: why a template is registered.
- `Registry.Step`: a change that discovery makes.
- `Task.Placed`: the annotations of a task stand on the declaration of its subject.

## Main results

- `Scope.Ensures.steps`: making sure of a template is a step, given the grounds.
- `Discovery.steps` and `Lookup.Answers.steps`: discoveries and answers consist of steps.
- `Registry.classes_of_steps`: no step publishes a prototype.
-/

namespace PrototypeLens

open Relation (ReflTransGen)

namespace Registry

theorem mem_dependentsOf_recordDependent {r : Registry} {parent dependent other name : String} :
    name ∈ (r.recordDependent parent dependent).dependentsOf other ↔
      other = parent ∧ name = dependent ∨ name ∈ r.dependentsOf other := by
  simp only [dependentsOf, recordDependent, Table.get?_insert]
  -- Only the parent itself gets a dependent.
  by_cases hother : other = parent
  · subst hother
    simp [NameSet.mem_add]
  · simp [hother]

/-- Why a template is registered: it is a root, it carries the marker, or it carries a template
whose defaults are kept and on which it is recorded to depend. -/
inductive Grounds (host : Host) (r : Registry) (name : String) : Prop where
  | root : name ∈ rootTemplates → Grounds host r name
  | marked : host.Carries name templateMarker → Grounds host r name
  | carried {parent : String} {defaults : Descriptor} : host.Carries name parent →
      r.templates.get? parent = some defaults → name ∈ r.dependentsOf parent → Grounds host r name

/-- A template that is kept gives grounds to what is made to depend on it. -/
theorem grounds_of_carried {host : Host} {r : Registry} {own parent : String}
    {defaults : Descriptor} (hcarries : host.Carries own parent)
    (hkept : r.templates.get? parent = some defaults) :
    (r.recordDependent parent own).Grounds host own :=
  .carried hcarries hkept (mem_dependentsOf_recordDependent.2 (.inl ⟨rfl, rfl⟩))

/-- A change that discovery makes. -/
inductive Step (host : Host) : Registry → Registry → Prop where
  | announce {r : Registry} (name : String) : Step host r (r.announceTemplate name)
  | register {r : Registry} {name : String} {decl : Option Declaration}
      (defaults : Descriptor) : host.Finds name decl → r.Grounds host name →
      Step host r ((r.announceTemplate name).publishTemplate (r.announceTemplate name).epoch name
        (decl.map (·.file)) defaults)
  /-- An annotation is denied; if a file is recorded, it is that of its declaration. -/
  | deny {r : Registry} {name : String} {file? : Option FileId} :
      (∀ file, file? = some file → ∃ decl, host.Declares name decl ∧ decl.file = file) →
      Step host r (r.denyTemplate name file?)
  /-- A declaration depends on an annotation that it carries. -/
  | depend {r : Registry} {parent dependent : String} :
      host.Carries dependent parent → Step host r (r.recordDependent parent dependent)

/-- Steps publish no prototypes. -/
theorem Step.classes {host : Host} {r r' : Registry} (h : Step host r r') {name : String}
    {prototype : Option Descriptor} (hget : r'.classes.get? name = some prototype) :
    r.classes.get? name = some prototype := by
  -- An announcement drops the prototypes, or does nothing.
  have hannounce (other : String)
      (hget : (r.announceTemplate other).classes.get? name = some prototype) :
      r.classes.get? name = some prototype := by
    unfold announceTemplate at hget
    split at hget
    · exact hget
    · cases hget
  cases h with
  | announce other => exact hannounce other hget
  | register defaults _ _ =>
    rw [publishTemplate_self, recordOwner?_classes] at hget
    exact hannounce _ hget
  | deny _ => simpa using hget
  | depend _ => exact hget

theorem classes_of_steps {host : Host} {r r' : Registry} (h : ReflTransGen (Step host) r r')
    {name : String} {prototype : Option Descriptor}
    (hget : r'.classes.get? name = some prototype) : r.classes.get? name = some prototype := by
  -- The induction is on the steps, from the last one backwards.
  induction h with
  | refl => exact hget
  | tail _ hstep ih => exact ih (hstep.classes hget)

end Registry

variable {scope : Scope} {r r' : Registry} {name : String}

/-- Making sure of a template is a step, given the grounds for it. -/
theorem Scope.Ensures.steps {decl : Option Declaration} {out : Except LookupError Descriptor}
    (h : scope.Ensures name decl r out r') (hgrounds : r.Grounds scope.host name)
    (hfind : scope.host.Finds name decl) : ReflTransGen (Registry.Step scope.host) r r' := by
  cases h with
  | kept _ => exact .refl
  | registered _ _ => exact .single (.register _ hfind hgrounds)
  | failed _ _ => exact .single (.announce name)

/-- The annotations that a task takes stand on the declaration of its subject. -/
def Task.Placed (host : Host) : Task → Prop
  | .inspect own decl _ marks => host.Declares own decl ∧ marks ⊆ decl.annotations
  | _ => True

namespace Task.Placed

variable {host : Host} {own : String} {decl : Declaration} {sofar : Option Descriptor}
  {mark : AnnotationUse} {marks : List AnnotationUse}

theorem carries (h : Placed host (.inspect own decl sofar (mark :: marks))) :
    host.Carries own mark.name :=
  ⟨decl, h.1, mark, h.2 List.mem_cons_self, rfl⟩

theorem marked (h : Placed host (.inspect own decl sofar (mark :: marks)))
    (hmarker : mark.name = templateMarker) : r.Grounds host own := by
  have hcarries := h.carries
  rw [hmarker] at hcarries
  exact .marked hcarries

theorem rest (h : Placed host (.inspect own decl sofar (mark :: marks)))
    (sofar' : Option Descriptor) : Placed host (.inspect own decl sofar' marks) :=
  ⟨h.1, (List.cons_subset.1 h.2).2⟩

end Task.Placed

/-- A discovery consists of steps. -/
theorem Discovery.steps {path : NameSet} {task : Task}
    {out : Except LookupError (Option Descriptor)} (h : Discovery scope path task r out r')
    (hplaced : task.Placed scope.host) : ReflTransGen (Registry.Step scope.host) r r' := by
  -- Induction on the derivation: every rule strings the steps of its premises together, and adds a
  -- step of its own where it denies a name, records a dependent or makes sure of a template.
  induction h with
  | root hroot hfind hens => exact hens.steps (.root hroot) hfind
  | undeclared _ _ => exact .refl
  | decided _ hdecl _ _ ih => exact ih ⟨hdecl, List.Subset.refl _⟩
  | denied _ hdecl _ ih =>
    have hinspected := ih ⟨hdecl, List.Subset.refl _⟩
    refine hinspected.tail (.deny fun file hfile => ?_)
    exact ⟨_, hdecl, Option.some.inj hfile⟩
  | kept _ => exact .refl
  | circular _ _ => exact .refl
  | opened _ _ _ ih => exact ih trivial
  | done => exact .refl
  | marked hmarker hens _ ih =>
    have hensured := hens.steps (hplaced.marked hmarker) hplaced.1.finds
    exact hensured.trans (ih (hplaced.rest _))
  | markedFailed hmarker hens => exact hens.steps (hplaced.marked hmarker) hplaced.1.finds
  | barred _ _ _ ih => exact ih (hplaced.rest _)
  | @carried path own decl sofar mark marks r r₁ r₂ r' parent defaults out _ hnon hconsult hens _
      ihConsult ih =>
    -- The parent is kept when the dependent is recorded, and that is what the grounds need.
    have hkept : r₁.templates.get? mark.name = some parent := (hconsult.verdict hnon).2
    have hgrounds := Registry.grounds_of_carried hplaced.carries hkept
    have hrecorded := (ihConsult trivial).tail (.depend hplaced.carries)
    have hensured := hens.steps hgrounds hplaced.1.finds
    exact (hrecorded.trans hensured).trans (ih (hplaced.rest _))
  | @carriedFailed path own decl sofar mark marks r r₁ r₂ parent e _ hnon hconsult hens ihConsult =>
    have hkept : r₁.templates.get? mark.name = some parent := (hconsult.verdict hnon).2
    have hgrounds := Registry.grounds_of_carried hplaced.carries hkept
    have hrecorded := (ihConsult trivial).tail (.depend hplaced.carries)
    exact hrecorded.trans (hens.steps hgrounds hplaced.1.finds)
  | @passed path own decl sofar mark marks r r₁ r' out _ _ _ _ ihConsult ih =>
    -- An annotation is denied here without a file, so that there is no owner to account for.
    have hdeny : Registry.Step scope.host r₁ (r₁.denyTemplate mark.name none) := .deny (by simp)
    have hdenied := (ihConsult trivial).tail hdeny
    exact hdenied.trans (ih (hplaced.rest _))
  | failing _ _ _ ihConsult => exact ihConsult trivial

/-- Answering for a template takes steps. -/
theorem Lookup.Answers.steps {out : Except LookupError (Option Descriptor)}
    (h : Lookup.Answers scope name r out r') : ReflTransGen (Registry.Step scope.host) r r' := by
  cases h with
  | kept _ => exact .refl
  | barred _ _ => exact .refl
  | discovered _ _ hdisc => exact hdisc.steps trivial

end PrototypeLens
