import Mathlib.Data.List.Nodup
import PrototypeLens.Model.Declaration

/-!
# The sites of a declaration

The list of all sites of a declaration has a site for each annotation on it, once, in the order in
which the annotations stand: those of the declaration itself, those of each field, then those of
each method. So what a site of the list is resolved to later is the annotation that it was listed
for.

## Layers

- One element: its sites are told by their index, and are resolved to its annotations.
- `onElements`: the elements of one kind, with a place for each. Different elements have different
  places, so that no site is listed twice.
- All sites: the declaration, its fields and its methods, whose sites differ by their targets.

## Main results

- `mem_all_iff`: the list has the sites that are resolved to something, and no other.
- `nodup_all` and `map_resolve?_all`: none of them twice, and in the order of the annotations.
- All three of every declaration, in one statement.
-/

namespace PrototypeLens

namespace AnnotationSite

variable {id : DeclId} {d : Declaration} {site : AnnotationSite}

/-! ## One element -/

theorem mem_onElement_iff {target : SiteTarget} {count : Nat} :
    site ∈ onElement id target count ↔
      site.decl = id ∧ site.target = target ∧ site.index < count := by
  constructor
  · -- A site is listed for each index below the number of annotations.
    intro hsite
    obtain ⟨index, hindex, rfl⟩ := List.mem_map.1 hsite
    exact ⟨rfl, rfl, List.mem_range.1 hindex⟩
  · rintro ⟨rfl, rfl, hindex⟩
    exact List.mem_map.2 ⟨site.index, List.mem_range.2 hindex, rfl⟩

theorem nodup_onElement (id : DeclId) (target : SiteTarget) (count : Nat) :
    (onElement id target count).Nodup := by
  refine List.nodup_range.map fun i j hij => ?_
  exact congrArg AnnotationSite.index hij

/-- The sites of an element are resolved to its annotations, in order. -/
theorem map_resolve?_onElement {target : SiteTarget} {marks : List AnnotationUse}
    (hmarks : annotationsAt? d target = some marks) :
    (onElement id target marks.length).map (·.resolve? d) = marks.map some := by
  -- Both lists have as many entries as there are annotations; compare them by position.
  refine List.ext_getElem (by simp [onElement]) fun i hi hi' => ?_
  have hlt : i < marks.length := by simpa using hi'
  simp [onElement, resolve?, hmarks, List.getElem?_eq_getElem hlt]

/-! ## The elements of one kind -/

section Elements

variable {α : Type} (place : Nat → SiteTarget) (marks : α → List AnnotationUse)

/-- The sites of the annotations on each of some elements, in order. -/
def onElements (id : DeclId) (elements : List α) : List AnnotationSite :=
  (elements.mapIdx fun i e => onElement id (place i) (marks e).length).flatten

variable {place marks} {elements : List α}

theorem mem_onElements_iff : site ∈ onElements place marks id elements ↔
    site.decl = id ∧ ∃ i e, elements[i]? = some e ∧ site.target = place i ∧
      site.index < (marks e).length := by
  simp only [onElements, List.mem_flatten, List.mem_mapIdx]
  constructor
  · rintro ⟨_, ⟨i, hi, rfl⟩, hsite⟩
    obtain ⟨hdecl, htarget, hindex⟩ := mem_onElement_iff.1 hsite
    exact ⟨hdecl, i, elements[i], List.getElem?_eq_getElem hi, htarget, hindex⟩
  · rintro ⟨hdecl, i, e, he, htarget, hindex⟩
    obtain ⟨hi, rfl⟩ := List.getElem?_eq_some_iff.1 he
    exact ⟨_, ⟨i, hi, rfl⟩, mem_onElement_iff.2 ⟨hdecl, htarget, hindex⟩⟩

/-- Elements at different places share no site. -/
theorem nodup_onElements (hplace : Function.Injective place) :
    (onElements place marks id elements).Nodup := by
  rw [onElements, List.nodup_flatten]
  constructor
  · intro sites hsites
    -- The sites of one element differ by their index.
    obtain ⟨i, hi, rfl⟩ := List.mem_mapIdx.1 hsites
    exact nodup_onElement ..
  · -- A site tells its place, so that one on two elements would give them the same place.
    rw [List.pairwise_iff_getElem]
    intro i j hi hj hij site hsite hsite'
    rw [List.getElem_mapIdx] at hsite hsite'
    obtain ⟨_, htarget, _⟩ := mem_onElement_iff.1 hsite
    obtain ⟨_, htarget', _⟩ := mem_onElement_iff.1 hsite'
    exact (Nat.ne_of_lt hij) (hplace (htarget.symm.trans htarget'))

/-- The sites of elements are resolved to their annotations, in order. -/
theorem map_resolve?_onElements
    (hplace : ∀ i e, elements[i]? = some e → annotationsAt? d (place i) = some (marks e)) :
    (onElements place marks id elements).map (·.resolve? d) =
      (elements.flatMap marks).map some := by
  rw [onElements, List.map_flatten, List.map_flatMap, List.flatMap_def]
  -- Both sides are flattened from as many parts as there are elements; compare them one by one.
  refine congrArg List.flatten (List.ext_getElem (by simp) fun i hi hi' => ?_)
  have hlt : i < elements.length := by simpa using hi'
  simp only [List.getElem_mapIdx, List.getElem_map]
  exact map_resolve?_onElement (hplace i _ (List.getElem?_eq_getElem hlt))

end Elements

/-! ## All sites -/

theorem all_eq (id : DeclId) (d : Declaration) :
    all id d = onElement id .declaration d.annotations.length
      ++ onElements .field (·.annotations) id d.fields
      ++ onElements .method (·.annotations) id d.methods := rfl

theorem annotationsAt?_field {i : Nat} {f : Field} (h : d.fields[i]? = some f) :
    annotationsAt? d (.field i) = some f.annotations := by
  rw [annotationsAt?, h, Option.map_some]

theorem annotationsAt?_method {i : Nat} {m : Method} (h : d.methods[i]? = some m) :
    annotationsAt? d (.method i) = some m.annotations := by
  rw [annotationsAt?, h, Option.map_some]

theorem isSome_resolve?_iff :
    (site.resolve? d).isSome ↔
      ∃ marks, annotationsAt? d site.target = some marks ∧ site.index < marks.length := by
  -- A site is resolved by the annotations of its target, if there is such a target.
  cases hmarks : annotationsAt? d site.target <;> simp [resolve?, hmarks]

theorem mem_all_iff : site ∈ all id d ↔ site.decl = id ∧ (site.resolve? d).isSome := by
  rw [all_eq, List.mem_append, List.mem_append, mem_onElement_iff, mem_onElements_iff,
    mem_onElements_iff, isSome_resolve?_iff, ← and_or_left, ← and_or_left]
  refine and_congr_right fun _ => ?_
  -- The kind of the element decides which of the three parts can hold the site.
  obtain ⟨_, target, index⟩ := site
  cases target with
  | declaration => simp [annotationsAt?]
  | field i => simp [annotationsAt?]
  | method i => simp [annotationsAt?]

/-- The elements of different kinds share no site. -/
theorem nodup_all (id : DeclId) (d : Declaration) : (all id d).Nodup := by
  have hfields : (onElements .field (·.annotations) id d.fields).Nodup :=
    nodup_onElements fun i j hij => SiteTarget.field.inj hij
  have hmethods : (onElements .method (·.annotations) id d.methods).Nodup :=
    nodup_onElements fun i j hij => SiteTarget.method.inj hij
  rw [all_eq]
  refine ((nodup_onElement ..).append hfields ?_).append hmethods ?_
  · -- A site of the declaration itself has another target than one of a field.
    intro site hown hfield
    obtain ⟨_, htarget, _⟩ := mem_onElement_iff.1 hown
    obtain ⟨_, i, _, _, htarget', _⟩ := mem_onElements_iff.1 hfield
    cases htarget.symm.trans htarget'
  · intro site hrest hmethod
    obtain ⟨_, j, _, _, htarget, _⟩ := mem_onElements_iff.1 hmethod
    -- What is listed before the methods is a site of the declaration or of a field.
    rcases List.mem_append.1 hrest with hown | hfield
    · obtain ⟨_, htarget', _⟩ := mem_onElement_iff.1 hown
      cases htarget.symm.trans htarget'
    · obtain ⟨_, i, _, _, htarget', _⟩ := mem_onElements_iff.1 hfield
      cases htarget.symm.trans htarget'

theorem map_resolve?_all (id : DeclId) (d : Declaration) :
    (all id d).map (·.resolve? d) = (d.annotations ++ d.fields.flatMap (·.annotations) ++
      d.methods.flatMap (·.annotations)).map some := by
  rw [all_eq, List.map_append, List.map_append, List.map_append, List.map_append,
    map_resolve?_onElement rfl, map_resolve?_onElements fun _ _ => annotationsAt?_field,
    map_resolve?_onElements fun _ _ => annotationsAt?_method]

/-- The sites of a declaration are different from each other, they are the addresses inside it at
which an annotation stands, and in order they are resolved to the annotations of the declaration,
those of each field and those of each method. -/
theorem all_enumerates (id : DeclId) (d : Declaration) :
    (all id d).Nodup ∧
    (∀ site, site ∈ all id d ↔ site.decl = id ∧ (site.resolve? d).isSome) ∧
    (all id d).map (·.resolve? d) = (d.annotations ++ d.fields.flatMap (·.annotations) ++
      d.methods.flatMap (·.annotations)).map some :=
  ⟨nodup_all id d, fun _ => mem_all_iff, map_resolve?_all id d⟩

end AnnotationSite

end PrototypeLens
