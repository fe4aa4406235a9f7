import Mathlib.Data.List.Nodup
import Mathlib.Logic.Relation
import PrototypeLens.Editor.Usage
import PrototypeLens.Proofs.Host.Health
import PrototypeLens.Proofs.Walk.Distance

/-!
# The methods of a type

The methods of a type are those that stand in it and in the types that it inherits from. However the
supertypes meet, each of them is asked for once, so that no method is listed twice.

## Layers

- `PlacedMethod.Stands`: a method is where it says that it is. `Stands.ext` tells methods by their
  places.
- `Host.ListsOnce`: a list that has each method with a property, once. It is closed under filters,
  and `nodup_append_iff` says when two such lists go together.
- `Host.Inherits`: the closure of naming a supertype, which paths of the walk amount to by
  `Findable.leads_iff`.

## Main results

- `nodup_of_allMethods`: whatever the host answers, no method is listed twice.
- `Findable.exists_allMethods`: where names can be resolved, the methods are exactly those of the
  inherited types.
-/

namespace PrototypeLens

open Relation (ReflTransGen)

/-! ## Places -/

/-- The method stands at its place. -/
def PlacedMethod.Stands (host : Host) (m : PlacedMethod) : Prop :=
  ∃ decl, host.declaration m.owner = .ok decl ∧ decl.methods[m.index]? = some m.method

theorem mem_placedMethods_iff {id : DeclId} {decl : Declaration} {m : PlacedMethod} :
    m ∈ placedMethods id decl ↔ m.owner = id ∧ decl.methods[m.index]? = some m.method := by
  obtain ⟨owner, index, method⟩ := m
  rw [placedMethods, List.mem_mapIdx]
  -- What stands in the list at an index is the method at that index.
  constructor
  · rintro ⟨i, hi, hm⟩
    cases hm
    exact ⟨rfl, List.getElem?_eq_getElem hi⟩
  · rintro ⟨rfl, hmethod⟩
    obtain ⟨hi, hmethod⟩ := List.getElem?_eq_some_iff.1 hmethod
    exact ⟨index, hi, by rw [hmethod]⟩

theorem nodup_placedMethods (id : DeclId) (decl : Declaration) :
    ((placedMethods id decl).map (·.element)).Nodup := by
  -- Methods of one declaration differ by their indices.
  refine List.pairwise_map.2 (List.pairwise_iff_getElem.2 fun i j hi hj hlt hsame => ?_)
  simp only [placedMethods, List.getElem_mapIdx, PlacedMethod.element] at hsame
  cases hsame
  exact Nat.lt_irrefl i hlt

/-- At one place stands one method. -/
theorem PlacedMethod.Stands.eq {host : Host} {m : PlacedMethod} (h : m.Stands host) {id : DeclId}
    {index : Nat} {decl : Declaration} {method : Method} (hplace : m.element = .method id index)
    (hdecl : host.declaration id = .ok decl) (hmethod : decl.methods[index]? = some method) :
    m.method = method := by
  obtain ⟨decl', hdecl', hmethod'⟩ := h
  cases hplace
  cases hdecl.symm.trans hdecl'
  exact Option.some.inj (hmethod'.symm.trans hmethod)

theorem PlacedMethod.Stands.ext {host : Host} {m m' : PlacedMethod} (h : m.Stands host)
    (h' : m'.Stands host) (hplace : m.element = m'.element) : m = m' := by
  obtain ⟨decl, hdecl, hmethod⟩ := h'
  have hsame := h.eq hplace hdecl hmethod
  obtain ⟨owner, index, method⟩ := m
  cases hplace
  cases hsame
  rfl

/-! ## Listed once -/

namespace Host

/-- Some of the methods of a host, those that `among` holds of, listed once each. -/
structure ListsOnce (host : Host) (among : PlacedMethod → Prop) (found : List PlacedMethod) :
    Prop where
  nodup : (found.map (·.element)).Nodup
  mem_iff {m : PlacedMethod} : m ∈ found ↔ m.Stands host ∧ among m

namespace ListsOnce

variable {host : Host} {among among' : PlacedMethod → Prop} {found found' : List PlacedMethod}

theorem nil (h : ∀ m, ¬ among m) : host.ListsOnce among [] where
  nodup := .nil
  mem_iff := iff_of_false List.not_mem_nil fun hm => h _ hm.2

theorem congr (h : host.ListsOnce among found) (hsame : ∀ m, among m ↔ among' m) :
    host.ListsOnce among' found where
  nodup := h.nodup
  mem_iff {m} := by rw [h.mem_iff, hsame]

theorem filter (h : host.ListsOnce among found) (p : PlacedMethod → Bool) :
    host.ListsOnce (fun m => among m ∧ p m = true) (found.filter p) where
  nodup := h.nodup.sublist (List.filter_sublist.map _)
  mem_iff {m} := by rw [List.mem_filter, h.mem_iff, and_assoc]

/-- The place of a method is listed if the method is. -/
theorem mem_elements_iff (h : host.ListsOnce among found) {m : PlacedMethod} (hm : m.Stands host) :
    m.element ∈ found.map (·.element) ↔ among m := by
  rw [List.mem_map]
  constructor
  · rintro ⟨m', hm', hplace⟩
    obtain ⟨hstands, hamong⟩ := h.mem_iff.1 hm'
    rwa [← hstands.ext hm hplace]
  · exact fun hamong => ⟨m, h.mem_iff.2 ⟨hm, hamong⟩, rfl⟩

/-- Two lists in a row have no place twice if they have no method in common. -/
theorem nodup_append_iff (h : host.ListsOnce among found) (h' : host.ListsOnce among' found') :
    (found.map (·.element) ++ found'.map (·.element)).Nodup ↔
      ¬ ∃ m : PlacedMethod, m.Stands host ∧ among m ∧ among' m := by
  rw [List.nodup_append']
  simp only [h.nodup, h'.nodup, true_and]
  constructor
  · -- A method that both have in common would have its place in both lists.
    rintro hdisjoint ⟨m, hm, hamong, hamong'⟩
    exact hdisjoint ((h.mem_elements_iff hm).2 hamong) ((h'.mem_elements_iff hm).2 hamong')
  · intro hnone element hmem hmem'
    obtain ⟨m, hm, rfl⟩ := List.mem_map.1 hmem
    obtain ⟨hstands, hamong⟩ := h.mem_iff.1 hm
    exact hnone ⟨m, hstands, hamong, (h'.mem_elements_iff hstands).1 hmem'⟩

end ListsOnce

end Host

/-! ## Supertypes -/

namespace Host

variable {host : Host} {id upper : DeclId} {decl : Declaration}

/-- A declaration names another one among its supertypes. -/
def Extends (host : Host) (id parent : DeclId) : Prop :=
  ∃ decl name, host.declaration id = .ok decl ∧ name ∈ decl.supertypes ∧
    host.find name = .ok (some parent)

theorem Extends.declaration {parent : DeclId} (h : host.Extends id parent) :
    ∃ decl, host.declaration id = .ok decl := by
  obtain ⟨decl, _, hdecl, _⟩ := h
  exact ⟨decl, hdecl⟩

/-- A declaration is another one or has it above itself. -/
def Inherits (host : Host) : DeclId → DeclId → Prop := ReflTransGen host.Extends

theorem Healthy.findable (h : host.Healthy) : host.Findable := h.findData_ok

theorem Findable.find_ok (h : host.Findable) (name : String) :
    ∃ found, host.find name = .ok found := by
  -- Resolving a name comes before reading what it resolves to, so that it succeeds with it.
  obtain ⟨entry, hentry⟩ := h name
  cases hfind : host.find name with
  | error e => simp [findData, hfind, bind, Except.bind] at hentry
  | ok found => exact ⟨found, rfl⟩

/-- What a name resolves to has a declaration. -/
theorem Findable.found (h : host.Findable) {name : String}
    (hfind : host.find name = .ok (some id)) : ∃ decl, host.declaration id = .ok decl := by
  obtain ⟨entry, hentry⟩ := h name
  cases hdecl : host.declaration id with
  | error e => simp [findData, hfind, hdecl, bind, Except.bind] at hentry
  | ok decl => exact ⟨decl, rfl⟩

theorem declaration_of_expand {held : List PlacedMethod} {next : List DeclId}
    (hexpand : host.hierarchy.expand id = .ok (some (held, next))) :
    ∃ decl, host.declaration id = .ok decl ∧ held = placedMethods id decl := by
  cases hdecl : host.declaration id with
  | error e => simp [hierarchy, hdecl, bind, Except.bind] at hexpand
  | ok decl =>
    cases hparents : decl.supertypes.mapM host.find with
    | error e => simp [hierarchy, hdecl, hparents, bind, Except.bind] at hexpand
    | ok parents =>
      simp only [hierarchy, hdecl, hparents, bind, Except.bind, pure, Except.pure] at hexpand
      cases hexpand
      exact ⟨decl, rfl, rfl⟩

/-- A declaration that is there has its methods and the supertypes that are there. -/
theorem Findable.exists_expand_hierarchy (h : host.Findable)
    (hdecl : host.declaration id = .ok decl) :
    ∃ next, host.hierarchy.expand id = .ok (some (placedMethods id decl, next)) ∧
      ∀ parent, parent ∈ next ↔ host.Extends id parent := by
  obtain ⟨found, hfound⟩ :=
    exists_mapM_ok_iff.2 fun name (_ : name ∈ decl.supertypes) => h.find_ok name
  refine ⟨found.filterMap fun parent => parent, ?_, fun parent => ?_⟩
  · simp only [hierarchy, hdecl, hfound, bind, Except.bind, pure, Except.pure]
  · simp only [List.mem_filterMap, exists_eq_right, mem_iff_of_mapM hfound, Extends]
    constructor
    · rintro ⟨name, hname, hfind⟩
      exact ⟨decl, name, hdecl, hname, hfind⟩
    · rintro ⟨decl', name, hdecl', hname, hfind⟩
      cases hdecl.symm.trans hdecl'
      exact ⟨name, hname, hfind⟩

/-- The declarations that paths lead to are those that a declaration inherits from. -/
theorem Findable.leads_iff (h : host.Findable) :
    (∃ k, host.hierarchy.Leads [id] k upper) ↔ host.Inherits id upper := by
  constructor
  · rintro ⟨k, hleads⟩
    -- The induction is on the path: each step of the walk is a step up.
    induction hleads with
    | start hstart =>
      obtain rfl := List.mem_singleton.1 hstart
      exact .refl
    | step _ hexpand hmem ih =>
      obtain ⟨decl, hdecl, rfl⟩ := declaration_of_expand hexpand
      obtain ⟨next, hexpand', hnext⟩ := h.exists_expand_hierarchy hdecl
      cases hexpand.symm.trans hexpand'
      exact ih.tail ((hnext _).1 hmem)
  · intro hinherits
    -- Upwards, the path is prolonged by one step at its far end.
    induction hinherits with
    | refl => exact ⟨0, .start List.mem_cons_self⟩
    | tail _ hextends ih =>
      obtain ⟨k, hleads⟩ := ih
      obtain ⟨decl, hdecl⟩ := hextends.declaration
      obtain ⟨next, hexpand, hnext⟩ := h.exists_expand_hierarchy hdecl
      exact ⟨k + 1, .step hleads hexpand ((hnext _).2 hextends)⟩

/-- What different declarations hold lies at different places. -/
theorem nodup_elements_of_visits {found : List (List PlacedMethod)}
    {visits : List (DeclId × List PlacedMethod)} (h : host.hierarchy.Visits [] found visits) :
    (found.flatten.map (·.element)).Nodup := by
  have hheld {p : DeclId × List PlacedMethod} (hp : p ∈ visits) :
      ∃ decl, p.2 = placedMethods p.1 decl := by
    obtain ⟨next, hexpand⟩ := h.held hp
    obtain ⟨decl, _, hheld⟩ := declaration_of_expand hexpand
    exact ⟨decl, hheld⟩
  -- Each visit holds the methods of the declaration that is visited, and none is visited twice.
  rw [← h.found_eq, List.map_flatten, List.map_map, List.nodup_flatten]
  constructor
  · intro elements helements
    obtain ⟨p, hp, rfl⟩ := List.mem_map.1 helements
    obtain ⟨decl, hdecl⟩ := hheld hp
    simpa only [Function.comp, hdecl] using nodup_placedMethods p.1 decl
  · -- An element names the declaration that it stands in, so that different visits share none.
    refine List.pairwise_map.2 ((List.pairwise_map.1 h.nodup).imp_of_mem fun hp hq hne => ?_)
    obtain ⟨decl, hdecl⟩ := hheld hp
    obtain ⟨decl', hdecl'⟩ := hheld hq
    simp only [Function.comp, hdecl, hdecl']
    intro element hmem hmem'
    obtain ⟨m, hm, rfl⟩ := List.mem_map.1 hmem
    obtain ⟨m', hm', hplace⟩ := List.mem_map.1 hmem'
    have howner := congrArg Element.owner hplace
    exact hne ((mem_placedMethods_iff.1 hm).1.symm.trans
      (howner.symm.trans (mem_placedMethods_iff.1 hm').1))

/-- Without supertypes there are the methods of the declaration itself. -/
theorem allMethods_of_no_supertypes (hdecl : host.declaration id = .ok decl)
    (hnone : decl.supertypes = []) : allMethods host id = .ok (placedMethods id decl) := by
  have hexpand : host.hierarchy.expand id = .ok (some (placedMethods id decl, [])) := by
    simp only [hierarchy, hdecl, hnone, bind, Except.bind]
    rfl
  rw [allMethods, Graph.walk, Graph.walkFrom_cons List.not_mem_nil Bool.false_ne_true, hexpand]
  simp [Except.map]

/-- No method of a type is listed twice. -/
theorem nodup_of_allMethods {methods : List PlacedMethod} (h : allMethods host id = .ok methods) :
    (methods.map (·.element)).Nodup := by
  cases hwalk : host.hierarchy.walk [id] with
  | error e =>
    rw [allMethods, hwalk] at h
    cases h
  | ok journey =>
    rw [allMethods, hwalk] at h
    cases h
    obtain ⟨visits, hvisits⟩ := Graph.walk_visits hwalk
    exact nodup_elements_of_visits hvisits

/-- The methods of a type can be found. They are those that stand in what it inherits from, each
listed once. -/
theorem Findable.exists_allMethods (h : host.Findable) (hdecl : host.declaration id = .ok decl) :
    ∃ methods, allMethods host id = .ok methods ∧
      host.ListsOnce (fun m => host.Inherits id m.owner) methods := by
  have hedges (n : DeclId) (held : List PlacedMethod) (next : List DeclId)
      (hn : ∃ decl, host.declaration n = .ok decl)
      (hexpand : host.hierarchy.expand n = .ok (some (held, next))) :
      ∀ m ∈ next, ∃ decl, host.declaration m = .ok decl := by
    obtain ⟨decl', hdecl'⟩ := hn
    obtain ⟨next', hexpand', hnext⟩ := h.exists_expand_hierarchy hdecl'
    cases hexpand'.symm.trans hexpand
    intro m hm
    obtain ⟨_, _, _, _, hfind⟩ := (hnext m).1 hm
    exact h.found hfind
  obtain ⟨journey, hjourney⟩ : ∃ journey, host.hierarchy.walk [id] = .ok journey := by
    -- The walk stays among declarations that are there, where every step of it succeeds.
    refine Graph.walkFrom_ok (fun n hn => ?_) hedges _ [] [id] ?_
    · obtain ⟨decl', hdecl'⟩ := hn
      obtain ⟨next', hexpand', _⟩ := h.exists_expand_hierarchy hdecl'
      exact ⟨_, hexpand'⟩
    · intro n hn
      rw [List.mem_singleton.1 hn]
      exact ⟨decl, hdecl⟩
  have hmethods : allMethods host id = .ok journey.found.flatten := by
    rw [allMethods, hjourney]
    rfl
  refine ⟨journey.found.flatten, hmethods, nodup_of_allMethods hmethods, fun {m} => ?_⟩
  rw [List.mem_flatten]
  constructor
  · rintro ⟨held, hheld, hm⟩
    obtain ⟨n, hleads, next, hexpand⟩ := (Graph.mem_found_iff hjourney).1 hheld
    obtain ⟨decl', hdecl', rfl⟩ := declaration_of_expand hexpand
    obtain ⟨rfl, hmethod⟩ := mem_placedMethods_iff.1 hm
    exact ⟨⟨decl', hdecl', hmethod⟩, h.leads_iff.1 hleads⟩
  · rintro ⟨⟨decl', hdecl', hmethod⟩, hinherits⟩
    obtain ⟨next, hexpand, _⟩ := h.exists_expand_hierarchy hdecl'
    exact ⟨_, (Graph.mem_found_iff hjourney).2 ⟨_, h.leads_iff.2 hinherits, next, hexpand⟩,
      mem_placedMethods_iff.2 ⟨rfl, hmethod⟩⟩

end Host

end PrototypeLens
