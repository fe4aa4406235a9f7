import Mathlib.Data.List.Nodup
import PrototypeLens.Proofs.Augment.Merging
import PrototypeLens.Proofs.Host.Ascent

/-!
# Members from the nearest type

Which elements an annotation type inherits, and which methods a field may stand for: of those that
the types above offer, one for each name that is not taken, from a type with that name as few steps
above as there is.

## Layers

- `PicksNearest`: what such a choice is like, for methods that are offered so many steps away.
- `methodsAt`: the methods of declarations that a walk stops at, with their distances.
- `picksNearest_methodsAt`: the first method of each name is a nearest one, if near stops come
  first.

## Main results

- `Host.Findable.exists_inheritable`: inherited elements are picked from the nearest types.
- `Host.Findable.exists_bracketlessMethods`: so are the methods that fields stand for.
-/

namespace PrototypeLens

/-! ## Offers -/

/-- Of the methods that are offered somewhere, each so many steps away, those are picked whose names
are not taken: one for each name, from a nearest place that offers the name. -/
structure PicksNearest (offers : Nat → Method → Prop) (taken : List String)
    (picked : List Method) : Prop where
  nodup : (picked.map (·.name)).Nodup
  mem_names_iff {name : String} : name ∈ picked.map (·.name) ↔
    (∃ k m, offers k m ∧ m.name = name) ∧ name ∉ taken
  nearest {m : Method} : m ∈ picked →
    ∃ k, offers k m ∧ ∀ j m', offers j m' → m'.name = m.name → k ≤ j

/-- An annotation type one or more steps above, by the annotation types that annotation types
extend, has an element that was not merged into it. -/
def Host.OffersElement (host : Host) (decl : Declaration) (k : Nat) (element : Method) : Prop :=
  ∃ upper, (0 < k ∧
      host.Ascends Declaration.extended Declaration.isAnnotationType decl k upper) ∧
    element ∈ upper.methods ∧ element.origin.isAugmented = false

/-- A declaration, or a declared type some steps above it by supertypes, has a method without
parameters that returns a value and was not merged into it. -/
def Host.OffersMethod (host : Host) (decl : Declaration) (k : Nat) (method : Method) : Prop :=
  ∃ upper, host.Ascends Declaration.supertypes (fun _ => true) decl k upper ∧
    method ∈ upper.methods ∧ method.params = [] ∧ method.returnType ≠ .void ∧
    method.origin.isAugmented = false

/-! ## The methods at the stops of a walk -/

section Stops

variable {stops : List (Nat × Declaration)} {p : Method → Bool} {k : Nat} {m : Method}

/-- The methods that pass a test, of declarations that are so many steps away. -/
def methodsAt (p : Method → Bool) (stops : List (Nat × Declaration)) : List (Nat × Method) :=
  (stops.map fun stop => (stop.2.methods.filter p).map fun m => (stop.1, m)).flatten

theorem map_snd_methodsAt : (methodsAt p stops).map Prod.snd =
    ((stops.map Prod.snd).map (·.methods)).flatten.filter p := by
  simp [methodsAt, List.map_flatten, List.filter_flatten, Function.comp_def]

theorem mem_methodsAt_iff : (k, m) ∈ methodsAt p stops ↔
    ∃ upper, (k, upper) ∈ stops ∧ m ∈ upper.methods ∧ p m = true := by
  simp only [methodsAt, List.mem_flatten, List.mem_map]
  constructor
  · rintro ⟨_, ⟨stop, hstop, rfl⟩, hm⟩
    obtain ⟨n, hn, heq⟩ := List.mem_map.1 hm
    cases heq
    exact ⟨stop.2, hstop, List.mem_filter.1 hn⟩
  · rintro ⟨upper, hstop, hm⟩
    exact ⟨_, ⟨_, hstop, rfl⟩, List.mem_map_of_mem (List.mem_filter.2 hm)⟩

theorem sorted_methodsAt (h : stops.Pairwise fun s t => s.1 ≤ t.1) :
    (methodsAt p stops).Pairwise fun s t => s.1 ≤ t.1 := by
  -- Within one stop all distances are the same; between two stops they are in order.
  refine List.pairwise_flatten.2 ⟨fun ms hms => ?_, List.pairwise_map.2 (h.imp ?_)⟩
  · obtain ⟨stop, _, rfl⟩ := List.mem_map.1 hms
    exact List.pairwise_map.2 (List.pairwise_of_forall (by simp))
  · intro s t hle a ha b hb
    obtain ⟨_, _, rfl⟩ := List.mem_map.1 ha
    obtain ⟨_, _, rfl⟩ := List.mem_map.1 hb
    exact hle

/-- The first method of each free name is a nearest one, where near stops come first. -/
theorem picksNearest_methodsAt {above : Nat → Declaration → Prop}
    (hsorted : stops.Pairwise fun s t => s.1 ≤ t.1)
    (hsound : ∀ {k upper}, (k, upper) ∈ stops → above k upper)
    (hcomplete : ∀ {k upper}, above k upper → ∃ j, j ≤ k ∧ (j, upper) ∈ stops)
    (taken : List String) :
    PicksNearest (fun k m => ∃ upper, above k upper ∧ m ∈ upper.methods ∧ p m = true) taken
      (firstByKey Method.name taken ((methodsAt p stops).map Prod.snd)) where
  nodup := nodup_firstByKey
  mem_names_iff {name} := by
    constructor
    · intro hname
      obtain ⟨m, hm, rfl⟩ := List.mem_map.1 hname
      obtain ⟨⟨k, _⟩, hmem, rfl⟩ := List.mem_map.1 (mem_of_mem_firstByKey hm)
      obtain ⟨upper, hstop, hoffer⟩ := mem_methodsAt_iff.1 hmem
      exact ⟨⟨k, _, ⟨upper, hsound hstop, hoffer⟩, rfl⟩, key_not_mem_of_mem_firstByKey hm⟩
    · rintro ⟨⟨k, m, ⟨upper, habove, hoffer⟩, rfl⟩, hfree⟩
      -- The stop may be nearer than the offer, which is as good for a name that is there.
      obtain ⟨j, _, hstop⟩ := hcomplete habove
      have hmem : (j, m) ∈ methodsAt p stops := mem_methodsAt_iff.2 ⟨upper, hstop, hoffer⟩
      have hfound := key_mem_firstByKey Method.name taken (List.mem_map_of_mem (f := Prod.snd) hmem)
      exact hfound.resolve_left hfree
  nearest {m} hm := by
    -- The method that was left is as near as any of its name, and every offer is at a stop or
    -- beyond.
    obtain ⟨k, hmem, hleast⟩ := least_of_mem_firstByKey (sorted_methodsAt hsorted) hm
    obtain ⟨upper, hstop, hoffer⟩ := mem_methodsAt_iff.1 hmem
    refine ⟨k, ⟨upper, hsound hstop, hoffer⟩, fun j m' ⟨upper', habove, hoffer'⟩ hname => ?_⟩
    obtain ⟨i, hle, hstop'⟩ := hcomplete habove
    exact Nat.le_trans (hleast i m' (mem_methodsAt_iff.2 ⟨upper', hstop', hoffer'⟩) hname) hle

end Stops

theorem PicksNearest.congr {offers offers' : Nat → Method → Prop} {taken : List String}
    {picked : List Method} (h : PicksNearest offers taken picked)
    (hsame : ∀ k m, offers k m ↔ offers' k m) : PicksNearest offers' taken picked := by
  -- The offers are the same, and the choice is told by them alone.
  obtain rfl : offers = offers' := funext fun k => funext fun m => propext (hsame k m)
  exact h

/-- Members that stand for methods of different names have signatures of their own, and stay
whatever members come behind them. -/
theorem firstByKey_signature_append (member : Method → VirtualMember) (sig : String → Signature)
    (hsig : ∀ m, (member m).signature = sig m.name) (hinj : Function.Injective sig)
    {picked : List Method} (hnodup : (picked.map (·.name)).Nodup) (added : List VirtualMember) :
    ∃ rest, rest ⊆ added ∧ firstByKey VirtualMember.signature [] (picked.map member ++ added) =
      picked.map member ++ rest := by
  -- Equal signatures would be equal names, of which each was picked once.
  have hown : ((picked.map member).map VirtualMember.signature).Nodup := by
    have hnames : (picked.map member).map VirtualMember.signature =
        (picked.map (·.name)).map sig := by
      simp only [List.map_map, Function.comp_def, hsig]
    exact hnames ▸ hnodup.map hinj
  exact firstByKey_append (fun _ _ => List.not_mem_nil) hown added

/-! ## What a declaration gets from the types above it -/

namespace Host.Findable

variable {host : Host} (h : host.Findable) (decl : Declaration)
include h

/-- The elements that an annotation type may inherit end up with the nearest ones, when the first of
each name is taken. -/
theorem exists_inheritable : ∃ elements, inheritable host decl = .ok elements ∧
    ∀ taken, PicksNearest (host.OffersElement decl) taken
      (firstByKey Method.name taken elements) := by
  obtain ⟨journey, stops, hwalk, hfound, hstops⟩ :=
    h.exists_ascents Declaration.extended Declaration.isAnnotationType decl
  have hwalk : host.annotationTypeGraph.walk decl.extended = .ok journey := hwalk
  refine ⟨(methodsAt (!·.origin.isAugmented) stops).map Prod.snd, ?_, fun taken => ?_⟩
  · rw [inheritable, hwalk, map_snd_methodsAt, hfound]
    rfl
  · refine (picksNearest_methodsAt hstops.sorted hstops.sound
      (fun habove => hstops.complete habove.1 habove.2) taken).congr fun k m => ?_
    simp [OffersElement]

/-- In the same way for the methods that fields may stand for. -/
theorem exists_bracketlessMethods : ∃ methods, bracketlessMethods host decl = .ok methods ∧
    ∀ taken, PicksNearest (host.OffersMethod decl) taken
      (firstByKey Method.name taken methods) := by
  obtain ⟨journey, stops, hwalk, hfound, hstops⟩ :=
    h.exists_ascents Declaration.supertypes (fun _ => true) decl
  -- The declaration itself comes before everything above it.
  have hsorted : ((0, decl) :: stops).Pairwise fun s t => s.1 ≤ t.1 :=
    List.pairwise_cons.2 ⟨fun _ _ => Nat.zero_le _, hstops.sorted⟩
  have hsound {k : Nat} {upper : Declaration} (hstop : (k, upper) ∈ (0, decl) :: stops) :
      host.Ascends Declaration.supertypes (fun _ => true) decl k upper := by
    rcases List.mem_cons.1 hstop with heq | hstop
    · cases heq
      exact .refl
    · exact (hstops.sound hstop).2
  have hcomplete {k : Nat} {upper : Declaration}
      (habove : host.Ascends Declaration.supertypes (fun _ => true) decl k upper) :
      ∃ j, j ≤ k ∧ (j, upper) ∈ (0, decl) :: stops := by
    cases k with
    | zero =>
      cases habove
      exact ⟨0, Nat.le_refl 0, List.mem_cons_self⟩
    | succ k =>
      obtain ⟨j, hle, hstop⟩ := hstops.complete (Nat.succ_pos k) habove
      exact ⟨j, hle, List.mem_cons_of_mem _ hstop⟩
  have hwalk : host.supertypeGraph.walk decl.supertypes = .ok journey := hwalk
  refine ⟨(methodsAt isBracketless ((0, decl) :: stops)).map Prod.snd, ?_, fun taken => ?_⟩
  · rw [bracketlessMethods, methodsWithInherited, hwalk, map_snd_methodsAt, List.map_cons, hfound]
    rfl
  · refine (picksNearest_methodsAt hsorted hsound hcomplete taken).congr fun k m => ?_
    have hvoid : m.returnType.isVoid = false ↔ m.returnType ≠ .void := by
      cases m.returnType <;> simp [JavaType.isVoid]
    simp [OffersMethod, isBracketless, hvoid, and_assoc]

end Host.Findable

theorem Host.Healthy.inheritable_ok {host : Host} (h : host.Healthy) (decl : Declaration) :
    ∃ elements, inheritable host decl = .ok elements := by
  obtain ⟨elements, helements, _⟩ := Host.Findable.exists_inheritable h.findData_ok decl
  exact ⟨elements, helements⟩

theorem Host.Healthy.bracketlessMethods_ok {host : Host} (h : host.Healthy) (decl : Declaration) :
    ∃ methods, bracketlessMethods host decl = .ok methods := by
  obtain ⟨methods, hmethods, _⟩ := Host.Findable.exists_bracketlessMethods h.findData_ok decl
  exact ⟨methods, hmethods⟩

end PrototypeLens
