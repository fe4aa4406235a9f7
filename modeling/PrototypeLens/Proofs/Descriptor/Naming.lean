import PrototypeLens.Descriptor.Naming
import PrototypeLens.Proofs.Text.Replacing

/-!
# Names that the conventions keep

The conventions of the generator shorten a name or leave it as it is. So they keep a name as a whole
exactly if each of them keeps it: that of a nested type if it has no two dots, and every name if it
does not end in `Prototype` and has no segment `prototype` inside.

## Layers

- `splitLast?`: the last separator of a text, told by the first one of its reverse.
- `Shortens`: a convention with the names it keeps. Two of them in a row are one again.
- The three conventions, each with what it keeps: `shortens_hoist`, `shortens_dropSuffixes` and
  `shortens_dropSegments`.

## Main results

- `FollowsConventions`: what a name must be like for all three to keep it.
- `generatedName_eq_self_iff`: the generated name is the name itself exactly for those.
-/

namespace PrototypeLens

namespace Text

/-! ## The last separator -/

theorem splitLast?_eq_some {sep : Char} {cs before after : List Char}
    (h : splitLast? sep cs = some (before, after)) : cs = before ++ sep :: after ∧ sep ∉ after := by
  obtain ⟨⟨after', before'⟩, hsplit, heq⟩ := Option.map_eq_some_iff.1 h
  obtain ⟨hreverse, hafter⟩ := splitFirst?_eq_some hsplit
  cases heq
  refine ⟨?_, by simpa using hafter⟩
  rw [← List.reverse_reverse cs, hreverse]
  simp

theorem splitLast?_append {sep : Char} {after : List Char} (hafter : sep ∉ after)
    (before : List Char) : splitLast? sep (before ++ sep :: after) = some (before, after) := by
  have hreverse : (before ++ sep :: after).reverse = after.reverse ++ sep :: before.reverse := by
    simp
  rw [splitLast?, hreverse, splitFirst?_append (by simpa using hafter), splitFirst?, if_pos rfl]
  simp

theorem splitLast?_eq_none_iff {sep : Char} {cs : List Char} :
    splitLast? sep cs = none ↔ sep ∉ cs := by
  rw [splitLast?, Option.map_eq_none_iff, splitFirst?_eq_none_iff, List.mem_reverse]

end Text

/-! ## Conventions -/

/-- A convention either keeps a name or makes it shorter. -/
def Shortens (f : String → String) (kept : String → Prop) : Prop :=
  ∀ name, (kept name → f name = name) ∧
    (¬ kept name → (f name).toList.length < name.toList.length)

namespace Shortens

variable {f g : String → String} {kept kept' : String → Prop} {name : String}

theorem length_le (h : Shortens f kept) (name : String) :
    (f name).toList.length ≤ name.toList.length := by
  by_cases hkept : kept name
  · rw [(h name).1 hkept]
  · exact ((h name).2 hkept).le

theorem eq_self_iff (h : Shortens f kept) : f name = name ↔ kept name := by
  refine ⟨fun heq => ?_, (h name).1⟩
  -- A name that is not kept gets shorter, so it cannot come out the same.
  by_contra hkept
  have hlt := (h name).2 hkept
  rw [heq] at hlt
  exact Nat.lt_irrefl _ hlt

/-- One convention after the other keeps what both of them keep. -/
theorem comp (hg : Shortens g kept') (hf : Shortens f kept) :
    Shortens (fun name => g (f name)) fun name => kept name ∧ kept' name := by
  intro name
  have hle := hg.length_le (f name)
  refine ⟨fun ⟨hkept, hkept'⟩ => ?_, fun hnot => ?_⟩
  · show g (f name) = name
    rw [(hf name).1 hkept, (hg name).1 hkept']
  · by_cases hkept : kept name
    · -- The first convention keeps the name, so that the second one does not.
      have hkept' : ¬ kept' name := fun hkept' => hnot ⟨hkept, hkept'⟩
      show (g (f name)).toList.length < _
      rw [(hf name).1 hkept]
      exact (hg name).2 hkept'
    · exact Nat.lt_of_le_of_lt hle ((hf name).2 hkept)

end Shortens

theorem shortens_hoist : Shortens hoist fun name => name.toList.count '.' ≤ 1 := by
  intro name
  rw [hoist]
  -- With fewer than two dots there is nothing to hoist out of; these are the cases that keep it.
  cases hlast : Text.splitLast? '.' name.toList with
  | none =>
    have hcount := List.count_eq_zero.2 (Text.splitLast?_eq_none_iff.1 hlast)
    exact ⟨fun _ => rfl, fun hmany => absurd (by omega) hmany⟩
  | some parts =>
    obtain ⟨outer, simple⟩ := parts
    obtain ⟨hname, hsimple⟩ := Text.splitLast?_eq_some hlast
    have hcount : name.toList.count '.' = outer.count '.' + 1 := by
      rw [hname, List.count_append, List.count_cons_self, List.count_eq_zero.2 hsimple]
    dsimp only
    cases houter : Text.splitLast? '.' outer with
    | none =>
      have hnone := List.count_eq_zero.2 (Text.splitLast?_eq_none_iff.1 houter)
      exact ⟨fun _ => rfl, fun hmany => absurd (by omega) hmany⟩
    | some parts =>
      obtain ⟨package, around⟩ := parts
      obtain ⟨rfl, haround⟩ := Text.splitLast?_eq_some houter
      rw [List.count_append, List.count_cons_self] at hcount
      -- Both the type around and one dot go, so the length falls even if that type has no name.
      refine ⟨fun hfew => absurd hfew (by omega), fun _ => ?_⟩
      simp only [String.toList_ofList, hname, List.length_append, List.length_cons]
      omega

theorem shortens_dropSuffixes :
    Shortens dropSuffixes fun name => ¬ "Prototype".toList <:+ name.toList := by
  intro name
  rw [dropSuffixes]
  cases hstem : Text.dropEnd? "Prototype".toList name.toList with
  | none =>
    -- Nothing is dropped, so the name does not end that way.
    refine ⟨fun _ => rfl, fun hends => absurd (fun ⟨stem, hname⟩ => ?_) hends⟩
    rw [Text.dropEnd?_eq_some_iff.2 hname.symm] at hstem
    cases hstem
  | some stem =>
    have hname := Text.dropEnd?_eq_some_iff.1 hstem
    refine ⟨fun hnot => absurd ⟨stem, hname.symm⟩ hnot, fun _ => ?_⟩
    -- What is left is not longer than what stands before the ending.
    have hle : ((Text.dropEnd? "Entity".toList stem).getD stem).length ≤ stem.length := by
      cases hentity : Text.dropEnd? "Entity".toList stem with
      | none => exact Nat.le_refl _
      | some before =>
        rw [Text.dropEnd?_eq_some_iff.1 hentity, Option.getD_some, List.length_append]
        exact Nat.le_add_right _ _
    have hending : "Prototype".toList.length = 9 := by decide
    dsimp only
    rw [String.toList_ofList, hname, List.length_append, hending]
    omega

theorem shortens_dropSegments :
    Shortens dropSegments fun name => ¬ ".prototype.".toList <:+: name.toList := by
  intro name
  rw [dropSegments, Text.replace]
  refine ⟨fun houtside => ?_, fun hinside => ?_⟩
  · rw [Text.replaceFrom_of_not_infix houtside, String.ofList_toList]
  · rw [String.toList_ofList]
    exact Text.length_replaceFrom_lt (by decide) (not_not.1 hinside)

/-- The conventions have nothing to change about the name. -/
structure FollowsConventions (name : String) (nested : Bool) : Prop where
  /-- A nested type stands in the package of the one around it already. -/
  hoisted : nested = true → name.toList.count '.' ≤ 1
  suffix : ¬ "Prototype".toList <:+ name.toList
  segment : ¬ ".prototype.".toList <:+: name.toList

/-- Without a descriptor the generated name is the name itself exactly if the conventions have
nothing to change about it. -/
theorem generatedName_eq_self_iff {name : String} {nested : Bool} :
    generatedName none name nested = name ↔ FollowsConventions name nested := by
  -- Hoisting is for nested types only; for the others it keeps every name.
  have hhoist : Shortens (fun name => if nested then hoist name else name)
      fun name => nested = true → name.toList.count '.' ≤ 1 := by
    cases nested with
    | true => simpa using shortens_hoist
    | false => exact fun name => ⟨fun _ => rfl, fun hnot => absurd nofun hnot⟩
  have hall := shortens_dropSegments.comp (shortens_dropSuffixes.comp hhoist)
  exact hall.eq_self_iff.trans ⟨fun ⟨⟨hnested, hsuffix⟩, hsegment⟩ => ⟨hnested, hsuffix, hsegment⟩,
    fun h => ⟨⟨h.hoisted, h.suffix⟩, h.segment⟩⟩

end PrototypeLens
