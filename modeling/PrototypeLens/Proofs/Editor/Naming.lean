import PrototypeLens.Editor.Usage
import PrototypeLens.Proofs.Augment.Accessors

/-!
# Getters and their properties

A generated method is found from the prototype's by the name of the getter, and the prototype's from
the generated one by the name of the property. The two ways agree on a name unless it is that of a
getter itself, or starts with a character that cannot be told from its capital.

## Layers

- `IsGetterName`: a capital after `get` or `is`.
- `propertyOf_of_getter` and `propertyOf_of_not_getter`: what the property of a name is, for both
  kinds of names.

## Main results

- `propertyOf_eq_self_iff`: a name is its own property exactly if it is not that of a getter.
- `propertyOf_getterName_iff`: the way to the getter and back leads to the same name exactly if that
  starts with a small letter.
- `propertyOf_of_comesFrom_iff`: when every method that comes from one of a prototype leads back to
  it.
-/

namespace PrototypeLens

/-! ## Names of getters and properties -/

/-- The name of a getter: a capital after `get` or `is`. -/
def IsGetterName (name : String) : Prop :=
  ∃ c rest, (name.toList = "get".toList ++ c :: rest ∨ name.toList = "is".toList ++ c :: rest) ∧
    Text.isUppercase c = true

/-! ## The property of a getter -/

namespace Inspection

variable {name : String} {c : Char} {rest : List Char}

theorem propertyOf_of_getter
    (hname : name.toList = "get".toList ++ c :: rest ∨ name.toList = "is".toList ++ c :: rest)
    (hc : Text.isUppercase c = true) :
    propertyOf name = String.ofList (Text.lower c ++ rest) := by
  rcases hname with hname | hname
  · simp [propertyOf, propertyName?, accessorStarts, Text.dropStart?, hname, hc,
      Text.decapitalize]
  · simp [propertyOf, propertyName?, accessorStarts, Text.dropStart?, hname, hc,
      Text.decapitalize]

/-- What is no getter stands for itself. -/
theorem propertyOf_of_not_getter (h : ¬ IsGetterName name) : propertyOf name = name := by
  have hsmall (start : String) (c : Char) (rest : List Char)
      (hstart : start = "get" ∨ start = "is") (hname : name.toList = start.toList ++ c :: rest) :
      Text.isUppercase c = false := by
    rw [Bool.eq_false_iff]
    intro hc
    rcases hstart with rfl | rfl
    · exact h ⟨c, rest, .inl hname, hc⟩
    · exact h ⟨c, rest, .inr hname, hc⟩
  -- The cases are those of the search for a start of the name; `get` is tried before `is`.
  cases hget : Text.dropStart? "get".toList name.toList with
  | some rest =>
    have hname := Text.dropStart?_eq_some_iff.1 hget
    cases rest with
    | nil => simp [propertyOf, propertyName?, accessorStarts, Text.dropStart?, hname]
    | cons c rest =>
      have hc := hsmall "get" c rest (.inl rfl) hname
      simp [propertyOf, propertyName?, accessorStarts, Text.dropStart?, hname, hc]
  | none =>
    cases his : Text.dropStart? "is".toList name.toList with
    | some rest =>
      have hname := Text.dropStart?_eq_some_iff.1 his
      cases rest with
      | nil => simp [propertyOf, propertyName?, accessorStarts, Text.dropStart?, hname]
      | cons c rest =>
        have hc := hsmall "is" c rest (.inr rfl) hname
        simp [propertyOf, propertyName?, accessorStarts, Text.dropStart?, hname, hc]
    | none =>
      simp only [propertyOf, hget, his, Option.isSome_none, Bool.or_self, Bool.false_eq_true,
        if_false]

theorem propertyOf_eq_self_iff : propertyOf name = name ↔ ¬ IsGetterName name := by
  constructor
  · rintro hself ⟨c, rest, hname, hc⟩
    have hproperty := propertyOf_of_getter hname hc
    rw [hself] at hproperty
    -- A property is shorter than its getter.
    have hlength : name.toList.length = (Text.lower c ++ rest).length := by
      rw [hproperty, String.toList_ofList]
    have hlower := Text.length_lower_le c
    rcases hname with hname | hname
    · simp [hname] at hlength
      omega
    · simp [hname] at hlength
      omega
  · exact propertyOf_of_not_getter

/-- The property of a getter is the one that it is named after if that starts with a small
letter. -/
theorem propertyOf_getterName_iff (name : String) (type : JavaType) :
    propertyOf (getterName name type) = name ↔ StartsSmall name := by
  obtain ⟨start, hstart, hgetter⟩ := exists_getterName name type
  have hmember : start ∈ accessorStarts := by
    rcases hstart with rfl | rfl <;> decide
  -- The start of a getter is there, so that the property is read off or the name is kept.
  have hproperty : propertyOf (start ++ Text.capitalize name) =
      (propertyName? (start ++ Text.capitalize name)).getD (start ++ Text.capitalize name) := by
    rcases hstart with rfl | rfl <;> simp [propertyOf, Text.dropStart?]
  rw [hgetter, hproperty, ← propertyName?_append_capitalize hmember name]
  cases propertyName? (start ++ Text.capitalize name) with
  | some property => rw [Option.getD_some, Option.some_inj]
  | none =>
    -- Without a property the getter stands for itself, which is longer than the name.
    refine iff_of_false (fun hself => ?_) (Option.some_ne_none name).symm
    have hlength := congrArg (·.toList.length) hself
    have hle := Text.length_le_capitalize name
    simp only [Option.getD_none, String.toList_append, List.length_append] at hlength
    rcases hstart with rfl | rfl <;> simp at hlength <;> omega

/-! ## Methods of a prototype and generated ones -/

/-- A method of a prototype is the one that a generated method comes from by its name, for every
generated method that comes from it, unless both have the name of a getter or the generated one is
the getter of a name that does not start with a small letter. -/
theorem propertyOf_of_comesFrom_iff (method generated : Method) :
    (comesFrom method generated = true → propertyOf generated.name = method.name) ↔
      (generated.name = method.name → ¬ IsGetterName method.name) ∧
      (generated.name = getterName method.name generated.returnType →
        StartsSmall method.name) := by
  simp only [comesFrom, Bool.or_eq_true, beq_iff_eq, or_imp]
  -- A method comes from another one by the same name, or as its getter.
  refine and_congr (forall_congr' fun hname => ?_) (forall_congr' fun hname => ?_)
  · rw [hname, propertyOf_eq_self_iff]
  · rw [hname, propertyOf_getterName_iff]

end Inspection

end PrototypeLens
