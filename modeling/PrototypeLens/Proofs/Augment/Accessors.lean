import PrototypeLens.Augment.Accessor
import PrototypeLens.Proofs.Text.Capitals

/-!
# Accessors and their properties

The name of an accessor is read back by taking its beginning off and its first letter to lower case.
A capital of several characters is one letter when it is made and several when it is read back, and
a capital of several small letters is read back as one of them, so the property behind the accessor
of a name is the name itself only if that starts with a letter that has its own capital.

## Layers

- `StartsSmall`: names with a first letter that survives the way to its capital and back.
- `propertyName?_append`: an accessor is read back by the beginning it was made with.

## Main results

- `propertyName?_append_capitalize`: which names are read back, for every beginning.
- Getters and setters of names with a small first letter: read back exactly if the letter has a
  capital of its own.
-/

namespace PrototypeLens

/-- A name that starts with a small letter: there is one capital for it, and it is the small letter
of that capital. -/
def StartsSmall (name : String) : Prop :=
  ∃ c rest d, name.toList = c :: rest ∧ Text.upper c = [d] ∧ Text.isUppercase d = true ∧
    Text.lower d = [c]

variable {name start text : String} {c d : Char} {rest more : List Char}

theorem startsSmall_iff_isSmall (hname : name.toList = c :: rest) :
    StartsSmall name ↔ Text.IsSmall c := by
  constructor
  · rintro ⟨c', rest', d, hname', hsmall⟩
    cases hname.symm.trans hname'
    exact ⟨d, hsmall⟩
  · rintro ⟨d, hsmall⟩
    exact ⟨c, rest, d, hname, hsmall⟩

/-- What starts with the small letter of a capital has that capital. -/
theorem startsSmall_iff (hname : name.toList = c :: rest) (hupper : Text.upper c = d :: more) :
    StartsSmall name ↔ Text.isUppercase d = true ∧ Text.lower d ++ more = [c] := by
  rw [startsSmall_iff_isSmall hname]
  constructor
  · -- The capital is the one that was given, and nothing comes behind it.
    rintro ⟨d', hupper', hd, hlower⟩
    cases hupper.symm.trans hupper'
    exact ⟨hd, by rw [hlower]; rfl⟩
  · rintro ⟨hd, hlower⟩
    rcases List.append_eq_singleton_iff.1 hlower with ⟨hnil, _⟩ | ⟨hsmall, rfl⟩
    · exact absurd hnil (Text.lower_ne_nil d)
    · exact ⟨d, hupper, hd, hsmall⟩

/-- The beginnings of accessors differ in their first letters, so the first that fits is the one
that the accessor is made with. -/
theorem propertyName?_append (hstart : start ∈ accessorStarts) (htext : text.toList = d :: more) :
    propertyName? (start ++ text) =
      if Text.isUppercase d then some (Text.decapitalize text) else none := by
  -- The name of the property is the text behind the beginning, whatever that text is.
  have hsame : String.ofList (d :: more) = text := by
    rw [← htext, String.ofList_toList]
  simp only [accessorStarts, List.mem_cons, List.not_mem_nil, or_false] at hstart
  rcases hstart with rfl | rfl | rfl <;>
    simp [propertyName?, accessorStarts, Text.dropStart?, htext, hsame]

/-- The property behind an accessor of a name is the name if it starts with a small letter. -/
theorem propertyName?_append_capitalize (hstart : start ∈ accessorStarts) (name : String) :
    propertyName? (start ++ Text.capitalize name) = some name ↔ StartsSmall name := by
  cases hname : name.toList with
  | nil =>
    -- The accessor of the empty name has no capital.
    obtain rfl : name = "" := String.toList_eq_nil_iff.1 hname
    refine iff_of_false ?_ ?_
    · revert start
      decide
    · rintro ⟨c, rest, d, hcons, -⟩
      cases hcons
  | cons c rest =>
    cases hupper : Text.upper c with
    | nil => exact absurd hupper (Text.upper_ne_nil c)
    | cons d more =>
      have htext : (Text.capitalize name).toList = d :: (more ++ rest) := by
        rw [Text.toList_capitalize hname, hupper, List.cons_append]
      -- Reading back restores the name exactly if the first letter and what its capital left behind
      -- do.
      have hback : Text.decapitalize (Text.capitalize name) = name ↔
          Text.lower d ++ more = [c] := by
        rw [Text.decapitalize, htext, ← String.toList_inj, String.toList_ofList, hname,
          ← List.append_assoc]
        change Text.lower d ++ more ++ rest = [c] ++ rest ↔ _
        exact List.append_left_inj rest
      rw [propertyName?_append hstart htext, startsSmall_iff hname hupper, ← hback]
      simp

/-! ## Getters and setters -/

theorem exists_getterName (name : String) (type : JavaType) :
    ∃ start, (start = "get" ∨ start = "is") ∧
      getterName name type = start ++ Text.capitalize name := by
  rw [getterName]
  split
  · exact ⟨"is", .inr rfl, rfl⟩
  · exact ⟨"get", .inl rfl, rfl⟩

/-- The property behind the getter and behind the setter of a name that starts with a letter in
lower case is the name again if the capital of the letter has one character and is that of no other
small letter, and only then. -/
theorem propertyName?_accessors_iff (hname : name.toList = c :: rest)
    (hcapital : Text.upper c ≠ [c]) (type : JavaType) :
    (propertyName? (getterName name type) = some name ↔ Text.HasOwnCapital c) ∧
      (propertyName? (setterName name) = some name ↔ Text.HasOwnCapital c) := by
  -- Both accessors are beginnings with the capitalised name behind them.
  rw [← Text.isSmall_iff hcapital, ← startsSmall_iff_isSmall hname]
  constructor
  · obtain ⟨start, hstart, hgetter⟩ := exists_getterName name type
    rw [hgetter]
    refine propertyName?_append_capitalize ?_ name
    rcases hstart with rfl | rfl
    · exact List.mem_cons_self
    · decide
  · exact propertyName?_append_capitalize (by decide) name

theorem propertyName?_accessors_count :
    "count".toList = 'c' :: "ount".toList ∧ Text.upper 'c' ≠ ['c'] ∧ Text.HasOwnCapital 'c' ∧
      propertyName? (getterName "count" (.primitive .int)) = some "count" ∧
      propertyName? (setterName "count") = some "count" := by
  have hname : "count".toList = 'c' :: "ount".toList := by decide
  have hcapital : Text.upper 'c' ≠ ['c'] := by decide
  have hown : Text.HasOwnCapital 'c' := by decide
  obtain ⟨hgetter, hsetter⟩ := propertyName?_accessors_iff hname hcapital (.primitive .int)
  exact ⟨hname, hcapital, hown, hgetter.2 hown, hsetter.2 hown⟩

/-- The capital of the n after an apostrophe has two characters, of which the first is no capital,
and the capital of the long s is that of the s. -/
theorem propertyName?_accessors_apostrophe :
    (Text.upper 'ŉ' = ['ʼ', 'N'] ∧ setterName "ŉame" = "setʼName" ∧
      propertyName? (getterName "ŉame" (.primitive .int)) = none ∧
      propertyName? (setterName "ŉame") = none) ∧
    (Text.upper 'ſ' = ['S'] ∧ setterName "ſize" = "setSize" ∧
      propertyName? (getterName "ſize" (.primitive .int)) = some "size" ∧
      propertyName? (setterName "ſize") = some "size") := by
  decide +kernel

end PrototypeLens
