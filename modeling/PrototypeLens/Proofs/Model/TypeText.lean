import PrototypeLens.Proofs.Augment.Signature
import PrototypeLens.Proofs.Text.Trimming

/-!
# Normal forms of type texts

The canonical text of a type that was read is a normal form of its text: it is read as the same
type, however many blanks were left out on the way. So two texts are read as one type exactly if
their normal forms agree, and the normal form also settles how an editor shows the type.

## Layers

- Words and arrays: the text of a word is the word (`canonicalText_ofWord`), and brackets at the end
  make an array of what stands before them (`parse_append_brackets`).
- Reading from the end: a text that does not start with a blank is read as its reversed characters
  are.

## Main results

- `parse_canonicalText_parse`: a type that was read is read again from its canonical text.
- Of any two texts: they are read as one type if and only if they have one normal form, and the
  shown text is the last part of it; parameters of the same types look the same.
-/

namespace PrototypeLens

namespace JavaType

/-! ## Reading words and arrays -/

theorem parse_keyword (p : Primitive) : parse p.keyword = primitive p := by
  cases p <;> rfl

theorem parse_wrapper (p : Primitive) : parse p.wrapper = named p.wrapper := by
  cases p <;> rfl

/-- Brackets at the end of a text make an array of the type that is written before them. -/
theorem parse_append_brackets (text : String) : parse (text ++ "[]") = array (parse text) := by
  -- The brackets are no blanks, so that only the text before them loses some.
  have htrim : (text ++ "[]").toList.dropWhile Text.isBlank =
      text.toList.dropWhile Text.isBlank ++ ['[', ']'] := by
    have hbrackets : "[]".toList.dropWhile Text.isBlank = ['[', ']'] := by decide
    rw [String.toList_append, List.dropWhile_append, hbrackets]
    split
    · rename_i hnone
      rw [List.isEmpty_iff.1 hnone]
      rfl
    · rfl
  rw [parse, htrim, List.reverse_append]
  rfl

/-- The text of a word is the word, whatever type it names. -/
theorem canonicalText_ofWord (word : String) : (ofWord word).canonicalText = word := by
  unfold ofWord
  split
  · -- A word is the absence of a value, a keyword or a name; its text is the word in each case.
    rename_i hvoid
    exact hvoid.symm
  · split
    · rename_i p hp
      exact Primitive.keyword_of_ofKeyword? hp
    · rfl

/-- A text that does not start with a blank is read from its end. -/
theorem parse_ofList_reverse {cs : List Char} (h : ∀ c ∈ cs.getLast?, Text.isBlank c = false) :
    parse (String.ofList cs.reverse) = ofReversed cs := by
  have hkept : cs.reverse.dropWhile Text.isBlank = cs.reverse :=
    Text.dropWhile_isBlank_eq_self (by simpa using h)
  rw [parse, String.toList_ofList, hkept, List.reverse_reverse]

/-! ## The normal form -/

/-- What was read from the end is read again from its canonical text. -/
theorem parse_canonicalText_ofReversed {cs : List Char}
    (h : ∀ c ∈ cs.getLast?, Text.isBlank c = false) :
    parse (ofReversed cs).canonicalText = ofReversed cs := by
  -- Each step of the reader leaves the start of the text in place, so that `h` carries over.
  induction cs using ofReversed.induct with
  | case1 => rfl
  | case2 rest ih =>
    have hrest : ∀ c ∈ rest.getLast?, Text.isBlank c = false := fun c hc => h c (by
      rw [List.getLast?_cons, List.getLast?_cons, Option.mem_def.1 hc]
      rfl)
    -- A pair of brackets: the type of the elements is read from the rest.
    rw [ofReversed, canonicalText, parse_append_brackets, ih hrest]
  | case3 c rest hpair hblank ih =>
    -- A blank at the end is skipped.
    rw [ofReversed, if_pos hblank]
    · refine ih fun c' hc' => h c' ?_
      rw [List.getLast?_cons, Option.mem_def.1 hc']
      rfl
    · exact hpair
  | case4 c rest hpair hblank =>
    -- Nothing more to take off: what is left is a word.
    have hword : ofReversed (c :: rest) = ofWord (String.ofList (c :: rest).reverse) := by
      rw [ofReversed, if_neg hblank]
      exact hpair
    rw [hword, canonicalText_ofWord, parse_ofList_reverse h, hword]

/-- A type that was read is read again from its canonical text. -/
theorem parse_canonicalText_parse (text : String) :
    parse (parse text).canonicalText = parse text := by
  -- Reading starts behind the blanks in front, so that the last of the reversed characters is none.
  refine parse_canonicalText_ofReversed fun c hc => ?_
  rw [List.getLast?_reverse, Option.mem_def] at hc
  have hfirst := List.head?_dropWhile_not Text.isBlank text.toList
  rw [hc] at hfirst
  simpa using hfirst

/-- The canonical text of a type that was read is its normal form: it is read as that type, two
texts are read as one type exactly if their normal forms agree, and an editor shows the part of the
normal form after its last dot. So parameters with the same canonical types look the same. -/
theorem parse_normal_form (text other : String) :
    parse (parse text).canonicalText = parse text ∧
      (parse text = parse other ↔ (parse text).canonicalText = (parse other).canonicalText) ∧
      (parse text).presentableText = Text.simpleName (parse text).canonicalText ∧
      ∀ ps qs : List Parameter, paramTypes ps = paramTypes qs → sameParameters ps qs = true := by
  refine ⟨parse_canonicalText_parse text, ⟨congrArg canonicalText, fun hsame => ?_⟩,
    presentableText_eq _, fun _ _ => sameParameters_of_paramTypes⟩
  -- Types with one text are read from that text.
  have hread := congrArg parse hsame
  rwa [parse_canonicalText_parse, parse_canonicalText_parse] at hread

/-- Blanks are left out around a name and before brackets; those inside a name and between the
brackets of a pair belong to it. -/
theorem parse_normal_form_innerBlanks :
    parse "\u2003a. B [ ] []\t[] " = array (array (named "a. B [ ]")) ∧
      parse (parse "\u2003a. B [ ] []\t[] ").canonicalText = parse "\u2003a. B [ ] []\t[] " ∧
      (parse "\u2003a. B [ ] []\t[] " = parse "a. B [ ][][]" ↔
        (parse "\u2003a. B [ ] []\t[] ").canonicalText = (parse "a. B [ ][][]").canonicalText) ∧
      (parse "\u2003a. B [ ] []\t[] ").presentableText =
        Text.simpleName (parse "\u2003a. B [ ] []\t[] ").canonicalText ∧
      paramTypes [⟨"x", parse "void []"⟩] = paramTypes [⟨"y", array void⟩] ∧
      sameParameters [⟨"x", parse "void []"⟩] [⟨"y", array void⟩] = true := by
  obtain ⟨hread, hiff, hshown, hlook⟩ := parse_normal_form "\u2003a. B [ ] []\t[] " "a. B [ ][][]"
  have htypes : paramTypes [⟨"x", parse "void []"⟩] = paramTypes [⟨"y", array void⟩] := by rfl
  exact ⟨by rfl, hread, hiff, hshown, htypes, hlook _ _ htypes⟩

end JavaType

end PrototypeLens
