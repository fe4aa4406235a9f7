import PrototypeLens.Enricher.MessageTemplate
import PrototypeLens.Proofs.Text.Replacing

/-!
# Filling in the places of a template

A message fills in the name and then the type. Filling in both at once, where the places are those
of the template alone, gives the same message unless a place for the type comes about as the name is
filled in: inside the name, or of the name and what stands around it.

## Layers

- `Part` and `partsFrom`: a template as characters and places, with `partsFrom_induction` to go
  along it.
- `replaceFrom_namePlace`: filling in the name keeps the parts and leaves the places for the type.
- `exists_replaces`: filling in the type in parts replaces just those places that are parts, and
  leaves the others, which are counted.

## Main results

- `fillAtOnce`: both filled in at once, without looking at what was filled in.
- When the message is that: if the type is written like its own place, or if filling in the name
  brings no further place for the type.
-/

namespace PrototypeLens.MessageTemplate

/-! ## The parts of a template -/

/-- A part of a template: a character, or a place. -/
inductive Part where
  | char (c : Char)
  | name
  | type
deriving DecidableEq, Repr

/-- The parts of a text from left to right. `skip` counts the characters of the current place that
are still to be passed over. -/
def partsFrom : Nat → List Char → List Part
  | _, [] => []
  | skip + 1, _ :: cs => partsFrom skip cs
  | 0, c :: cs =>
    if namePlace.toList <+: c :: cs then .name :: partsFrom (namePlace.length - 1) cs
    else if typePlace.toList <+: c :: cs then .type :: partsFrom (typePlace.length - 1) cs
    else .char c :: partsFrom 0 cs

/-- What becomes of a part. -/
def Part.fill (name type : List Char) : Part → List Char
  | .char c => [c]
  | .name => name
  | .type => type

/-- What becomes of parts in a row. -/
def fillParts (name type : List Char) (parts : List Part) : List Char :=
  parts.flatMap (Part.fill name type)

/-- Fills in the name and the type at once: the places are those of the template, and what is filled
in is not looked at. -/
def fillAtOnce (template : MessageTemplate) (name type : String) : String :=
  String.ofList (fillParts name.toList type.toList (partsFrom 0 template.text.toList))

/-! ### Both places begin with a brace and have no other one like it -/

theorem toList_namePlace : namePlace.toList = '\x7b' :: "name\x7d".toList := rfl

theorem toList_typePlace : typePlace.toList = '\x7b' :: "type\x7d".toList := rfl

theorem brace_not_mem_name : '\x7b' ∉ "name\x7d".toList := by decide

theorem brace_not_mem_type : '\x7b' ∉ "type\x7d".toList := by decide

theorem not_namePlace_prefix (cs : List Char) : ¬ namePlace.toList <+: typePlace.toList ++ cs := by
  rintro ⟨rest, hrest⟩
  cases hrest

theorem not_typePlace_prefix (cs : List Char) : ¬ typePlace.toList <+: namePlace.toList ++ cs := by
  rintro ⟨rest, hrest⟩
  cases hrest

/-! ### Reading the parts -/

theorem partsFrom_skip (skipped cs : List Char) :
    partsFrom skipped.length (skipped ++ cs) = partsFrom 0 cs := by
  induction skipped with
  | nil => rfl
  | cons c skipped ih => rwa [List.length_cons, List.cons_append, partsFrom]

theorem partsFrom_namePlace (cs : List Char) :
    partsFrom 0 (namePlace.toList ++ cs) = .name :: partsFrom 0 cs := by
  have hstart : namePlace.toList <+: '\x7b' :: ("name\x7d".toList ++ cs) :=
    List.prefix_append namePlace.toList cs
  rw [toList_namePlace, List.cons_append, partsFrom, if_pos hstart]
  exact congrArg _ (partsFrom_skip "name\x7d".toList cs)

theorem partsFrom_typePlace (cs : List Char) :
    partsFrom 0 (typePlace.toList ++ cs) = .type :: partsFrom 0 cs := by
  have hname : ¬ namePlace.toList <+: '\x7b' :: ("type\x7d".toList ++ cs) := not_namePlace_prefix cs
  have hstart : typePlace.toList <+: '\x7b' :: ("type\x7d".toList ++ cs) :=
    List.prefix_append typePlace.toList cs
  rw [toList_typePlace, List.cons_append, partsFrom, if_neg hname, if_pos hstart]
  exact congrArg _ (partsFrom_skip "type\x7d".toList cs)

/-- Induction on a text along its parts. -/
theorem partsFrom_induction {motive : List Char → List Part → Prop} (nil : motive [] [])
    (char : ∀ c cs parts, ¬ namePlace.toList <+: c :: cs → ¬ typePlace.toList <+: c :: cs →
      motive cs parts → motive (c :: cs) (.char c :: parts))
    (name : ∀ cs parts, motive cs parts → motive (namePlace.toList ++ cs) (.name :: parts))
    (type : ∀ cs parts, motive cs parts → motive (typePlace.toList ++ cs) (.type :: parts))
    (cs : List Char) : motive cs (partsFrom 0 cs) := by
  -- A place is longer than one character, so the induction is on the length and not on the text.
  induction hlength : cs.length using Nat.strong_induction_on generalizing cs with
  | h length ih =>
    subst hlength
    by_cases hname : namePlace.toList <+: cs
    · obtain ⟨rest, rfl⟩ := hname
      rw [partsFrom_namePlace]
      exact name rest _ (ih _ (by simp [toList_namePlace]; omega) rest rfl)
    by_cases htype : typePlace.toList <+: cs
    · obtain ⟨rest, rfl⟩ := htype
      rw [partsFrom_typePlace]
      exact type rest _ (ih _ (by simp [toList_typePlace]; omega) rest rfl)
    cases cs with
    | nil => exact nil
    | cons c cs =>
      rw [partsFrom, if_neg hname, if_neg htype]
      exact char c cs _ hname htype (ih _ (by simp) cs rfl)

/-! ## Filling in the name -/

/-- Filling in the name leaves the places for the type as they are. -/
theorem replaceFrom_namePlace (name cs : List Char) :
    Text.replaceFrom namePlace.toList name 0 cs =
      fillParts name typePlace.toList (partsFrom 0 cs) := by
  -- The induction is along the parts: a place for the type is copied, since none for the name
  -- begins inside it.
  induction cs using partsFrom_induction with
  | nil => rfl
  | char c cs parts hname htype ih =>
    rw [Text.replaceFrom_of_not_starts hname, ih]
    rfl
  | name cs parts ih =>
    rw [Text.replaceFrom_of_starts (by decide), ih]
    rfl
  | type cs parts ih =>
    have hname : ¬ namePlace.toList <+: '\x7b' :: ("type\x7d".toList ++ cs) :=
      not_namePlace_prefix cs
    have hrest : Text.replaceFrom namePlace.toList name 0 ("type\x7d".toList ++ cs) =
        "type\x7d".toList ++ Text.replaceFrom namePlace.toList name 0 cs :=
      Text.replaceFrom_append brace_not_mem_type cs
    rw [toList_typePlace, List.cons_append, Text.replaceFrom_of_not_starts hname, hrest, ih]
    rfl

/-- The places for the type in a text are its parts of that kind. -/
theorem occurrences_typePlace (cs : List Char) :
    Text.occurrences typePlace.toList cs = (partsFrom 0 cs).count .type := by
  -- As above; a place for the name holds none for the type.
  induction cs using partsFrom_induction with
  | nil => exact Text.occurrences_nil _ _
  | char c cs parts hname htype ih => rw [Text.occurrences_cons_of_not_starts htype, ih]; rfl
  | name cs parts ih =>
    have htype : ¬ typePlace.toList <+: '\x7b' :: ("name\x7d".toList ++ cs) :=
      not_typePlace_prefix cs
    have hrest : Text.occurrences typePlace.toList ("name\x7d".toList ++ cs) =
        Text.occurrences typePlace.toList cs := Text.occurrences_append brace_not_mem_name cs
    rw [toList_namePlace, List.cons_append, Text.occurrences_cons_of_not_starts htype, hrest, ih]
    rfl
  | type cs parts ih =>
    have hplace : Text.occurrences typePlace.toList (typePlace.toList ++ cs) =
        Text.occurrences typePlace.toList cs + 1 := Text.occurrences_of_starts brace_not_mem_type cs
    rw [hplace, ih, List.count_cons_self]

/-! ## Filling in the type -/

theorem Part.fill_of_ne_type {part : Part} (h : part ≠ .type) (name type type' : List Char) :
    part.fill name type = part.fill name type' := by
  cases part with
  | char c => rfl
  | name => rfl
  | type => exact absurd rfl h

theorem fillParts_cons (name type : List Char) (part : Part) (parts : List Part) :
    fillParts name type (part :: parts) = part.fill name type ++ fillParts name type parts := rfl

/-- A word without a brace covers no place for the type. So where a text and parts behind it begin
with such a word, what is left behind the word is a text and some of the parts as well, with all
their places for the type. -/
theorem exists_parts_after (type : List Char) {name word after start : List Char}
    (hword : '\x7b' ∉ word) {parts : List Part}
    (h : start ++ fillParts name typePlace.toList parts = word ++ after) :
    ∃ start' parts', after = start' ++ fillParts name typePlace.toList parts' ∧
      start ++ fillParts name type parts = word ++ (start' ++ fillParts name type parts') ∧
      parts'.count .type = parts.count .type ∧
      (parts'.length < parts.length ∨ parts' = parts ∧ start'.length ≤ start.length) := by
  induction parts generalizing start word with
  | nil =>
    have hstart : start = word ++ after := by simpa [fillParts] using h
    exact ⟨after, [], by simp [fillParts], by simp [fillParts, hstart], rfl,
      .inr ⟨rfl, by simp [hstart]⟩⟩
  | cons part parts ih =>
    -- Either the word ends inside the text before the parts, or it reaches into them.
    rcases List.append_eq_append_iff.1 h with ⟨word', rfl, hparts⟩ | ⟨start', rfl, hafter⟩
    · -- The word goes on behind the text.
      by_cases htype : part = .type
      · subst htype
        cases word' with
        | nil =>
          exact ⟨[], .type :: parts, hparts.symm, by simp, rfl, .inr ⟨rfl, Nat.zero_le _⟩⟩
        | cons c word' =>
          cases (List.cons.inj hparts).1
          exact absurd (List.mem_append_right start List.mem_cons_self) hword
      · rw [fillParts_cons] at hparts
        obtain ⟨start', parts', hafter, hfilled, hcount, hless⟩ :=
          ih (fun hmem => hword (List.mem_append_right start hmem)) hparts
        refine ⟨start', parts', hafter, ?_, ?_, .inl ?_⟩
        · rw [fillParts_cons, Part.fill_of_ne_type htype name type typePlace.toList, hfilled,
            List.append_assoc]
        · rw [hcount, List.count_cons_of_ne htype]
        · rcases hless with hless | ⟨rfl, -⟩
          · exact Nat.lt_succ_of_lt hless
          · exact Nat.lt_succ_self _
    · exact ⟨start', _, hafter, by rw [List.append_assoc], rfl, .inr ⟨rfl, by simp⟩⟩

/-- Filling in the type in parts replaces just those places in the text that are parts. -/
theorem exists_replaces (name type start : List Char) (parts : List Part) :
    ∃ left, Text.Replaces typePlace.toList type
      (start ++ fillParts name typePlace.toList parts) (start ++ fillParts name type parts)
      (parts.count .type) left := by
  -- An empty text before the parts takes its next part; otherwise one character is passed. So the
  -- parts come first in the measure, and the text before them second.
  match start, parts with
  | [], [] => exact ⟨0, .nil⟩
  | [], .char c :: parts => exact exists_replaces name type [c] parts
  | [], .name :: parts => exact exists_replaces name type name parts
  | [], .type :: parts =>
    obtain ⟨left, hreplaces⟩ := exists_replaces name type [] parts
    rw [List.count_cons_self]
    exact ⟨left, hreplaces.replace⟩
  | c :: start, parts =>
    by_cases hplace : typePlace.toList <+: c :: (start ++ fillParts name typePlace.toList parts)
    · -- A place that begins before the parts is none of them.
      obtain ⟨after, hafter⟩ := hplace
      have hcons : '\x7b' :: ("type\x7d".toList ++ after) =
          c :: (start ++ fillParts name typePlace.toList parts) := hafter
      obtain ⟨rfl, hrest⟩ := List.cons.inj hcons
      obtain ⟨start', parts', rfl, hfilled, hcount, hless⟩ :=
        exists_parts_after type brace_not_mem_type hrest.symm
      obtain ⟨left, hreplaces⟩ := exists_replaces name type start' parts'
      refine ⟨left + 1, ?_⟩
      rw [List.cons_append, List.cons_append, ← hrest, hfilled, ← hcount]
      exact hreplaces.leave
    · obtain ⟨left, hreplaces⟩ := exists_replaces name type start parts
      exact ⟨left, hreplaces.char hplace⟩
termination_by (parts.length, start.length)
decreasing_by
  · exact Prod.Lex.left _ _ (Nat.lt_succ_self _)
  · exact Prod.Lex.left _ _ (Nat.lt_succ_self _)
  · exact Prod.Lex.left _ _ (Nat.lt_succ_self _)
  · rcases hless with hless | ⟨rfl, hle⟩
    · exact Prod.Lex.left _ _ hless
    · exact Prod.Lex.right _ (Nat.lt_succ_of_le hle)
  · exact Prod.Lex.right _ (Nat.lt_succ_self _)

/-! ## The two compared -/

/-- Filling in the name and then the type gives the same message as filling in both at once exactly
if the type is written like its own place, or if filling in the name brings no further place for the
type. -/
theorem render_eq_fillAtOnce_iff (template : MessageTemplate) (name type : String) :
    template.render name type = template.fillAtOnce name type ↔
      type = typePlace ∨
        Text.occurrences typePlace.toList (Text.replace namePlace name template.text).toList =
          Text.occurrences typePlace.toList template.text.toList := by
  -- `left` counts the places in the text that are none of the template.
  obtain ⟨left, hreplaces⟩ :=
    exists_replaces name.toList type.toList [] (partsFrom 0 template.text.toList)
  rw [List.nil_append, List.nil_append, ← replaceFrom_namePlace, ← occurrences_typePlace]
    at hreplaces
  have hcount : Text.occurrences typePlace.toList
      (Text.replaceFrom namePlace.toList name.toList 0 template.text.toList) =
        Text.occurrences typePlace.toList template.text.toList + left :=
    hreplaces.occurrences_eq brace_not_mem_type
  have hrender : template.render name type = template.fillAtOnce name type ↔
      type.toList = typePlace.toList ∨ left = 0 := by
    rw [← hreplaces.replaceFrom_eq_iff (by decide), ← String.toList_inj]
    simp only [render, fillAtOnce, Text.replace, String.toList_ofList]
  rw [hrender, String.toList_inj, Text.replace, String.toList_ofList, hcount, Nat.add_eq_left]

/-- A field named `type` in braces: the place for the type comes of the name and its
surroundings. -/
theorem render_ne_fillAtOnce_bracedName :
    (⟨"\x7b\x7bname\x7d\x7d"⟩ : MessageTemplate).render "type" "int" = "int" ∧
      (⟨"\x7b\x7bname\x7d\x7d"⟩ : MessageTemplate).fillAtOnce "type" "int" = "\x7btype\x7d" := by
  decide

end PrototypeLens.MessageTemplate
