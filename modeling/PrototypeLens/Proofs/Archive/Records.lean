import Mathlib.Data.List.Forall2
import Mathlib.Data.List.ReduceOption
import PrototypeLens.Archive.TemplateManifest
import PrototypeLens.Proofs.Text.Lines
import PrototypeLens.Proofs.Text.Trimming

/-!
# Records of a template manifest

A manifest is read line by line: the records of two texts with a line feed between them are those of
the one and then those of the other. However its lines are laid out, with blanks around the kinds
and names and with other lines in between, just its records are read, in their order.

## Layers

- One line: the line is trimmed, then its first colon divides it; the blanks around it do not matter
  (`ofLine?_eq`), nor does a carriage return at its end (`ofLine?_comp_closedLine`).
- Texts: a text is read as the pieces between its line feeds (`parse_eq_pieces`), hence as the lines
  that it is written in (`parse_of_writtenIn`).
- `LineTells`: what a line is for, as one rule for each way in which it may be laid out. The reader
  takes it for that (`ofLine?_of_lineTells`).
- `StandsFor`: what an entry says of the kind and the name of a record.

## Main results

- `parse_append`: a line feed divides the records of two texts.
- Of every text whose lines are laid out by the rules: the entries that are read stand for its
  records, one for one and in their order.
-/

namespace PrototypeLens

open Text (isBlank trimChars splitFirst? AllBlank IsTrimmed WrittenIn)

namespace ManifestEntry

/-! ## One line -/

/-- The record that a line with a colon is for. The kind and the name are what stands before and
behind the first colon, without the blanks around it. -/
def ofParts? (kind name : List Char) : Option ManifestEntry :=
  if trimChars kind = [] ∨ (trimChars kind).head? = some '#' ∨ trimChars name = [] then none
  else some ⟨String.ofList (trimChars name), kindOfWord (String.ofList (trimChars kind))⟩

theorem not_colon_mem_of_allBlank {cs : List Char} (h : AllBlank cs) : ':' ∉ cs :=
  fun hcolon => absurd (h ':' hcolon) (by decide)

/-- The first colon of a line divides it as it divides the trimmed line. -/
theorem splitFirst?_colon_trimChars {before after kind name cs : List Char}
    (hbefore : AllBlank before) (hsplit : splitFirst? ':' cs = some (kind, name)) :
    splitFirst? ':' (before ++ cs ++ after) = some (before ++ kind, name ++ after) := by
  obtain ⟨rfl, hkind⟩ := Text.splitFirst?_eq_some hsplit
  -- The blanks in front have no colon, so that the first one is where it was.
  have hcolon : ':' ∉ before ++ kind := by simp [not_colon_mem_of_allBlank hbefore, hkind]
  have hparts : before ++ (kind ++ ':' :: name) ++ after =
      (before ++ kind) ++ ':' :: (name ++ after) := by simp
  rw [hparts, Text.splitFirst?_append_sep hcolon]

/-- A line is read from what is left of it without the blanks around it. -/
theorem ofLine?_of_trimmed {line : String} {c : Char} {cs : List Char}
    (hline : trimChars line.toList = c :: cs) :
    ofLine? line = if c = '#' then none else
      (splitFirst? ':' (c :: cs)).bind fun parts =>
        if trimChars parts.1 = [] ∨ trimChars parts.2 = [] then none
        else some ⟨String.ofList (trimChars parts.2),
          kindOfWord (String.ofList (trimChars parts.1))⟩ := by
  rw [ofLine?, hline]
  -- A comment is told by its first character; any other line goes to the colon.
  by_cases hc : c = '#'
  · subst hc
    rfl
  · rw [if_neg hc]
    split
    · rename_i hnil
      cases hnil
    · rename_i hcomment
      cases hcomment
      exact absurd rfl hc
    · refine congrArg (Option.bind _) (funext fun ⟨kind, name⟩ => ?_)
      dsimp only
      split <;> simp_all

/-- A line is read by its first colon; the blanks around it need not be dropped before. -/
theorem ofLine?_eq (line : String) : ofLine? line =
    (splitFirst? ':' line.toList).bind fun parts => ofParts? parts.1 parts.2 := by
  -- The line is its trimmed text with blanks around it.
  obtain ⟨before, after, hbefore, hafter, hline⟩ := Text.exists_blanks_trimChars line.toList
  cases hsplit : splitFirst? ':' (trimChars line.toList) with
  | none =>
    have hcolon : ':' ∉ line.toList := by
      rw [hline]
      simp [not_colon_mem_of_allBlank hbefore, not_colon_mem_of_allBlank hafter,
        Text.splitFirst?_eq_none_iff.1 hsplit]
    rw [Text.splitFirst?_eq_none_iff.2 hcolon]
    -- Without a colon nothing is read, trimmed or not.
    cases htrimmed : trimChars line.toList with
    | nil =>
      rw [ofLine?, htrimmed]
      rfl
    | cons c cs =>
      rw [ofLine?_of_trimmed htrimmed, ← htrimmed, hsplit]
      exact ite_self _
  | some parts =>
    obtain ⟨kind, name⟩ := parts
    have hwhole : splitFirst? ':' line.toList = some (before ++ kind, name ++ after) := by
      rw [hline]
      exact splitFirst?_colon_trimChars hbefore hsplit
    rw [hwhole, Option.bind_some, ofParts?, Text.trimChars_blanks_append hbefore,
      Text.trimChars_append_blanks hafter]
    cases kind with
    -- Without a kind the trimmed line starts with the colon, and is no comment.
    | nil =>
      have htrimmed : trimChars line.toList = ':' :: name := (Text.splitFirst?_eq_some hsplit).1
      rw [ofLine?_of_trimmed htrimmed, if_neg (by decide)]
      rfl
    | cons c rest =>
      have htrimmed : trimChars line.toList = c :: (rest ++ ':' :: name) :=
        (Text.splitFirst?_eq_some hsplit).1
      -- The kind begins where the trimmed line begins, so that it tells a comment as well.
      have hc : isBlank c = false :=
        (Text.isTrimmed_trimChars line.toList).start c (by rw [htrimmed]; rfl)
      have hkind : trimChars (c :: rest) = c :: Text.trimEnd rest := Text.trimChars_cons hc
      rw [ofLine?_of_trimmed htrimmed, ← htrimmed, hsplit, Option.bind_some, hkind]
      by_cases hcomment : c = '#'
      · simp [hcomment]
      · simp [hcomment]

/-- The carriage return at the end of a line is one of the blanks around it. -/
theorem ofLine?_comp_closedLine : ofLine? ∘ Text.closedLine = ofLine? ∘ String.ofList := by
  funext piece
  rw [Function.comp_apply, Text.closedLine]
  cases hreturn : Text.dropEnd? ['\r'] piece with
  | none => rfl
  | some line =>
    obtain rfl := Text.dropEnd?_eq_some_iff.1 hreturn
    have htrim : trimChars (line ++ ['\r']) = trimChars line :=
      Text.trimChars_append_blanks (by decide)
    simp only [Function.comp_apply, ofLine?, Option.getD_some, String.toList_ofList, htrim]

/-! ## Texts -/

/-- Carriage returns play no part, nor does an empty piece behind the last line feed. -/
theorem parse_eq_pieces (text : String) : parse text =
    (Text.splitAt '\n' text.toList).filterMap (ofLine? ∘ String.ofList) := by
  -- Behind the last line feed stands a last piece, which is a line only if it is not empty.
  obtain ⟨init, last, hpieces⟩ : ∃ init last, Text.splitAt '\n' text.toList = init ++ [last] :=
    ⟨_, _, (List.dropLast_append_getLast (Text.splitAt_ne_nil _ _)).symm⟩
  have hlines : Text.lines text =
      init.map Text.closedLine ++ if last = [] then [] else [String.ofList last] := by
    simp only [Text.lines, hpieces, List.dropLast_concat, List.getLast?_concat, Option.filter_some]
    by_cases hlast : last = []
    · simp [hlast, Text.closedLine]
    · simp [hlast, Text.closedLine]
  rw [parse, hlines, hpieces, List.filterMap_append, List.filterMap_append, List.filterMap_map,
    ofLine?_comp_closedLine]
  -- An empty piece has no record, so that it does not matter whether it is a line.
  by_cases hlast : last = []
  · rw [if_pos hlast, hlast]
    rfl
  · rw [if_neg hlast]
    rfl

/-- A manifest is read line by line. -/
theorem parse_append (a b : String) : parse (a ++ "\n" ++ b) = parse a ++ parse b := by
  rw [parse_eq_pieces a, ← ofLine?_comp_closedLine, ← List.filterMap_map, parse, parse,
    Text.lines_append, List.filterMap_append]

theorem parse_of_writtenIn {lines : List String} {text : String} (h : WrittenIn lines text) :
    parse text = lines.filterMap ofLine? := by
  -- The induction is on how the text is written, and each rule adds one line.
  induction h with
  | nil => rfl
  | last hfeed hne => rw [parse, Text.lines_of_not_mem hfeed hne]
  | @feed line lines text hfeed _ ih =>
    have hline := congrFun ofLine?_comp_closedLine line.toList
    rw [Function.comp_apply, Function.comp_apply, String.ofList_toList] at hline
    rw [parse, Text.lines_feed hfeed, List.filterMap_cons, hline, List.filterMap_cons, ← ih, parse]
  | returnFeed hfeed _ ih =>
    rw [parse, Text.lines_returnFeed hfeed, List.filterMap_cons, List.filterMap_cons, ← ih, parse]

/-! ## Layouts -/

/-- A word for the kind of a record. It may not look like a comment. -/
structure IsKind (kind : String) : Prop where
  trimmed : IsTrimmed kind.toList
  nonempty : kind ≠ ""
  colonless : ':' ∉ kind.toList
  uncommented : kind.toList.head? ≠ some '#'

/-- A name in a record. It may have colons. -/
structure IsName (name : String) : Prop where
  trimmed : IsTrimmed name.toList
  nonempty : name ≠ ""

/-- What a line is for: the kind and the name of a record, or nothing. -/
inductive LineTells : String → Option (String × String) → Prop
  /-- A record is a kind, a colon and a name, with any blanks around them. -/
  | record {kind name indent beforeColon afterColon trailing : String} :
      IsKind kind → IsName name → AllBlank indent.toList → AllBlank beforeColon.toList →
      AllBlank afterColon.toList → AllBlank trailing.toList →
      LineTells (indent ++ kind ++ beforeColon ++ ":" ++ (afterColon ++ name ++ trailing))
        (some (kind, name))
  | blank {line : String} : AllBlank line.toList → LineTells line none
  | comment {indent rest : String} : AllBlank indent.toList →
      LineTells (indent ++ "#" ++ rest) none
  | colonless {line : String} : ':' ∉ line.toList → LineTells line none
  /-- There is nothing before the first colon. -/
  | kindless {indent rest : String} : AllBlank indent.toList →
      LineTells (indent ++ ":" ++ rest) none
  /-- There is nothing behind the first colon. -/
  | nameless {start trailing : String} : ':' ∉ start.toList → AllBlank trailing.toList →
      LineTells (start ++ ":" ++ trailing) none

/-- The entry for the kind and the name of a record. -/
def ofRecord (record : String × String) : ManifestEntry := ⟨record.2, kindOfWord record.1⟩

theorem ofLine?_of_parts {kind name : String} (h : ':' ∉ kind.toList) :
    ofLine? (kind ++ ":" ++ name) = ofParts? kind.toList name.toList := by
  have hcolon : (kind ++ ":" ++ name).toList = kind.toList ++ ':' :: name.toList := by simp
  rw [ofLine?_eq, hcolon, Text.splitFirst?_append_sep h, Option.bind_some]

theorem ofLine?_of_colonless {line : String} (h : ':' ∉ line.toList) : ofLine? line = none := by
  rw [ofLine?_eq, Text.splitFirst?_eq_none_iff.2 h]
  rfl

theorem ofLine?_of_lineTells {line : String} {told : Option (String × String)}
    (h : LineTells line told) : ofLine? line = told.map ofRecord := by
  cases h with
  | @record kind name indent beforeColon afterColon trailing hkind hname hindent hbefore hafter
      htrailing =>
    -- The first colon stands behind the kind, since there is none in the kind and in the blanks.
    have hcolon : ':' ∉ (indent ++ kind ++ beforeColon).toList := by
      simp [not_colon_mem_of_allBlank hindent, hkind.colonless, not_colon_mem_of_allBlank hbefore]
    have hkindChars : kind.toList ≠ [] := fun hnil => hkind.nonempty (String.toList_inj.1 hnil)
    have hnameChars : name.toList ≠ [] := fun hnil => hname.nonempty (String.toList_inj.1 hnil)
    rw [ofLine?_of_parts hcolon, ofParts?, String.toList_append, String.toList_append,
      String.toList_append, String.toList_append, hkind.trimmed.trimChars_between hindent hbefore,
      hname.trimmed.trimChars_between hafter htrailing, if_neg, String.ofList_toList,
      String.ofList_toList]
    · rfl
    · rintro (hnil | hcomment | hnil)
      · exact hkindChars hnil
      · exact hkind.uncommented hcomment
      · exact hnameChars hnil
  | blank hblank => exact ofLine?_of_colonless (not_colon_mem_of_allBlank hblank)
  | @comment indent rest hindent =>
    -- Behind the blanks stands the sign of a comment.
    have htrimmed : trimChars (indent ++ "#" ++ rest).toList = '#' :: Text.trimEnd rest.toList := by
      rw [String.toList_append, String.toList_append, List.append_assoc,
        Text.trimChars_blanks_append hindent]
      exact Text.trimChars_cons (by decide)
    rw [ofLine?_of_trimmed htrimmed]
    rfl
  | colonless hcolon => exact ofLine?_of_colonless hcolon
  | kindless hindent =>
    rw [ofLine?_of_parts (not_colon_mem_of_allBlank hindent), ofParts?, hindent.trimChars_eq_nil]
    rfl
  | nameless hstart htrailing =>
    rw [ofLine?_of_parts hstart, ofParts?, htrailing.trimChars_eq_nil]
    exact if_pos (.inr (.inr rfl))

/-! ## Whole manifests -/

/-- Two texts are the same but for the case of ASCII letters. -/
def SameButCase (text other : String) : Prop := Text.asciiLower text = Text.asciiLower other

/-- An entry stands for the kind and the name of a record: the word `template` in any case is the
kind of a template, and any other word is a kind in lower case. -/
structure StandsFor (entry : ManifestEntry) (record : String × String) : Prop where
  name : entry.name = record.2
  template : entry.kind = .template ↔ SameButCase record.1 "template"
  other : entry.kind ≠ .template → entry.kind = .other (Text.asciiLower record.1)

theorem standsFor_ofRecord (record : String × String) : (ofRecord record).StandsFor record := by
  have hword : Text.asciiLower "template" = "template" := by decide
  -- The two kinds are told apart by the word in lower case.
  by_cases htemplate : Text.asciiLower record.1 = "template"
  · have hkind : kindOfWord record.1 = .template := if_pos htemplate
    exact ⟨rfl, by simp [ofRecord, hkind, SameButCase, hword, htemplate],
      fun hne => absurd hkind hne⟩
  · have hkind : kindOfWord record.1 = .other (Text.asciiLower record.1) := if_neg htemplate
    exact ⟨rfl, by simp [ofRecord, hkind, SameButCase, hword, htemplate], fun _ => hkind⟩

theorem filterMap_ofLine? {lines : List String} {told : List (Option (String × String))}
    (h : List.Forall₂ LineTells lines told) :
    lines.filterMap ofLine? = told.reduceOption.map ofRecord := by
  induction h with
  | nil => rfl
  | @cons line record lines told hline _ ih =>
    rw [List.filterMap_cons, ofLine?_of_lineTells hline]
    -- A line without a record is dropped from both sides.
    cases record with
    | none => exact ih
    | some record => rw [List.reduceOption_cons_of_some, List.map_cons, ← ih]; rfl

/-- A manifest is read line by line: a line feed between two texts divides their records. However
the lines are laid out, what is read are the records, one for one and in their order. -/
theorem parse_layout (a b : String) {lines : List String} {told : List (Option (String × String))}
    {text : String} (htext : WrittenIn lines text) (htold : List.Forall₂ LineTells lines told) :
    parse (a ++ "\n" ++ b) = parse a ++ parse b ∧
      List.Forall₂ StandsFor (parse text) told.reduceOption := by
  refine ⟨parse_append a b, ?_⟩
  rw [parse_of_writtenIn htext, filterMap_ofLine? htold, List.forall₂_map_left_iff,
    List.forall₂_same]
  exact fun record _ => standsFor_ofRecord record

/-! ### Two records among other lines -/

/-- Lines with two records. -/
def mixedLines : List String :=
  ["\t" ++ "#" ++ " kinds: all", "\u00A0" ++ "Template" ++ " " ++ ":" ++ ("\t" ++ "a::B" ++ "\r "),
    "", "a.B", "config" ++ ":" ++ " ", " " ++ ":" ++ "a.B",
    "" ++ "Mixed Case" ++ "" ++ ":" ++ ("" ++ "c D" ++ "")]

/-- What these lines are for. -/
def mixedTold : List (Option (String × String)) :=
  [none, some ("Template", "a::B"), none, none, none, none, some ("Mixed Case", "c D")]

/-- The lines with different ends, of which the last one is open. -/
def mixedManifest : String :=
  "\t# kinds: all\r\n\u00A0Template :\ta::B\r \n\r\na.B\nconfig: \n :a.B\r\nMixed Case:c D"

theorem parse_layout_mixed :
    WrittenIn mixedLines mixedManifest ∧ List.Forall₂ LineTells mixedLines mixedTold ∧
      parse mixedManifest = [⟨"a::B", .template⟩, ⟨"c D", .other "mixed case"⟩] ∧
      parse ("a:b" ++ "\n" ++ mixedManifest) = parse "a:b" ++ parse mixedManifest ∧
      List.Forall₂ StandsFor (parse mixedManifest) mixedTold.reduceOption := by
  have htext : WrittenIn mixedLines mixedManifest :=
    .returnFeed (by decide) <| .feed (by decide) <| .returnFeed (by decide) <| .feed (by decide) <|
      .feed (by decide) <| .returnFeed (by decide) <| .last (by decide) (by decide)
  have htold : List.Forall₂ LineTells mixedLines mixedTold := by
    have htemplate : IsKind "Template" := ⟨by decide, by decide, by decide, by decide⟩
    have hmixed : IsKind "Mixed Case" := ⟨by decide, by decide, by decide, by decide⟩
    have hcolons : IsName "a::B" := ⟨by decide, by decide⟩
    have hinner : IsName "c D" := ⟨by decide, by decide⟩
    exact .cons (.comment (by decide)) <|
      .cons (.record htemplate hcolons (by decide) (by decide) (by decide) (by decide)) <|
      .cons (.blank (by decide)) <| .cons (.colonless (by decide)) <|
      .cons (.nameless (by decide) (by decide)) <| .cons (.kindless (by decide)) <|
      .cons (.record hmixed hinner (by decide) (by decide) (by decide) (by decide)) .nil
  exact ⟨htext, htold, by rfl, parse_layout _ _ htext htold⟩

end ManifestEntry

end PrototypeLens
