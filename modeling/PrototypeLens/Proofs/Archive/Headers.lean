import PrototypeLens.Archive.JarManifest
import PrototypeLens.Proofs.Text.Lines
import PrototypeLens.Proofs.Text.Trimming

/-!
# Headers of a jar manifest

A header may be cut into pieces, of which all but the first stand on lines of their own behind a
blank. The pieces are put together again, but for the blanks at the end of the first one: they are
dropped before it is known that the value goes on.

## Layers

- `WrittenHeader`: a header with the pieces that its value is cut into. The structure carries what
  the format asks of keys and values. `value` is what was cut, `read` what is put together again.
- Reading lines: the first line of a header starts it (`take_header`), a continuation line goes on
  with it (`take_continuation`), and all its lines together give the key what is read
  (`foldl_take_lines`).
- Tables: after any headers a key has what was read for it, since the keys are different.
- Reading texts: carriage returns at the end of a line do not count, and the headers are read up to
  the first empty line (`mainSection_of_writtenIn`).

## Main results

- `WrittenHeader.read_eq_value_iff`: nothing of a value is lost exactly if its first piece does not
  end with a blank.
- Of every manifest that is written in headers with different keys: what each key is given, however
  the headers are cut and the lines end.
- A header that is cut behind a blank and loses it.
-/

namespace PrototypeLens

open Text (isBlank trimChars trimEnd Blankless IsTrimmed WrittenIn)

namespace Table

variable {κ α : Type} [DecidableEq κ]

/-- Of two values for a key the later one counts. -/
theorem insert_insert (t : Table κ α) (k : κ) (v w : α) :
    (t.insert k v).insert k w = t.insert k w := by
  simp [insert, erase, List.filter_filter]

end Table

namespace JarManifest

/-! ## Written headers -/

/-- A header as it is written: the first piece of its value stands behind the key, every other one
on a line of its own. -/
structure WrittenHeader where
  key : String
  first : String
  rest : List String
  key_ne : key ≠ ""
  key_colonless : ':' ∉ key.toList
  key_blankless : Blankless key.toList
  value_trimmed : IsTrimmed (first ++ String.join rest).toList
  value_returnless : '\r' ∉ (first ++ String.join rest).toList

namespace WrittenHeader

/-- The value that was cut. -/
def value (header : WrittenHeader) : String := header.first ++ String.join header.rest

/-- The lines of a header. -/
def lines (header : WrittenHeader) : List String :=
  (header.key ++ ": " ++ header.first) :: header.rest.map (" " ++ ·)

/-- The value that is read: the first piece lost the blanks at its end. -/
def read (header : WrittenHeader) : String :=
  String.ofList (trimEnd header.first.toList) ++ String.join header.rest

/-- Nothing is lost exactly if the first piece does not end with a blank. -/
theorem read_eq_value_iff (header : WrittenHeader) :
    header.read = header.value ↔ ∀ c ∈ header.first.toList.getLast?, isBlank c = false := by
  rw [← Text.trimEnd_eq_self_iff, read, value, ← String.toList_inj, String.toList_append,
    String.toList_append, String.toList_ofList, List.append_cancel_right_eq]

theorem first_start (header : WrittenHeader) :
    ∀ c ∈ header.first.toList.head?, isBlank c = false := by
  intro c hc
  refine header.value_trimmed.start c ?_
  -- The value starts with the first piece, unless this one is empty.
  rw [String.toList_append, List.head?_append, Option.mem_def.1 hc]
  rfl

theorem key_start (header : WrittenHeader) : ∃ c cs, header.key.toList = c :: cs ∧ c ≠ ' ' := by
  cases hkey : header.key.toList with
  | nil => exact absurd (String.toList_inj.1 hkey) header.key_ne
  | cons c cs =>
    refine ⟨c, cs, rfl, ?_⟩
    -- A key has no blanks at all, so that it is not taken for a continuation.
    rintro rfl
    exact absurd (header.key_blankless ' ' (by simp [hkey])) (by decide)

end WrittenHeader

/-! ## Reading lines -/

variable {p : Progress} {t : Table String String} {key value : String}

/-- The first line of a header starts it. -/
theorem take_header (header : WrittenHeader) :
    p.take (header.key ++ ": " ++ header.first).toList =
      ⟨p.headers.insert header.key (String.ofList (trimEnd header.first.toList)),
        some header.key⟩ := by
  obtain ⟨c, cs, hkey, hc⟩ := header.key_start
  have hline : (header.key ++ ": " ++ header.first).toList =
      header.key.toList ++ ':' :: ' ' :: header.first.toList := by simp
  -- The key has no colon: the first one of the line divides the key from the value.
  have hsplit := Text.splitFirst?_append_sep header.key_colonless (' ' :: header.first.toList)
  have htrimKey : trimChars header.key.toList = header.key.toList :=
    IsTrimmed.trimChars_eq
      ⟨fun c hc => header.key_blankless c (List.mem_of_mem_head? hc),
        fun c hc => header.key_blankless c (List.mem_of_getLast? hc)⟩
  have htrimFirst : trimChars (' ' :: header.first.toList) = trimEnd header.first.toList := by
    rw [← List.singleton_append, Text.trimChars_blanks_append (by decide), trimChars,
      Text.dropWhile_isBlank_eq_self header.first_start]
  rw [Progress.take, hline, hsplit]
  · simp only [htrimKey, htrimFirst, String.ofList_toList]
  · -- The line is no continuation, as the key does not start with a blank.
    rintro rest hblank
    rw [hline, hkey] at hblank
    cases hblank
    exact hc rfl

/-- A continuation line goes on with the value of the last header. -/
theorem take_continuation (piece : String) :
    Progress.take ⟨t.insert key value, some key⟩ (" " ++ piece).toList =
      ⟨t.insert key (value ++ piece), some key⟩ := by
  have hline : (" " ++ piece).toList = ' ' :: piece.toList := by simp
  have hvalue : (t.insert key value).get? key = some value := by rw [Table.get?_insert, if_pos rfl]
  simp only [hline, Progress.take, Option.bind_some, hvalue, Option.map_some, Table.insert_insert,
    String.ofList_toList]

theorem foldl_take_continuations (rest : List String) :
    ((rest.map (" " ++ ·)).map String.toList).foldl Progress.take ⟨t.insert key value, some key⟩ =
      ⟨t.insert key (value ++ String.join rest), some key⟩ := by
  -- The induction is on the pieces, for any value that was put together so far.
  induction rest generalizing value with
  | nil => simp
  | cons piece rest ih =>
    rw [List.map_cons, List.map_cons, List.foldl_cons, take_continuation, ih, String.join_cons,
      String.append_assoc]

/-- All lines of a header together give its key the value that is read. -/
theorem foldl_take_lines (header : WrittenHeader) :
    (header.lines.map String.toList).foldl Progress.take p =
      ⟨p.headers.insert header.key header.read, some header.key⟩ := by
  rw [WrittenHeader.lines, List.map_cons, List.foldl_cons, take_header, foldl_take_continuations]
  rfl

theorem headers_foldl_take (headers : List WrittenHeader) :
    (((headers.flatMap WrittenHeader.lines).map String.toList).foldl Progress.take p).headers =
      headers.foldl (fun t header => t.insert header.key header.read) p.headers := by
  -- The induction is on the headers, for any progress: each of them starts anew, whatever was read
  -- before.
  induction headers generalizing p with
  | nil => rfl
  | cons header headers ih =>
    rw [List.flatMap_cons, List.map_append, List.foldl_append, foldl_take_lines, ih,
      List.foldl_cons]

theorem get?_foldl_insert_of_not_mem {headers : List WrittenHeader}
    (h : key ∉ headers.map (·.key)) :
    (headers.foldl (fun t header => t.insert header.key header.read) t).get? key = t.get? key := by
  -- No other header writes to the key.
  induction headers generalizing t with
  | nil => rfl
  | cons header headers ih =>
    obtain ⟨hkey, hkeys⟩ : key ≠ header.key ∧ key ∉ headers.map (·.key) := by simpa using h
    rw [List.foldl_cons, ih hkeys, Table.get?_insert, if_neg hkey]

theorem get?_foldl_insert_of_mem {headers : List WrittenHeader}
    (hkeys : (headers.map (·.key)).Nodup) {header : WrittenHeader} (h : header ∈ headers) :
    (headers.foldl (fun t header => t.insert header.key header.read) t).get? header.key =
      some header.read := by
  induction headers generalizing t with
  | nil => cases h
  | cons other headers ih =>
    obtain ⟨hother, hkeys⟩ := List.nodup_cons.1 hkeys
    rw [List.foldl_cons]
    -- The key is given its value by its own header, and none of the later ones has it.
    rcases List.mem_cons.1 h with rfl | h
    · rw [get?_foldl_insert_of_not_mem hother, Table.get?_insert, if_pos rfl]
    · exact ih hkeys h

/-! ## Reading texts -/

/-- A line without the carriage returns at its end. -/
def withoutReturns (line : String) : List Char := line.toList.rdropWhile (· == '\r')

theorem withoutReturns_closedLine (piece : List Char) :
    withoutReturns (Text.closedLine piece) = withoutReturns (String.ofList piece) := by
  rw [Text.closedLine]
  cases hreturn : Text.dropEnd? ['\r'] piece with
  | none => rfl
  -- The carriage return before the feed is dropped with any others before it.
  | some line =>
    obtain rfl := Text.dropEnd?_eq_some_iff.1 hreturn
    simp [withoutReturns]

theorem withoutReturns_eq_self {line : String} (h : '\r' ∉ line.toList) :
    withoutReturns line = line.toList :=
  List.rdropWhile_eq_self_iff.2 fun hne hlast =>
    h ((beq_iff_eq.1 hlast) ▸ List.getLast_mem hne)

theorem map_withoutReturns_lines {lines : List String} {text : String} (h : WrittenIn lines text) :
    (Text.lines text).map withoutReturns = lines.map withoutReturns := by
  induction h with
  | nil => rfl
  | last hfeed hne => rw [Text.lines_of_not_mem hfeed hne]
  | @feed line lines text hfeed _ ih =>
    rw [Text.lines_feed hfeed, List.map_cons, List.map_cons, ih, withoutReturns_closedLine,
      String.ofList_toList]
  | returnFeed hfeed _ ih => rw [Text.lines_returnFeed hfeed, List.map_cons, List.map_cons, ih]

theorem WrittenHeader.not_return_mem_lines (header : WrittenHeader) {line : String}
    (h : line ∈ header.lines) : '\r' ∉ line.toList := by
  have hkey : '\r' ∉ header.key.toList := fun hmem =>
    absurd (header.key_blankless '\r' hmem) (by decide)
  -- A piece of the value has a carriage return only if the value has one.
  obtain ⟨hfirst, hrest⟩ : '\r' ∉ header.first.toList ∧ ∀ piece ∈ header.rest,
      '\r' ∉ piece.toList := by simpa using header.value_returnless
  rcases List.mem_cons.1 h with rfl | h
  · simp [hkey, hfirst]
  · obtain ⟨piece, hpiece, rfl⟩ := List.mem_map.1 h
    simp [hrest piece hpiece]

theorem WrittenHeader.ne_empty_of_mem_lines (header : WrittenHeader) {line : String}
    (h : line ∈ header.lines) : line.toList ≠ [] := by
  rcases List.mem_cons.1 h with rfl | h
  · simp
  · obtain ⟨piece, _, rfl⟩ := List.mem_map.1 h
    simp

/-- The lines of the headers make up the main section: none of them is empty, and what follows them
does not count. -/
theorem mainSection_of_writtenIn {headers : List WrittenHeader} {after : List String}
    {text : String} (hafter : ∀ line ∈ after.head?, line = "")
    (htext : WrittenIn (headers.flatMap WrittenHeader.lines ++ after) text) :
    mainSection text = (headers.flatMap WrittenHeader.lines).map String.toList := by
  have hsection : mainSection text =
      ((Text.lines text).map withoutReturns).takeWhile fun line => !line.isEmpty := rfl
  -- The lines of the headers have no carriage returns, so that nothing is dropped from them.
  have hkept : (headers.flatMap WrittenHeader.lines).map withoutReturns =
      (headers.flatMap WrittenHeader.lines).map String.toList := by
    refine List.map_congr_left fun line hline => withoutReturns_eq_self ?_
    obtain ⟨header, _, hline⟩ := List.mem_flatMap.1 hline
    exact header.not_return_mem_lines hline
  -- The section ends with the headers, at the empty line or at the end of the text.
  have hstop : (after.map withoutReturns).takeWhile (fun line => !line.isEmpty) = [] := by
    cases after with
    | nil => rfl
    | cons line after =>
      rw [hafter line rfl]
      rfl
  rw [hsection, map_withoutReturns_lines htext, List.map_append, hkept,
    List.takeWhile_append_of_pos, hstop, List.append_nil]
  intro chars hchars
  obtain ⟨line, hmem, rfl⟩ := List.mem_map.1 hchars
  obtain ⟨header, _, hline⟩ := List.mem_flatMap.1 hmem
  simpa using header.ne_empty_of_mem_lines hline

/-! ## Whole manifests -/

/-- However the headers of a main section are cut and whatever comes behind an empty line, each key
has the pieces of its value put together, but for the blanks at the end of the first piece. So a key
has its value exactly if the value is not cut behind a blank on the first line. -/
theorem get?_parse_eq_value_iff {headers : List WrittenHeader} {after : List String}
    {text : String} (hkeys : (headers.map (·.key)).Nodup) (hafter : ∀ line ∈ after.head?, line = "")
    (htext : WrittenIn (headers.flatMap WrittenHeader.lines ++ after) text) :
    (∀ key value, (parse text).get? key = some value ↔
      ∃ header ∈ headers, header.key = key ∧ header.read = value) ∧
    ∀ header ∈ headers, (parse text).get? header.key = some header.value ↔
      ∀ c ∈ header.first.toList.getLast?, isBlank c = false := by
  -- What is asked of the text is asked of the table that the headers fill.
  have hparse (key : String) : (parse text).get? key = (headers.foldl
      (fun t header => t.insert header.key header.read) (∅ : Table String String)).get? key := by
    rw [JarManifest.get?, parse, mainSection_of_writtenIn hafter htext, headers_foldl_take]
  have hread (header : WrittenHeader) (h : header ∈ headers) :
      (parse text).get? header.key = some header.read :=
    (hparse header.key).trans (get?_foldl_insert_of_mem hkeys h)
  constructor
  · intro key value
    constructor
    · intro hget
      -- Either a header has the key, or nothing was ever written to it.
      by_cases hkey : key ∈ headers.map (·.key)
      · obtain ⟨header, h, rfl⟩ := List.mem_map.1 hkey
        exact ⟨header, h, rfl, Option.some.inj ((hread header h).symm.trans hget)⟩
      · rw [hparse, get?_foldl_insert_of_not_mem hkey, Table.get?_empty] at hget
        cases hget
    · rintro ⟨header, h, rfl, rfl⟩
      exact hread header h
  · intro header h
    rw [hread header h, Option.some_inj, header.read_eq_value_iff]

/-! ### A value cut at a blank -/

/-- The header of a version. -/
def versionHeader : WrittenHeader where
  key := "Manifest-Version"
  first := "1.0"
  rest := []
  key_ne := by decide
  key_colonless := by decide
  key_blankless := by decide
  value_trimmed := by decide
  value_returnless := by decide

/-- The header of a vendor, cut before the blank inside its value. -/
def vendorHeader : WrittenHeader where
  key := "Implementation-Vendor"
  first := "Binis"
  rest := [" Belev"]
  key_ne := by decide
  key_colonless := by decide
  key_blankless := by decide
  value_trimmed := by decide
  value_returnless := by decide

/-- The header of a vendor, cut behind the blank inside its value. -/
def lateCutHeader : WrittenHeader where
  key := "Implementation-Vendor"
  first := "Binis "
  rest := ["Belev"]
  key_ne := by decide
  key_colonless := by decide
  key_blankless := by decide
  value_trimmed := by decide
  value_returnless := by decide

/-- A manifest with two headers and a further section. -/
def vendorManifest : String :=
  "Manifest-Version: 1.0\r\nImplementation-Vendor: Binis\r\n  Belev\n\r\nName: x\r\n"

theorem get?_parse_eq_value_iff_vendor :
    ([versionHeader, vendorHeader].map (·.key)).Nodup ∧
      (∀ line ∈ ["", "Name: x"].head?, line = "") ∧
      WrittenIn ([versionHeader, vendorHeader].flatMap WrittenHeader.lines ++ ["", "Name: x"])
        vendorManifest ∧
      (parse vendorManifest).get? "Implementation-Vendor" = some "Binis Belev" ∧
      (∀ key value, (parse vendorManifest).get? key = some value ↔
        ∃ header ∈ [versionHeader, vendorHeader], header.key = key ∧ header.read = value) ∧
      ∀ header ∈ [versionHeader, vendorHeader],
        (parse vendorManifest).get? header.key = some header.value ↔
          ∀ c ∈ header.first.toList.getLast?, isBlank c = false := by
  have hkeys : ([versionHeader, vendorHeader].map (·.key)).Nodup := by decide
  have hafter : ∀ line ∈ ["", "Name: x"].head?, line = "" := by decide
  -- The lines of the example end in both ways.
  have htext : WrittenIn
      ([versionHeader, vendorHeader].flatMap WrittenHeader.lines ++ ["", "Name: x"])
      vendorManifest :=
    .returnFeed (by decide) <| .returnFeed (by decide) <| .feed (by decide) <|
      .returnFeed (by decide) <| .returnFeed (by decide) .nil
  exact ⟨hkeys, hafter, htext, by rfl, get?_parse_eq_value_iff hkeys hafter htext⟩

/-- A blank before the cut is lost. -/
theorem get?_parse_ne_value_lateCut :
    ([lateCutHeader].map (·.key)).Nodup ∧
      WrittenIn ([lateCutHeader].flatMap WrittenHeader.lines)
        "Implementation-Vendor: Binis \r\n Belev\r\n" ∧
      lateCutHeader.value = "Binis Belev" ∧
      (parse "Implementation-Vendor: Binis \r\n Belev\r\n").get? lateCutHeader.key =
        some "BinisBelev" :=
  ⟨by decide, .returnFeed (by decide) <| .returnFeed (by decide) .nil, by rfl, by rfl⟩

end JarManifest

end PrototypeLens
