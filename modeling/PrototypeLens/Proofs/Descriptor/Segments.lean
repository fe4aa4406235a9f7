import Mathlib.Data.List.Infix
import PrototypeLens.Proofs.Descriptor.Naming

/-!
# Names by segments

The conventions of the generator edit a name as a text. Told by the segments between its dots, they
drop the suffixes of the last one and, of the segments inside, every other one of adjacent
`prototype`s. So all inner segments `prototype` are dropped exactly if no two of them are adjacent.

## Layers

- `Text.segments` and `Text.dotted`: a name and its segments are told by each other.
- `withoutAlternate` and `withoutPrototypes`: what is dropped inside, and what was meant to be.
  `withoutAlternate_eq_iff` says when these are the same.
- `collapsed_segments`: the textual replacement goes by segments, from the second one on.
- `shortened`: the endings are those of the last segment.
- `renamed`: segments with the last one shortened and the inner ones thinned out.

## Main results

- `dropSegments_dropSuffixes`: both conventions in terms of `renamed`.
- `dotted_renamed_eq_iff`: names made this way differ where different inner segments are kept.
- The generated name without an explicit target, by segments, and when no `prototype` is left in it.
-/

namespace PrototypeLens

namespace Text

variable {sep : Char} {start cs : List Char}

/-! ## Segments -/

/-- The segments of a name, between its dots. -/
def segments (name : String) : List (List Char) := splitAt '.' name.toList

/-- The name with given segments. -/
def dotted (segments : List (List Char)) : String := String.ofList (['.'].intercalate segments)

theorem splitAt_eq_splitOn (sep : Char) (cs : List Char) : splitAt sep cs = cs.splitOn sep := by
  induction cs with
  | nil => rw [splitAt, List.splitOn_nil]
  | cons c cs ih =>
    -- The splitting function of the text goes along the list as that of the library does.
    rw [splitAt, List.splitOn_cons_eq_if_modifyHead, ih]
    cases hpieces : cs.splitOn sep with
    | nil => exact absurd hpieces (List.splitOn_ne_nil sep cs)
    | cons piece pieces => simp

theorem not_mem_of_mem_splitAt {piece : List Char} (h : piece ∈ splitAt sep cs) : sep ∉ piece := by
  induction cs generalizing piece with
  | nil => simp_all [splitAt]
  | cons c cs ih =>
    -- A character other than the separator joins the first piece, which had no separator either.
    rw [splitAt] at h
    split at h
    · rcases List.mem_cons.1 h with rfl | h
      · exact List.not_mem_nil
      · exact ih h
    · rename_i hc
      split at h
      · rw [List.mem_singleton] at h
        simp [h, Ne.symm hc]
      · rename_i piece' pieces hpieces
        rw [hpieces] at ih
        rcases List.mem_cons.1 h with rfl | h
        · simp [Ne.symm hc, ih List.mem_cons_self]
        · exact ih (List.mem_cons_of_mem _ h)

theorem segments_ne_nil (name : String) : segments name ≠ [] := splitAt_ne_nil _ _

theorem not_dotted_of_mem_segments {name : String} {segment : List Char}
    (h : segment ∈ segments name) : '.' ∉ segment :=
  not_mem_of_mem_splitAt h

/-- A name is its segments with dots between them. -/
theorem dotted_segments (name : String) : dotted (segments name) = name := by
  rw [dotted, segments, splitAt_eq_splitOn, List.intercalate_splitOn, String.ofList_toList]

theorem segments_dotted {segs : List (List Char)} (hdots : ∀ segment ∈ segs, '.' ∉ segment)
    (hsegs : segs ≠ []) : segments (dotted segs) = segs := by
  rw [dotted, segments, String.toList_ofList, splitAt_eq_splitOn,
    List.splitOn_intercalate '.' hdots hsegs]

theorem toList_dotted_cons (first : List Char) (rest : List (List Char)) :
    (dotted (first :: rest)).toList = first ++ rest.flatMap ('.' :: ·) := by
  rw [dotted, String.toList_ofList]
  induction rest generalizing first with
  | nil => simp
  | cons next rest ih => rw [List.intercalate_cons_cons, ih]; simp

/-! ## Endings -/

theorem dropStart?_append (hstart : sep ∉ start) (cs rest : List Char) :
    dropStart? start (cs ++ sep :: rest) = (dropStart? start cs).map (· ++ sep :: rest) := by
  -- Where the start ends before the separator the rest is left as it is; where the text ends first,
  -- the separator would have to belong to the start.
  induction start generalizing cs with
  | nil => rfl
  | cons c start ih =>
    obtain ⟨hc, hstart⟩ : sep ≠ c ∧ sep ∉ start := by simpa using hstart
    cases cs with
    | nil => exact if_neg (Ne.symm hc)
    | cons c' cs =>
      rw [List.cons_append, dropStart?, dropStart?, ih hstart]
      split <;> rfl

/-- An ending without a separator belongs to what follows the last one. -/
theorem dropEnd?_append {ending : List Char} (hending : sep ∉ ending) (before cs : List Char) :
    dropEnd? ending (before ++ sep :: cs) = (dropEnd? ending cs).map (before ++ sep :: ·) := by
  have hreverse : (before ++ sep :: cs).reverse = cs.reverse ++ sep :: before.reverse := by simp
  rw [dropEnd?, hreverse, dropStart?_append (by simpa using hending), dropEnd?, Option.map_map,
    Option.map_map]
  congr 1
  funext rest
  simp

/-- Texts without a separator that end at one. -/
theorem append_sep_prefix_iff {piece other : List Char} (hpiece : sep ∉ piece)
    (hother : sep ∉ other) (rest : List Char) :
    piece ++ [sep] <+: other ++ sep :: rest ↔ piece = other := by
  induction piece generalizing other with
  | nil =>
    cases other with
    | nil => simp
    | cons c other => simp_all
  | cons c piece ih =>
    cases other with
    | nil => simp_all [eq_comm]
    | cons c' other => simp_all

end Text

/-! ## Inner segments -/

/-- The segment that is dropped inside a name. -/
def prototypeSegment : List Char := "prototype".toList

/-- Inner segments without any `prototype`. -/
def withoutPrototypes (inner : List (List Char)) : List (List Char) :=
  inner.filter (· ≠ prototypeSegment)

/-- Inner segments without `prototype`s, where the segment behind a dropped one stays. -/
def withoutAlternate : List (List Char) → List (List Char)
  | [] => []
  | segment :: rest =>
    if segment = prototypeSegment then match rest with
      | [] => []
      | next :: rest => next :: withoutAlternate rest
    else segment :: withoutAlternate rest

theorem withoutAlternate_cons {segment : List Char} (hsegment : segment ≠ prototypeSegment)
    (rest : List (List Char)) :
    withoutAlternate (segment :: rest) = segment :: withoutAlternate rest := by
  cases rest <;> simp [withoutAlternate, hsegment]

/-- Where no two of them are adjacent, and only there, all of them are dropped. -/
theorem withoutAlternate_eq_iff (inner : List (List Char)) :
    withoutAlternate inner = withoutPrototypes inner ↔
      ¬ [prototypeSegment, prototypeSegment] <:+: inner := by
  -- The cases are those of the recursion: nothing left, a last `prototype`, a `prototype` with a
  -- segment behind it, and any other segment.
  induction inner using withoutAlternate.induct with
  | case1 => simp [withoutAlternate, withoutPrototypes]
  | case2 => simp [withoutAlternate, withoutPrototypes, List.infix_cons_iff]
  | case3 next rest ih =>
    by_cases hnext : next = prototypeSegment
    · have hadjacent : [prototypeSegment, prototypeSegment] <:+:
          prototypeSegment :: next :: rest := ⟨[], rest, by simp [hnext]⟩
      refine iff_of_false (fun heq => ?_) (not_not_intro hadjacent)
      -- The second of the two is behind a dropped one and stays.
      have hmem : prototypeSegment ∈ withoutPrototypes (prototypeSegment :: next :: rest) := by
        rw [← heq, withoutAlternate, if_pos rfl, hnext]
        exact List.mem_cons_self
      simp [withoutPrototypes] at hmem
    · simpa [withoutAlternate, withoutPrototypes, List.infix_cons_iff, hnext, Ne.symm hnext]
        using ih
  | case4 segment rest hsegment ih =>
    simpa [withoutAlternate_cons hsegment, withoutPrototypes, List.infix_cons_iff, hsegment,
      Ne.symm hsegment] using ih

/-! ## Inner segments of a text -/

/-- A text of which the segments between two dots are dropped, as far as reading from left to right
finds a dot before them. -/
def collapsed (text : List Char) : List Char :=
  Text.replaceFrom ('.' :: (prototypeSegment ++ ['.'])) ['.'] 0 text

@[simp] theorem collapsed_nil : collapsed [] = [] := rfl

theorem toList_dropSegments (name : String) :
    (dropSegments name).toList = collapsed name.toList := by
  have hdots : ".prototype.".toList = '.' :: (prototypeSegment ++ ['.']) := by decide
  rw [dropSegments, Text.replace, String.toList_ofList, hdots]
  rfl

theorem collapsed_append {start : List Char} (hstart : '.' ∉ start) (text : List Char) :
    collapsed (start ++ text) = start ++ collapsed text :=
  Text.replaceFrom_append hstart text

theorem collapsed_eq_self {text : List Char} (htext : '.' ∉ text) : collapsed text = text :=
  Text.replaceFrom_of_not_infix fun hinside => htext (hinside.subset List.mem_cons_self)

/-- A dropped segment takes the dot behind it along, so that the next one stays. -/
theorem collapsed_prototype {next : List Char} (hnext : '.' ∉ next) (text : List Char) :
    collapsed ('.' :: (prototypeSegment ++ '.' :: (next ++ text))) =
      '.' :: (next ++ collapsed text) := by
  have hsplit : '.' :: (prototypeSegment ++ '.' :: (next ++ text)) =
      '.' :: (prototypeSegment ++ ['.']) ++ (next ++ text) := by simp
  rw [hsplit, collapsed, Text.replaceFrom_of_starts (List.cons_ne_nil _ _),
    Text.replaceFrom_append hnext]
  rfl

/-- A segment stays if it is another one or nothing follows it. -/
theorem collapsed_segment {segment : List Char} (hsegment : '.' ∉ segment)
    (rest : List (List Char)) (hstays : segment = prototypeSegment → rest = []) :
    collapsed ('.' :: (segment ++ rest.flatMap ('.' :: ·))) =
      '.' :: (segment ++ collapsed (rest.flatMap ('.' :: ·))) := by
  -- What is replaced would have to begin here, which the two cases rule out.
  rw [collapsed, Text.replaceFrom_of_not_starts, Text.replaceFrom_append hsegment, collapsed]
  rw [List.cons_prefix_cons, and_iff_right rfl]
  cases rest with
  | nil =>
    -- What is replaced has a second dot, which the text has not.
    intro hinside
    rw [List.flatMap_nil, List.append_nil] at hinside
    exact hsegment (hinside.subset (by simp))
  | cons next rest =>
    rw [List.flatMap_cons, List.cons_append, Text.append_sep_prefix_iff (by decide) hsegment]
    exact fun hsame => List.cons_ne_nil _ _ (hstays hsame.symm)

/-- Dropping the segment from a text goes by segments, from the second one on. -/
theorem collapsed_segments {inner : List (List Char)} {last : List Char}
    (hinner : ∀ segment ∈ inner, '.' ∉ segment) (hlast : '.' ∉ last) :
    collapsed ((inner ++ [last]).flatMap ('.' :: ·)) =
      (withoutAlternate inner ++ [last]).flatMap ('.' :: ·) := by
  -- The induction takes a dropped segment together with the one behind it, as the replacement does.
  induction inner using withoutAlternate.induct with
  | case1 => simpa [withoutAlternate] using collapsed_segment hlast [] fun _ => rfl
  | case2 => simpa [withoutAlternate] using collapsed_prototype hlast []
  | case3 next rest ih =>
    have hdropped := collapsed_prototype (hinner next (by simp))
      ((rest ++ [last]).flatMap ('.' :: ·))
    rw [ih fun segment h => hinner segment (by simp [h])] at hdropped
    simpa [withoutAlternate] using hdropped
  | case4 segment rest hsegment ih =>
    have hkept := collapsed_segment (hinner segment List.mem_cons_self) (rest ++ [last])
      fun hsame => absurd hsame hsegment
    rw [ih fun segment h => hinner segment (List.mem_cons_of_mem _ h)] at hkept
    simpa [withoutAlternate_cons hsegment] using hkept

/-! ## The last segment -/

/-- A simple name without its endings: one `Prototype`, and before that one `Entity`. -/
def shortened (simple : List Char) : List Char :=
  ((Text.dropEnd? "Prototype".toList simple).map fun stem =>
    (Text.dropEnd? "Entity".toList stem).getD stem).getD simple

theorem dropSuffixes_eq (name : String) :
    dropSuffixes name = String.ofList (shortened name.toList) := by
  rw [dropSuffixes, shortened]
  cases Text.dropEnd? "Prototype".toList name.toList with
  | none => exact (String.ofList_toList ..).symm
  | some stem => rfl

/-- The endings are those of the last segment. -/
theorem shortened_append (before simple : List Char) :
    shortened (before ++ '.' :: simple) = before ++ '.' :: shortened simple := by
  rw [shortened, Text.dropEnd?_append (by decide), shortened]
  cases Text.dropEnd? "Prototype".toList simple with
  | none => rfl
  | some stem =>
    simp only [Option.map_some, Option.getD_some]
    rw [Text.dropEnd?_append (by decide)]
    cases Text.dropEnd? "Entity".toList stem <;> rfl

theorem shortened_prefix_self (simple : List Char) : shortened simple <+: simple := by
  rw [shortened]
  cases hstem : Text.dropEnd? "Prototype".toList simple with
  | none => exact List.prefix_rfl
  | some stem =>
    have hle : (Text.dropEnd? "Entity".toList stem).getD stem <+: stem := by
      cases hbefore : Text.dropEnd? "Entity".toList stem with
      | none => exact List.prefix_rfl
      | some before => exact ⟨_, (Text.dropEnd?_eq_some_iff.1 hbefore).symm⟩
    exact hle.trans ⟨_, (Text.dropEnd?_eq_some_iff.1 hstem).symm⟩

/-! ## Whole names -/

/-- The segments that stand neither first nor last. -/
def innerSegments (segs : List (List Char)) : List (List Char) := segs.tail.dropLast

/-- Segments of which the last one is shortened and the inner ones are what `keep` makes of them. -/
def renamed (keep : List (List Char) → List (List Char)) (segs : List (List Char)) :
    List (List Char) :=
  segs.dropLast.take 1 ++ keep (innerSegments segs) ++ (segs.getLast?.map shortened).toList

section Renamed

variable {keep : List (List Char) → List (List Char)}

theorem renamed_singleton (simple : List Char) :
    renamed keep [simple] = keep [] ++ [shortened simple] := rfl

theorem renamed_append (first : List Char) (inner : List (List Char)) (last : List Char) :
    renamed keep (first :: (inner ++ [last])) = first :: (keep inner ++ [shortened last]) := by
  rw [renamed, innerSegments, List.tail_cons, List.dropLast_concat, ← List.cons_append,
    List.dropLast_concat, List.getLast?_concat]
  rfl

theorem not_dotted_of_mem_renamed (hkeep : ∀ inner, keep inner ⊆ inner) {name : String}
    {segment : List Char} (h : segment ∈ renamed keep (Text.segments name)) : '.' ∉ segment := by
  rw [renamed, List.append_assoc, List.mem_append, List.mem_append] at h
  -- The kept segments are some of those of the name; the last one is a start of one of them.
  rcases h with hfirst | hinner | hlast
  · exact Text.not_dotted_of_mem_segments
      (List.dropLast_subset _ (List.take_subset _ _ hfirst))
  · exact Text.not_dotted_of_mem_segments
      (List.tail_subset _ (List.dropLast_subset _ (hkeep _ hinner)))
  · rw [Option.mem_toList, Option.map_eq_some_iff] at hlast
    obtain ⟨last, hlast, rfl⟩ := hlast
    exact fun hdot => Text.not_dotted_of_mem_segments (List.mem_of_getLast? hlast)
      ((shortened_prefix_self last).subset hdot)

/-- Two ways to keep inner segments make one name only if they keep the same ones of it. -/
theorem dotted_renamed_eq_iff {keep' : List (List Char) → List (List Char)}
    (hkeep : ∀ inner, keep inner ⊆ inner) (hkeep' : ∀ inner, keep' inner ⊆ inner) (name : String) :
    Text.dotted (renamed keep (Text.segments name)) =
        Text.dotted (renamed keep' (Text.segments name)) ↔
      keep (innerSegments (Text.segments name)) = keep' (innerSegments (Text.segments name)) := by
  have hne (keep : List (List Char) → List (List Char)) :
      renamed keep (Text.segments name) ≠ [] := by
    have hsome := List.getLast?_isSome.2 (Text.segments_ne_nil name)
    obtain ⟨last, hlast⟩ := Option.isSome_iff_exists.1 hsome
    simp [renamed, hlast]
  constructor
  · intro heq
    -- Different segments are different names only as long as no segment has a dot in it.
    have hsegs := congrArg Text.segments heq
    rw [Text.segments_dotted (fun _ => not_dotted_of_mem_renamed hkeep) (hne keep),
      Text.segments_dotted (fun _ => not_dotted_of_mem_renamed hkeep') (hne keep')] at hsegs
    simpa [renamed] using hsegs
  · intro heq
    rw [renamed, heq, renamed]

end Renamed

theorem withoutPrototypes_subset (inner : List (List Char)) : withoutPrototypes inner ⊆ inner :=
  List.filter_subset_self inner

theorem withoutAlternate_subset (inner : List (List Char)) : withoutAlternate inner ⊆ inner := by
  induction inner using withoutAlternate.induct with
  | case1 => exact List.nil_subset _
  | case2 => exact List.nil_subset _
  | case3 next rest ih =>
    exact List.Subset.trans (List.cons_subset_cons next ih) (List.subset_cons_self _ _)
  | case4 segment rest hsegment ih =>
    rw [withoutAlternate_cons hsegment]
    exact List.cons_subset_cons segment ih

theorem segments_cases (name : String) : (∃ simple, Text.segments name = [simple]) ∨
    ∃ first inner last, Text.segments name = first :: (inner ++ [last]) := by
  obtain ⟨first, rest, hsegs⟩ := List.exists_cons_of_ne_nil (Text.segments_ne_nil name)
  rcases List.eq_nil_or_concat rest with rfl | ⟨inner, last, rfl⟩
  · exact .inl ⟨first, hsegs⟩
  · exact .inr ⟨first, inner, last, by rw [hsegs, List.concat_eq_append]⟩

/-- The conventions on a text go by its segments. -/
theorem dropSegments_dropSuffixes (name : String) :
    dropSegments (dropSuffixes name) =
      Text.dotted (renamed withoutAlternate (Text.segments name)) := by
  have hdots {segment : List Char} (h : segment ∈ Text.segments name) : '.' ∉ segment :=
    Text.not_dotted_of_mem_segments h
  have hshort {segment : List Char} (h : segment ∈ Text.segments name) : '.' ∉ shortened segment :=
    fun hdot => hdots h ((shortened_prefix_self segment).subset hdot)
  rw [← String.toList_inj, toList_dropSegments, dropSuffixes_eq, String.toList_ofList]
  nth_rewrite 1 [← Text.dotted_segments name]
  rcases segments_cases name with ⟨simple, hsegs⟩ | ⟨first, inner, last, hsegs⟩
  · -- A single segment has nothing inside; only its endings are dropped.
    have hdotless : '.' ∉ shortened simple := hshort (by simp [hsegs])
    rw [hsegs, renamed_singleton, withoutAlternate, List.nil_append, Text.toList_dotted_cons,
      Text.toList_dotted_cons, List.flatMap_nil, List.append_nil, List.append_nil,
      collapsed_eq_self hdotless]
  -- The last dot divides the text for the endings, the first one for the inner segments.
  · have hsplit : first ++ (inner ++ [last]).flatMap ('.' :: ·) =
        (first ++ inner.flatMap ('.' :: ·)) ++ '.' :: last := by simp
    have hjoin : (first ++ inner.flatMap ('.' :: ·)) ++ '.' :: shortened last =
        first ++ (inner ++ [shortened last]).flatMap ('.' :: ·) := by simp
    rw [hsegs, renamed_append, Text.toList_dotted_cons, hsplit, shortened_append, hjoin,
      collapsed_append (hdots (by simp [hsegs])),
      collapsed_segments (fun segment h => hdots (by simp [hsegs, h])) (hshort (by simp [hsegs])),
      Text.toList_dotted_cons]

/-- Without an explicit name or package the generated name goes by segments: the last one is
shortened, and of the inner ones a `prototype` is dropped unless it stands right behind a dropped
one. So all of them are dropped exactly if no two are adjacent. -/
theorem generatedName_by_segments_iff {d : Option Descriptor}
    (hd : ∀ d' ∈ d, d'.strategy ≠ .implementation ∧ d'.explicitTarget = (none, none))
    (name : String) :
    generatedName d name false = Text.dotted (renamed withoutAlternate (Text.segments name)) ∧
      (generatedName d name false = Text.dotted (renamed withoutPrototypes (Text.segments name)) ↔
        ¬ [prototypeSegment, prototypeSegment] <:+: innerSegments (Text.segments name)) := by
  -- Neither a name nor a package is explicit, so the name goes through the conventions.
  have hdraft : NameDraft.ofDescriptor d name = .conventional name false := by
    cases d with
    | none => rfl
    | some d =>
      obtain ⟨hstrategy, htarget⟩ := hd d rfl
      rw [NameDraft.ofDescriptor, htarget]
      exact congrArg (NameDraft.conventional name) (beq_eq_false_iff_ne.2 hstrategy)
  have hname : generatedName d name false = dropSegments (dropSuffixes name) := by
    rw [generatedName, hdraft]
    rfl
  rw [hname, dropSegments_dropSuffixes]
  refine ⟨rfl, ?_⟩
  rw [dotted_renamed_eq_iff withoutAlternate_subset withoutPrototypes_subset,
    withoutAlternate_eq_iff]

/-! ### Segments inside a name -/

/-- A descriptor whose interface name is blank. -/
def blankInterface : Descriptor := { interfaceName := some " ", strategy := .plain }

theorem generatedName_by_segments_iff_prototypesApart :
    (∀ d' ∈ some blankInterface,
      d'.strategy ≠ .implementation ∧ d'.explicitTarget = (none, none)) ∧
    generatedName (some blankInterface) "prototype.x.prototype.y.prototype.FooEntityPrototype"
      false = "prototype.x.y.Foo" ∧
    generatedName (some blankInterface) "prototype.x.prototype.y.prototype.FooEntityPrototype"
      false = Text.dotted (renamed withoutAlternate
        (Text.segments "prototype.x.prototype.y.prototype.FooEntityPrototype")) ∧
    (generatedName (some blankInterface) "prototype.x.prototype.y.prototype.FooEntityPrototype"
        false = Text.dotted (renamed withoutPrototypes
          (Text.segments "prototype.x.prototype.y.prototype.FooEntityPrototype")) ↔
      ¬ [prototypeSegment, prototypeSegment] <:+: innerSegments
        (Text.segments "prototype.x.prototype.y.prototype.FooEntityPrototype")) := by
  have hd : ∀ d' ∈ some blankInterface,
      d'.strategy ≠ .implementation ∧ d'.explicitTarget = (none, none) := by
    rintro d' ⟨⟩
    decide
  exact ⟨hd, by rfl, generatedName_by_segments_iff hd _⟩

/-- Of two adjacent segments one stays. -/
theorem generatedName_keeps_prototype :
    generatedName none "a.prototype.prototype.FooPrototype" false = "a.prototype.Foo" ∧
      Text.dotted (renamed withoutPrototypes
        (Text.segments "a.prototype.prototype.FooPrototype")) = "a.Foo" := by
  refine ⟨by rfl, ?_⟩
  rw [← String.toList_inj]
  rfl

end PrototypeLens
