import PrototypeLens.Text.Case
import Mathlib.Data.List.Basic

/-!
# Capitals and their small letters

A letter is the small one of its capital unless the capital has several characters or is that of
another small letter too. The case tables have some thousands of letters in a few hundred runs: one
run of `upperRuns` is undone by one run of `lowerRuns`, and is looked at letter by letter where the
tables do not divide the letters alike.

## Layers

- Lengths: no letter is without a capital or a small letter, and a capitalized text is not shorter.
- `CaseRun.image`, `spans`, `undoes`: what one run does to its code points. A run that begins and
  ends inside another one when it is moved is inside it throughout (`CaseRun.covers_image`), so that
  a run is compared with another one by its two ends.
- Ascending lists of runs: the first run that covers a code point is the only one.
- The tables themselves, of which a few closed facts are evaluated: `lowerRuns_ascending`,
  `upperRuns_undone` and `lowerRuns_valid`.

## Main results

- `upper_cases`: a letter with a capital has one of several characters, or is moved by a run.
- `isSmall_of_isUndone`: a letter of a run that is undone is the small one of its capital.
- `isSmall_iff`: a letter with a capital is the small one of it exactly if it has a capital of its
  own.
-/

namespace PrototypeLens.Text

/-- A small letter: there is one capital for it, and it is the small letter of that capital. -/
def IsSmall (c : Char) : Prop := ∃ d, upper c = [d] ∧ isUppercase d = true ∧ lower d = [c]

/-- The letters whose capital has another small letter: the micro sign and other variants of Greek
letters, the dotless i, the long s with and without a dot above, the digraphs in title case, and
the variants of Cyrillic letters. -/
def sharedCapitals : List Nat :=
  [0xB5, 0x131, 0x17F, 0x1C5, 0x1C8, 0x1CB, 0x1F2, 0x345, 0x3C2, 0x3D0, 0x3D1, 0x3D5, 0x3D6, 0x3F0,
   0x3F1, 0x3F5, 0x1C80, 0x1C81, 0x1C82, 0x1C83, 0x1C84, 0x1C85, 0x1C86, 0x1C87, 0x1C88, 0x1E9B,
   0x1FBE]

/-- A letter with a capital of one character that is the capital of no other small letter. -/
def HasOwnCapital (c : Char) : Prop := (upper c).length = 1 ∧ c.toNat ∉ sharedCapitals

instance (c : Char) : Decidable (HasOwnCapital c) := inferInstanceAs (Decidable (_ ∧ _))

/-! ## Lengths -/

theorem upper_ne_nil (c : Char) : upper c ≠ [] := by
  have hforms : ∀ entry ∈ upperExpansions, entry.2 ≠ [] := by decide
  unfold upper
  split
  · rename_i n form hfound
    rw [Ne, List.map_eq_nil_iff]
    exact hforms _ (List.mem_of_find?_eq_some hfound)
  · exact List.cons_ne_nil _ _

theorem lower_ne_nil (c : Char) : lower c ≠ [] := by
  unfold lower
  split <;> exact List.cons_ne_nil _ _

theorem length_lower_le (c : Char) : (lower c).length ≤ 2 := by
  unfold lower
  split
  · exact Nat.le_refl 2
  · exact Nat.le_succ 1

theorem toList_capitalize {s : String} {c : Char} {rest : List Char} (hs : s.toList = c :: rest) :
    (capitalize s).toList = upper c ++ rest := by
  rw [capitalize, hs, String.toList_ofList]

theorem length_le_capitalize (s : String) : s.toList.length ≤ (capitalize s).toList.length := by
  cases hs : s.toList with
  | nil => exact Nat.zero_le _
  | cons c rest =>
    have hpos := List.length_pos_iff.2 (upper_ne_nil c)
    rw [toList_capitalize hs, List.length_append, List.length_cons]
    omega

/-! ## Runs -/

namespace CaseRun

variable {r s : CaseRun} {n first last step : Nat}

/-- What a run moves a code point to. -/
def image (r : CaseRun) (n : Nat) : Nat := ((n : Int) + r.shift).toNat

/-- Whether every `step`-th code point from `first` to `last` belongs to a run. -/
def spans (r : CaseRun) (first last step : Nat) : Bool :=
  r.covers first && r.covers last && step % r.step == 0

/-- Whether a run moves everything back that another one has moved. -/
def undoes (s r : CaseRun) : Bool :=
  s.spans (r.image r.first) (r.image r.last) r.step && s.shift == -r.shift &&
    decide (-r.shift ≤ r.first)

/-- The run of one code point that is moved as by another run. -/
def single (r : CaseRun) (n : Nat) : CaseRun := ⟨n, n, 0, r.shift⟩

theorem covers_iff :
    r.covers n = true ↔ r.first ≤ n ∧ n ≤ r.last ∧ (n - r.first) % r.step = 0 := by
  simp [covers, and_assoc]

theorem covers_single : (r.single n).covers n = true := by
  simp [covers_iff, single]

theorem covers_of_spans (h : r.spans first last step = true) (hfirst : first ≤ n) (hlast : n ≤ last)
    (hstep : (n - first) % step = 0) : r.covers n = true := by
  simp only [spans, Bool.and_eq_true, covers_iff, beq_iff_eq] at h
  -- The step of the other run divides the distance to the first of the code points and the distance
  -- from there.
  obtain ⟨⟨⟨hle, -, hmod⟩, -, hge, -⟩, hdvd⟩ := h
  refine covers_iff.2 ⟨Nat.le_trans hle hfirst, Nat.le_trans hlast hge, ?_⟩
  have hsum : n - r.first = (first - r.first) + (n - first) := by omega
  rw [hsum]
  exact Nat.mod_eq_zero_of_dvd (Nat.dvd_add (Nat.dvd_of_mod_eq_zero hmod)
    (Nat.dvd_trans (Nat.dvd_of_mod_eq_zero hdvd) (Nat.dvd_of_mod_eq_zero hstep)))

/-- A run that begins and ends inside another one when it is moved is inside it throughout. -/
theorem covers_image (h : s.spans (r.image r.first) (r.image r.last) r.step = true)
    (hshift : -r.shift ≤ r.first) (hn : r.covers n = true) : s.covers (r.image n) = true := by
  obtain ⟨hfirst, hlast, hmod⟩ := covers_iff.1 hn
  -- Moving keeps the order and the distances, since no code point of the run is moved below zero.
  have hle : r.image r.first ≤ r.image n := by
    simp only [image]
    omega
  have hge : r.image n ≤ r.image r.last := by
    simp only [image]
    omega
  have hsame : r.image n - r.image r.first = n - r.first := by
    simp only [image]
    omega
  exact covers_of_spans h hle hge (hsame ▸ hmod)

theorem image_image (hsame : s.shift = -r.shift) (hshift : -r.shift ≤ r.first)
    (hn : r.covers n = true) : s.image (r.image n) = n := by
  have hfirst := (covers_iff.1 hn).1
  simp only [image, hsame]
  omega

end CaseRun

/-! ## Lists of runs -/

/-- The first run that does not end before a code point: no other one of an ascending list can
cover it. -/
def runUpTo? (runs : List CaseRun) (n : Nat) : Option CaseRun :=
  runs.find? fun r => Nat.ble n r.last

theorem any_runUpTo? {runs : List CaseRun} {n : Nat} {p : CaseRun → Bool}
    (h : (runUpTo? runs n).any p = true) : ∃ r ∈ runs, p r = true := by
  obtain ⟨r, hr, hp⟩ := (Option.any_eq_true _ _).1 h
  exact ⟨r, List.mem_of_find?_eq_some hr, hp⟩

/-- A run that ends before another one begins. -/
def CaseRun.Before (r s : CaseRun) : Prop := r.last < s.first ∧ s.first ≤ s.last

instance (r s : CaseRun) : Decidable (r.Before s) := inferInstanceAs (Decidable (_ ∧ _))

instance : Trans CaseRun.Before CaseRun.Before CaseRun.Before where
  trans := by
    rintro r s t ⟨hrs, hs⟩ ⟨hst, ht⟩
    exact ⟨by omega, ht⟩

section Ascending

variable {runs : List CaseRun} {s : CaseRun} {n : Nat}

/-- The first run that covers a code point is the only one of an ascending list. -/
theorem find?_covers (h : runs.Pairwise CaseRun.Before) (hs : s ∈ runs) (hn : s.covers n = true) :
    runs.find? (·.covers n) = some s := by
  induction runs with
  | nil => exact absurd hs List.not_mem_nil
  | cons r runs ih =>
    -- The induction is on the list: a run before the one that covers the code point ends before
    -- that begins.
    obtain ⟨hr, hruns⟩ := List.pairwise_cons.1 h
    rcases List.mem_cons.1 hs with rfl | hs
    · exact List.find?_cons_of_pos hn
    · have hnot : ¬ r.covers n = true := by
        intro hcovers
        have hbefore := (hr s hs).1
        have hlast := (CaseRun.covers_iff.1 hcovers).2.1
        have hfirst := (CaseRun.covers_iff.1 hn).1
        omega
      rw [List.find?_cons, Bool.eq_false_iff.2 hnot]
      exact ih hruns hs

theorem mapByRuns_of_mem (h : runs.Pairwise CaseRun.Before) (hs : s ∈ runs)
    (hn : s.covers n = true) : mapByRuns runs n = s.image n := by
  rw [mapByRuns, find?_covers h hs hn]
  rfl

end Ascending

/-! ## Going back to the small letter -/

theorem lowerRuns_ascending : lowerRuns.Pairwise CaseRun.Before := by
  -- An ascending list is evaluated by its neighbours only; that any two runs are apart follows.
  have hchain : lowerRuns.IsChain CaseRun.Before := by decide +kernel
  exact hchain.pairwise

/-- The runs of capitals, which move nothing. -/
def capitalRuns : List CaseRun :=
  uppercaseRuns.map fun (first, last, step) => ⟨first, last, step, 0⟩

theorem isUppercase_iff {c : Char} :
    isUppercase c = true ↔ ∃ r ∈ capitalRuns, r.covers c.toNat = true := by
  simp [isUppercase, capitalRuns, CaseRun.covers]

/-- Whether what a run moves are capitals that one run of `lowerRuns` moves back. -/
def CaseRun.isUndone (r : CaseRun) : Bool :=
  (runUpTo? lowerRuns (r.image r.last)).any (·.undoes r) &&
    (runUpTo? capitalRuns (r.image r.last)).any
      (·.spans (r.image r.first) (r.image r.last) r.step)

/-- The code points of a run. -/
def CaseRun.points (r : CaseRun) : List Nat :=
  List.range' r.first ((r.last - r.first) / r.step + 1) r.step

/-- Every run of `upperRuns` is undone, or each of its letters is unless it shares its capital. -/
theorem upperRuns_undone : (upperRuns.all fun r => r.isUndone ||
    r.points.all fun n => sharedCapitals.contains n || (r.single n).isUndone) = true := by
  decide +kernel

/-- What `lowerRuns` moves are characters, and not the one whose lower case has two of them. -/
theorem lowerRuns_valid : ∀ s ∈ lowerRuns, s.covers 0x130 = false ∧
    (s.last < 0xD800 ∨ 0xDFFF < s.first ∧ s.last < 0x110000) := by
  decide +kernel

section Letters

variable {c : Char} {r : CaseRun}

theorem isSmall_of_isUndone (hr : r.isUndone = true) (hc : r.covers c.toNat = true)
    (hupper : upper c = [Char.ofNat (r.image c.toNat)]) : IsSmall c := by
  -- One run moves the letter back, and one run of capitals covers what it is moved to.
  obtain ⟨hlower, hcapital⟩ := Bool.and_eq_true_iff.1 hr
  obtain ⟨s, hs, hundoes⟩ := any_runUpTo? hlower
  obtain ⟨capitals, hcapitals, hspans⟩ := any_runUpTo? hcapital
  simp only [CaseRun.undoes, Bool.and_eq_true, beq_iff_eq, decide_eq_true_eq] at hundoes
  obtain ⟨⟨hback, hsame⟩, hshift⟩ := hundoes
  have hcovers := CaseRun.covers_image hback hshift hc
  obtain ⟨hdot, hvalid⟩ := lowerRuns_valid s hs
  obtain ⟨hfirst, hlast, -⟩ := CaseRun.covers_iff.1 hcovers
  have hcode : (Char.ofNat (r.image c.toNat)).toNat = r.image c.toNat := by
    -- Which is a character: the runs of small letters keep clear of the surrogates.
    have hchar : (r.image c.toNat).isValidChar := by
      simp only [Nat.isValidChar]
      omega
    rw [Char.ofNat, dif_pos hchar]
    rfl
  -- The capital with a dot has a lower case of two characters, and lies in no run.
  have hne : r.image c.toNat ≠ 0x130 := by
    intro h
    rw [h, hdot] at hcovers
    cases hcovers
  refine ⟨_, hupper, isUppercase_iff.2 ⟨capitals, hcapitals, ?_⟩, ?_⟩
  · rw [hcode]
    exact CaseRun.covers_image hspans hshift hc
  · rw [lower, hcode, if_neg hne, mapByRuns_of_mem lowerRuns_ascending hs hcovers,
      CaseRun.image_image hsame hshift hc, Char.ofNat_toNat]

theorem not_isSmall_of_mem (hc : c.toNat ∈ sharedCapitals) : ¬ IsSmall c := by
  -- The list is short enough to be evaluated: going to the capital and back ends at another letter.
  have hback : ∀ n ∈ sharedCapitals, (upper (Char.ofNat n)).flatMap lower ≠ [Char.ofNat n] := by
    decide +kernel
  rintro ⟨d, hupper, -, hlower⟩
  refine hback c.toNat hc ?_
  rw [Char.ofNat_toNat, hupper, List.flatMap_singleton, hlower]

/-- What has a capital has one of several characters or is moved by a run. -/
theorem upper_cases (hc : upper c ≠ [c]) : 1 < (upper c).length ∨
    ∃ r ∈ upperRuns, r.covers c.toNat = true ∧ upper c = [Char.ofNat (r.image c.toNat)] := by
  have hforms : ∀ entry ∈ upperExpansions, 1 < entry.2.length := by decide +kernel
  cases hform : upperExpansions.find? (·.1 == c.toNat) with
  | some entry =>
    -- A letter with a form of its own: all these forms have several characters.
    refine .inl ?_
    simp only [upper, hform, List.length_map]
    exact hforms entry (List.mem_of_find?_eq_some hform)
  | none =>
    refine .inr ?_
    have hupper : upper c = [Char.ofNat (mapByRuns upperRuns c.toNat)] := by
      simp only [upper, hform]
    cases hrun : upperRuns.find? (·.covers c.toNat) with
    | some r =>
      refine ⟨r, List.mem_of_find?_eq_some hrun, (List.find?_eq_some_iff_append.1 hrun).1, ?_⟩
      rw [hupper, mapByRuns, hrun]
      rfl
    | none =>
      -- Without a run the letter is its own capital.
      rw [hupper, mapByRuns, hrun, Char.ofNat_toNat] at hc
      exact absurd rfl hc

theorem mem_points {n : Nat} (hn : r.covers n = true) : n ∈ r.points := by
  obtain ⟨hfirst, hlast, hmod⟩ := CaseRun.covers_iff.1 hn
  refine List.mem_range'.2 ⟨(n - r.first) / r.step, ?_, ?_⟩
  · exact Nat.lt_succ_of_le (Nat.div_le_div_right (by omega))
  · have := Nat.mul_div_cancel' (Nat.dvd_of_mod_eq_zero hmod)
    omega

/-- A letter is the small one of its capital if this has one character and no other small
letter. -/
theorem isSmall_iff (hc : upper c ≠ [c]) : IsSmall c ↔ HasOwnCapital c := by
  constructor
  · intro hsmall
    refine ⟨?_, fun hmem => not_isSmall_of_mem hmem hsmall⟩
    obtain ⟨d, hupper, -⟩ := hsmall
    rw [hupper, List.length_singleton]
  · rintro ⟨hlength, hown⟩
    rcases upper_cases hc with hlong | ⟨r, hr, hcovers, hupper⟩
    · omega
    · -- The run is undone as a whole, or the letter is looked at alone.
      rcases Bool.or_eq_true_iff.1 (List.all_eq_true.1 upperRuns_undone r hr) with hrun | hpoints
      · exact isSmall_of_isUndone hrun hcovers hupper
      · have hpoint := List.all_eq_true.1 hpoints _ (mem_points hcovers)
        rcases Bool.or_eq_true_iff.1 hpoint with hshared | hsingle
        · exact absurd (List.contains_iff_mem.1 hshared) hown
        · exact isSmall_of_isUndone hsingle CaseRun.covers_single hupper

end Letters

end PrototypeLens.Text
