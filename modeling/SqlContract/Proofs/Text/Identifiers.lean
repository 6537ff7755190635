/-
Letter case and identifiers.

The case mappings move letters to letters, and what may not stand in an identifier to what may not
either.  One character is apart: the iota below a letter follows in an identifier and cannot open one,
and its capital opens one.  So a text is an identifier in either case, or in neither, but for a text
that this character opens.

Main definitions:

* `within`, `beside` — ranges that hold a stretch of code points, and ranges with none of it;
* `Maps` — what a case mapping makes of a character, as far as identifiers are concerned.

Main results:

* `maps_lowerChar`, `maps_upperChar` — **the case mappings keep the classes of characters**;
* `isIdentifierForm_lower` — a text is an identifier exactly if it is one in lower case;
* `isIdentifierForm_upper` — an identifier is one in upper case, too;
* `Maps.isIdentifierForm_upper` — the capitals of a character and of its image are identifiers alike.
-/

import Mathlib
import SqlContract.Proofs.Text.Case
import SqlContract.Text.Identifier

set_option autoImplicit false
set_option relaxedAutoImplicit false

namespace SqlContract.Text

/-! ### Ranges -/

/-- Whether one of some ranges holds all code points of a stretch. -/
def within (ranges : List (Nat × Nat)) (first last : Nat) : Bool :=
  ranges.any fun r => Nat.ble r.1 first && Nat.ble last r.2

/-- Whether none of some ranges holds a code point of a stretch. -/
def beside (ranges : List (Nat × Nat)) (first last : Nat) : Bool :=
  ranges.all fun r => Nat.blt last r.1 || Nat.blt r.2 first

/-- Whether each range lies in one of some others, where both are listed in order. -/
def coveredBy : List (Nat × Nat) → List (Nat × Nat) → Bool
  | [], _ => true
  | r :: rs, others =>
      match others.dropWhile fun s => Nat.blt s.2 r.1 with
      | [] => false
      | s :: behind => Nat.ble s.1 r.1 && Nat.ble r.2 s.2 && coveredBy rs (s :: behind)

section

variable {ranges others : List (Nat × Nat)} {first last n : Nat}

theorem within_eq_true_iff :
    within ranges first last = true ↔ ∃ r ∈ ranges, r.1 ≤ first ∧ last ≤ r.2 := by
  simp [within, Nat.ble_eq]

theorem within_of_within (h : within ranges first last = true) (hfirst : first ≤ n) (hlast : n ≤ last) :
    within ranges n n = true := by
  obtain ⟨r, hr, hle, hge⟩ := within_eq_true_iff.1 h
  exact within_eq_true_iff.2 ⟨r, hr, hle.trans hfirst, hlast.trans hge⟩

theorem within_of_beside (h : beside ranges first last = true) (hfirst : first ≤ n) (hlast : n ≤ last) :
    within ranges n n = false := by
  refine Bool.eq_false_iff.2 fun hwithin => ?_
  obtain ⟨r, hr, hle, hge⟩ := within_eq_true_iff.1 hwithin
  have hout := List.all_eq_true.1 h r hr
  simp only [Bool.or_eq_true, Nat.blt_eq] at hout
  omega

theorem within_of_coveredBy (h : coveredBy ranges others = true)
    (hwithin : within ranges first last = true) : within others first last = true := by
  rw [within_eq_true_iff] at hwithin
  obtain ⟨r, hr, hle, hge⟩ := hwithin
  induction ranges generalizing others with
  | nil => simp at hr
  | cons q ranges ih =>
      rw [coveredBy] at h
      split at h
      · cases h
      · rename_i s behind hbehind
        simp only [Bool.and_eq_true, Nat.ble_eq] at h
        have hsub : s :: behind ⊆ others := hbehind ▸ (List.dropWhile_sublist _).subset
        rcases List.mem_cons.1 hr with rfl | hr
        · exact within_eq_true_iff.2 ⟨s, hsub List.mem_cons_self, by omega, by omega⟩
        · obtain ⟨t, ht, hbounds⟩ := within_eq_true_iff.1 (ih h.2 hr)
          exact within_eq_true_iff.2 ⟨t, hsub ht, hbounds⟩

/-- A class of characters that is told by ranges, with ranges of its own for those of ASCII. -/
theorem ite_eq_within (ascii : Char → Bool) {small table : List (Nat × Nat)}
    (hascii : ∀ n < 0x80, ascii (Char.ofNat n) = within small n n)
    (hsmall : ∀ r ∈ small, r.2 < 0x80) (htable : beside table 0 0x7F = true) (c : Char) :
    (if c.toNat < 0x80 then ascii c else inRanges table c) =
      within (small ++ table) c.toNat c.toNat := by
  have happend : within (small ++ table) c.toNat c.toNat =
      (within small c.toNat c.toNat || within table c.toNat c.toNat) := List.any_append
  rw [happend]
  split_ifs with hc
  · have hchar := hascii c.toNat hc
    rw [Char.ofNat_toNat] at hchar
    rw [hchar, within_of_beside htable (Nat.zero_le _) (by omega), Bool.or_false]
  · have hout : within small c.toNat c.toNat = false := by
      refine Bool.eq_false_iff.2 fun hwithin => ?_
      obtain ⟨r, hr, -, hge⟩ := within_eq_true_iff.1 hwithin
      have hlt := hsmall r hr
      omega
    rw [hout, Bool.false_or]
    unfold inRanges within
    congr 1
    funext r
    rw [Bool.eq_iff_iff]
    simp [Nat.ble_eq]

end

/-! ### Characters of identifiers -/

/-- The code points that may open an identifier. -/
def startRanges : List (Nat × Nat) :=
  [(0x41, 0x5A), (0x5F, 0x5F), (0x61, 0x7A)] ++ Table.identifierStartRanges

/-- The code points that may follow in an identifier. -/
def continueRanges : List (Nat × Nat) :=
  [(0x30, 0x39), (0x41, 0x5A), (0x5F, 0x5F), (0x61, 0x7A)] ++ Table.identifierContinueRanges

/-- The code point that a run moves another to. -/
def Table.CaseRun.moved (r : Table.CaseRun) (n : Nat) : Nat :=
  ((n : Int) + r.distance).toNat

/-- The code points of a run. -/
def Table.CaseRun.points (r : Table.CaseRun) : List Nat :=
  (List.range ((r.last - r.first) / r.step + 1)).map fun k => r.first + k * r.step

/-- Whether a run moves letters to letters, or what may not stand in an identifier to what may not
either.  This is told from whole stretches, since these are few, or else from each code point. -/
def Table.CaseRun.fits (r : Table.CaseRun) : Bool :=
  (within startRanges r.first r.last && within startRanges (r.moved r.first) (r.moved r.last)) ||
    (beside continueRanges r.first r.last &&
      beside continueRanges (r.moved r.first) (r.moved r.last)) ||
    r.points.all fun n => within startRanges n n && within startRanges (r.moved n) (r.moved n)

/-- Whether a letter expands to an identifier. -/
def expands (e : Nat × List Nat) : Bool :=
  within startRanges e.1 e.1 && (e.2.head?.any fun n => within startRanges n n) &&
    e.2.tail.all fun n => within continueRanges n n

/-- The iota below a letter. -/
def lowIota : Char :=
  '\u0345'

/-- What the tables say, looked up once. -/
structure TablesFit : Prop where
  /-- The tables of classes begin behind ASCII. -/
  start_beside : beside Table.identifierStartRanges 0 0x7F = true
  continue_beside : beside Table.identifierContinueRanges 0 0x7F = true
  covered : coveredBy startRanges continueRanges = true
  /-- Their code points are characters. -/
  gap : beside continueRanges 0xD800 0xDFFF = true
  valid : coveredBy continueRanges [(0, 0x10FFFF)] = true
  lowerRuns : Table.lowerRuns.all (·.fits) = true
  /-- The iota below a letter is the one character that is apart. -/
  upperRuns : Table.upperRuns.all (fun r => (r.first == 0x345 && r.last == 0x345) || r.fits) = true
  lowerExpansions : Table.lowerExpansions.all expands = true
  upperExpansions : Table.upperExpansions.all expands = true
  iota : isIdentifierStart lowIota = false ∧ isIdentifierContinue lowIota = true ∧
    isIdentifierForm (upperChar lowIota) = true

theorem tablesFit : TablesFit := by
  constructor <;> decide +kernel

/-- What the classes and the case mappings say of ASCII. -/
theorem classes_of_ascii : ∀ n < 0x80,
    ((Char.ofNat n).isAlpha || Char.ofNat n == '_') =
        within [(0x41, 0x5A), (0x5F, 0x5F), (0x61, 0x7A)] n n ∧
      ((Char.ofNat n).isAlphanum || Char.ofNat n == '_') =
        within [(0x30, 0x39), (0x41, 0x5A), (0x5F, 0x5F), (0x61, 0x7A)] n n ∧
      ((Char.ofNat n).toLower = Char.ofNat n ∨ isIdentifierStart (Char.ofNat n) = true ∧
        isIdentifierStart (Char.ofNat n).toLower = true) ∧
      ((Char.ofNat n).toUpper = Char.ofNat n ∨ isIdentifierStart (Char.ofNat n) = true ∧
        isIdentifierStart (Char.ofNat n).toUpper = true) := by
  decide +kernel

theorem isIdentifierStart_eq (c : Char) :
    isIdentifierStart c = within startRanges c.toNat c.toNat :=
  ite_eq_within (fun c => c.isAlpha || c == '_') (fun n hn => (classes_of_ascii n hn).1) (by decide)
    tablesFit.start_beside c

theorem isIdentifierContinue_eq (c : Char) :
    isIdentifierContinue c = within continueRanges c.toNat c.toNat :=
  ite_eq_within (fun c => c.isAlphanum || c == '_') (fun n hn => (classes_of_ascii n hn).2.1)
    (by decide) tablesFit.continue_beside c

/-- What may open an identifier may follow in one. -/
theorem isIdentifierContinue_of_isIdentifierStart {c : Char} (h : isIdentifierStart c = true) :
    isIdentifierContinue c = true := by
  rw [isIdentifierStart_eq] at h
  rw [isIdentifierContinue_eq]
  exact within_of_coveredBy tablesFit.covered h

theorem isIdentifierStart_of_not_isIdentifierContinue {c : Char}
    (h : isIdentifierContinue c = false) : isIdentifierStart c = false := by
  refine Bool.eq_false_iff.2 fun hstart => ?_
  rw [isIdentifierContinue_of_isIdentifierStart hstart] at h
  cases h

/-- Code points of the ranges are characters, and so is their class that of the characters. -/
theorem isIdentifierContinue_ofNat (n : Nat) :
    isIdentifierContinue (Char.ofNat n) = within continueRanges n n := by
  rw [isIdentifierContinue_eq]
  by_cases hn : n.isValidChar
  · rw [Char.toNat_ofNat n, if_pos hn]
  · -- what is no character stands for the null character, and lies in no range
    have hnull : Char.ofNat n = Char.ofNat 0 := by
      rw [Char.ofNat, dif_neg hn]
      rfl
    have hout : within continueRanges n n = false := by
      by_cases hgap : 0xD800 ≤ n ∧ n ≤ 0xDFFF
      · exact within_of_beside tablesFit.gap hgap.1 hgap.2
      · refine Bool.eq_false_iff.2 fun hwithin => hn ?_
        obtain ⟨r, hr, -, hle⟩ := within_eq_true_iff.1 (within_of_coveredBy tablesFit.valid hwithin)
        rw [List.mem_singleton.1 hr] at hle
        unfold Nat.isValidChar
        omega
    rw [hnull, hout, ← isIdentifierContinue_eq]
    rfl

theorem isIdentifierStart_ofNat {n : Nat} (h : within startRanges n n = true) :
    isIdentifierStart (Char.ofNat n) = true := by
  have hvalid : n.isValidChar := by
    by_contra hn
    have hcontinue := isIdentifierContinue_ofNat n
    rw [within_of_coveredBy tablesFit.covered h, Char.ofNat, dif_neg hn] at hcontinue
    revert hcontinue
    decide
  rw [isIdentifierStart_eq, Char.toNat_ofNat n, if_pos hvalid]
  exact h

/-! ### Forms of identifiers -/

section

variable {a b : List Char} {c : Char}

theorem isIdentifierForm_append (ha : a ≠ []) :
    isIdentifierForm (a ++ b) = (isIdentifierForm a && b.all isIdentifierContinue) := by
  cases a with
  | nil => exact absurd rfl ha
  | cons c a => simp [isIdentifierForm, Bool.and_assoc]

theorem all_isIdentifierContinue_of_isIdentifierForm (h : isIdentifierForm a = true) :
    a.all isIdentifierContinue = true := by
  cases a with
  | nil => rfl
  | cons c a =>
      rw [isIdentifierForm, Bool.and_eq_true] at h
      rw [List.all_cons, h.2, isIdentifierContinue_of_isIdentifierStart h.1]
      rfl

theorem isIdentifierForm_singleton (c : Char) : isIdentifierForm [c] = isIdentifierStart c := by
  simp [isIdentifierForm]

end

/-! ### What the case mappings make of a character -/

/-- What a case mapping makes of a character, as far as identifiers are concerned. -/
inductive Maps (c : Char) : List Char → Prop
  /-- The character stays as it is. -/
  | same : Maps c [c]
  /-- A character that may open an identifier becomes one. -/
  | letter {image : List Char} : isIdentifierStart c = true → isIdentifierForm image = true →
      Maps c image
  /-- A character that may not stand in an identifier becomes one that may not either. -/
  | other {d : Char} : isIdentifierContinue c = false → isIdentifierContinue d = false → Maps c [d]

namespace Maps

variable {c : Char} {image : List Char}

theorem ne_nil (h : Maps c image) : image ≠ [] := by
  cases h with
  | same => simp
  | letter _ hform =>
      rintro rfl
      cases hform
  | other => simp

theorem all_isIdentifierContinue (h : Maps c image) :
    image.all isIdentifierContinue = isIdentifierContinue c := by
  cases h with
  | same => simp
  | letter hstart hform =>
      rw [all_isIdentifierContinue_of_isIdentifierForm hform,
        isIdentifierContinue_of_isIdentifierStart hstart]
  | other hc hd => simp [hc, hd]

theorem isIdentifierForm_eq (h : Maps c image) : isIdentifierForm image = isIdentifierStart c := by
  cases h with
  | same => exact isIdentifierForm_singleton c
  | letter hstart hform => rw [hstart, hform]
  | other hc hd =>
      rw [isIdentifierForm_singleton, isIdentifierStart_of_not_isIdentifierContinue hc,
        isIdentifierStart_of_not_isIdentifierContinue hd]

end Maps

/-! ### What the tables make of a character -/

/-- What a run that fits moves. -/
theorem maps_of_fits {r : Table.CaseRun} {c : Char} (h : r.fits = true) (hfirst : r.first ≤ c.toNat)
    (hlast : c.toNat ≤ r.last) (hstep : (c.toNat - r.first) % r.step = 0) :
    Maps c [Char.ofNat (r.moved c.toNat)] := by
  have hletter : within startRanges c.toNat c.toNat = true →
      within startRanges (r.moved c.toNat) (r.moved c.toNat) = true →
      Maps c [Char.ofNat (r.moved c.toNat)] := by
    intro hc hd
    refine .letter ((isIdentifierStart_eq c).trans hc) ?_
    rw [isIdentifierForm_singleton]
    exact isIdentifierStart_ofNat hd
  have hmoved : r.moved r.first ≤ r.moved c.toNat ∧ r.moved c.toNat ≤ r.moved r.last := by
    unfold Table.CaseRun.moved
    omega
  simp only [Table.CaseRun.fits, Bool.or_eq_true, Bool.and_eq_true] at h
  rcases h with (⟨hc, hd⟩ | ⟨hc, hd⟩) | hpoints
  · exact hletter (within_of_within hc hfirst hlast) (within_of_within hd hmoved.1 hmoved.2)
  · refine .other ?_ ?_
    · rw [isIdentifierContinue_eq]
      exact within_of_beside hc hfirst hlast
    · rw [isIdentifierContinue_ofNat]
      exact within_of_beside hd hmoved.1 hmoved.2
  · have hmem : c.toNat ∈ r.points := by
      refine List.mem_map.2 ⟨(c.toNat - r.first) / r.step, List.mem_range.2 ?_, ?_⟩
      · exact Nat.lt_succ_of_le (Nat.div_le_div_right (by omega))
      · rw [Nat.div_mul_cancel (Nat.dvd_of_mod_eq_zero hstep)]
        omega
    have hpoint := List.all_eq_true.1 hpoints _ hmem
    rw [Bool.and_eq_true] at hpoint
    exact hletter hpoint.1 hpoint.2

/-- A mapping by tables that fit keeps the classes of characters. -/
theorem maps_mapCase {expansions : List (Nat × List Nat)} {runs : List Table.CaseRun} {c : Char}
    (hexpansions : expansions.all expands = true)
    (hruns : ∀ r ∈ runs, r.first ≤ c.toNat → c.toNat ≤ r.last → r.fits = true) :
    Maps c (mapCase expansions runs c) := by
  unfold mapCase
  split
  · rename_i image himage
    obtain ⟨before, behind, rfl, -⟩ := List.lookup_eq_some_iff.1 himage
    have hentry := List.all_eq_true.1 hexpansions (c.toNat, image) (by simp)
    simp only [expands, Bool.and_eq_true] at hentry
    obtain ⟨⟨hc, hhead⟩, htail⟩ := hentry
    cases image with
    | nil => cases hhead
    | cons n image =>
        refine .letter ((isIdentifierStart_eq c).trans hc) ?_
        have hrest : (image.map Char.ofNat).all isIdentifierContinue = true := by
          refine List.all_eq_true.2 fun d hd => ?_
          obtain ⟨m, hm, rfl⟩ := List.mem_map.1 hd
          rw [isIdentifierContinue_ofNat]
          exact List.all_eq_true.1 htail m hm
        rw [List.map_cons, isIdentifierForm, isIdentifierStart_ofNat hhead, hrest]
        rfl
  · split
    · rename_i m hm
      obtain ⟨r, hr, rfl⟩ := Option.map_eq_some_iff.1 hm
      have hrange := List.find?_some hr
      simp only [Bool.and_eq_true, decide_eq_true_eq, beq_iff_eq] at hrange
      exact maps_of_fits (hruns r (List.mem_of_find?_eq_some hr) hrange.1.1 hrange.1.2) hrange.1.1
        hrange.1.2 hrange.2
    · exact .same

/-! ### Lower case and upper case -/

/-- What holds of the classes of all ASCII characters and their images. -/
theorem maps_of_ascii {f : Char → Char} {c : Char}
    (h : ∀ n < 0x80, f (Char.ofNat n) = Char.ofNat n ∨
      isIdentifierStart (Char.ofNat n) = true ∧ isIdentifierStart (f (Char.ofNat n)) = true)
    (hc : c.toNat < 0x80) : Maps c [f c] := by
  refine of_ascii (P := fun c => Maps c [f c]) (fun n hn => ?_) hc
  rcases h n hn with hsame | ⟨hstart, himage⟩
  · rw [hsame]
    exact .same
  · exact .letter hstart ((isIdentifierForm_singleton _).trans himage)

/-- **Lower case keeps the classes of characters.** -/
theorem maps_lowerChar (c : Char) : Maps c (lowerChar c) := by
  unfold lowerChar
  split_ifs with hascii
  · exact maps_of_ascii (fun n hn => (classes_of_ascii n hn).2.2.1) hascii
  · exact maps_mapCase tablesFit.lowerExpansions fun r hr _ _ =>
      List.all_eq_true.1 tablesFit.lowerRuns r hr

/-- **Upper case keeps the classes of characters**, that of the iota below a letter apart. -/
theorem maps_upperChar {c : Char} (hc : c ≠ lowIota) : Maps c (upperChar c) := by
  unfold upperChar
  split_ifs with hascii
  · exact maps_of_ascii (fun n hn => (classes_of_ascii n hn).2.2.2) hascii
  · refine maps_mapCase tablesFit.upperExpansions fun r hr hfirst hlast => ?_
    have hfits := List.all_eq_true.1 tablesFit.upperRuns r hr
    simp only [Bool.or_eq_true, Bool.and_eq_true, beq_iff_eq] at hfits
    refine hfits.resolve_left fun hiota => hc ?_
    have hcode : c.toNat = 0x345 := by omega
    rw [← Char.ofNat_toNat c, hcode]
    rfl

/-- What becomes of the first character of a text in lower case, the sigma included.  An underscore
stays, and no other character becomes one. -/
theorem exists_lowerFrom_cons (afterCased : Bool) (c : Char) (cs : List Char) :
    ∃ image next, lowerFrom afterCased (c :: cs) = image ++ lowerFrom next cs ∧ Maps c image ∧
      (c = '_' ∧ image = ['_'] ∨ c ≠ '_' ∧ '_' ∉ image) := by
  rw [lowerFrom]
  refine ⟨_, _, rfl, ?_⟩
  split_ifs with hsigma
  · rw [hsigma]
    exact ⟨.letter rfl rfl, .inr (by decide)⟩
  · rw [hsigma]
    exact ⟨.letter rfl rfl, .inr (by decide)⟩
  · refine ⟨maps_lowerChar c, ?_⟩
    by_cases hc : c = '_'
    · rw [hc]
      exact .inl ⟨rfl, rfl⟩
    · exact .inr ⟨hc, not_mem_lowerChar hc⟩

theorem all_isIdentifierContinue_lowerFrom (afterCased : Bool) (s : List Char) :
    (lowerFrom afterCased s).all isIdentifierContinue = s.all isIdentifierContinue := by
  induction s generalizing afterCased with
  | nil => rfl
  | cons c cs ih =>
      obtain ⟨image, next, hlower, hmaps, -⟩ := exists_lowerFrom_cons afterCased c cs
      rw [hlower, List.all_append, hmaps.all_isIdentifierContinue, ih, List.all_cons]

/-- **A text is an identifier exactly if it is one in lower case.** -/
theorem isIdentifierForm_lower (s : List Char) : isIdentifierForm (lower s) = isIdentifierForm s := by
  unfold lower
  cases s with
  | nil => rfl
  | cons c cs =>
      obtain ⟨image, next, hlower, hmaps, -⟩ := exists_lowerFrom_cons false c cs
      rw [hlower, isIdentifierForm_append hmaps.ne_nil, hmaps.isIdentifierForm_eq,
        all_isIdentifierContinue_lowerFrom, isIdentifierForm]

theorem upperChar_ne_nil (c : Char) : upperChar c ≠ [] := by
  by_cases hc : c = lowIota
  · intro hnil
    have hform := tablesFit.iota.2.2
    rw [← hc, hnil] at hform
    cases hform
  · exact (maps_upperChar hc).ne_nil

theorem all_isIdentifierContinue_upperChar (c : Char) :
    (upperChar c).all isIdentifierContinue = isIdentifierContinue c := by
  by_cases hc : c = lowIota
  · rw [hc, all_isIdentifierContinue_of_isIdentifierForm tablesFit.iota.2.2, tablesFit.iota.2.1]
  · exact (maps_upperChar hc).all_isIdentifierContinue

theorem all_isIdentifierContinue_upper (s : List Char) :
    (upper s).all isIdentifierContinue = s.all isIdentifierContinue := by
  induction s with
  | nil => rfl
  | cons c cs ih =>
      have hupper : upper (c :: cs) = upperChar c ++ upper cs := rfl
      rw [hupper, List.all_append, all_isIdentifierContinue_upperChar, ih, List.all_cons]

/-- Only the first character tells whether a text in upper case is an identifier, where the others may
follow in one. -/
theorem isIdentifierForm_upper_cons (c : Char) (cs : List Char) :
    isIdentifierForm (upper (c :: cs)) =
      (isIdentifierForm (upperChar c) && cs.all isIdentifierContinue) := by
  have hupper : upper (c :: cs) = upperChar c ++ upper cs := rfl
  rw [hupper, isIdentifierForm_append (upperChar_ne_nil c), all_isIdentifierContinue_upper]

theorem isIdentifierForm_upperChar_of_isIdentifierStart {c : Char} (h : isIdentifierStart c = true) :
    isIdentifierForm (upperChar c) = true := by
  have hc : c ≠ lowIota := by
    rintro rfl
    rw [tablesFit.iota.1] at h
    cases h
  rw [(maps_upperChar hc).isIdentifierForm_eq, h]

theorem isIdentifierForm_upperChar_of_not_isIdentifierContinue {c : Char}
    (h : isIdentifierContinue c = false) : isIdentifierForm (upperChar c) = false := by
  refine Bool.eq_false_iff.2 fun hform => ?_
  have hall := all_isIdentifierContinue_of_isIdentifierForm hform
  rw [all_isIdentifierContinue_upperChar, h] at hall
  cases hall

/-- **An identifier is one in upper case, too.** -/
theorem isIdentifierForm_upper {s : List Char} (h : isIdentifierForm s = true) :
    isIdentifierForm (upper s) = true := by
  cases s with
  | nil => cases h
  | cons c cs =>
      rw [isIdentifierForm, Bool.and_eq_true] at h
      rw [isIdentifierForm_upper_cons, isIdentifierForm_upperChar_of_isIdentifierStart h.1, h.2]
      rfl

/-- The capitals of a character and of its image are identifiers alike. -/
theorem Maps.isIdentifierForm_upper {c : Char} {image : List Char} (h : Maps c image) :
    isIdentifierForm (upper image) = isIdentifierForm (upperChar c) := by
  cases h with
  | same => simp [upper]
  | letter hstart hform =>
      rw [Text.isIdentifierForm_upper hform, isIdentifierForm_upperChar_of_isIdentifierStart hstart]
  | @other d hc hd =>
      have hupper : upper [d] = upperChar d := by simp [upper]
      rw [hupper, isIdentifierForm_upperChar_of_not_isIdentifierContinue hc,
        isIdentifierForm_upperChar_of_not_isIdentifierContinue hd]

end SqlContract.Text
