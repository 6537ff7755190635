/-
Blanks and the other classes of characters.

The blanks are finitely many, so what one class says of them can be looked up for each.  No blank
opens anything in SQL, goes on with a piece, is a digit, or stands in an identifier.

Main results:

* `of_isBlank` — what holds of the listed blanks holds of every blank;
* `strip_append_blanks`, `strip_blanks_append`, `exists_strip_eq` — blanks at the ends of a text;
* `words_intercalate` — words that are written with single spaces between them are read back.
-/

import Mathlib
import SqlContract.Text.Blank
import SqlContract.Text.Digit
import SqlContract.Text.Identifier

set_option autoImplicit false
set_option relaxedAutoImplicit false

namespace SqlContract.Text

/-! ### The blanks one by one -/

/-- The code points of the blanks. -/
def blankCodes : List Nat :=
  [0x09, 0x0A, 0x0B, 0x0C, 0x0D, 0x1C, 0x1D, 0x1E, 0x1F, 0x20, 0x85, 0xA0, 0x1680, 0x2000, 0x2001,
   0x2002, 0x2003, 0x2004, 0x2005, 0x2006, 0x2007, 0x2008, 0x2009, 0x200A, 0x2028, 0x2029, 0x202F,
   0x205F, 0x3000]

theorem toNat_mem_blankCodes {c : Char} (h : isBlank c = true) : c.toNat ∈ blankCodes := by
  simp only [isBlank, Bool.or_eq_true, Bool.and_eq_true, decide_eq_true_eq, beq_iff_eq] at h
  simp only [blankCodes, List.mem_cons, List.not_mem_nil, or_false]
  omega

/-- What holds of the listed blanks holds of every blank. -/
theorem of_isBlank {P : Char → Prop} (h : ∀ n ∈ blankCodes, P (Char.ofNat n)) {c : Char}
    (hc : isBlank c = true) : P c := by
  have hn := h c.toNat (toNat_mem_blankCodes hc)
  rwa [Char.ofNat_toNat] at hn

/-- The blanks are in none of the other classes. -/
theorem classes_of_isBlank {c : Char} (h : isBlank c = true) :
    isDigit c = false ∧ isIdentifierStart c = false ∧ isIdentifierContinue c = false :=
  of_isBlank (P := fun c => isDigit c = false ∧ isIdentifierStart c = false ∧
    isIdentifierContinue c = false) (by decide +kernel) h

theorem isDigit_of_isBlank {c : Char} (h : isBlank c = true) : isDigit c = false :=
  (classes_of_isBlank h).1

theorem isIdentifierStart_of_isBlank {c : Char} (h : isBlank c = true) :
    isIdentifierStart c = false :=
  (classes_of_isBlank h).2.1

theorem isIdentifierContinue_of_isBlank {c : Char} (h : isBlank c = true) :
    isIdentifierContinue c = false :=
  (classes_of_isBlank h).2.2

/-- An identifier is a word: it is not empty, and no blank stands in it. -/
theorem isBlank_of_mem_identifier {name : String} (h : isIdentifier name = true) {c : Char}
    (hc : c ∈ name.toList) : isBlank c = false := by
  simp only [isIdentifier, Bool.and_eq_true] at h
  have hform := h.1
  cases hn : name.toList with
  | nil => simp [hn] at hc
  | cons d ds =>
      rw [hn] at hc hform
      simp only [isIdentifierForm, Bool.and_eq_true, List.all_eq_true] at hform
      by_contra hb
      rw [Bool.not_eq_false] at hb
      rcases List.mem_cons.1 hc with rfl | hc
      · exact absurd hform.1 (by simp [isIdentifierStart_of_isBlank hb])
      · exact absurd (hform.2 c hc) (by simp [isIdentifierContinue_of_isBlank hb])

theorem identifier_ne_nil {name : String} (h : isIdentifier name = true) : name.toList ≠ [] := by
  intro hn
  simp [isIdentifier, isIdentifierForm, hn] at h

/-! ### Blanks at the ends of a text -/

/-- Texts of blanks only. -/
def AllBlank (s : List Char) : Prop :=
  ∀ c ∈ s, isBlank c = true

theorem AllBlank.append {s t : List Char} (hs : AllBlank s) (ht : AllBlank t) :
    AllBlank (s ++ t) := by
  intro c hc
  rcases List.mem_append.1 hc with hc | hc
  · exact hs c hc
  · exact ht c hc

theorem AllBlank.tail {c : Char} {s : List Char} (h : AllBlank (c :: s)) : AllBlank s :=
  fun d hd => h d (List.mem_cons_of_mem c hd)

theorem allBlank_takeWhile (s : List Char) : AllBlank (s.takeWhile isBlank) :=
  fun _ hc => List.mem_takeWhile_imp hc

theorem AllBlank.dropWhile {s : List Char} (h : AllBlank s) (p : Char → Bool) :
    AllBlank (s.dropWhile p) :=
  fun c hc => h c ((List.dropWhile_sublist p).subset hc)

theorem stripLeft_blanks_append {w : List Char} (h : AllBlank w) (s : List Char) :
    stripLeft (w ++ s) = stripLeft s :=
  List.dropWhile_append_of_pos h

theorem stripLeft_eq_nil_iff {s : List Char} : stripLeft s = [] ↔ AllBlank s :=
  List.dropWhile_eq_nil_iff

theorem stripRight_append_blanks (s : List Char) {w : List Char} (h : AllBlank w) :
    stripRight (s ++ w) = stripRight s := by
  unfold stripRight
  rw [List.reverse_append, List.dropWhile_append_of_pos]
  intro c hc
  exact h c (List.mem_reverse.1 hc)

/-- A text is its stripped form with blanks behind it. -/
theorem exists_stripRight_append (s : List Char) : ∃ w, AllBlank w ∧ s = stripRight s ++ w := by
  refine ⟨(s.reverse.takeWhile isBlank).reverse, ?_, ?_⟩
  · intro c hc
    exact allBlank_takeWhile s.reverse c (List.mem_reverse.1 hc)
  · unfold stripRight
    rw [← List.reverse_append, List.takeWhile_append_dropWhile, List.reverse_reverse]

/-- A text is its stripped form with blanks at both ends. -/
theorem exists_strip_eq (s : List Char) :
    ∃ v w, AllBlank v ∧ AllBlank w ∧ s = v ++ (strip s ++ w) := by
  obtain ⟨w, hw, he⟩ := exists_stripRight_append (stripLeft s)
  refine ⟨s.takeWhile isBlank, w, allBlank_takeWhile s, hw, ?_⟩
  unfold strip
  rw [← he]
  exact List.takeWhile_append_dropWhile.symm

/-- Where a text is not blank, what stands behind it stays. -/
theorem stripLeft_append {s : List Char} (h : ¬ AllBlank s) (t : List Char) :
    stripLeft (s ++ t) = stripLeft s ++ t := by
  have hne : (s.dropWhile isBlank).isEmpty = false := by
    rw [List.isEmpty_eq_false_iff]
    exact fun he => h (stripLeft_eq_nil_iff.1 he)
  unfold stripLeft
  rw [List.dropWhile_append, hne]
  rfl

theorem strip_append_blanks (s : List Char) {w : List Char} (h : AllBlank w) :
    strip (s ++ w) = strip s := by
  unfold strip
  by_cases hs : AllBlank s
  · rw [stripLeft_eq_nil_iff.2 (hs.append h), stripLeft_eq_nil_iff.2 hs]
  · rw [stripLeft_append hs, stripRight_append_blanks _ h]

theorem strip_blanks_append {w : List Char} (h : AllBlank w) (s : List Char) :
    strip (w ++ s) = strip s := by
  unfold strip
  rw [stripLeft_blanks_append h]

theorem strip_strip (s : List Char) : strip (strip s) = strip s := by
  obtain ⟨v, w, hv, hw, he⟩ := exists_strip_eq s
  calc strip (strip s)
      = strip (v ++ (strip s ++ w)) := by rw [strip_blanks_append hv, strip_append_blanks _ hw]
    _ = strip s := by rw [← he]

theorem strip_eq_nil_iff {s : List Char} : strip s = [] ↔ AllBlank s := by
  constructor
  · intro h
    obtain ⟨v, w, hv, hw, he⟩ := exists_strip_eq s
    rw [h, List.nil_append] at he
    rw [he]
    exact hv.append hw
  · intro h
    unfold strip
    rw [stripLeft_eq_nil_iff.2 h]
    rfl

theorem stripLeft_of_head? {s : List Char} (h : ∀ c ∈ s.head?, isBlank c = false) :
    stripLeft s = s := by
  cases s with
  | nil => rfl
  | cons c cs => simp [stripLeft, h c rfl]

theorem strip_prefix_stripLeft (s : List Char) : strip s <+: stripLeft s := by
  obtain ⟨w, -, he⟩ := exists_stripRight_append (stripLeft s)
  exact ⟨w, he.symm⟩

/-- A text that is stripped starts with no blank. -/
theorem isBlank_of_strip_eq_cons {c : Char} {cs : List Char} (h : strip (c :: cs) = c :: cs) :
    isBlank c = false := by
  have hle := (strip_prefix_stripLeft (c :: cs)).length_le
  by_contra hc
  rw [Bool.not_eq_false] at hc
  have hdrop : stripLeft (c :: cs) = stripLeft cs := List.dropWhile_cons_of_pos hc
  have hshort := (List.dropWhile_sublist (l := cs) isBlank).length_le
  rw [h, hdrop, List.length_cons] at hle
  exact absurd hle (by unfold stripLeft; omega)

/-- What a text starts with behind its leading blanks stays when its trailing blanks go as well,
unless it ends in a blank itself. -/
theorem prefix_strip {p s : List Char} (hp : ∀ c ∈ p.getLast?, isBlank c = false)
    (h : p <+: stripLeft s) : p <+: strip s := by
  obtain ⟨w, hw, he⟩ := exists_stripRight_append (stripLeft s)
  have hstrip := strip_prefix_stripLeft s
  rcases Nat.le_total p.length (strip s).length with hle | hle
  · exact List.prefix_of_prefix_length_le h hstrip hle
  · obtain ⟨y, rfl⟩ := List.prefix_of_prefix_length_le hstrip h hle
    obtain ⟨x, hx⟩ := h
    -- what goes beyond the stripped text belongs to the blanks behind it
    have hyx : y ++ x = w := by
      rw [he, List.append_assoc] at hx
      exact List.append_cancel_left hx
    cases hy : y.getLast? with
    | none =>
        rw [List.getLast?_eq_none_iff.1 hy, List.append_nil]
    | some c =>
        have hblank := hw c (hyx ▸ List.mem_append_left x (List.mem_of_getLast? hy))
        have hlast := hp c (by simp [List.getLast?_append, hy])
        rw [hblank] at hlast
        exact absurd hlast (by decide)

/-! ### Words -/

theorem mem_intercalate {s : List Char} {ls : List (List Char)} {c : Char}
    (h : c ∈ s.intercalate ls) : c ∈ s ∨ ∃ l ∈ ls, c ∈ l := by
  induction ls with
  | nil => exact absurd h List.not_mem_nil
  | cons l ls ih =>
      cases ls with
      | nil =>
          rw [List.intercalate_singleton] at h
          exact .inr ⟨l, List.mem_cons_self, h⟩
      | cons k ks =>
          rw [List.intercalate_cons_cons, List.mem_append, List.mem_append] at h
          rcases h with (h | h) | h
          · exact .inr ⟨l, List.mem_cons_self, h⟩
          · exact .inl h
          · rcases ih h with h | ⟨j, hj, h⟩
            · exact .inl h
            · exact .inr ⟨j, List.mem_cons_of_mem l hj, h⟩

/-- A word before a blank. -/
theorem words_append_blank {w : List Char} (hne : w ≠ []) (hw : ∀ c ∈ w, isBlank c = false)
    {b : Char} (hb : isBlank b = true) (s : List Char) :
    words (w ++ b :: s) = w :: words s := by
  induction w with
  | nil => exact absurd rfl hne
  | cons c w ih =>
      have hc := hw c List.mem_cons_self
      cases w with
      | nil => simp [words, hc, hb]
      | cons d w =>
          have hd := hw d (List.mem_cons_of_mem c List.mem_cons_self)
          have hrest := ih (List.cons_ne_nil d w) fun e he => hw e (List.mem_cons_of_mem c he)
          rw [List.cons_append] at hrest ⊢
          rw [List.cons_append, words.eq_def]
          simp only [hc, hd, Bool.false_eq_true, if_false, hrest, consHead]

/-- A word at the end of a text. -/
theorem words_of_word {w : List Char} (hne : w ≠ []) (hw : ∀ c ∈ w, isBlank c = false) :
    words w = [w] := by
  induction w with
  | nil => exact absurd rfl hne
  | cons c w ih =>
      have hc := hw c List.mem_cons_self
      cases w with
      | nil => simp [words, hc]
      | cons d w =>
          have hd := hw d (List.mem_cons_of_mem c List.mem_cons_self)
          have hrest := ih (List.cons_ne_nil d w) fun e he => hw e (List.mem_cons_of_mem c he)
          rw [words.eq_def]
          simp only [hc, hd, Bool.false_eq_true, if_false, hrest, consHead]

/-- **Words that are written with single spaces between them are read back.** -/
theorem words_intercalate {ws : List (List Char)}
    (h : ∀ w ∈ ws, w ≠ [] ∧ ∀ c ∈ w, isBlank c = false) : words ([' '].intercalate ws) = ws := by
  induction ws with
  | nil => rfl
  | cons w ws ih =>
      obtain ⟨hne, hw⟩ := h w List.mem_cons_self
      have hrest := ih fun v hv => h v (List.mem_cons_of_mem w hv)
      cases ws with
      | nil => simpa [List.intercalate] using words_of_word hne hw
      | cons v ws =>
          have hcut : [' '].intercalate (w :: v :: ws) = w ++ ' ' :: [' '].intercalate (v :: ws) := by
            simp [List.intercalate]
          rw [hcut, words_append_blank hne hw (by decide), hrest]

/-- The first word of a text, with the blanks before it. -/
theorem exists_of_words_eq_cons {s w : List Char} {ws : List (List Char)} (h : words s = w :: ws) :
    ∃ u t, AllBlank u ∧ w ≠ [] ∧ (∀ c ∈ w, isBlank c = false) ∧ s = u ++ (w ++ t) ∧ words t = ws := by
  induction s generalizing w ws with
  | nil => simp [words] at h
  | cons c cs ih =>
      by_cases hc : isBlank c = true
      · rw [words.eq_def] at h
        simp only [hc, if_true] at h
        obtain ⟨u, t, hu, hne, hw, rfl, ht⟩ := ih h
        refine ⟨c :: u, t, ?_, hne, hw, rfl, ht⟩
        intro d hd
        rcases List.mem_cons.1 hd with rfl | hd
        · exact hc
        · exact hu d hd
      · have hc : isBlank c = false := by simpa using hc
        rw [words.eq_def] at h
        simp only [hc, Bool.false_eq_true, if_false] at h
        have hone : ∀ d ∈ [c], isBlank d = false := by simpa using hc
        cases cs with
        | nil =>
            cases h
            exact ⟨[], [], by simp [AllBlank], by simp, hone, rfl, rfl⟩
        | cons d ds =>
            dsimp only at h
            by_cases hd : isBlank d = true
            · rw [if_pos hd] at h
              cases h
              exact ⟨[], d :: ds, by simp [AllBlank], by simp, hone, rfl, rfl⟩
            · rw [if_neg hd] at h
              cases hrest : words (d :: ds) with
              | nil =>
                  rw [hrest] at h
                  cases h
                  exact ⟨[], d :: ds, by simp [AllBlank], by simp, hone, rfl, hrest⟩
              | cons v vs =>
                  rw [hrest] at h
                  cases h
                  obtain ⟨u, t, hu, -, hv, he, ht⟩ := ih hrest
                  -- the next character is no blank, so the word goes on with it
                  cases u with
                  | nil =>
                      refine ⟨[], t, hu, by simp, ?_, by rw [he]; rfl, ht⟩
                      intro e hmem
                      rcases List.mem_cons.1 hmem with rfl | hmem
                      · exact hc
                      · exact hv e hmem
                  | cons b u =>
                      rw [List.cons_append, List.cons.injEq] at he
                      exact absurd (he.1 ▸ hu b List.mem_cons_self) hd

theorem allBlank_of_words_eq_nil {s : List Char} (h : words s = []) : AllBlank s := by
  induction s with
  | nil => simp [AllBlank]
  | cons c cs ih =>
      by_cases hc : isBlank c = true
      · rw [words.eq_def] at h
        simp only [hc, if_true] at h
        intro d hd
        rcases List.mem_cons.1 hd with rfl | hd
        · exact hc
        · exact ih h d hd
      · rw [words.eq_def] at h
        simp only [hc, Bool.false_eq_true, if_false] at h
        cases cs with
        | nil => cases h
        | cons d ds =>
            dsimp only at h
            by_cases hd : isBlank d = true
            · rw [if_pos hd] at h
              cases h
            · rw [if_neg hd] at h
              cases hrest : words (d :: ds) with
              | nil =>
                  rw [hrest] at h
                  cases h
              | cons v vs =>
                  rw [hrest] at h
                  cases h

end SqlContract.Text
