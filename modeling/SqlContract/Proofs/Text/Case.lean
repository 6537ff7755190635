/-
Letter case and the capitals of ASCII.

The mapping to lower case goes by tables that list what becomes of every character.  None of their
images is one of the capitals from A to Z or the underscore, and so a text in lower case has none of
these capitals, and no underscore that was not there before.

Main results:

* `cases_of_mem_lowerChar` — what the tables make of a character;
* `isUpper_of_mem_lower` — **a text in lower case has no capital of ASCII**;
* `lowerFrom_map_toLower` — a text has the lower case of its small form of ASCII.
-/

import Mathlib
import SqlContract.Text.Case

set_option autoImplicit false
set_option relaxedAutoImplicit false

namespace SqlContract.Text

/-! ### Capitals -/

/-- The capitals of ASCII end with the `Z`. -/
theorem isUpper_of_lt {c : Char} (h : 'Z'.toNat < c.toNat) : c.isUpper = false := by
  have hz : ¬ c.val ≤ 'Z'.val := fun hle => Nat.not_le.2 h (UInt32.le_iff_toNat_le.1 hle)
  unfold Char.isUpper
  exact decide_eq_false fun hupper => hz hupper.2

theorem isUpper_ofNat {n : Nat} (h : 'Z'.toNat < n) : (Char.ofNat n).isUpper = false := by
  by_cases hn : n.isValidChar
  · refine isUpper_of_lt ?_
    rwa [Char.toNat_ofNat n, if_pos hn]
  · rw [Char.ofNat, dif_neg hn]
    decide

/-- The ASCII characters one by one. -/
theorem of_ascii {P : Char → Prop} (h : ∀ n < 0x80, P (Char.ofNat n)) {c : Char}
    (hc : c.toNat < 0x80) : P c := by
  have hn := h c.toNat hc
  rwa [Char.ofNat_toNat] at hn

/-- The small forms of ASCII: none is a capital, and only that of the underscore is one. -/
theorem toLower_of_ascii {c : Char} (h : c.toNat < 0x80) :
    c.toLower.isUpper = false ∧ (c ≠ '_' → '_' ≠ c.toLower) :=
  of_ascii (P := fun c => c.toLower.isUpper = false ∧ (c ≠ '_' → '_' ≠ c.toLower))
    (by decide +kernel) h

/-! ### Lower case -/

/-- The images in the tables are behind the capitals and the underscore. -/
theorem lt_of_mem_tables :
    (∀ r ∈ Table.lowerRuns, (('_'.toNat : Nat) : Int) < r.first + r.distance) ∧
      ∀ e ∈ Table.lowerExpansions, ∀ n ∈ e.2, '_'.toNat < n := by
  decide +kernel

/-- What a table entry moves stays behind the capitals and the underscore. -/
theorem lt_of_runImage? {n m : Nat} (h : runImage? Table.lowerRuns n = some m) :
    '_'.toNat < m := by
  obtain ⟨r, hr, rfl⟩ := Option.map_eq_some_iff.1 h
  have hmem := lt_of_mem_tables.1 r (List.mem_of_find?_eq_some hr)
  have hrange := List.find?_some hr
  simp only [Bool.and_eq_true, decide_eq_true_eq] at hrange
  omega

/-- A character of ASCII has one small form, and every other small form is neither a capital of ASCII
nor the underscore. -/
theorem cases_of_mem_lowerChar {c d : Char} (h : d ∈ lowerChar c) :
    c.toNat < 0x80 ∧ d = c.toLower ∨ d.isUpper = false ∧ d ≠ '_' := by
  have hbehind : ∀ {n : Nat}, '_'.toNat < n →
      (Char.ofNat n).isUpper = false ∧ Char.ofNat n ≠ '_' := by
    intro n hn
    refine ⟨isUpper_ofNat (lt_trans (by decide) hn), fun heq => ?_⟩
    have hcode := congrArg Char.toNat heq
    rw [Char.toNat_ofNat n] at hcode
    split_ifs at hcode
    · omega
    · revert hcode
      decide
  unfold lowerChar at h
  split_ifs at h with hascii
  · exact .inl ⟨hascii, List.mem_singleton.1 h⟩
  · refine .inr ?_
    unfold mapCase at h
    split at h
    · rename_i image himage
      obtain ⟨n, hn, rfl⟩ := List.mem_map.1 h
      obtain ⟨l, r, htable, -⟩ := List.lookup_eq_some_iff.1 himage
      exact hbehind (lt_of_mem_tables.2 (c.toNat, image) (by rw [htable]; simp) n hn)
    · split at h
      · rename_i m hm
        rw [List.mem_singleton.1 h]
        exact hbehind (lt_of_runImage? hm)
      · rw [List.mem_singleton.1 h, ← Char.ofNat_toNat c]
        exact hbehind (lt_of_lt_of_le (by decide) (Nat.not_lt.1 hascii))

theorem isUpper_of_mem_lowerChar {c d : Char} (h : d ∈ lowerChar c) : d.isUpper = false := by
  rcases cases_of_mem_lowerChar h with ⟨hascii, rfl⟩ | ⟨hupper, -⟩
  · exact (toLower_of_ascii hascii).1
  · exact hupper

/-- Only the underscore has an underscore for its small form. -/
theorem not_mem_lowerChar {c : Char} (hc : c ≠ '_') : '_' ∉ lowerChar c := by
  intro h
  rcases cases_of_mem_lowerChar h with ⟨hascii, heq⟩ | ⟨-, hne⟩
  · exact (toLower_of_ascii hascii).2 hc heq
  · exact hne rfl

theorem isUpper_of_mem_lowerFrom {afterCased : Bool} {s : List Char} {d : Char}
    (h : d ∈ lowerFrom afterCased s) : d.isUpper = false := by
  induction s generalizing afterCased with
  | nil => simp [lowerFrom] at h
  | cons c cs ih =>
      rw [lowerFrom] at h
      rcases List.mem_append.1 h with h | h
      · split_ifs at h
        · rw [List.mem_singleton.1 h]
          decide
        · rw [List.mem_singleton.1 h]
          decide
        · exact isUpper_of_mem_lowerChar h
      · exact ih h

/-- **A text in lower case has no capital of ASCII.** -/
theorem isUpper_of_mem_lower {s : List Char} {d : Char} (h : d ∈ lower s) : d.isUpper = false :=
  isUpper_of_mem_lowerFrom h

/-! ### Capitals made small -/

/-- A character and its small form of ASCII are alike for the mapping to lower case. -/
theorem lowerChar_toLower (c : Char) :
    lowerChar c.toLower = lowerChar c ∧ isCased c.toLower = isCased c ∧
      isCaseIgnorable c.toLower = isCaseIgnorable c ∧ (c.toLower = 'Σ' ↔ c = 'Σ') := by
  by_cases hc : c.toNat < 0x80
  · exact of_ascii (P := fun c => lowerChar c.toLower = lowerChar c ∧ isCased c.toLower = isCased c ∧
      isCaseIgnorable c.toLower = isCaseIgnorable c ∧ (c.toLower = 'Σ' ↔ c = 'Σ')) (by decide +kernel) hc
  · have hupper : c.isUpper = false := isUpper_of_lt (lt_of_lt_of_le (by decide) (Nat.not_lt.1 hc))
    rw [Char.toLower_eq_of_not_isUpper (by simp [hupper])]
    exact ⟨rfl, rfl, rfl, Iff.rfl⟩

theorem startsCased_map_toLower (s : List Char) :
    startsCased (s.map Char.toLower) = startsCased s := by
  induction s with
  | nil => rfl
  | cons c s ih =>
      obtain ⟨-, hcased, hignorable, -⟩ := lowerChar_toLower c
      unfold startsCased at ih ⊢
      rw [List.map_cons, List.dropWhile_cons, List.dropWhile_cons, hignorable]
      split_ifs
      · exact ih
      · exact hcased

/-- Lower case goes by the small forms of ASCII. -/
theorem lowerFrom_map_toLower (afterCased : Bool) (s : List Char) :
    lowerFrom afterCased (s.map Char.toLower) = lowerFrom afterCased s := by
  induction s generalizing afterCased with
  | nil => rfl
  | cons c s ih =>
      obtain ⟨hlower, hcased, hignorable, hsigma⟩ := lowerChar_toLower c
      rw [List.map_cons, lowerFrom, lowerFrom, ih, startsCased_map_toLower]
      simp only [hlower, hcased, hignorable, hsigma]

end SqlContract.Text
