/-
Line ends of two characters.

Some texts have a carriage return before every line feed.  What is said of such a text is said of the
text without its carriage returns, wherever a carriage return counts as much as the line feed behind
it: both are blanks, and neither opens, closes or continues anything.

Main definitions:

* `crlf` — a text with a carriage return before every line feed;
* `withoutReturns` — a text without its carriage returns;
* `Paired` — texts in which a line feed stands behind every carriage return.

Main results:

* `paired_crlf`, `withoutReturns_crlf` — the line ends of a text can be replaced and put back;
* `Paired.head?_withoutReturns`, `Paired.prefix_withoutReturns_iff` — what a text without its carriage
  returns starts with;
* `dropWhile_withoutReturns`, `Paired.dropWhile_eq` — the runs of a text.
-/

import Mathlib
import SqlContract.Proofs.Text.Blanks

set_option autoImplicit false
set_option relaxedAutoImplicit false

namespace SqlContract.Text

/-- The text with a carriage return before every line feed. -/
def crlf (s : List Char) : List Char :=
  s.flatMap fun c => if c = '\n' then ['\r', '\n'] else [c]

/-- The text without its carriage returns. -/
def withoutReturns (s : List Char) : List Char :=
  s.filter (· ≠ '\r')

/-- Texts in which a line feed stands behind every carriage return. -/
def Paired : List Char → Prop
  | [] => True
  | c :: cs => (c = '\r' → cs.head? = some '\n') ∧ Paired cs

variable {c : Char} {s t : List Char} {p : Char → Bool}

/-! ### Texts without carriage returns -/

@[simp] theorem withoutReturns_nil : withoutReturns [] = [] := rfl

@[simp] theorem withoutReturns_return (s : List Char) :
    withoutReturns ('\r' :: s) = withoutReturns s := rfl

theorem withoutReturns_cons (h : c ≠ '\r') (s : List Char) :
    withoutReturns (c :: s) = c :: withoutReturns s :=
  List.filter_cons_of_pos (by simpa using h)

@[simp] theorem withoutReturns_append (s t : List Char) :
    withoutReturns (s ++ t) = withoutReturns s ++ withoutReturns t :=
  List.filter_append ..

theorem withoutReturns_eq_self (h : '\r' ∉ s) : withoutReturns s = s :=
  List.filter_eq_self.2 fun c hc => decide_eq_true fun he : c = '\r' => h (he ▸ hc)

theorem mem_withoutReturns (h : c ≠ '\r') : c ∈ withoutReturns s ↔ c ∈ s := by
  simp [withoutReturns, h]

theorem lineFeeds_withoutReturns (s : List Char) : lineFeeds (withoutReturns s) = lineFeeds s :=
  List.count_filter (by decide)

/-- A run that goes on behind carriage returns. -/
theorem takeWhile_withoutReturns (hp : p '\r' = true) (s : List Char) :
    (withoutReturns s).takeWhile p = withoutReturns (s.takeWhile p) := by
  induction s with
  | nil => rfl
  | cons c s ih =>
      by_cases hc : c = '\r'
      · rw [hc, withoutReturns_return, ih, List.takeWhile_cons, if_pos hp]
        rfl
      · rw [withoutReturns_cons hc, List.takeWhile_cons, List.takeWhile_cons, ih]
        split_ifs
        · rw [withoutReturns_cons hc]
        · rfl

theorem dropWhile_withoutReturns (hp : p '\r' = true) (s : List Char) :
    (withoutReturns s).dropWhile p = withoutReturns (s.dropWhile p) := by
  induction s with
  | nil => rfl
  | cons c s ih =>
      by_cases hc : c = '\r'
      · rw [hc, withoutReturns_return, ih, List.dropWhile_cons, if_pos hp]
      · rw [withoutReturns_cons hc, List.dropWhile_cons, List.dropWhile_cons, ih]
        split_ifs
        · rfl
        · rw [withoutReturns_cons hc]

/-! ### Line feeds behind carriage returns -/

namespace Paired

theorem tail (h : Paired (c :: s)) : Paired s :=
  h.2

theorem of_suffix (h : Paired t) (hs : s <:+ t) : Paired s := by
  induction t with
  | nil =>
      rw [List.suffix_nil.1 hs]
      exact h
  | cons c t ih =>
      rcases List.suffix_cons_iff.1 hs with rfl | hs
      · exact h
      · exact ih h.tail hs

theorem cons (hc : c ≠ '\r') (h : Paired s) : Paired (c :: s) :=
  ⟨fun he => absurd he hc, h⟩

theorem of_not_mem (h : '\r' ∉ s) : Paired s := by
  induction s with
  | nil => trivial
  | cons c s ih =>
      obtain ⟨hc, hs⟩ := not_or.1 (List.mem_cons.not.1 h)
      exact (ih hs).cons (Ne.symm hc)

theorem append (hs : Paired s) (ht : Paired t) : Paired (s ++ t) := by
  induction s with
  | nil => exact ht
  | cons c s ih =>
      refine ⟨fun hc => ?_, ih hs.tail⟩
      obtain ⟨cs, rfl⟩ := List.head?_eq_some_iff.1 (hs.1 hc)
      rfl

/-- A text may be cut off behind anything but a carriage return, -/
theorem of_append (h : Paired (s ++ t)) (hs : s.getLast? ≠ some '\r') : Paired s := by
  induction s with
  | nil => trivial
  | cons c s ih =>
      cases s with
      | nil => exact ⟨fun hc => absurd (congrArg some hc) hs, trivial⟩
      | cons e s => exact ⟨h.1, ih h.tail (by rwa [List.getLast?_cons_cons] at hs)⟩

/-- and so before anything but a line feed. -/
theorem of_append_cons (h : Paired (s ++ c :: t)) (hc : c ≠ '\n') : Paired s := by
  refine h.of_append fun hlast => ?_
  obtain ⟨before, rfl⟩ := List.getLast?_eq_some_iff.1 hlast
  have hbehind : Paired ('\r' :: c :: t) := h.of_suffix ⟨before, by simp⟩
  exact hc (Option.some.inj (hbehind.1 rfl))

/-- Without its carriage returns a text starts as before, but with the line feed in place of a
carriage return. -/
theorem head?_withoutReturns (h : Paired s) :
    (withoutReturns s).head? = s.head?.map fun c => if c = '\r' then '\n' else c := by
  cases s with
  | nil => rfl
  | cons c s =>
      by_cases hc : c = '\r'
      · obtain ⟨cs, rfl⟩ := List.head?_eq_some_iff.1 (h.1 hc)
        subst hc
        rfl
      · simp [withoutReturns_cons hc, hc]

theorem head?_eq_some_iff (h : Paired s) (hreturn : c ≠ '\r') (hfeed : c ≠ '\n') :
    (withoutReturns s).head? = some c ↔ s.head? = some c := by
  rw [h.head?_withoutReturns, Option.map_eq_some_iff]
  constructor
  · rintro ⟨d, hd, he⟩
    split_ifs at he
    · exact absurd he.symm hfeed
    · rw [hd, he]
  · exact fun hc => ⟨c, hc, if_neg hreturn⟩

/-- What is the same of both line ends is the same of the first character. -/
theorem map_head? {β : Type} {f : Char → β} (h : Paired s) (hf : f '\r' = f '\n') :
    (withoutReturns s).head?.map f = s.head?.map f := by
  rw [h.head?_withoutReturns, Option.map_map]
  cases s with
  | nil => rfl
  | cons c s =>
      by_cases hc : c = '\r'
      · simp [hc, hf]
      · simp [hc]

theorem any_head? (h : Paired s) (hp : p '\r' = p '\n') :
    (withoutReturns s).head?.any p = s.head?.any p := by
  have hany : ∀ o : Option Char, o.any p = (o.map p).any id := fun o => by rw [Option.any_map]; rfl
  rw [hany, hany, h.map_head? hp]

/-- A text starts with characters that are no line ends exactly if it does without its carriage
returns. -/
theorem prefix_withoutReturns_iff {q : List Char} (h : Paired s) (hreturn : '\r' ∉ q)
    (hfeed : '\n' ∉ q) : q <+: withoutReturns s ↔ q <+: s := by
  constructor
  · intro hq
    induction q generalizing s with
    | nil => exact List.nil_prefix
    | cons c q ih =>
        obtain ⟨hc, hreturn⟩ := not_or.1 (List.mem_cons.not.1 hreturn)
        obtain ⟨hn, hfeed⟩ := not_or.1 (List.mem_cons.not.1 hfeed)
        have hhead : s.head? = some c := by
          obtain ⟨t, ht⟩ := hq
          rw [← h.head?_eq_some_iff (Ne.symm hc) (Ne.symm hn), ← ht]
          rfl
        obtain ⟨cs, rfl⟩ := List.head?_eq_some_iff.1 hhead
        rw [withoutReturns_cons (Ne.symm hc)] at hq
        exact List.cons_prefix_cons.2 ⟨rfl, ih h.tail hreturn hfeed (List.cons_prefix_cons.1 hq).2⟩
  · rintro ⟨t, rfl⟩
    rw [withoutReturns_append, withoutReturns_eq_self hreturn]
    exact List.prefix_append _ _

/-- A run that ends at line ends is the same without carriage returns. -/
theorem takeWhile_eq (h : Paired s) (hreturn : p '\r' = false) (hfeed : p '\n' = false) :
    (withoutReturns s).takeWhile p = s.takeWhile p := by
  induction s with
  | nil => rfl
  | cons c s ih =>
      by_cases hc : c = '\r'
      · obtain ⟨cs, rfl⟩ := List.head?_eq_some_iff.1 (h.1 hc)
        subst hc
        simp [withoutReturns, hreturn, hfeed]
      · rw [withoutReturns_cons hc, List.takeWhile_cons, List.takeWhile_cons, ih h.tail]

theorem dropWhile_eq (h : Paired s) (hreturn : p '\r' = false) (hfeed : p '\n' = false) :
    (withoutReturns s).dropWhile p = withoutReturns (s.dropWhile p) := by
  induction s with
  | nil => rfl
  | cons c s ih =>
      by_cases hc : c = '\r'
      · obtain ⟨cs, rfl⟩ := List.head?_eq_some_iff.1 (h.1 hc)
        subst hc
        simp [withoutReturns, hreturn, hfeed]
      · rw [withoutReturns_cons hc, List.dropWhile_cons, List.dropWhile_cons, ih h.tail]
        split_ifs
        · rfl
        · rw [withoutReturns_cons hc]

theorem dropWhile (h : Paired s) : Paired (s.dropWhile p) :=
  h.of_suffix (List.dropWhile_suffix p)

end Paired

/-! ### Blanks at the ends of a text -/

theorem allBlank_withoutReturns_iff : AllBlank (withoutReturns s) ↔ AllBlank s := by
  constructor
  · intro h c hc
    by_cases hr : c = '\r'
    · rw [hr]
      decide
    · exact h c ((mem_withoutReturns hr).2 hc)
  · exact fun h c hc => h c (List.mem_of_mem_filter hc)

theorem stripLeft_withoutReturns (s : List Char) :
    stripLeft (withoutReturns s) = withoutReturns (stripLeft s) :=
  dropWhile_withoutReturns (by decide) s

/-! ### Line ends replaced -/

@[simp] theorem crlf_nil : crlf [] = [] := rfl

@[simp] theorem crlf_lineFeed (s : List Char) : crlf ('\n' :: s) = '\r' :: '\n' :: crlf s := rfl

theorem crlf_cons (h : c ≠ '\n') (s : List Char) : crlf (c :: s) = c :: crlf s := by
  simp [crlf, h]

theorem paired_crlf (h : '\r' ∉ s) : Paired (crlf s) := by
  induction s with
  | nil => trivial
  | cons c s ih =>
      obtain ⟨hc, hs⟩ := not_or.1 (List.mem_cons.not.1 h)
      by_cases hn : c = '\n'
      · subst hn
        exact ⟨fun _ => rfl, (ih hs).cons (by decide)⟩
      · rw [crlf_cons hn]
        exact (ih hs).cons (Ne.symm hc)

theorem withoutReturns_crlf (h : '\r' ∉ s) : withoutReturns (crlf s) = s := by
  induction s with
  | nil => rfl
  | cons c s ih =>
      obtain ⟨hc, hs⟩ := not_or.1 (List.mem_cons.not.1 h)
      by_cases hn : c = '\n'
      · subst hn
        rw [crlf_lineFeed, withoutReturns_return, withoutReturns_cons (by decide), ih hs]
      · rw [crlf_cons hn, withoutReturns_cons (Ne.symm hc), ih hs]

theorem crlf_append (s t : List Char) : crlf (s ++ t) = crlf s ++ crlf t :=
  List.flatMap_append

theorem crlf_eq_self (h : '\n' ∉ s) : crlf s = s := by
  induction s with
  | nil => rfl
  | cons c s ih =>
      obtain ⟨hc, hs⟩ := not_or.1 (List.mem_cons.not.1 h)
      rw [crlf_cons (Ne.symm hc), ih hs]

/-- A text starts with characters that are no line ends exactly if it does with its line ends
replaced. -/
theorem prefix_crlf_iff {q : List Char} (hreturn : '\r' ∉ q) (hfeed : '\n' ∉ q) :
    q <+: crlf s ↔ q <+: s := by
  constructor
  · intro hq
    induction q generalizing s with
    | nil => exact List.nil_prefix
    | cons c q ih =>
        obtain ⟨hc, hreturn⟩ := not_or.1 (List.mem_cons.not.1 hreturn)
        cases s with
        | nil => exact hq
        | cons d s =>
            by_cases hd : d = '\n'
            · rw [hd, crlf_lineFeed] at hq
              exact absurd (List.cons_prefix_cons.1 hq).1.symm hc
            · rw [crlf_cons hd] at hq
              obtain ⟨rfl, hrest⟩ := List.cons_prefix_cons.1 hq
              exact List.cons_prefix_cons.2
                ⟨rfl, ih hreturn (not_or.1 (List.mem_cons.not.1 hfeed)).2 hrest⟩
  · rintro ⟨t, rfl⟩
    rw [crlf_append, crlf_eq_self hfeed]
    exact List.prefix_append _ _

/-- A run that goes on behind line ends. -/
theorem dropWhile_crlf (hp : p '\r' = p '\n') (s : List Char) :
    (crlf s).dropWhile p = crlf (s.dropWhile p) := by
  induction s with
  | nil => rfl
  | cons c s ih =>
      by_cases hc : c = '\n'
      · subst hc
        by_cases hn : p '\n' = true
        · simp [hp, hn, ih]
        · simp [hp, hn]
      · rw [crlf_cons hc, List.dropWhile_cons, List.dropWhile_cons, ih]
        split_ifs
        · rfl
        · rw [crlf_cons hc]

/-- A run that ends at line ends. -/
theorem takeWhile_crlf (hreturn : p '\r' = false) (hfeed : p '\n' = false) (s : List Char) :
    (crlf s).takeWhile p = s.takeWhile p := by
  induction s with
  | nil => rfl
  | cons c s ih =>
      by_cases hc : c = '\n'
      · subst hc
        simp [hreturn, hfeed]
      · rw [crlf_cons hc, List.takeWhile_cons, List.takeWhile_cons, ih]

end SqlContract.Text
