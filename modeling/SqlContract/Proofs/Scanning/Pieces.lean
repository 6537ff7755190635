/-
What a text starts with.

`scan` reads a text from left to right, and what it reads first depends on the text behind: a quote
opens a literal only where another quote follows somewhere, and a bracket opens a comment only where
one closes it.  This module says once what a step of the scan can be.

Main definitions:

* `Doubled` — texts in which every quote stands twice;
* `Starts` — the piece that a text starts with, one rule for each kind of piece.

Main results:

* `closeQuote_eq_some_iff`, `closeComment_eq_some_iff` — where quoted pieces and block comments end,
  said without the functions that look for the end;
* `starts_iff` — **`Starts` is what `next` computes**;
* `scan_induction` — induction along a scan.
-/

import Mathlib
import SqlContract.Sql.Piece

set_option autoImplicit false
set_option relaxedAutoImplicit false

namespace SqlContract.Sql

open SqlContract.Text

/-! ### Where a quoted piece ends -/

/-- Texts that consist of pairs of quotes and of other characters. -/
inductive Doubled (q : Char) : List Char → Prop
  | nil : Doubled q []
  | pair {b : List Char} : Doubled q b → Doubled q (q :: q :: b)
  | other {c : Char} {b : List Char} : c ≠ q → Doubled q b → Doubled q (c :: b)

theorem closeQuote_quote_nil (q : Char) : closeQuote q [q] = some ([], []) :=
  if_pos rfl

theorem closeQuote_quote_of_ne {q d : Char} (h : d ≠ q) (ds : List Char) :
    closeQuote q (q :: d :: ds) = some ([], d :: ds) := by
  simp [closeQuote, h]

theorem closeQuote_quote_quote (q : Char) (ds : List Char) :
    closeQuote q (q :: q :: ds) =
      some (((closeQuote q ds).map fun x => (q :: q :: x.1, x.2)).getD ([], q :: ds)) := by
  cases h : closeQuote q ds <;> simp [closeQuote, h]

theorem closeQuote_cons_of_ne {q c : Char} (h : c ≠ q) (cs : List Char) :
    closeQuote q (c :: cs) = (closeQuote q cs).map fun x => (c :: x.1, x.2) := by
  rw [closeQuote.eq_def]
  exact if_neg h

/-- A text without quotes closes nothing, and any other text closes a quoted piece. -/
theorem closeQuote_eq_none_iff {q : Char} {s : List Char} : closeQuote q s = none ↔ q ∉ s := by
  fun_induction closeQuote q s with
  | case1 => simp
  | case2 => simp_all
  | case3 => simp_all
  | case4 => simp_all
  | case5 => simp_all
  | case6 c cs hc ih =>
      simp only [Option.map_eq_none_iff, ih, List.mem_cons, not_or]
      exact ⟨fun h => ⟨fun e => hc e.symm, h⟩, fun h => h.2⟩

/-- The body of a quoted piece is made of doubled quotes, and what follows the closing quote does
not double it: either no quote follows, or the text behind that quote has no other to close with. -/
theorem closeQuote_spec {q : Char} {s body rest : List Char}
    (h : closeQuote q s = some (body, rest)) :
    Doubled q body ∧ (rest.head? = some q → q ∉ rest.tail) := by
  fun_induction closeQuote q s generalizing body rest with
  | case1 => simp at h
  | case2 =>
      simp only [Option.some.injEq, Prod.mk.injEq] at h
      obtain ⟨rfl, rfl⟩ := h
      exact ⟨.nil, by simp⟩
  | case3 ds b r hb ih =>
      simp only [Option.some.injEq, Prod.mk.injEq] at h
      obtain ⟨rfl, rfl⟩ := h
      exact ⟨(ih hb).1.pair, (ih hb).2⟩
  | case4 ds hb ih =>
      simp only [Option.some.injEq, Prod.mk.injEq] at h
      obtain ⟨rfl, rfl⟩ := h
      exact ⟨.nil, fun _ => closeQuote_eq_none_iff.1 hb⟩
  | case5 d ds hd =>
      simp only [Option.some.injEq, Prod.mk.injEq] at h
      obtain ⟨rfl, rfl⟩ := h
      exact ⟨.nil, fun he => absurd (Option.some.inj he) hd⟩
  | case6 c cs hc ih =>
      obtain ⟨⟨b, r⟩, hb, he⟩ := Option.map_eq_some_iff.1 h
      simp only [Prod.mk.injEq] at he
      obtain ⟨rfl, rfl⟩ := he
      exact ⟨(ih hb).1.other hc, (ih hb).2⟩

/-- Such a body and such a rest are found. -/
theorem closeQuote_of_doubled {q : Char} {body rest : List Char} (hb : Doubled q body)
    (hr : rest.head? = some q → q ∉ rest.tail) :
    closeQuote q (body ++ q :: rest) = some (body, rest) := by
  induction hb with
  | nil =>
      cases rest with
      | nil => exact closeQuote_quote_nil q
      | cons d ds =>
          by_cases hd : d = q
          · subst hd
            have hnone : closeQuote d ds = none := closeQuote_eq_none_iff.2 (hr rfl)
            rw [List.nil_append, closeQuote_quote_quote, hnone]
            rfl
          · exact closeQuote_quote_of_ne hd ds
  -- a doubled quote stays in the body because the quote behind the body closes it
  | pair _ ih =>
      rw [List.cons_append, List.cons_append, closeQuote_quote_quote, ih]
      rfl
  | other hc _ ih =>
      rw [List.cons_append, closeQuote_cons_of_ne hc, ih]
      rfl

/-- **Where a quoted piece ends.** -/
theorem closeQuote_eq_some_iff {q : Char} {s body rest : List Char} :
    closeQuote q s = some (body, rest) ↔
      s = body ++ q :: rest ∧ Doubled q body ∧ (rest.head? = some q → q ∉ rest.tail) := by
  constructor
  · intro h
    exact ⟨(closeQuote_eq h).symm, closeQuote_spec h⟩
  · rintro ⟨rfl, hb, hr⟩
    exact closeQuote_of_doubled hb hr

/-! ### Where a block comment ends -/

theorem closer_prefix_iff (c : Char) (cs : List Char) :
    ['*', '/'] <+: c :: cs ↔ c = '*' ∧ cs.head? = some '/' := by
  constructor
  · rintro ⟨u, hu⟩
    simp only [List.cons_append, List.nil_append, List.cons.injEq] at hu
    exact ⟨hu.1.symm, by rw [← hu.2]; rfl⟩
  · rintro ⟨rfl, hcs⟩
    obtain ⟨ds, rfl⟩ := List.head?_eq_some_iff.1 hcs
    exact ⟨ds, rfl⟩

theorem closeComment_cons_of_not {c : Char} {cs : List Char} (h : ¬ ['*', '/'] <+: c :: cs) :
    closeComment (c :: cs) = (closeComment cs).map fun x => (c :: x.1, x.2) := by
  rw [closeComment]
  rintro ds rfl rfl
  exact h ⟨ds, rfl⟩

/-- A block comment is left open exactly where no closing bracket follows. -/
theorem closeComment_eq_none_iff {s : List Char} : closeComment s = none ↔ ¬ ['*', '/'] <:+: s := by
  fun_induction closeComment s with
  | case1 => simp
  | case2 cs =>
      simp only [reduceCtorEq, false_iff, not_not]
      exact ⟨[], cs, rfl⟩
  | case3 c cs hc ih =>
      have hne : ¬ ['*', '/'] <+: c :: cs := by
        intro hp
        obtain ⟨rfl, hd⟩ := (closer_prefix_iff c cs).1 hp
        obtain ⟨ds, rfl⟩ := List.head?_eq_some_iff.1 hd
        exact hc ds rfl rfl
      rw [Option.map_eq_none_iff, ih, List.infix_cons_iff, not_or]
      exact ⟨fun h => ⟨hne, h⟩, fun h => h.2⟩

/-- **Where a block comment ends**: at the first closing bracket. -/
theorem closeComment_eq_some_iff {s body rest : List Char} :
    closeComment s = some (body, rest) ↔
      s = body ++ '*' :: '/' :: rest ∧ ¬ ['*', '/'] <:+: body ++ ['*'] := by
  constructor
  · intro h
    refine ⟨(closeComment_eq h).symm, ?_⟩
    fun_induction closeComment s generalizing body rest with
    | case1 => simp at h
    | case2 =>
        simp only [Option.some.injEq, Prod.mk.injEq] at h
        obtain ⟨rfl, rfl⟩ := h
        decide
    | case3 c cs hc ih =>
        obtain ⟨⟨b, r⟩, hb, he⟩ := Option.map_eq_some_iff.1 h
        simp only [Prod.mk.injEq] at he
        obtain ⟨rfl, rfl⟩ := he
        rw [List.cons_append, List.infix_cons_iff, not_or]
        refine ⟨fun hp => ?_, ih hb⟩
        -- a closing bracket at the front would have ended the comment here
        obtain ⟨rfl, hd⟩ := (closer_prefix_iff c _).1 hp
        have hcs := closeComment_eq hb
        cases b with
        | nil => simp at hd
        | cons d b =>
            obtain rfl : d = '/' := Option.some.inj hd
            exact hc (b ++ '*' :: '/' :: r) rfl hcs.symm
  · rintro ⟨rfl, hb⟩
    induction body with
    | nil => rfl
    | cons c b ih =>
        rw [List.cons_append, List.infix_cons_iff, not_or] at hb
        -- the body ends in the asterisk of the closing bracket, so no earlier one is cut in two
        have hne : ¬ ['*', '/'] <+: c :: (b ++ '*' :: '/' :: rest) := by
          intro hp
          obtain ⟨rfl, hd⟩ := (closer_prefix_iff c _).1 hp
          cases b with
          | nil => simp at hd
          | cons d b =>
              obtain rfl : d = '/' := Option.some.inj hd
              exact hb.1 ⟨b ++ ['*'], rfl⟩
        rw [List.cons_append, closeComment_cons_of_not hne, ih hb.2]
        rfl

/-! ### The piece that a text starts with -/

/-- The characters that can start something other than plain text. -/
def isMark (c : Char) : Bool :=
  ['\'', '"', '-', '/', ';', '?', '%'].contains c

/-- The piece that a text starts with, and the text behind it. -/
inductive Starts : Char → List Char → Piece → List Char → Prop
  | quoted (q : Quote) {cs body rest : List Char} :
      closeQuote q.char cs = some (body, rest) → Starts q.char cs (.quoted q body) rest
  /-- A quote that is never closed. -/
  | openQuote (q : Quote) {cs : List Char} : q.char ∉ cs → Starts q.char cs (.plain q.char) cs
  | lineComment (ds : List Char) :
      Starts '-' ('-' :: ds) (.lineComment (ds.takeWhile (· ≠ '\n'))) (ds.dropWhile (· ≠ '\n'))
  | dash {cs : List Char} : cs.head? ≠ some '-' → Starts '-' cs (.plain '-') cs
  | blockComment {ds body rest : List Char} :
      closeComment ds = some (body, rest) → Starts '/' ('*' :: ds) (.blockComment body) rest
  /-- A block comment that is never closed. -/
  | openComment {ds : List Char} :
      ¬ ['*', '/'] <:+: ds → Starts '/' ('*' :: ds) (.plain '/') ('*' :: ds)
  | slash {cs : List Char} : cs.head? ≠ some '*' → Starts '/' cs (.plain '/') cs
  | semicolon (cs : List Char) : Starts ';' cs .semicolon cs
  | placeholder (cs : List Char) :
      Starts '?' cs (.placeholder (cs.takeWhile isDigit)) (cs.dropWhile isDigit)
  | percent (cs : List Char) : Starts '%' cs .percent cs
  | plain {c : Char} (cs : List Char) : isMark c = false → Starts c cs (.plain c) cs

theorem starts_next (c : Char) (cs : List Char) : Starts c cs (next c cs).1 (next c cs).2 := by
  unfold next
  split_ifs with h₁ h₂ h₃ h₄ h₅ h₆ h₇
  · subst h₁
    cases hq : closeQuote '\'' cs with
    | none => exact .openQuote .single (closeQuote_eq_none_iff.1 hq)
    | some x => exact .quoted .single hq
  · subst h₂
    cases hq : closeQuote '"' cs with
    | none => exact .openQuote .double (closeQuote_eq_none_iff.1 hq)
    | some x => exact .quoted .double hq
  · subst h₃
    split
    · exact .lineComment _
    · rename_i hne
      refine .dash fun he => ?_
      obtain ⟨ds, rfl⟩ := List.head?_eq_some_iff.1 he
      exact hne ds rfl
  · subst h₄
    split
    · rename_i ds
      cases hc : closeComment ds with
      | none => exact .openComment (closeComment_eq_none_iff.1 hc)
      | some x => exact .blockComment hc
    · rename_i hne
      refine .slash fun he => ?_
      obtain ⟨ds, rfl⟩ := List.head?_eq_some_iff.1 he
      exact hne ds rfl
  · subst h₅
    exact .semicolon cs
  · subst h₆
    exact .placeholder cs
  · subst h₇
    exact .percent cs
  · exact .plain cs (by simp [isMark, h₁, h₂, h₃, h₄, h₅, h₆, h₇])

theorem next_of_starts {c : Char} {cs rest : List Char} {p : Piece} (h : Starts c cs p rest) :
    next c cs = (p, rest) := by
  cases h with
  | quoted q hq => cases q <;> simp_all [next, Quote.char]
  | openQuote q hq =>
      have hnone := closeQuote_eq_none_iff.2 hq
      cases q <;> simp_all [next, Quote.char]
  | lineComment ds => simp [next]
  | dash hne =>
      cases cs with
      | nil => simp [next]
      | cons d ds =>
          have hd : d ≠ '-' := fun e => hne (by rw [e]; rfl)
          simp [next, hd]
  | blockComment hc => simp [next, hc]
  | openComment hc => simp [next, closeComment_eq_none_iff.2 hc]
  | slash hne =>
      cases cs with
      | nil => simp [next]
      | cons d ds =>
          have hd : d ≠ '*' := fun e => hne (by rw [e]; rfl)
          simp [next, hd]
  | semicolon => simp [next]
  | placeholder => simp [next]
  | percent => simp [next]
  | plain _ hm => simp_all [next, isMark]

/-- **`Starts` is what `next` computes.** -/
theorem starts_iff {c : Char} {cs rest : List Char} {p : Piece} :
    Starts c cs p rest ↔ next c cs = (p, rest) := by
  constructor
  · exact next_of_starts
  · intro h
    have hs := starts_next c cs
    rwa [h] at hs

theorem Starts.scan_eq {c : Char} {cs rest : List Char} {p : Piece} (h : Starts c cs p rest) :
    scan (c :: cs) = p :: scan rest := by
  rw [scan_cons, next_of_starts h]

/-- Nothing is lost by splitting off a piece. -/
theorem Starts.text_eq {c : Char} {cs rest : List Char} {p : Piece} (h : Starts c cs p rest) :
    p.text ++ rest = c :: cs := by
  have he := next_eq c cs
  rwa [next_of_starts h] at he

theorem Starts.length_lt {c : Char} {cs rest : List Char} {p : Piece} (h : Starts c cs p rest) :
    rest.length < (c :: cs).length := by
  have hl := next_length c cs
  rwa [next_of_starts h] at hl

/-- Induction along a scan. -/
@[elab_as_elim]
theorem scan_induction {motive : List Char → Prop} (nil : motive [])
    (cons : ∀ (c : Char) (cs : List Char) (p : Piece) (rest : List Char),
      Starts c cs p rest → motive rest → motive (c :: cs)) (s : List Char) : motive s := by
  fun_induction scan s with
  | case1 => exact nil
  | case2 c cs ih => exact cons c cs _ _ (starts_next c cs) ih

end SqlContract.Sql
