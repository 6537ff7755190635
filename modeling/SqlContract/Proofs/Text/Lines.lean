/-
The lines of a text.

A text is cut into lines at ten characters, and a carriage return with a line feed behind it is one
break.  Lines that are put together again stand with line feeds between them, so what the cut makes
of a text is the text with a line feed for each break.

Main definitions:

* `relined` — a text with a line feed for each of its line breaks.

Main results:

* `lines_append_lineFeed` — the first line of a text;
* `exists_relined_eq` — **lines that are put together are the text with line feeds for its breaks**,
  up to blanks at its end;
* `relined_eq_self` — a text without other breaks is left as it is;
* `relined_append` — where a text may be cut before its breaks are read.
-/

import SqlContract.Proofs.Text.Blanks

set_option autoImplicit false
set_option relaxedAutoImplicit false

namespace SqlContract.Text

/-- The text with a line feed for each of its line breaks. -/
def relined : List Char → List Char
  | [] => []
  | '\r' :: '\n' :: cs => '\n' :: relined cs
  | c :: cs => (if isLineBreak c then '\n' else c) :: relined cs

@[simp] theorem relined_nil : relined [] = [] := rfl

theorem relined_crlf (cs : List Char) : relined ('\r' :: '\n' :: cs) = '\n' :: relined cs := rfl

theorem relined_cons {c : Char} {cs : List Char} (h : c = '\r' → cs.head? ≠ some '\n') :
    relined (c :: cs) = (if isLineBreak c then '\n' else c) :: relined cs := by
  rw [relined]
  rintro ds rfl rfl
  exact h rfl rfl

theorem relined_cons_of_not {c : Char} (h : isLineBreak c = false) (cs : List Char) :
    relined (c :: cs) = c :: relined cs := by
  rw [relined_cons, h]
  · rfl
  · rintro rfl
    exact absurd h (by decide)

/-- A carriage return before a line feed is dropped, and any other character gives one. -/
theorem relined_cons_cases (c : Char) (cs : List Char) :
    c = '\r' ∧ cs.head? = some '\n' ∧ relined (c :: cs) = relined cs ∨
      (c = '\r' → cs.head? ≠ some '\n') ∧
        relined (c :: cs) = (if isLineBreak c then '\n' else c) :: relined cs := by
  by_cases h : c = '\r' → cs.head? ≠ some '\n'
  · exact .inr ⟨h, relined_cons h⟩
  · simp only [ne_eq, Classical.not_imp, not_not] at h
    obtain ⟨rfl, hcs⟩ := h
    refine .inl ⟨rfl, hcs, ?_⟩
    obtain ⟨ds, rfl⟩ := List.head?_eq_some_iff.1 hcs
    rw [relined_crlf, relined_cons (fun h => absurd h (by decide))]
    rfl

theorem lines_crlf (cs : List Char) : lines ('\r' :: '\n' :: cs) = [] :: lines cs := rfl

theorem lines_cons {c : Char} {cs : List Char} (h : c = '\r' → cs.head? ≠ some '\n') :
    lines (c :: cs) = if isLineBreak c then [] :: lines cs else consHead c (lines cs) := by
  rw [lines]
  rintro ds rfl rfl
  exact h rfl rfl

theorem lines_cons_of_not {c : Char} (h : isLineBreak c = false) (cs : List Char) :
    lines (c :: cs) = consHead c (lines cs) := by
  rw [lines_cons, h]
  · rfl
  · rintro rfl
    exact absurd h (by decide)

/-- Induction along the line breaks of a text. -/
@[elab_as_elim]
theorem break_induction {motive : List Char → Prop} (nil : motive [])
    (crlf : ∀ cs, motive cs → motive ('\r' :: '\n' :: cs))
    (cons : ∀ c cs, (c = '\r' → cs.head? ≠ some '\n') → motive cs → motive (c :: cs))
    (s : List Char) : motive s := by
  fun_induction relined s with
  | case1 => exact nil
  | case2 cs ih => exact crlf cs ih
  | case3 c cs h ih =>
      refine cons c cs (fun hc hcs => ?_) ih
      obtain ⟨ds, rfl⟩ := List.head?_eq_some_iff.1 hcs
      exact h ds hc rfl

/-- The first line of a text. -/
theorem lines_append_lineFeed {l : List Char} (h : ∀ c ∈ l, isLineBreak c = false)
    (t : List Char) : lines (l ++ '\n' :: t) = l :: lines t := by
  induction l with
  | nil => exact (lines_cons fun h => absurd h (by decide)).trans (if_pos (by decide))
  | cons c l ih =>
      have hl := ih fun d hd => h d (List.mem_cons_of_mem c hd)
      rw [List.cons_append, lines_cons_of_not (h c List.mem_cons_self), hl]
      rfl

/-- Lines that are written with line feeds behind them are read back. -/
theorem lines_flatMap_append {ls : List (List Char)} (h : ∀ l ∈ ls, ∀ c ∈ l, isLineBreak c = false)
    (t : List Char) : lines (ls.flatMap (· ++ ['\n']) ++ t) = ls ++ lines t := by
  induction ls with
  | nil => rfl
  | cons l ls ih =>
      have hrest := ih fun k hk => h k (List.mem_cons_of_mem l hk)
      rw [List.flatMap_cons, List.append_assoc, List.append_assoc, List.singleton_append,
        lines_append_lineFeed (h l List.mem_cons_self), hrest]
      rfl

/-- The first line of a text is what it starts with. -/
theorem prefix_of_mem_head?_lines {s l : List Char} (h : l ∈ (lines s).head?) : l <+: s := by
  induction s generalizing l with
  | nil => simp [lines] at h
  | cons c cs ih =>
      by_cases hc : isLineBreak c = true
      · have hl : (lines (c :: cs)).head? = some [] := by
          unfold lines
          split <;> simp_all
        obtain rfl : [] = l := Option.some.inj (hl.symm.trans h)
        exact List.nil_prefix
      · have hc' : isLineBreak c = false := by simpa using hc
        rw [lines_cons_of_not hc'] at h
        cases hls : lines cs with
        | nil =>
            rw [hls] at h
            obtain rfl : [c] = l := Option.some.inj h
            exact List.cons_prefix_cons.2 ⟨rfl, List.nil_prefix⟩
        | cons k ks =>
            rw [hls] at ih h
            obtain rfl : c :: k = l := Option.some.inj h
            exact List.cons_prefix_cons.2 ⟨rfl, ih rfl⟩

/-- No line holds a line break. -/
theorem isLineBreak_of_mem_lines {s l : List Char} {c : Char} (hl : l ∈ lines s) (hc : c ∈ l) :
    isLineBreak c = false := by
  induction s using break_induction generalizing l with
  | nil => exact absurd hl List.not_mem_nil
  | crlf cs ih =>
      rw [lines_crlf] at hl
      rcases List.mem_cons.1 hl with rfl | hl
      · exact absurd hc List.not_mem_nil
      · exact ih hl hc
  | cons d cs h ih =>
      rw [lines_cons h] at hl
      by_cases hd : isLineBreak d = true
      · rw [if_pos hd] at hl
        rcases List.mem_cons.1 hl with rfl | hl
        · exact absurd hc List.not_mem_nil
        · exact ih hl hc
      · rw [if_neg hd] at hl
        have hd' : isLineBreak d = false := by simpa using hd
        cases hls : lines cs with
        | nil =>
            rw [hls, consHead, List.mem_singleton] at hl
            subst hl
            rwa [List.mem_singleton.1 hc]
        | cons k ks =>
            rw [hls] at ih hl
            rw [consHead] at hl
            rcases List.mem_cons.1 hl with rfl | hl
            · rcases List.mem_cons.1 hc with rfl | hc
              · exact hd'
              · exact ih List.mem_cons_self hc
            · exact ih (List.mem_cons_of_mem k hl) hc

theorem consHead_ne_nil (c : Char) (ls : List (List Char)) : consHead c ls ≠ [] := by
  cases ls <;> simp [consHead]

theorem lines_eq_nil_iff {s : List Char} : lines s = [] ↔ s = [] := by
  induction s using break_induction with
  | nil => simp [lines]
  | crlf cs _ => simp [lines_crlf]
  | cons c cs h _ =>
      rw [lines_cons h]
      split
      · simp
      · simp [consHead_ne_nil]

theorem intercalate_consHead (c : Char) (ls : List (List Char)) :
    ['\n'].intercalate (consHead c ls) = c :: ['\n'].intercalate ls := by
  cases ls with
  | nil => rfl
  | cons l ls => exact List.intercalate_cons_cons_left

theorem allBlank_lineFeed : AllBlank ['\n'] := by
  intro c hc
  rw [List.mem_singleton.1 hc]
  decide

/-- An empty line in front of the lines of a text is a line feed in front of it. -/
private theorem exists_relined_break {cs : List Char}
    (ih : ∃ w, AllBlank w ∧ relined cs = ['\n'].intercalate (lines cs) ++ w) :
    ∃ w, AllBlank w ∧ '\n' :: relined cs = ['\n'].intercalate ([] :: lines cs) ++ w := by
  obtain ⟨w, hw, he⟩ := ih
  by_cases hcs : lines cs = []
  · obtain rfl := lines_eq_nil_iff.1 hcs
    exact ⟨['\n'], allBlank_lineFeed, rfl⟩
  · refine ⟨w, hw, ?_⟩
    rw [List.intercalate_cons_of_ne_nil hcs, he]
    rfl

/-- **Lines that are put together are the text with line feeds for its breaks**, but for blanks at
its end. -/
theorem exists_relined_eq (s : List Char) :
    ∃ w, AllBlank w ∧ relined s = ['\n'].intercalate (lines s) ++ w := by
  induction s using break_induction with
  | nil => exact ⟨[], fun c hc => absurd hc List.not_mem_nil, rfl⟩
  | crlf cs ih => exact exists_relined_break ih
  | cons c cs h ih =>
      rw [relined_cons h, lines_cons h]
      by_cases hc : isLineBreak c = true
      · rw [if_pos hc, if_pos hc]
        exact exists_relined_break ih
      · rw [if_neg hc, if_neg hc, intercalate_consHead]
        obtain ⟨w, hw, he⟩ := ih
        exact ⟨w, hw, by rw [he, List.cons_append]⟩

/-- A text whose only line breaks are line feeds is left as it is. -/
theorem relined_eq_self {s : List Char} (h : ∀ c ∈ s, isLineBreak c = true → c = '\n') :
    relined s = s := by
  induction s using break_induction with
  | nil => rfl
  | crlf cs _ => exact absurd (h '\r' List.mem_cons_self (by decide)) (by decide)
  | cons c cs hne ih =>
      rw [relined_cons hne, ih fun d hd => h d (List.mem_cons_of_mem c hd)]
      by_cases hc : isLineBreak c = true
      · rw [if_pos hc, h c List.mem_cons_self hc]
      · rw [if_neg hc]

/-- A text may be cut before its breaks are read, except before a line feed. -/
theorem relined_append (s : List Char) {t : List Char} (ht : t.head? ≠ some '\n') :
    relined (s ++ t) = relined s ++ relined t := by
  induction s using break_induction with
  | nil => rfl
  | crlf cs ih =>
      rw [List.cons_append, List.cons_append, relined_crlf, relined_crlf, ih, List.cons_append]
  | cons c cs h ih =>
      have hne : c = '\r' → (cs ++ t).head? ≠ some '\n' := by
        intro hc
        cases cs with
        | nil => exact ht
        | cons d ds => exact h hc
      rw [List.cons_append, relined_cons hne, relined_cons h, ih, List.cons_append]

/-- Every line break of a text becomes a line feed. -/
theorem eq_lineFeed_of_mem_relined {s : List Char} {c : Char} (hc : c ∈ relined s)
    (hb : isLineBreak c = true) : c = '\n' := by
  induction s using break_induction with
  | nil => simp at hc
  | crlf cs ih =>
      rw [relined_crlf] at hc
      rcases List.mem_cons.1 hc with rfl | hc
      · rfl
      · exact ih hc
  | cons d cs h ih =>
      rw [relined_cons h] at hc
      rcases List.mem_cons.1 hc with rfl | hc
      · by_cases hd : isLineBreak d = true
        · rw [if_pos hd]
        · rw [if_neg hd] at hb
          exact absurd hb hd
      · exact ih hc

/-- The other characters of a text stay. -/
theorem mem_relined {s : List Char} {c : Char} (hb : isLineBreak c = false) :
    c ∈ relined s ↔ c ∈ s := by
  induction s using break_induction with
  | nil => rfl
  | crlf cs ih =>
      have h₁ : c ≠ '\r' := by rintro rfl; exact absurd hb (by decide)
      have h₂ : c ≠ '\n' := by rintro rfl; exact absurd hb (by decide)
      simp [relined_crlf, ih, h₁, h₂]
  | cons d cs h ih =>
      rw [relined_cons h, List.mem_cons, List.mem_cons, ih]
      by_cases hd : isLineBreak d = true
      · have h₁ : c ≠ d := by rintro rfl; exact absurd hd (by simp [hb])
        have h₂ : c ≠ '\n' := by rintro rfl; exact absurd hb (by decide)
        simp [hd, h₁, h₂]
      · simp [hd]

/-- A text starts with a character that is no break exactly if it does so with its breaks
replaced. -/
theorem head?_relined {s : List Char} {c : Char} (hb : isLineBreak c = false) :
    (relined s).head? = some c ↔ s.head? = some c := by
  induction s using break_induction with
  | nil => rfl
  | crlf cs _ =>
      have h₁ : '\r' ≠ c := by rintro rfl; exact absurd hb (by decide)
      have h₂ : '\n' ≠ c := by rintro rfl; exact absurd hb (by decide)
      simp [relined_crlf, h₁, h₂]
  | cons d cs h _ =>
      rw [relined_cons h, List.head?_cons, List.head?_cons]
      by_cases hd : isLineBreak d = true
      · have h₁ : d ≠ c := by rintro rfl; exact absurd hd (by simp [hb])
        have h₂ : '\n' ≠ c := by rintro rfl; exact absurd hb (by decide)
        simp [hd, h₁, h₂]
      · simp [hd]

end SqlContract.Text
