/-
The first word of a statement.

A statement is told by its first word, behind blanks and comments.  The word is looked for in the text
without its comments, and there nothing is left where a comment was: blanks and comments ahead of the word
are gone, but a word behind it that only block comments keep apart is now part of it.

Main definitions:

* `IsOpening` — what may stand ahead of the first word: blanks, and comments that are closed;
* `FirstWord` — the first word of a text, with the text behind it;
* `GoesOn` — texts that a word is joined to once the comments are gone.

Main results:

* `leadingKeyword_of_firstWord` — **what is taken for the first word**;
* `leadingKeyword_eq_iff` — **it is the first word exactly if no other is joined to it**;
* `exists_firstWord` — where there is no first word, none is taken for it.
-/

import SqlContract.Proofs.Scanning.Statements
import SqlContract.Proofs.Scanning.Stretches
import SqlContract.Proofs.Scanning.Substance
import SqlContract.Proofs.Text.Identifiers
import SqlContract.Sql.Segment

set_option autoImplicit false
set_option relaxedAutoImplicit false

namespace SqlContract.Sql

open SqlContract.Text

variable {s t w rest sql opening : List Char} {c : Char} {cs body : List Char} {p : Piece}

/-! ### Words -/

theorem cases_isMark (h : isMark c = true) :
    c = '\'' ∨ c = '"' ∨ c = '-' ∨ c = '/' ∨ c = ';' ∨ c = '?' ∨ c = '%' := by
  simpa only [List.mem_cons, List.not_mem_nil, or_false] using List.contains_iff_mem.1 h

theorem isMark_of_isWord (h : isWord c = true) : isMark c = false := by
  rw [Bool.eq_false_iff]
  intro hmark
  rcases cases_isMark hmark with rfl | rfl | rfl | rfl | rfl | rfl | rfl
  all_goals exact absurd h (by decide)

theorem isBlank_of_isWord (h : isWord c = true) : isBlank c = false := by
  have hblanks : ∀ n ∈ blankCodes, isWord (Char.ofNat n) = false := by decide +kernel
  rw [Bool.eq_false_iff]
  intro hblank
  rw [of_isBlank (P := fun c => isWord c = false) hblanks hblank] at h
  cases h

theorem upper_append (s t : List Char) : upper (s ++ t) = upper s ++ upper t :=
  List.flatMap_append

theorem upper_eq_nil_iff : upper s = [] ↔ s = [] := by
  constructor
  · intro h
    cases s with
    | nil => rfl
    | cons c cs => exact absurd (List.append_eq_nil_iff.1 h).1 (upperChar_ne_nil c)
  · rintro rfl
    rfl

/-! ### A text without its comments, piece by piece -/

theorem Starts.withoutComments_eq (h : Starts c cs p rest) : withoutComments (c :: cs) =
    if p.isComment then withoutComments rest else p.text ++ withoutComments rest := by
  unfold withoutComments code
  rw [h.scan_eq]
  cases hp : p.isComment with
  | true => rw [List.filter_cons_of_neg (by simp [hp]), if_pos rfl]
  | false => rw [List.filter_cons_of_pos (by simp [hp]), if_neg (by decide)]; rfl

@[simp] theorem withoutComments_nil : withoutComments [] = [] := by
  rw [withoutComments, scan_nil]
  rfl

theorem withoutComments_cons (h : isMark c = false) (cs : List Char) :
    withoutComments (c :: cs) = c :: withoutComments cs := by
  rw [(Starts.plain cs h).withoutComments_eq]
  rfl

theorem withoutComments_word_append (h : ∀ c ∈ w, isWord c = true) (s : List Char) :
    withoutComments (w ++ s) = w ++ withoutComments s := by
  induction w with
  | nil => rfl
  | cons c w ih =>
      obtain ⟨hc, hw⟩ := List.forall_mem_cons.1 h
      rw [List.cons_append, withoutComments_cons (isMark_of_isWord hc), ih hw]
      rfl

/-- A block comment leaves nothing. -/
theorem withoutComments_blockComment (h : (Piece.blockComment body).WellFormed) (s : List Char) :
    withoutComments ((Piece.blockComment body).text ++ s) = withoutComments s := by
  unfold withoutComments code
  rw [scan_piece_append h trivial]
  rfl

/-- A line comment leaves the line feed behind it. -/
theorem withoutComments_lineComment (h : '\n' ∉ body) (s : List Char) :
    withoutComments ('-' :: '-' :: (body ++ '\n' :: s)) = '\n' :: withoutComments s := by
  unfold withoutComments code
  rw [scan_lineComment h]
  rfl

/-! ### Ahead of the first word -/

/-- What may stand ahead of the first word: blanks, and comments that are closed. -/
inductive IsOpening : List Char → Prop
  | nil : IsOpening []
  | blank {c : Char} {s : List Char} : isBlank c = true → IsOpening s → IsOpening (c :: s)
  | lineComment {body s : List Char} : '\n' ∉ body → IsOpening s →
      IsOpening ('-' :: '-' :: (body ++ '\n' :: s))
  | blockComment {body s : List Char} : (Piece.blockComment body).WellFormed → IsOpening s →
      IsOpening ((Piece.blockComment body).text ++ s)

theorem IsOpening.append (h : IsOpening s) (ht : IsOpening t) : IsOpening (s ++ t) := by
  induction h with
  | nil => exact ht
  | blank hc _ ih => exact .blank hc ih
  | @lineComment body s hbody _ ih => simpa using IsOpening.lineComment hbody ih
  | blockComment hbody _ ih => simpa using IsOpening.blockComment hbody ih

/-- The text `w` is the first word of `sql`, and `rest` is the text behind it. -/
structure FirstWord (sql w rest : List Char) : Prop where
  exists_opening : ∃ opening, IsOpening opening ∧ sql = opening ++ (w ++ rest)
  ne_nil : w ≠ []
  word : ∀ c ∈ w, isWord c = true
  /-- The word is taken as far as it goes. -/
  ends : ∀ c ∈ rest.head?, isWord c = false

/-- Nothing but blanks is left of what stands ahead of the first word. -/
theorem stripLeft_withoutComments_opening (h : IsOpening opening) (s : List Char) :
    stripLeft (withoutComments (opening ++ s)) = stripLeft (withoutComments s) := by
  induction h with
  | nil => rfl
  | blank hc _ ih =>
      rw [List.cons_append, withoutComments_cons (isMark_of_isBlank hc), ← ih]
      exact List.dropWhile_cons_of_pos hc
  | @lineComment body t hbody _ ih =>
      have htext : '-' :: '-' :: (body ++ '\n' :: t) ++ s = '-' :: '-' :: (body ++ '\n' :: (t ++ s)) := by
        simp
      rw [htext, withoutComments_lineComment hbody, ← ih]
      rfl
  | blockComment hbody _ ih =>
      rw [List.append_assoc, withoutComments_blockComment hbody, ih]

/-! ### Behind the first word -/

/-- The characters that a word in front of a text is joined to once the comments are gone. -/
def joined (s : List Char) : List Char :=
  (withoutComments s).takeWhile isWord

/-- Texts that a word in front of them is joined to: closed block comments stand there, each right
behind the other, and right behind the last a character of a word. -/
inductive GoesOn : List Char → Prop
  | word {body : List Char} {c : Char} {s : List Char} : (Piece.blockComment body).WellFormed →
      isWord c = true → GoesOn ((Piece.blockComment body).text ++ c :: s)
  | comment {body s : List Char} : (Piece.blockComment body).WellFormed → GoesOn s →
      GoesOn ((Piece.blockComment body).text ++ s)

theorem GoesOn.head? (h : GoesOn s) : s.head? = some '/' := by
  cases h with
  | word => rfl
  | comment => rfl

theorem joined_nil : joined [] = [] := by
  rw [joined, withoutComments_nil]
  rfl

theorem joined_cons_ne_nil (h : isWord c = true) (s : List Char) : joined (c :: s) ≠ [] := by
  unfold joined
  rw [withoutComments_cons (isMark_of_isWord h), List.takeWhile_cons_of_pos h]
  exact List.cons_ne_nil _ _

theorem GoesOn.joined_ne_nil (h : GoesOn s) : joined s ≠ [] := by
  induction h with
  | @word body c t hbody hc =>
      unfold joined
      rw [withoutComments_blockComment hbody]
      exact joined_cons_ne_nil hc t
  | comment hbody _ ih =>
      unfold joined
      rw [withoutComments_blockComment hbody]
      exact ih

/-- A comment that is read is one that is closed. -/
theorem Starts.wellFormed_blockComment (h : Starts c cs (.blockComment body) rest) :
    (Piece.blockComment body).WellFormed := by
  cases h with
  | blockComment hclose => exact closesAtEnd_iff.2 (closeComment_eq_some_iff.1 hclose).2

/-- A line comment goes as far as its line. -/
theorem Starts.behind_lineComment (h : Starts c cs (.lineComment body) rest) :
    '\n' ∉ body ∧ (rest = [] ∨ ∃ t, rest = '\n' :: t) := by
  cases h with
  | lineComment ds =>
      refine ⟨fun hmem => by simpa using List.mem_takeWhile_imp hmem, ?_⟩
      cases hrest : ds.dropWhile (· ≠ '\n') with
      | nil => exact .inl rfl
      | cons d t =>
          have hnot := List.head?_dropWhile_not (fun c => decide (c ≠ '\n')) ds
          rw [hrest] at hnot
          exact .inr ⟨t, by simpa using hnot⟩

/-- The text of a piece starts with the character that it is read from. -/
theorem Starts.text_eq_cons_tail (h : Starts c cs p rest) : p.text = c :: p.text.tail := by
  obtain ⟨d, ds, htext⟩ := p.exists_text_eq_cons
  have heq := h.text_eq
  rw [htext, List.cons_append] at heq
  rw [htext, (List.cons.inj heq).1]
  rfl

/-- A word is joined to a text that starts with a word, or with comments that touch one. -/
theorem goesOn_of_joined (h : joined s ≠ []) : (∃ c ∈ s.head?, isWord c = true) ∨ GoesOn s := by
  induction s using scan_induction with
  | nil => exact absurd joined_nil h
  | cons c cs p rest hs ih =>
      unfold joined at h
      rw [hs.withoutComments_eq] at h
      cases p with
      | lineComment body =>
          obtain ⟨-, rfl | ⟨t, rfl⟩⟩ := hs.behind_lineComment
          · exact absurd joined_nil h
          · -- no word is joined to a line feed
            rcases ih h with ⟨d, hd, hword⟩ | hgoes
            · obtain rfl := Option.some.inj hd
              exact absurd hword (by decide)
            · exact absurd (Option.some.inj hgoes.head?) (by decide)
      | blockComment body =>
          have hbody := hs.wellFormed_blockComment
          right
          rw [← hs.text_eq]
          rcases ih h with ⟨d, hd, hword⟩ | hgoes
          · obtain ⟨t, rfl⟩ := List.head?_eq_some_iff.1 hd
            exact .word hbody hword
          · exact .comment hbody hgoes
      | plain | quoted | semicolon | placeholder | percent =>
          -- the text starts with what the piece starts with
          left
          refine ⟨c, rfl, by_contra fun hword => h ?_⟩
          rw [if_neg (by simp [Piece.isComment]), hs.text_eq_cons_tail, List.cons_append]
          exact List.takeWhile_cons_of_neg hword

/-- **Where a word is joined to the text behind it.** -/
theorem joined_eq_nil_iff (h : ∀ c ∈ s.head?, isWord c = false) : joined s = [] ↔ ¬ GoesOn s := by
  constructor
  · exact fun hnil hgoes => hgoes.joined_ne_nil hnil
  · intro hgoes
    by_contra hne
    rcases goesOn_of_joined hne with ⟨c, hc, hword⟩ | hs
    · rw [h c hc] at hword
      cases hword
    · exact hgoes hs

/-! ### The first word -/

/-- **What is taken for the first word**: the word, and what is joined to it. -/
theorem leadingKeyword_of_firstWord (h : FirstWord sql w rest) :
    leadingKeyword sql = String.ofList (upper (w ++ joined rest)) := by
  obtain ⟨⟨opening, hopening, rfl⟩, hne, hword, -⟩ := h
  have hstrip : stripLeft (w ++ withoutComments rest) = w ++ withoutComments rest := by
    refine stripLeft_of_head? fun c hc => isBlank_of_isWord (hword c ?_)
    cases w with
    | nil => exact absurd rfl hne
    | cons d ds =>
        obtain rfl := Option.some.inj hc
        exact List.mem_cons_self
  unfold leadingKeyword
  rw [stripLeft_withoutComments_opening hopening, withoutComments_word_append hword, hstrip,
    List.takeWhile_append_of_pos hword]
  rfl

/-- **It is the first word exactly if no other is joined to it.** -/
theorem leadingKeyword_eq_iff (h : FirstWord sql w rest) :
    leadingKeyword sql = String.ofList (upper w) ↔ ¬ GoesOn rest := by
  rw [leadingKeyword_of_firstWord h, ← joined_eq_nil_iff h.ends, ← upper_eq_nil_iff, upper_append,
    String.ofList_inj]
  exact List.append_right_eq_self

theorem leadingKeyword_nil : leadingKeyword [] = "" := by
  unfold leadingKeyword
  rw [withoutComments_nil]
  rfl

theorem leadingKeyword_opening (h : IsOpening opening) (s : List Char) :
    leadingKeyword (opening ++ s) = leadingKeyword s := by
  unfold leadingKeyword
  rw [stripLeft_withoutComments_opening h]

/-- The first word of a text is that of a longer one, if only blanks and comments are ahead. -/
theorem FirstWord.behind (h : FirstWord s w rest) (hopening : IsOpening opening) :
    FirstWord (opening ++ s) w rest := by
  obtain ⟨⟨inner, hinner, rfl⟩, hne, hword, hends⟩ := h
  exact ⟨⟨opening ++ inner, hopening.append hinner, (List.append_assoc ..).symm⟩, hne, hword, hends⟩

/-- A word is the first word of the text that it starts. -/
theorem firstWord_cons (h : isWord c = true) (cs : List Char) :
    FirstWord (c :: cs) ((c :: cs).takeWhile isWord) ((c :: cs).dropWhile isWord) where
  exists_opening := ⟨[], .nil, List.takeWhile_append_dropWhile.symm⟩
  ne_nil := by
    rw [List.takeWhile_cons_of_pos h]
    exact List.cons_ne_nil _ _
  word := fun _ => List.mem_takeWhile_imp
  ends := fun d hd => by
    have hnot := List.head?_dropWhile_not isWord (c :: cs)
    rw [Option.mem_def.1 hd] at hnot
    simpa using hnot

/-- **Where there is no first word, none is taken for it.** -/
theorem exists_firstWord (h : leadingKeyword sql ≠ "") : ∃ w rest, FirstWord sql w rest := by
  generalize hlength : sql.length = n
  induction n using Nat.strong_induction_on generalizing sql with
  | _ n ih =>
  cases sql with
  | nil => exact absurd leadingKeyword_nil h
  | cons c cs =>
      -- what is behind blanks and comments has the first word
      have hbehind : ∀ opening s, IsOpening opening → opening ≠ [] → c :: cs = opening ++ s →
          ∃ w rest, FirstWord (c :: cs) w rest := by
        intro opening s hopening hne heq
        rw [heq, leadingKeyword_opening hopening] at h
        have hshorter : s.length < n := by
          rw [← hlength, heq, List.length_append]
          have := List.length_pos_of_ne_nil hne
          omega
        obtain ⟨w, rest, hw⟩ := ih _ hshorter h rfl
        exact ⟨w, rest, heq ▸ hw.behind hopening⟩
      obtain ⟨p, rest, hs⟩ : ∃ p rest, Starts c cs p rest := ⟨_, _, starts_next c cs⟩
      by_cases hword : isWord c = true
      · exact ⟨_, _, firstWord_cons hword cs⟩
      by_cases hblank : isBlank c = true
      · exact hbehind [c] cs (.blank hblank .nil) (List.cons_ne_nil _ _) rfl
      cases p with
      | blockComment body =>
          refine hbehind (Piece.blockComment body).text rest ?_ (List.cons_ne_nil _ _) hs.text_eq.symm
          simpa using IsOpening.blockComment hs.wellFormed_blockComment .nil
      | lineComment body =>
          obtain ⟨hbody, rfl | ⟨t, rfl⟩⟩ := hs.behind_lineComment
          · refine absurd ?_ h
            rw [← leadingKeyword_nil, leadingKeyword, hs.withoutComments_eq]
            rfl
          · refine hbehind _ t (.lineComment hbody .nil) (List.cons_ne_nil _ _) ?_
            rw [← hs.text_eq]
            simp [Piece.text]
      | plain | quoted | semicolon | placeholder | percent =>
          refine absurd ?_ h
          unfold leadingKeyword
          rw [hs.withoutComments_eq, if_neg (by simp [Piece.isComment]), hs.text_eq_cons_tail,
            List.cons_append, stripLeft_of_head? (by simpa using hblank),
            List.takeWhile_cons_of_neg hword]
          rfl

end SqlContract.Sql
