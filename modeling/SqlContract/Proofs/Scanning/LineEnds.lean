/-
Pieces and statements of texts with line ends of two characters.

A carriage return before a line feed is a blank between two pieces, or it belongs to a quoted piece or
to a comment.  So the pieces of a text without its carriage returns are those of the text, each
without its own carriage returns.

Main definitions:

* `Piece.withoutReturns`, `piecesWithoutReturns` — pieces without the carriage returns in them and
  between them.

Main results:

* `Starts.withoutReturns` — what a text starts with;
* `scan_withoutReturns` — **a text is scanned as it is without its carriage returns**;
* `segments_withoutReturns` — so its statements are the same, and stand on the same lines.
-/

import SqlContract.Proofs.Scanning.Statements
import SqlContract.Proofs.Text.LineEnds

set_option autoImplicit false
set_option relaxedAutoImplicit false

namespace SqlContract.Sql

open SqlContract.Text

/-- The piece without the carriage returns in it. -/
def Piece.withoutReturns : Piece → Piece
  | .quoted q body => .quoted q (Text.withoutReturns body)
  | .lineComment body => .lineComment (Text.withoutReturns body)
  | .blockComment body => .blockComment (Text.withoutReturns body)
  | .placeholder digits => .placeholder (Text.withoutReturns digits)
  | p => p

/-- The pieces without the carriage returns in them and between them. -/
def piecesWithoutReturns (ps : List Piece) : List Piece :=
  (ps.filter (· ≠ .plain '\r')).map Piece.withoutReturns

/-- The statement without its carriage returns, on the same line. -/
def Segment.withoutReturns (s : Segment) : Segment :=
  { s with text := Text.withoutReturns s.text }

/-! ### What a text starts with -/

theorem Doubled.withoutReturns {q : Char} {b : List Char} (hq : q ≠ '\r') (h : Doubled q b) :
    Doubled q (Text.withoutReturns b) := by
  induction h with
  | nil => exact .nil
  | pair _ ih =>
      rw [withoutReturns_cons hq, withoutReturns_cons hq]
      exact ih.pair
  | @other c b hc _ ih =>
      by_cases hr : c = '\r'
      · rw [hr, withoutReturns_return]
        exact ih
      · rw [withoutReturns_cons hr]
        exact ih.other hc

theorem Quote.char_ne_return (q : Quote) : q.char ≠ '\r' := by
  cases q <;> decide

theorem Quote.char_ne_lineFeed (q : Quote) : q.char ≠ '\n' := by
  cases q <;> decide

/-- Closing brackets are neither made nor lost. -/
theorem closer_infix_withoutReturns {s : List Char} (h : Paired s) :
    ['*', '/'] <:+: Text.withoutReturns s ↔ ['*', '/'] <:+: s := by
  induction s with
  | nil => rfl
  | cons c s ih =>
      by_cases hc : c = '\r'
      · rw [hc, withoutReturns_return, ih h.tail, List.infix_cons_iff, closer_prefix_iff]
        simp
      · rw [withoutReturns_cons hc, List.infix_cons_iff, List.infix_cons_iff, closer_prefix_iff,
          closer_prefix_iff, ih h.tail, h.tail.head?_eq_some_iff (by decide) (by decide)]

/-- **What a text starts with**, without the carriage returns in it, is what it starts with without
its carriage returns. -/
theorem Starts.withoutReturns {c : Char} {cs rest : List Char} {p : Piece} (h : Starts c cs p rest)
    (hcs : Paired cs) : Starts c (Text.withoutReturns cs) p.withoutReturns
      (Text.withoutReturns rest) := by
  cases h with
  | @quoted q _ body rest hq =>
      obtain ⟨rfl, hb, hrest⟩ := closeQuote_eq_some_iff.1 hq
      have hpaired : Paired rest := hcs.of_suffix ⟨body ++ [q.char], by simp⟩
      refine .quoted q (closeQuote_eq_some_iff.2
        ⟨by simp [withoutReturns_cons q.char_ne_return], hb.withoutReturns q.char_ne_return, ?_⟩)
      intro hhead
      rw [hpaired.head?_eq_some_iff q.char_ne_return q.char_ne_lineFeed] at hhead
      obtain ⟨ds, rfl⟩ := List.head?_eq_some_iff.1 hhead
      rw [withoutReturns_cons q.char_ne_return, List.tail_cons,
        mem_withoutReturns q.char_ne_return]
      exact hrest rfl
  | openQuote q hq =>
      exact .openQuote q fun hm => hq ((mem_withoutReturns q.char_ne_return).1 hm)
  | lineComment ds =>
      have hstep := Starts.lineComment (Text.withoutReturns ds)
      rwa [takeWhile_withoutReturns (by decide), dropWhile_withoutReturns (by decide)] at hstep
  | dash hne => exact .dash fun he => hne ((hcs.head?_eq_some_iff (by decide) (by decide)).1 he)
  | @blockComment _ body _ hcl =>
      obtain ⟨rfl, hb⟩ := closeComment_eq_some_iff.1 hcl
      rw [withoutReturns_cons (by decide)]
      refine .blockComment (closeComment_eq_some_iff.2 ⟨?_, fun hi => hb ?_⟩)
      · rw [withoutReturns_append, withoutReturns_cons (by decide), withoutReturns_cons (by decide)]
      · -- the body and the asterisk behind it are cut off before a slash
        have hbody : Paired (body ++ ['*']) := by
          have hds := hcs.tail
          rw [List.append_cons] at hds
          exact hds.of_append_cons (by decide)
        rw [← closer_infix_withoutReturns hbody]
        simpa [withoutReturns_cons] using hi
  | openComment hcl =>
      exact .openComment fun hi => hcl ((closer_infix_withoutReturns hcs.tail).1 hi)
  | slash hne => exact .slash fun he => hne ((hcs.head?_eq_some_iff (by decide) (by decide)).1 he)
  | semicolon => exact .semicolon _
  | placeholder =>
      have hstep := Starts.placeholder (Text.withoutReturns cs)
      rw [hcs.takeWhile_eq (by decide) (by decide), hcs.dropWhile_eq (by decide) (by decide)] at hstep
      have hdigits : Text.withoutReturns (cs.takeWhile isDigit) = cs.takeWhile isDigit :=
        withoutReturns_eq_self fun hmem => absurd (List.mem_takeWhile_imp hmem) (by decide)
      rwa [Piece.withoutReturns, hdigits]
  | percent => exact .percent _
  | plain _ hm => exact .plain _ hm

/-! ### Scans -/

theorem piecesWithoutReturns_return (ps : List Piece) :
    piecesWithoutReturns (.plain '\r' :: ps) = piecesWithoutReturns ps := rfl

theorem piecesWithoutReturns_cons {p : Piece} (h : p ≠ .plain '\r') (ps : List Piece) :
    piecesWithoutReturns (p :: ps) = p.withoutReturns :: piecesWithoutReturns ps := by
  simp [piecesWithoutReturns, h]

/-- **A text is scanned as it is without its carriage returns.** -/
theorem scan_withoutReturns {s : List Char} (h : Paired s) :
    scan (Text.withoutReturns s) = piecesWithoutReturns (scan s) := by
  induction s using scan_induction with
  | nil => rw [withoutReturns_nil, scan_nil]; rfl
  | cons c cs p rest hs ih =>
      have hrest : Paired rest := h.of_suffix ⟨p.text, hs.text_eq⟩
      by_cases hc : c = '\r'
      · subst hc
        obtain ⟨rfl, rfl⟩ : .plain '\r' = p ∧ cs = rest :=
          Prod.ext_iff.1 (next_of_starts hs).symm.symm
        rw [withoutReturns_return, ih hrest, hs.scan_eq, piecesWithoutReturns_return]
      · have hp : p ≠ .plain '\r' := by
          rintro rfl
          exact hc (List.cons.inj hs.text_eq).1.symm
        rw [withoutReturns_cons hc, (hs.withoutReturns h.tail).scan_eq, ih hrest, hs.scan_eq,
          piecesWithoutReturns_cons hp]

theorem Piece.text_withoutReturns {p : Piece} (h : p ≠ .plain '\r') :
    p.withoutReturns.text = Text.withoutReturns p.text := by
  cases p with
  | plain c =>
      have hc : c ≠ '\r' := fun he => h (he ▸ rfl)
      exact (withoutReturns_cons hc []).symm
  | quoted q body => simp [withoutReturns, text, withoutReturns_cons q.char_ne_return]
  | lineComment | blockComment | semicolon | placeholder | percent =>
      simp [withoutReturns, text, withoutReturns_cons]

theorem join_withoutReturns (ps : List Piece) :
    join (piecesWithoutReturns ps) = Text.withoutReturns (join ps) := by
  induction ps with
  | nil => rfl
  | cons p ps ih =>
      by_cases hp : p = .plain '\r'
      · rw [hp, piecesWithoutReturns_return, ih]
        rfl
      · rw [piecesWithoutReturns_cons hp, join_cons, join_cons, ih, withoutReturns_append,
          Piece.text_withoutReturns hp]

theorem code_withoutReturns (ps : List Piece) :
    code (piecesWithoutReturns ps) = Text.withoutReturns (code ps) := by
  have hcomment : ∀ p : Piece, p.withoutReturns.isComment = p.isComment := by
    intro p
    cases p <;> rfl
  have hfilter : (piecesWithoutReturns ps).filter (!·.isComment) =
      piecesWithoutReturns (ps.filter (!·.isComment)) := by
    unfold piecesWithoutReturns
    rw [List.filter_map, List.filter_filter, List.filter_filter]
    congr 1
    refine List.filter_congr fun p _ => ?_
    rw [Function.comp_apply, hcomment, Bool.and_comm]
  unfold code
  rw [hfilter, join_withoutReturns]

theorem withoutComments_withoutReturns {s : List Char} (h : Paired s) :
    withoutComments (Text.withoutReturns s) = Text.withoutReturns (withoutComments s) := by
  unfold withoutComments
  rw [scan_withoutReturns h, code_withoutReturns]

/-- A piece that is no comment and no carriage return has the line feeds behind its carriage
returns. -/
theorem Starts.paired_text {c : Char} {cs rest : List Char} {p : Piece} (h : Starts c cs p rest)
    (hcs : Paired (c :: cs)) (hc : c ≠ '\r') (hp : ¬ p.isComment = true) : Paired p.text := by
  cases h with
  | @quoted q _ body rest hq =>
      obtain ⟨rfl, -, -⟩ := closeQuote_eq_some_iff.1 hq
      have hfront : Paired (q.char :: body) := by
        rw [← List.cons_append] at hcs
        exact hcs.of_append_cons q.char_ne_lineFeed
      exact hfront.append (.of_not_mem (by simpa using q.char_ne_return.symm))
  | lineComment | blockComment => exact absurd rfl hp
  | placeholder =>
      refine .of_not_mem fun hm => ?_
      rcases List.mem_cons.1 hm with hm | hm
      · exact absurd hm (by decide)
      · exact absurd (List.mem_takeWhile_imp hm) (by decide)
  | openQuote | plain => exact .of_not_mem (by simpa [Piece.text] using Ne.symm hc)
  | dash | openComment | slash | semicolon | percent => exact .of_not_mem (by simp [Piece.text])

/-- Comments take their carriage returns with them. -/
theorem Paired.withoutComments {s : List Char} (h : Paired s) : Paired (withoutComments s) := by
  induction s using scan_induction with
  | nil => rw [Sql.withoutComments, scan_nil]; trivial
  | cons c cs p rest hs ih =>
      have hrest : Paired rest := h.of_suffix ⟨p.text, hs.text_eq⟩
      have hcode : Sql.withoutComments (c :: cs) =
          (if p.isComment then [] else p.text) ++ Sql.withoutComments rest := by
        unfold Sql.withoutComments code
        rw [hs.scan_eq, List.filter_cons]
        cases p.isComment <;> rfl
      rw [hcode]
      by_cases hc : c = '\r'
      · -- the line feed behind the carriage return is a piece of its own
        obtain ⟨ds, rfl⟩ := List.head?_eq_some_iff.1 (h.1 hc)
        subst hc
        obtain ⟨rfl, rfl⟩ : .plain '\r' = p ∧ '\n' :: ds = rest :=
          Prod.ext_iff.1 (next_of_starts hs).symm.symm
        refine ⟨fun _ => ?_, ih hrest⟩
        rw [Sql.withoutComments, scan_cons_blank (by decide)]
        rfl
      · refine Paired.append ?_ (ih hrest)
        split_ifs with hcomment
        · trivial
        · exact hs.paired_text h hc hcomment

/-! ### Statements -/

theorem cut_withoutReturns (ps : List Piece) :
    cut (piecesWithoutReturns ps) =
      (piecesWithoutReturns (cut ps).1, (cut ps).2.map piecesWithoutReturns) := by
  induction ps with
  | nil => rfl
  | cons p ps ih =>
      by_cases hp : p = .plain '\r'
      · rw [hp, piecesWithoutReturns_return, ih, cut_cons (by simp), piecesWithoutReturns_return]
      · rw [piecesWithoutReturns_cons hp]
        by_cases hsemi : p = .semicolon
        · have hkept : Piece.semicolon.withoutReturns = .semicolon := rfl
          rw [hsemi, hkept, cut_semicolon, cut_semicolon, ih]
          rfl
        · have hsemi' : p.withoutReturns ≠ .semicolon := by
            cases p <;> simp_all [Piece.withoutReturns]
          rw [cut_cons hsemi', cut_cons hsemi, ih, piecesWithoutReturns_cons hp]

theorem startLine_withoutReturns (line : Nat) (s : List Char) :
    startLine line (Text.withoutReturns s) = startLine line s := by
  unfold startLine
  rw [takeWhile_withoutReturns (by decide), lineFeeds_withoutReturns]

theorem segmentsFrom_withoutReturns (line : Nat) (g : List Piece) (gs : List (List Piece)) :
    segmentsFrom line (piecesWithoutReturns g) (gs.map piecesWithoutReturns) =
      (segmentsFrom line g gs).map Segment.withoutReturns := by
  induction gs generalizing line g with
  | nil =>
      have hblank : (strip (Text.withoutReturns (code g))).isEmpty = (strip (code g)).isEmpty := by
        rw [Bool.eq_iff_iff, List.isEmpty_iff, List.isEmpty_iff, strip_eq_nil_iff, strip_eq_nil_iff,
          allBlank_withoutReturns_iff]
      rw [List.map_nil, segmentsFrom, segmentsFrom, code_withoutReturns, hblank, join_withoutReturns,
        startLine_withoutReturns]
      split_ifs <;> rfl
  | cons next gs ih =>
      rw [List.map_cons, segmentsFrom, segmentsFrom, ih, join_withoutReturns,
        startLine_withoutReturns, lineFeeds_withoutReturns]
      rfl

/-- **A text has the statements that it has without its carriage returns**, on the same lines. -/
theorem segments_withoutReturns {s : List Char} (h : Paired s) :
    segments (Text.withoutReturns s) = (segments s).map Segment.withoutReturns := by
  unfold segments
  rw [scan_withoutReturns h, cut_withoutReturns]
  exact segmentsFrom_withoutReturns 1 _ _

/-- The first group of some pieces goes up to a semicolon, or to their end. -/
theorem exists_eq_cut_fst_append (ps : List Piece) :
    ps = (cut ps).1 ∨ ∃ behind, ps = (cut ps).1 ++ .semicolon :: behind := by
  induction ps with
  | nil => exact .inl rfl
  | cons p ps ih =>
      by_cases hp : p = .semicolon
      · exact .inr ⟨ps, by rw [hp, cut_semicolon]; rfl⟩
      · rw [cut_cons hp]
        rcases ih with he | ⟨behind, he⟩
        · exact .inl (congrArg (p :: ·) he)
        · exact .inr ⟨behind, congrArg (p :: ·) he⟩

theorem paired_join_of_mem_cut {ps g : List Piece} (h : Paired (join ps))
    (hg : g ∈ (cut ps).1 :: (cut ps).2) : Paired (join g) := by
  induction ps generalizing g with
  | nil =>
      obtain rfl : g = [] := List.mem_singleton.1 hg
      trivial
  | cons p ps ih =>
      have hrest : Paired (join ps) := h.of_suffix ⟨p.text, rfl⟩
      rcases List.mem_cons.1 hg with rfl | hg
      · rcases exists_eq_cut_fst_append (p :: ps) with he | ⟨behind, he⟩
        · rwa [← he]
        · rw [he, join_append, join_cons] at h
          exact h.of_append_cons (by decide)
      · refine ih hrest ?_
        by_cases hp : p = .semicolon
        · rwa [hp, cut_semicolon] at hg
        · rw [cut_cons hp] at hg
          exact List.mem_cons_of_mem _ hg

/-- The carriage returns of a statement stand before line feeds of the statement. -/
theorem paired_of_mem_segments {s : List Char} (h : Paired s) {seg : Segment}
    (hseg : seg ∈ segments s) : Paired seg.text := by
  obtain ⟨g, hg, he⟩ := exists_group_of_mem hseg
  rw [he]
  refine paired_join_of_mem_cut ?_ hg
  rwa [join_scan]

end SqlContract.Sql
