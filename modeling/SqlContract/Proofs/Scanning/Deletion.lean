/-
Taking a statement out of a text.

A text without one of its statements is scanned as the whole text is, but for the pieces of that
statement.  What is open before the statement stays open, since less stands behind it than before, and
nothing is put together at the seam, since a semicolon stands there.

Main definitions:

* `deleted` — the text without a statement and the semicolon behind it;
* `Segment.below` — the same statement some lines further down.

Main results:

* `Starts.remove` — what a text starts with stays when a part of it further back is taken out;
* `scan_remove` — **pieces behind a semicolon can be taken out of a scan**;
* `exists_segments_deleted` — **without a statement a text has the other statements**, of which those
  behind it have moved up.
-/

import SqlContract.Proofs.Scanning.Locality

set_option autoImplicit false
set_option relaxedAutoImplicit false

namespace SqlContract.Sql

open SqlContract.Text

/-! ### Taking a part out of a text -/

/-- A closing bracket lies in one of two texts, unless the first ends in an asterisk. -/
theorem closer_infix_of_append {a t : List Char} (ha : a.getLast? ≠ some '*')
    (h : ['*', '/'] <:+: a ++ t) : ['*', '/'] <:+: a ∨ ['*', '/'] <:+: t := by
  rcases List.infix_append_iff.1 h with h | h | ⟨u, v, he, hu, hv⟩
  · exact .inl h
  · exact .inr h
  · cases u with
    | nil =>
        rw [List.nil_append] at he
        exact .inr (he ▸ hv.isInfix)
    | cons c u =>
        obtain ⟨hc, he⟩ := List.cons.inj he
        cases u with
        | nil =>
            obtain ⟨w, rfl⟩ := hu
            exact absurd (by simp [← hc]) ha
        | cons d u =>
            obtain ⟨hd, he⟩ := List.cons.inj he
            obtain ⟨rfl, -⟩ := List.append_eq_nil_iff.1 he.symm
            rw [← hc, ← hd] at hu
            exact .inl hu.isInfix

/-- A run that ends in the text `r` stays the same with another text behind `r`. -/
theorem span_remove {p : Char → Bool} {u r g t : List Char} (hr : r ≠ [])
    (h : (u ++ g).dropWhile p = r ++ g) :
    (u ++ t).takeWhile p = (u ++ g).takeWhile p ∧ (u ++ t).dropWhile p = r ++ t := by
  obtain ⟨htake, hdrop⟩ := span_take h
  obtain ⟨htake', hdrop'⟩ := span_append (p := p) (s := u) (t := t) fun he =>
    absurd (hdrop.symm.trans he) hr
  exact ⟨htake'.trans htake.symm, by rw [hdrop', hdrop]⟩

/-- **What a text starts with stays when a part of it further back is taken out**, as long as the rest
of the text goes on up to a semicolon before the part. -/
theorem Starts.remove {c : Char} {u r g t : List Char} {p : Piece} (hr : r.getLast? = some ';')
    (h : Starts c (u ++ (g ++ t)) p (r ++ (g ++ t))) : Starts c (u ++ t) p (r ++ t) := by
  have hne : r ≠ [] := by
    rintro rfl
    simp at hr
  -- the texts of `Starts` are indices, so both have to be variables before the case split
  generalize hcs : u ++ (g ++ t) = cs at h
  generalize hrest : r ++ (g ++ t) = rest at h
  have hsame : cs = rest → r = u := by
    rintro rfl
    exact List.append_cancel_right (hrest.trans hcs.symm)
  have hhead : ∀ v : List Char, (r ++ v).head? = r.head? := fun v => List.head?_append_of_ne_nil r hne
  -- the piece takes at least what it takes of `u`, so it cannot start behind it
  have hlong : ∀ {d : Char} {ds : List Char}, u ++ (g ++ t) = d :: ds → rest.length ≤ ds.length →
      ∃ ds', u = d :: ds' ∧ ds = ds' ++ (g ++ t) := by
    intro d ds he hle
    cases u with
    | nil =>
        have hpos := List.length_pos_of_ne_nil hne
        have hlen := congrArg List.length he
        have hlen' := congrArg List.length hrest
        simp only [List.nil_append, List.length_append, List.length_cons] at hlen hlen'
        omega
    | cons e u =>
        obtain ⟨rfl, rfl⟩ := List.cons.inj he
        exact ⟨u, rfl, rfl⟩
  cases h with
  | @quoted q _ body _ hq =>
      subst hcs hrest
      obtain ⟨he, hb, hquote⟩ := closeQuote_eq_some_iff.1 hq
      obtain rfl : u = body ++ q.char :: r := List.append_cancel_right (he.trans (by simp))
      refine .quoted q (closeQuote_eq_some_iff.2 ⟨by simp, hb, fun hq' => ?_⟩)
      rw [hhead] at hq' hquote
      have hnot := hquote hq'
      obtain ⟨d, ds, rfl⟩ := List.exists_cons_of_ne_nil hne
      simp only [List.cons_append, List.tail_cons, List.mem_append, not_or] at hnot ⊢
      exact ⟨hnot.1, hnot.2.2⟩
  | openQuote q hq =>
      obtain rfl := hsame rfl
      subst hcs
      simp only [List.mem_append, not_or] at hq
      exact .openQuote q (by simp [hq])
  | lineComment ds =>
      obtain ⟨ds, rfl, rfl⟩ := hlong hcs (List.dropWhile_sublist _).length_le
      obtain ⟨htake, hdrop⟩ := span_remove (t := t) hne hrest.symm
      rw [← htake, ← hdrop]
      exact .lineComment (ds ++ t)
  | dash hd =>
      obtain rfl := hsame rfl
      rw [← hcs, hhead] at hd
      exact .dash (by rwa [hhead])
  | @blockComment ds body _ hc =>
      obtain ⟨he, hb⟩ := closeComment_eq_some_iff.1 hc
      obtain ⟨ds, rfl, rfl⟩ := hlong hcs (by
        rw [he, List.length_append, List.length_cons, List.length_cons]
        omega)
      rw [← hrest] at he
      obtain rfl : ds = body ++ '*' :: '/' :: r := List.append_cancel_right (he.trans (by simp))
      exact .blockComment (closeComment_eq_some_iff.2 ⟨by simp, hb⟩)
  | @openComment ds hc =>
      obtain rfl := hsame rfl
      obtain ⟨d, ds', rfl⟩ := List.exists_cons_of_ne_nil hne
      obtain ⟨rfl, rfl⟩ := List.cons.inj hcs
      refine .openComment fun hi => hc ?_
      have hlast : ds'.getLast? ≠ some '*' := by
        cases ds' with
        | nil => simp
        | cons e es =>
            rw [List.getLast?_cons_cons] at hr
            rw [hr]
            decide
      rcases closer_infix_of_append hlast hi with hi | hi
      · exact hi.trans (List.infix_append' [] ds' (g ++ t))
      · exact hi.trans ⟨ds' ++ g, [], by simp⟩
  | slash hd =>
      obtain rfl := hsame rfl
      rw [← hcs, hhead] at hd
      exact .slash (by rwa [hhead])
  | semicolon =>
      obtain rfl := hsame rfl
      exact .semicolon _
  | placeholder =>
      subst hcs
      obtain ⟨htake, hdrop⟩ := span_remove (t := t) hne hrest.symm
      rw [← htake, ← hdrop]
      exact .placeholder (u ++ t)
  | percent =>
      obtain rfl := hsame rfl
      exact .percent _
  | plain _ hm =>
      obtain rfl := hsame rfl
      exact .plain _ hm

/-- A text whose last piece is a semicolon ends in one. -/
theorem getLast?_join {ps : List Piece} (hne : ps ≠ [])
    (h : ∀ p ∈ ps.getLast?, p = .semicolon) : (join ps).getLast? = some ';' := by
  obtain ⟨qs, p, rfl⟩ := (List.eq_nil_or_concat ps).resolve_left hne
  obtain rfl := h p (by simp)
  simp [Piece.text]

/-- **Pieces behind a semicolon can be taken out of a scan.** -/
theorem scan_remove {s : List Char} {as gs bs : List Piece} (h : scan s = as ++ (gs ++ bs))
    (hlast : ∀ p ∈ as.getLast?, p = .semicolon) : scan (join as ++ join bs) = as ++ bs := by
  have hbs : scan (join bs) = bs := by
    rw [← List.append_assoc] at h
    exact (scan_of_append h).2
  -- along the scan of the whole text; the last piece of `as` needs no look at what follows it
  induction s using scan_induction generalizing as with
  | nil =>
      rw [scan_nil] at h
      obtain ⟨rfl, -⟩ := List.append_eq_nil_iff.1 h.symm
      exact hbs
  | cons c cs p rest hs ih =>
      cases as with
      | nil => exact hbs
      | cons q as =>
          rw [hs.scan_eq, List.cons_append, List.cons.injEq] at h
          obtain ⟨rfl, hrest⟩ := h
          by_cases hne : as = []
          · subst hne
            obtain rfl := hlast p rfl
            have hjoin : join [.semicolon] ++ join bs = ';' :: join bs := rfl
            rw [hjoin, (Starts.semicolon _).scan_eq, hbs]
            rfl
          · have hlast' : ∀ q ∈ as.getLast?, q = .semicolon := by
              intro q hq
              refine hlast q ?_
              rw [List.getLast?_cons, Option.mem_def.1 hq]
              rfl
            have hrec := ih hrest hlast'
            obtain ⟨d, ds, hd⟩ := p.exists_text_eq_cons
            have htext := hs.text_eq
            have hjoin : rest = join as ++ (join gs ++ join bs) := by
              rw [← join_scan rest, hrest, join_append, join_append]
            rw [hd, hjoin, List.cons_append, List.cons.injEq, ← List.append_assoc] at htext
            obtain ⟨rfl, hcs⟩ := htext
            rw [hjoin, ← hcs] at hs
            have hstart := hs.remove (getLast?_join hne hlast')
            rw [join_cons, hd, List.cons_append, List.cons_append, List.append_assoc,
              ← List.append_assoc, hstart.scan_eq, hrec, List.cons_append]

/-! ### Taking out a statement -/

/-- The text `s` without its statement `seg`, which stands behind the statements `front`, and without
the semicolon behind it. -/
def deleted (front : List Segment) (seg : Segment) (s : List Char) : List Char :=
  s.take (closed front).length ++ s.drop ((closed front).length + seg.text.length + 1)

/-- The same statement `n` lines further down. -/
def Segment.below (n : Nat) (seg : Segment) : Segment :=
  { seg with line := n + seg.line }

/-- Further down the same pieces make the same statements. -/
theorem segmentsOf_add (n line : Nat) (ps : List Piece) :
    segmentsOf (n + line) ps = (segmentsOf line ps).map (·.below n) := by
  induction ps using statement_induction generalizing line with
  | last g hg =>
      rw [segmentsOf_of_not_mem hg, segmentsOf_of_not_mem hg]
      split_ifs
      · rfl
      · simp [Segment.below, startLine, Nat.add_assoc]
  | next g ps hg ih =>
      rw [segmentsOf_append hg, segmentsOf_append hg, Nat.add_assoc, ih]
      simp [Segment.below, startLine, Nat.add_assoc]

/-- **Without a statement a text has the other statements.**  Those before it stay as they are, and
those behind it move up by the lines that it took. -/
theorem exists_segments_deleted {s : List Char} {front back : List Segment} {seg : Segment}
    (h : segments s = front ++ seg :: back) :
    ∃ back', segments (deleted front seg s) = front ++ back' ∧
      back = back'.map (·.below (lineFeeds seg.text)) := by
  obtain ⟨a⟩ := exists_around h
  have hdrop : (join a.behind).drop 1 = join a.behind.tail := by
    have he := a.behind_eq
    cases hb : a.behind with
    | nil => rfl
    | cons p ps =>
        rw [hb] at he
        split_ifs at he
        obtain rfl := (List.cons.inj he).1
        rfl
  have htext : deleted front seg s = join a.before ++ join a.behind.tail := by
    have hlen : (closed front).length + seg.text.length = (closed front ++ seg.text).length :=
      List.length_append.symm
    calc deleted front seg s
        = deleted front seg (closed front ++ (seg.text ++ join a.behind)) :=
          congrArg (deleted front seg) a.text_eq
      _ = closed front ++ (join a.behind).drop 1 := by
          rw [deleted, List.take_left, hlen, ← List.append_assoc, ← List.drop_drop, List.drop_left]
      _ = join a.before ++ join a.behind.tail := by rw [hdrop, a.join_before]
  have hscan : scan (deleted front seg s) = a.before ++ a.behind.tail := by
    rw [htext]
    have hpieces := a.pieces_eq
    cases hb : a.behind with
    | nil =>
        rw [hb] at hpieces
        exact scan_remove hpieces a.getLast?_before
    | cons p ps =>
        have hsplit : a.inside ++ a.behind = (a.inside ++ [p]) ++ ps := by
          rw [hb, List.append_assoc, List.singleton_append]
        exact scan_remove (hpieces.trans (congrArg (a.before ++ ·) hsplit)) a.getLast?_before
  refine ⟨segmentsOf (1 + lineFeeds (closed front)) a.behind.tail, ?_, ?_⟩
  · rw [segments_eq_segmentsOf, hscan, a.segmentsOf_before]
  · have hline : 1 + lineFeeds (closed front ++ seg.text) =
        lineFeeds seg.text + (1 + lineFeeds (closed front)) := by
      rw [lineFeeds_append]
      omega
    rw [← segmentsOf_add, ← hline]
    exact a.back_eq

end SqlContract.Sql
