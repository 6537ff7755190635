/-
A statement is scanned alone as it is scanned in its text.

The statements of a text are the parts between its semicolons.  Everything that reads a statement
scans its text again, without what stands before and behind it: an unclosed quote or comment in the
whole text is then cut short.  The second scan finds the same pieces all the same, at the same places,
so whatever is said of a statement alone is said of a part of the text.

Main definitions:

* `segmentsOf` — the statements that some pieces make;
* `closed` — the text of statements, each with its semicolon;
* `Around` — the pieces before, in and behind one of the statements.

Main results:

* `exists_around` — every statement has its place among the pieces of the text;
* `filter_within` — the occurrences that lie in a part of a text;
* `segment_local` — **scanning a statement alone is scanning its part of the text**.
-/

import SqlContract.Proofs.Remote.Format
import SqlContract.Proofs.Scanning.Occurrences
import SqlContract.Proofs.Scanning.Statements

set_option autoImplicit false
set_option relaxedAutoImplicit false

namespace SqlContract.Sql

open SqlContract.Text

/-! ### Statements and their pieces -/

/-- The statements that some pieces make, of which the first begins on line `line`. -/
def segmentsOf (line : Nat) (ps : List Piece) : List Segment :=
  segmentsFrom line (cut ps).1 (cut ps).2

theorem segments_eq_segmentsOf (s : List Char) : segments s = segmentsOf 1 (scan s) := rfl

/-- The pieces up to the first semicolon make a statement. -/
theorem segmentsOf_append {g : List Piece} (h : .semicolon ∉ g) (line : Nat) (ps : List Piece) :
    segmentsOf line (g ++ .semicolon :: ps) =
      ⟨join g, startLine line (join g), true⟩ :: segmentsOf (line + lineFeeds (join g)) ps := by
  unfold segmentsOf
  rw [cut_append h, segmentsFrom]

/-- Pieces without a semicolon make one statement, if they say anything. -/
theorem segmentsOf_of_not_mem {g : List Piece} (h : .semicolon ∉ g) (line : Nat) :
    segmentsOf line g =
      if strip (code g) = [] then [] else [⟨join g, startLine line (join g), false⟩] := by
  unfold segmentsOf
  rw [cut_of_not_mem h, segmentsFrom]
  simp only [List.isEmpty_iff]

/-- Induction along the statements of some pieces. -/
@[elab_as_elim]
theorem statement_induction {motive : List Piece → Prop}
    (last : ∀ g, .semicolon ∉ g → motive g)
    (next : ∀ g ps, .semicolon ∉ g → motive ps → motive (g ++ .semicolon :: ps))
    (ps : List Piece) : motive ps := by
  induction hn : ps.length using Nat.strong_induction_on generalizing ps with
  | _ n ih =>
      by_cases h : .semicolon ∈ ps
      · obtain ⟨g, qs, rfl, hg⟩ := List.eq_append_cons_of_mem h
        refine next g qs hg (ih qs.length ?_ qs rfl)
        rw [← hn, List.length_append, List.length_cons]
        omega
      · exact last ps h

/-- The text of some statements, each with a semicolon behind it. -/
def closed (segs : List Segment) : List Char :=
  segs.flatMap fun seg => seg.text ++ [';']

theorem closed_cons (seg : Segment) (segs : List Segment) :
    closed (seg :: segs) = seg.text ++ ';' :: closed segs := by
  simp [closed]

/-! ### The place of a statement -/

/-- The pieces around the statement `seg`, which stands behind the statements `front` and before the
statements `back` of some pieces. -/
structure Around (line : Nat) (ps : List Piece) (front : List Segment) (seg : Segment)
    (back : List Segment) where
  before : List Piece
  inside : List Piece
  behind : List Piece
  pieces_eq : ps = before ++ (inside ++ behind)
  join_before : join before = closed front
  /-- Nothing stands between the statement and the semicolon of the one before it. -/
  getLast?_before : ∀ p ∈ before.getLast?, p = .semicolon
  join_inside : join inside = seg.text
  semicolon_notMem : .semicolon ∉ inside
  behind_eq : behind = if seg.terminated then .semicolon :: behind.tail else []
  back_eq : back = segmentsOf (line + lineFeeds (closed front ++ seg.text)) behind.tail
  /-- The statements before it do not depend on what follows them. -/
  segmentsOf_before : ∀ qs,
    segmentsOf line (before ++ qs) = front ++ segmentsOf (line + lineFeeds (closed front)) qs

theorem lineFeeds_append (s t : List Char) : lineFeeds (s ++ t) = lineFeeds s + lineFeeds t :=
  List.count_append

/-- The first statement of some pieces. -/
def Around.first {g : List Piece} (h : .semicolon ∉ g) (line : Nat) (ps : List Piece) :
    Around line (g ++ .semicolon :: ps) [] ⟨join g, startLine line (join g), true⟩
      (segmentsOf (line + lineFeeds (join g)) ps) where
  before := []
  inside := g
  behind := .semicolon :: ps
  pieces_eq := rfl
  join_before := rfl
  getLast?_before := by simp
  join_inside := rfl
  semicolon_notMem := h
  behind_eq := rfl
  back_eq := rfl
  segmentsOf_before := fun _ => rfl

/-- The only statement of some pieces. -/
def Around.only {g : List Piece} (h : .semicolon ∉ g) (line : Nat) :
    Around line g [] ⟨join g, startLine line (join g), false⟩ [] where
  before := []
  inside := g
  behind := []
  pieces_eq := (List.append_nil g).symm
  join_before := rfl
  getLast?_before := by simp
  join_inside := rfl
  semicolon_notMem := h
  behind_eq := rfl
  back_eq := rfl
  segmentsOf_before := fun _ => rfl

/-- A statement that stands behind one more statement. -/
def Around.behindFirst {g ps : List Piece} (h : .semicolon ∉ g) {line : Nat}
    {front back : List Segment} {seg : Segment}
    (a : Around (line + lineFeeds (join g)) ps front seg back) :
    Around line (g ++ .semicolon :: ps) (⟨join g, startLine line (join g), true⟩ :: front) seg
      back where
  before := g ++ .semicolon :: a.before
  inside := a.inside
  behind := a.behind
  pieces_eq := by simp [← a.pieces_eq]
  join_before := by rw [closed_cons, join_append, join_cons, a.join_before]; rfl
  getLast?_before := by
    intro p hp
    rw [List.getLast?_append, List.getLast?_cons] at hp
    cases hlast : a.before.getLast? with
    | none =>
        rw [hlast] at hp
        exact (Option.some.inj hp).symm
    | some q =>
        rw [hlast] at hp
        exact (Option.some.inj hp) ▸ a.getLast?_before q hlast
  join_inside := a.join_inside
  semicolon_notMem := a.semicolon_notMem
  behind_eq := a.behind_eq
  back_eq := by
    have hsemi : lineFeeds [';'] = 0 := by decide
    refine a.back_eq.trans (congrArg (segmentsOf · a.behind.tail) ?_)
    rw [closed_cons, ← List.singleton_append]
    simp only [lineFeeds_append, hsemi]
    omega
  segmentsOf_before := by
    intro qs
    have hsemi : lineFeeds [';'] = 0 := by decide
    have hline : line + lineFeeds (join g) + lineFeeds (closed front) =
        line + lineFeeds (closed (⟨join g, startLine line (join g), true⟩ :: front)) := by
      rw [closed_cons, ← List.singleton_append]
      simp only [lineFeeds_append, hsemi]
      omega
    rw [List.append_assoc, List.cons_append, segmentsOf_append h, a.segmentsOf_before, hline]
    rfl

/-- **Every statement has its place among the pieces.** -/
theorem exists_around {line : Nat} {ps : List Piece} {front back : List Segment} {seg : Segment}
    (h : segmentsOf line ps = front ++ seg :: back) : Nonempty (Around line ps front seg back) := by
  induction ps using statement_induction generalizing line front with
  | last g hg =>
      rw [segmentsOf_of_not_mem hg] at h
      split_ifs at h
      · simp at h
      · cases front with
        | nil =>
            obtain ⟨rfl, rfl⟩ := List.cons.inj h
            exact ⟨.only hg line⟩
        | cons f front => simp at h
  | next g ps hg ih =>
      rw [segmentsOf_append hg] at h
      cases front with
      | nil =>
          obtain ⟨rfl, rfl⟩ := List.cons.inj h
          exact ⟨.first hg line ps⟩
      | cons f front =>
          obtain ⟨rfl, hback⟩ := List.cons.inj h
          obtain ⟨a⟩ := ih hback
          exact ⟨a.behindFirst hg⟩

namespace Around

variable {line : Nat} {s : List Char} {front back : List Segment} {seg : Segment}

/-- A statement scans to its own pieces. -/
theorem scan_eq (a : Around line (scan s) front seg back) : scan seg.text = a.inside := by
  have hpart : a.inside <:+: scan s :=
    ⟨a.before, a.behind, (List.append_assoc ..).trans a.pieces_eq.symm⟩
  rw [← a.join_inside]
  exact scan_join_of_infix hpart

/-- The text is what stands before, in and behind the statement. -/
theorem text_eq (a : Around line (scan s) front seg back) :
    s = closed front ++ (seg.text ++ join a.behind) := by
  have hjoin := congrArg join a.pieces_eq
  rwa [join_scan, join_append, join_append, a.join_before, a.join_inside] at hjoin

end Around

/-! ### Occurrences in a part of a text -/

/-- The occurrences that lie in a part of a text are those among the pieces of the part. -/
theorem filter_within (start : Nat) (as bs cs : List Piece) :
    (occurrencesFrom start (as ++ (bs ++ cs))).filter
        (·.within (start + (join as).length) (start + (join as).length + (join bs).length)) =
      occurrencesFrom (start + (join as).length) bs := by
  have hbefore : (occurrencesFrom start as).filter
      (·.within (start + (join as).length) (start + (join as).length + (join bs).length)) = [] := by
    refine List.filter_eq_nil_iff.2 fun o ho => ?_
    have hlt := o.start_lt_stop
    have hstop := (within_of_mem ho).2
    simp only [Occurrence.within, Bool.and_eq_true, decide_eq_true_eq]
    omega
  have hbehind : (occurrencesFrom (start + (join as).length + (join bs).length) cs).filter
      (·.within (start + (join as).length) (start + (join as).length + (join bs).length)) = [] := by
    refine List.filter_eq_nil_iff.2 fun o ho => ?_
    have hlt := o.start_lt_stop
    have hstart := (within_of_mem ho).1
    simp only [Occurrence.within, Bool.and_eq_true, decide_eq_true_eq]
    omega
  have hinside : (occurrencesFrom (start + (join as).length) bs).filter
      (·.within (start + (join as).length) (start + (join as).length + (join bs).length)) =
        occurrencesFrom (start + (join as).length) bs := by
    refine List.filter_eq_self.2 fun o ho => ?_
    have hin := within_of_mem ho
    simp only [Occurrence.within, Bool.and_eq_true, decide_eq_true_eq]
    exact hin
  rw [occurrencesFrom_append, occurrencesFrom_append, List.filter_append, List.filter_append,
    hbefore, hbehind, hinside, List.nil_append, List.append_nil]

/-! ### What is read off the occurrences -/

/-- Only placeholders are numbered. -/
theorem numbersFrom_filter (largest : Nat) (ps : List Piece) :
    numbersFrom largest (ps.filter (!·.isPlain)) = numbersFrom largest ps := by
  induction ps generalizing largest with
  | nil => rfl
  | cons p ps ih =>
      cases p with
      | placeholder digits =>
          rw [List.filter_cons_of_pos rfl]
          exact congrArg (placeholderNumber largest digits :: ·) (ih _)
      | plain => exact ih largest
      | quoted | lineComment | blockComment | semicolon | percent =>
          rw [List.filter_cons_of_pos rfl]
          exact ih largest

/-- What a piece leaves of a text when comments are taken out. -/
def Piece.code (p : Piece) : List Char :=
  if p.isComment then [] else p.text

theorem code_eq_flatMap (ps : List Piece) : code ps = ps.flatMap Piece.code := by
  induction ps with
  | nil => rfl
  | cons p ps ih =>
      unfold code at ih ⊢
      cases hp : p.isComment with
      | true => rw [List.filter_cons_of_neg (by simp [hp]), ih, List.flatMap_cons, Piece.code, hp]; rfl
      | false =>
          rw [List.filter_cons_of_pos (by simp [hp]), join_cons, ih, List.flatMap_cons, Piece.code,
            hp]
          rfl

/-- A percent sign is never an ordinary character. -/
theorem ne_percent_of_mem_scan {s : List Char} {c : Char} (h : .plain c ∈ scan s) : c ≠ '%' := by
  induction s using scan_induction with
  | nil => simp at h
  | cons d cs p rest hs ih =>
      rw [hs.scan_eq] at h
      rcases List.mem_cons.1 h with rfl | h
      · rintro rfl
        generalize hp : Piece.plain '%' = p at hs
        cases hs with
        | openQuote q => cases q <;> simp [Quote.char] at hp
        | plain _ hm =>
            obtain rfl := Piece.plain.inj hp
            exact absurd hm (by decide)
        | dash | openComment | slash => simp at hp
        | quoted | lineComment | blockComment | semicolon | placeholder | percent => simp at hp
      · exact ih h

/-- The form for the remote engine leaves ordinary characters as they are. -/
theorem pyformat_plain {s : List Char} {c : Char} (h : .plain c ∈ scan s) :
    (Piece.plain c).pyformat = [c] := by
  have hne := ne_percent_of_mem_scan h
  simp [Piece.pyformat, doublePercent, Piece.text, hne]

/-! ### One statement alone -/

/-- **Scanning a statement alone is scanning its part of the text.**  The statement stands in the
text behind the statements before it, each with its semicolon, and what its own scan finds is what
the scan of the whole text finds inside it.  So the numbers of its placeholders, its text without
comments, and its form for the remote engine can be read off the whole text, and the statements of
its text are itself alone, or none when it says nothing. -/
theorem segment_local {s : List Char} {front back : List Segment} {seg : Segment}
    (h : segments s = front ++ seg :: back) :
    let start := (closed front).length
    let inside := (occurrences s).filter (·.within start (start + seg.text.length))
    let numbers := numbersFrom 0 (inside.map (·.piece))
    closed front ++ seg.text <+: s ∧
      (occurrences seg.text).map (·.shift start) = inside ∧
      placeholderIndexes seg.text = numbers.map (fun (n : Nat) => (n : Int) - 1) ∧
      placeholderCount seg.text = numbers.foldl max 0 ∧
      withoutComments seg.text = splice Piece.code start seg.text inside ∧
      pyformat seg.text = splice Piece.pyformat start seg.text inside ∧
      segments seg.text =
        if strip (withoutComments seg.text) = [] then []
        else [⟨seg.text, startLine 1 seg.text, false⟩] := by
  intro start inside numbers
  obtain ⟨a⟩ := exists_around h
  have hscan : scan seg.text = a.inside := a.scan_eq
  have hinside : inside = occurrencesFrom start (scan seg.text) := by
    have hfilter := filter_within 0 a.before a.inside a.behind
    rw [← a.pieces_eq, a.join_before, a.join_inside, Nat.zero_add] at hfilter
    rw [hscan]
    exact hfilter
  have hnumbers : numbers = placeholderNumbers seg.text := by
    show numbersFrom 0 (inside.map (·.piece)) = _
    rw [hinside, map_piece_occurrencesFrom, numbersFrom_filter]
    rfl
  refine ⟨⟨join a.behind, ?_⟩, ?_, ?_, ?_, ?_, ?_, ?_⟩
  · rw [List.append_assoc]
    exact a.text_eq.symm
  · rw [hinside]
    exact (occurrencesFrom_add start 0 _).symm
  · rw [hnumbers]
    rfl
  · rw [hnumbers]
    rfl
  · have hsplice := splice_occurrences Piece.code (scan seg.text) (fun _ _ => rfl)
      start
    rw [join_scan] at hsplice
    rw [hinside, hsplice, withoutComments, code_eq_flatMap]
  · have hsplice := splice_occurrences Piece.pyformat (scan seg.text)
      (fun _ hc => pyformat_plain hc) start
    rw [join_scan] at hsplice
    rw [hinside, hsplice, pyformat]
  · have hsemi : .semicolon ∉ scan seg.text := hscan ▸ a.semicolon_notMem
    rw [segments_eq_segmentsOf, segmentsOf_of_not_mem hsemi, join_scan]
    rfl

/-- A statement with a literal that ends at half of a doubled quote, an open quote behind it, and an
open comment in the next statement. -/
theorem segment_local_open :
    let s := "SELECT '?;'';', ?2; -- ;\n a 'b''c % ?; /* ?".toList
    let front : List Segment := [⟨"SELECT '?;'';', ?2".toList, 1, true⟩]
    let seg : Segment := ⟨" -- ;\n a 'b''c % ?".toList, 1, true⟩
    segments s = front ++ seg :: [⟨" /* ?".toList, 2, false⟩] ∧
      (occurrences seg.text).map (·.shift 19) =
        (occurrences s).filter (·.within 19 37) ∧
      (occurrences seg.text).map (·.start) = [1, 9, 15, 17] ∧
      placeholderIndexes seg.text = [0] := by
  intro s front seg
  have h : segments s = front ++ seg :: [⟨" /* ?".toList, 2, false⟩] := by decide +kernel
  obtain ⟨-, hinside, hindexes, -⟩ := segment_local h
  refine ⟨h, hinside, by decide +kernel, hindexes.trans ?_⟩
  decide +kernel

end SqlContract.Sql
