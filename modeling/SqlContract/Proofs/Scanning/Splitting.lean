/-
How a text falls into its statements.

A text is cut at its semicolons, and each statement is kept as it is written, together with the line
that it starts on.  So the text can be put together again from its statements, and what is missing at
its end says nothing.

Main definitions:

* `SeparatorAt` — the places where a semicolon ends a statement: those outside literals, quoted
  identifiers and comments;
* `LineFrom` — the line of the first character from a place on that is no blank;
* `spelled` — the text of some statements, with the semicolons that end them.

Main results:

* `separatorAt_iff` — a separator is a piece of its own;
* `exists_eq_spelled_append` — nothing is lost but an end that says nothing;
* `pairwise_line_segmentsOf` — the lines of statements never decrease;
* `segments_split` — **a text is its statements, each up to the first separator and with its line**.
-/

import SqlContract.Proofs.Scanning.Locality

set_option autoImplicit false
set_option relaxedAutoImplicit false

namespace SqlContract.Sql

open SqlContract.Text

/-! ### Separators -/

/-- Whether a piece is a literal, a quoted identifier or a comment. -/
def Piece.isCover : Piece → Bool
  | .quoted .. | .lineComment _ | .blockComment _ => true
  | .plain _ | .semicolon | .placeholder _ | .percent => false

/-- A semicolon that stands at a place of a text, outside literals, quoted identifiers and comments. -/
structure SeparatorAt (s : List Char) (place : Nat) : Prop where
  getElem?_eq : s[place]? = some ';'
  uncovered : ∀ o ∈ occurrences s, o.piece.isCover = true → place < o.start ∨ o.stop ≤ place

theorem Piece.isPlain_of_isCover {p : Piece} (h : p.isCover = true) : p.isPlain = false := by
  cases p <;> trivial

/-- A piece that holds a semicolon covers it, or is it. -/
theorem Starts.isCover_or_eq {c : Char} {cs rest : List Char} {p : Piece} (h : Starts c cs p rest)
    (hp : ';' ∈ p.text) : p.isCover = true ∨ p = .semicolon := by
  cases h with
  | quoted | lineComment | blockComment => exact .inl rfl
  | semicolon => exact .inr rfl
  | openQuote q => cases q <;> exact absurd hp (by decide)
  | dash | openComment | slash | percent => exact absurd hp (by decide)
  | placeholder cs =>
      have hdigit := List.mem_takeWhile_imp ((List.mem_cons.1 hp).resolve_left (by decide))
      exact absurd hdigit (by decide)
  | plain _ hm =>
      rw [← List.mem_singleton.1 hp] at hm
      exact absurd hm (by decide)

theorem isCover_or_eq_of_mem_scan {s : List Char} {p : Piece} (h : p ∈ scan s) (hp : ';' ∈ p.text) :
    p.isCover = true ∨ p = .semicolon := by
  induction s using scan_induction with
  | nil => simp at h
  | cons c cs q rest hs ih =>
      rw [hs.scan_eq] at h
      rcases List.mem_cons.1 h with rfl | h
      · exact hs.isCover_or_eq hp
      · exact ih h

/-- An occurrence stands where the pieces before it end. -/
theorem exists_append_of_mem {start : Nat} {ps : List Piece} {o : Occurrence}
    (h : o ∈ occurrencesFrom start ps) :
    ∃ as bs, ps = as ++ o.piece :: bs ∧ o.start = start + (join as).length := by
  induction ps generalizing start with
  | nil => exact absurd h List.not_mem_nil
  | cons p ps ih =>
      have hrest : o ∈ occurrencesFrom (start + p.text.length) ps →
          ∃ as bs, p :: ps = as ++ o.piece :: bs ∧ o.start = start + (join as).length := by
        intro hm
        obtain ⟨as, bs, rfl, hstart⟩ := ih hm
        refine ⟨p :: as, bs, rfl, ?_⟩
        rw [hstart, join_cons, List.length_append, Nat.add_assoc]
      cases hp : p.isPlain with
      | true =>
          simp only [occurrencesFrom, hp, if_true] at h
          exact hrest h
      | false =>
          rw [occurrencesFrom_cons_of_not hp] at h
          rcases List.mem_cons.1 h with rfl | h
          · exact ⟨[], ps, rfl, rfl⟩
          · exact hrest h

/-- A character of a text belongs to a piece, with the part `w` of the piece before it. -/
theorem exists_piece_of_getElem? {s : List Char} {place : Nat} {c : Char} (h : s[place]? = some c) :
    ∃ as p bs w v, scan s = as ++ p :: bs ∧ p.text = w ++ c :: v ∧
      place = (join as).length + w.length := by
  have hlt : place < (join (scan s)).length := by
    rw [join_scan]
    exact (List.getElem?_eq_some_iff.1 h).1
  obtain ⟨as, p, bs, w, v, hscan, hp, hv, hplace⟩ := exists_piece_at hlt
  obtain ⟨d, v, rfl⟩ := List.exists_cons_of_ne_nil hv
  have htext : s = (join as ++ w) ++ d :: (v ++ join bs) := by
    rw [← join_scan s, hscan, join_append, join_cons, hp]
    simp only [List.append_assoc, List.cons_append]
  rw [htext, hplace, ← List.length_append, List.getElem?_append_right (Nat.le_refl _),
    Nat.sub_self] at h
  obtain rfl := Option.some.inj h
  exact ⟨as, p, bs, w, v, hscan, hp, hplace⟩

theorem SeparatorAt.mem_occurrences {s : List Char} {place : Nat} (h : SeparatorAt s place) :
    ⟨.semicolon, place⟩ ∈ occurrences s := by
  obtain ⟨as, p, bs, w, v, hscan, hp, hplace⟩ := exists_piece_of_getElem? h.getElem?_eq
  have hin : p ∈ scan s := by
    rw [hscan]
    exact List.mem_append_right as List.mem_cons_self
  have hmem : ';' ∈ p.text := by
    rw [hp]
    exact List.mem_append_right w List.mem_cons_self
  rcases isCover_or_eq_of_mem_scan hin hmem with hcover | rfl
  · -- a covering piece would reach over the place
    have hoccurs : (⟨p, (join as).length⟩ : Occurrence) ∈ occurrences s := by
      rw [occurrences, hscan]
      exact mem_occurrencesFrom_append (Piece.isPlain_of_isCover hcover) as bs
    have hlength := congrArg List.length hp
    rw [List.length_append, List.length_cons] at hlength
    have hout := h.uncovered _ hoccurs hcover
    simp only [Occurrence.stop] at hout
    omega
  · have hw : w = [] := by
      cases w with
      | nil => rfl
      | cons e w => simp [Piece.text] at hp
    rw [hplace, hw, List.length_nil, Nat.add_zero, occurrences, hscan]
    exact mem_occurrencesFrom_append rfl as bs

theorem separatorAt_of_mem {s : List Char} {place : Nat} (h : ⟨.semicolon, place⟩ ∈ occurrences s) :
    SeparatorAt s place := by
  obtain ⟨as, bs, hscan, hplace⟩ := exists_append_of_mem h
  obtain rfl : place = (join as).length := hplace.trans (Nat.zero_add _)
  refine ⟨?_, fun o ho hcover => ?_⟩
  · rw [← join_scan s, hscan, join_append, join_cons, List.getElem?_append_right (Nat.le_refl _),
      Nat.sub_self]
    rfl
  · -- no other piece reaches over the place
    by_contra hreach
    rw [not_or, Nat.not_lt, Nat.not_le] at hreach
    rw [occurrences, hscan] at ho
    obtain rfl := eq_of_mem_of_start_le ho hreach.1 hreach.2 (Nat.le_refl _) (Nat.lt_succ_self _)
    cases hcover

/-- **A separator is a piece of its own.** -/
theorem separatorAt_iff {s : List Char} {place : Nat} :
    SeparatorAt s place ↔ ⟨.semicolon, place⟩ ∈ occurrences s :=
  ⟨SeparatorAt.mem_occurrences, separatorAt_of_mem⟩

/-! ### Lines -/

/-- A line is that of the first character from a place of a text on that is neither a space, a tab, a
carriage return nor a line feed. -/
def LineFrom (s : List Char) (start line : Nat) : Prop :=
  ∃ place c, start ≤ place ∧ s[place]? = some c ∧ c ∉ [' ', '\t', '\r', '\n'] ∧
    (∀ k d, start ≤ k → k < place → s[k]? = some d → d ∈ [' ', '\t', '\r', '\n']) ∧
    line = 1 + lineFeeds (s.take place)

theorem isLineBlank_iff {c : Char} : isLineBlank c = true ↔ c ∈ [' ', '\t', '\r', '\n'] := by
  simp [isLineBlank, or_assoc]

/-- The line that a part of a text starts on, where anything but such a blank stands in the part or
right behind it. -/
theorem lineFrom_startLine {before inside behind : List Char} {c : Char}
    (h : (inside.dropWhile isLineBlank ++ behind).head? = some c) (hc : isLineBlank c = false) :
    LineFrom (before ++ (inside ++ behind)) before.length
      (startLine (1 + lineFeeds before) inside) := by
  set blanks := inside.takeWhile isLineBlank with hblanks
  obtain ⟨rest, hrest⟩ := List.head?_eq_some_iff.1 h
  have hcut : before ++ (inside ++ behind) = (before ++ blanks) ++ c :: rest := by
    rw [← hrest, hblanks, List.append_assoc, ← List.append_assoc (inside.takeWhile _),
      List.takeWhile_append_dropWhile]
  refine ⟨(before ++ blanks).length, c, ?_, ?_, ?_, ?_, ?_⟩
  · rw [List.length_append]
    exact Nat.le_add_right ..
  · rw [hcut, List.getElem?_append_right (Nat.le_refl _), Nat.sub_self]
    rfl
  · rw [← isLineBlank_iff, hc]
    decide
  · intro k d hlo hhi hd
    rw [hcut, List.getElem?_append_left hhi, List.getElem?_append_right hlo] at hd
    exact isLineBlank_iff.1 (List.mem_takeWhile_imp (List.mem_of_getElem? hd))
  · rw [hcut, List.take_left, lineFeeds_append, startLine, Nat.add_assoc]

/-- What is left without comments is a part of the text. -/
theorem mem_of_mem_withoutComments {s : List Char} {c : Char} (h : c ∈ withoutComments s) : c ∈ s := by
  obtain ⟨p, hp, hc⟩ := List.mem_flatMap.1 h
  rw [← join_scan s]
  exact List.mem_flatMap.2 ⟨p, List.mem_of_mem_filter hp, hc⟩

/-- Behind such blanks stands something else. -/
theorem exists_head?_dropWhile {s : List Char} (h : s.dropWhile isLineBlank ≠ []) :
    ∃ c, (s.dropWhile isLineBlank).head? = some c ∧ isLineBlank c = false :=
  ⟨_, List.head?_eq_some_head h, by simpa using List.head_dropWhile_not isLineBlank h⟩

/-- A statement that says something does not hold such blanks alone. -/
theorem dropWhile_ne_nil {s : List Char} (h : strip (withoutComments s) ≠ []) :
    s.dropWhile isLineBlank ≠ [] := by
  intro hnil
  refine h (strip_eq_nil_iff.2 fun c hc => ?_)
  have hblank := List.dropWhile_eq_nil_iff.1 hnil c (mem_of_mem_withoutComments hc)
  have hlisted := isLineBlank_iff.1 hblank
  fin_cases hlisted <;> decide

/-- Statements start no later than they end, and the next one starts there. -/
theorem startLine_le (line : Nat) (s : List Char) :
    line ≤ startLine line s ∧ startLine line s ≤ line + lineFeeds s := by
  have hle : lineFeeds (s.takeWhile isLineBlank) ≤ lineFeeds s :=
    List.Sublist.count_le _ (List.takeWhile_sublist _)
  unfold startLine
  omega

/-- **The lines of statements never decrease.** -/
theorem pairwise_line_segmentsOf (line : Nat) (ps : List Piece) :
    (segmentsOf line ps).Pairwise (·.line ≤ ·.line) ∧ ∀ seg ∈ segmentsOf line ps, line ≤ seg.line := by
  induction ps using statement_induction generalizing line with
  | last g hg =>
      rw [segmentsOf_of_not_mem hg]
      split_ifs
      · exact ⟨.nil, fun seg hseg => absurd hseg List.not_mem_nil⟩
      · refine ⟨List.pairwise_singleton _ _, fun seg hseg => ?_⟩
        rw [List.mem_singleton.1 hseg]
        exact (startLine_le line _).1
  | next g ps hg ih =>
      obtain ⟨hpairs, hlater⟩ := ih (line + lineFeeds (join g))
      obtain ⟨hlo, hhi⟩ := startLine_le line (join g)
      rw [segmentsOf_append hg]
      refine ⟨List.pairwise_cons.2 ⟨fun seg hseg => hhi.trans (hlater seg hseg), hpairs⟩, ?_⟩
      intro seg hseg
      rcases List.mem_cons.1 hseg with rfl | hseg
      · exact hlo
      · exact (Nat.le_add_right ..).trans (hlater seg hseg)

/-! ### Nothing is lost -/

/-- The text of some statements, with the semicolons that end them. -/
def spelled (segs : List Segment) : List Char :=
  segs.flatMap fun seg => seg.text ++ if seg.terminated then [';'] else []

/-- **Nothing is lost but an end that says nothing**, and nothing at all behind a statement that no
semicolon ends. -/
theorem exists_eq_spelled_append (line : Nat) (ps : List Piece) :
    ∃ g, g <:+ ps ∧ join ps = spelled (segmentsOf line ps) ++ join g ∧
      (g = [] ∨ (∀ seg ∈ segmentsOf line ps, seg.terminated = true) ∧ strip (code g) = []) := by
  induction ps using statement_induction generalizing line with
  | last g hg =>
      rw [segmentsOf_of_not_mem hg]
      split_ifs with hcode
      · exact ⟨g, List.suffix_refl g, rfl, .inr ⟨fun _ h => absurd h List.not_mem_nil, hcode⟩⟩
      · exact ⟨[], List.nil_suffix, by simp [spelled], .inl rfl⟩
  | next g ps hg ih =>
      obtain ⟨tail, htail, hjoin, hend⟩ := ih (line + lineFeeds (join g))
      rw [segmentsOf_append hg]
      refine ⟨tail, ?_, ?_, ?_⟩
      · exact (htail.trans (List.suffix_cons ..)).trans (List.suffix_append ..)
      · rw [join_append, join_cons, hjoin]
        simp [spelled, Piece.text]
      · refine hend.imp_right fun hend => ⟨fun seg hseg => ?_, hend.2⟩
        rcases List.mem_cons.1 hseg with rfl | hseg
        · rfl
        · exact hend.1 seg hseg

/-! ### One statement in its text -/

namespace Around

variable {line : Nat} {s : List Char} {front back : List Segment} {seg : Segment}

/-- The separators of a text stand before a statement, or behind it. -/
theorem le_of_separatorAt (a : Around line (scan s) front seg back) {place : Nat}
    (h : SeparatorAt s place) (hstart : (closed front).length ≤ place) :
    seg.terminated = true ∧ (closed front).length + seg.text.length ≤ place := by
  have hmem := separatorAt_iff.1 h
  rw [occurrences, a.pieces_eq, occurrencesFrom_append, occurrencesFrom_append, a.join_before,
    a.join_inside, Nat.zero_add] at hmem
  rcases List.mem_append.1 hmem with hbefore | hmem
  · have hstop := (within_of_mem hbefore).2
    rw [a.join_before] at hstop
    simp only [Occurrence.stop, Piece.text, List.length_singleton] at hstop
    omega
  rcases List.mem_append.1 hmem with hinside | hbehind
  · obtain ⟨as, bs, hpieces, -⟩ := exists_append_of_mem hinside
    refine absurd ?_ a.semicolon_notMem
    rw [hpieces]
    exact List.mem_append_right as List.mem_cons_self
  · refine ⟨?_, (within_of_mem hbehind).1⟩
    by_contra hopen
    rw [a.behind_eq, if_neg hopen] at hbehind
    exact absurd hbehind List.not_mem_nil

/-- The semicolon that ends a statement is a separator. -/
theorem separatorAt (a : Around line (scan s) front seg back) (h : seg.terminated = true) :
    SeparatorAt s ((closed front).length + seg.text.length) := by
  have hscan : scan s = (a.before ++ a.inside) ++ .semicolon :: a.behind.tail := by
    have hbehind := a.behind_eq
    rw [if_pos h] at hbehind
    rw [List.append_assoc, ← hbehind]
    exact a.pieces_eq
  have hplace : (closed front).length + seg.text.length = (join (a.before ++ a.inside)).length := by
    rw [join_append, a.join_before, a.join_inside, List.length_append]
  have hmem := mem_occurrencesFrom_append (p := .semicolon) rfl (a.before ++ a.inside) a.behind.tail
  rw [← hscan] at hmem
  rw [separatorAt_iff, hplace]
  exact hmem

/-- Nothing follows a statement that no semicolon ends. -/
theorem back_eq_nil (a : Around line (scan s) front seg back) (h : seg.terminated = false) :
    back = [] := by
  have hbehind := a.behind_eq
  rw [if_neg (by simp [h])] at hbehind
  rw [a.back_eq, hbehind]
  rfl

/-- The statement and those behind it are what the pieces from its start on make. -/
theorem cons_back_eq (a : Around line (scan s) front seg back)
    (h : segmentsOf line (scan s) = front ++ seg :: back) :
    segmentsOf (line + lineFeeds (closed front)) (a.inside ++ a.behind) = seg :: back := by
  rw [a.pieces_eq, a.segmentsOf_before] at h
  exact List.append_cancel_left h

/-- A statement has the line of the first character in it, or that of the semicolon behind it. -/
theorem lineFrom (a : Around 1 (scan s) front seg back)
    (h : segmentsOf 1 (scan s) = front ++ seg :: back) :
    LineFrom s (closed front).length seg.line := by
  have hcons := a.cons_back_eq h
  have htext := a.text_eq
  cases hterminated : seg.terminated with
  | true =>
      have hbehind := a.behind_eq
      rw [if_pos hterminated] at hbehind
      rw [hbehind, segmentsOf_append a.semicolon_notMem, a.join_inside, List.cons.injEq] at hcons
      rw [← hcons.1, htext, hbehind, join_cons]
      by_cases hdrop : seg.text.dropWhile isLineBlank = []
      · exact lineFrom_startLine (c := ';') (by rw [hdrop]; rfl) rfl
      · obtain ⟨c, hhead, hc⟩ := exists_head?_dropWhile hdrop
        exact lineFrom_startLine (head?_of_append hhead) hc
  | false =>
      have hbehind := a.behind_eq
      rw [if_neg (by simp [hterminated])] at hbehind
      rw [hbehind, List.append_nil, segmentsOf_of_not_mem a.semicolon_notMem, a.join_inside] at hcons
      split_ifs at hcons with hcode
      rw [List.cons.injEq] at hcons
      rw [← a.scan_eq] at hcode
      obtain ⟨c, hhead, hc⟩ := exists_head?_dropWhile (dropWhile_ne_nil hcode)
      rw [← hcons.1, htext, hbehind]
      exact lineFrom_startLine (head?_of_append hhead) hc

end Around

/-- **A text is its statements, each up to the first separator and with its line.**  The statements
with the semicolons that end them are the text up to an end of it, which is empty or, where a
semicolon ends every statement, says nothing.  Only the last statement can go without a semicolon.
One that has it ends at the first separator from its start on, and there is none from the start of one
that does not.  The line of a statement is that of the first character from its start on that is
neither a space, a tab, a carriage return nor a line feed, and the lines never decrease. -/
theorem segments_split (s : List Char) :
    (∃ tail, s = spelled (segments s) ++ tail ∧
      (tail = [] ∨
        (∀ seg ∈ segments s, seg.terminated = true) ∧ strip (withoutComments tail) = [])) ∧
    (∀ front seg back, segments s = front ++ seg :: back →
      (∀ f ∈ front, f.terminated = true) ∧
      (seg.terminated = true →
        SeparatorAt s ((closed front).length + seg.text.length) ∧
          ∀ place, (closed front).length ≤ place →
            place < (closed front).length + seg.text.length → ¬ SeparatorAt s place) ∧
      (seg.terminated = false → ∀ place, (closed front).length ≤ place → ¬ SeparatorAt s place) ∧
      LineFrom s (closed front).length seg.line) ∧
    (segments s).Pairwise (·.line ≤ ·.line) := by
  rw [segments_eq_segmentsOf]
  refine ⟨?_, ?_, (pairwise_line_segmentsOf 1 (scan s)).1⟩
  · obtain ⟨g, hg, hjoin, hend⟩ := exists_eq_spelled_append 1 (scan s)
    rw [join_scan] at hjoin
    refine ⟨join g, hjoin, hend.imp (fun hnil => by rw [hnil, join_nil]) fun hend => ⟨hend.1, ?_⟩⟩
    rw [withoutComments, scan_join_of_infix hg.isInfix]
    exact hend.2
  · intro front seg back h
    obtain ⟨a⟩ := exists_around h
    refine ⟨?_, fun hend => ⟨a.separatorAt hend, ?_⟩, ?_, a.lineFrom h⟩
    · intro f hf
      -- a statement that no semicolon ends would be the last one
      by_contra hopen
      obtain ⟨before, behind, rfl⟩ := List.append_of_mem hf
      rw [List.append_assoc] at h
      obtain ⟨b⟩ := exists_around h
      simpa using b.back_eq_nil (by simpa using hopen)
    · intro place hlo hhi hseparator
      have hle := (a.le_of_separatorAt hseparator hlo).2
      omega
    · intro hopen place hlo hseparator
      have hend := (a.le_of_separatorAt hseparator hlo).1
      rw [hopen] at hend
      cases hend

/-- An empty statement, a semicolon in a literal and one in a comment, and an end that says nothing. -/
theorem segments_split_tail :
    let s := "\n;SELECT ';'; -- ;\n".toList
    segments s = [⟨"\n".toList, 2, true⟩, ⟨"SELECT ';'".toList, 2, true⟩] ∧
      LineFrom s 2 2 ∧ SeparatorAt s 12 ∧ ¬ SeparatorAt s 10 := by
  intro s
  have hsegments : segments s = [⟨"\n".toList, 2, true⟩, ⟨"SELECT ';'".toList, 2, true⟩] := by
    decide +kernel
  obtain ⟨-, hplaces, -⟩ := segments_split s
  obtain ⟨-, hend, -, hline⟩ := hplaces [⟨"\n".toList, 2, true⟩] _ [] hsegments
  obtain ⟨hseparator, hnone⟩ := hend rfl
  exact ⟨hsegments, hline, hseparator, hnone 10 (by decide) (by decide)⟩

end SqlContract.Sql
