/-
Where markers stand.

A marker is found line by line, and comments and literals are found piece by piece.  The two agree
on a marker unless its line begins inside a block comment, a literal or a quoted identifier: there
the marker still names a query, and everywhere else it is a line comment of the text.

Main definitions:

* `Sql.CommentAt`, `Sql.Enclosed` — the places of a text where a line comment starts, and those
  inside a block comment, a literal or a quoted identifier;
* `Marked.MarkedAt` — the place of the marker that a query is named by.

Main results:

* `Sql.commentAt_iff_not_enclosed` — **a comment sign at the start of a line starts a comment unless it
  is enclosed**;
* `Marked.exists_places` — every query has its marker, and the markers stand in order;
* `Marked.read_places` — **what a text is read as, and where the markers stand**.
-/

import SqlContract.Proofs.Generation.Strictness
import SqlContract.Proofs.Marked.LineEnds
import SqlContract.Proofs.Scanning.Locality
import SqlContract.Proofs.Scanning.Occurrences

set_option autoImplicit false
set_option relaxedAutoImplicit false

namespace SqlContract

open Text Sql

/-! ### Places in a text -/

namespace Sql

/-- Whether a piece encloses what it is made of: a literal, a quoted identifier or a block comment. -/
def Piece.isEnclosing : Piece → Bool
  | .quoted .. | .blockComment _ => true
  | _ => false

/-- Whether a piece is a comment that runs to the end of its line. -/
def Piece.isLineComment : Piece → Bool
  | .lineComment _ => true
  | _ => false

theorem Piece.isPlain_of_isEnclosing {p : Piece} (h : p.isEnclosing = true) : p.isPlain = false := by
  cases p <;> trivial

theorem Piece.isPlain_of_isLineComment {p : Piece} (h : p.isLineComment = true) :
    p.isPlain = false := by
  cases p <;> trivial

/-- A line comment starts at a place of a text. -/
def CommentAt (text : List Char) (place : Nat) : Prop :=
  ∃ o ∈ occurrences text, o.piece.isLineComment = true ∧ o.start = place

/-- A place of a text lies inside a literal, a quoted identifier or a block comment. -/
def Enclosed (text : List Char) (place : Nat) : Prop :=
  ∃ o ∈ occurrences text, o.piece.isEnclosing = true ∧ o.start < place ∧ place < o.stop

instance (text : List Char) (place : Nat) : Decidable (CommentAt text place) :=
  inferInstanceAs (Decidable (∃ o ∈ occurrences text, _))

instance (text : List Char) (place : Nat) : Decidable (Enclosed text place) :=
  inferInstanceAs (Decidable (∃ o ∈ occurrences text, _))

/-- A text starts a line: nothing stands before it, or a line feed. -/
def AtLineStart (before : List Char) : Prop :=
  ∀ c ∈ before.getLast?, c = '\n'

variable {before indent : List Char}

/-- What ends before a comment sign that only spaces stand before on its line is made of spaces or
goes back over the line end. -/
theorem suffix_lineStart_cases {w : List Char} (hbefore : AtLineStart before)
    (hindent : ∀ c ∈ indent, Marker.isSpace c = true) (hw : w <:+ before ++ indent) :
    (∀ c ∈ w, Marker.isSpace c = true) ∨ '\n' ∈ w := by
  rcases List.suffix_or_suffix_of_suffix hw (List.suffix_append before indent) with hw | ⟨u, rfl⟩
  · exact .inl fun c hc => hindent c (hw.subset hc)
  · have hu : u <:+ before := ((List.suffix_append_inj_of_length_eq rfl).1 hw).1
    cases hlast : u.getLast? with
    | none =>
        obtain rfl := List.getLast?_eq_none_iff.1 hlast
        exact .inl hindent
    | some c =>
        obtain ⟨x, rfl⟩ := hu
        have hc : (x ++ u).getLast? = some c := by rw [List.getLast?_append, hlast]; rfl
        obtain rfl := hbefore c hc
        exact .inr (List.mem_append_left _ (List.mem_of_mem_getLast? hlast))

/-- A piece with a comment sign in it that only spaces stand before on its line encloses the sign. -/
theorem Starts.isEnclosing {c : Char} {cs rest w v : List Char} {p : Piece} (h : Starts c cs p rest)
    (hp : p.text = w ++ v) (hne : w ≠ []) (hv : v.head? = some '-') (hbefore : AtLineStart before)
    (hindent : ∀ c ∈ indent, Marker.isSpace c = true) (hw : w <:+ before ++ indent) :
    p.isEnclosing = true := by
  obtain ⟨d, w, rfl⟩ := List.exists_cons_of_ne_nil hne
  obtain ⟨v, rfl⟩ := List.head?_eq_some_iff.1 hv
  -- pieces of one character have no part before the sign
  have hshort : p.text.length ≠ 1 := by
    rw [hp, List.length_append, List.length_cons, List.length_cons]
    omega
  cases h with
  | quoted | blockComment => rfl
  | openQuote | dash | openComment | slash | semicolon | percent | plain => exact absurd rfl hshort
  | lineComment ds =>
      rw [Piece.text, List.cons_append, List.cons.injEq] at hp
      obtain ⟨rfl, hp⟩ := hp
      rcases suffix_lineStart_cases hbefore hindent hw with hspaces | hfeed
      · exact absurd (hspaces '-' List.mem_cons_self) (by decide)
      · have hfeed := (List.mem_cons.1 hfeed).resolve_left (by decide)
        have hbody : '\n' ∈ '-' :: ds.takeWhile (· ≠ '\n') := by
          rw [hp]
          exact List.mem_append_left _ hfeed
        have hbody := (List.mem_cons.1 hbody).resolve_left (by decide)
        exact absurd (List.mem_takeWhile_imp hbody) (by decide)
  | placeholder cs =>
      rw [Piece.text, List.cons_append, List.cons.injEq] at hp
      have hdash : '-' ∈ cs.takeWhile isDigit := by
        rw [hp.2]
        exact List.mem_append_right _ List.mem_cons_self
      exact absurd (List.mem_takeWhile_imp hdash) (by decide)

/-- A piece of a text starts where the pieces before it end. -/
theorem exists_starts_of_scan {text : List Char} {as bs : List Piece} {p : Piece}
    (h : scan text = as ++ p :: bs) :
    ∃ c cs, p.text ++ join bs = c :: cs ∧ Starts c cs p (join bs) := by
  obtain ⟨c, cs, hc⟩ := p.exists_text_eq_cons
  refine ⟨c, cs ++ join bs, by rw [hc]; rfl, ?_⟩
  have hscan := (scan_of_append h).2
  rw [join_cons, hc, List.cons_append, scan_cons, List.cons.injEq] at hscan
  have hrest := congrArg join hscan.2
  rw [join_scan] at hrest
  exact starts_iff.2 (Prod.ext hscan.1 hrest)

/-- A text that starts with a comment sign starts with a line comment. -/
theorem Starts.isLineComment {ds rest : List Char} {p : Piece} (h : Starts '-' ('-' :: ds) p rest) :
    p.isLineComment = true := by
  have hnext := next_of_starts h
  rw [next_of_starts (.lineComment ds), Prod.mk.injEq] at hnext
  rw [← hnext.1]
  rfl

/-- **A comment sign at the start of a line starts a comment unless it is enclosed.** -/
theorem commentAt_iff_not_enclosed {rest : List Char} (hbefore : AtLineStart before)
    (hindent : ∀ c ∈ indent, Marker.isSpace c = true) :
    CommentAt (before ++ (indent ++ '-' :: '-' :: rest)) (before.length + indent.length) ↔
      ¬ Enclosed (before ++ (indent ++ '-' :: '-' :: rest)) (before.length + indent.length) := by
  set text := before ++ (indent ++ '-' :: '-' :: rest) with htext
  set place := before.length + indent.length with hplace
  have hjoin := join_scan text
  -- the piece at the place has `w` before the sign, and `v` from the sign on
  obtain ⟨as, p, bs, w, v, hscan, hp, hv, hat⟩ : ∃ as p bs w v, scan text = as ++ p :: bs ∧
      p.text = w ++ v ∧ v ≠ [] ∧ place = (join as).length + w.length := by
    refine exists_piece_at ?_
    rw [hjoin, htext]
    simp only [List.length_append, List.length_cons]
    omega
  obtain ⟨c, cs, htail, hstarts⟩ := exists_starts_of_scan hscan
  have hcut : (before ++ indent) ++ '-' :: '-' :: rest = (join as ++ w) ++ (v ++ join bs) := by
    rw [hscan, join_append, join_cons, hp] at hjoin
    rw [List.append_assoc, ← htext, ← hjoin]
    simp only [List.append_assoc]
  obtain ⟨hfront, hsign⟩ := List.append_inj hcut (by simpa only [List.length_append] using hat)
  obtain ⟨d, v, rfl⟩ := List.exists_cons_of_ne_nil hv
  obtain rfl : '-' = d := (List.cons.inj hsign).1
  have hlength : p.text.length = w.length + (v.length + 1) := by
    rw [hp, List.length_append, List.length_cons]
  have hsole : ∀ o ∈ occurrences text, o.start ≤ place → place < o.stop →
      o = ⟨p, (join as).length⟩ := by
    intro o ho hstart hstop
    rw [occurrences, hscan] at ho
    exact eq_of_mem_of_start_le ho hstart hstop (by omega) (by omega)
  have hmem : p.isPlain = false → (⟨p, (join as).length⟩ : Occurrence) ∈ occurrences text := by
    intro hplain
    rw [occurrences, hscan]
    exact mem_occurrencesFrom_append hplain as bs
  by_cases hw : w = []
  · subst hw
    rw [hp, List.nil_append, ← hsign, List.cons.injEq] at htail
    obtain ⟨rfl, rfl⟩ := htail
    have hcomment := hstarts.isLineComment
    refine iff_of_true ⟨_, hmem (Piece.isPlain_of_isLineComment hcomment), hcomment, hat.symm⟩ ?_
    rintro ⟨o, ho, -, hlo, hhi⟩
    obtain rfl := hsole o ho hlo.le hhi
    exact absurd hat hlo.ne'
  · have hsuffix : w <:+ before ++ indent := ⟨join as, hfront.symm⟩
    have henclosing := hstarts.isEnclosing hp hw rfl hbefore hindent hsuffix
    have hplain := Piece.isPlain_of_isEnclosing henclosing
    have hpos := List.length_pos_of_ne_nil hw
    refine iff_of_false ?_ (not_not_intro ⟨_, hmem hplain, henclosing, ?_, ?_⟩)
    · rintro ⟨o, ho, -, hstart⟩
      obtain rfl := hsole o ho hstart.le (hstart ▸ o.start_lt_stop)
      dsimp only at hstart
      omega
    · dsimp only
      omega
    · dsimp only [Occurrence.stop]
      omega

end Sql

/-! ### Places of markers -/

namespace Marker

variable {s : List Char} {m : Marker}

theorem eq_append_of_after? {lead : String} {t : List Char} (h : after? lead s = some t) :
    s = lead.toList ++ t := by
  unfold after? at h
  split_ifs at h with hprefix
  obtain ⟨u, rfl⟩ := List.isPrefixOf_iff_prefix.1 hprefix
  rw [← String.length_toList, List.drop_left] at h
  rw [Option.some.inj h]

theorem suffix_of_lineEnd? {t : List Char} (h : lineEnd? s = some t) : t <:+ s := by
  unfold lineEnd? at h
  split at h
  · cases h
    exact List.nil_suffix
  · rename_i hspaces
    split_ifs at h
    cases h
    rw [← hspaces]
    exact List.dropWhile_suffix _

/-- Behind a marker stands what is left of the text. -/
theorem suffix_of_apart?_or_together? {x : List Char × List Char × List Char}
    (h : (apart? s).or (together? s) = some x) : x.2.2 <:+ s := by
  rcases Option.or_eq_some_iff.1 h with h | ⟨-, h⟩
  · unfold apart? at h
    dsimp only at h
    split at h
    · split_ifs at h
      obtain ⟨rest, hrest, rfl⟩ := Option.map_eq_some_iff.1 h
      have hword : rest <:+ stripLeft (takeRun s).2 :=
        (suffix_of_lineEnd? hrest).trans (List.dropWhile_suffix _)
      exact hword.trans ((List.dropWhile_suffix _).trans (List.dropWhile_suffix _))
    · cases h
  · unfold together? at h
    dsimp only at h
    split at h
    · rename_i hrest
      cases h
      exact (suffix_of_lineEnd? hrest).trans (List.dropWhile_suffix _)
    · cases h

/-- **A marker opens with a comment sign behind spaces**, and takes both. -/
theorem exists_sign_of_ofText? (h : ofText? s = some m) :
    ∃ indent rest, s = indent ++ '-' :: '-' :: rest ∧ (∀ c ∈ indent, isSpace c = true) ∧
      indent.length + 2 ≤ m.length := by
  unfold ofText? at h
  split at h
  · cases h
  · rename_i body hopening
    obtain ⟨⟨name, word, behind⟩, hx, rfl⟩ := Option.map_eq_some_iff.1 h
    simp only [opening?, Option.bind_eq_bind, Option.bind_eq_some_iff] at hopening
    obtain ⟨a, ha, b, hb, c, hc, hbody⟩ := hopening
    cases hbody
    have ha := eq_append_of_after? ha
    -- everything behind the sign is no longer than what the sign leaves
    have hshort : behind.length ≤ a.length := by
      have hname := congrArg List.length (eq_append_of_after? hb)
      have hcolon := congrArg List.length (eq_append_of_after? hc)
      have hbehind : behind.length ≤ _ := (suffix_of_apart?_or_together? hx).length_le
      have hstrip (t : List Char) : (stripLeft t).length ≤ t.length :=
        (List.dropWhile_suffix _).length_le
      have h₁ := hstrip a
      have h₂ := hstrip b
      have h₃ := hstrip c
      rw [List.length_append] at hname hcolon
      omega
    have hs : s = s.takeWhile isSpace ++ '-' :: '-' :: a := by
      conv_lhs => rw [← List.takeWhile_append_dropWhile (p := isSpace) (l := s), ha]
      rfl
    refine ⟨s.takeWhile isSpace, a, hs, fun c hc => List.mem_takeWhile_imp hc, ?_⟩
    have hlength : s.length = (s.takeWhile isSpace).length + (a.length + 2) := by
      conv_lhs => rw [hs, List.length_append]
      rfl
    dsimp only
    omega

end Marker

namespace Marked

variable {text : List Char}

/-- The query is named by a marker whose sign has `place` characters of the text before it.  The marker
stands at the start of a line, with spaces before it at most. -/
inductive MarkedAt (text : List Char) (q : MarkedQuery) : Nat → Prop
  | intro {before indent rest : List Char} {m : Marker} :
      text = before ++ (indent ++ '-' :: '-' :: rest) → AtLineStart before →
      (∀ c ∈ indent, Marker.isSpace c = true) →
      Marker.ofText? (indent ++ '-' :: '-' :: rest) = some m →
      q.name = String.ofList m.name → q.cardinality = String.ofList m.cardinality →
      q.line = 1 + lineFeeds before → MarkedAt text q (before.length + indent.length)

/-- **A marker is a line comment of its text unless it is enclosed.** -/
theorem MarkedAt.commentAt_iff {q : MarkedQuery} {place : Nat} (h : MarkedAt text q place) :
    CommentAt text place ↔ ¬ Enclosed text place := by
  cases h with
  | intro htext hbefore hindent =>
      rw [htext]
      exact commentAt_iff_not_enclosed hbefore hindent

/-- The queries of a part of a text have their markers there, in order. -/
theorem exists_places_from {line : Nat} {atStart : Bool} {before s : List Char}
    (htext : text = before ++ s) (hstart : atStart = true → AtLineStart before)
    (hline : line = 1 + lineFeeds before) :
    ∃ places, List.Forall₂ (MarkedAt text) (splitFrom line atStart s).2 places ∧
      places.Pairwise (· < ·) ∧ ∀ place ∈ places, before.length ≤ place := by
  induction hn : s.length using Nat.strong_induction_on generalizing s line atStart before with
  | _ n ih =>
      cases s with
      | nil =>
          rw [splitFrom]
          exact ⟨[], .nil, .nil, by simp⟩
      | cons c cs =>
          rcases marker_or_none atStart (c :: cs) with hmarker | ⟨rfl, m, hm⟩
          · rw [splitFrom_cons hmarker]
            have hstart' : decide (c = '\n') = true → AtLineStart (before ++ [c]) := by
              intro hc d hd
              rw [List.getLast?_concat] at hd
              rw [← Option.some.inj hd]
              exact of_decide_eq_true hc
            have hline' : (if c = '\n' then line + 1 else line) = 1 + lineFeeds (before ++ [c]) := by
              rw [lineFeeds_append, hline]
              split_ifs with hc
              · rw [hc]
                rfl
              · have hnone : lineFeeds [c] = 0 :=
                  List.count_eq_zero_of_not_mem (by simpa using Ne.symm hc)
                rw [hnone]
                rfl
            obtain ⟨places, hplaces, hsorted, hbehind⟩ := ih cs.length (by simp [← hn])
              (by rw [htext, List.append_assoc]; rfl) hstart' hline' rfl
            refine ⟨places, hplaces, hsorted, fun place hp => ?_⟩
            have hle := hbehind place hp
            rw [List.length_append] at hle
            omega
          · obtain ⟨indent, rest, hs, hindent, hlength⟩ := Marker.exists_sign_of_ofText? hm
            have hle := length_le_of_ofText? hm
            rw [splitFrom, if_pos rfl, hm]
            dsimp only
            have hdrop : cs.drop (m.length - 1) = (c :: cs).drop m.length := by
              obtain ⟨k, hk⟩ : ∃ k, m.length = k + 1 := ⟨m.length - 1, by omega⟩
              rw [hk]
              rfl
            have hline' : line + lineFeeds ((c :: cs).take m.length) =
                1 + lineFeeds (before ++ (c :: cs).take m.length) := by
              rw [lineFeeds_append, hline, Nat.add_assoc]
            have hshorter : ((c :: cs).drop m.length).length < n := by
              rw [← hn, List.length_drop]
              omega
            have htext' : text = (before ++ (c :: cs).take m.length) ++ (c :: cs).drop m.length := by
              rw [htext, List.append_assoc, List.take_append_drop]
            have hwithin : false = true → AtLineStart (before ++ (c :: cs).take m.length) :=
              fun h => absurd h (by decide)
            obtain ⟨places, hplaces, hsorted, hbehind⟩ := ih _ hshorter htext' hwithin hline' rfl
            rw [hdrop]
            refine ⟨(before.length + indent.length) :: places, .cons ?_ hplaces, .cons ?_ hsorted, ?_⟩
            · rw [hs] at htext hm
              exact .intro htext (hstart rfl) hindent hm rfl rfl hline
            · intro place hp
              have hlater := hbehind place hp
              rw [List.length_append, List.length_take] at hlater
              omega
            · intro place hp
              rcases List.mem_cons.1 hp with rfl | hp
              · exact Nat.le_add_right _ _
              · have hlater := hbehind place hp
                rw [List.length_append] at hlater
                exact (Nat.le_add_right _ _).trans hlater

/-- **Every query has its marker, and the markers stand in order.** -/
theorem exists_places (text : List Char) :
    ∃ places, List.Forall₂ (MarkedAt text) (split text) places ∧ places.Pairwise (· < ·) := by
  have hstart : AtLineStart [] := fun c hc => nomatch hc
  have hfrom : ∃ places, List.Forall₂ (MarkedAt text) (splitFrom 1 true text).2 places ∧
      places.Pairwise (· < ·) ∧ ∀ place ∈ places, ([] : List Char).length ≤ place :=
    exists_places_from (List.nil_append text).symm (fun _ => hstart) rfl
  obtain ⟨places, hplaces, hsorted, -⟩ := hfrom
  exact ⟨places, hplaces, hsorted⟩

/-- **What a text is read as, and where its markers stand.**  The statements and the errors come from
the queries one by one, strictly up to the first error, and every query has its marker.  A marker is a
line comment of the text, unless the place where it starts is inside a block comment, a literal or a
quoted identifier. -/
theorem read_places [Sql.Parser] (d : Dialect) (lead : String) (known : List Table) (text : List Char) :
    ∃ es places,
      Entered (given d lead (allTables d known text)) (fun q => q.line) (split text) es ∧
      List.Forall₂ (fun q place => MarkedAt text q place ∧
        (CommentAt text place ↔ ¬ Enclosed text place)) (split text) places ∧
      places.Pairwise (· < ·) ∧
      let r := Report.ofEntries (allTables d known text)
        ((segments text).filterMap (definitionError? d)) es
      read (.ok d) lead false known text = .ok r ∧
        read (.ok d) lead true known text = r.strictly.mapError .source := by
  obtain ⟨es, hes, -, hread⟩ := exists_entered d lead known text
  obtain ⟨places, hplaces, hsorted⟩ := exists_places text
  have hstrict := (stops_read (.ok d) lead known text).eq_strictly_report hread
  refine ⟨es, places, hes, ?_, hsorted, hread, hstrict⟩
  exact hplaces.imp fun q place hq => ⟨hq, hq.commentAt_iff⟩

end Marked

attribute [local instance] Sql.parser

namespace Marked

/-- A query that is commented out names a statement all the same. -/
theorem not_commentAt_commented_out :
    let text := "/*\n-- name: old :one\nSELECT 1\n*/".toList
    let q : MarkedQuery := ⟨"old", "one", 2, "\nSELECT 1\n*/".toList⟩
    let c : Contract := ⟨"old", .one, [], [], "SELECT 1\n*/", some 2, none⟩
    split text = [q] ∧ MarkedAt text q 3 ∧ ¬ CommentAt text 3 ∧ Enclosed text 3 ∧
      read (.ok .localSync) Header.defaultLead false [] text = .ok ⟨[c], [], [], []⟩ := by
  intro text q c
  have htext : text =
      "/*\n".toList ++ ([] ++ '-' :: '-' :: " name: old :one\nSELECT 1\n*/".toList) := by
    decide +kernel
  have hmarker : Marker.ofText? ([] ++ '-' :: '-' :: " name: old :one\nSELECT 1\n*/".toList) =
      some ⟨"old".toList, "one".toList, 17⟩ := by
    decide +kernel
  have hstart : AtLineStart "/*\n".toList := fun d hd => (Option.some.inj hd).symm
  have hat : MarkedAt text q 3 := .intro htext hstart (by simp) hmarker rfl rfl rfl
  exact ⟨by decide +kernel, hat, by decide +kernel, by decide +kernel, by decide +kernel⟩

end Marked

end SqlContract
