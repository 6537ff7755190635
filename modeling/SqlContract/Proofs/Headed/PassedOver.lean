/-
Statements that are passed over.

A statement is taken for plain SQL unless the first of its lines that is no filler is a header line.
That line is looked for in the text as it stands, but it can be told piece by piece: blanks say
nothing, the comment of a header line announces the header, and another line comment says nothing if
it is one line.  A block comment stands for code.

Main definitions:

* `Header.opens?` — what the first line that is no filler says of a text.

Main results:

* `Header.opens?_eq_findSome?` — **what a text opens with is what the first of its pieces says that
  says anything**;
* `Headed.passedOver_iff` — **when a statement with a header ahead of its code is passed over**.
-/

import SqlContract.Proofs.Headed.Header
import SqlContract.Source.Headed

set_option autoImplicit false
set_option relaxedAutoImplicit false

namespace SqlContract

open Text Sql

namespace Header

/-! ### What a line says -/

variable {l : List Char}

/-- What a line says of the text that it opens: a filler says nothing, and any other line whether
there is a header. -/
def verdict? (lead l : List Char) : Option Bool :=
  if isFiller lead l then none else some (words? lead l).isSome

/-- What the first line of a text that says something says. -/
def opens? (lead : String) (text : List Char) : Option Bool :=
  (lines text).findSome? (verdict? lead.toList)

/-- A text has header lines if it opens with one. -/
theorem split_eq_nil_iff (lead : String) (text : List Char) :
    (split lead text).1 = [] ↔ opens? lead text ≠ some true := by
  unfold split opens?
  induction lines text with
  | nil => exact iff_of_true rfl (by simp)
  | cons l ls ih =>
      by_cases hl : isFiller lead.toList l = true
      · have hnone : verdict? lead.toList l = none := if_pos hl
        rw [List.dropWhile_cons_of_pos hl, List.findSome?_cons_of_isNone (by rw [hnone]; rfl)]
        exact ih
      · have hsome : verdict? lead.toList l = some (words? lead.toList l).isSome := if_neg hl
        rw [List.dropWhile_cons_of_neg hl, List.findSome?_cons, hsome]
        unfold takeLines
        cases words? lead.toList l with
        | none => exact iff_of_true rfl (by simp)
        | some ws => exact iff_of_false (List.cons_ne_nil _ _) (by simp)

/-- A line that starts with no comment sign is code. -/
theorem verdict?_of_code {c : Char} {l : List Char} (hc : isBlank c = false)
    (hsign : ¬ ['-', '-'] <+: c :: l) : verdict? defaultLead.toList (c :: l) = some false := by
  have hself : stripLeft (c :: l) = c :: l :=
    stripLeft_of_head? fun d hd => by rwa [← Option.some.inj hd]
  have hfiller : isFiller defaultLead.toList (c :: l) = false := by
    rw [Bool.eq_false_iff]
    intro hfiller
    rcases isRemark_of_isFiller hfiller with hnil | hsign'
    · rw [hself] at hnil
      exact absurd hnil (List.cons_ne_nil c l)
    · rw [hself] at hsign'
      exact hsign hsign'
  have hnone : words? defaultLead.toList (c :: l) = none := by
    refine words?_eq_none_iff.2 fun hlead => hsign ?_
    rw [hself, toList_defaultLead] at hlead
    exact List.IsPrefix.trans ⟨[' ', '@'], rfl⟩ hlead
  rw [verdict?, hfiller, hnone]
  rfl

/-- A line with the lead in front is a header line. -/
theorem verdict?_of_lead (h : defaultLead.toList <+: l) :
    verdict? defaultLead.toList l = some true := by
  have hlead : defaultLead.toList <+: stripLeft l := by rwa [stripLeft_of_lead h]
  rw [verdict?, isFiller_of_lead hlead, words?_of_lead hlead]
  rfl

/-- A comment without the lead in front says nothing. -/
theorem verdict?_of_comment (hsign : ['-', '-'] <+: l) (hlead : ¬ defaultLead.toList <+: l) :
    verdict? defaultLead.toList l = none := by
  have hself : stripLeft l = l := by
    obtain ⟨t, rfl⟩ := hsign
    rfl
  have hsign' : ['-', '-'] <+: strip l := by
    refine prefix_strip (fun c hc => ?_) (by rwa [hself])
    obtain rfl : '-' = c := Option.some.inj hc
    decide
  have hnone : words? defaultLead.toList (strip l) = none := by
    refine words?_eq_none_iff.2 fun h => hlead ?_
    have hstrip : stripLeft (strip l) = strip l := by
      obtain ⟨t, ht⟩ := hsign'
      rw [← ht]
      rfl
    rw [hstrip] at h
    have hl := h.trans (strip_prefix_stripLeft l)
    rwa [hself] at hl
  have hfiller : isFiller defaultLead.toList l = true := by
    simp [isFiller, List.isPrefixOf_iff_prefix.2 hsign', hnone]
  exact if_pos hfiller

/-! ### What a text says first -/

variable {s : List Char}

/-- Blanks in front of a text change nothing. -/
theorem opens?_blank_cons (lead : String) {c : Char} (hc : isBlank c = true) (s : List Char) :
    opens? lead (c :: s) = opens? lead s := by
  have hempty (ls : List (List Char)) :
      ([] :: ls).findSome? (verdict? lead.toList) = ls.findSome? (verdict? lead.toList) := rfl
  have hverdict (l : List Char) : verdict? lead.toList (c :: l) = verdict? lead.toList l := by
    have hstrip : stripLeft (c :: l) = stripLeft l := List.dropWhile_cons_of_pos hc
    unfold verdict? isFiller words? strip
    rw [hstrip]
  unfold opens?
  by_cases hcrlf : c = '\r' ∧ s.head? = some '\n'
  · obtain ⟨rfl, hs⟩ := hcrlf
    obtain ⟨t, rfl⟩ := List.head?_eq_some_iff.1 hs
    rfl
  · rw [lines_cons fun hr hn => hcrlf ⟨hr, hn⟩]
    split_ifs with hbreak
    · exact hempty _
    · cases lines s with
      | nil =>
          rw [consHead, List.findSome?_cons, hverdict]
          rfl
      | cons l ls =>
          rw [consHead, List.findSome?_cons, List.findSome?_cons, hverdict]

/-- A text that starts with no blank and no comment sign opens with code. -/
theorem opens?_of_code {c : Char} (hc : isBlank c = false) (hsign : ¬ ['-', '-'] <+: c :: s) :
    opens? defaultLead (c :: s) = some false := by
  have hbreak : isLineBreak c = false := by
    rw [Bool.eq_false_iff]
    intro hbreak
    rw [isBlank_of_isLineBreak hbreak] at hc
    exact absurd hc (by decide)
  unfold opens?
  rw [lines_cons_of_not hbreak]
  cases hs : lines s with
  | nil =>
      rw [consHead, List.findSome?_cons, verdict?_of_code hc fun h => hsign ?_]
      exact h.trans (List.prefix_append [c] s)
  | cons l ls =>
      have hl : l <+: s := prefix_of_mem_head?_lines (by rw [hs]; rfl)
      rw [consHead, List.findSome?_cons, verdict?_of_code hc fun h => hsign ?_]
      exact h.trans ((List.prefix_cons_inj c).2 hl)

/-- A text with the lead in front opens with a header line. -/
theorem opens?_of_lead (h : defaultLead.toList <+: s) : opens? defaultLead s = some true := by
  obtain ⟨t, rfl⟩ := h
  have hlines : ∃ l ls, lines (defaultLead.toList ++ t) = (defaultLead.toList ++ l) :: ls := by
    rw [toList_defaultLead]
    simp only [List.cons_append, List.nil_append]
    rw [lines_cons_of_not (by decide), lines_cons_of_not (by decide), lines_cons_of_not (by decide),
      lines_cons_of_not (by decide)]
    cases lines t with
    | nil => exact ⟨[], [], rfl⟩
    | cons l ls => exact ⟨l, ls, rfl⟩
  obtain ⟨l, ls, hlines⟩ := hlines
  unfold opens?
  rw [hlines, List.findSome?_cons, verdict?_of_lead (List.prefix_append _ _)]

/-- The lines of a text and of what stands behind a line feed after it.  An empty line stands between
them where the text ends in a line break that is not joined to the line feed. -/
theorem exists_lines_append_lineFeed (s t : List Char) :
    ∃ e, (e = [] ∨ e = [[]]) ∧ lines (s ++ '\n' :: t) = lines s ++ (e ++ lines t) := by
  have hfeed : isLineBreak '\n' = true := by decide
  have hlast : lines ('\n' :: t) = [] :: lines t := by
    rw [lines_cons fun h => absurd h (by decide), if_pos hfeed]
  induction s using break_induction with
  | nil => exact ⟨[[]], .inr rfl, hlast⟩
  | crlf cs ih =>
      obtain ⟨e, he, hlines⟩ := ih
      refine ⟨e, he, ?_⟩
      rw [List.cons_append, List.cons_append, lines_crlf, lines_crlf, hlines]
      rfl
  | cons c cs h ih =>
      cases cs with
      | nil =>
          by_cases hc : c = '\r'
          · subst hc
            exact ⟨[], .inl rfl, rfl⟩
          · rw [List.cons_append, List.nil_append, lines_cons fun hr => absurd hr hc, lines_cons h,
              hlast]
            by_cases hbreak : isLineBreak c = true
            · rw [if_pos hbreak, if_pos hbreak]
              exact ⟨[[]], .inr rfl, rfl⟩
            · rw [if_neg hbreak, if_neg hbreak]
              exact ⟨[], .inl rfl, rfl⟩
      | cons d ds =>
          obtain ⟨e, he, hlines⟩ := ih
          refine ⟨e, he, ?_⟩
          have h' : c = '\r' → (d :: ds ++ '\n' :: t).head? ≠ some '\n' := h
          rw [List.cons_append, lines_cons h', lines_cons h, hlines]
          split_ifs
          · rfl
          · have hne : lines (d :: ds) ≠ [] := mt lines_eq_nil_iff.1 (List.cons_ne_nil d ds)
            obtain ⟨l, ls, hl⟩ := List.exists_cons_of_ne_nil hne
            rw [hl]
            rfl

/-- What stands behind a line feed is asked where nothing before it says anything. -/
theorem opens?_append_lineFeed (lead : String) (s t : List Char) :
    opens? lead (s ++ '\n' :: t) = (opens? lead s).or (opens? lead t) := by
  obtain ⟨e, he, hlines⟩ := exists_lines_append_lineFeed s t
  have hempty : e.findSome? (verdict? lead.toList) = none := by
    rcases he with rfl | rfl
    · rfl
    · rfl
  unfold opens?
  rw [hlines, List.findSome?_append, List.findSome?_append, hempty, Option.none_or]

/-- A comment of one line without the lead in front says nothing. -/
theorem opens?_of_comment (hsign : ['-', '-'] <+: s) (hlead : ¬ defaultLead.toList <+: s)
    (hbreak : ∀ c ∈ s, isLineBreak c = false) : opens? defaultLead s = none := by
  have hfeed : opens? defaultLead (s ++ ['\n']) = opens? defaultLead s := by
    rw [opens?_append_lineFeed]
    exact Option.or_none
  have hlines : lines (s ++ ['\n']) = [s] := lines_append_lineFeed hbreak []
  rw [← hfeed, opens?, hlines, List.findSome?_cons, verdict?_of_comment hsign hlead]
  rfl

end Header

/-- What a piece says of a text that it opens, taken by itself. -/
def Sql.Piece.opens? (p : Piece) : Option Bool :=
  Header.opens? Header.defaultLead p.text

/-- **What a text opens with is what the first of its pieces says that says anything.** -/
theorem Header.opens?_eq_findSome? (s : List Char) :
    opens? defaultLead s = (scan s).findSome? Piece.opens? := by
  induction s using scan_induction with
  | nil => rw [scan_nil]; rfl
  | cons c cs p rest h ih =>
      have hfirst : opens? defaultLead (c :: cs) =
          (opens? defaultLead p.text).or (opens? defaultLead rest) := by
        have hnext := next_of_starts h
        by_cases hc : isBlank c = true
        · rw [next_of_starts (.plain cs (isMark_of_isBlank hc)), Prod.mk.injEq] at hnext
          obtain ⟨rfl, rfl⟩ := hnext
          rw [Piece.text, opens?_blank_cons _ hc, opens?_blank_cons _ hc]
          rfl
        · by_cases hsign : ['-', '-'] <+: c :: cs
          · -- a line comment, which is all of its line from here on
            obtain ⟨ds, hds⟩ := hsign
            simp only [List.cons_append, List.nil_append, List.cons.injEq] at hds
            obtain ⟨rfl, rfl⟩ := hds
            rw [next_of_starts (.lineComment ds), Prod.mk.injEq] at hnext
            obtain ⟨rfl, rfl⟩ := hnext
            rw [← h.text_eq]
            cases hrest : ds.dropWhile (· ≠ '\n') with
            | nil =>
                rw [List.append_nil]
                exact Option.or_none.symm
            | cons d t =>
                obtain rfl : d = '\n' := by
                  have hd := List.head?_dropWhile_not (· ≠ '\n') ds
                  rw [hrest] at hd
                  simpa using hd
                rw [opens?_append_lineFeed, opens?_blank_cons _ (by decide)]
          · have hc := Bool.eq_false_iff.2 hc
            have htext := h.text_eq
            obtain ⟨d, x, hx⟩ := p.exists_text_eq_cons
            rw [hx, List.cons_append, List.cons.injEq] at htext
            obtain ⟨rfl, rfl⟩ := htext
            have hsign' : ¬ ['-', '-'] <+: d :: x := by
              intro hp
              exact hsign (hp.trans (List.prefix_append (d :: x) rest))
            rw [hx, opens?_of_code hc hsign, opens?_of_code hc hsign']
            rfl
      rw [hfirst, h.scan_eq, List.findSome?_cons, ← ih, Piece.opens?]
      cases opens? defaultLead p.text with
      | none => rfl
      | some b => rfl

/-! ### Statements -/

namespace Headed

/-- A statement is passed over if it has no header lines. -/
theorem statement?_eq_ok_none_iff {lead : String} {line : Option Int} {text : List Char} :
    statement? lead line text = .ok none ↔ (Header.split lead text).1 = [] := by
  unfold statement?
  constructor
  · intro h
    split at h
    · rename_i hsplit
      rw [hsplit]
    · split_ifs at h
      split at h <;> simp at h
    · simp at h
  · intro h
    have hsplit : Header.split lead text = ([], (Header.split lead text).2) := Prod.ext h rfl
    rw [hsplit]

variable {text body : List Char} {ps qs : List Piece}

/-- The comment of a header line announces the header, -/
theorem opens?_header (h : [' ', '@'] <+: body) : (Piece.lineComment body).opens? = some true := by
  refine Header.opens?_of_lead ?_
  obtain ⟨t, rfl⟩ := h
  exact ⟨t, rfl⟩

/-- a block comment stands for code, -/
theorem opens?_blockComment (body : List Char) : (Piece.blockComment body).opens? = some false := by
  refine Header.opens?_of_code (by decide) fun h => ?_
  exact absurd (List.cons_prefix_cons.1 h).1 (by decide)

/-- and a line comment that stands for code has a line break in it. -/
theorem exists_isLineBreak_of_opens? (h : (Piece.lineComment body).opens? = some false) :
    ∃ c ∈ body, isLineBreak c = true := by
  by_contra hnone
  have hsign : ['-', '-'] <+: (Piece.lineComment body).text := ⟨body, rfl⟩
  have hbreak : ∀ c ∈ (Piece.lineComment body).text, isLineBreak c = false := by
    intro c hc
    rw [Piece.text] at hc
    rcases List.mem_cons.1 hc with rfl | hc
    · decide
    rcases List.mem_cons.1 hc with rfl | hc
    · decide
    · exact Bool.eq_false_iff.2 fun hb => hnone ⟨c, hc, hb⟩
  unfold Piece.opens? at h
  by_cases hlead : Header.defaultLead.toList <+: (Piece.lineComment body).text
  · rw [Header.opens?_of_lead hlead] at h
    cases h
  · rw [Header.opens?_of_comment hsign hlead hbreak] at h
    cases h

/-- What stands ahead of the code and stands for code itself is a comment. -/
theorem comment_of_opens? {p : Piece} (hp : p.isSubstance = false) (h : p.opens? = some false) :
    (∃ b, p = .blockComment b) ∨ ∃ b, p = .lineComment b ∧ ∃ c ∈ b, isLineBreak c = true := by
  cases p with
  | quoted | semicolon | placeholder | percent => simp [Piece.isSubstance] at hp
  | plain c =>
      have hc : isBlank c = true := by simpa [Piece.isSubstance] using hp
      rw [Piece.opens?, Piece.text, Header.opens?_blank_cons _ hc] at h
      cases h
  | blockComment b => exact .inl ⟨b, rfl⟩
  | lineComment b => exact .inr ⟨b, rfl, exists_isLineBreak_of_opens? h⟩

/-- **When a statement with a header is passed over.**  Where the comment of a header line stands
ahead of the code, the statement is taken for plain SQL exactly if a comment before it stands for code
and none before that announces a header.  Block comments stand for code; a line comment does only if
one of its characters breaks the line. -/
theorem passedOver_iff (hscan : scan text = ps ++ .lineComment body :: qs)
    (hahead : ∀ p ∈ ps, p.isSubstance = false) (hheader : [' ', '@'] <+: body)
    (line : Option Int) :
    (statement? Header.defaultLead line text = .ok none ↔
      ∃ as p bs, ps = as ++ p :: bs ∧ p.opens? = some false ∧ ∀ q ∈ as, q.opens? ≠ some true) ∧
      ∀ p ∈ ps, (∀ b, p = .blockComment b → p.opens? = some false) ∧
        (p.opens? = some false →
          (∃ b, p = .blockComment b) ∨ ∃ b, p = .lineComment b ∧ ∃ c ∈ b, isLineBreak c = true) := by
  have hfirst : Header.opens? Header.defaultLead text =
      (ps.findSome? Piece.opens?).or (some true) := by
    rw [Header.opens?_eq_findSome?, hscan, List.findSome?_append, List.findSome?_cons]
    rw [opens?_header hheader]
  constructor
  · rw [statement?_eq_ok_none_iff, Header.split_eq_nil_iff, hfirst]
    constructor
    · intro h
      have hfalse : ps.findSome? Piece.opens? = some false := by
        cases hps : ps.findSome? Piece.opens? with
        | none =>
            rw [hps] at h
            exact absurd rfl h
        | some b =>
            cases b with
            | false => rfl
            | true =>
                rw [hps] at h
                exact absurd rfl h
      obtain ⟨as, p, bs, he, hp, has⟩ := List.findSome?_eq_some_iff.1 hfalse
      refine ⟨as, p, bs, he, hp, fun q hq hsays => ?_⟩
      rw [has q hq] at hsays
      cases hsays
    · rintro ⟨as, p, bs, rfl, hp, has⟩ h
      rw [List.findSome?_append, List.findSome?_cons, hp] at h
      cases hbefore : as.findSome? Piece.opens? with
      | none =>
          rw [hbefore] at h
          cases h
      | some b =>
          rw [hbefore] at h
          obtain rfl : b = true := Option.some.inj h
          obtain ⟨q, hq, hsays⟩ := List.exists_of_findSome?_eq_some hbefore
          exact has q hq hsays
  · intro p hp
    refine ⟨?_, comment_of_opens? (hahead p hp)⟩
    rintro b rfl
    exact opens?_blockComment b

/-- A comment of one line ahead of the header hides nothing, nor does a block comment behind the first
header line. -/
theorem passedOver_iff_remark :
    let text := "-- note\n-- @name a\n/* c */\n-- @count one\nSELECT 1".toList
    let ps : List Piece := [.lineComment " note".toList, .plain '\n']
    (∃ qs, scan text = ps ++ .lineComment " @name a".toList :: qs) ∧
      (∀ p ∈ ps, p.isSubstance = false) ∧ [' ', '@'] <+: " @name a".toList ∧
      statement? Header.defaultLead none text ≠ .ok none := by
  intro text ps
  have hscan : scan text = ps ++ .lineComment " @name a".toList :: (scan text).drop 3 := by
    decide +kernel
  have hahead : ∀ p ∈ ps, p.isSubstance = false := by decide +kernel
  have hheader : [' ', '@'] <+: " @name a".toList := by decide
  refine ⟨⟨_, hscan⟩, hahead, hheader, fun h => ?_⟩
  obtain ⟨as, p, bs, he, hp, -⟩ := (passedOver_iff hscan hahead hheader none).1.1 h
  have hcode : ∀ q ∈ ps, q.opens? ≠ some false := by decide +kernel
  exact hcode p (he ▸ List.mem_append_right as List.mem_cons_self) hp

/-- A block comment ahead of the header takes the statement out of the report. -/
theorem passedOver_block :
    let text := "/* c */\n-- @name a\n-- @count one\nSELECT 1".toList
    let ps : List Piece := [.blockComment " c ".toList, .plain '\n']
    (∃ qs, scan text = ps ++ .lineComment " @name a".toList :: qs) ∧
      (∀ p ∈ ps, p.isSubstance = false) ∧ [' ', '@'] <+: " @name a".toList ∧
      statement? Header.defaultLead (some 1) text = .ok none ∧
      read Header.defaultLead true text = .ok Report.empty := by
  intro text ps
  have hscan : scan text = ps ++ .lineComment " @name a".toList :: (scan text).drop 3 := by
    decide +kernel
  exact ⟨⟨_, hscan⟩, by decide +kernel, by decide, by decide +kernel, by decide +kernel⟩

/-- A line separator in a line comment does so as well. -/
example : statement? Header.defaultLead (some 1)
    "-- note\u2028more\n-- @name a\n-- @count one\nSELECT 1".toList = .ok none := by
  decide +kernel

end Headed

end SqlContract
