/-
What a text says apart from its comments and blanks.

Main definitions:

* `substance`, `tokens` — the pieces of a text without comments and blanks, and those among them
  that are no ordinary characters;
* `BreaksEndComments`, `BreaksInQuotes` — which line breaks a text has in its line comments and in
  its quoted pieces.

Main results:

* `substance_remark`, `substance_strip` — lines of comments and blanks ahead of a text, and blanks
  at its ends, do not matter;
* `substance_relined` — what becomes of the substance of a text when its line breaks are written as
  line feeds;
* `substance_relined_eq_iff` — **it stays exactly if quoted pieces have no other breaks**, for a text
  whose line comments say nothing behind a line break.
-/

import SqlContract.Proofs.Scanning.Parts
import SqlContract.Proofs.Text.Blanks
import SqlContract.Proofs.Text.Lines

set_option autoImplicit false
set_option relaxedAutoImplicit false

namespace SqlContract.Sql

open SqlContract.Text

/-! ### Pieces that say something -/

/-- Whether a piece is neither a comment nor a blank. -/
def Piece.isSubstance : Piece → Bool
  | .plain c => !isBlank c
  | .lineComment _ | .blockComment _ => false
  | _ => true

/-- Whether a piece is a token: neither a comment nor an ordinary character. -/
def Piece.isToken : Piece → Bool
  | .plain _ | .lineComment _ | .blockComment _ => false
  | _ => true

/-- The pieces of a text without its comments and blanks. -/
def substance (s : List Char) : List Piece :=
  (scan s).filter Piece.isSubstance

/-- The tokens of a text: literals, quoted identifiers, placeholders, percent signs and
semicolons. -/
def tokens (s : List Char) : List Piece :=
  (scan s).filter Piece.isToken

theorem Piece.isSubstance_of_isToken {p : Piece} (h : p.isToken = true) : p.isSubstance = true := by
  cases p with
  | plain | lineComment | blockComment => simp [Piece.isToken] at h
  | quoted | semicolon | placeholder | percent => rfl

/-- The tokens of a text are part of its substance. -/
theorem tokens_eq_filter_substance (s : List Char) :
    tokens s = (substance s).filter Piece.isToken := by
  unfold tokens substance
  rw [List.filter_filter]
  refine List.filter_congr fun p _ => ?_
  cases hp : p.isToken with
  | true => rw [p.isSubstance_of_isToken hp]; rfl
  | false => rfl

theorem tokens_congr {s t : List Char} (h : substance s = substance t) : tokens s = tokens t := by
  rw [tokens_eq_filter_substance, h, ← tokens_eq_filter_substance]

@[simp] theorem substance_nil : substance [] = [] := by
  rw [substance, scan_nil]
  rfl

theorem Starts.substance_eq {c : Char} {cs rest : List Char} {p : Piece}
    (h : Starts c cs p rest) :
    substance (c :: cs) = if p.isSubstance then p :: substance rest else substance rest := by
  rw [substance, h.scan_eq, List.filter_cons]
  rfl

/-! ### Blanks -/

theorem isMark_of_isBlank {c : Char} (h : isBlank c = true) : isMark c = false :=
  of_isBlank (P := fun c => isMark c = false) (by decide) h

theorem isJoining_of_isBlank {c : Char} (h : isBlank c = true) : isJoining c = false :=
  of_isBlank (P := fun c => isJoining c = false) (by decide) h

theorem closesNothing_of_allBlank {w : List Char} (h : AllBlank w) : ClosesNothing w := by
  refine ⟨fun hm => ?_, fun hm => ?_, fun hm => ?_⟩
  · exact absurd (h _ hm) (by decide)
  · exact absurd (h _ hm) (by decide)
  · exact absurd (h _ hm) (by decide)

theorem scan_cons_blank {c : Char} (h : isBlank c = true) (s : List Char) :
    scan (c :: s) = .plain c :: scan s :=
  (Starts.plain s (isMark_of_isBlank h)).scan_eq

theorem scan_blanks_append {w : List Char} (h : AllBlank w) (s : List Char) :
    scan (w ++ s) = w.map Piece.plain ++ scan s := by
  induction w with
  | nil => rfl
  | cons c w ih =>
      rw [List.cons_append, scan_cons_blank (h c List.mem_cons_self), ih h.tail]
      rfl

/-- A line comment on a line of its own. -/
theorem scan_lineComment {body : List Char} (h : '\n' ∉ body) (t : List Char) :
    scan ('-' :: '-' :: (body ++ '\n' :: t)) =
      .lineComment body :: .plain '\n' :: scan t := by
  have hbody : ∀ c ∈ body, (decide (c ≠ '\n')) = true := by
    intro c hc
    simpa using fun e : c = '\n' => h (e ▸ hc)
  have hhead : ∀ c ∈ ('\n' :: t).head?, (decide (c ≠ '\n')) = false := by
    intro c hc
    obtain rfl : '\n' = c := Option.some.inj hc
    decide
  obtain ⟨htake, hdrop⟩ := span_eq_iff.2 ⟨rfl, hbody, hhead⟩
  rw [(Starts.lineComment _).scan_eq, htake, hdrop,
    scan_cons_blank (by decide : isBlank '\n' = true)]

theorem substance_cons_blank {c : Char} (h : isBlank c = true) (s : List Char) :
    substance (c :: s) = substance s := by
  rw [substance, scan_cons_blank h, List.filter_cons_of_neg (by simp [Piece.isSubstance, h])]
  rfl

theorem substance_blanks_append {w : List Char} (h : AllBlank w) (s : List Char) :
    substance (w ++ s) = substance s := by
  induction w with
  | nil => rfl
  | cons c w ih =>
      rw [List.cons_append, substance_cons_blank (h c List.mem_cons_self), ih h.tail]

theorem substance_of_allBlank {w : List Char} (h : AllBlank w) : substance w = [] := by
  have he := substance_blanks_append h []
  rwa [List.append_nil, substance_nil] at he

theorem substance_lineComment (ds : List Char) :
    substance ('-' :: '-' :: ds) = substance (ds.dropWhile (· ≠ '\n')) :=
  (Starts.lineComment ds).substance_eq

/-- Blanks behind a text say nothing. -/
theorem substance_append_blanks (s : List Char) {w : List Char} (h : AllBlank w) :
    substance (s ++ w) = substance s := by
  induction s using scan_induction with
  | nil => rw [List.nil_append, substance_of_allBlank h, substance_nil]
  | cons c cs p rest hs ih =>
      by_cases hline : ∃ body, p = .lineComment body ∧ rest = []
      · -- the comment at the end of the text takes some of the blanks
        obtain ⟨body, rfl, rfl⟩ := hline
        generalize hr : ([] : List Char) = r at hs
        cases hs with
        | lineComment ds =>
            have hall := List.dropWhile_eq_nil_iff.1 hr.symm
            rw [List.cons_append, List.cons_append, substance_lineComment, substance_lineComment,
              List.dropWhile_append_of_pos hall, ← hr, substance_nil]
            exact substance_of_allBlank (h.dropWhile _)
      · have hjoin : ∀ d ∈ w.head?, isJoining d = false := fun d hd =>
          isJoining_of_isBlank (h d (List.mem_of_mem_head? hd))
        have hstep : Starts c (cs ++ w) p (rest ++ w) :=
          hs.append hjoin (fun _ => closesNothing_of_allBlank h)
            (fun body hp hrest => absurd ⟨body, hp, hrest⟩ hline)
        rw [List.cons_append, hstep.substance_eq, hs.substance_eq, ih]

/-- Blanks at the ends of a text say nothing. -/
theorem substance_strip (s : List Char) : substance (strip s) = substance s := by
  obtain ⟨v, w, hv, hw, he⟩ := exists_strip_eq s
  rw [he, substance_blanks_append hv, substance_append_blanks _ hw, ← he]

/-! ### Lines that say nothing -/

/-- Lines that are blank or hold a line comment only. -/
def IsRemark (l : List Char) : Prop :=
  stripLeft l = [] ∨ ['-', '-'] <+: stripLeft l

/-- Such a line ahead of a text says nothing. -/
theorem substance_remark {l : List Char} (h : IsRemark l) (hl : '\n' ∉ l) (t : List Char) :
    substance (l ++ '\n' :: t) = substance t := by
  have hcut : l = l.takeWhile isBlank ++ stripLeft l := List.takeWhile_append_dropWhile.symm
  rw [hcut, List.append_assoc, substance_blanks_append (allBlank_takeWhile l)]
  rcases h with h | ⟨body, h⟩
  · rw [h, List.nil_append, substance_cons_blank (by decide)]
  · have hbody : '\n' ∉ body := by
      intro hm
      refine hl ?_
      rw [hcut, ← h]
      simp [hm]
    have hform : stripLeft l ++ '\n' :: t = '-' :: '-' :: (body ++ '\n' :: t) := by
      rw [← h]
      rfl
    rw [hform, substance, scan_lineComment hbody]
    rfl

/-- Such lines ahead of other lines say nothing. -/
theorem substance_remarks {rs ls : List (List Char)} (hne : ls ≠ [])
    (h : ∀ l ∈ rs, IsRemark l ∧ '\n' ∉ l) :
    substance (['\n'].intercalate (rs ++ ls)) = substance (['\n'].intercalate ls) := by
  induction rs with
  | nil => rfl
  | cons l rs ih =>
      obtain ⟨hl, hn⟩ := h l List.mem_cons_self
      rw [List.cons_append, List.intercalate_cons_of_ne_nil (by simp [hne]), List.append_assoc,
        List.singleton_append, substance_remark hl hn,
        ih fun k hk => h k (List.mem_cons_of_mem l hk)]

/-! ### Line feeds for line breaks -/

/-- Line comments say nothing behind a line break. -/
def BreaksEndComments (s : List Char) : Prop :=
  ∀ body, .lineComment body ∈ scan s → AllBlank (body.dropWhile (!isLineBreak ·))

/-- Every line break in a quoted piece is a line feed. -/
def BreaksInQuotes (s : List Char) : Prop :=
  ∀ q body, .quoted q body ∈ scan s → ∀ c ∈ body, isLineBreak c = true → c = '\n'

/-- A piece with line feeds for its line breaks. -/
def Piece.relined : Piece → Piece
  | .quoted q body => .quoted q (Text.relined body)
  | .blockComment body => .blockComment (Text.relined body)
  | p => p

theorem isLineBreak_of_not_isBlank {c : Char} (h : isBlank c = false) : isLineBreak c = false := by
  by_contra hb
  rw [Bool.not_eq_false] at hb
  exact absurd (isBlank_of_isLineBreak hb) (by simp [h])

theorem Quote.char_not_isLineBreak (q : Quote) : isLineBreak q.char = false := by
  cases q <;> decide

theorem isLineBreak_of_isDigit {c : Char} (h : isDigit c = true) : isLineBreak c = false := by
  by_contra hb
  rw [Bool.not_eq_false] at hb
  exact absurd (isDigit_of_isBlank (isBlank_of_isLineBreak hb)) (by simp [h])

theorem Doubled.relined {q : Char} {b : List Char} (hq : isLineBreak q = false)
    (h : Doubled q b) : Doubled q (relined b) := by
  induction h with
  | nil => exact .nil
  | pair _ ih =>
      rw [relined_cons_of_not hq, relined_cons_of_not hq]
      exact ih.pair
  | @other c b hc _ ih =>
      -- a line feed that is written for a break is no quote either
      rcases relined_cons_cases c b with ⟨-, -, he⟩ | ⟨-, he⟩
      · rw [he]
        exact ih
      · rw [he]
        refine .other ?_ ih
        split
        · rintro rfl
          exact absurd hq (by decide)
        · exact hc

/-- Closing brackets are neither made nor lost. -/
theorem closer_infix_relined {s : List Char} :
    ['*', '/'] <:+: relined s ↔ ['*', '/'] <:+: s := by
  induction s with
  | nil => rfl
  | cons c cs ih =>
      rw [List.infix_cons_iff, closer_prefix_iff]
      rcases relined_cons_cases c cs with ⟨rfl, -, he⟩ | ⟨-, he⟩
      · rw [he, ih]
        simp
      · rw [he, List.infix_cons_iff, closer_prefix_iff, ih, head?_relined (by decide)]
        by_cases hc : isLineBreak c = true
        · have hne : c ≠ '*' := by rintro rfl; exact absurd hc (by decide)
          simp [hc, hne]
        · simp [hc]

/-- A run of digits is the same with line breaks replaced behind it. -/
theorem digits_relined (s : List Char) :
    (relined s).takeWhile isDigit = s.takeWhile isDigit ∧
      (relined s).dropWhile isDigit = relined (s.dropWhile isDigit) := by
  induction s with
  | nil => exact ⟨rfl, rfl⟩
  | cons c cs ih =>
      by_cases hc : isDigit c = true
      · rw [relined_cons_of_not (isLineBreak_of_isDigit hc)]
        simp [hc, ih]
      · have hc' : isDigit c = false := by simpa using hc
        have hhead : ∀ d ∈ (relined (c :: cs)).head?, isDigit d = false := by
          intro d hd
          by_contra hdig
          rw [Bool.not_eq_false] at hdig
          have := (head?_relined (isLineBreak_of_isDigit hdig)).1 hd
          rw [List.head?_cons, Option.some.injEq] at this
          exact absurd hdig (by simp [← this, hc'])
        have hspan := (span_eq_iff (s := relined (c :: cs)) (w := [])
          (d := relined (c :: cs))).2 ⟨rfl, by simp, hhead⟩
        simpa [hc'] using hspan

/-- The rest of a line is the same with line breaks replaced, but that every break ends it. -/
theorem dropWhile_relined (s : List Char) :
    (relined s).dropWhile (· ≠ '\n') = relined (s.dropWhile (!isLineBreak ·)) := by
  induction s with
  | nil => rfl
  | cons c cs ih =>
      by_cases hc : isLineBreak c = true
      · have hkeep : (c :: cs).dropWhile (!isLineBreak ·) = c :: cs := by simp [hc]
        rw [hkeep]
        rcases relined_cons_cases c cs with ⟨rfl, hcs, -⟩ | ⟨-, he⟩
        · obtain ⟨ds, rfl⟩ := List.head?_eq_some_iff.1 hcs
          simp [relined_crlf]
        · simp [he, hc]
      · have hne : c ≠ '\n' := by rintro rfl; exact hc (by decide)
        have hc' : isLineBreak c = false := by simpa using hc
        rw [relined_cons_of_not hc']
        simpa [hne, hc'] using ih

/-- **A piece with line feeds for its line breaks starts the text with line feeds for its line
breaks**, line comments apart, which a line feed ends. -/
theorem Starts.relined {c : Char} {cs rest : List Char} {p : Piece} (h : Starts c cs p rest)
    (hline : ∀ body, p ≠ .lineComment body) (hc : isLineBreak c = false) :
    Starts c (Text.relined cs) p.relined (Text.relined rest) := by
  cases h with
  | @quoted q _ body _ hq =>
      obtain ⟨rfl, hb, hrest⟩ := closeQuote_eq_some_iff.1 hq
      have hqb := q.char_not_isLineBreak
      have hcut : (q.char :: rest).head? ≠ some '\n' := by
        intro he
        rw [List.head?_cons, Option.some.injEq] at he
        exact absurd hqb (by rw [he]; decide)
      refine .quoted q (closeQuote_eq_some_iff.2 ⟨?_, hb.relined hqb, ?_⟩)
      · rw [relined_append body hcut, relined_cons_of_not hqb]
      · intro hhead
        have hhead' := (head?_relined hqb).1 hhead
        obtain ⟨ds, rfl⟩ := List.head?_eq_some_iff.1 hhead'
        rw [relined_cons_of_not hqb, List.tail_cons, mem_relined hqb]
        exact hrest hhead'
  | openQuote q hq => exact .openQuote q fun hm => hq ((mem_relined q.char_not_isLineBreak).1 hm)
  | lineComment ds => exact absurd rfl (hline _)
  | dash hne => exact .dash fun he => hne ((head?_relined (by decide)).1 he)
  | @blockComment _ body _ hcl =>
      obtain ⟨rfl, hb⟩ := closeComment_eq_some_iff.1 hcl
      rw [relined_cons_of_not (by decide)]
      refine .blockComment (closeComment_eq_some_iff.2 ⟨?_, fun hi => hb ?_⟩)
      · rw [relined_append body (by simp), relined_cons_of_not (by decide),
          relined_cons_of_not (by decide)]
      · have hlast : Text.relined (body ++ ['*']) = Text.relined body ++ ['*'] :=
          relined_append body (by simp)
        rw [← hlast] at hi
        exact closer_infix_relined.1 hi
  | openComment hcl =>
      rw [relined_cons_of_not (by decide)]
      exact .openComment fun hi => hcl (closer_infix_relined.1 hi)
  | slash hne => exact .slash fun he => hne ((head?_relined (by decide)).1 he)
  | semicolon => exact .semicolon _
  | placeholder =>
      rw [← (digits_relined cs).2]
      have hdigits := Starts.placeholder (Text.relined cs)
      rwa [(digits_relined cs).1] at hdigits
  | percent => exact .percent _
  | plain _ hm => exact .plain _ hm

theorem Piece.isSubstance_relined (p : Piece) : p.relined.isSubstance = p.isSubstance := by
  cases p <;> rfl

theorem BreaksEndComments.of_subset {s t : List Char} (h : BreaksEndComments s)
    (hsub : ∀ body, .lineComment body ∈ scan t → .lineComment body ∈ scan s) :
    BreaksEndComments t :=
  fun body hbody => h body (hsub body hbody)

/-- What stands behind the first line break of a line comment, up to the end of the text. -/
theorem dropWhile_lineComment (ds : List Char) :
    ds.dropWhile (!isLineBreak ·) =
      (ds.takeWhile (· ≠ '\n')).dropWhile (!isLineBreak ·) ++ ds.dropWhile (· ≠ '\n') := by
  induction ds with
  | nil => rfl
  | cons c cs ih =>
      by_cases hc : isLineBreak c = true
      · by_cases hlf : c = '\n'
        · subst hlf
          simp [hc]
        · simp [hc, hlf]
      · have hlf : c ≠ '\n' := by rintro rfl; exact hc (by decide)
        have hc' : isLineBreak c = false := by simpa using hc
        simpa [hlf, hc'] using ih

/-- **The substance of a text with line feeds for its line breaks**, where line comments say nothing
behind a break: that of the text, with line feeds for the breaks in its quoted pieces. -/
theorem substance_relined {s : List Char} (h : BreaksEndComments s) :
    substance (relined s) = (substance s).map Piece.relined := by
  -- induction on the length: behind a break in a comment, more is left than behind the comment
  induction hn : s.length using Nat.strong_induction_on generalizing s with
  | _ n ih =>
      cases s with
      | nil => simp
      | cons c cs =>
          have hs := starts_next c cs
          generalize (next c cs).1 = p at hs
          generalize (next c cs).2 = rest at hs
          have hlen := hs.length_lt
          by_cases hc : isLineBreak c = true
          · -- a break is a blank, whatever is written for it
            have hb := isBlank_of_isLineBreak hc
            have hcs : BreaksEndComments cs := h.of_subset fun body hbody => by
              rw [scan_cons_blank hb]
              exact List.mem_cons_of_mem _ hbody
            have ih' := ih cs.length (by simp [← hn]) hcs rfl
            rw [substance_cons_blank hb, ← ih']
            rcases relined_cons_cases c cs with ⟨-, -, he⟩ | ⟨-, he⟩
            · rw [he]
            · rw [he, if_pos hc, substance_cons_blank (by decide)]
          · have hc' : isLineBreak c = false := by simpa using hc
            by_cases hline : ∀ body, p ≠ .lineComment body
            · have hrest : BreaksEndComments rest := h.of_subset fun body hbody => by
                rw [hs.scan_eq]
                exact List.mem_cons_of_mem _ hbody
              have ih' := ih rest.length (by omega) hrest rfl
              rw [relined_cons_of_not hc', (hs.relined hline hc').substance_eq, hs.substance_eq,
                p.isSubstance_relined, ih']
              split <;> rfl
            · -- what stands behind the first break of the comment is blank up to its end
              push Not at hline
              obtain ⟨body, rfl⟩ := hline
              cases hs with
              | lineComment ds =>
                  have hmem : .lineComment (ds.takeWhile (· ≠ '\n')) ∈ scan ('-' :: '-' :: ds) := by
                    rw [(Starts.lineComment ds).scan_eq]
                    exact List.mem_cons_self
                  have hblank := h _ hmem
                  have hcut := dropWhile_lineComment ds
                  have htail : BreaksEndComments (ds.dropWhile (!isLineBreak ·)) :=
                    h.of_subset fun body hbody => by
                      rw [hcut, scan_blanks_append hblank] at hbody
                      rw [(Starts.lineComment ds).scan_eq]
                      refine List.mem_cons_of_mem _ ((List.mem_append.1 hbody).resolve_left ?_)
                      simp
                  have hle := (List.dropWhile_sublist (l := ds) (!isLineBreak ·)).length_le
                  have ih' := ih _ (by simp at hn; omega) htail rfl
                  rw [relined_cons_of_not (by decide), relined_cons_of_not (by decide),
                    substance_lineComment, dropWhile_relined, ih', substance_lineComment, hcut,
                    substance_blanks_append hblank]

theorem relined_eq_self_iff {s : List Char} :
    relined s = s ↔ ∀ c ∈ s, isLineBreak c = true → c = '\n' := by
  constructor
  · intro h c hc hb
    exact eq_lineFeed_of_mem_relined (by rwa [h]) hb
  · exact relined_eq_self

/-- **The substance of a text stays with line feeds for its line breaks exactly if its quoted pieces
have no other breaks**, where line comments say nothing behind a break. -/
theorem substance_relined_eq_iff {s : List Char} (h : BreaksEndComments s) :
    substance (relined s) = substance s ↔ BreaksInQuotes s := by
  rw [substance_relined h]
  have hid : (substance s).map Piece.relined = substance s ↔
      ∀ p ∈ substance s, p.relined = p := by
    conv_lhs => rhs; rw [← List.map_id (substance s)]
    exact List.map_inj_left
  rw [hid]
  constructor
  · intro hp q body hq
    have hmem : Piece.quoted q body ∈ substance s := List.mem_filter.2 ⟨hq, rfl⟩
    have hbody := hp _ hmem
    simp only [Piece.relined, Piece.quoted.injEq, true_and] at hbody
    exact relined_eq_self_iff.1 hbody
  · intro hb p hp
    obtain ⟨hmem, hsub⟩ := List.mem_filter.1 hp
    cases p with
    | quoted q body => rw [Piece.relined, relined_eq_self_iff.2 (hb q body hmem)]
    | blockComment => simp [Piece.isSubstance] at hsub
    | plain | lineComment | semicolon | placeholder | percent => rfl

end SqlContract.Sql
