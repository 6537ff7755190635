/-
The lexical grammar of SQL text.

The scan looks for the end of what it reads in the text behind.  The grammar here says the same
without looking: of which stretches a text is made, and which of them may stand side by side.  A text
that is put together by it is taken apart again by the scan, so nothing inside a literal or a comment
is ever read as code, and nothing that touches a stretch changes it.

Main definitions:

* `Piece.WellFormed`, `IsOrdinary` — the texts of the single stretches;
* `Stretch`, `Stretch.MayPrecede` — stretches, and which may stand side by side;
* `spell`, `marksFrom` — the text of some stretches, and where those that are no ordinary text start.

Main results:

* `scan_text_append` — **one stretch is read from a text**, whatever follows where it may end;
* `scan_spell` — the scan of stretches that are put together;
* `occurrences_spell` — **the scan finds exactly the stretches that are no ordinary text**.
-/

import SqlContract.Proofs.Scanning.Occurrences

set_option autoImplicit false
set_option relaxedAutoImplicit false

namespace SqlContract.Sql

open SqlContract.Text

/-! ### Stretches of text -/

/-- The pieces that a grammar of SQL text allows: inner quotes are doubled, a line comment has one
line, a block comment is closed at its end only, and a number is written in digits. -/
def Piece.WellFormed : Piece → Prop
  | .plain _ => False
  | .quoted q body => Doubled q.char body
  | .lineComment body => '\n' ∉ body
  | .blockComment body => ∀ u v, body ++ ['*', '/'] = u ++ '*' :: '/' :: v → v = []
  | .placeholder digits => ∀ d ∈ digits, isDigit d = true
  | .semicolon | .percent => True

/-- A comment is closed at its end only if its first closing bracket is the last thing in it. -/
theorem closesAtEnd_iff {body : List Char} :
    (∀ u v, body ++ ['*', '/'] = u ++ '*' :: '/' :: v → v = []) ↔
      ¬ ['*', '/'] <:+: body ++ ['*'] := by
  have hsplit : body ++ ['*', '/'] = body ++ ['*'] ++ ['/'] := by simp
  constructor
  · rintro h ⟨u, v, he⟩
    have hend : body ++ ['*', '/'] = u ++ '*' :: '/' :: (v ++ ['/']) := by
      rw [hsplit, ← he]
      simp
    exact absurd (h u (v ++ ['/']) hend) (by simp)
  · intro h u v he
    rcases List.eq_nil_or_concat v with rfl | ⟨w, d, rfl⟩
    · rfl
    · rw [hsplit] at he
      have hcut : u ++ '*' :: '/' :: w.concat d = u ++ '*' :: '/' :: w ++ [d] := by simp
      rw [hcut] at he
      exact absurd ⟨u, w, by simpa using (List.append_inj' he rfl).1.symm⟩ h

/-- Whether inner quotes are doubled is seen by closing the piece. -/
theorem doubled_iff_closeQuote {q : Char} {body : List Char} :
    Doubled q body ↔ closeQuote q (body ++ [q]) = some (body, []) := by
  simp [closeQuote_eq_some_iff]

instance Piece.decidableWellFormed (p : Piece) : Decidable p.WellFormed :=
  match p with
  | .plain _ => inferInstanceAs (Decidable False)
  | .quoted q body => decidable_of_iff (closeQuote q.char (body ++ [q.char]) = some (body, []))
      doubled_iff_closeQuote.symm
  | .lineComment body => inferInstanceAs (Decidable ('\n' ∉ body))
  | .blockComment body => decidable_of_iff (¬ ['*', '/'] <:+: body ++ ['*']) closesAtEnd_iff.symm
  | .placeholder digits => List.decidableBAll (fun d => isDigit d = true) digits
  | .semicolon | .percent => inferInstanceAs (Decidable True)

/-- Texts that hold nothing but ordinary characters. -/
def IsOrdinary (s : List Char) : Prop :=
  s ≠ [] ∧ (∀ c ∈ s, c ∉ ['\'', '"', ';', '?', '%']) ∧
    ¬ ['-', '-'] <:+: s ∧ ¬ ['/', '*'] <:+: s

instance (s : List Char) : Decidable (IsOrdinary s) :=
  have := List.decidableBAll (fun c => c ∉ ['\'', '"', ';', '?', '%']) s
  inferInstanceAs (Decidable (_ ∧ _ ∧ _ ∧ _))

/-- A stretch of text: a run of ordinary characters, or a piece of another kind. -/
inductive Stretch
  | ordinary (s : List Char)
  | piece (p : Piece)
  deriving DecidableEq, Repr

namespace Stretch

/-- The spelling of a stretch. -/
def text : Stretch → List Char
  | .ordinary s => s
  | .piece p => p.text

/-- The pieces that a stretch is scanned as. -/
def pieces : Stretch → List Piece
  | .ordinary s => s.map .plain
  | .piece p => [p]

/-- Whether a stretch has a text of its kind. -/
def WellFormed : Stretch → Prop
  | .ordinary s => IsOrdinary s
  | .piece p => p.WellFormed

instance (l : Stretch) : Decidable l.WellFormed :=
  match l with
  | .ordinary s => inferInstanceAs (Decidable (IsOrdinary s))
  | .piece p => inferInstanceAs (Decidable p.WellFormed)

/-- Which stretches may stand side by side.  Quoted pieces with the same quote, or two ordinary texts,
would be one; a line comment needs a line feed behind it, a number must not go on, and a minus must
not join a line comment. -/
def MayPrecede : Stretch → Stretch → Prop
  | .piece (.quoted q _), .piece (.quoted q' _) => q ≠ q'
  | .piece (.lineComment _), .ordinary s => s.head? = some '\n'
  | .piece (.lineComment _), .piece _ => False
  | .piece (.placeholder _), .ordinary s => ∀ c ∈ s.head?, isDigit c = false
  | .ordinary _, .ordinary _ => False
  | .ordinary s, .piece (.lineComment _) => s.getLast? ≠ some '-'
  | _, _ => True

/-- Whether a stretch ends before the text `t`: nothing at the start of `t` goes on with it, closes
it later, or makes its last character the start of a comment. -/
def EndsBefore (t : List Char) : Stretch → Prop
  | .piece (.quoted q _) => t.head? ≠ some q.char
  | .piece (.lineComment _) => ∀ c ∈ t.head?, c = '\n'
  | .piece (.placeholder _) => ∀ c ∈ t.head?, isDigit c = false
  | .piece _ => True
  | .ordinary s =>
      (s.getLast? = some '-' → t.head? ≠ some '-') ∧ (s.getLast? = some '/' → t.head? ≠ some '*')

end Stretch

/-- The text of some stretches. -/
def spell (ls : List Stretch) : List Char :=
  ls.flatMap Stretch.text

/-- The stretches that are no ordinary text, where they start in the text of all, of which the first
starts at `start`. -/
def marksFrom (start : Nat) : List Stretch → List Occurrence
  | [] => []
  | .ordinary s :: ls => marksFrom (start + s.length) ls
  | .piece p :: ls => ⟨p, start⟩ :: marksFrom (start + p.text.length) ls

/-! ### Reading one stretch -/

/-- A well-formed piece is read from a text that it may stand before. -/
theorem scan_piece_append {p : Piece} (hp : p.WellFormed) {t : List Char}
    (ht : (Stretch.piece p).EndsBefore t) : scan (p.text ++ t) = p :: scan t := by
  cases p with
  | plain => exact hp.elim
  | quoted q body =>
      have hclose : closeQuote q.char (body ++ q.char :: t) = some (body, t) :=
        closeQuote_of_doubled hp fun he => absurd he ht
      have htext : (Piece.quoted q body).text ++ t = q.char :: (body ++ q.char :: t) := by
        simp [Piece.text]
      rw [htext, (Starts.quoted q hclose).scan_eq]
  | lineComment body =>
      have hbody : ∀ c ∈ body, (decide (c ≠ '\n')) = true := by
        intro c hc
        simpa using fun e : c = '\n' => hp (e ▸ hc)
      obtain ⟨htake, hdrop⟩ := span_eq_iff.2 ⟨rfl, hbody, fun c hc => by simp [ht c hc]⟩
      have hstart := Starts.lineComment (body ++ t)
      rw [htake, hdrop] at hstart
      exact hstart.scan_eq
  | blockComment body =>
      have hclose : closeComment (body ++ '*' :: '/' :: t) = some (body, t) :=
        closeComment_eq_some_iff.2 ⟨rfl, closesAtEnd_iff.1 hp⟩
      have htext : (Piece.blockComment body).text ++ t = '/' :: '*' :: (body ++ '*' :: '/' :: t) := by
        simp [Piece.text]
      rw [htext, (Starts.blockComment hclose).scan_eq]
  | semicolon => exact (Starts.semicolon t).scan_eq
  | placeholder digits =>
      obtain ⟨htake, hdrop⟩ := span_eq_iff.2 ⟨rfl, hp, ht⟩
      have hstart := Starts.placeholder (digits ++ t)
      rw [htake, hdrop] at hstart
      exact hstart.scan_eq
  | percent => exact (Starts.percent t).scan_eq

/-- A character that opens nothing with the text behind it is plain. -/
theorem starts_plain {c : Char} {t : List Char} (hc : c ∉ ['\'', '"', ';', '?', '%'])
    (hdash : c = '-' → t.head? ≠ some '-') (hslash : c = '/' → t.head? ≠ some '*') :
    Starts c t (.plain c) t := by
  by_cases h₁ : c = '-'
  · subst h₁
    exact .dash (hdash rfl)
  by_cases h₂ : c = '/'
  · subst h₂
    exact .slash (hslash rfl)
  refine .plain t ?_
  simp only [List.mem_cons, List.not_mem_nil, or_false, not_or] at hc
  simp [isMark, h₁, h₂, hc]

/-- Ordinary text is read character by character from a text that it may stand before. -/
theorem scan_ordinary_append {s t : List Char} (hs : IsOrdinary s)
    (ht : (Stretch.ordinary s).EndsBefore t) : scan (s ++ t) = s.map .plain ++ scan t := by
  -- the empty rest of the text is ordinary but for its length
  obtain ⟨-, hmarks, hdash, hslash⟩ := hs
  obtain ⟨hdashEnd, hslashEnd⟩ := ht
  induction s with
  | nil => rfl
  | cons c s ih =>
      have hcs : ∀ {a b : Char}, c = a → ¬ [a, b] <:+: c :: s →
          ((c :: s).getLast? = some a → t.head? ≠ some b) → (s ++ t).head? ≠ some b := by
        rintro a b rfl hinfix hend
        cases s with
        | nil => exact hend rfl
        | cons d s =>
            intro he
            obtain rfl : d = b := Option.some.inj he
            exact hinfix ⟨[], s, rfl⟩
      have hstart : Starts c (s ++ t) (.plain c) (s ++ t) :=
        starts_plain (hmarks c List.mem_cons_self) (fun e => hcs e hdash hdashEnd)
          (fun e => hcs e hslash hslashEnd)
      have hlast : ∀ a, s.getLast? = some a → (c :: s).getLast? = some a := by
        intro a ha
        rw [List.getLast?_cons, ha]
        rfl
      rw [List.cons_append, hstart.scan_eq, ih (fun d hd => hmarks d (List.mem_cons_of_mem c hd))
        (fun hi => hdash (List.infix_cons hi)) (fun hi => hslash (List.infix_cons hi))
        (fun ha => hdashEnd (hlast _ ha)) (fun ha => hslashEnd (hlast _ ha))]
      rfl

/-- **One stretch is read from a text** that it may stand before. -/
theorem scan_text_append {l : Stretch} (hl : l.WellFormed) {t : List Char} (ht : l.EndsBefore t) :
    scan (l.text ++ t) = l.pieces ++ scan t := by
  cases l with
  | ordinary s => exact scan_ordinary_append hl ht
  | piece p => exact scan_piece_append hl ht

/-! ### Reading stretches that stand side by side -/

/-- The character that a piece starts with. -/
def Piece.first : Piece → Char
  | .plain c => c
  | .quoted q _ => q.char
  | .lineComment _ => '-'
  | .blockComment _ => '/'
  | .semicolon => ';'
  | .placeholder _ => '?'
  | .percent => '%'

theorem Piece.head?_text_append (p : Piece) (t : List Char) :
    (p.text ++ t).head? = some p.first := by
  cases p <;> rfl

/-- A piece that the grammar allows starts with a character that ordinary text ends before. -/
theorem Piece.WellFormed.isMark_first {p : Piece} (h : p.WellFormed) : isMark p.first = true := by
  cases p with
  | plain => exact h.elim
  | quoted q body => cases q <;> rfl
  | lineComment | blockComment | semicolon | placeholder | percent => rfl

theorem isDigit_of_isMark {c : Char} (h : isMark c = true) : isDigit c = false := by
  simp only [isMark, List.contains_eq_mem, List.mem_cons, List.not_mem_nil, or_false,
    decide_eq_true_eq] at h
  rcases h with rfl | rfl | rfl | rfl | rfl | rfl | rfl <;> decide

/-- The end of a text ends every stretch. -/
theorem Stretch.endsBefore_nil (l : Stretch) : l.EndsBefore [] := by
  cases l with
  | ordinary s => exact ⟨fun _ => by simp, fun _ => by simp⟩
  | piece p => cases p <;> simp [Stretch.EndsBefore]

/-- A stretch ends before ordinary text that it may stand before. -/
theorem Stretch.MayPrecede.endsBefore_ordinary {l : Stretch} {s : List Char}
    (h : l.MayPrecede (.ordinary s)) (hs : IsOrdinary s) (t : List Char) :
    l.EndsBefore (s ++ t) := by
  obtain ⟨d, s, rfl⟩ := List.exists_cons_of_ne_nil hs.1
  cases l with
  | ordinary => exact h.elim
  | piece p =>
      cases p with
      | quoted q body =>
          intro he
          obtain rfl : d = q.char := Option.some.inj he
          have hd := hs.2.1 _ List.mem_cons_self
          cases q with
          | single => exact hd (by decide)
          | double => exact hd (by decide)
      | lineComment body =>
          obtain rfl : d = '\n' := Option.some.inj h
          intro c hc
          exact (Option.some.inj hc).symm
      | placeholder digits => exact h
      | plain | blockComment | semicolon | percent => trivial

/-- A stretch ends before a piece that it may stand before. -/
theorem Stretch.MayPrecede.endsBefore_piece {l : Stretch} {p : Piece} (h : l.MayPrecede (.piece p))
    (hp : p.WellFormed) (t : List Char) : l.EndsBefore (p.text ++ t) := by
  have hhead := p.head?_text_append t
  cases l with
  | ordinary s =>
      refine ⟨fun hs he => ?_, fun _ he => ?_⟩
      · -- only a line comment starts with a minus
        have hfirst : p.first = '-' := Option.some.inj (hhead.symm.trans he)
        cases p with
        | plain => exact hp.elim
        | quoted q body => cases q <;> simp [Piece.first, Quote.char] at hfirst
        | lineComment => exact h hs
        | blockComment | semicolon | placeholder | percent => simp [Piece.first] at hfirst
      · have hmark := hp.isMark_first
        rw [Option.some.inj (hhead.symm.trans he)] at hmark
        exact absurd hmark (by decide)
  | piece a =>
      cases a with
      | quoted q body =>
          intro he
          have hfirst : p.first = q.char := Option.some.inj (hhead.symm.trans he)
          cases p with
          | plain => exact hp.elim
          | quoted q' body' =>
              have hne : q ≠ q' := h
              cases q <;> cases q' <;> simp [Piece.first, Quote.char] at hfirst hne
          | lineComment | blockComment | semicolon | placeholder | percent =>
              cases q <;> simp [Piece.first, Quote.char] at hfirst
      | lineComment => exact h.elim
      | placeholder digits =>
          intro c hc
          rw [← Option.some.inj (hhead.symm.trans hc)]
          exact isDigit_of_isMark hp.isMark_first
      | plain | blockComment | semicolon | percent => trivial

/-- A stretch ends before one that it may stand before. -/
theorem Stretch.MayPrecede.endsBefore {a b : Stretch} (h : a.MayPrecede b) (hb : b.WellFormed)
    (t : List Char) : a.EndsBefore (b.text ++ t) := by
  cases b with
  | ordinary s => exact h.endsBefore_ordinary hb t
  | piece p => exact h.endsBefore_piece hb t

variable {ls : List Stretch}

/-- The scan of stretches that are put together. -/
theorem scan_spell (hwf : ∀ l ∈ ls, l.WellFormed) (hadj : ls.IsChain Stretch.MayPrecede) :
    scan (spell ls) = ls.flatMap Stretch.pieces := by
  induction ls with
  | nil => exact scan_nil
  | cons l ls ih =>
      obtain ⟨hnext, hadj⟩ := List.isChain_cons.1 hadj
      have hends : l.EndsBefore (spell ls) := by
        cases ls with
        | nil => exact l.endsBefore_nil
        | cons k ls =>
            exact (hnext k rfl).endsBefore (hwf k (List.mem_cons_of_mem l List.mem_cons_self)) _
      have hrest := ih (fun k hk => hwf k (List.mem_cons_of_mem l hk)) hadj
      have hspell : spell (l :: ls) = l.text ++ spell ls := rfl
      rw [hspell, scan_text_append (hwf l List.mem_cons_self) hends, hrest, List.flatMap_cons]

theorem occurrencesFrom_map_plain (start : Nat) (s : List Char) (ps : List Piece) :
    occurrencesFrom start (s.map .plain ++ ps) = occurrencesFrom (start + s.length) ps := by
  induction s generalizing start with
  | nil => rfl
  | cons c s ih =>
      rw [List.map_cons, List.cons_append, occurrencesFrom_plain, ih, List.length_cons,
        Nat.add_right_comm, Nat.add_assoc]

/-- The occurrences among the pieces of stretches. -/
theorem occurrencesFrom_pieces (hwf : ∀ l ∈ ls, l.WellFormed) (start : Nat) :
    occurrencesFrom start (ls.flatMap Stretch.pieces) = marksFrom start ls := by
  induction ls generalizing start with
  | nil => rfl
  | cons l ls ih =>
      have ih' := ih fun k hk => hwf k (List.mem_cons_of_mem l hk)
      rw [List.flatMap_cons]
      cases l with
      | ordinary s =>
          rw [Stretch.pieces, occurrencesFrom_map_plain, ih', marksFrom]
      | piece p =>
          have hp : p.isPlain = false := by
            have hwfp := hwf _ List.mem_cons_self
            cases p with
            | plain => exact hwfp.elim
            | quoted | lineComment | blockComment | semicolon | placeholder | percent => rfl
          rw [Stretch.pieces, List.singleton_append, occurrencesFrom_cons_of_not hp, ih', marksFrom]

/-- **The scan finds exactly the stretches that are no ordinary text**, in order, each at its place and
as what it is. -/
theorem occurrences_spell (hwf : ∀ l ∈ ls, l.WellFormed) (hadj : ls.IsChain Stretch.MayPrecede) :
    occurrences (spell ls) = marksFrom 0 ls := by
  rw [occurrences, scan_spell hwf hadj, occurrencesFrom_pieces hwf]

/-- Brackets, quotes and semicolons that stand in one another, with nothing between them. -/
theorem occurrences_spell_nested :
    let ls : List Stretch :=
      [.ordinary "a/".toList, .piece (.blockComment "/'?*".toList),
        .piece (.quoted .single "--''/*".toList), .piece (.quoted .double "';".toList),
        .piece (.placeholder ['1', '2']), .piece (.placeholder []), .ordinary "-".toList,
        .piece .percent, .piece (.lineComment "'; /*".toList), .ordinary "\n*/".toList,
        .piece .semicolon]
    (∀ l ∈ ls, l.WellFormed) ∧ ls.IsChain Stretch.MayPrecede ∧
      occurrences (spell ls) = marksFrom 0 ls ∧
      (marksFrom 0 ls).map (·.start) = [2, 10, 18, 22, 25, 27, 28, 38] := by
  intro ls
  have hwf : ∀ l ∈ ls, l.WellFormed := by decide +kernel
  have hadj : ls.IsChain Stretch.MayPrecede := by
    have hdigit : isDigit '-' = false := by decide
    simp [ls, Stretch.MayPrecede, hdigit]
  exact ⟨hwf, hadj, occurrences_spell hwf hadj, by decide +kernel⟩

end SqlContract.Sql
