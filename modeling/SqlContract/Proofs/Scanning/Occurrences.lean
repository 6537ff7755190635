/-
Where the pieces of a text stand.

The pieces of a scan stand side by side, so a piece starts where the texts of the pieces before it
end.  What a reader of SQL looks for are the pieces that are no ordinary characters; the text between
two of them is copied as it is.

Main definitions:

* `Occurrence`, `occurrences` — the pieces of a text that are no ordinary characters, with the places
  where they start;
* `splice` — a text with some stretches of it replaced.

Main results:

* `occurrencesFrom_append`, `occurrencesFrom_add` — occurrences in two parts of a text, and in a text
  that stands further back;
* `within_of_mem` — an occurrence lies inside the pieces it belongs to;
* `exists_piece_at`, `eq_of_mem_of_start_le` — at every place there is one piece, and no second one;
* `splice_occurrences` — **to rewrite a text piece by piece is to replace its occurrences**.
-/

import SqlContract.Proofs.Scanning.Parts

set_option autoImplicit false
set_option relaxedAutoImplicit false

namespace SqlContract.Sql

/-- Whether a piece is an ordinary character. -/
def Piece.isPlain : Piece → Bool
  | .plain _ => true
  | _ => false

theorem Piece.eq_plain_of_isPlain {p : Piece} (h : p.isPlain = true) : ∃ c, p = .plain c := by
  cases p with
  | plain c => exact ⟨c, rfl⟩
  | quoted | lineComment | blockComment | semicolon | placeholder | percent =>
      simp [Piece.isPlain] at h

/-- A piece that is no ordinary character, at its place in a text. -/
structure Occurrence where
  piece : Piece
  /-- How many characters stand before it. -/
  start : Nat
  deriving DecidableEq, Repr

namespace Occurrence

/-- How many characters stand before its end. -/
def stop (o : Occurrence) : Nat :=
  o.start + o.piece.text.length

/-- The same piece in a text with `n` more characters in front. -/
def shift (n : Nat) (o : Occurrence) : Occurrence :=
  ⟨o.piece, n + o.start⟩

/-- Whether it lies between two places of a text. -/
def within (lo hi : Nat) (o : Occurrence) : Bool :=
  lo ≤ o.start && o.stop ≤ hi

theorem start_lt_stop (o : Occurrence) : o.start < o.stop :=
  Nat.lt_add_of_pos_right o.piece.text_length_pos

end Occurrence

/-- The occurrences among some pieces, of which the first starts at `start`. -/
def occurrencesFrom (start : Nat) : List Piece → List Occurrence
  | [] => []
  | p :: ps =>
      if p.isPlain then occurrencesFrom (start + p.text.length) ps
      else ⟨p, start⟩ :: occurrencesFrom (start + p.text.length) ps

/-- The pieces of a text that are no ordinary characters, in order and at their places. -/
def occurrences (s : List Char) : List Occurrence :=
  occurrencesFrom 0 (scan s)

@[simp] theorem occurrencesFrom_nil (start : Nat) : occurrencesFrom start [] = [] := rfl

theorem occurrencesFrom_plain (start : Nat) (c : Char) (ps : List Piece) :
    occurrencesFrom start (.plain c :: ps) = occurrencesFrom (start + 1) ps := rfl

theorem occurrencesFrom_cons_of_not {p : Piece} (h : p.isPlain = false) (start : Nat)
    (ps : List Piece) :
    occurrencesFrom start (p :: ps) = ⟨p, start⟩ :: occurrencesFrom (start + p.text.length) ps := by
  rw [occurrencesFrom, h]
  rfl

/-- The occurrences in two parts of a text. -/
theorem occurrencesFrom_append (start : Nat) (ps qs : List Piece) :
    occurrencesFrom start (ps ++ qs) =
      occurrencesFrom start ps ++ occurrencesFrom (start + (join ps).length) qs := by
  induction ps generalizing start with
  | nil => rfl
  | cons p ps ih =>
      have hlen : start + (join (p :: ps)).length = start + p.text.length + (join ps).length := by
        rw [join_cons, List.length_append, Nat.add_assoc]
      rw [List.cons_append, hlen]
      cases hp : p.isPlain with
      | true =>
          simp only [occurrencesFrom, hp, if_true]
          exact ih _
      | false =>
          rw [occurrencesFrom_cons_of_not hp, occurrencesFrom_cons_of_not hp, ih, List.cons_append]

/-- The occurrences in a text that stands further back. -/
theorem occurrencesFrom_add (n start : Nat) (ps : List Piece) :
    occurrencesFrom (n + start) ps = (occurrencesFrom start ps).map (·.shift n) := by
  induction ps generalizing start with
  | nil => rfl
  | cons p ps ih =>
      have hrest := ih (start + p.text.length)
      rw [← Nat.add_assoc] at hrest
      cases hp : p.isPlain with
      | true =>
          simp only [occurrencesFrom, hp, if_true]
          exact hrest
      | false =>
          rw [occurrencesFrom_cons_of_not hp, occurrencesFrom_cons_of_not hp, hrest]
          rfl

/-- An occurrence lies inside the text of the pieces it belongs to. -/
theorem within_of_mem {start : Nat} {ps : List Piece} {o : Occurrence}
    (h : o ∈ occurrencesFrom start ps) : start ≤ o.start ∧ o.stop ≤ start + (join ps).length := by
  induction ps generalizing start with
  | nil => exact absurd h List.not_mem_nil
  | cons p ps ih =>
      have hrest : o ∈ occurrencesFrom (start + p.text.length) ps →
          start ≤ o.start ∧ o.stop ≤ start + (join (p :: ps)).length := by
        intro hm
        obtain ⟨hlo, hhi⟩ := ih hm
        rw [join_cons, List.length_append]
        omega
      cases hp : p.isPlain with
      | true =>
          simp only [occurrencesFrom, hp, if_true] at h
          exact hrest h
      | false =>
          rw [occurrencesFrom_cons_of_not hp] at h
          rcases List.mem_cons.1 h with rfl | h
          · rw [join_cons, List.length_append, Occurrence.stop]
            dsimp only
            omega
          · exact hrest h

/-- The pieces of the occurrences. -/
theorem map_piece_occurrencesFrom (start : Nat) (ps : List Piece) :
    (occurrencesFrom start ps).map (·.piece) = ps.filter (!·.isPlain) := by
  induction ps generalizing start with
  | nil => rfl
  | cons p ps ih =>
      cases hp : p.isPlain with
      | true =>
          simp only [occurrencesFrom, hp, if_true]
          rw [List.filter_cons_of_neg (by simp [hp]), ih]
      | false =>
          rw [occurrencesFrom_cons_of_not hp, List.filter_cons_of_pos (by simp [hp]), List.map_cons,
            ih]

/-! ### The piece at a place -/

/-- A place of a text belongs to one of its pieces, with the part `w` of the piece before it. -/
theorem exists_piece_at {ps : List Piece} {place : Nat} (h : place < (join ps).length) :
    ∃ as p bs w v, ps = as ++ p :: bs ∧ p.text = w ++ v ∧ v ≠ [] ∧
      place = (join as).length + w.length := by
  induction ps generalizing place with
  | nil => exact absurd h (Nat.not_lt_zero _)
  | cons p ps ih =>
      rw [join_cons, List.length_append] at h
      by_cases hp : place < p.text.length
      · refine ⟨[], p, ps, p.text.take place, p.text.drop place, rfl,
          (List.take_append_drop _ _).symm, ?_, ?_⟩
        · rw [Ne, List.drop_eq_nil_iff]
          omega
        · rw [List.length_take, join_nil, List.length_nil]
          omega
      · have hlater : place - p.text.length < (join ps).length := by omega
        obtain ⟨as, q, bs, w, v, rfl, hq, hv, hplace⟩ := ih hlater
        refine ⟨p :: as, q, bs, w, v, rfl, hq, hv, ?_⟩
        rw [join_cons, List.length_append]
        omega

/-- No occurrence but the one of the piece there reaches over a place of it. -/
theorem eq_of_mem_of_start_le {as bs : List Piece} {p : Piece} {o : Occurrence} {place : Nat}
    (ho : o ∈ occurrencesFrom 0 (as ++ p :: bs)) (hstart : o.start ≤ place) (hstop : place < o.stop)
    (hlo : (join as).length ≤ place) (hhi : place < (join as).length + p.text.length) :
    o = ⟨p, (join as).length⟩ := by
  rw [occurrencesFrom_append, Nat.zero_add] at ho
  rcases List.mem_append.1 ho with ho | ho
  · -- one before the piece ends where the piece starts
    have hbefore := (within_of_mem ho).2
    omega
  · have hbehind : o ∉ occurrencesFrom ((join as).length + p.text.length) bs := by
      intro hm
      have hlate := (within_of_mem hm).1
      omega
    cases hp : p.isPlain with
    | true =>
        simp only [occurrencesFrom, hp, if_true] at ho
        exact absurd ho hbehind
    | false =>
        rw [occurrencesFrom_cons_of_not hp] at ho
        exact (List.mem_cons.1 ho).resolve_right hbehind

/-- The occurrence of a piece that is no ordinary character. -/
theorem mem_occurrencesFrom_append {p : Piece} (hp : p.isPlain = false) (as bs : List Piece) :
    (⟨p, (join as).length⟩ : Occurrence) ∈ occurrencesFrom 0 (as ++ p :: bs) := by
  rw [occurrencesFrom_append, Nat.zero_add, occurrencesFrom_cons_of_not hp]
  exact List.mem_append_right _ List.mem_cons_self

/-! ### Replacing occurrences -/

/-- The text `s`, which starts at the place `start`, with the stretches of some occurrences
replaced. -/
def splice (edit : Piece → List Char) (start : Nat) (s : List Char) :
    List Occurrence → List Char
  | [] => s
  | o :: os =>
      s.take (o.start - start) ++
        (edit o.piece ++ splice edit o.stop (s.drop (o.stop - start)) os)

/-- What stands before the first occurrence is copied. -/
theorem splice_cons_of_lt {edit : Piece → List Char} {start : Nat} {os : List Occurrence}
    (h : ∀ o ∈ os.head?, start < o.start) (c : Char) (s : List Char) :
    splice edit start (c :: s) os = c :: splice edit (start + 1) s os := by
  cases os with
  | nil => rfl
  | cons o os =>
      have hlt := h o rfl
      have hstop := o.start_lt_stop
      obtain ⟨n, hn⟩ : ∃ n, o.start - start = n + 1 := ⟨o.start - start - 1, by omega⟩
      obtain ⟨m, hm⟩ : ∃ m, o.stop - start = m + 1 := ⟨o.stop - start - 1, by omega⟩
      have hn' : o.start - (start + 1) = n := by omega
      have hm' : o.stop - (start + 1) = m := by omega
      simp only [splice, hn, hm, hn', hm', List.take_succ_cons, List.drop_succ_cons,
        List.cons_append]

/-- **To rewrite a text piece by piece is to replace its occurrences**, where ordinary characters
are left as they are. -/
theorem splice_occurrences (edit : Piece → List Char) (ps : List Piece)
    (h : ∀ c, .plain c ∈ ps → edit (.plain c) = [c]) (start : Nat) :
    splice edit start (join ps) (occurrencesFrom start ps) = ps.flatMap edit := by
  induction ps generalizing start with
  | nil => rfl
  | cons p ps ih =>
      have ih' := ih fun c hc => h c (List.mem_cons_of_mem p hc)
      cases hp : p.isPlain with
      | true =>
          obtain ⟨c, rfl⟩ := p.eq_plain_of_isPlain hp
          have hfirst : ∀ o ∈ (occurrencesFrom (start + 1) ps).head?, start < o.start := fun o ho =>
            (within_of_mem (List.mem_of_mem_head? ho)).1
          have hjoin : join (.plain c :: ps) = c :: join ps := rfl
          rw [occurrencesFrom_plain, hjoin, splice_cons_of_lt hfirst, ih', List.flatMap_cons,
            h c List.mem_cons_self]
          rfl
      | false =>
          have hstop : (⟨p, start⟩ : Occurrence).stop = start + p.text.length := rfl
          have hlen : start + p.text.length - start = p.text.length := Nat.add_sub_cancel_left ..
          rw [occurrencesFrom_cons_of_not hp, splice, hstop, hlen, Nat.sub_self, join_cons,
            List.take_zero, List.nil_append, List.drop_left, ih', List.flatMap_cons]

end SqlContract.Sql
