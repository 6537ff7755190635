/-
The statements of a text, and what their own scans say.

A statement is a group of pieces between two semicolons.  Its text is scanned again by everything
that reads it, and nothing promises beforehand that the second scan finds the same pieces: a quote
that opens nothing in the whole text could close something in a part of it.  It does not, since a
scan may be cut anywhere.

Main definitions:

* `segmentsAt` — the statements of a text that begins on a given line.

Main results:

* `scan_segment` — **a statement scans to its own pieces of the text**, and it has no semicolon;
* `segmentsAt_append` — the first statement of a text, and those behind it.
-/

import SqlContract.Proofs.Scanning.Substance
import SqlContract.Sql.Segment

set_option autoImplicit false
set_option relaxedAutoImplicit false

namespace SqlContract.Sql

open SqlContract.Text

/-! ### The cut at the semicolons -/

@[simp] theorem cut_semicolon (ps : List Piece) :
    cut (.semicolon :: ps) = ([], (cut ps).1 :: (cut ps).2) := rfl

theorem cut_cons {p : Piece} (h : p ≠ .semicolon) (ps : List Piece) :
    cut (p :: ps) = (p :: (cut ps).1, (cut ps).2) := by
  rw [cut]
  exact h

/-- The first group ends at the first semicolon. -/
theorem cut_append {g : List Piece} (h : .semicolon ∉ g) (ps : List Piece) :
    cut (g ++ .semicolon :: ps) = (g, (cut ps).1 :: (cut ps).2) := by
  induction g with
  | nil => rfl
  | cons p g ih =>
      have hp : p ≠ .semicolon := fun he => h (he ▸ List.mem_cons_self)
      rw [List.cons_append, cut_cons hp, ih fun hm => h (List.mem_cons_of_mem p hm)]

theorem cut_of_not_mem {g : List Piece} (h : .semicolon ∉ g) : cut g = (g, []) := by
  induction g with
  | nil => rfl
  | cons p g ih =>
      have hp : p ≠ .semicolon := fun he => h (he ▸ List.mem_cons_self)
      rw [cut_cons hp, ih fun hm => h (List.mem_cons_of_mem p hm)]

theorem cut_fst_prefix (ps : List Piece) : (cut ps).1 <+: ps := by
  induction ps with
  | nil => exact List.prefix_refl []
  | cons p ps ih =>
      by_cases hp : p = .semicolon
      · rw [hp, cut_semicolon]
        exact List.nil_prefix
      · rw [cut_cons hp]
        exact List.cons_prefix_cons.2 ⟨rfl, ih⟩

/-- The groups of some pieces, the first and those behind the semicolons, hold no semicolon, and
each lies in one part of the pieces. -/
theorem mem_cut {g ps : List Piece} (h : g ∈ (cut ps).1 :: (cut ps).2) :
    .semicolon ∉ g ∧ g <:+: ps := by
  induction ps generalizing g with
  | nil =>
      obtain rfl : g = [] := List.mem_singleton.1 h
      exact ⟨List.not_mem_nil, List.infix_refl []⟩
  | cons p ps ih =>
      by_cases hp : p = .semicolon
      · rw [hp, cut_semicolon] at h
        rcases List.mem_cons.1 h with rfl | h
        · exact ⟨List.not_mem_nil, List.nil_infix⟩
        · exact ⟨(ih h).1, List.infix_cons (ih h).2⟩
      · rw [cut_cons hp] at h
        rcases List.mem_cons.1 h with rfl | h
        · -- the first group goes on, so it has to start where the pieces start
          have hfirst := (ih List.mem_cons_self).1
          refine ⟨?_, (List.cons_prefix_cons.2 ⟨rfl, cut_fst_prefix ps⟩).isInfix⟩
          exact fun hm => (List.mem_cons.1 hm).elim (fun he => hp he.symm) hfirst
        · have hrest := ih (List.mem_cons_of_mem _ h)
          exact ⟨hrest.1, List.infix_cons hrest.2⟩

/-- Wherever a scan is cut twice, the part in between scans on its own. -/
theorem scan_join_of_infix {g : List Piece} {s : List Char} (h : g <:+: scan s) :
    scan (join g) = g := by
  obtain ⟨a, b, he⟩ := h
  -- first off what stands behind, then off what stands in front
  have hfront := (scan_of_append he.symm).1
  exact (scan_of_append hfront).2

/-! ### Statements -/

/-- The statements of a text that begins on line `line`. -/
def segmentsAt (line : Nat) (s : List Char) : List Segment :=
  segmentsFrom line (cut (scan s)).1 (cut (scan s)).2

theorem segments_eq_segmentsAt (s : List Char) : segments s = segmentsAt 1 s := rfl

/-- A statement is spelled by one of the groups. -/
theorem exists_group_of_mem {line : Nat} {g : List Piece} {gs : List (List Piece)} {seg : Segment}
    (h : seg ∈ segmentsFrom line g gs) : ∃ k ∈ g :: gs, seg.text = join k := by
  induction gs generalizing line g with
  | nil =>
      rw [segmentsFrom] at h
      split at h
      · exact absurd h List.not_mem_nil
      · obtain rfl := List.mem_singleton.1 h
        exact ⟨g, List.mem_cons_self, rfl⟩
  | cons next gs ih =>
      rw [segmentsFrom] at h
      rcases List.mem_cons.1 h with rfl | h
      · exact ⟨g, List.mem_cons_self, rfl⟩
      · obtain ⟨k, hk, he⟩ := ih h
        exact ⟨k, List.mem_cons_of_mem g hk, he⟩

/-- **A statement scans to its own pieces of the text**, and none of them is a semicolon. -/
theorem scan_segment {s : List Char} {seg : Segment} (h : seg ∈ segments s) :
    scan seg.text <:+: scan s ∧ .semicolon ∉ scan seg.text := by
  obtain ⟨g, hg, he⟩ := exists_group_of_mem h
  obtain ⟨hsemi, hpart⟩ := mem_cut hg
  rw [he, scan_join_of_infix hpart]
  exact ⟨hpart, hsemi⟩

/-- The first statement of a text and those behind it, where the semicolon after the first is one
of the whole text. -/
theorem segmentsAt_append {s t : List Char} (line : Nat)
    (h : scan (s ++ ';' :: t) = scan s ++ .semicolon :: scan t) (hs : .semicolon ∉ scan s) :
    segmentsAt line (s ++ ';' :: t) =
      ⟨s, startLine line s, true⟩ :: segmentsAt (line + lineFeeds s) t := by
  unfold segmentsAt
  rw [h, cut_append hs, segmentsFrom, join_scan]

/-- Blanks behind the last semicolon are no statement. -/
theorem segmentsAt_of_allBlank (line : Nat) {w : List Char} (h : AllBlank w) :
    segmentsAt line w = [] := by
  have hscan : scan w = w.map Piece.plain := by
    have he := scan_blanks_append h []
    rwa [List.append_nil, scan_nil, List.append_nil] at he
  have hkeep : (w.map Piece.plain).filter (!·.isComment) = w.map Piece.plain := by
    refine List.filter_eq_self.2 fun p hp => ?_
    obtain ⟨c, -, rfl⟩ := List.mem_map.1 hp
    rfl
  have hcode : strip (code (scan w)) = [] := by
    rw [code, hscan, hkeep, ← hscan, join_scan, ← List.append_nil w, strip_blanks_append h]
    rfl
  unfold segmentsAt
  rw [cut_of_not_mem (by simp [hscan]), segmentsFrom, hcode]
  rfl

end SqlContract.Sql
