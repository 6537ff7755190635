/-
The remote engine's reading of a query.

The remote engine looks for percent signs in the whole of a query, whatever literals and comments
stand there.  Two signs in a row stand for one, a sign before an `s` takes the next argument, and no
other use of the sign is known.  This module reads queries in that way, and shows that `pyformat`
writes what is read back as the text it was made from.

Main definitions:

* `FormatItem`, `readFormat` — what the remote engine reads in a query;
* `fill?` — a query with a text in the place of each argument;
* `placeholders` — the placeholders of a text, in order.

Main results:

* `readFormat_pyformat` — what is read in the remote form of a text, piece by piece;
* `count_argument_pyformat` — there is one argument for each placeholder;
* `pyformat_faithful` — **the remote form reads back as the text**.
-/

import Mathlib
import SqlContract.Sql.Placeholder

set_option autoImplicit false
set_option relaxedAutoImplicit false

namespace SqlContract.Sql

open SqlContract.Text

/-! ### Reading a query -/

/-- What the remote engine reads in a query. -/
inductive FormatItem
  /-- A character that stands for itself. -/
  | char (c : Char)
  /-- Two percent signs, which stand for one. -/
  | percent
  /-- The place of the next argument. -/
  | argument
  deriving DecidableEq, Repr

/-- The items of a query from left to right; none when a percent sign starts no item. -/
def readFormat : List Char → Option (List FormatItem)
  | [] => some []
  | '%' :: '%' :: cs => (readFormat cs).map (.percent :: ·)
  | '%' :: 's' :: cs => (readFormat cs).map (.argument :: ·)
  | '%' :: _ => none
  | c :: cs => (readFormat cs).map (.char c :: ·)

/-- The text of some items with the given texts in the places of the arguments; none when the texts
are more or fewer than the places. -/
def fill? : List (List Char) → List FormatItem → Option (List Char)
  | [], [] => some []
  | texts, .char c :: items => (fill? texts items).map (c :: ·)
  | texts, .percent :: items => (fill? texts items).map ('%' :: ·)
  | text :: texts, .argument :: items => (fill? texts items).map (text ++ ·)
  | _, _ => none

@[simp] theorem readFormat_nil : readFormat [] = some [] := rfl

@[simp] theorem readFormat_percent (cs : List Char) :
    readFormat ('%' :: '%' :: cs) = (readFormat cs).map (.percent :: ·) := rfl

@[simp] theorem readFormat_argument (cs : List Char) :
    readFormat ('%' :: 's' :: cs) = (readFormat cs).map (.argument :: ·) := rfl

theorem readFormat_cons_of_ne {c : Char} (h : c ≠ '%') (cs : List Char) :
    readFormat (c :: cs) = (readFormat cs).map (.char c :: ·) := by
  rw [readFormat]
  · exact fun _ hc => absurd hc h
  · exact fun _ hc => absurd hc h
  · exact h

@[simp] theorem fill?_nil : fill? [] [] = some [] := rfl

@[simp] theorem fill?_char (texts : List (List Char)) (c : Char) (items : List FormatItem) :
    fill? texts (.char c :: items) = (fill? texts items).map (c :: ·) := by
  cases texts <;> rfl

@[simp] theorem fill?_percent (texts : List (List Char)) (items : List FormatItem) :
    fill? texts (.percent :: items) = (fill? texts items).map ('%' :: ·) := by
  cases texts <;> rfl

@[simp] theorem fill?_argument (text : List Char) (texts : List (List Char))
    (items : List FormatItem) :
    fill? (text :: texts) (.argument :: items) = (fill? texts items).map (text ++ ·) := rfl

/-! ### The items of a piece -/

/-- The item that stands for a character. -/
def FormatItem.ofChar (c : Char) : FormatItem :=
  if c = '%' then .percent else .char c

/-- The items that the remote form of a piece is read as. -/
def Piece.items : Piece → List FormatItem
  | .placeholder _ => [.argument]
  | p => p.text.map FormatItem.ofChar

/-- Whether a piece is a placeholder. -/
def Piece.isPlaceholder : Piece → Bool
  | .placeholder _ => true
  | _ => false

/-- The placeholders of a text, in order. -/
def placeholders (s : List Char) : List Piece :=
  (scan s).filter Piece.isPlaceholder

/-- A piece that is no placeholder has its percent signs doubled. -/
theorem Piece.pyformat_of_not {p : Piece} (h : p.isPlaceholder = false) :
    p.pyformat = doublePercent p.text := by
  cases p with
  | placeholder => simp [Piece.isPlaceholder] at h
  | plain | quoted | lineComment | blockComment | semicolon | percent => rfl

theorem Piece.items_of_not {p : Piece} (h : p.isPlaceholder = false) :
    p.items = p.text.map FormatItem.ofChar := by
  cases p with
  | placeholder => simp [Piece.isPlaceholder] at h
  | plain | quoted | lineComment | blockComment | semicolon | percent => rfl

theorem Piece.eq_placeholder_of_isPlaceholder {p : Piece} (h : p.isPlaceholder = true) :
    ∃ digits, p = .placeholder digits := by
  cases p with
  | placeholder digits => exact ⟨digits, rfl⟩
  | plain | quoted | lineComment | blockComment | semicolon | percent =>
      simp [Piece.isPlaceholder] at h

/-! ### Reading what `pyformat` writes -/

/-- A text with doubled percent signs is read character by character, whatever follows it. -/
theorem readFormat_doublePercent_append (s t : List Char) :
    readFormat (doublePercent s ++ t) = (readFormat t).map (s.map FormatItem.ofChar ++ ·) := by
  induction s with
  | nil => simp [doublePercent]
  | cons c s ih =>
      have hcons : doublePercent (c :: s) ++ t =
          (if c = '%' then ['%', '%'] else [c]) ++ (doublePercent s ++ t) := by
        simp [doublePercent]
      rw [hcons]
      by_cases hc : c = '%'
      · subst hc
        simp [ih, FormatItem.ofChar, Function.comp_def]
      · rw [if_neg hc, List.cons_append, List.nil_append, readFormat_cons_of_ne hc, ih]
        simp [FormatItem.ofChar, hc, Function.comp_def]

/-- The remote form of a piece is read as the items of the piece, whatever follows it. -/
theorem readFormat_piece_append (p : Piece) (t : List Char) :
    readFormat (p.pyformat ++ t) = (readFormat t).map (p.items ++ ·) := by
  cases hp : p.isPlaceholder with
  | true =>
      obtain ⟨digits, rfl⟩ := p.eq_placeholder_of_isPlaceholder hp
      rfl
  | false =>
      rw [p.pyformat_of_not hp, p.items_of_not hp, readFormat_doublePercent_append]

/-- **The remote form of a text is read piece by piece.** -/
theorem readFormat_pyformat (s : List Char) :
    readFormat (pyformat s) = some ((scan s).flatMap Piece.items) := by
  unfold pyformat
  induction scan s with
  | nil => rfl
  | cons p ps ih =>
      rw [List.flatMap_cons, List.flatMap_cons, readFormat_piece_append, ih]
      rfl

/-! ### Filling in the placeholders -/

/-- Characters take no arguments. -/
theorem fill?_map_ofChar (texts : List (List Char)) (s : List Char) (items : List FormatItem) :
    fill? texts (s.map FormatItem.ofChar ++ items) = (fill? texts items).map (s ++ ·) := by
  induction s with
  | nil => simp
  | cons c s ih =>
      by_cases hc : c = '%'
      · subst hc
        simp [FormatItem.ofChar, ih, Function.comp_def]
      · simp [FormatItem.ofChar, hc, ih, Function.comp_def]

/-- The items of some pieces, with the placeholders among them filled in, spell the pieces. -/
theorem fill?_items (ps : List Piece) :
    fill? ((ps.filter Piece.isPlaceholder).map Piece.text) (ps.flatMap Piece.items) =
      some (join ps) := by
  induction ps with
  | nil => rfl
  | cons p ps ih =>
      cases hp : p.isPlaceholder with
      | true =>
          obtain ⟨digits, rfl⟩ := p.eq_placeholder_of_isPlaceholder hp
          have hitems : (Piece.placeholder digits).items = [.argument] := rfl
          rw [List.filter_cons_of_pos hp, List.map_cons, List.flatMap_cons, hitems,
            List.cons_append, List.nil_append, fill?_argument, ih]
          rfl
      | false =>
          rw [List.filter_cons_of_neg (by simp [hp]), List.flatMap_cons, p.items_of_not hp,
            fill?_map_ofChar, ih]
          rfl

theorem count_argument_map_ofChar (s : List Char) :
    (s.map FormatItem.ofChar).count .argument = 0 := by
  rw [List.count_eq_zero]
  intro hm
  obtain ⟨c, -, hc⟩ := List.mem_map.1 hm
  unfold FormatItem.ofChar at hc
  split at hc <;> simp at hc

theorem count_argument_items (ps : List Piece) :
    (ps.flatMap Piece.items).count .argument = (ps.filter Piece.isPlaceholder).length := by
  induction ps with
  | nil => rfl
  | cons p ps ih =>
      rw [List.flatMap_cons, List.count_append, ih]
      cases hp : p.isPlaceholder with
      | true =>
          obtain ⟨digits, rfl⟩ := p.eq_placeholder_of_isPlaceholder hp
          rw [List.filter_cons_of_pos hp, List.length_cons, Nat.add_comm]
          rfl
      | false =>
          rw [List.filter_cons_of_neg (by simp [hp]), p.items_of_not hp,
            count_argument_map_ofChar, Nat.zero_add]

/-- Each placeholder has one number. -/
theorem length_numbersFrom (largest : Nat) (ps : List Piece) :
    (numbersFrom largest ps).length = (ps.filter Piece.isPlaceholder).length := by
  induction ps generalizing largest with
  | nil => rfl
  | cons p ps ih =>
      cases p with
      | placeholder digits => exact congrArg (· + 1) (ih _)
      | plain | quoted | lineComment | blockComment | semicolon | percent => exact ih largest

theorem length_placeholderIndexes (s : List Char) :
    (placeholderIndexes s).length = (placeholders s).length := by
  rw [placeholderIndexes, List.length_map, placeholderNumbers, length_numbersFrom]
  rfl

/-- The remote form of a text adds percent signs, and a letter for each placeholder. -/
theorem mem_pyformat {s : List Char} {c : Char} (h : c ∈ pyformat s) :
    c ∈ s ∨ c = '%' ∨ c = 's' := by
  obtain ⟨p, hp, hc⟩ := List.mem_flatMap.1 h
  have htext : ∀ d ∈ p.text, d ∈ s := by
    intro d hd
    rw [← join_scan s]
    exact List.mem_flatMap.2 ⟨p, hp, hd⟩
  have hdoubled : ∀ t : List Char, c ∈ doublePercent t → c ∈ t ∨ c = '%' := by
    intro t ht
    obtain ⟨d, hd, hcd⟩ := List.mem_flatMap.1 ht
    split_ifs at hcd
    · exact .inr (by simpa using hcd)
    · exact .inl (List.mem_singleton.1 hcd ▸ hd)
  by_cases hplace : p.isPlaceholder = true
  · cases p with
    | placeholder digits => exact .inr (by simpa [Piece.pyformat] using hc)
    | _ => cases hplace
  · rw [p.pyformat_of_not (by simpa using hplace)] at hc
    exact (hdoubled _ hc).imp (htext c) .inl

/-- **There is one argument for each placeholder.** -/
theorem count_argument_pyformat (s : List Char) :
    ((scan s).flatMap Piece.items).count .argument = (placeholderIndexes s).length := by
  rw [count_argument_items, length_placeholderIndexes]
  rfl

/-- **The remote form of a text is faithful.**  Each percent sign in it starts a doubled sign or the
place of an argument, there are as many places as placeholders, and the text itself comes back when
doubled signs are undone and the placeholders are put into the places. -/
theorem pyformat_faithful (s : List Char) :
    ∃ items, readFormat (pyformat s) = some items ∧
      items.count .argument = (placeholderIndexes s).length ∧
      fill? ((placeholders s).map Piece.text) items = some s := by
  refine ⟨(scan s).flatMap Piece.items, readFormat_pyformat s, count_argument_pyformat s, ?_⟩
  rw [placeholders, fill?_items, join_scan]

end SqlContract.Sql
