/-
What the remote engine is bound to.

The remote engine takes one value for each placeholder, in the order of the text.  A prepared
statement arranges its values so, and a generated accessor writes its parameters so.  Both follow
the numbers of the placeholders, which are those that the local engine gives.

Main definitions:

* `Numbered` — the numbers that the local engine gives to placeholders;
* `Picks` — the items of a list that some numbers name;
* `Accessor.margin` — how deep the body of an accessor stands.

Main results:

* `numbered_placeholderNumbers` — placeholders are numbered as the local engine numbers them;
* `le_placeholderCount` — no number exceeds the count of the parameters;
* `exists_arrange?` — values for all parameters can be arranged;
* `bind_eq_emitted` — **a prepared statement and a generated accessor bind alike**: a value for each
  place of the query, each taken by the number of its placeholder.
-/

import SqlContract.Emit.Accessor
import SqlContract.Execution.Prepared
import SqlContract.Proofs.Emit.Expressions
import SqlContract.Proofs.Remote.Format
import SqlContract.Validation.Record

set_option autoImplicit false
set_option relaxedAutoImplicit false

namespace SqlContract

open Text

namespace Sql

/-! ### The numbers of placeholders -/

/-- The digits of a placeholder. -/
def Piece.digits : Piece → List Char
  | .placeholder digits => digits
  | _ => []

/-- The numbers that the local engine gives to placeholders with the given digits, behind
placeholders up to `largest`: the number that the digits write, and without digits one more than the
largest number used before. -/
def Numbered (largest : Nat) (digits : List (List Char)) (ns : List Nat) : Prop :=
  ns.length = digits.length ∧
    ∀ k ds n, digits[k]? = some ds → ns[k]? = some n →
      n = if ds = [] then (ns.take k).foldl max largest + 1 else number ds

theorem placeholderNumber_eq (largest : Nat) (digits : List Char) :
    placeholderNumber largest digits = if digits = [] then largest + 1 else number digits := by
  cases digits <;> rfl

theorem numbered_numbersFrom (largest : Nat) (ps : List Piece) :
    Numbered largest ((ps.filter Piece.isPlaceholder).map Piece.digits)
      (numbersFrom largest ps) := by
  refine ⟨by rw [List.length_map, length_numbersFrom], ?_⟩
  induction ps generalizing largest with
  | nil => simp
  | cons p ps ih =>
      cases p with
      | placeholder digits =>
          intro k ds n hds hn
          cases k with
          | zero =>
              obtain rfl : digits = ds := Option.some.inj hds
              obtain rfl : placeholderNumber largest digits = n := Option.some.inj hn
              exact placeholderNumber_eq largest digits
          | succ k => exact ih (max largest (placeholderNumber largest digits)) k ds n hds hn
      | plain | quoted | lineComment | blockComment | semicolon | percent => exact ih largest

/-- **Placeholders are numbered as the local engine numbers them.** -/
theorem numbered_placeholderNumbers (s : List Char) :
    Numbered 0 ((placeholders s).map Piece.digits) (placeholderNumbers s) :=
  numbered_numbersFrom 0 (scan s)

/-- Where no placeholder is given the number zero, none has it. -/
theorem pos_of_mem_numbersFrom {ps : List Piece}
    (h : ∀ ds, Piece.placeholder ds ∈ ps → ds ≠ [] → number ds ≠ 0) :
    ∀ largest, ∀ n ∈ numbersFrom largest ps, 0 < n := by
  induction ps with
  | nil => simp [numbersFrom]
  | cons p ps ih =>
      intro largest
      have ih' := ih fun ds hds => h ds (List.mem_cons_of_mem p hds)
      cases p with
      | placeholder digits =>
          intro n hn
          rcases List.mem_cons.1 hn with rfl | hn
          · rw [placeholderNumber_eq]
            by_cases hd : digits = []
            · simp [hd]
            · simpa [hd] using Nat.pos_of_ne_zero (h digits List.mem_cons_self hd)
          · exact ih' _ n hn
      | plain | quoted | lineComment | blockComment | semicolon | percent => exact ih' largest

theorem le_foldl_max_start (l : List Nat) (a : Nat) : a ≤ l.foldl max a := by
  induction l generalizing a with
  | nil => exact Nat.le_refl a
  | cons b l ih => exact (Nat.le_max_left a b).trans (ih (max a b))

theorem le_foldl_max {n : Nat} {l : List Nat} (h : n ∈ l) (a : Nat) : n ≤ l.foldl max a := by
  induction l generalizing a with
  | nil => simp at h
  | cons b l ih =>
      rcases List.mem_cons.1 h with rfl | h
      · exact (Nat.le_max_right a n).trans (le_foldl_max_start l (max a n))
      · exact ih h (max a b)

/-- No placeholder has a number beyond the count of the parameters. -/
theorem le_placeholderCount {s : List Char} {n : Nat} (h : n ∈ placeholderNumbers s) :
    n ≤ placeholderCount s :=
  le_foldl_max h 0

/-! ### Arranging values -/

/-- `xs` are the items of a list that some numbers name, counted from one. -/
def Picks {α : Type} (items : List α) (ns : List Nat) (xs : List α) : Prop :=
  List.Forall₂ (fun n x => 0 < n ∧ items[n - 1]? = some x) ns xs

theorem item?_pred {α : Type} (items : List α) {n : Nat} (h : 0 < n) :
    item? items ((n : Int) - 1) = items[n - 1]? := by
  have hneg : ¬ (n : Int) - 1 < 0 := by omega
  have hnat : ((n : Int) - 1).toNat = n - 1 := by omega
  simp only [item?, hneg, if_false, hnat]

theorem Picks.arrange? {α : Type} {items xs : List α} {ns : List Nat} (h : Picks items ns xs) :
    arrange? items (ns.map fun (n : Nat) => (n : Int) - 1) = some xs := by
  unfold Sql.arrange?
  induction h with
  | nil => rfl
  | cons hx _ ih => rw [List.map_cons, List.mapM_cons, item?_pred items hx.1, hx.2, ih]; rfl

/-- What is picked for one order of numbers is picked once. -/
theorem Picks.unique {α : Type} {items xs ys : List α} {ns : List Nat} (h : Picks items ns xs)
    (h' : Picks items ns ys) : xs = ys :=
  Option.some.inj (h.arrange?.symm.trans h'.arrange?)

theorem Picks.map {α β : Type} (f : α → β) {items xs : List α} {ns : List Nat}
    (h : Picks items ns xs) : Picks (items.map f) ns (xs.map f) := by
  unfold Picks
  rw [List.forall₂_map_right_iff]
  refine List.Forall₂.imp ?_ h
  intro n x hx
  exact ⟨hx.1, by rw [List.getElem?_map, hx.2]; rfl⟩

theorem exists_picks {α : Type} (items : List α) {ns : List Nat}
    (h : ∀ n ∈ ns, 0 < n ∧ n ≤ items.length) : ∃ xs, Picks items ns xs := by
  induction ns with
  | nil => exact ⟨[], .nil⟩
  | cons n ns ih =>
      obtain ⟨xs, hxs⟩ := ih fun m hm => h m (List.mem_cons_of_mem n hm)
      obtain ⟨hpos, hle⟩ := h n List.mem_cons_self
      have hlt : n - 1 < items.length := by omega
      exact ⟨items[n - 1] :: xs, .cons ⟨hpos, List.getElem?_eq_getElem hlt⟩ hxs⟩

/-- **Values for all parameters of a text can be arranged**, each by the number of its
placeholder. -/
theorem exists_arrange? {α : Type} {s : List Char} {items : List α}
    (h : ∀ ds, Piece.placeholder ds ∈ scan s → ds ≠ [] → number ds ≠ 0)
    (hn : items.length = placeholderCount s) :
    ∃ xs, Picks items (placeholderNumbers s) xs ∧
      arrange? items (placeholderIndexes s) = some xs := by
  have hrange : ∀ n ∈ placeholderNumbers s, 0 < n ∧ n ≤ items.length := fun n hm =>
    ⟨pos_of_mem_numbersFrom h 0 n hm, hn ▸ le_placeholderCount hm⟩
  obtain ⟨xs, hxs⟩ := exists_picks items hrange
  exact ⟨xs, hxs, hxs.arrange?⟩

/-- The positions of placeholders lie among as many items as a text has parameters. -/
theorem mem_placeholderIndexes {s : List Char}
    (h : ∀ ds, Piece.placeholder ds ∈ scan s → ds ≠ [] → number ds ≠ 0) {i : Int}
    (hi : i ∈ placeholderIndexes s) : 0 ≤ i ∧ i < placeholderCount s := by
  obtain ⟨n, hn, rfl⟩ := List.mem_map.1 hi
  have hpos := pos_of_mem_numbersFrom h 0 n hn
  have hle := le_placeholderCount hn
  omega

end Sql

/-! ### Generated accessors -/

/-- How many levels the body of an accessor is moved to the right. -/
def Accessor.margin (a : Accessor) : Nat :=
  match a.convention with
  | .oneShot => 1
  | .prepared => 2

/-- The lines of an accessor hold its body. -/
theorem Accessor.body_infix_lines (a : Accessor) : indent a.margin a.body <:+: a.lines := by
  obtain ⟨d, v, c, args⟩ := a
  cases v with
  | oneShot => exact (List.suffix_cons _ _).isInfix
  | prepared => exact List.infix_append _ _ _

/-- The body of an accessor of the remote engine opens with the tuple that it binds. -/
theorem Accessor.head?_body (v : Convention) (c : Contract) (args : List Parameter) :
    (Accessor.body ⟨.remoteAsync, v, c, args⟩).head? = some ("args = " ++ argumentTuple args) := by
  unfold Accessor.body
  dsimp only
  split_ifs <;> rfl

/-! ### Binding -/

open Sql in
/-- **A prepared statement and a generated accessor bind alike.**  The remote engine is given a
value for each place of the query: the values of a call, taken by the numbers that the local engine
gives to the placeholders.  The tuple that the body of an accessor opens with takes the values of the
parameters in that order, as its text is read, so both bind the same values wherever a value is given
for each parameter. -/
theorem bind_eq_emitted [RecordLibrary] (p : Prepared) (args : List Value) (hd : p.dialect = .remoteAsync)
    (h : ∀ ds, Piece.placeholder ds ∈ scan p.statement.sql.toList → ds ≠ [] → number ds ≠ 0)
    (hn : args.length = placeholderCount p.statement.sql.toList) :
    let numbers := placeholderNumbers p.statement.sql.toList
    Numbered 0 ((placeholders p.statement.sql.toList).map Piece.digits) numbers ∧
      (∀ i ∈ placeholderIndexes p.statement.sql.toList, 0 ≤ i ∧ i < args.length) ∧
      ∃ bound items,
        p.bind? args = some bound ∧
        readFormat p.query.toList = some items ∧
        bound.length = items.count .argument ∧
        Picks args numbers bound ∧
        ∀ (c : Contract) (v : Convention), c.sql = p.statement.sql →
          c.parameters.length = placeholderCount p.statement.sql.toList →
          ∃ a params tuple,
            Accessor.ofContract? .remoteAsync v c = some a ∧
            Picks c.parameters numbers params ∧
            a.body.head? = some ("args = " ++ tuple) ∧
            Takes tuple.toList (params.map fun p => p.name.toList) ∧
            indent a.margin a.body <:+: a.lines ∧
            ∀ value : Parameter → Value, args = c.parameters.map value → bound = params.map value := by
  intro numbers
  obtain ⟨bound, hpicks, harr⟩ := exists_arrange? h hn
  refine ⟨numbered_placeholderNumbers _, fun i hi => ?_, bound,
    (scan p.statement.sql.toList).flatMap Piece.items, ?_, ?_, ?_, hpicks, ?_⟩
  · rw [hn]
    exact mem_placeholderIndexes h hi
  · simp only [Prepared.bind?, hd, hn, if_true, harr]
  · simp only [Prepared.query, hd, String.toList_ofList, readFormat_pyformat]
  · rw [count_argument_pyformat, placeholderIndexes, List.length_map]
    exact hpicks.length_eq.symm
  · intro c v hsql hlen
    obtain ⟨params, hparams, harr'⟩ := exists_arrange? h hlen
    refine ⟨⟨.remoteAsync, v, c, params⟩, params, argumentTuple params, ?_, hparams,
      Accessor.head?_body v c params, takes_argumentTuple params, Accessor.body_infix_lines _, ?_⟩
    · simp only [Accessor.ofContract?, Contract.pick?, hsql, harr', Option.map_some]
    · intro value hargs
      have hmap := hparams.map value
      rw [← hargs] at hmap
      exact hpicks.unique hmap

attribute [local instance] RecordType.library

open Sql in
/-- A number that leaves a gap, a placeholder without a number behind it, and a number that goes
back.  The tuple of an accessor names the third, the fourth and the first parameter. -/
theorem bind_gapped :
    let p : Prepared := ⟨.remoteAsync,
      ⟨"a = ?3 AND b = ? AND c = ?1", [], (⟨"Input", [], true⟩ : RecordType), .run, none, none⟩⟩
    let args : List Value := [.int 10, .int 20, .int 30, .int 40]
    let c : Contract := ⟨"find", .exec, ["a", "b", "c", "d"].map fun name => ⟨name, .number⟩, [],
      p.statement.sql, none, none⟩
    args.length = placeholderCount p.statement.sql.toList ∧
      (∃ bound, p.bind? args = some bound ∧ Picks args [3, 4, 1] bound) ∧
      ∃ a tuple, Accessor.ofContract? .remoteAsync .prepared c = some a ∧
        a.body.head? = some ("args = " ++ tuple) ∧
        Takes tuple.toList [['c'], ['d'], ['a']] := by
  intro p args c
  have hmarks : placeholders p.statement.sql.toList =
      [.placeholder ['3'], .placeholder [], .placeholder ['1']] := by decide +kernel
  have hnumbers : placeholderNumbers p.statement.sql.toList = [3, 4, 1] := by decide +kernel
  have hcount : args.length = placeholderCount p.statement.sql.toList := by
    rw [placeholderCount, hnumbers]
    rfl
  have hzero : ∀ ds, Piece.placeholder ds ∈ scan p.statement.sql.toList → ds ≠ [] →
      number ds ≠ 0 := by
    intro ds hds
    have hm : Piece.placeholder ds ∈ placeholders p.statement.sql.toList :=
      List.mem_filter.2 ⟨hds, rfl⟩
    rw [hmarks] at hm
    simp only [List.mem_cons, Piece.placeholder.injEq, List.not_mem_nil, or_false] at hm
    rcases hm with rfl | rfl | rfl
    · decide
    · exact fun hne => absurd rfl hne
    · decide
  obtain ⟨-, -, bound, -, hbind, -, -, hpicks, haccessor⟩ := bind_eq_emitted p args rfl hzero hcount
  obtain ⟨a, params, tuple, ha, hparams, hhead, htakes, -⟩ := haccessor c .prepared rfl hcount
  rw [hnumbers] at hpicks hparams
  obtain rfl : params = [⟨"c", .number⟩, ⟨"d", .number⟩, ⟨"a", .number⟩] :=
    hparams.unique (.cons (by decide) (.cons (by decide) (.cons (by decide) .nil)))
  exact ⟨hcount, ⟨bound, hbind, hpicks⟩, a, tuple, ha, hhead, htakes⟩

end SqlContract
