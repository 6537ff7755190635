/-
Values of the wrong number.

A prepared statement of the remote engine arranges its values where there are as many as its text has
parameters.  Values of any other number are handed on as they are, for the engine to find the fault.
But the engine counts the places of the query, and these are as many as the placeholders: where a
number repeats or is left out, values of a wrong number can fill the places all the same.

Main definitions:

* `Sql.argumentCount?` — how many values the remote engine takes for a query.

Main results:

* `Prepared.bind?_eq_none_iff` — the one way in which values cannot be bound;
* `Prepared.length_bind?` — **which values fill the places of a query**;
* `Prepared.wrong_number_seen_iff` — **when the engine sees every wrong number of values**.
-/

import SqlContract.Proofs.Execution.Bridge
import SqlContract.Proofs.Execution.Protocol
import SqlContract.Validation.Record

set_option autoImplicit false
set_option relaxedAutoImplicit false

namespace SqlContract

open Sql

namespace Sql

/-- How many values the remote engine takes for a query; none where it cannot read the query. -/
def argumentCount? (query : List Char) : Option Nat :=
  (readFormat query).map fun items => items.count .argument

/-- The remote engine takes a value for each placeholder. -/
theorem argumentCount?_pyformat (s : List Char) :
    argumentCount? (pyformat s) = some (placeholderNumbers s).length := by
  rw [argumentCount?, readFormat_pyformat, Option.map_some, count_argument_pyformat,
    placeholderIndexes, List.length_map]

theorem length_of_arrange? {α : Type} {items xs : List α} {order : List Int}
    (h : arrange? items order = some xs) : xs.length = order.length := by
  unfold arrange? at h
  induction order generalizing xs with
  | nil =>
      obtain rfl := Option.some.inj h
      rfl
  | cons i order ih =>
      rw [List.mapM_cons] at h
      obtain ⟨x, -, h⟩ := Option.bind_eq_some_iff.1 h
      obtain ⟨ys, hys, h⟩ := Option.bind_eq_some_iff.1 h
      obtain rfl := Option.some.inj h
      rw [List.length_cons, List.length_cons, ih hys]

/-- Where a text has no parameters, all its placeholders are numbered zero. -/
theorem eq_zero_of_placeholderCount_eq_zero {s : List Char} (h : placeholderCount s = 0) {n : Nat}
    (hn : n ∈ placeholderNumbers s) : n = 0 :=
  Nat.le_zero.1 (h ▸ le_placeholderCount hn)

end Sql

section

variable [RecordLibrary]

/-- A call sends as many values as the statement has inputs. -/
theorem Statement.length_of_marshal {s : Statement} {input : Input} {values : List Value}
    (h : s.marshal input = .ok values) : values.length = s.inputs.length := by
  have hread : ∀ fields, s.readInputs fields = .ok values → values.length = s.inputs.length :=
    fun fields hfields => (readInputs_eq_ok_iff.1 hfields).length_eq.symm
  have hfail : ∀ cause, (s.fail cause : Except CallError (List Value)) ≠ .ok values :=
    fun _ hcause => nomatch hcause
  unfold marshal at h
  split_ifs at h with hinputs
  · split at h
    · exact hread _ h
    · exact absurd h (hfail _)
    · unfold readValue at h
      dsimp only at h
      split at h
      · exact hread _ h
      · exact absurd h (hfail _)
      · nomatch h
  · have hnil : s.inputs = [] := by simpa [hasInputs] using hinputs
    split at h
    · exact absurd h (hfail _)
    · split_ifs at h
      · exact absurd h (hfail _)
      · rw [← Except.ok.inj h, hnil]
        rfl

namespace Prepared

variable {s : Statement} {args bound : List Value}

/-- Values of a wrong number are handed on as they are. -/
theorem bind?_of_length_ne (h : args.length ≠ placeholderCount s.sql.toList) :
    bind? ⟨.remoteAsync, s⟩ args = some args :=
  if_neg h

theorem bind?_of_length_eq (h : args.length = placeholderCount s.sql.toList) :
    bind? ⟨.remoteAsync, s⟩ args = arrange? args (placeholderIndexes s.sql.toList) :=
  if_pos h

/-- **The one way in which values cannot be bound**: there are none, and none are due, but a placeholder
is numbered zero. -/
theorem bind?_eq_none_iff : bind? ⟨.remoteAsync, s⟩ args = none ↔
    args = [] ∧ placeholderCount s.sql.toList = 0 ∧ placeholderNumbers s.sql.toList ≠ [] := by
  by_cases hlength : args.length = placeholderCount s.sql.toList
  · rw [bind?_of_length_eq hlength, arrange?_eq_none_iff, placeholderIndexes]
    have hitem : ∀ n ∈ placeholderNumbers s.sql.toList,
        item? args ((n : Int) - 1) = none ↔ args = [] ∧ n = 0 := fun n hn =>
      item?_eq_none_iff (hlength ▸ le_placeholderCount hn)
    constructor
    · rintro ⟨i, hi, hnone⟩
      obtain ⟨n, hn, rfl⟩ := List.mem_map.1 hi
      obtain ⟨rfl, -⟩ := (hitem n hn).1 hnone
      exact ⟨rfl, hlength.symm, List.ne_nil_of_mem hn⟩
    · rintro ⟨hargs, hcount, hne⟩
      obtain ⟨n, hn⟩ := List.exists_mem_of_ne_nil _ hne
      exact ⟨_, List.mem_map_of_mem hn,
        (hitem n hn).2 ⟨hargs, eq_zero_of_placeholderCount_eq_zero hcount hn⟩⟩
  · rw [bind?_of_length_ne hlength]
    refine iff_of_false (by simp) ?_
    rintro ⟨rfl, hcount, -⟩
    exact hlength hcount.symm

/-- **Which values fill the places of a query**: those of the number that is due, and those of as many
as there are places. -/
theorem length_bind? (h : bind? ⟨.remoteAsync, s⟩ args = some bound) :
    bound.length = (placeholderNumbers s.sql.toList).length ↔
      args.length = placeholderCount s.sql.toList ∨
        args.length = (placeholderNumbers s.sql.toList).length := by
  by_cases hlength : args.length = placeholderCount s.sql.toList
  · rw [bind?_of_length_eq hlength] at h
    refine iff_of_true ?_ (.inl hlength)
    rw [length_of_arrange? h, placeholderIndexes, List.length_map]
  · rw [bind?_of_length_ne hlength] at h
    obtain rfl := Option.some.inj h
    exact (or_iff_right hlength).symm

/-- **When the engine sees every wrong number of values.**  For every statement of the remote engine the
query can be read, and it has some number of places.  Values cannot be bound in one way only, where
there are none and none are due but there is a place.  The values that are bound fill the places
exactly if their number is due or is that of the places; and of a wrong number they are bound as they
are.  So binding succeeds for all values, and fills the places exactly with those of the number that is
due, if and only if there are as many places as parameters.  A call with inputs of a wrong number fills
the places exactly if there are as many inputs as places. -/
theorem wrong_number_seen_iff (s : Statement) :
    let p : Prepared := ⟨.remoteAsync, s⟩
    let due := placeholderCount s.sql.toList
    ∃ places, argumentCount? p.query.toList = some places ∧
      (∀ args, p.bind? args = none ↔ args = [] ∧ due = 0 ∧ places ≠ 0) ∧
      (∀ args bound, p.bind? args = some bound →
        (bound.length = places ↔ args.length = due ∨ args.length = places)) ∧
      (∀ args, args.length ≠ due → p.bind? args = some args) ∧
      ((∀ args, ∃ bound, p.bind? args = some bound ∧ (bound.length = places ↔ args.length = due)) ↔
        places = due) ∧
      ∀ input bound, p.arguments input = .ok bound → s.inputs.length ≠ due →
        (bound.length = places ↔ s.inputs.length = places) := by
  intro p due
  have hnone : ∀ args, p.bind? args = none ↔
      args = [] ∧ due = 0 ∧ (placeholderNumbers s.sql.toList).length ≠ 0 := by
    intro args
    rw [bind?_eq_none_iff, Ne, Ne, List.length_eq_zero_iff]
  refine ⟨(placeholderNumbers s.sql.toList).length, ?_, hnone, fun args bound => length_bind?,
    fun args => bind?_of_length_ne, ⟨fun hall => ?_, fun hplaces args => ?_⟩, ?_⟩
  · rw [query, String.toList_ofList, argumentCount?_pyformat]
  · -- as many values as there are places fill them
    obtain ⟨bound, hbound, hiff⟩ :=
      hall (List.replicate (placeholderNumbers s.sql.toList).length .none)
    rw [length_bind? hbound, List.length_replicate] at hiff
    exact hiff.1 (.inr rfl)
  · cases hbound : p.bind? args with
    | none =>
        obtain ⟨-, hdue, hne⟩ := (hnone args).1 hbound
        exact absurd (hplaces.trans hdue) hne
    | some bound =>
        refine ⟨bound, rfl, (length_bind? hbound).trans ?_⟩
        rw [hplaces, or_self]
  · intro input bound harguments hwrong
    obtain ⟨values, hmarshal, hbind⟩ := arguments_eq_ok_iff.1 harguments
    have hlength := Statement.length_of_marshal hmarshal
    rw [length_bind? hbind, hlength, or_iff_right hwrong]

end Prepared

end

namespace Prepared

attribute [local instance] RecordType.library

/-- Two parameters in three places: one value or four are passed on as they are, and the engine sees
it.  Two values fill the places, and the one input of a statement that declares no other does not. -/
theorem wrong_number_seen_swapped :
    let s : Statement := ⟨"SELECT ?2, ?1, ?2", ["a"],
      (⟨"Input", [("a", ⟨.any, false, none⟩)], true⟩ : RecordType), .get, none, none⟩
    let p : Prepared := ⟨.remoteAsync, s⟩
    let four : List Value := [.int 1, .int 2, .int 3, .int 4]
    argumentCount? p.query.toList = some 3 ∧
      p.bind? [.int 1] = some [.int 1] ∧ p.bind? four = some four ∧
      (∃ bound, p.bind? [.int 1, .int 2] = some bound ∧ bound.length = 3) ∧
      ∃ bound, p.arguments (.value (.dict [(.text "a", .int 7)])) = .ok bound ∧
        bound.length ≠ 3 := by
  intro s p four
  have hdue : placeholderCount s.sql.toList = 2 := by decide +kernel
  obtain ⟨places, hplaces, -, hfill, hwrong, -, hcall⟩ := wrong_number_seen_iff s
  have hthree : argumentCount? p.query.toList = some 3 := by decide +kernel
  obtain rfl : places = 3 := Option.some.inj (hplaces.symm.trans hthree)
  rw [hdue] at hfill hwrong hcall
  have hindexes : placeholderIndexes s.sql.toList = [1, 0, 1] := by decide +kernel
  have htwo : p.bind? [.int 1, .int 2] = some [.int 2, .int 1, .int 2] := by
    have hlength : [Value.int 1, Value.int 2].length = placeholderCount s.sql.toList := hdue.symm
    rw [bind?_of_length_eq hlength, hindexes]
    rfl
  have hseven : p.arguments (.value (.dict [(.text "a", .int 7)])) = .ok [.int 7] :=
    arguments_eq_ok_iff.2 ⟨[.int 7], by rfl, hwrong _ (by decide)⟩
  refine ⟨hthree, hwrong _ (by decide), hwrong _ (by decide),
    ⟨_, htwo, (hfill _ _ htwo).2 (.inl rfl)⟩, _, hseven, ?_⟩
  rw [Ne, hcall _ _ hseven (by decide)]
  decide

/-- Two values for a parameter that two placeholders repeat: the text binds one parameter, and yet the
values fill the places of the query.  And where the only placeholder is numbered zero, the values that
are due cannot be bound. -/
theorem not_seen_repeated :
    let p : Prepared := ⟨.remoteAsync,
      ⟨"SELECT ?1, ?1", ["a", "b"], (⟨"Input", [], true⟩ : RecordType), .get, none, none⟩⟩
    let zero : Prepared := ⟨.remoteAsync,
      ⟨"SELECT ?0", [], (⟨"Input", [], true⟩ : RecordType), .get, none, none⟩⟩
    let args : List Value := [.int 1, .int 2]
    (args.length ≠ placeholderCount p.statement.sql.toList ∧
      ∃ bound, p.bind? args = some bound ∧
        argumentCount? p.query.toList = some bound.length) ∧
      placeholderCount zero.statement.sql.toList = 0 ∧ zero.bind? [] = none := by
  intro p zero args
  have hcount : placeholderCount p.statement.sql.toList = 1 := by decide +kernel
  have hplaces : argumentCount? p.query.toList = some 2 := by decide +kernel
  have hwrong : args.length ≠ placeholderCount p.statement.sql.toList := by
    rw [hcount]
    decide
  exact ⟨⟨hwrong, args, bind?_of_length_ne hwrong, hplaces⟩, by decide +kernel,
    bind?_eq_none_iff.2 ⟨rfl, by decide +kernel, by decide +kernel⟩⟩

end Prepared

end SqlContract
