/-
The library of record types.

A strict check takes a value of the type as it is, a whole number for a fractional one, and nothing
else.  A field takes the value that a mapping gives it, if its type does, and its default where the
mapping gives none.  A mapping is then a record if every field takes a value, and the problems of any
other mapping name the fields that take none.  So the record types are all that is documented of a
library of records.

Main results:

* `Checked.all_eq_ok_iff` — parts are fine together exactly if each is;
* `FieldType.check_eq_ok_iff`, `FieldSpec.check_eq_ok_iff` — **what is taken, and as what**;
* `RecordType.checkFields_eq_ok_iff`, `RecordType.checkFields_eq_error` — **when a mapping is a record,
  and which fields are at fault where it is none**;
* `RecordType.describes` — the record type of some declared fields;
* `RecordType.lawfulRecords` — **the record types are a library of records**.
-/

import SqlContract.Validation.Record
import SqlContract.Proofs.Generation.Soundness
import SqlContract.Proofs.Validation.Library

set_option autoImplicit false
set_option relaxedAutoImplicit false

namespace SqlContract

open Checked

/-! ### Parts that are fine -/

namespace Checked

variable {α β γ : Type}

theorem both_eq_ok_iff {f : α → β → γ} {a : Checked α} {b : Checked β} {z : γ} :
    both f a b = .ok z ↔ ∃ x y, a = .ok x ∧ b = .ok y ∧ f x y = z := by
  cases a with
  | error ps =>
      cases b with
      | error qs => simp [both]
      | ok y => simp [both]
  | ok x =>
      cases b with
      | error qs => simp [both]
      | ok y => simp [both]

/-- Parts are fine together exactly if each is. -/
theorem all_eq_ok_iff {cs : List (Checked α)} {xs : List α} :
    all cs = .ok xs ↔ List.Forall₂ (fun c x => c = .ok x) cs xs := by
  induction cs generalizing xs with
  | nil =>
      rw [List.forall₂_nil_left_iff]
      exact ⟨fun h => (Except.ok.inj h).symm, fun h => congrArg Except.ok h.symm⟩
  | cons c cs ih =>
      rw [all, both_eq_ok_iff, List.forall₂_cons_left_iff]
      simp only [ih]
      constructor
      · rintro ⟨x, ys, hx, hys, rfl⟩
        exact ⟨x, ys, hx, hys, rfl⟩
      · rintro ⟨x, ys, hx, hys, rfl⟩
        exact ⟨x, ys, hx, hys, rfl⟩

/-- Parts that are all fine are fine together. -/
theorem all_map_eq_ok {f : α → Checked β} {g : α → β} {xs : List α}
    (h : ∀ x ∈ xs, f x = .ok (g x)) : all (xs.map f) = .ok (xs.map g) := by
  rw [all_eq_ok_iff, List.forall₂_map_left_iff, List.forall₂_map_right_iff, List.forall₂_same]
  exact h

end Checked

/-! ### Parts and their problems -/

namespace Checked

variable {α β γ : Type}

/-- The problems that keep a value from being one, if there are any. -/
def problems : Checked α → List Problem
  | .ok _ => []
  | .error ps => ps

theorem problems_both (f : α → β → γ) (a : Checked α) (b : Checked β) :
    (both f a b).problems = a.problems ++ b.problems := by
  cases a with
  | error ps =>
      cases b with
      | error qs => rfl
      | ok y => exact (List.append_nil ps).symm
  | ok x =>
      cases b with
      | error qs => rfl
      | ok y => rfl

/-- The problems of parts are those of each, in order. -/
theorem problems_all (cs : List (Checked α)) : (all cs).problems = cs.flatMap problems := by
  induction cs with
  | nil => rfl
  | cons c cs ih => rw [all, problems_both, ih, List.flatMap_cons]

theorem problems_map (c : Checked α) (f : α → β) : problems (c.map f) = c.problems := by
  cases c with
  | ok x => rfl
  | error ps => rfl

theorem problems_inside (step : Step) (c : Checked α) :
    (inside step c).problems = c.problems.map fun p => { p with loc := step :: p.loc } := by
  cases c with
  | ok x => rfl
  | error ps => rfl

theorem problems_eq_nil_iff {c : Checked α} : c.problems = [] ↔ (∃ x, c = .ok x) ∨ c = .error [] := by
  cases c with
  | ok x => simp [problems]
  | error ps => simp [problems]

end Checked

/-! ### Values of a type -/

section

variable {v : Value}

theorem checkInt_eq_ok_iff {n : Int} : checkInt true v = .ok n ↔ v = .int n := by
  cases v <;> simp [checkInt, Checked.fail]

theorem checkFloat_eq_ok_iff {x : Binary64} :
    checkFloat true v = .ok x ↔ v = .float x ∨ ∃ n, v = .int n ∧ toFloat? n = some x := by
  cases v with
  | int n =>
      simp only [checkFloat]
      cases hn : toFloat? n with
      | none => simp [hn, Checked.fail]
      | some y => simp [hn]
  | none | bool | float | text | bytes | list | dict | record => simp [checkFloat, Checked.fail]

theorem checkText_eq_ok_iff {s : String} : checkText true v = .ok s ↔ v = .text s := by
  cases v <;> simp [checkText, Checked.fail]

theorem checkBytes_eq_ok_iff {bs : List UInt8} : checkBytes true v = .ok bs ↔ v = .bytes bs := by
  cases v <;> simp [checkBytes, Checked.fail]

theorem checkBool_eq_ok_iff {b : Bool} : checkBool true v = .ok b ↔ v = .bool b := by
  cases v <;> simp [checkBool, Checked.fail]

theorem FieldType.checkNumber_eq_ok_iff {w : Value} : checkNumber true v = .ok w ↔
    (∃ n, v = .int n ∧ w = .int n) ∨ ∃ x, v = .float x ∧ w = .float x := by
  cases v <;>
    simp [checkNumber, checkInt, checkFloat, Checked.fail, Checked.both, Checked.inside,
      Except.mapError, eq_comm]

end

namespace FieldType

variable {t : FieldType} {v w : Value}

/-- **What a strict check takes, and as what.** -/
theorem check_eq_ok_iff : t.check true v = .ok w ↔ t.Admits v w := by
  cases t with
  | int =>
      simp only [check, map_eq_ok_iff, checkInt_eq_ok_iff]
      constructor
      · rintro ⟨n, rfl, rfl⟩
        exact .int n
      · intro h
        cases h with
        | int n => exact ⟨n, rfl, rfl⟩
  | float =>
      simp only [check, map_eq_ok_iff, checkFloat_eq_ok_iff]
      constructor
      · rintro ⟨x, rfl | ⟨n, rfl, hx⟩, rfl⟩
        · exact .float x
        · exact .widened hx
      · intro h
        cases h with
        | float x => exact ⟨x, .inl rfl, rfl⟩
        | widened hx => exact ⟨_, .inr ⟨_, rfl, hx⟩, rfl⟩
  | text =>
      simp only [check, map_eq_ok_iff, checkText_eq_ok_iff]
      constructor
      · rintro ⟨s, rfl, rfl⟩
        exact .text s
      · intro h
        cases h with
        | text s => exact ⟨s, rfl, rfl⟩
  | bytes =>
      simp only [check, map_eq_ok_iff, checkBytes_eq_ok_iff]
      constructor
      · rintro ⟨bs, rfl, rfl⟩
        exact .bytes bs
      · intro h
        cases h with
        | bytes bs => exact ⟨bs, rfl, rfl⟩
  | bool =>
      simp only [check, map_eq_ok_iff, checkBool_eq_ok_iff]
      constructor
      · rintro ⟨b, rfl, rfl⟩
        exact .bool b
      · intro h
        cases h with
        | bool b => exact ⟨b, rfl, rfl⟩
  | number =>
      simp only [check, checkNumber_eq_ok_iff]
      constructor
      · rintro (⟨n, rfl, rfl⟩ | ⟨x, rfl, rfl⟩)
        · exact .whole n
        · exact .fraction x
      · intro h
        cases h with
        | whole n => exact .inl ⟨n, rfl, rfl⟩
        | fraction x => exact .inr ⟨x, rfl, rfl⟩
  | any =>
      constructor
      · intro h
        obtain rfl := Except.ok.inj h
        exact .any v
      · intro h
        cases h with
        | any => rfl

/-- A strict check that fails has a problem to tell. -/
theorem check_ne_error_nil : t.check true v ≠ .error [] := by
  cases t with
  | int => cases v <;> simp [check, checkInt, Checked.fail, Except.map]
  | float =>
      cases v with
      | int n =>
          simp only [check, checkFloat]
          cases toFloat? n <;> simp [Checked.fail, Except.map]
      | none | bool | float | text | bytes | list | dict | record =>
          simp [check, checkFloat, Checked.fail, Except.map]
  | text => cases v <;> simp [check, checkText, Checked.fail, Except.map]
  | bytes => cases v <;> simp [check, checkBytes, Checked.fail, Except.map]
  | bool => cases v <;> simp [check, checkBool, Checked.fail, Except.map]
  | number =>
      cases v <;>
        simp [check, checkNumber, checkInt, checkFloat, Checked.fail, Checked.both, Checked.inside,
          Except.mapError]
  | any => simp [check]

end FieldType

/-! ### Fields -/

attribute [local instance] RecordType.library

namespace FieldSpec

open RecordLibrary

variable {f : FieldSpec} {name : String} {entries : List (Value × Value)} {v w : Value}

theorem checkValue_eq_ok_iff : f.checkValue true v = .ok w ↔ f.Admits v w := by
  unfold checkValue
  split
  · rename_i hnullable
    constructor
    · intro h
      obtain rfl := Except.ok.inj h
      exact .absent hnullable
    · intro h
      cases h with
      | absent => rfl
      | value hv =>
          rcases hv.eq_or_widened with rfl | ⟨-, n, x, hnone, -⟩
          · rfl
          · cases hnone
  · rename_i hnot
    rw [FieldType.check_eq_ok_iff]
    constructor
    · exact .value
    · intro h
      cases h with
      | absent hnullable => exact absurd rfl (hnot hnullable)
      | value h => exact h

/-- **What a field takes, and as what.** -/
theorem check_eq_ok_iff : f.check true entries name = .ok w ↔ FieldTakes (name, f) entries w := by
  unfold check Checked.inside
  rw [mapError_eq_ok_iff]
  constructor
  · intro h
    cases hentry : Value.entry? entries name with
    | some v =>
        rw [hentry] at h
        exact .given hentry (checkValue_eq_ok_iff.1 h)
    | none =>
        rw [hentry] at h
        cases hdefault : f.default? with
        | some u =>
            rw [hdefault] at h
            obtain rfl := Except.ok.inj h
            exact .default hentry hdefault
        | none =>
            rw [hdefault] at h
            cases h
  · intro h
    cases h with
    | given hentry hv =>
        rw [hentry]
        exact checkValue_eq_ok_iff.2 hv
    | default hentry hdefault =>
        have hdefault : f.default? = some w := hdefault
        rw [hentry, hdefault]

theorem checkValue_ne_error_nil : f.checkValue true v ≠ .error [] := by
  unfold checkValue
  split
  · exact fun h => nomatch h
  · exact FieldType.check_ne_error_nil

/-- The problems of a field start at its name. -/
theorem head?_loc_of_mem_problems {p : Problem} (h : p ∈ (f.check true entries name).problems) :
    p.loc.head? = some (.name name) := by
  unfold check at h
  rw [problems_inside] at h
  obtain ⟨q, -, rfl⟩ := List.mem_map.1 h
  rfl

/-- A field has a problem exactly if it takes nothing. -/
theorem problems_check_eq_nil_iff :
    (f.check true entries name).problems = [] ↔ ∃ w, FieldTakes (name, f) entries w := by
  simp only [← check_eq_ok_iff]
  rw [problems_eq_nil_iff, or_iff_left]
  -- a failing check has a problem, and so has a field that is left out
  unfold check Checked.inside
  intro h
  obtain ⟨ps, hps, hnil⟩ := mapError_eq_error_iff.1 h
  obtain rfl := List.map_eq_nil_iff.1 hnil
  split at hps
  · exact checkValue_ne_error_nil hps
  · cases hps
  · cases hps

end FieldSpec

/-! ### Record types -/

namespace RecordType

open RecordLibrary

variable {t : RecordType} {entries entries' : List (Value × Value)} {fields : List (String × Value)}
  {declared : List (String × FieldSpec)} {name : String} {v : Value}

/-- **When a mapping is a record**, and of which values. -/
theorem checkFields_eq_ok_iff (hstrict : t.strict = true) : t.checkFields entries = .ok fields ↔
    List.Forall₂ (fun f e => e.1 = f.1 ∧ FieldTakes f entries e.2) t.fields fields := by
  unfold checkFields
  rw [all_eq_ok_iff, List.forall₂_map_left_iff, hstrict]
  have hfield : ∀ (f : String × FieldSpec) (e : String × Value),
      ((f.2.check true entries f.1).map fun v => (f.1, v)) = .ok e ↔
        e.1 = f.1 ∧ FieldTakes f entries e.2 := by
    rintro f ⟨name, w⟩
    rw [map_eq_ok_iff]
    constructor
    · rintro ⟨v, hv, heq⟩
      obtain ⟨rfl, rfl⟩ := Prod.mk.inj heq
      exact ⟨rfl, FieldSpec.check_eq_ok_iff.1 hv⟩
    · rintro ⟨rfl, hw⟩
      exact ⟨w, FieldSpec.check_eq_ok_iff.2 hw, rfl⟩
  simp only [hfield]
  exact Iff.rfl

/-- The problems of a mapping are those of its fields. -/
theorem mem_problems_checkFields_iff {p : Problem} : p ∈ (t.checkFields entries).problems ↔
    ∃ f ∈ t.fields, p ∈ (f.2.check t.strict entries f.1).problems := by
  unfold checkFields
  rw [problems_all, List.flatMap_map]
  simp only [problems_map, List.mem_flatMap]

/-- **Which fields are at fault** where a mapping is no record: the problems start at the names of the
fields that take nothing, and there is one for each of these. -/
theorem checkFields_eq_error (hstrict : t.strict = true) {ps : List Problem}
    (h : t.checkFields entries = .error ps) (name : String) :
    (∃ p ∈ ps, p.loc.head? = some (.name name)) ↔
      ∃ f ∈ t.fields, f.1 = name ∧ ¬ ∃ w, FieldTakes f entries w := by
  have hmem : ∀ p, p ∈ ps ↔ ∃ f ∈ t.fields, p ∈ (f.2.check true entries f.1).problems := by
    intro p
    rw [← hstrict, ← mem_problems_checkFields_iff, h]
    rfl
  constructor
  · rintro ⟨p, hp, hname⟩
    obtain ⟨f, hf, hpf⟩ := (hmem p).1 hp
    refine ⟨f, hf, ?_, fun htakes => ?_⟩
    · rw [FieldSpec.head?_loc_of_mem_problems hpf] at hname
      exact Step.name.inj (Option.some.inj hname)
    · rw [FieldSpec.problems_check_eq_nil_iff.2 htakes] at hpf
      cases hpf
  · rintro ⟨f, hf, rfl, hnot⟩
    obtain ⟨p, hp⟩ := List.exists_mem_of_ne_nil _ (mt FieldSpec.problems_check_eq_nil_iff.1 hnot)
    exact ⟨p, (hmem p).2 ⟨f, hf, hp⟩, FieldSpec.head?_loc_of_mem_problems hp⟩

/-- No other entry of a mapping matters, and neither does their order. -/
theorem checkFields_congr (h : Entries.Keyed entries) (h' : Entries.Keyed entries')
    (hagree : Entries.AgreeOn (t.declared.map (·.1)) entries entries') :
    t.checkFields entries = t.checkFields entries' := by
  unfold checkFields
  congr 1
  refine List.map_congr_left fun f hf => ?_
  unfold FieldSpec.check
  rw [hagree.entry?_eq h h' (List.mem_map_of_mem (List.mem_filter.1 hf).1)]

/-! ### The library -/

/-- The declared fields have none of the names that records keep for themselves. -/
def Free (declared : List (String × FieldSpec)) : Prop :=
  ∀ f ∈ declared, f.1 ∉ keptNames

theorem Free.ne (h : Free declared) (name : String) (hname : name ∈ keptNames)
    {f : String × FieldSpec} (hf : f ∈ declared) : f.1 ≠ name :=
  fun heq => h f hf (heq ▸ hname)

/-- The fields of a record type are the public ones. -/
theorem Free.fields_eq (h : Free declared) (typeName : String) (strict : Bool) :
    RecordType.fields ⟨typeName, declared, strict⟩ = publicFields declared := by
  unfold RecordType.fields publicFields
  refine List.filter_congr fun f hf => ?_
  simp [h.ne configurationName (by decide) hf]

theorem Free.create_eq (h : Free declared) (typeName : String) :
    create typeName declared = .ok ⟨typeName, declared, true⟩ := by
  have hsettings : declared.any (·.1 == settingsName) = false := by
    simpa using fun n f hf => h.ne settingsName (by decide) hf
  have hmethods : (declared.find? fun f => methods.contains f.1) = none := by
    refine List.find?_eq_none.2 fun f hf hmem => h f hf ?_
    have hkept : ∀ n ∈ methods, n ∈ keptNames := by decide
    exact hkept f.1 (List.contains_iff_mem.1 hmem)
  unfold create
  rw [hsettings, hmethods]
  rfl

/-- No hook is called for fields of other names. -/
theorem Free.validate_dict (h : Free declared) (typeName : String) :
    validate ⟨typeName, declared, true⟩ (.dict entries) =
      (checkFields ⟨typeName, declared, true⟩ entries).mapError (failure typeName) := by
  have hhook : (RecordType.fields ⟨typeName, declared, true⟩).any (·.1 == hookName) = false := by
    rw [h.fields_eq]
    simpa using fun n f hf => h.ne hookName (by decide) (mem_publicFields_iff.1 hf).1
  unfold validate
  dsimp only
  rw [hhook]
  cases checkFields ⟨typeName, declared, true⟩ entries <;> rfl

theorem lookup_of_mem {values : List (String × Value)} (hnodup : (values.map (·.1)).Nodup)
    (h : (name, v) ∈ values) : values.lookup name = some v := by
  induction values with
  | nil => cases h
  | cons e values ih =>
      obtain ⟨hfresh, hrest⟩ := List.nodup_cons.1 hnodup
      rcases List.mem_cons.1 h with rfl | h
      · exact List.lookup_cons_self
      · have hne : name ≠ e.1 := fun heq => hfresh (List.mem_map.2 ⟨_, h, heq⟩)
        rw [List.lookup_cons, beq_eq_false_iff_ne.2 hne]
        exact ih hrest h

theorem ne_of_not_mem_keptNames (h : name ∉ keptNames) :
    name ≠ configurationName ∧ name ≠ surplusName ∧ name ≠ givenName := by
  have hne : ∀ n ∈ keptNames, name ≠ n := fun n hn heq => h (heq ▸ hn)
  exact ⟨hne _ (by decide), hne _ (by decide), hne _ (by decide)⟩

/-- What is read at the public name of a field. -/
theorem read_of_lookup (h : name ∉ keptNames) (hpublic : isPrivateName name = false)
    (hv : fields.lookup name = some v) : t.read fields name = .ok v := by
  obtain ⟨hconfiguration, hsurplus, hgiven⟩ := ne_of_not_mem_keptNames h
  simp only [read, if_neg hconfiguration, if_neg hsurplus, if_neg hgiven, hpublic, hv, Bool.false_eq_true,
    if_false]

/-- What is read at a private name is not up to the fields. -/
theorem read_of_private (h : name ∉ keptNames) (hprivate : isPrivateName name = true)
    (fields fields' : List (String × Value)) : t.read fields name = t.read fields' name := by
  obtain ⟨hconfiguration, hsurplus, hgiven⟩ := ne_of_not_mem_keptNames h
  simp only [read, if_neg hconfiguration, if_neg hsurplus, if_neg hgiven, hprivate, if_true]

/-- **The record type of some declared fields.** -/
theorem describes (h : Free declared) (hnodup : (declared.map (·.1)).Nodup) (typeName : String) :
    Describes (⟨typeName, declared, true⟩ : RecordType) typeName declared where
  name_eq := rfl
  validate_eq_ok_iff {entries values} _ := by
    rw [← h.fields_eq typeName true]
    change validate _ _ = _ ↔ _
    rw [h.validate_dict, mapError_eq_ok_iff, checkFields_eq_ok_iff rfl]
  exists_problems {entries} _ hnot := by
    change ¬ ∃ values, validate _ _ = _ at hnot
    change ∃ problems words, validate _ _ = _ ∧ _
    rw [← h.fields_eq typeName true]
    rw [h.validate_dict] at hnot ⊢
    cases hcheck : checkFields ⟨typeName, declared, true⟩ entries with
    | ok values => exact absurd ⟨values, by rw [hcheck]; rfl⟩ hnot
    | error problems => exact ⟨problems, _, rfl, checkFields_eq_error rfl hcheck⟩
  problems_congr {entries entries' problems words} hkeyed hkeyed' hagree herror := by
    change validate _ _ = _ at herror
    change ∃ words', validate _ _ = _
    rw [h.validate_dict, checkFields_congr hkeyed hkeyed' hagree] at herror
    exact ⟨words, by rw [h.validate_dict, herror]⟩
  read_eq {values n v} hnames hmem := by
    obtain ⟨f, hf, rfl⟩ := List.mem_map.1 (hnames ▸ List.mem_map_of_mem hmem : n ∈ _)
    obtain ⟨hdeclared, hpublic⟩ := mem_publicFields_iff.1 hf
    have hdistinct : (values.map (·.1)).Nodup := by
      rw [hnames]
      exact hnodup.sublist (List.filter_sublist.map _)
    exact read_of_lookup (h f hdeclared) hpublic (lookup_of_mem hdistinct hmem)
  read_private {values values' n} hprivate _ _ := by
    have hkept : ∀ name ∈ keptNames, isPrivateName name = false := by decide +kernel
    have hnot : n ∉ keptNames := fun hn => by simp [hkept n hn] at hprivate
    exact read_of_private hnot hprivate values values'

/-- **The record types are a library of records.** -/
theorem lawfulRecords : LawfulRecords where
  admits_ofType t nullable v w := by
    constructor
    · intro h
      cases h with
      | absent hnullable => exact .inl ⟨hnullable, rfl, rfl⟩
      | value h => exact .inr h
    · rintro (⟨hnullable, rfl, rfl⟩ | h)
      · exact .absent hnullable
      · exact .value h
  default?_ofType _ _ := rfl
  exists_create typeName fields hnodup hfree :=
    have h : Free fields := fun f hf hkept =>
      Bool.false_ne_true ((hfree f hf).symm.trans (List.contains_iff_mem.2 hkept))
    ⟨_, h.create_eq typeName, describes h hnodup typeName⟩
  mapping_eq entries hkeyed htexts := by
    have hall : Checked.all (entries.map fun e => (checkKey e.1).map fun k => (k, e.2)) =
        .ok (entries.map id) := by
      refine all_map_eq_ok fun e he => ?_
      obtain ⟨key, hkey⟩ := htexts e he
      obtain ⟨k, v⟩ := e
      obtain rfl : k = .text key := hkey
      rfl
    change (checkMapping (.dict entries)).mapError _ = _
    unfold checkMapping
    simp only [hall]
    simp [Except.map, Except.mapError, Entries.ofList_eq_self hkeyed]

end RecordType

end SqlContract
