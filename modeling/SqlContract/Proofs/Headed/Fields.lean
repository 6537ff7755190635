/-
Fields that header lines declare.

Parameters and row fields are declared by lines of one form, and a line adds one field at the end of
the group that it names.  A field that is declared has a name of its own in its group, so a list of
fields is declared as it is.

Main definitions:

* `Fields.lineOf` — the words of the line that declares a field.

Main results:

* `Fields.declare_lineOf`, `Fields.declare_eq_ok_iff` — **what one line declares**, and which lines
  declare something;
* `Fields.foldlM_declare` — **lines of one kind declare their fields in order**.
-/

import Mathlib
import SqlContract.Header

set_option autoImplicit false
set_option relaxedAutoImplicit false

namespace SqlContract

open Text

namespace Fields

/-- The words of the line that declares a field. -/
def lineOf (kind : FieldKind) (name : String) (type : ScalarType) : List String :=
  [kind.word, name, type.word]

theorem kindOf?_word (kind : FieldKind) : kindOf? kind.word = some kind := by
  cases kind <;> rfl

theorem ofWord?_word_of_mem_declarable {type : ScalarType} (h : type ∈ ScalarType.declarable) :
    ScalarType.ofWord? type.word = some type := by
  simp only [ScalarType.declarable, List.mem_cons, List.not_mem_nil, or_false] at h
  rcases h with rfl | rfl
  · rfl
  · rfl

theorem names_push (f : Fields) (kind : FieldKind) (name : String) (type : ScalarType) :
    (f.push kind name type).names kind = f.names kind ++ [name] := by
  cases kind with
  | param => exact List.map_append
  | returns => exact List.map_append

/-- **What one line declares**: a field whose name is not taken, at the end of its group. -/
theorem declare_lineOf {f : Fields} {kind : FieldKind} {name : String} {type : ScalarType}
    (hname : isIdentifier name = true) (htype : type ∈ ScalarType.declarable)
    (hfree : name ∉ f.names kind) :
    f.declare (lineOf kind name type) = .ok (f.push kind name type) := by
  have hkind : kindOf? ((lineOf kind name type).headD "") = some kind := kindOf?_word kind
  have hcontains : (f.names kind).contains name = false := by simpa using hfree
  unfold declare
  rw [hkind]
  simp only [lineOf, declareAs, hname, Bool.not_true, Bool.false_eq_true, if_false,
    ofWord?_word_of_mem_declarable htype, hcontains]

theorem kindOf?_eq_some_iff {word : String} {kind : FieldKind} :
    kindOf? word = some kind ↔ word = kind.word := by
  constructor
  · intro h
    have hword := List.find?_some h
    exact (eq_of_beq hword).symm
  · rintro rfl
    exact kindOf?_word kind

theorem ofWord?_eq_some_iff {word : String} {type : ScalarType} :
    ScalarType.ofWord? word = some type ↔ type ∈ ScalarType.declarable ∧ word = type.word := by
  constructor
  · intro h
    have hword := List.find?_some h
    exact ⟨List.mem_of_find?_eq_some h, (eq_of_beq hword).symm⟩
  · rintro ⟨htype, rfl⟩
    exact ofWord?_word_of_mem_declarable htype

/-- **The lines that declare something**, and what they declare. -/
theorem declare_eq_ok_iff {f f' : Fields} {words : List String} : f.declare words = .ok f' ↔
    ∃ kind name type, isIdentifier name = true ∧ type ∈ ScalarType.declarable ∧
      words = lineOf kind name type ∧ name ∉ f.names kind ∧ f' = f.push kind name type := by
  constructor
  · intro h
    unfold declare at h
    split at h
    · cases h
    · rename_i kind hkind
      unfold declareAs at h
      split at h
      · rename_i first name word
        by_cases hname : (!isIdentifier name) = true
        · rw [if_pos hname] at h
          cases h
        · rw [if_neg hname] at h
          split at h
          · cases h
          · rename_i type htype
            by_cases hcontains : (f.names kind).contains name = true
            · rw [if_pos hcontains] at h
              cases h
            · rw [if_neg hcontains] at h
              obtain rfl : first = kind.word := kindOf?_eq_some_iff.1 hkind
              obtain ⟨hdeclarable, rfl⟩ := ofWord?_eq_some_iff.1 htype
              exact ⟨kind, name, type, by simpa using hname, hdeclarable, rfl,
                by simpa using hcontains, (Except.ok.inj h).symm⟩
      · cases h
  · rintro ⟨kind, name, type, hname, htype, rfl, hfree, rfl⟩
    exact declare_lineOf hname htype hfree

variable {α : Type} {name : α → String} {type : α → ScalarType}

/-- **Lines of one kind declare their fields in order**, where no name is taken. -/
theorem foldlM_declare {kind : FieldKind} {xs : List α} {f : Fields}
    (h : ∀ x ∈ xs, isIdentifier (name x) = true ∧ type x ∈ ScalarType.declarable)
    (hn : (f.names kind ++ xs.map name).Nodup) :
    (xs.map fun x => lineOf kind (name x) (type x)).foldlM declare f =
      .ok (xs.foldl (fun f x => f.push kind (name x) (type x)) f) := by
  induction xs generalizing f with
  | nil => rfl
  | cons x xs ih =>
      obtain ⟨hname, htype⟩ := h x List.mem_cons_self
      have hfree : name x ∉ f.names kind := by
        intro hm
        rw [List.map_cons, List.nodup_append] at hn
        exact hn.2.2 _ hm _ List.mem_cons_self rfl
      have hn' : ((f.push kind (name x) (type x)).names kind ++ xs.map name).Nodup := by
        rw [names_push, List.append_assoc]
        exact hn
      rw [List.map_cons, List.foldlM_cons, declare_lineOf hname htype hfree]
      exact ih (fun y hy => h y (List.mem_cons_of_mem x hy)) hn'

theorem foldl_push_param (ps : List Parameter) (f : Fields) :
    ps.foldl (fun f p => f.push .param p.name p.scalarType) f =
      { f with params := f.params ++ ps } := by
  induction ps generalizing f with
  | nil => rw [List.append_nil]; rfl
  | cons p ps ih => rw [List.foldl_cons, ih]; simp [push]

theorem foldl_push_returns {rs : List ReturnField} (h : ∀ r ∈ rs, r.nullable = false)
    (f : Fields) :
    rs.foldl (fun f r => f.push .returns r.name r.scalarType) f =
      { f with returns := f.returns ++ rs } := by
  induction rs generalizing f with
  | nil => rw [List.append_nil]; rfl
  | cons r rs ih =>
      have hr : (⟨r.name, r.scalarType, false⟩ : ReturnField) = r := by
        rw [← h r List.mem_cons_self]
      rw [List.foldl_cons, ih fun q hq => h q (List.mem_cons_of_mem r hq)]
      simp [push, hr]

/-- **The lines of parameters and of row fields declare these parameters and row fields.** -/
theorem ofLines_lineOf {ps : List Parameter} {rs : List ReturnField}
    (hps : ∀ p ∈ ps, isIdentifier p.name = true ∧ p.scalarType ∈ ScalarType.declarable)
    (hrs : ∀ r ∈ rs, isIdentifier r.name = true ∧ r.scalarType ∈ ScalarType.declarable)
    (hnull : ∀ r ∈ rs, r.nullable = false) (hpn : (ps.map (·.name)).Nodup)
    (hrn : (rs.map (·.name)).Nodup) :
    ofLines ((ps.map fun p => lineOf .param p.name p.scalarType) ++
      rs.map fun r => lineOf .returns r.name r.scalarType) = .ok ⟨ps, rs⟩ := by
  have hparams : (ps.map fun p => lineOf .param p.name p.scalarType).foldlM declare ⟨[], []⟩ =
      .ok ⟨ps, []⟩ := by
    have hn : (names ⟨[], []⟩ .param ++ ps.map (·.name)).Nodup := hpn
    rw [foldlM_declare hps hn, foldl_push_param]
    rfl
  have hreturns : (rs.map fun r => lineOf .returns r.name r.scalarType).foldlM declare ⟨ps, []⟩ =
      .ok ⟨ps, rs⟩ := by
    have hn : (names ⟨ps, []⟩ .returns ++ rs.map (·.name)).Nodup := hrn
    rw [foldlM_declare hrs hn, foldl_push_returns hnull]
    rfl
  unfold ofLines
  rw [List.foldlM_append, hparams]
  exact hreturns

end Fields

end SqlContract
