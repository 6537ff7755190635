/-
Columns by their names.

A table is accepted if no two of its columns have one name, whatever the case, and a column is looked up
by its name, whatever the case.  The check goes along the columns with the names that it has seen, the
lookup stops at the first column that fits; what ties them together is that a column with a name of its
own is the first and the last of that name.

Main definitions:

* `Table.IsWrittenIn` — a value whose parts are the name and the columns of a table.

Main results:

* `Table.fault?_eq_none_iff` — a table is accepted exactly if the names of its columns are distinct;
* `Table.ofValue_eq_ok_iff` — the same of a table that is read from a value;
* `Table.HasDistinctNames.column?_eq_some_iff` — **a name finds the one column that has it**;
* `Table.lookup_unique` — the check and the lookup together.
-/

import SqlContract.Proofs.Generation.Soundness
import SqlContract.Validation.Shape

set_option autoImplicit false
set_option relaxedAutoImplicit false

namespace SqlContract

namespace Table

variable {t : Table}

/-! ### Tables that are accepted -/

/-- No two columns have one name, whatever the case. -/
def HasDistinctNames (t : Table) : Prop :=
  (t.columns.map fun c => caseKey c.name).Nodup

/-- A column that repeats a name stands behind one that has it. -/
theorem exists_of_repeatedColumn? {cs : List Column} {seen : List String} {c : Column}
    (h : repeatedColumn? seen cs = some c) :
    ∃ before behind, cs = before ++ c :: behind ∧
      (caseKey c.name ∈ seen ∨ ∃ b ∈ before, caseKey b.name = caseKey c.name) := by
  induction cs generalizing seen with
  | nil => cases h
  | cons b cs ih =>
      rw [repeatedColumn?] at h
      split_ifs at h with hseen
      · obtain rfl := Option.some.inj h
        exact ⟨[], cs, rfl, .inl (by simpa using hseen)⟩
      · obtain ⟨before, behind, rfl, hc⟩ := ih h
        refine ⟨b :: before, behind, rfl, ?_⟩
        rcases hc with hc | ⟨b', hb', hkey⟩
        · rcases List.mem_cons.1 hc with hc | hc
          · exact .inr ⟨b, List.mem_cons_self, hc.symm⟩
          · exact .inl hc
        · exact .inr ⟨b', List.mem_cons_of_mem _ hb', hkey⟩

/-- A table in which no two columns have one name has no fault. -/
theorem fault?_eq_none {t : Table} (h : (t.columns.map fun c => caseKey c.name).Nodup) :
    t.fault? = none := by
  rw [fault?, Option.map_eq_none_iff]
  cases hrepeated : repeatedColumn? [] t.columns with
  | none => rfl
  | some c =>
      obtain ⟨before, behind, hsplit, hc⟩ := exists_of_repeatedColumn? hrepeated
      rcases hc with hc | ⟨b, hb, hkey⟩
      · exact absurd hc List.not_mem_nil
      · -- the repeated name stands twice in the list of names
        rw [hsplit, List.map_append, List.map_cons, List.nodup_append] at h
        exact absurd hkey (h.2.2 _ (List.mem_map_of_mem hb) _ List.mem_cons_self)

/-- The fault of a table in which two columns have one name is that of the later of them. -/
theorem exists_fault? {t : Table} (h : ¬ (t.columns.map fun c => caseKey c.name).Nodup) :
    ∃ before c behind, t.columns = before ++ c :: behind ∧
      (∃ b ∈ before, caseKey b.name = caseKey c.name) ∧ t.fault? = some ⟨c.name, t.name⟩ := by
  cases hrepeated : repeatedColumn? [] t.columns with
  | none => exact absurd (nodup_of_repeatedColumn? hrepeated).1 h
  | some c =>
      obtain ⟨before, behind, hsplit, hc⟩ := exists_of_repeatedColumn? hrepeated
      refine ⟨before, c, behind, hsplit, hc.resolve_left List.not_mem_nil, ?_⟩
      rw [fault?, hrepeated]
      rfl

/-- A table is accepted exactly if the names of its columns are distinct. -/
theorem fault?_eq_none_iff : t.fault? = none ↔ t.HasDistinctNames := by
  constructor
  · intro h
    exact (nodup_of_repeatedColumn? (Option.map_eq_none_iff.1 h)).1
  · intro h
    exact fault?_eq_none h

/-- **A value whose parts are the name and the columns of a table.**  Its parts can be read, whether or
not they fit together. -/
def IsWrittenIn (t : Table) (v : Value) : Prop :=
  ∃ entries, v = .dict entries ∧ required entries "name" (checkText false) = .ok t.name ∧
    required entries "columns" (checkTuple Column.ofValue) = .ok t.columns

/-- What is read from the parts of a table: the table, or its fault and nothing of it. -/
theorem ofValue_eq {v : Value} (h : t.IsWrittenIn v) :
    Table.ofValue v = match t.fault? with
      | none => .ok t
      | some fault => Checked.fail (.rule fault.message) := by
  obtain ⟨entries, rfl, hname, hcolumns⟩ := h
  have hparts : Checked.both Table.mk (required entries "name" (checkText false))
      (required entries "columns" (checkTuple Column.ofValue)) = .ok t := by
    rw [hname, hcolumns]
    rfl
  rw [ofValue, checkShape, hparts, Checked.fits]
  cases t.fault? <;> rfl

/-- A table that is read from a value is accepted exactly if the names of its columns are distinct. -/
theorem ofValue_eq_ok_iff {v : Value} (h : t.IsWrittenIn v) :
    Table.ofValue v = .ok t ↔ t.HasDistinctNames := by
  rw [ofValue_eq h, ← fault?_eq_none_iff]
  cases hfault : t.fault? with
  | none => simp
  | some fault => simp [Checked.fail]

/-! ### The column of a name -/

/-- A column stands alone with its name: no column before it and none behind it has the name. -/
def StandsAlone (t : Table) (c : Column) (name : String) : Prop :=
  ∃ before behind, t.columns = before ++ c :: behind ∧ caseKey c.name = caseKey name ∧
    ∀ d ∈ before ++ behind, caseKey d.name ≠ caseKey name

/-- A column of a table with distinct names stands alone with its name. -/
theorem HasDistinctNames.standsAlone (h : t.HasDistinctNames) {c : Column} (hc : c ∈ t.columns)
    {name : String} (hname : caseKey c.name = caseKey name) : t.StandsAlone c name := by
  obtain ⟨before, behind, hsplit⟩ := List.append_of_mem hc
  refine ⟨before, behind, hsplit, hname, fun d hd => ?_⟩
  -- with the column between them, the others would repeat its name
  unfold HasDistinctNames at h
  rw [hsplit, List.map_append, List.map_cons, List.nodup_middle, List.nodup_cons] at h
  rw [← hname]
  rintro heq
  refine h.1 ?_
  rw [← List.map_append]
  exact List.mem_map.2 ⟨d, hd, heq⟩

/-- A name finds nothing exactly if no column has it. -/
theorem column?_eq_none_iff {name : String} :
    t.column? name = none ↔ ∀ c ∈ t.columns, caseKey c.name ≠ caseKey name := by
  simp [column?, List.find?_eq_none]

/-- What is found is a column of the table, and has the name. -/
theorem of_column?_eq_some {name : String} {c : Column} (h : t.column? name = some c) :
    c ∈ t.columns ∧ caseKey c.name = caseKey name :=
  ⟨List.mem_of_find?_eq_some h, by simpa using List.find?_some h⟩

/-- A column that stands alone with its name is found by it. -/
theorem StandsAlone.column?_eq {c : Column} {name : String} (h : t.StandsAlone c name) :
    t.column? name = some c := by
  obtain ⟨before, behind, hsplit, hname, hothers⟩ := h
  refine List.find?_eq_some_iff_append.2 ⟨by simpa using hname, before, behind, hsplit, ?_⟩
  intro d hd
  simpa using hothers d (List.mem_append_left behind hd)

/-- **A name finds the one column that has it**, wherever the column stands. -/
theorem HasDistinctNames.column?_eq_some_iff (h : t.HasDistinctNames) {name : String} {c : Column} :
    t.column? name = some c ↔ t.StandsAlone c name := by
  constructor
  · intro hc
    obtain ⟨hmem, hname⟩ := of_column?_eq_some hc
    exact h.standsAlone hmem hname
  · exact StandsAlone.column?_eq

/-! ### The check and the lookup -/

/-- **The lookup of columns is unique and complete.**  A table is accepted, whether it is read from a
value or checked as it is, exactly if the names of its columns are distinct whatever their case.  In
every table that is accepted a name finds a column exactly if a column has the name, whatever the case;
what it finds is that column, and no other column of the table has the name. -/
theorem lookup_unique (t : Table) :
    (∀ v, t.IsWrittenIn v →
        (Table.ofValue v = .ok t ↔ (t.columns.map fun c => caseKey c.name).Nodup)) ∧
      (t.fault? = none ↔ (t.columns.map fun c => caseKey c.name).Nodup) ∧
      (t.fault? = none → ∀ name,
        ((t.column? name).isSome ↔ ∃ c ∈ t.columns, caseKey c.name = caseKey name) ∧
          ∀ c, (t.column? name = some c ↔ c ∈ t.columns ∧ caseKey c.name = caseKey name) ∧
            (t.column? name = some c → ∃ before behind, t.columns = before ++ c :: behind ∧
              ∀ d ∈ before ++ behind, caseKey d.name ≠ caseKey name)) := by
  refine ⟨fun v hv => ofValue_eq_ok_iff hv, fault?_eq_none_iff, fun haccepted name => ⟨?_, ?_⟩⟩
  · rw [Option.isSome_iff_ne_none, ne_eq, column?_eq_none_iff]
    push Not
    rfl
  · have hdistinct := fault?_eq_none_iff.1 haccepted
    intro c
    refine ⟨⟨of_column?_eq_some, fun hc => (hdistinct.standsAlone hc.1 hc.2).column?_eq⟩, fun hc => ?_⟩
    obtain ⟨before, behind, hsplit, -, hothers⟩ := hdistinct.column?_eq_some_iff.1 hc
    exact ⟨before, behind, hsplit, hothers⟩

/-- A table with three columns, the second of which is found in capitals, and one that repeats a name. -/
theorem lookup_unique_capitals :
    let column (name : String) : Value :=
      .dict [(.text "name", .text name), (.text "engine_type", .text "TEXT")]
    let value (names : List String) : Value := .dict [(.text "name", .text "t"),
      (.text "columns", .list (names.map column))]
    let t : Table := ⟨"t", ["id", "Name", "age"].map fun name => ⟨name, "TEXT", true⟩⟩
    let repeated : Table := ⟨"t", ["id", "Name", "NAME"].map fun name => ⟨name, "TEXT", true⟩⟩
    Table.ofValue (value ["id", "Name", "age"]) = .ok t ∧ t.fault? = none ∧
      t.column? "NAME" = some ⟨"Name", "TEXT", true⟩ ∧ (t.column? "email").isSome = false ∧
      Table.ofValue (value ["id", "Name", "NAME"]) ≠ .ok repeated := by
  intro column value t repeated
  obtain ⟨hread, haccepted, hfind⟩ := lookup_unique t
  obtain ⟨hread', -, -⟩ := lookup_unique repeated
  have hnames : (t.columns.map fun c => caseKey c.name).Nodup := by decide +kernel
  have hnames' : ¬ (repeated.columns.map fun c => caseKey c.name).Nodup := by decide +kernel
  have hfault := haccepted.2 hnames
  have hname : caseKey "Name" = caseKey "NAME" := by decide +kernel
  have hnone : ¬ ∃ c ∈ t.columns, caseKey c.name = caseKey "email" := by decide +kernel
  refine ⟨(hread _ ⟨_, rfl, rfl, rfl⟩).2 hnames, hfault,
    ((hfind hfault "NAME").2 _).1.2 ⟨by decide, hname⟩, ?_,
    fun h => hnames' ((hread' _ ⟨_, rfl, rfl, rfl⟩).1 h)⟩
  rw [Bool.eq_false_iff]
  exact fun h => hnone ((hfind hfault "email").1.1 h)

end Table

end SqlContract
