/-
How often a module defines a name.

A name is made once, and the parts of a module define it once, wherever they define it; only the
accessors of a statement may be written again, one for each convention that is asked for.  So what a
module defines under the name of a record type or a constant is what the one part defines that has it,
as far as the normal forms of the names tell them apart.

Main definitions:

* `Contract.rowPart` — the part that defines the record type of a statement's rows;
* `Table.meaning`, `Contract.rowMeaning` — what the record types of tables and rows are.

Main results:

* `Module.count_defines_le` — how often the parts of a module define a name;
* `Module.defines_of_mem` — **what one part defines is defined once in the text of the module**;
* `Module.exists_of_read_eq` — where a definition of the text comes from.
-/

import SqlContract.Proofs.Emit.Names

set_option autoImplicit false
set_option relaxedAutoImplicit false

namespace SqlContract

/-! ### The record types of rows -/

/-- The part that defines the record type of a statement's rows. -/
def Contract.rowPart (tables : Tables) (c : Contract) : Part :=
  match c.knownSource? tables with
  | some t => .synonym c.names.row t.typeName
  | none => .record c.names.row (c.returns.map fun r => (r.name, r.scalarType.hint r.nullable))

theorem Contract.shapes_eq (tables : Tables) (c : Contract) :
    c.shapes tables =
      (if c.parameters.isEmpty then []
        else [.record c.names.params (c.parameters.map fun p => (p.name, p.scalarType.hint false))]) ++
      if c.returns.isEmpty then [] else [c.rowPart tables] := by
  unfold Contract.shapes Contract.rowPart
  cases c.knownSource? tables <;> rfl

/-- What the record type of a table is. -/
def Table.meaning (t : Table) : Meaning :=
  recordMeaning t.typeName
    (t.columns.map fun c => (c.name, (ScalarType.ofEngineType c.engineType).hint c.nullable))

namespace Module

variable {d : Dialect} {header : String} {tables : Tables}
  {conventions : List (Except EmitError Convention)} {contracts : List Contract} {c : Contract}
  {m : Module} {a : Accessor} {n : String}

/-- Two statements of a module that have a name in common are one. -/
theorem eq_of_mem_names {c' : Contract} (h : (names tables contracts).Nodup) (hc : c ∈ contracts)
    (hc' : c' ∈ contracts) {n : String} (hn : n ∈ c.names.toList) (hn' : n ∈ c'.names.toList) :
    c = c' := by
  have : Std.Symm (Function.onFun List.Disjoint fun c : Contract => c.names.toList) :=
    ⟨fun _ _ hab => hab.symm⟩
  have hdisjoint := (List.nodup_flatMap.1 (List.nodup_append.1 h).2.1).2
  by_contra hne
  exact hdisjoint.forall hc hc' hne hn hn'

/-- A name that is made for a statement is not made for a table. -/
theorem ne_typeName {e : String × Table} (h : (names tables contracts).Nodup) (he : e ∈ tables)
    (hc : c ∈ contracts) {n : String} (hn : n ∈ c.names.toList) : e.2.typeName ≠ n :=
  (List.nodup_append.1 h).2.2 _ (List.mem_map.2 ⟨e, he, rfl⟩) _ (List.mem_flatMap.2 ⟨c, hc, hn⟩)

theorem accessor_not_mem_shapes : Part.accessor a ∉ c.shapes tables := by
  intro h
  rw [Contract.shapes_eq] at h
  rcases List.mem_append.1 h with h | h
  · split_ifs at h <;> simp at h
  · split_ifs at h
    · simp at h
    · have hrow := List.mem_singleton.1 h
      unfold Contract.rowPart at hrow
      split at hrow <;> cases hrow

/-! ### How often a name is defined -/

theorem count_fixedParts_le (header : String) (tables : Tables) (contracts : List Contract)
    (n : String) : ((fixedParts d header tables contracts).flatMap Part.defines).count n ≤
      d.binds.count n + (contracts.map (·.names.constant)).count n +
        (tables.map (·.2.typeName)).count n := by
  have hhelpers : ((if d.helpers.isEmpty then [] else [Part.helpers d]).flatMap
      Part.defines).count n ≤ d.shared.count n := by
    split_ifs <;> simp
  have hconstants : ((if contracts.isEmpty then []
      else [Part.constants (contracts.map (·.constant d))]).flatMap Part.defines).count n ≤
        (contracts.map (·.names.constant)).count n := by
    split_ifs
    · simp
    · simp [Contract.constant, Function.comp_def]
  have htables : ((tables.map (·.2)).map Table.part).flatMap Part.defines =
      tables.map (·.2.typeName) := by
    rw [List.flatMap_map, List.flatMap_map, List.map_eq_flatMap]
    rfl
  unfold fixedParts
  simp only [List.flatMap_append, List.count_append, htables, Dialect.binds, List.flatMap_singleton,
    Part.defines_opening]
  omega

/-- The parts of a statement define its two record types at most, besides its accessors. -/
theorem count_contractParts_le {ps : List Part}
    (h : contractParts d tables conventions c = .ok ps)
    (hn : n ∉ [c.names.function, c.names.factory]) :
    (ps.flatMap Part.defines).count n ≤ [c.names.params, c.names.row].count n := by
  have hshapes : ((c.shapes tables).flatMap Part.defines).count n ≤
      [c.names.params, c.names.row].count n := by
    refine List.Sublist.count_le n ?_
    rw [flatMap_defines_shapes]
    split_ifs <;> simp
  have hparts : ∀ p ∈ ps, p ∈ c.shapes tables ∨
      p.defines ⊆ [c.names.function, c.names.factory] := fun p => cases_of_mem_contractParts h
  unfold contractParts at h
  obtain ⟨accessors, haccessors, h⟩ := bind_eq_ok_iff.1 h
  obtain rfl := Except.ok.inj h
  have hnone : ((accessors.map Part.accessor).flatMap Part.defines).count n = 0 := by
    refine List.count_eq_zero.2 fun hmem => ?_
    obtain ⟨p, hp, hnp⟩ := List.mem_flatMap.1 hmem
    obtain ⟨a, -, rfl⟩ := List.mem_map.1 hp
    have hname := (hparts _ (List.mem_append_right _ hp)).resolve_left accessor_not_mem_shapes
    exact hn (hname hnp)
  rw [List.flatMap_append, List.count_append, hnone]
  exact hshapes

/-- The constants and the parts of the statements define no name more often than it is made for
them. -/
theorem count_statements_le {parts : List (List Part)}
    (h : List.Forall₂ (fun c ps => contractParts d tables conventions c = .ok ps) contracts parts)
    (hn : ∀ c ∈ contracts, n ∉ [c.names.function, c.names.factory]) :
    (contracts.map (·.names.constant)).count n + (parts.flatten.flatMap Part.defines).count n ≤
      (contracts.flatMap (·.names.toList)).count n := by
  induction h with
  | nil => simp
  | @cons c ps contracts parts hc _ ih =>
      have hrest := ih fun c hc => hn c (List.mem_cons_of_mem _ hc)
      have hparts := count_contractParts_le hc (hn c List.mem_cons_self)
      have hsub : [c.names.constant, c.names.params, c.names.row].count n ≤
          c.names.toList.count n := by
        refine List.Sublist.count_le n ?_
        simp [Names.toList]
      simp only [List.map_cons, List.flatten_cons, List.flatMap_cons, List.flatMap_append,
        List.count_append, List.count_cons] at hrest hparts hsub ⊢
      omega

/-- **The parts of a module define no name more often than it is made**, the names of accessors
apart. -/
theorem count_defines_le (h : build d header tables conventions contracts = .ok m)
    (hn : ∀ c ∈ contracts, n ∉ [c.names.function, c.names.factory]) :
    (m.parts.flatMap Part.defines).count n ≤ (d.binds ++ names tables contracts).count n := by
  obtain ⟨-, parts, hparts, hm⟩ := exists_of_build h
  have hfixed := count_fixedParts_le (d := d) header tables contracts n
  have hstatements := count_statements_le (mapM_eq_ok_iff.1 hparts) hn
  rw [hm, names, List.flatMap_append]
  simp only [List.count_append]
  omega

/-- A name that is made, and is no accessor's, is defined once where it is defined. -/
theorem count_defines_eq_one (h : build d header tables conventions contracts = .ok m)
    (hmade : n ∈ names tables contracts)
    (hn : ∀ c ∈ contracts, n ∉ [c.names.function, c.names.factory])
    (hdefined : n ∈ m.parts.flatMap Part.defines) : (m.parts.flatMap Part.defines).count n = 1 := by
  have hnodup := nodup_names h
  have hle := count_defines_le h hn
  have hbinds : d.binds.count n = 0 := List.count_eq_zero.2 fun hbinds =>
    free_of_mem_names h hmade (List.mem_append_right _ hbinds)
  have hnames : (names tables contracts).count n = 1 := List.count_eq_one_of_mem hnodup hmade
  have hpos := List.count_pos_iff.2 hdefined
  rw [List.count_append] at hle
  omega

/-- The constant and the record types of a statement are not called as an accessor is. -/
theorem not_accessor_of_contract (h : build d header tables conventions contracts = .ok m)
    (hc : c ∈ contracts) (hn : n ∈ [c.names.constant, c.names.params, c.names.row]) :
    ∀ c' ∈ contracts, n ∉ [c'.names.function, c'.names.factory] := by
  intro c' hc' hn'
  have hmade : n ∈ c.names.toList := List.mem_cons_of_mem _ (List.mem_cons_of_mem _ hn)
  have hmade' : n ∈ c'.names.toList := by
    have hsub : [c'.names.function, c'.names.factory] ⊆ c'.names.toList := by
      simp [Names.toList]
    exact hsub hn'
  obtain rfl := eq_of_mem_names (nodup_names h) hc hc' hmade hmade'
  have hnodup : ([c.names.function, c.names.factory] ++
      [c.names.constant, c.names.params, c.names.row]).Nodup := Names.nodup_toList c.name
  exact List.disjoint_of_nodup_append hnodup hn' hn

/-- The record type of a table is not called as an accessor is. -/
theorem not_accessor_of_table (h : build d header tables conventions contracts = .ok m)
    {e : String × Table} (he : e ∈ tables) :
    ∀ c ∈ contracts, e.2.typeName ∉ [c.names.function, c.names.factory] := by
  intro c hc hn
  have hsub : [c.names.function, c.names.factory] ⊆ c.names.toList := by
    simp [Names.toList]
  exact ne_typeName (nodup_names h) he hc (hsub hn) rfl

/-! ### What the text of a module defines -/

/-- **What one part defines is defined once in the text of the module**, unless it is an accessor. -/
theorem defines_of_mem (h : build d header tables conventions contracts = .ok m)
    (hr : Readable header tables contracts) {N : Normalizer}
    (hN : N.TellsApart (names tables contracts) d.taken) (hmade : n ∈ names tables contracts)
    (hn : ∀ c ∈ contracts, n ∉ [c.names.function, c.names.factory]) {p : Part} (hp : p ∈ m.parts)
    {meaning : Meaning} (hmem : (n, meaning) ∈ p.definitions) : N.Defines m.text n meaning := by
  have hread := hr.read_text h
  have hnames : (TopLevel.read m.text.toList).map (·.1) = m.parts.flatMap Part.defines := by
    rw [hread, List.map_flatMap]
    rfl
  refine N.defines_of_count (fun e he hnormal => hN n hmade e.1 ?_ hnormal) ?_ ?_
  · have hdefined : e.1 ∈ m.parts.flatMap Part.defines := hnames ▸ List.mem_map_of_mem he
    rcases List.mem_append.1 (defines_subset h hdefined) with hbinds | hname
    · exact List.mem_append_right _ (List.mem_append_right _ hbinds)
    · exact List.mem_append_left _ hname
  · rw [hread]
    exact List.mem_flatMap.2 ⟨p, hp, hmem⟩
  · rw [hnames]
    exact count_defines_eq_one h hmade hn
      (List.mem_flatMap.2 ⟨p, hp, List.mem_map.2 ⟨_, hmem, rfl⟩⟩)

/-- An item of one of some lists, with what stands before it. -/
theorem exists_of_flatMap_eq_append {α β : Type} {f : α → List β} {xs : List α} {ys zs : List β}
    {y : β} (h : xs.flatMap f = ys ++ y :: zs) :
    ∃ before x behind us vs, xs = before ++ x :: behind ∧ f x = us ++ y :: vs ∧
      ys = before.flatMap f ++ us := by
  induction xs generalizing ys with
  | nil => simp at h
  | cons x xs ih =>
      rw [List.flatMap_cons] at h
      rcases List.append_eq_append_iff.1 h with ⟨rest, rfl, hrest⟩ | ⟨rest, hself, hrest⟩
      · obtain ⟨before, w, behind, us, vs, rfl, hw, rfl⟩ := ih hrest
        exact ⟨x :: before, w, behind, us, vs, rfl, hw, by simp⟩
      · cases rest with
        | nil =>
            have hcut : xs.flatMap f = [] ++ y :: zs := hrest.symm
            obtain ⟨before, w, behind, us, vs, rfl, hw, he⟩ := ih hcut
            refine ⟨x :: before, w, behind, us, vs, rfl, hw, ?_⟩
            rw [List.flatMap_cons, List.append_assoc, ← he, hself, List.append_nil, List.append_nil]
        | cons z rest =>
            obtain ⟨rfl, -⟩ := List.cons.inj hrest
            exact ⟨[], x, xs, ys, rest, rfl, hself, rfl⟩

/-- Where a definition of the text comes from: a part with it, behind the parts that define what stands
before. -/
theorem exists_of_read_eq (h : build d header tables conventions contracts = .ok m)
    (hr : Readable header tables contracts) {above below : List Definition} {e : Definition}
    (hcut : TopLevel.read m.text.toList = above ++ e :: below) :
    ∃ before p behind, m.parts = before ++ p :: behind ∧ e ∈ p.definitions ∧
      ∀ q ∈ before, q.definitions ⊆ above := by
  rw [hr.read_text h] at hcut
  obtain ⟨before, p, behind, us, vs, hsplit, hp, habove⟩ := exists_of_flatMap_eq_append hcut
  refine ⟨before, p, behind, hsplit, by simp [hp], fun q hq x hx => ?_⟩
  rw [habove]
  exact List.mem_append_left _ (List.mem_flatMap.2 ⟨q, hq, hx⟩)

/-- Only a synonym defines the value of another name. -/
theorem eq_synonym_of_alias {p : Part} {name target : String}
    (h : (name, .alias target) ∈ p.definitions) : p = .synonym name target := by
  cases p with
  | opening header d => simp [Part.definitions] at h
  | helpers d => simp [Part.definitions] at h
  | constants cs => simp [Part.definitions] at h
  | record name' fields =>
      have hmeaning := (Prod.mk.inj (List.mem_singleton.1 h)).2
      unfold recordMeaning at hmeaning
      split_ifs at hmeaning
  | synonym name' target' =>
      obtain ⟨rfl, hmeaning⟩ := Prod.mk.inj (List.mem_singleton.1 h)
      rw [Meaning.alias.inj hmeaning]
  | accessor a =>
      have hmeaning := (Prod.mk.inj (List.mem_singleton.1 h)).2
      cases hmeaning

end Module

end SqlContract
