/-
Claiming names only moves entries of a report.

A table or a statement whose names are taken is left out of the report, and an error is recorded for
it.  Nothing else happens to a report when names are claimed: what is left keeps its order, and the
errors stand in the order of what was left out, tables before statements.

Main definitions:

* `Moves` — some items of a list are kept, and each of the others makes way for an error;
* `Report.tableClashed`, `Report.statementClashed` — the error that a table or a statement makes way
  for.

Main results:

* `Report.foldlM_moves` — **a run of claims moves entries**, if each claim keeps one or moves it;
* `Report.exists_claimAll` — **what claiming all names does to a report**.
-/

import SqlContract.Proofs.Generation.Fates

set_option autoImplicit false
set_option relaxedAutoImplicit false

namespace SqlContract

/-! ### Kept or moved -/

section

variable {α β : Type} {because : α → β → Prop}

/-- Of some items the `kept` ones stay, in order, and each of the others makes way for one of the
errors, in order; `because` ties an item to the error that it makes way for. -/
inductive Moves (because : α → β → Prop) : List α → List α → List β → Prop
  | nil : Moves because [] [] []
  | keep {x : α} {xs kept : List α} {es : List β} :
      Moves because xs kept es → Moves because (x :: xs) (x :: kept) es
  | move {x : α} {e : β} {xs kept : List α} {es : List β} :
      because x e → Moves because xs kept es → Moves because (x :: xs) kept (e :: es)

namespace Moves

variable {xs kept : List α} {es : List β}

theorem sublist (h : Moves because xs kept es) : kept.Sublist xs := by
  induction h with
  | nil => exact .slnil
  | keep _ ih => exact ih.cons_cons _
  | move _ _ ih => exact ih.cons _

/-- Every item is kept or makes way for an error. -/
theorem mem_or (h : Moves because xs kept es) {x : α} (hx : x ∈ xs) :
    x ∈ kept ∨ ∃ e ∈ es, because x e := by
  induction h with
  | nil => simp at hx
  | keep _ ih =>
      rcases List.mem_cons.1 hx with rfl | hx
      · exact .inl List.mem_cons_self
      · exact (ih hx).imp_left (List.mem_cons_of_mem _)
  | @move _ e _ _ _ hbecause _ ih =>
      rcases List.mem_cons.1 hx with rfl | hx
      · exact .inr ⟨e, List.mem_cons_self, hbecause⟩
      · obtain hk | ⟨e', he', hb⟩ := ih hx
        · exact .inl hk
        · exact .inr ⟨e', List.mem_cons_of_mem e he', hb⟩

end Moves

end

/-! ### Claims -/

namespace Report

/-- The error that a table makes way for. -/
def tableClashed (entry : String × Table) (e : SourceError) : Prop :=
  ∃ clash, e = ⟨.tableClash entry.2.name clash, none, none⟩

/-- The error that a statement makes way for: it has the name and the line of the statement. -/
def statementClashed (c : Contract) (e : SourceError) : Prop :=
  ∃ clash, e = ⟨.statementClash c.name clash, some c.name, c.line⟩

/-- A report with more tables. -/
def addTables (r : Report) (ts : Tables) : Report :=
  { r with tables := r.tables ++ ts }

/-- Claiming the name of a table, by whether it is free. -/
theorem claimTable_false (ns : Namespace) (entry : String × Table) :
    (ns.clash? [entry.2.typeName] = none ∧ ∀ r, claimTable false (ns, r) entry =
        .ok (ns.claim [entry.2.typeName] (.table entry.2.name), r.addTables [entry])) ∨
      ∃ clash, ns.clash? [entry.2.typeName] = some clash ∧ ∀ r, claimTable false (ns, r) entry =
        .ok (ns, r.extend [] [⟨.tableClash entry.2.name clash, none, none⟩]) := by
  cases hclash : ns.clash? [entry.2.typeName] with
  | none =>
      refine .inl ⟨rfl, fun r => ?_⟩
      simp [claimTable, Namespace.claimTable, hclash, addTables]
  | some clash =>
      refine .inr ⟨clash, rfl, fun r => ?_⟩
      simp only [claimTable, Namespace.claimTable, hclash, record_false]
      rfl

/-- Claiming the names of a statement, by whether they are free. -/
theorem claimContract_false (ns : Namespace) (c : Contract) :
    (ns.clash? c.names.toList = none ∧ ∀ r, claimContract false (ns, r) c =
        .ok (ns.claim c.names.toList (.statement c.name), r.extend [c] [])) ∨
      ∃ clash, ns.clash? c.names.toList = some clash ∧ ∀ r, claimContract false (ns, r) c =
        .ok (ns, r.extend [] [⟨.statementClash c.name clash, some c.name, c.line⟩]) := by
  cases hclash : ns.clash? c.names.toList with
  | none =>
      refine .inl ⟨rfl, fun r => ?_⟩
      simp [claimContract, Namespace.claimContract, hclash, extend]
  | some clash =>
      refine .inr ⟨clash, rfl, fun r => ?_⟩
      simp only [claimContract, Namespace.claimContract, hclash, record_false]
      rfl

/-- What claiming the name of a table does: it is added, or makes way for an error. -/
theorem claimTable_moves (ns : Namespace) (entry : String × Table) :
    (∃ ns', ∀ r, claimTable false (ns, r) entry = .ok (ns', r.addTables [entry])) ∨
      ∃ e, tableClashed entry e ∧ ∀ r, claimTable false (ns, r) entry = .ok (ns, r.extend [] [e]) := by
  rcases claimTable_false ns entry with ⟨-, hadd⟩ | ⟨clash, -, hrecord⟩
  · exact .inl ⟨_, hadd⟩
  · exact .inr ⟨_, ⟨clash, rfl⟩, hrecord⟩

/-- What claiming the names of a statement does: it is added, or makes way for an error. -/
theorem claimContract_moves (ns : Namespace) (c : Contract) :
    (∃ ns', ∀ r, claimContract false (ns, r) c = .ok (ns', r.extend [c] [])) ∨
      ∃ e, statementClashed c e ∧ ∀ r, claimContract false (ns, r) c = .ok (ns, r.extend [] [e]) := by
  rcases claimContract_false ns c with ⟨-, hadd⟩ | ⟨clash, -, hrecord⟩
  · exact .inl ⟨_, hadd⟩
  · exact .inr ⟨_, ⟨clash, rfl⟩, hrecord⟩

/-- **A run of claims moves entries**, if each claim adds its item to the report or records an error
instead.  What is kept does not depend on what the report held before. -/
theorem foldlM_moves {α : Type} (add : Report → List α → Report)
    {step : Namespace × Report → α → Except SourceError (Namespace × Report)}
    {because : α → SourceError → Prop}
    (hstep : ∀ ns x, (∃ ns', ∀ r, step (ns, r) x = .ok (ns', add r [x])) ∨
      ∃ e, because x e ∧ ∀ r, step (ns, r) x = .ok (ns, r.extend [] [e]))
    (hnil : ∀ r, add r [] = r) (hcons : ∀ r x xs, add (add r [x]) xs = add r (x :: xs))
    (hextend : ∀ r xs es, add (r.extend [] es) xs = (add r xs).extend [] es)
    (xs : List α) (ns : Namespace) :
    ∃ ns' kept es, Moves because xs kept es ∧
      ∀ r, xs.foldlM step (ns, r) = .ok (ns', (add r kept).extend [] es) := by
  induction xs generalizing ns with
  | nil =>
      refine ⟨ns, [], [], .nil, fun r => ?_⟩
      rw [hnil, extend_nil]
      rfl
  | cons x xs ih =>
      rcases hstep ns x with ⟨mid, hadd⟩ | ⟨e, hbecause, hrecord⟩
      · obtain ⟨ns', kept, es, hmoves, hrun⟩ := ih mid
        refine ⟨ns', x :: kept, es, .keep hmoves, fun r => ?_⟩
        rw [List.foldlM_cons, hadd]
        refine (hrun _).trans ?_
        rw [hcons]
      · obtain ⟨ns', kept, es, hmoves, hrun⟩ := ih ns
        refine ⟨ns', kept, e :: es, .move hbecause hmoves, fun r => ?_⟩
        rw [List.foldlM_cons, hrecord]
        refine (hrun _).trans ?_
        rw [hextend, extend_extend]
        rfl

theorem exists_foldlM_claimTable (ts : Tables) (ns : Namespace) :
    ∃ ns' kept es, Moves tableClashed ts kept es ∧
      ∀ r, ts.foldlM (claimTable false) (ns, r) = .ok (ns', (r.addTables kept).extend [] es) :=
  foldlM_moves addTables claimTable_moves (fun r => by simp [addTables])
    (fun r x xs => by simp [addTables]) (fun r xs es => rfl) ts ns

theorem exists_foldlM_claimContract (cs : List Contract) (ns : Namespace) :
    ∃ ns' kept es, Moves statementClashed cs kept es ∧
      ∀ r, cs.foldlM (claimContract false) (ns, r) = .ok (ns', r.extend kept es) := by
  obtain ⟨ns', kept, es, hmoves, hrun⟩ := foldlM_moves (fun r cs => r.extend cs [])
    claimContract_moves extend_nil (fun r x xs => by rw [extend_extend]; rfl)
    (fun r xs es => by simp [extend_extend]) cs ns
  refine ⟨ns', kept, es, hmoves, fun r => (hrun r).trans ?_⟩
  rw [extend_extend, List.append_nil, List.nil_append]

/-- **What claiming all names does to a report**: it moves tables and statements to the errors. -/
theorem exists_claimAll (d : Dialect) (r : Report) :
    ∃ tables tableErrors statements statementErrors,
      Moves tableClashed r.tables tables tableErrors ∧
      Moves statementClashed r.statements statements statementErrors ∧
      r.claimAll d false = .ok
        { statements, tables
          errors := r.errors ++ tableErrors ++ statementErrors
          log := r.log ++ (tableErrors ++ statementErrors).map .skipping } := by
  obtain ⟨ns, tables, tableErrors, htables, hrunTables⟩ :=
    exists_foldlM_claimTable r.tables (.initial d)
  obtain ⟨ns', statements, statementErrors, hstatements, hrunStatements⟩ :=
    exists_foldlM_claimContract r.statements ns
  refine ⟨tables, tableErrors, statements, statementErrors, htables, hstatements, ?_⟩
  unfold claimAll
  refine bind_eq_ok_iff.2 ⟨_, hrunTables _, bind_eq_ok_iff.2 ⟨_, hrunStatements _, ?_⟩⟩
  simp [extend, addTables, pure, Except.pure]

end Report

end SqlContract
