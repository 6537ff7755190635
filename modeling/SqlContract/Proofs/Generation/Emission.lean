/-
When a module can be written, and what its text depends on.

What is kept of a source has bound its names already, so binding them again for the module succeeds.
One thing is left that can go wrong: a placeholder that binds no parameter.  The text of a module does
not tell on which lines its statements stand.

Main definitions:

* `Report.claimNames` — claiming that tells which names are bound;
* `Contract.arguments?` — the parameters of a statement as an engine binds them;
* `Module.whole` — the module of tables and statements that can all be bound;
* `Contract.unplaced` — a contract without its line.

Main results:

* `Report.namespaceOf_of_claimNames` — what is kept can bind its names again;
* `Module.ofContracts_eq` — **when a module is written, and which**;
* `Module.text_whole_unplaced` — **the text of a module does not depend on lines**;
* `Contract.arguments?_eq_none_iff` — **the one way in which a statement cannot be bound**.
-/

import SqlContract.Generation
import SqlContract.Proofs.Headed.Statement
import SqlContract.Proofs.Remote.Binding

set_option autoImplicit false
set_option relaxedAutoImplicit false

namespace SqlContract

/-! ### Steps that can fail -/

section

variable {ε α β : Type}

theorem map_eq_ok_iff {x : Except ε α} {f : α → β} {b : β} :
    x.map f = .ok b ↔ ∃ a, x = .ok a ∧ f a = b := by
  cases x with
  | error e => simp [Except.map]
  | ok a => simp [Except.map]

/-- A result that shows something. -/
theorem exists_ok_of_map_toOption {x : Except ε α} {f : α → β} {b : β}
    (h : x.toOption.map f = some b) : ∃ a, x = .ok a ∧ f a = b := by
  cases x with
  | error e => simp [Except.toOption] at h
  | ok a => exact ⟨a, rfl, Option.some.inj h⟩

/-- What every step keeps, a run keeps. -/
theorem foldlM_preserves {f : β → α → Except ε β} {P : β → Prop}
    (step : ∀ b x b', P b → f b x = .ok b' → P b') {xs : List α} {b b' : β} (h : P b)
    (hrun : xs.foldlM f b = .ok b') : P b' := by
  induction xs generalizing b with
  | nil => exact Except.ok.inj hrun ▸ h
  | cons x xs ih =>
      rw [List.foldlM_cons] at hrun
      obtain ⟨mid, hmid, hrun⟩ := bind_eq_ok_iff.1 hrun
      exact ih (step b x mid h hmid) hrun

theorem foldlM_concat {f : β → α → Except ε β} {xs : List α} {x : α} {b b' b'' : β}
    (h : xs.foldlM f b = .ok b') (hx : f b' x = .ok b'') :
    (xs ++ [x]).foldlM f b = .ok b'' := by
  rw [List.foldlM_append, h]
  show f b' x >>= pure = .ok b''
  rw [hx]
  rfl

theorem mapM_eq_ok_iff {f : α → Except ε β} {xs : List α} {ys : List β} :
    xs.mapM f = .ok ys ↔ List.Forall₂ (fun x y => f x = .ok y) xs ys := by
  induction xs generalizing ys with
  | nil =>
      rw [List.mapM_nil, List.forall₂_nil_left_iff]
      exact ⟨fun h => (Except.ok.inj h).symm, fun h => congrArg Except.ok h.symm⟩
  | cons x xs ih =>
      simp only [List.mapM_cons, bind_eq_ok_iff, List.forall₂_cons_left_iff, ih]
      constructor
      · rintro ⟨y, hy, ys, hys, h⟩
        exact ⟨y, ys, hy, hys, (Except.ok.inj h).symm⟩
      · rintro ⟨y, ys, hy, hys, rfl⟩
        exact ⟨y, hy, ys, hys, rfl⟩

theorem exists_of_mem_mapM_ok {f : α → Except ε β} {xs : List α} {ys : List β}
    (h : xs.mapM f = .ok ys) {y : β} (hy : y ∈ ys) : ∃ x ∈ xs, f x = .ok y := by
  induction mapM_eq_ok_iff.1 h with
  | nil => simp at hy
  | @cons x z xs _ hx hxs ih =>
      rcases List.mem_cons.1 hy with rfl | hy
      · exact ⟨x, List.mem_cons_self, hx⟩
      · obtain ⟨w, hw, hwy⟩ := ih (mapM_eq_ok_iff.2 hxs) hy
        exact ⟨w, List.mem_cons_of_mem x hw, hwy⟩

theorem exists_ok_of_mem_mapM {f : α → Except ε β} {xs : List α} {ys : List β}
    (h : xs.mapM f = .ok ys) {x : α} (hx : x ∈ xs) : ∃ y ∈ ys, f x = .ok y := by
  induction mapM_eq_ok_iff.1 h with
  | nil => simp at hx
  | @cons w y xs ys hy hxs ih =>
      rcases List.mem_cons.1 hx with rfl | hx
      · exact ⟨y, List.mem_cons_self, hy⟩
      · obtain ⟨z, hz, hxz⟩ := ih (mapM_eq_ok_iff.2 hxs) hx
        exact ⟨z, List.mem_cons_of_mem y hz, hxz⟩

/-- A step that fails in one way only fails for a list when it fails for one of its members. -/
theorem mapM_eq_ite {f : α → Except ε β} {P : α → Prop} [DecidablePred P] {e : ε} {g : α → β}
    {xs : List α} (h : ∀ x ∈ xs, f x = if P x then .error e else .ok (g x)) :
    xs.mapM f = if ∃ x ∈ xs, P x then .error e else .ok (xs.map g) := by
  induction xs with
  | nil => rfl
  | cons x xs ih =>
      rw [List.mapM_cons, h x List.mem_cons_self, ih fun y hy => h y (List.mem_cons_of_mem x hy)]
      simp only [List.exists_mem_cons_iff]
      by_cases hx : P x
      · rw [if_pos hx, if_pos (Or.inl hx)]
        rfl
      · by_cases hxs : ∃ y ∈ xs, P y
        · rw [if_neg hx, if_pos hxs, if_pos (Or.inr hxs)]
          rfl
        · rw [if_neg hx, if_neg hxs, if_neg (not_or.2 ⟨hx, hxs⟩)]
          rfl

end

/-! ### Names are bound twice -/

namespace Report

variable {d : Dialect} {strict : Bool} {r r' : Report}

theorem tables_of_record {e : SourceError} (h : r.record strict e = .ok r') :
    r'.tables = r.tables := by
  unfold record at h
  split_ifs at h
  rw [← Except.ok.inj h]

theorem tables_of_add {c : Contract} (h : r.add strict c = .ok r') : r'.tables = r.tables := by
  unfold add at h
  split_ifs at h
  · exact tables_of_record h
  · rw [← Except.ok.inj h]

/-- What claiming the name of a table does to the bound names and to the report. -/
theorem claimTable_cases {state state' : Namespace × Report} {entry : String × Table}
    (h : claimTable strict state entry = .ok state') :
    state'.2.statements = state.2.statements ∧
      (state.1.claimTable entry.2 = .ok state'.1 ∧ state'.2.tables = state.2.tables ++ [entry] ∨
        state'.1 = state.1 ∧ state'.2.tables = state.2.tables) := by
  unfold claimTable at h
  split at h
  · rename_i ns hns
    rw [← Except.ok.inj h]
    exact ⟨rfl, .inl ⟨hns, rfl⟩⟩
  · obtain ⟨q, hq, rfl⟩ := map_eq_ok_iff.1 h
    exact ⟨Headed.statements_of_record hq, .inr ⟨rfl, tables_of_record hq⟩⟩

/-- What claiming the names of a statement does to the bound names and to the report. -/
theorem claimContract_cases {state state' : Namespace × Report} {c : Contract}
    (h : claimContract strict state c = .ok state') :
    state'.2.tables = state.2.tables ∧
      (state.1.claimContract c = .ok state'.1 ∧ state'.2.statements = state.2.statements ++ [c] ∨
        state'.1 = state.1 ∧ state'.2.statements = state.2.statements) := by
  unfold claimContract at h
  split at h
  · rename_i ns hns
    rw [← Except.ok.inj h]
    exact ⟨rfl, .inl ⟨hns, rfl⟩⟩
  · obtain ⟨q, hq, rfl⟩ := map_eq_ok_iff.1 h
    exact ⟨tables_of_record hq, .inr ⟨rfl, Headed.statements_of_record hq⟩⟩

/-- The names that are bound in a run are those of what it keeps, where each step binds the names of
one thing and keeps it, or does neither. -/
theorem foldlM_binds {α β : Type} {claim : Namespace → α → Except SourceError Namespace}
    {step : Namespace × Report → β → Except SourceError (Namespace × Report)} (item : β → α)
    (kept : Report → List α)
    (hstep : ∀ state x state', step state x = .ok state' →
      claim state.1 (item x) = .ok state'.1 ∧ kept state'.2 = kept state.2 ++ [item x] ∨
        state'.1 = state.1 ∧ kept state'.2 = kept state.2)
    {start ns : Namespace} {xs : List β} (hr : kept r = [])
    (h : xs.foldlM step (start, r) = .ok (ns, r')) : (kept r').foldlM claim start = .ok ns := by
  refine foldlM_preserves (P := fun state : Namespace × Report =>
    (kept state.2).foldlM claim start = .ok state.1) ?_ (by rw [hr]; rfl) h
  intro state x state' hbinds hx
  rcases hstep state x state' hx with ⟨hclaim, hkept⟩ | ⟨hns, hkept⟩
  · rw [hkept]
    exact foldlM_concat hbinds hclaim
  · rw [hkept, hns]
    exact hbinds

/-- Claims the names of the tables and the statements of a report, and tells which names are bound. -/
def claimNames (d : Dialect) (strict : Bool) (r : Report) : Except SourceError (Namespace × Report) := do
  let start := (Namespace.initial d, { r with tables := [], statements := [] })
  let state ← r.tables.foldlM (claimTable strict) start
  r.statements.foldlM (claimContract strict) state

theorem claimAll_eq_map (d : Dialect) (strict : Bool) (r : Report) :
    r.claimAll d strict = (r.claimNames d strict).map (·.2) := by
  unfold claimAll claimNames
  dsimp only
  cases r.tables.foldlM (claimTable strict) (.initial d, { r with tables := [], statements := [] }) with
  | error e => rfl
  | ok state =>
      show (r.statements.foldlM (claimContract strict) state >>= fun last => .ok last.2) =
        (r.statements.foldlM (claimContract strict) state).map (·.2)
      cases r.statements.foldlM (claimContract strict) state <;> rfl

/-- **What is kept binds its names again**, and nothing else is bound. -/
theorem namespaceOf_of_claimNames {ns : Namespace} (h : r.claimNames d strict = .ok (ns, r')) :
    Module.namespaceOf d (r'.tables.map (·.2)) r'.statements = .ok ns := by
  unfold claimNames at h
  obtain ⟨⟨mid, q⟩, htables, hstatements⟩ := bind_eq_ok_iff.1 h
  have hempty : q.statements = [] := foldlM_preserves
    (P := fun state : Namespace × Report => state.2.statements = [])
    (fun _ _ _ hs hstep => (claimTable_cases hstep).1.trans hs) rfl htables
  have hsame : r'.tables = q.tables := foldlM_preserves
    (P := fun state : Namespace × Report => state.2.tables = q.tables)
    (fun _ _ _ ht hstep => (claimContract_cases hstep).1.trans ht) rfl hstatements
  have hbinds : (q.tables.map (·.2)).foldlM Namespace.claimTable (.initial d) = .ok mid := by
    refine foldlM_binds (·.2) (fun r => r.tables.map (·.2)) (fun state entry state' hstep => ?_) rfl
      htables
    rcases (claimTable_cases hstep).2 with ⟨hclaim, hkept⟩ | ⟨hns, hkept⟩
    · exact .inl ⟨hclaim, by rw [hkept, List.map_append]; rfl⟩
    · exact .inr ⟨hns, by rw [hkept]⟩
  have hbinds' : r'.statements.foldlM Namespace.claimContract mid = .ok ns :=
    foldlM_binds id (·.statements) (fun _ _ _ hstep => (claimContract_cases hstep).2) hempty
      hstatements
  unfold Module.namespaceOf
  rw [hsame]
  exact bind_eq_ok_iff.2 ⟨mid, hbinds, hbinds'⟩

theorem exists_namespaceOf (h : r.claimAll d strict = .ok r') :
    ∃ ns, Module.namespaceOf d (r'.tables.map (·.2)) r'.statements = .ok ns := by
  rw [claimAll_eq_map] at h
  obtain ⟨⟨ns, q⟩, hrun, rfl⟩ := map_eq_ok_iff.1 h
  exact ⟨ns, namespaceOf_of_claimNames hrun⟩

end Report

/-! ### Arguments -/

/-- The parameters of a statement as an engine binds them. -/
def Contract.arguments? (d : Dialect) (c : Contract) : Option (List Parameter) :=
  match d with
  | .localSync => some c.parameters
  | .remoteAsync => c.pick? (Sql.placeholderIndexes c.sql.toList)

/-- The conventions of a statement bind the same arguments. -/
theorem Contract.accessor_eq (d : Dialect) (c : Contract) (v : Convention) :
    c.accessor d v =
      if c.arguments? d = none then .error .unboundPlaceholder
      else .ok ⟨d, v, c, (c.arguments? d).getD []⟩ := by
  have hof : Accessor.ofContract? d v c = (c.arguments? d).map fun args => ⟨d, v, c, args⟩ := by
    cases d <;> rfl
  unfold Contract.accessor
  rw [hof]
  cases c.arguments? d <;> rfl

/-- Whether a placeholder of the statement has the number zero, and there is no parameter. -/
def Contract.BindsZero (c : Contract) : Prop :=
  c.parameters = [] ∧ 0 ∈ Sql.placeholderNumbers c.sql.toList

instance (c : Contract) : Decidable c.BindsZero :=
  inferInstanceAs (Decidable (_ ∧ _))

namespace Sql

/-- A position before a number up to the length lies in a list, also that before zero, which is the
last, unless the list has no items. -/
theorem item?_eq_none_iff {α : Type} {items : List α} {n : Nat} (h : n ≤ items.length) :
    item? items ((n : Int) - 1) = none ↔ items = [] ∧ n = 0 := by
  by_cases hn : n = 0
  · subst hn
    cases items with
    | nil => simp [item?]
    | cons x xs => simp [item?]
  · rw [item?_pred items (Nat.pos_of_ne_zero hn), List.getElem?_eq_none_iff]
    constructor
    · intro hle
      omega
    · rintro ⟨-, rfl⟩
      exact absurd rfl hn

theorem arrange?_eq_none_iff {α : Type} {items : List α} {order : List Int} :
    arrange? items order = none ↔ ∃ i ∈ order, item? items i = none := by
  unfold arrange?
  induction order with
  | nil => simp
  | cons i order ih =>
      rw [List.mapM_cons, List.exists_mem_cons_iff, ← ih]
      cases item? items i with
      | none => simp
      | some x => cases order.mapM (item? items) <;> simp

end Sql

namespace Contract

variable {c : Contract}

/-- **The one way in which a statement cannot be bound**: a placeholder numbered zero where there is no
parameter. -/
theorem arguments?_eq_none_iff (h : Sql.placeholderCount c.sql.toList = c.parameters.length)
    (d : Dialect) : c.arguments? d = none ↔ d = .remoteAsync ∧ c.BindsZero := by
  cases d with
  | localSync => simp [arguments?]
  | remoteAsync =>
      have hitem : ∀ n ∈ Sql.placeholderNumbers c.sql.toList,
          Sql.item? c.parameters ((n : Int) - 1) = none ↔ c.parameters = [] ∧ n = 0 := fun n hn =>
        Sql.item?_eq_none_iff (h ▸ Sql.le_placeholderCount hn)
      unfold arguments? pick? BindsZero Sql.placeholderIndexes
      rw [Sql.arrange?_eq_none_iff]
      constructor
      · rintro ⟨i, hi, hnone⟩
        obtain ⟨n, hn, rfl⟩ := List.mem_map.1 hi
        obtain ⟨hempty, rfl⟩ := (hitem n hn).1 hnone
        exact ⟨rfl, hempty, hn⟩
      · rintro ⟨-, hempty, hzero⟩
        exact ⟨_, List.mem_map.2 ⟨0, hzero, rfl⟩, (hitem 0 hzero).2 ⟨hempty, rfl⟩⟩

end Contract

/-! ### Writing -/

/-- The parts of a statement whose arguments can be bound. -/
def Contract.parts (d : Dialect) (tables : Tables) (conventions : List Convention) (c : Contract) :
    List Part :=
  c.shapes tables ++ conventions.map fun v => .accessor ⟨d, v, c, (c.arguments? d).getD []⟩

namespace Module

variable {d : Dialect} {tables : Tables} {conventions : List Convention}

theorem contractParts_eq (c : Contract) :
    contractParts d tables (conventions.map .ok) c =
      if conventions ≠ [] ∧ c.arguments? d = none then .error .unboundPlaceholder
      else .ok (c.parts d tables conventions) := by
  have haccessors : (conventions.map Except.ok).mapM (fun v => do c.accessor d (← v)) =
      if ∃ v ∈ conventions, c.arguments? d = none then .error .unboundPlaceholder
      else .ok (conventions.map fun v => ⟨d, v, c, (c.arguments? d).getD []⟩) := by
    rw [List.mapM_map]
    exact mapM_eq_ite fun v _ => c.accessor_eq d v
  unfold contractParts
  rw [haccessors]
  by_cases hc : ∃ v ∈ conventions, c.arguments? d = none
  · obtain ⟨v, hv, hnone⟩ := id hc
    rw [if_pos hc, if_pos ⟨List.ne_nil_of_mem hv, hnone⟩]
    rfl
  · have hnot : ¬ (conventions ≠ [] ∧ c.arguments? d = none) := by
      rintro ⟨hne, hnone⟩
      obtain ⟨v, hv⟩ := List.exists_mem_of_ne_nil _ hne
      exact hc ⟨v, hv, hnone⟩
    rw [if_neg hc, if_neg hnot]
    simp [Contract.parts, bind, Except.bind, pure, Except.pure]

/-- The module of tables and statements whose names and arguments can all be bound. -/
def whole (d : Dialect) (header : String) (tables : Tables) (conventions : List Convention)
    (contracts : List Contract) : Module :=
  ⟨[.opening header d] ++
    (if d.helpers.isEmpty then [] else [.helpers d]) ++
    (if contracts.isEmpty then [] else [.constants (contracts.map (·.constant d))]) ++
    (tables.map (·.2)).map Table.part ++
    contracts.flatMap (·.parts d tables conventions)⟩

/-- **When a module is written, and which.**  Where the names can be bound, only an accessor whose
arguments cannot be bound is an error. -/
theorem ofContracts_eq (header : String) (conventions : List Convention)
    {contracts : List Contract} {ns : Namespace}
    (h : namespaceOf d (tables.map (·.2)) contracts = .ok ns) :
    ofContracts d header tables conventions contracts =
      if conventions ≠ [] ∧ ∃ c ∈ contracts, c.arguments? d = none then .error .unboundPlaceholder
      else .ok (whole d header tables conventions contracts) := by
  have hparts : contracts.mapM (contractParts d tables (conventions.map .ok)) =
      if ∃ c ∈ contracts, conventions ≠ [] ∧ c.arguments? d = none then .error .unboundPlaceholder
      else .ok (contracts.map (·.parts d tables conventions)) :=
    mapM_eq_ite fun c _ => contractParts_eq c
  have hcond : (∃ c ∈ contracts, conventions ≠ [] ∧ c.arguments? d = none) ↔
      conventions ≠ [] ∧ ∃ c ∈ contracts, c.arguments? d = none := by
    constructor
    · rintro ⟨c, hc, hne, hnone⟩
      exact ⟨hne, c, hc, hnone⟩
    · rintro ⟨hne, c, hc, hnone⟩
      exact ⟨c, hc, hne, hnone⟩
  unfold ofContracts build
  dsimp only
  rw [h, hparts]
  simp only [hcond]
  by_cases hunbound : conventions ≠ [] ∧ ∃ c ∈ contracts, c.arguments? d = none
  · rw [if_pos hunbound, if_pos hunbound]
    rfl
  · rw [if_neg hunbound, if_neg hunbound]
    rfl

end Module

/-- **When a module is generated, and which.** -/
theorem generate_eq {config : Config} {summary : Report → LogLine} {r r' : Report}
    (h : r.claimAll config.dialect config.strict = .ok r') :
    generate config summary r =
      if config.conventions ≠ [] ∧ ∃ c ∈ r'.statements, c.arguments? config.dialect = none then
        .error .unboundPlaceholder
      else
        .ok ⟨(Module.whole config.dialect config.header r'.tables config.conventions
          r'.statements).text, { r' with log := r'.log ++ [summary r'] }⟩ := by
  obtain ⟨ns, hns⟩ := Report.exists_namespaceOf h
  have hmodule := Module.ofContracts_eq config.header config.conventions hns
  unfold generate
  rw [h]
  show (Module.ofContracts config.dialect config.header r'.tables config.conventions
    r'.statements >>= fun m => .ok (Generated.mk m.text { r' with log := r'.log ++ [summary r'] })) = _
  rw [hmodule]
  split_ifs
  · rfl
  · rfl

/-! ### Lines -/

/-- A contract without its line. -/
def Contract.unplaced (c : Contract) : Contract :=
  { c with line := none }

/-- The text of the parts of a statement does not depend on its line. -/
theorem Contract.map_text_parts_unplaced (d : Dialect) (tables : Tables)
    (conventions : List Convention) (c : Contract) :
    (c.unplaced.parts d tables conventions).map Part.text =
      (c.parts d tables conventions).map Part.text := by
  have haccessor : ∀ v args, (Part.accessor ⟨d, v, c.unplaced, args⟩).text =
      (Part.accessor ⟨d, v, c, args⟩).text := fun _ _ => rfl
  have hshapes : c.unplaced.shapes tables = c.shapes tables := rfl
  have hargs : c.unplaced.arguments? d = c.arguments? d := rfl
  unfold Contract.parts
  rw [hshapes, hargs, List.map_append, List.map_append, List.map_map, List.map_map]
  refine congrArg (_ ++ ·) (List.map_congr_left fun v _ => ?_)
  exact haccessor v _

/-- **The text of a module does not depend on the lines of its statements.** -/
theorem Module.text_whole_unplaced (d : Dialect) (header : String) (tables : Tables)
    (conventions : List Convention) (contracts : List Contract) :
    (whole d header tables conventions (contracts.map (·.unplaced))).text =
      (whole d header tables conventions contracts).text := by
  have hconstants : (contracts.map (·.unplaced)).map (·.constant d) =
      contracts.map (·.constant d) := by
    rw [List.map_map]
    rfl
  have hparts : ((contracts.map (·.unplaced)).flatMap (·.parts d tables conventions)).map Part.text =
      (contracts.flatMap (·.parts d tables conventions)).map Part.text := by
    rw [List.map_flatMap, List.map_flatMap, List.flatMap_map]
    exact List.flatMap_congr fun c _ => c.map_text_parts_unplaced d tables conventions
  have hempty : (contracts.map (·.unplaced)).isEmpty = contracts.isEmpty := List.isEmpty_map
  simp only [whole, text, List.map_append, hconstants, hempty, hparts]

end SqlContract
