/-
Which tables and statements keep their names.

Names are claimed one thing after the other, tables before statements, and the first claim of a name
stays.  A thing is left out exactly if one of its names is not free when its turn comes, and what is
left out has no say in what comes after it.  So what is left can be claimed again for the module, and
leaving out the same things beforehand changes nothing.

Main definitions:

* `Dialect.Reserves` — the names that nothing in a module can claim;
* `Keeps` — which of some things keep their names, one thing after the other;
* `Report.claimInPlace` — claiming that strikes out of the report what it leaves out;
* `Report.ClaimsTo` — what is left of a report when all names are claimed.

Main results:

* `Keeps.not_mem_iff` — **what is left out, told from what is kept before it**;
* `Keeps.restrict` — what is left out has no say;
* `Report.exists_foldlM_keeps` — **a run of claims keeps what it should**;
* `Report.claimInPlace_eq` — striking out leaves what taking in leaves;
* `Report.claimInPlace_claimsTo` — **what claiming all names leaves of a report**.
-/

import SqlContract.Proofs.Emit.Names
import SqlContract.Proofs.Generation.Claims
import SqlContract.Proofs.Generation.Emission

set_option autoImplicit false
set_option relaxedAutoImplicit false

namespace SqlContract

open Text

/-- Whether nothing in a module can claim a name: it is a keyword, or the fixed parts of the module
bind or use it. -/
def Dialect.Reserves (d : Dialect) (name : String) : Prop :=
  isKeyword name = true ∨ name ∈ sharedNames ∨ name ∈ d.reserved

instance (d : Dialect) (name : String) : Decidable (d.Reserves name) :=
  inferInstanceAs (Decidable (_ ∨ _))

/-! ### Things that claim names -/

section

variable {α : Type} {d : Dialect} {made : α → List String} {claimed : List String} {xs kept : List α}

/-- Which of some things keep their names where others are `claimed` before: a thing claims all that
are `made` for it if none of them is reserved or claimed, and claims nothing elsewhere. -/
inductive Keeps (d : Dialect) (made : α → List String) : List String → List α → List α → Prop
  | nil {claimed : List String} : Keeps d made claimed [] []
  | keep {claimed : List String} {x : α} {xs kept : List α} :
      (∀ n ∈ made x, ¬ d.Reserves n ∧ n ∉ claimed) → Keeps d made (claimed ++ made x) xs kept →
      Keeps d made claimed (x :: xs) (x :: kept)
  | drop {claimed : List String} {x : α} {xs kept : List α} :
      (∃ n ∈ made x, d.Reserves n ∨ n ∈ claimed) → Keeps d made claimed xs kept →
      Keeps d made claimed (x :: xs) kept

namespace Keeps

theorem sublist (h : Keeps d made claimed xs kept) : kept.Sublist xs := by
  induction h with
  | nil => exact .slnil
  | keep _ _ ih => exact ih.cons_cons _
  | drop _ _ ih => exact ih.cons _

theorem exists_kept_cons_iff {z : α} {before kept : List α} {P : α → Prop} :
    (∃ y ∈ z :: before, y ∈ z :: kept ∧ P y) ↔ P z ∨ ∃ y ∈ before, y ∈ kept ∧ P y := by
  constructor
  · rintro ⟨y, hy, hkept, hP⟩
    rcases List.mem_cons.1 hy with rfl | hy
    · exact .inl hP
    · rcases List.mem_cons.1 hkept with rfl | hkept
      · exact .inl hP
      · exact .inr ⟨y, hy, hkept, hP⟩
  · rintro (hP | ⟨y, hy, hkept, hP⟩)
    · exact ⟨z, List.mem_cons_self, List.mem_cons_self, hP⟩
    · exact ⟨y, List.mem_cons_of_mem z hy, List.mem_cons_of_mem z hkept, hP⟩

/-- **What is left out, told from what is kept before it.** -/
theorem not_mem_iff (h : Keeps d made claimed xs kept) (hnodup : xs.Nodup) {before behind : List α}
    {x : α} (hx : xs = before ++ x :: behind) :
    x ∉ kept ↔ ∃ n ∈ made x, d.Reserves n ∨ n ∈ claimed ∨
      ∃ y ∈ before, y ∈ kept ∧ n ∈ made y := by
  -- along the things before `x`; each that is kept adds its names to those that are claimed
  induction h generalizing before with
  | nil => simp at hx
  | @keep claimed z xs kept hfree hrest ih =>
      obtain ⟨hz, hnodup⟩ := List.nodup_cons.1 hnodup
      cases before with
      | nil =>
          obtain ⟨rfl, rfl⟩ := List.cons.inj hx
          constructor
          · intro hno
            exact absurd List.mem_cons_self hno
          · rintro ⟨n, hn, hreserved | hclaimed | ⟨y, hy, -⟩⟩
            · exact absurd hreserved (hfree n hn).1
            · exact absurd hclaimed (hfree n hn).2
            · simp at hy
      | cons y before =>
          obtain ⟨rfl, rfl⟩ := List.cons.inj hx
          have hne : x ≠ z := by
            rintro rfl
            exact hz (by simp)
          rw [List.mem_cons, not_or, and_iff_right hne, ih hnodup rfl]
          refine exists_congr fun n => and_congr_right fun _ => or_congr_right ?_
          rw [exists_kept_cons_iff, List.mem_append, or_assoc]
  | @drop claimed z xs kept htaken hrest ih =>
      obtain ⟨hz, hnodup⟩ := List.nodup_cons.1 hnodup
      have hzkept : z ∉ kept := fun hm => hz (hrest.sublist.subset hm)
      cases before with
      | nil =>
          obtain ⟨rfl, rfl⟩ := List.cons.inj hx
          obtain ⟨n, hn, htaken⟩ := htaken
          exact iff_of_true hzkept ⟨n, hn, htaken.imp_right .inl⟩
      | cons y before =>
          obtain ⟨rfl, rfl⟩ := List.cons.inj hx
          rw [ih hnodup rfl]
          refine exists_congr fun n => and_congr_right fun _ => or_congr_right (or_congr_right ?_)
          rw [List.exists_mem_cons_iff]
          simp [hzkept]

/-- **What is left out has no say**: without some of it the same is kept. -/
theorem restrict (h : Keeps d made claimed xs kept) (hnodup : xs.Nodup) {ys : List α}
    (hkept : kept.Sublist ys) (hys : ys.Sublist xs) : Keeps d made claimed ys kept := by
  induction h generalizing ys with
  | nil =>
      rw [List.sublist_nil.1 hys]
      exact .nil
  | @keep claimed z xs kept hfree hrest ih =>
      obtain ⟨hz, hnodup⟩ := List.nodup_cons.1 hnodup
      cases hys with
      | cons _ hys => exact absurd (hys.subset (hkept.subset List.mem_cons_self)) hz
      | cons_cons _ hys => exact .keep hfree (ih hnodup (List.cons_sublist_cons.1 hkept) hys)
  | @drop claimed z xs kept htaken hrest ih =>
      obtain ⟨hz, hnodup⟩ := List.nodup_cons.1 hnodup
      cases hys with
      | cons _ hys => exact ih hnodup hkept hys
      | cons_cons _ hys =>
          refine .drop htaken (ih hnodup ?_ hys)
          cases hkept with
          | cons _ hkept => exact hkept
          | cons_cons _ _ => exact absurd (hrest.sublist.subset List.mem_cons_self) hz

/-- Two lists that are kept of the same things are one. -/
theorem unique (h : Keeps d made claimed xs kept) {kept' : List α}
    (h' : Keeps d made claimed xs kept') : kept = kept' := by
  induction h generalizing kept' with
  | nil =>
      cases h'
      rfl
  | @keep claimed z xs kept hfree _ ih =>
      cases h' with
      | keep _ hrest => rw [ih hrest]
      | drop htaken _ =>
          obtain ⟨n, hn, hno⟩ := htaken
          exact absurd hno (not_or.2 (hfree n hn))
  | @drop claimed z xs kept htaken _ ih =>
      cases h' with
      | keep hfree _ =>
          obtain ⟨n, hn, hno⟩ := htaken
          exact absurd hno (not_or.2 (hfree n hn))
      | drop _ hrest => exact ih hrest

end Keeps

end

/-! ### Modules whose names cannot be claimed -/

/-- Only names that cannot be claimed are an error of the source when a module is built. -/
theorem Module.namespaceOf_of_build {d : Dialect} {header : String} {tables : Tables}
    {conventions : List String} {contracts : List Contract} {e : SourceError}
    (h : build d header tables (conventions.map EmitError.readConvention) contracts =
      .error (.source e)) : ∃ e', namespaceOf d (tables.map (·.2)) contracts = .error e' := by
  unfold build at h
  rcases bind_eq_error_iff.1 h with hnames | ⟨ns, -, hparts⟩
  · obtain ⟨e', he, -⟩ := mapError_eq_error_iff.1 hnames
    exact ⟨e', he⟩
  · -- the parts of a statement fail for a convention or a placeholder, not for the source
    rcases bind_eq_error_iff.1 hparts with hparts | ⟨parts, -, hdone⟩
    · obtain ⟨c, -, hc⟩ := exists_of_mapM_error hparts
      unfold contractParts at hc
      rcases bind_eq_error_iff.1 hc with haccessors | ⟨accessors, -, hdone⟩
      · obtain ⟨v, hv, hfail⟩ := exists_of_mapM_error haccessors
        obtain ⟨word, -, rfl⟩ := List.mem_map.1 hv
        unfold EmitError.readConvention Contract.accessor at hfail
        rcases bind_eq_error_iff.1 hfail with hword | ⟨v, -, haccessor⟩
        · split at hword <;> cases hword
        · split at haccessor <;> cases haccessor
      · cases hdone
    · cases hdone

/-! ### Runs of claims -/

namespace Namespace

variable {d : Dialect} {claimed names : List String} {ns : Namespace}

/-- Names can be claimed behind others exactly if none of them is reserved or claimed. -/
theorem Holds.clash?_eq_none_iff (h : Holds d claimed ns) :
    ns.clash? names = none ↔ ∀ n ∈ names, ¬ d.Reserves n ∧ n ∉ claimed := by
  rw [Namespace.clash?_eq_none_iff]
  refine forall₂_congr fun n _ => ?_
  rw [h.bound, List.mem_append]
  unfold Dialect.Reserves
  cases isKeyword n with
  | true => simp
  | false => simp; tauto

end Namespace

namespace Report

variable {d : Dialect} {claimed : List String} {ns : Namespace}

/-- **A run of claims keeps what it should**, if each claim takes its thing in where its names are
free, and leaves the namespace as it was elsewhere. -/
theorem exists_foldlM_keeps {α : Type} (made : α → List String) (taken : Report → List α)
    (step : Namespace × Report → α → Except SourceError (Namespace × Report))
    (hstep : ∀ ns r x,
      (ns.clash? (made x) = none ∧ ∃ owner r', step (ns, r) x = .ok (ns.claim (made x) owner, r') ∧
        taken r' = taken r ++ [x]) ∨
      (ns.clash? (made x) ≠ none ∧ ∃ r', step (ns, r) x = .ok (ns, r') ∧ taken r' = taken r))
    (hmade : ∀ x, (made x).Nodup) (xs : List α) (h : ns.Holds d claimed) (r : Report) :
    ∃ kept ns' r', xs.foldlM step (ns, r) = .ok (ns', r') ∧ taken r' = taken r ++ kept ∧
      Keeps d made claimed xs kept ∧ ns'.Holds d (claimed ++ kept.flatMap made) := by
  induction xs generalizing claimed ns r with
  | nil =>
      refine ⟨[], ns, r, rfl, (List.append_nil _).symm, .nil, ?_⟩
      rwa [List.flatMap_nil, List.append_nil]
  | cons x xs ih =>
      rcases hstep ns r x with ⟨hfree, owner, mid, hmid, htaken⟩ | ⟨hclash, mid, hmid, htaken⟩
      · obtain ⟨kept, ns', r', hrun, htaken', hkeeps, hholds⟩ :=
          ih (h.claim hfree (hmade x) owner) mid
        refine ⟨x :: kept, ns', r', ?_, ?_, .keep (h.clash?_eq_none_iff.1 hfree) hkeeps, ?_⟩
        · rw [List.foldlM_cons, hmid]
          exact hrun
        · rw [htaken', htaken, List.append_assoc]
          rfl
        · rwa [List.flatMap_cons, ← List.append_assoc]
      · obtain ⟨kept, ns', r', hrun, htaken', hkeeps, hholds⟩ := ih h mid
        refine ⟨kept, ns', r', ?_, by rw [htaken', htaken], .drop ?_ hkeeps, hholds⟩
        · rw [List.foldlM_cons, hmid]
          exact hrun
        · have hno := mt h.clash?_eq_none_iff.2 hclash
          push Not at hno
          obtain ⟨n, hn, himp⟩ := hno
          exact ⟨n, hn, or_iff_not_imp_left.2 himp⟩

/-- What is left of a report when all names are claimed: the tables that keep theirs, and the
statements that keep theirs behind these. -/
theorem exists_claimNames_keeps (d : Dialect) (r : Report) :
    ∃ ns r', r.claimNames d false = .ok (ns, r') ∧
      Keeps d (fun e : String × Table => [e.2.typeName]) [] r.tables r'.tables ∧
      Keeps d (fun c : Contract => c.names.toList) (r'.tables.map (·.2.typeName)) r.statements
        r'.statements := by
  obtain ⟨tables, mid, q, hrunTables, htaken, htables, hmid⟩ := exists_foldlM_keeps
    (fun e : String × Table => [e.2.typeName]) (·.tables) (claimTable false)
    (fun ns r e => by
      rcases claimTable_false ns e with ⟨hfree, hstep⟩ | ⟨clash, hclash, hstep⟩
      · exact .inl ⟨hfree, _, _, hstep r, rfl⟩
      · exact .inr ⟨by simp [hclash], _, hstep r, rfl⟩)
    (fun _ => List.nodup_singleton _) r.tables (Namespace.holds_initial d)
    { r with tables := [], statements := [] }
  obtain ⟨statements, ns, r', hrunStatements, htaken', hstatements, -⟩ := exists_foldlM_keeps
    (fun c : Contract => c.names.toList) (·.statements) (claimContract false)
    (fun ns r c => by
      rcases claimContract_false ns c with ⟨hfree, hstep⟩ | ⟨clash, hclash, hstep⟩
      · exact .inl ⟨hfree, _, _, hstep r, rfl⟩
      · refine .inr ⟨by simp [hclash], _, hstep r, ?_⟩
        simp [extend])
    (fun c => Names.nodup_toList c.name) r.statements hmid q
  have hempty : q.statements = [] := foldlM_preserves
    (P := fun state : Namespace × Report => state.2.statements = [])
    (fun _ _ _ hs hstep => (claimTable_cases hstep).1.trans hs) rfl hrunTables
  have hsame : r'.tables = q.tables := foldlM_preserves
    (P := fun state : Namespace × Report => state.2.tables = q.tables)
    (fun _ _ _ ht hstep => (claimContract_cases hstep).1.trans ht) rfl hrunStatements
  rw [List.nil_append] at htaken
  rw [hempty, List.nil_append] at htaken'
  rw [List.nil_append, ← List.map_eq_flatMap] at hstatements
  refine ⟨ns, r', bind_eq_ok_iff.2 ⟨_, hrunTables, hrunStatements⟩, ?_, ?_⟩
  · rwa [hsame, htaken]
  · rwa [hsame, htaken, htaken']

/-! ### Striking out in place -/

/-- Claims the name of one table, or strikes the table out of the report. -/
def strikeTable (strict : Bool) (state : Namespace × Report) (entry : String × Table) :
    Except SourceError (Namespace × Report) :=
  match state.1.claimTable entry.2 with
  | .ok ns => .ok (ns, state.2)
  | .error e =>
      ({ state.2 with tables := state.2.tables.filter (·.1 ≠ entry.1) }.record strict e).map
        fun r => (state.1, r)

/-- Claims the names of one statement, or strikes the statement out of the report. -/
def strikeContract (strict : Bool) (state : Namespace × Report) (c : Contract) :
    Except SourceError (Namespace × Report) :=
  match state.1.claimContract c with
  | .ok ns => .ok (ns, state.2)
  | .error e =>
      ({ state.2 with statements := state.2.statements.erase c }.record strict e).map
        fun r => (state.1, r)

/-- Claims the names of all tables and statements of a report, and strikes out of the report those
whose names are taken. -/
def claimInPlace (d : Dialect) (strict : Bool) (r : Report) :
    Except SourceError (Namespace × Report) := do
  let state ← r.tables.foldlM (strikeTable strict) (Namespace.initial d, r)
  state.2.statements.foldlM (strikeContract strict) state

/-- A run from a state with all items in place is a run that takes items in, with nothing left to put
in place at its end, if this is so of each step. -/
theorem foldlM_put {ε α σ : Type} (strike take : σ → α → Except ε σ) (put : List α → σ → σ)
    (P : List α → σ → Prop)
    (hstep : ∀ x rest s, P (x :: rest) s →
      strike (put (x :: rest) s) x = (take s x).map (put rest) ∧
        ∀ s', take s x = .ok s' → P rest s')
    {xs : List α} {s : σ} (h : P xs s) :
    xs.foldlM strike (put xs s) = (xs.foldlM take s).map (put []) := by
  induction xs generalizing s with
  | nil => rfl
  | cons x xs ih =>
      obtain ⟨hstrike, hnext⟩ := hstep x xs s h
      rw [List.foldlM_cons, List.foldlM_cons, hstrike]
      cases htake : take s x with
      | error e => rfl
      | ok s' => exact ih (hnext s' htake)

theorem foldlM_strikeTable (strict : Bool) (statements : List Contract) (ts : Tables) (ns : Namespace)
    (r : Report) (h : ((r.tables ++ ts).map (·.1)).Nodup) :
    ts.foldlM (strikeTable strict) (ns, { r with tables := r.tables ++ ts, statements }) =
      (ts.foldlM (claimTable strict) (ns, r)).map fun s => (s.1, { s.2 with statements }) := by
  have hrun := foldlM_put (strikeTable strict) (claimTable strict)
    (fun rest s => (s.1, { s.2 with tables := s.2.tables ++ rest, statements }))
    (fun rest s => ((s.2.tables ++ rest).map (·.1)).Nodup) ?_ (s := (ns, r)) h
  · simpa only [List.append_nil] using hrun
  · rintro entry rest ⟨ns, r⟩ hnodup
    have hkeys : ∀ e ∈ r.tables ++ rest, e.1 ≠ entry.1 := by
      rw [List.map_append, List.map_cons] at hnodup
      intro e he heq
      have hno := (List.nodup_cons.1 (List.nodup_middle.1 hnodup)).1
      rw [← List.map_append] at hno
      exact hno (List.mem_map.2 ⟨e, he, heq⟩)
    have hfilter : (r.tables ++ entry :: rest).filter (·.1 ≠ entry.1) = r.tables ++ rest := by
      rw [List.filter_append, List.filter_cons_of_neg (by simp), ← List.filter_append]
      exact List.filter_eq_self.2 fun e he => decide_eq_true (hkeys e he)
    refine ⟨?_, fun s' hs' => ?_⟩
    · unfold strikeTable claimTable
      cases ns.claimTable entry.2 with
      | ok ns' => simp [Except.map]
      | error e =>
          dsimp only
          rw [hfilter]
          cases strict <;> simp [record, Except.map]
    · rcases (claimTable_cases hs').2 with ⟨-, hkept⟩ | ⟨-, hkept⟩
      · rwa [hkept, List.append_assoc]
      · rw [hkept]
        exact hnodup.sublist (((List.sublist_cons_self entry rest).append_left _).map _)

theorem foldlM_strikeContract (strict : Bool) (cs : List Contract) (ns : Namespace) (r : Report)
    (h : (r.statements ++ cs).Nodup) :
    cs.foldlM (strikeContract strict) (ns, { r with statements := r.statements ++ cs }) =
      cs.foldlM (claimContract strict) (ns, r) := by
  have hrun := foldlM_put (strikeContract strict) (claimContract strict)
    (fun rest s => (s.1, { s.2 with statements := s.2.statements ++ rest }))
    (fun rest s => (s.2.statements ++ rest).Nodup) ?_ (s := (ns, r)) h
  · refine hrun.trans ?_
    simp only [List.append_nil]
    cases cs.foldlM (claimContract strict) (ns, r) <;> rfl
  · rintro c rest ⟨ns, r⟩ hnodup
    have herase : (r.statements ++ c :: rest).erase c = r.statements ++ rest := by
      have hno := (List.nodup_cons.1 (List.nodup_middle.1 hnodup)).1
      rw [List.erase_append_right _ fun hc => hno (List.mem_append_left _ hc), List.erase_cons_head]
    refine ⟨?_, fun s' hs' => ?_⟩
    · unfold strikeContract claimContract
      cases ns.claimContract c with
      | ok ns' => simp [Except.map]
      | error e =>
          dsimp only
          rw [herase]
          cases strict <;> simp [record, Except.map]
    · rcases (claimContract_cases hs').2 with ⟨-, hkept⟩ | ⟨-, hkept⟩
      · rwa [hkept, List.append_assoc]
      · rw [hkept]
        exact hnodup.sublist ((List.sublist_cons_self c rest).append_left _)

/-- **Striking out leaves what taking in leaves**, where no key and no statement is there twice. -/
theorem claimInPlace_eq (d : Dialect) (strict : Bool) {r : Report} (htables : (r.tables.map (·.1)).Nodup)
    (hstatements : r.statements.Nodup) : r.claimInPlace d strict = r.claimNames d strict := by
  have hrun := foldlM_strikeTable strict r.statements r.tables (.initial d)
    { r with tables := [], statements := [] } htables
  rw [List.nil_append] at hrun
  unfold claimInPlace claimNames
  dsimp only
  rw [hrun]
  cases hclaim : r.tables.foldlM (claimTable strict)
      (.initial d, { r with tables := [], statements := [] }) with
  | error e => rfl
  | ok state =>
      obtain ⟨ns, q⟩ := state
      have hempty : q.statements = [] := foldlM_preserves
        (P := fun state : Namespace × Report => state.2.statements = [])
        (fun _ _ _ hs hstep => (claimTable_cases hstep).1.trans hs) rfl hclaim
      have hrun' := foldlM_strikeContract strict r.statements ns q
        (by rwa [hempty, List.nil_append])
      rw [hempty, List.nil_append] at hrun'
      exact hrun'

/-! ### What is left -/

/-- What is left of a report when all names are claimed. -/
structure ClaimsTo (d : Dialect) (r r' : Report) : Prop where
  /-- The tables that are left keep their order, -/
  tables_sublist : r'.tables.Sublist r.tables
  /-- and so do the statements. -/
  statements_sublist : r'.statements.Sublist r.statements
  /-- A table is left out exactly if its type name is reserved, or that of a table left before it. -/
  table_not_mem_iff : ∀ {before behind entry}, r.tables = before ++ entry :: behind →
    (entry ∉ r'.tables ↔ d.Reserves entry.2.typeName ∨
      ∃ e ∈ before, e ∈ r'.tables ∧ e.2.typeName = entry.2.typeName)
  /-- A statement is left out exactly if one of its names is reserved, or the type name of a table
  that is left, or a name of a statement left before it. -/
  statement_not_mem_iff : ∀ {before behind c}, r.statements = before ++ c :: behind →
    (c ∉ r'.statements ↔ ∃ n ∈ c.names.toList, d.Reserves n ∨
      (∃ e ∈ r'.tables, e.2.typeName = n) ∨ ∃ c' ∈ before, c' ∈ r'.statements ∧ n ∈ c'.names.toList)
  /-- No name is taken when the module of what is left is built. -/
  build_ne : ∀ (header : String) (conventions : List String) (e : SourceError),
    Module.build d header r'.tables (conventions.map EmitError.readConvention) r'.statements ≠
      .error (.source e)
  /-- What is left out has no say: with only some of it there, the same is left. -/
  restrict : ∀ q : Report, r'.tables.Sublist q.tables → q.tables.Sublist r.tables →
    r'.statements.Sublist q.statements → q.statements.Sublist r.statements →
    ∃ q', q.claimAll d false = .ok q' ∧ q'.tables = r'.tables ∧ q'.statements = r'.statements

/-- What can be told of the statements and tables that keep their names. -/
theorem claimsTo_of_keeps {d : Dialect} {r r' : Report} {ns : Namespace}
    (hns : Module.namespaceOf d (r'.tables.map (·.2)) r'.statements = .ok ns)
    (htables : Keeps d (fun e : String × Table => [e.2.typeName]) [] r.tables r'.tables)
    (hstatements : Keeps d (fun c : Contract => c.names.toList) (r'.tables.map (·.2.typeName))
      r.statements r'.statements)
    (hkeys : r.tables.Nodup) (hnodup : r.statements.Nodup) : ClaimsTo d r r' where
  tables_sublist := htables.sublist
  statements_sublist := hstatements.sublist
  table_not_mem_iff hsplit := by
    rw [htables.not_mem_iff hkeys hsplit]
    simp [eq_comm]
  statement_not_mem_iff hsplit := by
    rw [hstatements.not_mem_iff hnodup hsplit]
    simp only [List.mem_map]
  build_ne header conventions e hbuild := by
    obtain ⟨e', he⟩ := Module.namespaceOf_of_build hbuild
    rw [hns] at he
    cases he
  restrict q hleft hq hleft' hq' := by
    obtain ⟨ns', q', hrun, htables', hstatements'⟩ := exists_claimNames_keeps d q
    have heq : q'.tables = r'.tables := htables'.unique (htables.restrict hkeys hleft hq)
    rw [heq] at hstatements'
    refine ⟨q', ?_, heq, hstatements'.unique (hstatements.restrict hnodup hleft' hq')⟩
    rw [claimAll_eq_map, hrun]
    rfl

/-- **What claiming all names leaves of a report**: exactly what keeps its names, whether it is taken
in or the rest is struck out; and the names of what is left are all that is bound. -/
theorem claimInPlace_claimsTo (d : Dialect) {r : Report} (htables : (r.tables.map (·.1)).Nodup)
    (hstatements : (r.statements.map (·.name)).Nodup) :
    ∃ ns r', r.claimInPlace d false = .ok (ns, r') ∧ r.claimAll d false = .ok r' ∧
      Module.namespaceOf d (r'.tables.map (·.2)) r'.statements = .ok ns ∧ ClaimsTo d r r' := by
  obtain ⟨ns, r', hrun, hkept, hkept'⟩ := exists_claimNames_keeps d r
  have hns := namespaceOf_of_claimNames hrun
  refine ⟨ns, r', (claimInPlace_eq d false htables hstatements.of_map).trans hrun, ?_, hns,
    claimsTo_of_keeps hns hkept hkept' htables.of_map hstatements.of_map⟩
  rw [claimAll_eq_map, hrun]
  rfl

/-- Of two tables of one type name the first is left, and the last statement is left although the one
before it has record types of the same names. -/
theorem claimInPlace_claimsTo_alike :
    let exec (name : String) : Contract := ⟨name, .exec, [], [], "DELETE FROM t", none, none⟩
    let r : Report :=
      ⟨[exec "prepare_x_y", exec "x_y", exec "x__y"],
        [("any", ⟨"any", []⟩), ("getuser", ⟨"getUser", []⟩), ("get_user", ⟨"get_user", []⟩)], [], []⟩
    ∃ r', r.claimAll .localSync false = .ok r' ∧ ClaimsTo .localSync r r' ∧
      r'.tables.map (·.1) = ["getuser"] ∧ r'.statements.map (·.name) = ["prepare_x_y", "x__y"] := by
  intro exec r
  obtain ⟨-, r', -, hrun, -, hleft⟩ :=
    claimInPlace_claimsTo .localSync (r := r) (by decide +kernel) (by decide +kernel)
  have hshown : (r.claimAll .localSync false).toOption.map
      (fun q => (q.tables.map (·.1), q.statements.map (·.name))) =
        some (["getuser"], ["prepare_x_y", "x__y"]) := by
    decide +kernel
  rw [hrun] at hshown
  obtain ⟨htables, hstatements⟩ := Prod.mk.inj (Option.some.inj hshown)
  exact ⟨r', hrun, hleft, htables, hstatements⟩

end Report

end SqlContract
