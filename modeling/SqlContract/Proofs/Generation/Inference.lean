/-
Row shapes that are found.

The rows of a statement are told from its result list and from the tables that it names.  There are
three things to tell of them: they repeat a table, they hold the listed columns one by one, or nothing
is known.  The three are never mixed, and nothing is told unless every table of the statement is
known.

Main definitions:

* `Sql.TableRef.key?` — the key of the name that a table has in a statement;
* `FieldOf` — the field that an item of a result list stands for;
* `Sql.Tree.TakesFrom`, `Sql.Tree.ResultList` — the tables that the rows of a statement are taken from,
  and the list of what it gives;
* `Scope.Gives` — the shape that a result list has over the tables of a statement, case by case.

Main results:

* `Scope.field?_eq_some_iff` — **an item has a field exactly if it is a column of the tables**;
* `Scope.gives_shape` — a result list has the shape that its items call for;
* `Shape.infer_sound` — **the shape of a statement is a table, its columns, or nothing**.
-/

import SqlContract.Proofs.Generation.Soundness
import SqlContract.Sql.Statement

set_option autoImplicit false
set_option relaxedAutoImplicit false

namespace SqlContract

open Text Sql

/-- The key of the name that a table has in a statement. -/
def Sql.TableRef.key? : TableRef → Option String
  | .named table given? => some (caseKey (Scope.localName table given?))
  | .derived => none

/-- The tables of a statement, each with its name there, under the keys of these names. -/
def keyed (sources : List (String × Table)) : Tables :=
  sources.map fun x => (caseKey x.1, x.2)

/-- **The field that an item of a result list stands for.**  The item is a column of the table that
qualifies it, or else of the first table that has it.  The field has the type and the nullability of
the column, and the name that the item is given, or else the name of the column as it is declared. -/
inductive FieldOf (sources : List (String × Table)) : Selected → ReturnField → Prop
  | qualified {q name : String} {given? : Option String} {n : String} {t : Table} {c : Column} :
      (n, t) ∈ sources → caseKey n = caseKey q → t.column? name = some c →
      FieldOf sources (.column (some q) name given?)
        ⟨given?.getD c.name, .ofEngineType c.engineType, c.nullable⟩
  | unqualified {name : String} {given? : Option String} {before behind : List (String × Table)}
      {n : String} {t : Table} {c : Column} : sources = before ++ (n, t) :: behind →
      (∀ x ∈ before, x.2.column? name = none) → t.column? name = some c →
      FieldOf sources (.column none name given?)
        ⟨given?.getD c.name, .ofEngineType c.engineType, c.nullable⟩

theorem map_snd_keyed (sources : List (String × Table)) :
    (keyed sources).map (·.2) = sources.map (·.2) :=
  List.map_map

/-! ### The tables of a statement -/

namespace Tables

theorem set_of_not_mem {key : String} {ts : Tables} (h : key ∉ ts.map (·.1)) (t : Table) :
    ts.set key t = ts ++ [(key, t)] := by
  induction ts with
  | nil => rfl
  | cons e ts ih =>
      rw [List.map_cons, List.mem_cons, not_or] at h
      rw [set, if_neg (Ne.symm h.1), ih h.2, List.cons_append]

/-- Tables with distinct names stand in a scope one behind the other. -/
theorem foldl_set_eq {sources : List (String × Table)} {ts : Tables}
    (h : (ts.map (·.1) ++ sources.map (caseKey ·.1)).Nodup) :
    sources.foldl (fun ts (name, t) => ts.set (caseKey name) t) ts = ts ++ keyed sources := by
  induction sources generalizing ts with
  | nil => exact (List.append_nil ts).symm
  | cons x sources ih =>
      obtain ⟨n, t⟩ := x
      have hfree : caseKey n ∉ ts.map (·.1) := by
        intro hm
        rw [List.nodup_append] at h
        exact h.2.2 _ hm _ List.mem_cons_self rfl
      have hrest : ((ts ++ [(caseKey n, t)]).map (·.1) ++ sources.map (caseKey ·.1)).Nodup := by
        rw [List.map_append, List.append_assoc]
        exact h
      rw [List.foldl_cons]
      dsimp only
      rw [set_of_not_mem hfree, ih hrest, List.append_assoc]
      rfl

/-- The table that a name stands for among tables with distinct names. -/
theorem get?_keyed_eq_some_iff {sources : List (String × Table)}
    (h : (sources.map (caseKey ·.1)).Nodup) {q : String} {t : Table} :
    (keyed sources).get? q = some t ↔ ∃ n, (n, t) ∈ sources ∧ caseKey n = caseKey q := by
  unfold get?
  rw [List.lookup_eq_some_iff]
  constructor
  · intro hfound
    obtain ⟨l, r, heq, -⟩ := hfound
    have hm : (caseKey q, t) ∈ keyed sources := by simp [heq]
    obtain ⟨⟨n, t'⟩, hx, he⟩ := List.mem_map.1 hm
    obtain ⟨hn, rfl⟩ := Prod.mk.inj he
    exact ⟨n, hx, hn⟩
  · intro hfound
    obtain ⟨n, hx, hn⟩ := hfound
    obtain ⟨l, r, rfl⟩ := List.append_of_mem hx
    refine ⟨keyed l, keyed r, by simp [keyed, hn], ?_⟩
    intro e he
    obtain ⟨y, hy, rfl⟩ := List.mem_map.1 he
    -- an earlier table of that name would repeat it
    have hne : caseKey y.1 ≠ caseKey n := by
      rw [List.map_append, List.map_cons, List.nodup_append] at h
      exact h.2.2 _ (List.mem_map_of_mem hy) _ List.mem_cons_self
    rw [hn] at hne
    simpa using Ne.symm hne

end Tables

namespace Scope

/-! ### Items -/

variable {sources : List (String × Table)} {primary : Table}

/-- **An item has a field exactly if it is a column of the tables.** -/
theorem field?_eq_some_iff (h : (sources.map (caseKey ·.1)).Nodup) {item : Selected}
    {f : ReturnField} : field? ⟨primary, keyed sources⟩ item = some f ↔ FieldOf sources item f := by
  constructor
  · intro hf
    cases item with
    | star => cases hf
    | computed => cases hf
    | column qualifier? name given? =>
        obtain ⟨t, ht, hf⟩ := Option.bind_eq_some_iff.1 hf
        obtain ⟨c, hc, rfl⟩ := Option.map_eq_some_iff.1 hf
        cases qualifier? with
        | some q =>
            obtain ⟨n, hx, hn⟩ := (Tables.get?_keyed_eq_some_iff h).1 ht
            exact .qualified hx hn hc
        | none =>
            obtain ⟨-, as, bs, hsplit, has⟩ := List.find?_eq_some_iff_append.1 ht
            have htables : sources.map (·.2) = as ++ t :: bs := by
              rw [← hsplit, map_snd_keyed]
            obtain ⟨before, rest, rfl, rfl, hrest⟩ := List.map_eq_append_iff.1 htables
            obtain ⟨⟨n, t'⟩, behind, rfl, rfl, -⟩ := List.map_eq_cons_iff.1 hrest
            refine .unqualified rfl (fun x hx => ?_) hc
            have hnone := has x.2 (List.mem_map_of_mem hx)
            simpa using hnone
  · intro hf
    cases hf with
    | @qualified q name given? n t c hx hn hc =>
        have ht : (keyed sources).get? q = some t :=
          (Tables.get?_keyed_eq_some_iff h).2 ⟨n, hx, hn⟩
        simp [field?, resolve?, ht, hc, Column.toField]
    | @unqualified name given? before behind n t c hsplit hbefore hc =>
        have ht : ((keyed sources).map (·.2)).find? (fun t => (t.column? name).isSome) = some t := by
          refine List.find?_eq_some_iff_append.2 ⟨by simp [hc], before.map (·.2), behind.map (·.2), ?_, ?_⟩
          · rw [map_snd_keyed, hsplit, List.map_append, List.map_cons]
          · intro t' ht'
            obtain ⟨x, hx, rfl⟩ := List.mem_map.1 ht'
            simp [hbefore x hx]
        simp [field?, resolve?, ht, hc, Column.toField]

theorem mapM_eq_some_iff {α β : Type} {f : α → Option β} {xs : List α} {ys : List β} :
    xs.mapM f = some ys ↔ List.Forall₂ (fun x y => f x = some y) xs ys := by
  induction xs generalizing ys with
  | nil => simp [eq_comm]
  | cons x xs ih =>
      rw [List.mapM_cons]
      constructor
      · intro h
        obtain ⟨y, hy, h⟩ := Option.bind_eq_some_iff.1 h
        obtain ⟨zs, hzs, h⟩ := Option.bind_eq_some_iff.1 h
        cases h
        exact .cons hy (ih.1 hzs)
      · intro h
        cases h with
        | cons hy hys =>
            rw [hy, Option.bind_eq_bind, Option.bind_some, ih.2 hys]
            rfl

theorem mapM_eq_none_iff {α β : Type} {f : α → Option β} {xs : List α} :
    xs.mapM f = none ↔ ∃ x ∈ xs, f x = none := by
  induction xs with
  | nil => simp
  | cons x xs ih =>
      rw [List.mapM_cons, List.exists_mem_cons_iff, ← ih]
      cases f x with
      | none => simp
      | some y => cases xs.mapM f <;> simp

/-! ### Result lists -/

/-- **The shape of a result list over the tables of a statement.** -/
inductive Gives (sources : List (String × Table)) (selected : List Selected) : Shape → Prop
  /-- All columns of the only table. -/
  | star {n : String} {t : Table} : selected = [.star none] → sources = [(n, t)] →
      Gives sources selected (.ofTable t)
  /-- All columns of one of several tables cannot be told. -/
  | noStar : selected = [.star none] → sources.length ≠ 1 → Gives sources selected .unknown
  /-- All columns of the table of a name. -/
  | starOf {q n : String} {t : Table} : selected = [.star (some q)] → (n, t) ∈ sources →
      caseKey n = caseKey q → Gives sources selected (.ofTable t)
  | noStarOf {q : String} : selected = [.star (some q)] →
      (∀ x ∈ sources, caseKey x.1 ≠ caseKey q) → Gives sources selected .unknown
  /-- A field for each item, where every item is a column. -/
  | columns {fields : List ReturnField} : selected ≠ [] →
      List.Forall₂ (FieldOf sources) selected fields → (fields.map (·.name)).Nodup →
      Gives sources selected ⟨fields, none⟩
  /-- Fields of which two have one name are no record. -/
  | repeated {fields : List ReturnField} : List.Forall₂ (FieldOf sources) selected fields →
      ¬ (fields.map (·.name)).Nodup → Gives sources selected .unknown
  /-- Among several items, or alone, one that is no column of the tables. -/
  | primary {n : String} {t : Table} {rest : List (String × Table)} {item : Selected} :
      (∀ q, selected ≠ [.star q]) → sources = (n, t) :: rest → item ∈ selected →
      (∀ f, ¬ FieldOf sources item f) → Gives sources selected (.ofTable t)
  | nothing : selected = [] → Gives sources selected .unknown

/-- A result list has the shape that its items call for. -/
theorem gives_shape {n : String} {rest : List (String × Table)} (hsources : sources = (n, primary) :: rest)
    (h : (sources.map (caseKey ·.1)).Nodup) (selected : List Selected) :
    Gives sources selected (shape ⟨primary, keyed sources⟩ selected) := by
  unfold shape
  split
  · exact .nothing rfl
  · rename_i qualifier?
    cases qualifier? with
    | none =>
        by_cases hone : sources.length = 1
        · obtain rfl : rest = [] := by
            rw [hsources] at hone
            simpa using hone
          simp only [starShape, keyed, List.length_map, hone, if_true]
          exact .star rfl hsources
        · simp only [starShape, keyed, List.length_map, hone, if_false]
          exact .noStar rfl hone
    | some q =>
        cases hq : (keyed sources).get? q with
        | some t =>
            obtain ⟨m, hx, hm⟩ := (Tables.get?_keyed_eq_some_iff h).1 hq
            simp only [starShape, hq, Option.map_some, Option.getD_some]
            exact .starOf rfl hx hm
        | none =>
            simp only [starShape, hq, Option.map_none, Option.getD_none]
            refine .noStarOf rfl fun x hx hk => ?_
            have hsome := (Tables.get?_keyed_eq_some_iff h).2 ⟨x.1, hx, hk⟩
            rw [hq] at hsome
            cases hsome
  · rename_i hempty hstar
    split
    · rename_i hnone
      obtain ⟨item, hitem, hfield⟩ := mapM_eq_none_iff.1 hnone
      refine .primary hstar hsources hitem fun f hf => ?_
      rw [(field?_eq_some_iff h).2 hf] at hfield
      cases hfield
    · rename_i fields hfields
      have hall : List.Forall₂ (FieldOf sources) selected fields := by
        refine (mapM_eq_some_iff.1 hfields).imp fun item f hf => ?_
        exact (field?_eq_some_iff h).1 hf
      split_ifs with hnodup
      · exact .columns hempty hall hnodup
      · exact .repeated hall hnodup

/-- Whatever the case, the shape is that of a table, or that of the listed columns, or unknown. -/
theorem Gives.cases {selected : List Selected} {shape : Shape} (h : Gives sources selected shape) :
    (∃ x ∈ sources, shape = .ofTable x.2) ∨
      (∃ fields, selected ≠ [] ∧ List.Forall₂ (FieldOf sources) selected fields ∧
        shape = ⟨fields, none⟩) ∨ shape = .unknown := by
  cases h with
  | star _ hsources =>
      rw [hsources]
      exact .inl ⟨_, List.mem_cons_self, rfl⟩
  | starOf _ hx _ => exact .inl ⟨_, hx, rfl⟩
  | primary _ hsources _ _ =>
      rw [hsources]
      exact .inl ⟨_, List.mem_cons_self, rfl⟩
  | columns hne hall _ => exact .inr (.inl ⟨_, hne, hall, rfl⟩)
  | noStar | noStarOf | repeated | nothing => exact .inr (.inr rfl)

/-- The tables of a statement have the names that the statement gives them. -/
theorem keys_of_mapM {known : Tables} {refs : List TableRef} {sources : List (String × Table)}
    (h : refs.mapM (lookup? known) = some sources) :
    refs.filterMap TableRef.key? = sources.map (caseKey ·.1) := by
  have hall := mapM_eq_some_iff.1 h
  clear h
  induction hall with
  | nil => rfl
  | @cons ref x refs sources hx _ ih =>
      cases ref with
      | derived => cases hx
      | named table given? =>
          obtain ⟨t, -, rfl⟩ := Option.map_eq_some_iff.1 hx
          simp only [List.filterMap_cons, TableRef.key?, ih, List.map_cons]

end Scope

/-! ### Statements -/

namespace Sql

namespace Tree

/-- **The tables that the rows of a statement are taken from.**  Those of a SELECT are the table of the
nearest FROM in it and the tables of its own joins.  A change takes its rows from the nearest table in
its target. -/
inductive TakesFrom (t : Tree) : List TableRef → Prop
  | select {n : Nat} {clause : Tree} : t.kind = .select → t.nearest? .from = some (n, clause) →
      TakesFrom t ((clause.parts.head?.toList ++
        (t.members.filter (·.kind == .join)).filterMap (·.parts.head?)).map .ofTree)
  | change {n : Nat} {target table : Tree} : t.isOneOf [.insert, .update, .delete] = true →
      t.parts.head? = some target → target.nearest? .table = some (n, table) →
      TakesFrom t [.ofTree table]
  /-- A change to nothing that is a table. -/
  | changeOther : t.isOneOf [.insert, .update, .delete] = true →
      (∀ target, t.parts.head? = some target → target.nearest? .table = none) →
      TakesFrom t [.derived]

/-- **The list of what a statement gives**: the list of a SELECT, or what a change returns. -/
inductive ResultList (t : Tree) : List Tree → Prop
  | select : t.kind = .select → ResultList t t.items
  | returning {r : Tree} : t.isOneOf [.insert, .update, .delete] = true →
      t.part? .returning = some r → ResultList t r.items

variable {t : Tree} {refs : List TableRef} {items : List Tree}

theorem isOneOf_of_select (h : t.kind = .select) : t.isOneOf [.insert, .update, .delete] = false := by
  rw [isOneOf, h]
  decide

theorem takesFrom_iff_of_select (h : t.kind = .select) :
    t.TakesFrom refs ↔ ∃ n clause, t.nearest? .from = some (n, clause) ∧
      refs = Query.tablesOfSelect t := by
  constructor
  · rintro (⟨-, hfrom⟩ | ⟨hchange, -, -⟩ | ⟨hchange, -⟩)
    · exact ⟨_, _, hfrom, by rw [Query.tablesOfSelect, hfrom]⟩
    all_goals
      rw [isOneOf_of_select h] at hchange
      cases hchange
  · rintro ⟨n, clause, hfrom, rfl⟩
    rw [Query.tablesOfSelect, hfrom]
    exact .select h hfrom

theorem takesFrom_iff_of_change (h : t.isOneOf [.insert, .update, .delete] = true) :
    t.TakesFrom refs ↔ refs = [Query.tableOfChange t] := by
  have hselect : t.kind ≠ .select := by
    intro hkind
    rw [isOneOf_of_select hkind] at h
    cases h
  constructor
  · rintro (⟨hkind, -⟩ | ⟨-, htarget, htable⟩ | ⟨-, hnone⟩)
    · exact absurd hkind hselect
    · rw [Query.tableOfChange, htarget, Option.bind_some, htable]
    · rw [Query.tableOfChange]
      cases htarget : t.parts.head? with
      | none => rfl
      | some target => rw [Option.bind_some, hnone target htarget]
  · rintro rfl
    rw [Query.tableOfChange]
    cases htarget : t.parts.head? with
    | none => exact .changeOther h fun target he => by simp [htarget] at he
    | some target =>
        cases htable : target.nearest? .table with
        | none =>
            rw [Option.bind_some, htable]
            exact .changeOther h fun target' he => by
              rw [htarget] at he
              rwa [← Option.some.inj he]
        | some found =>
            rw [Option.bind_some, htable]
            exact .change h htarget htable

theorem isChange_of_takesFrom (h : t.TakesFrom refs) (hselect : t.kind ≠ .select) :
    t.isOneOf [.insert, .update, .delete] = true := by
  cases h with
  | select hkind _ => exact absurd hkind hselect
  | change hchange _ _ => exact hchange
  | changeOther hchange _ => exact hchange

/-- There is one list of tables that the rows of a statement are taken from. -/
theorem TakesFrom.unique {refs' : List TableRef} (h : t.TakesFrom refs) (h' : t.TakesFrom refs') :
    refs = refs' := by
  by_cases hselect : t.kind = .select
  · obtain ⟨-, -, -, rfl⟩ := (takesFrom_iff_of_select hselect).1 h
    obtain ⟨-, -, -, rfl⟩ := (takesFrom_iff_of_select hselect).1 h'
    rfl
  · have hchange := isChange_of_takesFrom h hselect
    rw [(takesFrom_iff_of_change hchange).1 h, (takesFrom_iff_of_change hchange).1 h']

end Tree

namespace Query

variable {t : Tree} {refs : List TableRef} {selected : List Selected}

theorem ofItems_eq_rows_iff {tables : List TableRef} {items : List Tree} :
    ofItems tables items = .rows refs selected ↔
      refs = tables ∧ refs ≠ [] ∧ items ≠ [] ∧ selected = items.map .ofTree := by
  have hempty : (tables.isEmpty || items.isEmpty) = true ↔ tables = [] ∨ items = [] := by
    rw [Bool.or_eq_true, List.isEmpty_iff, List.isEmpty_iff]
  unfold ofItems
  split_ifs with h
  · refine iff_of_false (fun h => nomatch h) ?_
    rintro ⟨rfl, htables, hitems, -⟩
    exact (hempty.1 h).elim htables hitems
  · rw [hempty, not_or] at h
    rw [rows.injEq]
    constructor
    · rintro ⟨rfl, rfl⟩
      exact ⟨rfl, h.1, h.2, rfl⟩
    · rintro ⟨rfl, -, -, rfl⟩
      exact ⟨rfl, rfl⟩

/-- **A statement is a query of the tables that its rows are taken from**, with the list of what it
gives, if it has both. -/
theorem ofTree_eq_rows_iff : ofTree t = .rows refs selected ↔
    t.TakesFrom refs ∧ refs ≠ [] ∧
      ∃ items, t.ResultList items ∧ items ≠ [] ∧ selected = items.map .ofTree := by
  unfold ofTree
  split_ifs with hselect hchange
  · have hkind : t.kind = .select := by simpa using hselect
    rw [ofItems_eq_rows_iff, Tree.takesFrom_iff_of_select hkind]
    constructor
    · rintro ⟨rfl, hne, hitems, hselected⟩
      obtain ⟨n, clause, hfrom⟩ : ∃ n clause, t.nearest? .from = some (n, clause) := by
        rw [tablesOfSelect] at hne
        split at hne
        · rename_i n clause hfrom
          exact ⟨n, clause, hfrom⟩
        · exact absurd rfl hne
      exact ⟨⟨n, clause, hfrom, rfl⟩, hne, _, .select hkind, hitems, hselected⟩
    · rintro ⟨⟨n, clause, hfrom, rfl⟩, hne, items, hitems, hempty, hselected⟩
      cases hitems with
      | select _ => exact ⟨rfl, hne, hempty, hselected⟩
      | returning hchange _ =>
          rw [Tree.isOneOf_of_select hkind] at hchange
          cases hchange
  · have hkind : t.kind ≠ .select := by simpa using hselect
    rw [Tree.takesFrom_iff_of_change hchange]
    constructor
    · intro h
      split at h
      · rename_i r hr
        obtain ⟨rfl, hne, hitems, hselected⟩ := ofItems_eq_rows_iff.1 h
        exact ⟨rfl, hne, _, .returning hchange hr, hitems, hselected⟩
      · cases h
    · rintro ⟨rfl, hne, items, hitems, hempty, hselected⟩
      cases hitems with
      | select hselect => exact absurd hselect hkind
      | returning _ hr =>
          rw [hr]
          exact ofItems_eq_rows_iff.2 ⟨rfl, hne, hempty, hselected⟩
  · refine iff_of_false (fun h => nomatch h) ?_
    rintro ⟨htakes, -⟩
    have hkind : t.kind ≠ .select := by simpa using hselect
    exact hchange (Tree.isChange_of_takesFrom htakes hkind)

/-- A text is the query of its tree. -/
theorem read?_eq_some_iff [Parser] {d : Dialect} {sql : List Char} {q : Query} :
    read? d sql = some q ↔ ∃ t, Parser.parse d sql = .ok t ∧ ofTree t = q := by
  unfold read?
  cases Parser.parse d sql with
  | error words => simp [Except.toOption]
  | ok t => simp [Except.toOption]

theorem read?_eq_none_iff [Parser] {d : Dialect} {sql : List Char} :
    read? d sql = none ↔ ∃ words, Parser.parse d sql = .error words := by
  unfold read?
  cases Parser.parse d sql with
  | error words => simp [Except.toOption]
  | ok t => simp [Except.toOption]

end Query

end Sql

namespace Shape

variable [Parser] {known : Tables} {sql : List Char} {refs : List TableRef} {selected : List Selected}

/-- A statement whose tables are known has the shape of its result list. -/
theorem gives_infer {d : Dialect} (hread : Query.read? d sql = some (.rows refs selected))
    (hkeys : (refs.filterMap TableRef.key?).Nodup) {sources : List (String × Table)}
    (hsources : refs.mapM (Scope.lookup? known) = some sources) (hne : refs ≠ []) :
    Scope.Gives sources selected (infer d known sql) := by
  rw [Scope.keys_of_mapM hsources] at hkeys
  cases sources with
  | nil =>
      cases Scope.mapM_eq_some_iff.1 hsources
      exact absurd rfl hne
  | cons x rest =>
      have hscope : Scope.ofRefs? known refs = some ⟨x.2, keyed (x :: rest)⟩ := by
        unfold Scope.ofRefs?
        rw [hsources]
        exact congrArg (fun ts => some (Scope.mk x.2 ts)) (@Tables.foldl_set_eq (x :: rest) [] hkeys)
      unfold infer
      rw [hread]
      dsimp only
      rw [hscope]
      exact Scope.gives_shape rfl hkeys selected

/-- A statement with a table that is not known, or with none, has rows of which nothing is known. -/
theorem infer_of_not_known {d : Dialect} (hread : Query.read? d sql = some (.rows refs selected))
    (h : refs = [] ∨ ∃ ref ∈ refs, Scope.lookup? known ref = none) :
    infer d known sql = .unknown := by
  have hscope : Scope.ofRefs? known refs = none := by
    unfold Scope.ofRefs?
    rcases h with rfl | hunknown
    · rfl
    · rw [Scope.mapM_eq_none_iff.2 hunknown]
  unfold infer
  rw [hread]
  dsimp only
  rw [hscope]

/-- A text that cannot be understood, or that has no result of tables, has rows of which nothing is
known. -/
theorem infer_of_not_rows {d : Dialect} (known : Tables)
    (h : ∀ refs selected, Query.read? d sql ≠ some (.rows refs selected)) :
    infer d known sql = .unknown := by
  unfold infer
  cases hread : Query.read? d sql with
  | none => rfl
  | some query =>
      cases query with
      | other => rfl
      | rows refs selected => exact absurd hread (h refs selected)

/-- A statement has the shape of its result list over its tables, or nothing is known of its rows. -/
theorem gives_infer_or_unknown {d : Dialect} (known : Tables)
    (hkeys : ∀ refs selected, Query.read? d sql = some (.rows refs selected) →
      (refs.filterMap TableRef.key?).Nodup) :
    (∃ refs selected sources, Query.read? d sql = some (.rows refs selected) ∧
      refs.mapM (Scope.lookup? known) = some sources ∧
      Scope.Gives sources selected (infer d known sql)) ∨ infer d known sql = .unknown := by
  by_cases hrows : ∃ refs selected, Query.read? d sql = some (.rows refs selected)
  · obtain ⟨refs, selected, hread⟩ := hrows
    by_cases hne : refs = []
    · exact .inr (infer_of_not_known hread (.inl hne))
    · cases hsources : refs.mapM (Scope.lookup? known) with
      | none => exact .inr (infer_of_not_known hread (.inr (Scope.mapM_eq_none_iff.1 hsources)))
      | some sources =>
          have hgives := gives_infer hread (hkeys refs selected hread) hsources hne
          exact .inl ⟨refs, selected, sources, hread, hsources, hgives⟩
  · exact .inr (infer_of_not_rows known fun refs selected hread => hrows ⟨refs, selected, hread⟩)

/-- **The shape of a statement is a table, its columns, or nothing**, whatever parser reads it, for a
statement whose tables have distinct names in it, over known tables without a fault: all columns of one
of the tables that its rows are taken from, with the name of that table; or a field for each item of
the list that it gives, where every item is a column; or nothing.  The fields have distinct names.
Nothing is known of a text that the parser refuses, of a statement whose rows are taken from no table or
that gives no list, and of one with a table that is not known. -/
theorem infer_sound (d : Dialect) {known : Tables} (hknown : known.Sound) (sql : List Char)
    (hkeys : ∀ t refs, Parser.parse d sql = .ok t → t.TakesFrom refs →
      (refs.filterMap TableRef.key?).Nodup) :
    ((∃ t refs items sources, Parser.parse d sql = .ok t ∧ t.TakesFrom refs ∧ t.ResultList items ∧
        refs.mapM (Scope.lookup? known) = some sources ∧
        ((∃ n table, (n, table) ∈ sources ∧ infer d known sql =
            ⟨table.columns.map fun c => ⟨c.name, .ofEngineType c.engineType, c.nullable⟩,
              some table.name⟩) ∨
          ∃ fields, items ≠ [] ∧ List.Forall₂ (FieldOf sources) (items.map .ofTree) fields ∧
            infer d known sql = ⟨fields, none⟩)) ∨
      infer d known sql = .unknown) ∧
    ((infer d known sql).returns.map (·.name)).Nodup ∧
    (∀ words, Parser.parse d sql = .error words → infer d known sql = .unknown) ∧
    ∀ t, Parser.parse d sql = .ok t →
      (∀ refs, t.TakesFrom refs → refs = []) ∨ (∀ items, t.ResultList items → items = []) ∨
        (∃ refs, t.TakesFrom refs ∧ ∃ ref ∈ refs, Scope.lookup? known ref = none) →
      infer d known sql = .unknown := by
  have htree : ∀ {refs selected}, Query.read? d sql = some (.rows refs selected) →
      ∃ t items, Parser.parse d sql = .ok t ∧ t.TakesFrom refs ∧ t.ResultList items ∧ refs ≠ [] ∧
        items ≠ [] ∧ selected = items.map .ofTree := by
    intro refs selected hread
    obtain ⟨t, ht, hrows⟩ := Query.read?_eq_some_iff.1 hread
    obtain ⟨htakes, hne, items, hitems, hempty, hselected⟩ := Query.ofTree_eq_rows_iff.1 hrows
    exact ⟨t, items, ht, htakes, hitems, hne, hempty, hselected⟩
  refine ⟨?_, nodup_infer d hknown sql, ?_, ?_⟩
  · have hdistinct : ∀ refs selected, Query.read? d sql = some (.rows refs selected) →
        (refs.filterMap TableRef.key?).Nodup := by
      intro refs selected hread
      obtain ⟨t, items, ht, htakes, -⟩ := htree hread
      exact hkeys t refs ht htakes
    rcases gives_infer_or_unknown known hdistinct with hgives | hunknown
    · obtain ⟨refs, selected, sources, hread, hsources, hgives⟩ := hgives
      obtain ⟨t, items, ht, htakes, hitems, -, hempty, rfl⟩ := htree hread
      rcases hgives.cases with ⟨x, hx, hshape⟩ | ⟨fields, -, hfields, hshape⟩ | hunknown
      · exact .inl ⟨t, refs, items, sources, ht, htakes, hitems, hsources, .inl ⟨x.1, x.2, hx, hshape⟩⟩
      · exact .inl ⟨t, refs, items, sources, ht, htakes, hitems, hsources,
          .inr ⟨fields, hempty, hfields, hshape⟩⟩
      · exact .inr hunknown
    · exact .inr hunknown
  · intro words hwords
    refine infer_of_not_rows known fun refs selected hread => ?_
    rw [Query.read?_eq_none_iff.2 ⟨words, hwords⟩] at hread
    cases hread
  · intro t ht hmissing
    by_cases hrows : ∃ refs selected, Query.read? d sql = some (.rows refs selected)
    · obtain ⟨refs, selected, hread⟩ := hrows
      obtain ⟨t', items, ht', htakes, hitems, hne, hempty, -⟩ := htree hread
      obtain rfl := Except.ok.inj (ht.symm.trans ht')
      rcases hmissing with hnone | hnone | ⟨refs', htakes', hunknown⟩
      · exact absurd (hnone refs htakes) hne
      · exact absurd (hnone items hitems) hempty
      · rw [htakes'.unique htakes] at hunknown
        exact infer_of_not_known hread (.inr hunknown)
    · exact infer_of_not_rows known fun refs selected hread => hrows ⟨refs, selected, hread⟩

end Shape

attribute [local instance] Sql.parser

namespace Shape

/-- A join of two tables, one of them under a name of its own, with a qualified item and two that are
not. -/
theorem infer_sound_join :
    let known : Tables := [("t", ⟨"T", [⟨"id", "INTEGER", false⟩, ⟨"Note", "TEXT", true⟩]⟩),
      ("u", ⟨"u", [⟨"id", "BLOB", true⟩]⟩)]
    let sql := "SELECT note, U.id AS other, id FROM T JOIN u AS U"
    known.Sound ∧ infer .localSync known sql.toList =
        ⟨[⟨"Note", .string, true⟩, ⟨"other", .binary, true⟩, ⟨"id", .number, false⟩], none⟩ ∧
      ((infer .localSync known sql.toList).returns.map (·.name)).Nodup := by
  intro known sql
  have hknown : ∀ e ∈ known, e.2.fault? = none := by decide +kernel
  have hread : ∃ t, Parser.parse .localSync sql.toList = .ok t ∧ t.kind = .select ∧
      ((Query.tablesOfSelect t).filterMap TableRef.key?).Nodup := by
    obtain ⟨t, ht, hprops⟩ := exists_ok_of_map_toOption
      (f := fun t : Sql.Tree =>
        decide (t.kind = .select ∧ ((Query.tablesOfSelect t).filterMap TableRef.key?).Nodup))
      (b := true) (x := Parser.parse .localSync sql.toList) (by decide +kernel)
    exact ⟨t, ht, of_decide_eq_true hprops⟩
  have hkeys : ∀ t refs, Parser.parse .localSync sql.toList = .ok t → t.TakesFrom refs →
      (refs.filterMap TableRef.key?).Nodup := by
    intro t refs ht htakes
    obtain ⟨t', ht', hkind, hdistinct⟩ := hread
    obtain rfl := Except.ok.inj (ht.symm.trans ht')
    obtain ⟨-, -, -, rfl⟩ := (Sql.Tree.takesFrom_iff_of_select hkind).1 htakes
    exact hdistinct
  obtain ⟨-, hnodup, -⟩ := infer_sound .localSync hknown sql.toList hkeys
  exact ⟨hknown, by decide +kernel, hnodup⟩

end Shape

end SqlContract
