/-
A star alone.

A query that asks for all columns has the full shape of a table only if it is clear whose columns
they are.  The tables of a query are kept by the names that they have in it, and a star is taken to
be clear if there is one name.  Several tables can share a name, though: a table that stands twice
among the tables of a query, or two tables that are given one name.  A star over these has the shape
of the first of them.

Main definitions:

* `Sql.Tree.SelectsAll` — a query that gives all columns, with the table it is taken from and those
  that are joined to it;
* `OneName` — tables that are known and share one name.

Main results:

* `Tables.length_foldl_set_eq_one_iff` — tables that are kept by name are one if they share the name;
* `Scope.shape_star` — the shape of a star over the tables of a query;
* `Shape.infer_star` — **a star has the shape of a table exactly if its tables share one name**;
* `Shape.not_unknown_twice` — two tables in a join that share one.
-/

import SqlContract.Proofs.Generation.Inference

set_option autoImplicit false
set_option relaxedAutoImplicit false

namespace SqlContract

open Text Sql

/-- **A query that gives all columns.**  It is a SELECT whose result list is a star that nothing
qualifies.  Its own FROM, above which only the query stands, names the table `source`, and the tables
`joined` are joined to that one. -/
structure Sql.Tree.SelectsAll (t source : Tree) (joined : List Tree) : Prop where
  kind_eq : t.kind = .select
  items_eq : ∃ text parts, t.items = [.node .star text parts]
  from_eq : ∃ text more, t.nearest? .from = some (1, .node .from text (source :: more))
  joined_eq : (t.members.filter (·.kind == .join)).filterMap (·.parts.head?) = joined

/-- Tables of a query that are all known and share one name in it. -/
def OneName (known : Tables) (refs : List TableRef) : Prop :=
  (∀ ref ∈ refs, (Scope.lookup? known ref).isSome = true) ∧
    ∀ ref ∈ refs, ∀ other ∈ refs, ref.key? = other.key?

instance (known : Tables) (refs : List TableRef) : Decidable (OneName known refs) :=
  inferInstanceAs (Decidable (_ ∧ _))

/-! ### Tables by name -/

namespace Tables

theorem length_le_set (key : String) (t : Table) (ts : Tables) :
    ts.length ≤ (ts.set key t).length := by
  induction ts with
  | nil => exact Nat.zero_le _
  | cons e ts ih =>
      rw [set]
      split_ifs
      · exact Nat.le_refl _
      · exact Nat.succ_le_succ ih

theorem length_le_foldl_set (ts : Tables) (sources : List (String × Table)) :
    ts.length ≤ (sources.foldl (fun (ts : Tables) x => ts.set (caseKey x.1) x.2) ts).length := by
  induction sources generalizing ts with
  | nil => exact Nat.le_refl _
  | cons x sources ih => exact (length_le_set (caseKey x.1) x.2 ts).trans (ih _)

/-- **Tables that are kept by name are one if they share the name.** -/
theorem length_foldl_set_eq_one_iff {key : String} {t : Table} {sources : List (String × Table)} :
    (sources.foldl (fun (ts : Tables) x => ts.set (caseKey x.1) x.2) [(key, t)]).length = 1 ↔
      ∀ x ∈ sources, caseKey x.1 = key := by
  induction sources generalizing t with
  | nil => simp
  | cons x sources ih =>
      rw [List.foldl_cons, List.forall_mem_cons]
      by_cases hkey : key = caseKey x.1
      · simp only [set, hkey, if_true, true_and]
        rw [← hkey]
        exact ih
      · -- the second name stays beside the first
        have hlen := length_le_foldl_set [(key, t), (caseKey x.1, x.2)] sources
        simp only [set, if_neg hkey]
        refine iff_of_false ?_ fun h => hkey h.1.symm
        intro hone
        rw [hone] at hlen
        exact absurd hlen (Nat.not_succ_le_self 1)

end Tables

namespace Scope

variable {known : Tables} {refs : List TableRef}

/-- A table has the same name among the tables of a query as among those that are found for them. -/
theorem map_key?_of_mapM {sources : List (String × Table)}
    (h : refs.mapM (lookup? known) = some sources) :
    refs.map TableRef.key? = sources.map fun x => some (caseKey x.1) := by
  have hall := mapM_eq_some_iff.1 h
  clear h
  induction hall with
  | nil => rfl
  | @cons ref x refs sources hx _ ih =>
      cases ref with
      | derived => cases hx
      | named table given? =>
          obtain ⟨t, -, rfl⟩ := Option.map_eq_some_iff.1 hx
          rw [List.map_cons, List.map_cons, ih]
          rfl

theorem oneName_iff {x : String × Table} {rest : List (String × Table)}
    (h : refs.mapM (lookup? known) = some (x :: rest)) :
    OneName known refs ↔ ∀ y ∈ rest, caseKey y.1 = caseKey x.1 := by
  have hkeys := map_key?_of_mapM h
  have hknown : ∀ ref ∈ refs, (lookup? known ref).isSome = true := by
    intro ref href
    by_contra hnone
    rw [mapM_eq_none_iff.2 ⟨ref, href, by simpa using hnone⟩] at h
    cases h
  have hshared : (∀ ref ∈ refs, ∀ other ∈ refs, ref.key? = other.key?) ↔
      ∀ k ∈ refs.map TableRef.key?, ∀ l ∈ refs.map TableRef.key?, k = l := by
    simp only [List.forall_mem_map]
  -- what is asked of the tables is asked of the names that they are kept by
  rw [OneName, and_iff_right hknown, hshared, hkeys]
  simp only [List.forall_mem_map, Option.some.injEq, List.forall_mem_cons]
  refine ⟨fun hall y hy => (hall.2 y hy).1, fun hall => ⟨⟨trivial, fun y hy => (hall y hy).symm⟩, ?_⟩⟩
  exact fun y hy => ⟨hall y hy, fun z hz => (hall y hy).trans (hall z hz).symm⟩

/-- The shape of a star over the tables of a query. -/
theorem shape_star {x : String × Table} {rest : List (String × Table)}
    (h : refs.mapM (lookup? known) = some (x :: rest)) {scope : Scope}
    (hscope : ofRefs? known refs = some scope) :
    scope.shape [.star none] = if OneName known refs then .ofTable x.2 else .unknown := by
  unfold ofRefs? at hscope
  rw [h] at hscope
  obtain rfl := Option.some.inj hscope
  have hone : OneName known refs ↔
      ((x :: rest).foldl (fun (ts : Tables) x => ts.set (caseKey x.1) x.2) []).length = 1 := by
    rw [oneName_iff h, List.foldl_cons]
    exact Tables.length_foldl_set_eq_one_iff.symm
  simp only [shape, starShape, hone]

end Scope

namespace Sql.Tree.SelectsAll

variable {t source : Tree} {joined : List Tree}

/-- The query that gives all columns of some tables. -/
theorem ofTree_eq (h : t.SelectsAll source joined) :
    Query.ofTree t = .rows ((source :: joined).map .ofTree) [.star none] := by
  obtain ⟨text, parts, hitems⟩ := h.items_eq
  obtain ⟨_, more, hfrom⟩ := h.from_eq
  have htables : Query.tablesOfSelect t = (source :: joined).map .ofTree := by
    simp only [Query.tablesOfSelect, hfrom, h.joined_eq]
    rfl
  simp only [Query.ofTree, h.kind_eq, htables, hitems, Query.ofItems]
  rfl

end Sql.Tree.SelectsAll

namespace Shape

theorem ofTable_ne_unknown (t : Table) : ofTable t ≠ unknown := by
  simp [ofTable, unknown]

variable {d : Dialect} {sql : List Char} (known : Tables)

/-- The shape of a query that gives all columns of some tables. -/
theorem infer_of_star [Parser] {ref : TableRef} {more : List TableRef}
    (hread : Query.read? d sql = some (.rows (ref :: more) [.star none])) :
    (infer d known sql = .unknown ↔ ¬ OneName known (ref :: more)) ∧
      (OneName known (ref :: more) → ∃ n first, Scope.lookup? known ref = some (n, first) ∧
        infer d known sql = .ofTable first) := by
  cases hsources : (ref :: more).mapM (Scope.lookup? known) with
  | none =>
      -- a table that is not known leaves nothing to choose from
      obtain ⟨other, hother, hnone⟩ := Scope.mapM_eq_none_iff.1 hsources
      have hnot : ¬ OneName known (ref :: more) := fun h => by simpa [hnone] using h.1 other hother
      have hunknown := infer_of_not_known hread (.inr ⟨other, hother, hnone⟩)
      exact ⟨iff_of_true hunknown hnot, fun h => absurd h hnot⟩
  | some sources =>
      cases Scope.mapM_eq_some_iff.1 hsources with
      | @cons _ x _ rest hfirst _ =>
          obtain ⟨scope, hscope⟩ : ∃ scope, Scope.ofRefs? known (ref :: more) = some scope := by
            unfold Scope.ofRefs?
            rw [hsources]
            exact ⟨_, rfl⟩
          have hshape : infer d known sql =
              if OneName known (ref :: more) then .ofTable x.2 else .unknown := by
            rw [infer, hread]
            simp only [hscope]
            exact Scope.shape_star hsources hscope
          refine ⟨?_, fun hone => ⟨x.1, x.2, hfirst, by rw [hshape, if_pos hone]⟩⟩
          rw [hshape]
          split_ifs with hone
          · exact iff_of_false (ofTable_ne_unknown x.2) (not_not_intro hone)
          · exact iff_of_true rfl hone

/-- **A star has the shape of a table exactly if its tables share one name**, and all of them are
known: then it is the shape of the first, and nothing is known of the rows otherwise.  A table that
stands alone shares its name with no other, so the star has its shape if it is known. -/
theorem infer_star [Parser] {t source : Tree} {joined : List Tree}
    (hread : Parser.parse d sql = .ok t) (hstar : t.SelectsAll source joined) :
    let refs : List TableRef := (source :: joined).map .ofTree
    (infer d known sql = .unknown ↔ ¬ OneName known refs) ∧
      (OneName known refs → ∃ n first, Scope.lookup? known (.ofTree source) = some (n, first) ∧
        infer d known sql = .ofTable first) ∧
      (joined = [] → (OneName known refs ↔ (Scope.lookup? known (.ofTree source)).isSome = true)) := by
  have hrows : Query.read? d sql = some (.rows ((source :: joined).map .ofTree) [.star none]) :=
    Query.read?_eq_some_iff.2 ⟨t, hread, hstar.ofTree_eq⟩
  obtain ⟨hunknown, hfirst⟩ := infer_of_star known hrows
  refine ⟨hunknown, hfirst, ?_⟩
  rintro rfl
  simp [OneName]

attribute [local instance] Sql.parser

/-- A table that is joined to itself under another name, and the same table alone. -/
theorem infer_star_renamed :
    let known : Tables := [("users", ⟨"Users", [⟨"id", "INTEGER", false⟩]⟩)]
    let users : Tree := .node .table "users" [.leaf .name "users"]
    let others : Tree := .node .table "USERS"
      [.leaf .name "USERS", .node .tableAlias "u" [.leaf .name "u", .several []]]
    let joined := "SELECT * FROM users JOIN USERS AS u"
    let alone := "SELECT * FROM users"
    infer .localSync known joined.toList = .unknown ∧
      infer .localSync known alone.toList = ⟨[⟨"id", .number, false⟩], some "Users"⟩ ∧
      ¬ OneName known [.ofTree users, .ofTree others] ∧ OneName known [.ofTree users] := by
  intro known users others joined alone
  have hjoined : Parser.parse .localSync joined.toList = .ok
      (.of .select [.of .items [.leaf .star "*"], .of .from [users], .of .join [others]]) := by
    decide +kernel
  have halone : Parser.parse .localSync alone.toList = .ok
      (.of .select [.of .items [.leaf .star "*"], .of .from [users]]) := by
    decide +kernel
  have hnot : ¬ OneName known [.ofTree users, .ofTree others] := by decide +kernel
  have hone : OneName known [.ofTree users] := by decide +kernel
  have hboth : (Tree.of .select [.of .items [.leaf .star "*"], .of .from [users],
      .of .join [others]]).SelectsAll users [others] :=
    ⟨rfl, ⟨_, _, rfl⟩, ⟨_, _, rfl⟩, by decide +kernel⟩
  have hfrom : (Tree.of .select [.of .items [.leaf .star "*"], .of .from [users]]).SelectsAll users [] :=
    ⟨rfl, ⟨_, _, rfl⟩, ⟨_, _, rfl⟩, by decide +kernel⟩
  obtain ⟨hunknown, -, -⟩ := infer_star known hjoined hboth
  obtain ⟨-, hfirst, -⟩ := infer_star known halone hfrom
  obtain ⟨n, first, hlookup, hshape⟩ := hfirst hone
  have htable : first = ⟨"Users", [⟨"id", "INTEGER", false⟩]⟩ := by
    have hknown : Scope.lookup? known (.ofTree users) =
        some ("users", ⟨"Users", [⟨"id", "INTEGER", false⟩]⟩) := by decide +kernel
    rw [hknown] at hlookup
    exact (Prod.mk.inj (Option.some.inj hlookup)).2.symm
  refine ⟨hunknown.2 hnot, ?_, hnot, hone⟩
  rw [hshape, htable]
  decide +kernel

/-- **Several tables that share one name are taken for one.**  A star over two tables has the shape of
the first of them, be it a table that stands twice or two tables that are given the same name. -/
theorem not_unknown_twice :
    let known : Tables := [("users", ⟨"users", [⟨"id", "INTEGER", false⟩]⟩),
      ("teams", ⟨"teams", [⟨"label", "TEXT", true⟩]⟩)]
    let users : Tree := .node .table "users" [.leaf .name "users"]
    let t : Tree := .of .select [.of .items [.leaf .star "*"], .of .from [users], .of .join [users]]
    let twice := "SELECT * FROM users, users"
    let renamed := "SELECT * FROM users AS u JOIN teams AS U"
    Parser.parse .localSync twice.toList = .ok t ∧ t.SelectsAll users [users] ∧
      infer .localSync known twice.toList = ⟨[⟨"id", .number, false⟩], some "users"⟩ ∧
      infer .localSync known renamed.toList = ⟨[⟨"id", .number, false⟩], some "users"⟩ := by
  refine ⟨by decide +kernel, ⟨rfl, ⟨_, _, rfl⟩, ⟨_, _, rfl⟩, by decide +kernel⟩, ?_, ?_⟩
  · decide +kernel
  · decide +kernel

end Shape

end SqlContract
