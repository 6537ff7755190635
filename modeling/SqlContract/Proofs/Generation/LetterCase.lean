/-
Letter case in queries.

The names in a query may be written in any case: a table is known by the key of its name, and so is a
column.  A spelling of a query with all its names in small letters has therefore the same rows.  Only
a name that the query itself gives to a column of its result is kept as it is written.

Main definitions:

* `foldCase` — a name with the capitals of ASCII made small;
* `Sql.Tree.folded` — a statement with all names folded, those of the result apart;
* `AlikeInCase` — texts that are understood alike but for the case of names.

Main results:

* `caseKey_foldCase` — a name and its folded form have one key;
* `Sql.Tree.nearest?_folded` — a search finds in a folded statement what it finds in the statement;
* `Sql.Query.ofTree_folded` — a folded statement is the folded query;
* `Shape.infer_alikeInCase` — **queries that differ in the case of names have the same rows**, in the
  spelling of the tables or of the query.
-/

import SqlContract.Proofs.Generation.Inference
import SqlContract.Proofs.Generation.Synonyms

set_option autoImplicit false
set_option relaxedAutoImplicit false

namespace SqlContract

open Text Sql

/-! ### Names -/

/-- A name with the capitals of ASCII made small. -/
def foldCase (name : String) : String :=
  String.ofList (name.toList.map Char.toLower)

/-- A name and its folded form have one key. -/
@[simp] theorem caseKey_foldCase (name : String) : caseKey (foldCase name) = caseKey name := by
  unfold caseKey foldCase lower
  rw [String.toList_ofList, lowerFrom_map_toLower]

@[simp] theorem isEmpty_foldCase (name : String) : (foldCase name).isEmpty = name.isEmpty := by
  rw [Bool.eq_iff_iff, String.isEmpty_iff, String.isEmpty_iff]
  simp [foldCase]

@[simp] theorem foldCase_empty : foldCase "" = "" :=
  rfl

/-! ### Trees -/

namespace Sql

mutual

/-- **A statement with all names folded**, and with them every other text.  What an expression is
called in the result is kept. -/
def Tree.folded : Tree → Tree
  | .node k s ts => .node k (if k = .alias then s else foldCase s) (foldedAll ts)

/-- Nodes with all names folded. -/
def foldedAll : List Tree → List Tree
  | [] => []
  | t :: ts => t.folded :: foldedAll ts

end

theorem foldedAll_eq (ts : List Tree) : foldedAll ts = ts.map Tree.folded := by
  induction ts with
  | nil => rfl
  | cons t ts ih => rw [foldedAll, ih, List.map_cons]

namespace Tree

variable (t : Tree) (k : Kind)

@[simp] theorem kind_folded : t.folded.kind = t.kind := by
  cases t
  rw [folded]
  rfl

@[simp] theorem parts_folded : t.folded.parts = t.parts.map folded := by
  cases t
  rw [folded, foldedAll_eq]
  rfl

theorem text_folded (h : t.kind ≠ .alias) : t.folded.text = foldCase t.text := by
  obtain ⟨k, s, ts⟩ := t
  rw [folded]
  exact if_neg h

@[simp] theorem isOneOf_folded (kinds : List Kind) : t.folded.isOneOf kinds = t.isOneOf kinds := by
  rw [isOneOf, isOneOf, kind_folded]

@[simp] theorem isList_folded : t.folded.isList = t.isList :=
  isOneOf_folded t _

/-- A list of trees is searched for a kind as its folded form is. -/
theorem find?_map_folded (ts : List Tree) :
    (ts.map folded).find? (·.kind == k) = (ts.find? (·.kind == k)).map folded := by
  rw [List.find?_map]
  simp only [Function.comp_def, kind_folded]

@[simp] theorem members_folded : t.folded.members = t.members.map folded := by
  unfold members
  rw [parts_folded, List.flatMap_map, List.map_flatMap]
  refine List.flatMap_congr fun p _ => ?_
  rw [isList_folded, parts_folded, apply_ite (List.map folded)]
  rfl

@[simp] theorem part?_folded : t.folded.part? k = (t.part? k).map folded := by
  rw [part?, part?, members_folded, find?_map_folded]

@[simp] theorem items_folded : t.folded.items = t.items.map folded := by
  unfold items
  rw [parts_folded, find?_map_folded]
  cases t.parts.find? (·.kind == .items) with
  | none => rfl
  | some p => exact parts_folded p

@[simp] theorem ownName_folded : t.folded.ownName = foldCase t.ownName := by
  unfold ownName
  rw [isOneOf_folded]
  split_ifs with h
  · refine text_folded t fun halias => ?_
    rw [isOneOf, halias] at h
    exact absurd h (by decide)
  · rfl

@[simp] theorem name_folded : t.folded.name = foldCase t.name := by
  have hname : ∀ o : Option Tree,
      ((o.map folded).map ownName).getD "" = foldCase ((o.map ownName).getD "") := by
    intro o
    cases o with
    | none => rfl
    | some p => exact ownName_folded p
  unfold name
  rw [kind_folded, parts_folded, List.head?_map, List.getLast?_map]
  split
  · exact hname _
  · exact hname _
  · exact ownName_folded t

end Tree

/-! ### The nearest node of a kind -/

theorem nearer_folded (s t : Option (Nat × Tree)) :
    nearer (s.map (Prod.map id Tree.folded)) (t.map (Prod.map id Tree.folded)) =
      (nearer s t).map (Prod.map id Tree.folded) := by
  cases s with
  | none => rfl
  | some s =>
      cases t with
      | none => rfl
      | some t =>
          simp only [nearer, Option.map_some, Prod.map_fst, id]
          split_ifs
          · rfl
          · rfl

mutual

/-- **A search finds in a folded statement what it finds in the statement.** -/
theorem Tree.nearest?_folded (k : Kind) : (t : Tree) →
    t.folded.nearest? k = (t.nearest? k).map (Prod.map id Tree.folded)
  | .node k' s ts => by
      have hinside := nearestAmong?_folded k ts
      rw [Tree.folded, Tree.nearest?, Tree.nearest?, hinside]
      split_ifs
      · rw [Option.map_some, Prod.map_apply', Tree.folded, if_pos ‹_›]
        rfl
      · rw [Option.map_some, Prod.map_apply', Tree.folded, if_neg ‹_›]
        rfl
      · rfl
      · rw [Option.map_map, Option.map_map]
        rfl

/-- A search among several trees finds what it finds among the folded ones. -/
theorem nearestAmong?_folded (k : Kind) : (ts : List Tree) →
    nearestAmong? k (foldedAll ts) = (nearestAmong? k ts).map (Prod.map id Tree.folded)
  | [] => rfl
  | t :: ts => by
      rw [foldedAll, nearestAmong?, nearestAmong?, Tree.nearest?_folded k t, nearestAmong?_folded k ts,
        nearer_folded]

end

/-! ### Queries -/

/-- The table that a query names, with its names folded. -/
def TableRef.folded : TableRef → TableRef
  | .named table given? => .named (foldCase table) (given?.map foldCase)
  | .derived => .derived

/-- An item of a result list with its names folded; the name that it is given is kept. -/
def Selected.folded : Selected → Selected
  | .star qualifier? => .star (qualifier?.map foldCase)
  | .column qualifier? name given? => .column (qualifier?.map foldCase) (foldCase name) given?
  | .computed => .computed

/-- A query with its names folded. -/
def Query.folded : Query → Query
  | .rows tables selected => .rows (tables.map .folded) (selected.map .folded)
  | .other => .other

@[simp] theorem TableRef.ofTree_folded (t : Tree) : ofTree t.folded = (ofTree t).folded := by
  unfold ofTree
  rw [Tree.kind_folded, Tree.part?_folded]
  split_ifs with htable
  · have hkind : t.kind ≠ .alias := by
      intro halias
      rw [halias] at htable
      exact absurd htable (by decide)
    rw [Tree.text_folded t hkind, folded]
    refine congrArg _ ?_
    cases hpart : t.part? .tableAlias with
    | none => rfl
    | some p =>
        have hp : p.kind = .tableAlias := by simpa using List.find?_some hpart
        exact congrArg some (Tree.text_folded p (by rw [hp]; decide))
  · rfl

namespace Selected

@[simp] theorem qualifier?_folded (t : Tree) : qualifier? t.folded = (qualifier? t).map foldCase := by
  unfold qualifier?
  rw [Tree.parts_folded, List.getElem?_map]
  cases t.parts[1]? with
  | none => rfl
  | some p =>
      simp only [Option.map_some, Tree.ownName_folded, Option.filter_some, isEmpty_foldCase]
      split_ifs
      · rfl
      · rfl

@[simp] theorem isStarOfTable_folded (t : Tree) : isStarOfTable t.folded = isStarOfTable t := by
  unfold isStarOfTable
  rw [Tree.kind_folded, Tree.parts_folded, List.head?_map]
  cases t.parts.head? with
  | none => rfl
  | some p => rw [Option.map_some, Option.any_some, Option.any_some, Tree.kind_folded]

@[simp] theorem ofExpression_folded (given? : Option String) (t : Tree) :
    ofExpression given? t.folded = (ofExpression given? t).folded := by
  unfold ofExpression
  rw [Tree.kind_folded, isStarOfTable_folded, qualifier?_folded, Tree.name_folded]
  split_ifs
  · rfl
  · rfl

/-- A node that is neither a star nor an expression with a name. -/
theorem ofTree_eq {t : Tree} (hstar : t.kind ≠ .star) (halias : t.kind = .alias → t.parts = []) :
    ofTree t = if isStarOfTable t then .star (qualifier? t) else ofExpression none t := by
  unfold ofTree
  split
  · exact absurd rfl hstar
  · exact absurd (halias rfl) (List.cons_ne_nil _ _)
  · rfl

@[simp] theorem ofTree_folded (t : Tree) : ofTree t.folded = (ofTree t).folded := by
  by_cases hstar : t.kind = .star
  · obtain ⟨k, s, ts⟩ := t
    obtain rfl : k = .star := hstar
    rw [Tree.folded]
    rfl
  by_cases halias : t.kind = .alias ∧ t.parts ≠ []
  · obtain ⟨k, s, ts⟩ := t
    obtain ⟨rfl, hparts⟩ : k = .alias ∧ ts ≠ [] := halias
    obtain ⟨e, ts, rfl⟩ := List.exists_cons_of_ne_nil hparts
    -- the name that is given stays, and what it names is folded
    rw [Tree.folded, foldedAll, if_pos rfl]
    exact ofExpression_folded (some s) e
  · have hparts : t.kind = .alias → t.parts = [] := by
      intro hkind
      by_contra hne
      exact halias ⟨hkind, hne⟩
    have hfolded : t.folded.kind = .alias → t.folded.parts = [] := by
      intro hkind
      rw [Tree.parts_folded, hparts (t.kind_folded ▸ hkind), List.map_nil]
    rw [ofTree_eq hstar hparts, ofTree_eq (t.kind_folded ▸ hstar) hfolded, isStarOfTable_folded,
      qualifier?_folded, ofExpression_folded]
    split_ifs
    · rfl
    · rfl

end Selected

namespace Query

theorem tablesOfSelect_folded (t : Tree) :
    tablesOfSelect t.folded = (tablesOfSelect t).map .folded := by
  have hjoined : ((t.folded.members.filter (·.kind == .join)).filterMap (·.parts.head?)) =
      ((t.members.filter (·.kind == .join)).filterMap (·.parts.head?)).map Tree.folded := by
    rw [Tree.members_folded, List.filter_map, List.filterMap_map, List.map_filterMap]
    simp only [Function.comp_def, Tree.kind_folded, Tree.parts_folded, List.head?_map]
  unfold tablesOfSelect
  rw [Tree.nearest?_folded, hjoined]
  cases t.nearest? .from with
  | none => rfl
  | some found =>
      obtain ⟨n, source⟩ := found
      simp only [Option.map_some, Prod.map_apply, Tree.parts_folded, List.head?_map,
        Option.toList_map, ← List.map_append, List.map_map, Function.comp_def, TableRef.ofTree_folded]

theorem tableOfChange_folded (t : Tree) : tableOfChange t.folded = (tableOfChange t).folded := by
  unfold tableOfChange
  rw [Tree.parts_folded, List.head?_map]
  cases t.parts.head? with
  | none => rfl
  | some target =>
      rw [Option.map_some, Option.bind_some, Option.bind_some, Tree.nearest?_folded]
      cases target.nearest? .table with
      | none => rfl
      | some found => exact TableRef.ofTree_folded found.2

theorem ofItems_folded (tables : List TableRef) (items : List Tree) :
    ofItems (tables.map .folded) (items.map Tree.folded) = (ofItems tables items).folded := by
  unfold ofItems
  rw [List.isEmpty_map, List.isEmpty_map]
  split_ifs
  · rfl
  · simp only [folded, List.map_map, Function.comp_def, Selected.ofTree_folded]

/-- **A folded statement is the folded query.** -/
theorem ofTree_folded (t : Tree) : ofTree t.folded = (ofTree t).folded := by
  unfold ofTree
  rw [Tree.kind_folded, Tree.isOneOf_folded, Tree.items_folded, Tree.part?_folded]
  split_ifs
  · rw [tablesOfSelect_folded, ofItems_folded]
  · cases t.part? .returning with
    | none => rfl
    | some returning =>
        simp only [Option.map_some]
        rw [Tree.items_folded, tableOfChange_folded, ← ofItems_folded, List.map_singleton]
  · rfl

end Query

end Sql

/-! ### Rows -/

namespace Scope

variable {known : Tables}

theorem get?_foldCase (ts : Tables) (name : String) : ts.get? (foldCase name) = ts.get? name := by
  rw [Tables.get?, Tables.get?, caseKey_foldCase]

theorem column?_foldCase (t : Table) (name : String) : t.column? (foldCase name) = t.column? name := by
  rw [Table.column?, Table.column?, caseKey_foldCase]

theorem localName_folded (table : String) (given? : Option String) :
    localName (foldCase table) (given?.map foldCase) = foldCase (localName table given?) := by
  cases given? with
  | none => rfl
  | some s =>
      simp only [localName, Option.map_some, isEmpty_foldCase]
      split_ifs
      · rfl
      · rfl

/-- A folded table is found where the table is, with its folded name. -/
theorem lookup?_folded (known : Tables) (ref : TableRef) :
    lookup? known ref.folded = (lookup? known ref).map (Prod.map foldCase id) := by
  cases ref with
  | derived => rfl
  | named table given? =>
      simp only [TableRef.folded, lookup?, get?_foldCase, localName_folded, Option.map_map]
      rfl

theorem mapM_lookup?_folded (known : Tables) (refs : List TableRef) :
    (refs.map .folded).mapM (lookup? known) =
      (refs.mapM (lookup? known)).map (List.map (Prod.map foldCase id)) := by
  induction refs with
  | nil => rfl
  | cons ref refs ih =>
      rw [List.map_cons, List.mapM_cons, List.mapM_cons, ih, lookup?_folded]
      cases lookup? known ref with
      | none => rfl
      | some x =>
          cases refs.mapM (lookup? known) with
          | none => rfl
          | some xs => rfl

/-- **Folded tables have the scope of the tables**: it goes by the keys of their names. -/
theorem ofRefs?_folded (known : Tables) (refs : List TableRef) :
    ofRefs? known (refs.map .folded) = ofRefs? known refs := by
  unfold ofRefs?
  rw [mapM_lookup?_folded]
  cases refs.mapM (lookup? known) with
  | none => rfl
  | some sources =>
      cases sources with
      | nil => rfl
      | cons first rest =>
          simp only [Option.map_some, List.map_cons, List.foldl_cons, List.foldl_map, Prod.map_fst,
            Prod.map_snd, caseKey_foldCase, id]

variable (scope : Scope)

theorem field?_folded (item : Selected) : scope.field? item.folded = scope.field? item := by
  cases item with
  | star qualifier? => rfl
  | computed => rfl
  | column qualifier? name given? =>
      have hresolve : scope.resolve? (qualifier?.map foldCase) (foldCase name) =
          scope.resolve? qualifier? name := by
        cases qualifier? with
        | none => simp only [Option.map_none, resolve?, column?_foldCase]
        | some q => exact get?_foldCase scope.byName q
      simp only [Selected.folded, field?, hresolve, column?_foldCase]

theorem starShape_folded (qualifier? : Option String) :
    scope.starShape (qualifier?.map foldCase) = scope.starShape qualifier? := by
  cases qualifier? with
  | none => rfl
  | some q => simp only [Option.map_some, starShape, get?_foldCase]

/-- The shape of a result list that is more than a star alone. -/
theorem shape_eq {selected : List Selected} (hne : selected ≠ [])
    (hstar : ∀ qualifier?, selected ≠ [.star qualifier?]) :
    scope.shape selected =
      match selected.mapM scope.field? with
      | none => .ofTable scope.primary
      | some fields => if (fields.map (·.name)).Nodup then ⟨fields, none⟩ else .unknown := by
  unfold shape
  split
  · exact absurd rfl hne
  · exact absurd rfl (hstar _)
  · rfl

/-- A folded result list has the shape of the result list. -/
theorem shape_folded (selected : List Selected) :
    scope.shape (selected.map .folded) = scope.shape selected := by
  by_cases hne : selected = []
  · rw [hne, List.map_nil]
  by_cases hstar : ∃ qualifier?, selected = [.star qualifier?]
  · obtain ⟨qualifier?, rfl⟩ := hstar
    exact scope.starShape_folded qualifier?
  -- what is no star alone is none when it is folded
  have hfolded : ∀ qualifier?, selected.map Selected.folded ≠ [.star qualifier?] := by
    intro qualifier? h
    obtain ⟨item, rfl, hitem⟩ := List.map_eq_singleton_iff.1 h
    cases item with
    | star q => exact hstar ⟨q, rfl⟩
    | column => cases hitem
    | computed => cases hitem
  have hfields : (selected.map Selected.folded).mapM scope.field? = selected.mapM scope.field? := by
    rw [List.mapM_map]
    exact congrArg (selected.mapM ·) (funext scope.field?_folded)
  rw [scope.shape_eq (by simpa using hne) hfolded, scope.shape_eq hne (not_exists.1 hstar), hfields]

end Scope

/-- **Texts that a parser understands alike but for the case of names.**  The tree of the one, with all
names folded, is that of the other.  Names that are given to the result are the same in both. -/
def AlikeInCase [Parser] (d : Dialect) (sql sql' : List Char) : Prop :=
  (Parser.parse d sql).toOption.map Tree.folded = (Parser.parse d sql').toOption.map Tree.folded

instance [Parser] (d : Dialect) (sql sql' : List Char) : Decidable (AlikeInCase d sql sql') :=
  inferInstanceAs (Decidable (_ = _))

/-- Texts that are alike are queries that are alike. -/
theorem AlikeInCase.read?_folded [Parser] {d : Dialect} {sql sql' : List Char}
    (h : AlikeInCase d sql sql') :
    (Query.read? d sql).map Query.folded = (Query.read? d sql').map Query.folded := by
  have hfolded : Query.folded ∘ Query.ofTree = Query.ofTree ∘ Tree.folded :=
    funext fun t => (Query.ofTree_folded t).symm
  unfold Query.read?
  rw [Option.map_map, Option.map_map, hfolded, ← Option.map_map, ← Option.map_map, h]

/-! ### The spelling of names -/

/-- The result list of a statement: what a SELECT gives, or what another one returns. -/
def Sql.Tree.resultItems (t : Tree) : List Tree :=
  if t.kind = .select then t.items else ((t.part? .returning).map items).getD []

/-- The result list of a query is that of the statement. -/
theorem Sql.Query.selected_eq {t : Tree} {refs : List TableRef} {selected : List Selected}
    (h : ofTree t = .rows refs selected) : selected = t.resultItems.map .ofTree := by
  have hitems : ∀ {tables items}, ofItems tables items = .rows refs selected →
      selected = items.map .ofTree := by
    intro tables items hrows
    unfold ofItems at hrows
    split_ifs at hrows
    exact (Query.rows.inj hrows).2.symm
  unfold ofTree at h
  unfold Tree.resultItems
  split_ifs at h with hselect
  · rw [if_pos (by simpa using hselect)]
    exact hitems h
  · rw [if_neg (by simpa using hselect)]
    split at h
    · rename_i returning hreturning
      rw [hreturning]
      exact hitems h
    · cases h

/-- An item that is given a name is an expression with that name. -/
theorem Sql.Selected.alias_of_column {t : Tree} {qualifier? : Option String} {name given : String}
    (h : ofTree t = .column qualifier? name (some given)) : t.kind = .alias ∧ t.text = given := by
  have hgiven : ∀ {given? e}, ofExpression given? e = .column qualifier? name (some given) →
      given? = some given := by
    intro given? e he
    unfold ofExpression at he
    split_ifs at he
    exact (Selected.column.inj he).2.2
  unfold ofTree at h
  split at h
  · cases h
  · exact ⟨rfl, Option.some.inj (hgiven h)⟩
  · split_ifs at h
    exact absurd (hgiven h) (by simp)

namespace Scope

variable {scope : Scope} {P : Table → Prop}

/-- **A field is that of a column**, in the spelling of the table or under the name it is given. -/
theorem spelling_of_field? (hall : ∀ e ∈ scope.byName, P e.2) {item : Selected} {f : ReturnField}
    (h : scope.field? item = some f) : ∃ t, P t ∧ ∃ c ∈ t.columns, f = c.toField f.name ∧
      (f.name = c.name ∨ ∃ qualifier? name, item = .column qualifier? name (some f.name)) := by
  cases item with
  | star => cases h
  | computed => cases h
  | column qualifier? name given? =>
      obtain ⟨t, ht, hf⟩ := Option.bind_eq_some_iff.1 h
      obtain ⟨c, hc, rfl⟩ := Option.map_eq_some_iff.1 hf
      have hP : P t := by
        cases qualifier? with
        | some q => exact hall _ (Tables.mem_of_get? ht)
        | none =>
            obtain ⟨e, he, rfl⟩ := List.mem_map.1 (List.mem_of_find?_eq_some ht)
            exact hall e he
      refine ⟨t, hP, c, List.mem_of_find?_eq_some hc, rfl, ?_⟩
      cases given? with
      | none => exact .inl rfl
      | some given => exact .inr ⟨qualifier?, name, rfl⟩

/-- A field of a shape over a scope is that of a column. -/
theorem spelling_of_mem_shape (hprimary : P scope.primary) (hall : ∀ e ∈ scope.byName, P e.2)
    {selected : List Selected} {f : ReturnField} (h : f ∈ (scope.shape selected).returns) :
    ∃ t, P t ∧ ∃ c ∈ t.columns, f = c.toField f.name ∧
      (f.name = c.name ∨ ∃ qualifier? name, .column qualifier? name (some f.name) ∈ selected) := by
  have htable : ∀ {t}, P t → f ∈ (Shape.ofTable t).returns → ∃ t, P t ∧ ∃ c ∈ t.columns,
      f = c.toField f.name ∧
        (f.name = c.name ∨ ∃ qualifier? name, .column qualifier? name (some f.name) ∈ selected) := by
    intro t hP hf
    obtain ⟨c, hc, rfl⟩ := List.mem_map.1 hf
    exact ⟨t, hP, c, hc, rfl, .inl rfl⟩
  have hunknown : f ∉ Shape.unknown.returns := List.not_mem_nil
  unfold shape at h
  split at h
  · exact absurd h hunknown
  · unfold starShape at h
    split at h
    · rename_i q
      cases hq : scope.byName.get? q with
      | none =>
          rw [hq] at h
          exact absurd h hunknown
      | some t =>
          rw [hq] at h
          exact htable (hall _ (Tables.mem_of_get? hq)) h
    · split_ifs at h
      · exact htable hprimary h
      · exact absurd h hunknown
  · split at h
    · exact htable hprimary h
    · rename_i fields hfields
      split_ifs at h
      · obtain ⟨item, hitem, hf⟩ := exists_of_mem_mapM hfields h
        obtain ⟨t, hP, c, hc, hfield, hname⟩ := spelling_of_field? hall hf
        refine ⟨t, hP, c, hc, hfield, hname.imp id ?_⟩
        rintro ⟨qualifier?, name, rfl⟩
        exact ⟨qualifier?, name, hitem⟩
      · exact absurd h hunknown

end Scope

namespace Shape

variable [Parser] (d : Dialect) (known : Tables) {sql sql' : List Char}

/-- Queries that are alike have the same rows. -/
theorem infer_eq_of_folded (h : (Query.read? d sql).map Query.folded =
    (Query.read? d sql').map Query.folded) : infer d known sql = infer d known sql' := by
  unfold infer
  cases hread : Query.read? d sql with
  | none =>
      rw [hread] at h
      rw [Option.map_eq_none_iff.1 h.symm]
  | some q =>
      cases hread' : Query.read? d sql' with
      | none =>
          rw [hread, hread'] at h
          cases h
      | some q' =>
          rw [hread, hread'] at h
          have hq : q.folded = q'.folded := Option.some.inj h
          cases q with
          | other =>
              cases q' with
              | other => rfl
              | rows refs' selected' => cases hq
          | rows refs selected =>
              cases q' with
              | other => cases hq
              | rows refs' selected' =>
                  obtain ⟨hrefs, hselected⟩ := Query.rows.inj hq
                  have hscope : Scope.ofRefs? known refs = Scope.ofRefs? known refs' := by
                    rw [← Scope.ofRefs?_folded, hrefs, Scope.ofRefs?_folded]
                  have hshape : ∀ scope : Scope, scope.shape selected = scope.shape selected' := by
                    intro scope
                    rw [← Scope.shape_folded, hselected, Scope.shape_folded]
                  simp only [hscope, hshape]

/-- The fields that are found are spelled as a known table spells them, or as the query does. -/
theorem spelling_of_mem_infer {f : ReturnField} (h : f ∈ (infer d known sql).returns) :
    ∃ t, (∃ name, known.get? name = some t) ∧ ∃ c ∈ t.columns, f = c.toField f.name ∧
      (f.name = c.name ∨ ∃ s item, Parser.parse d sql = .ok s ∧ item ∈ s.resultItems ∧
        item.kind = .alias ∧ item.text = f.name) := by
  have hunknown : f ∉ unknown.returns := List.not_mem_nil
  unfold infer at h
  split at h
  · rename_i refs selected hread
    split at h
    · rename_i scope hscope
      obtain ⟨hprimary, hall⟩ := Scope.forall_of_ofRefs? (P := fun t => ∃ n, known.get? n = some t)
        (fun n t ht => ⟨n, ht⟩) hscope
      obtain ⟨t, ht, c, hc, hfield, hname⟩ := Scope.spelling_of_mem_shape
        (P := fun t => ∃ n, known.get? n = some t) hprimary hall h
      refine ⟨t, ht, c, hc, hfield, hname.imp id ?_⟩
      rintro ⟨qualifier?, name, hitem⟩
      obtain ⟨s, hs, hrows⟩ := Query.read?_eq_some_iff.1 hread
      rw [Query.selected_eq hrows] at hitem
      obtain ⟨item, hmem, hcolumn⟩ := List.mem_map.1 hitem
      exact ⟨s, item, hs, hmem, Selected.alias_of_column hcolumn⟩
    · exact absurd h hunknown
  · exact absurd h hunknown

/-- **Queries that differ in the case of names have the same rows**, whatever parser reads them and
whatever tables are known.  Each
field is that of a column of a known table.  It has the name that the table spells, or else the one
that an item of the result list is given.  A table whose full shape the rows have is named as it is
spelled where it is defined. -/
theorem infer_alikeInCase (h : AlikeInCase d sql sql') :
    infer d known sql' = infer d known sql ∧
      (∀ f ∈ (infer d known sql).returns, ∃ t, (∃ name, known.get? name = some t) ∧
        ∃ c ∈ t.columns, f = c.toField f.name ∧
          (f.name = c.name ∨ ∃ s item, Parser.parse d sql = .ok s ∧ item ∈ s.resultItems ∧
            item.kind = .alias ∧ item.text = f.name)) ∧
      ∀ source, (infer d known sql).sourceTable = some source →
        ∃ t, (∃ name, known.get? name = some t) ∧ t.name = source := by
  refine ⟨(infer_eq_of_folded d known h.read?_folded).symm,
    fun f hf => spelling_of_mem_infer d known hf, fun source hsource => ?_⟩
  rcases ofTable_or d known sql with ⟨t, ht, hshape⟩ | hnone
  · rw [hshape] at hsource
    exact ⟨t, ht, Option.some.inj hsource⟩
  · rw [hnone] at hsource
    cases hsource

end Shape

attribute [local instance] Sql.parser

namespace Shape

/-- A join in two spellings, with a column under a name of its own. -/
theorem infer_alikeInCase_join :
    let known : Tables := [("users", ⟨"Users", [⟨"Id", "INTEGER", false⟩, ⟨"label", "TEXT", true⟩]⟩),
      ("teams", ⟨"teams", [⟨"Id", "BLOB", false⟩]⟩)]
    let sql := "SELECT u.id, U.Label AS Title FROM users AS u JOIN teams ON teams.id = 1"
    let sql' := "SELECT U.ID, u.LABEL AS Title FROM USERS AS u JOIN Teams ON teams.ID = 1"
    AlikeInCase .localSync sql.toList sql'.toList ∧
      infer .localSync known sql.toList = ⟨[⟨"Id", .number, false⟩, ⟨"Title", .string, true⟩], none⟩ ∧
      infer .localSync known sql'.toList = infer .localSync known sql.toList := by
  intro known sql sql'
  have halike : AlikeInCase .localSync sql.toList sql'.toList := by decide +kernel
  exact ⟨halike, by decide +kernel, (infer_alikeInCase .localSync known halike).1⟩

end Shape

end SqlContract
