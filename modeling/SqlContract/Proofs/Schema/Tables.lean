/-
Tables as they are defined.

A table definition is CREATE TABLE, perhaps with a word for a temporary table, perhaps with
IF NOT EXISTS, a quoted name, and columns and constraints in brackets.  It is read by the parser, of
which nothing is asked but that it delivers the parts of the definition in their order: a column as a
name alone or as a definition with its type and its constraints, NULL and NOT NULL as nodes of one kind
that only their text tells apart, and anything else as a node of another kind, whatever stands in it.
Then the definition gives the table of its name with its columns, in their order, unless two of them
have one name.

What is left out: behind the rule of a computed column that has no type, a NOT NULL is no part that is
delivered on its own, and such a column is nullable all the same.

Main definitions:

* `Word`, `Lays` — the words of a definition, and how they are laid out in a text;
* `WrittenTable` — a table definition as it is written, and `WrittenTable.table`, what it defines;
* `WrittenTable.Delivered` — the parser delivers the parts of a definition in their order.

Main results:

* `WrittenColumn.declared?_eq` — a column is declared as it is written, however it is delivered;
* `WrittenTable.readTable_eq` — **a table definition is read completely**, or is malformed.
-/

import SqlContract.Proofs.Schema.Lookup
import SqlContract.Sql.Statement

set_option autoImplicit false
set_option relaxedAutoImplicit false

namespace SqlContract.Sql

open SqlContract.Text

/-! ### Words and their layout -/

/-- A word of a definition: a keyword in any case, a name in double quotes, or anything else as it
stands. -/
inductive Word
  | keyword (spelling : String)
  | quoted (name : String)
  | raw (text : List Char)
  deriving DecidableEq, Repr

/-- A text writes a word. -/
def Word.IsWritten : Word → List Char → Prop
  | .keyword s, t => upper t = s.toList
  | .quoted name, t => t = '"' :: (name.toList.flatMap (fun c => if c = '"' then ['"', '"'] else [c]) ++
      ['"'])
  | .raw text, t => t = text

instance (w : Word) (t : List Char) : Decidable (w.IsWritten t) :=
  match w with
  | .keyword _ | .quoted _ | .raw _ => inferInstanceAs (Decidable (_ = _))

/-- **Words are laid out in a text** with blanks and comments around them. -/
inductive Lays : List Word → List Char → Prop
  | nil {gap : List Char} : AllBlank (withoutComments gap) → Lays [] gap
  | cons {gap text rest : List Char} {w : Word} {ws : List Word} :
      AllBlank (withoutComments gap) → w.IsWritten text → Lays ws rest →
      Lays (w :: ws) (gap ++ (text ++ rest))

/-- A word as it is written in capitals. -/
def Word.text : Word → List Char
  | .keyword s => s.toList
  | .quoted name => '"' :: (name.toList.flatMap (fun c => if c = '"' then ['"', '"'] else [c]) ++ ['"'])
  | .raw text => text

/-- Words with a space before each. -/
def spaced (ws : List Word) : List Char :=
  ws.flatMap fun w => ' ' :: w.text

theorem lays_spaced {ws : List Word} (h : ∀ w ∈ ws, w.IsWritten w.text) : Lays ws (spaced ws) := by
  induction ws with
  | nil =>
      refine .nil ?_
      rw [withoutComments, spaced, List.flatMap_nil, scan_nil]
      exact fun c hc => absurd hc List.not_mem_nil
  | cons w ws ih =>
      have hgap : AllBlank (withoutComments [' ']) := by
        have hcode : withoutComments [' '] = [' '] := by decide +kernel
        rw [hcode]
        exact fun c hc => by rw [List.mem_singleton.1 hc]; rfl
      have hrest := ih fun k hk => h k (List.mem_cons_of_mem w hk)
      exact .cons hgap (h w List.mem_cons_self) hrest

/-! ### Definitions -/

/-- What a constraint of a column says.  Any other rule may hold what it likes: a default, a check, a
reference, the rule of a computed column. -/
inductive Rule
  | null
  | notNull
  | other (text : List Char)
  deriving DecidableEq, Repr

/-- A constraint of a column, with the name it may have. -/
structure WrittenConstraint where
  label? : Option String
  rule : Rule

/-- The type of a column as it is written, and what the parser makes of it. -/
structure WrittenType where
  text : List Char
  tree : Tree

structure WrittenColumn where
  name : String
  type? : Option WrittenType
  constraints : List WrittenConstraint

/-- How long a table lasts, in words. -/
inductive Lifetime
  | lasting
  | temp
  | temporary
  deriving DecidableEq, Repr

structure WrittenTable where
  lifetime : Lifetime
  ifNotExists : Bool
  name : String
  columns : List WrittenColumn
  /-- The constraints of the table as a whole. -/
  constraints : List (List Char)

namespace Rule

def words : Rule → List Word
  | .null => [.keyword "NULL"]
  | .notNull => [.keyword "NOT", .keyword "NULL"]
  | .other text => [.raw text]

/-- The node that a rule is delivered as. -/
def Delivered : Rule → Tree → Prop
  | .null, t => t.kind = .nullness ∧ t.text ≠ ""
  | .notNull, t => t.kind = .nullness ∧ t.text = ""
  | .other _, t => t.kind ≠ .nullness ∧ t.kind ≠ .type

instance (r : Rule) (t : Tree) : Decidable (r.Delivered t) :=
  match r with
  | .null | .notNull | .other _ => inferInstanceAs (Decidable (_ ∧ _))

end Rule

def WrittenConstraint.words (c : WrittenConstraint) : List Word :=
  ((c.label?.map fun name => [Word.keyword "CONSTRAINT", .quoted name]).getD []) ++ c.rule.words

namespace WrittenColumn

def words (c : WrittenColumn) : List Word :=
  .quoted c.name :: ((c.type?.map fun type => Word.raw type.text).toList ++
    c.constraints.flatMap WrittenConstraint.words)

/-- The column that is declared: it may be null unless a NOT NULL is among its own constraints. -/
def column [Parser] (d : Dialect) (c : WrittenColumn) : Column :=
  ⟨c.name, (c.type?.map fun type => Parser.spell d type.tree).getD "",
    !c.constraints.any fun k => k.rule == .notNull⟩

/-- The node that a column is delivered as: a name alone, where nothing but the name is written, or a
definition with the type and the constraints in their order. -/
inductive Delivered (c : WrittenColumn) : Tree → Prop
  | bare {t : Tree} : c.type? = none → c.constraints = [] → t.isName = true ∨ t.kind = .column →
      t.name = c.name → Delivered c t
  | defined {text : String} {name : Tree} {more : List Tree} :
      name.ownName = c.name → (more.find? (·.kind == .type)) = c.type?.map WrittenType.tree →
      List.Forall₂ Rule.Delivered (c.constraints.map WrittenConstraint.rule)
        (more.filter (·.kind != .type)) →
      Delivered c (.node .columnDefinition text (name :: more))

end WrittenColumn

/-- The node that a constraint of a table is delivered as declares no column. -/
def DeclaresNothing (t : Tree) : Prop :=
  t.kind ≠ .columnDefinition ∧ t.isName = false ∧ t.kind ≠ .column

namespace WrittenTable

def words (w : WrittenTable) : List Word :=
  let lifetime : List Word := match w.lifetime with
    | .lasting => []
    | .temp => [.keyword "TEMP"]
    | .temporary => [.keyword "TEMPORARY"]
  let existence : List Word :=
    if w.ifNotExists then [.keyword "IF", .keyword "NOT", .keyword "EXISTS"] else []
  let entries := w.columns.map WrittenColumn.words ++ w.constraints.map fun text => [Word.raw text]
  .keyword "CREATE" :: (lifetime ++ .keyword "TABLE" :: (existence ++
    .quoted w.name :: .keyword "(" :: ([Word.keyword ","].intercalate entries ++ [.keyword ")"])))

/-- The table that is defined. -/
def table [Parser] (d : Dialect) (w : WrittenTable) : Table :=
  ⟨w.name, w.columns.map (WrittenColumn.column d)⟩

/-- **The parser delivers the parts of a definition in their order.** -/
structure Delivered [Parser] (d : Dialect) (w : WrittenTable) (sql : List Char) : Prop where
  /-- The definition is written in the text. -/
  written : Lays w.words sql
  /-- Its name, its columns and the constraints behind them are the parts of its tree. -/
  parsed : ∃ tree schema columns constraints, Parser.parse d sql = .ok tree ∧
    tree.kind = .definition ∧ upper tree.text.toList = "TABLE".toList ∧
    tree.parts.head? = some schema ∧ schema.kind = .schema ∧
    (schema.part? .table).map Tree.text = some w.name ∧ schema.items = columns ++ constraints ∧
    List.Forall₂ WrittenColumn.Delivered w.columns columns ∧
    constraints.length = w.constraints.length ∧ ∀ t ∈ constraints, DeclaresNothing t

end WrittenTable

/-! ### What is declared -/

theorem Rule.Delivered.forbidsNull {r : Rule} {t : Tree} (h : r.Delivered t) :
    t.forbidsNull = (r == .notNull) := by
  obtain ⟨kind, text, parts⟩ := t
  cases r with
  | null =>
      obtain ⟨rfl, htext⟩ := h
      have htext : text ≠ "" := htext
      change text.isEmpty = false
      simpa using htext
  | notNull =>
      obtain ⟨rfl, rfl⟩ := h
      rfl
  | other =>
      have hne : kind ≠ .nullness := h.1
      have hkind : (kind == .nullness) = false := by simpa using hne
      change (kind == .nullness && text.isEmpty) = false
      rw [hkind, Bool.false_and]

/-- Whether a null is forbidden is told by the constraints, in whatever order they stand. -/
theorem any_forbidsNull {rules : List Rule} {ts : List Tree}
    (h : List.Forall₂ Rule.Delivered rules ts) :
    ts.any Tree.forbidsNull = rules.any (· == .notNull) := by
  induction h with
  | nil => rfl
  | cons hrule _ ih => rw [List.any_cons, List.any_cons, hrule.forbidsNull, ih]

/-- A type forbids nothing. -/
theorem any_forbidsNull_filter (ts : List Tree) :
    (ts.filter (·.kind != .type)).any Tree.forbidsNull = ts.any Tree.forbidsNull := by
  rw [List.any_filter]
  refine List.any_congr rfl fun t => ?_
  cases hkind : t.kind <;> simp [Tree.forbidsNull, hkind]

section

variable [Parser] {d : Dialect}

/-- **A column is declared as it is written**, however it is delivered. -/
theorem WrittenColumn.declared?_eq {c : WrittenColumn} {t : Tree} (h : c.Delivered t) :
    declared? d t = some (c.column d) := by
  cases h with
  | bare htype hconstraints ht hname =>
      have hkind : (t.kind == .columnDefinition) = false := by
        rcases ht with ht | ht
        · unfold Tree.isName Tree.isOneOf at ht
          cases hk : t.kind <;> simp [hk] at ht ⊢
        · rw [ht]
          rfl
      have hbare : (t.isName || t.kind == .column) = true := by
        rcases ht with ht | ht <;> simp [ht]
      unfold declared? column
      rw [hkind, if_neg Bool.false_ne_true, if_pos hbare, hname, htype, hconstraints]
      rfl
  | defined hname htype hrules =>
      rename_i text name more
      change some (⟨name.ownName,
        ((more.find? (·.kind == .type)).map (Parser.spell d)).getD "",
        !more.any Tree.forbidsNull⟩ : Column) = _
      rw [hname, htype, ← any_forbidsNull_filter, any_forbidsNull hrules, List.any_map,
        Option.map_map]
      rfl

theorem declared?_of_declaresNothing {t : Tree} (h : DeclaresNothing t) : declared? d t = none := by
  obtain ⟨hdefinition, hname, hcolumn⟩ := h
  unfold declared?
  rw [if_neg (by simpa using hdefinition), if_neg (by simp [hname, hcolumn])]

/-- **The columns of a table are those that are written**, and its constraints are passed over. -/
theorem filterMap_declared? {cs : List WrittenColumn} {columns : List Tree}
    (h : List.Forall₂ WrittenColumn.Delivered cs columns) {rest : List Tree}
    (hrest : ∀ t ∈ rest, DeclaresNothing t) :
    (columns ++ rest).filterMap (declared? d) = cs.map (WrittenColumn.column d) := by
  induction h with
  | nil =>
      rw [List.nil_append, List.map_nil, List.filterMap_eq_nil_iff]
      exact fun t ht => declared?_of_declaresNothing (hrest t ht)
  | cons hcolumn _ ih =>
      rw [List.cons_append, List.filterMap_cons_some (WrittenColumn.declared?_eq hcolumn), ih,
        List.map_cons]

namespace WrittenTable

variable {w : WrittenTable} {sql : List Char}

/-- The definition that is read. -/
theorem Delivered.read_eq (h : w.Delivered d sql) :
    Definition.read d sql = .ok (.table (w.table d)) := by
  obtain ⟨tree, schema, columns, constraints, hparse, hkind, htext, hhead, hschema, hname, hitems,
    hcolumns, -, hnothing⟩ := h.parsed
  have htree : Definition.ofTree d tree = .table (w.table d) := by
    unfold Definition.ofTree
    rw [hhead]
    dsimp only
    rw [if_pos (by simp [hkind, htext, hschema]), hname, hitems, filterMap_declared? hcolumns hnothing]
    rfl
  rw [Definition.read, hparse]
  exact congrArg Except.ok htree

/-- **A table definition is read completely.**  If no two of its columns have one name, whatever the
case, then it gives a table of its name with exactly its columns, in their order.  A column is nullable
unless there is a NOT NULL among its constraints, and has an empty type if it has none.  If two columns
have one name, the definition is malformed, and the error has the line that is given. -/
theorem readTable_eq (h : w.Delivered d sql) (line? : Option Int) :
    ((w.columns.map fun c => caseKey c.name).Nodup → readTable d sql = .ok (some (w.table d))) ∧
      (¬ (w.columns.map fun c => caseKey c.name).Nodup → ∃ before c behind e,
        w.columns = before ++ c :: behind ∧ (∃ b ∈ before, caseKey b.name = caseKey c.name) ∧
          (readTable d sql).mapError (fun cause => (⟨cause, none, line?⟩ : SourceError)) = .error e ∧
          e.cause = .repeatedColumn ⟨c.name, w.name⟩ ∧ e.kind = .malformedTable ∧
          e.line = line?) := by
  have hnames : (w.table d).columns.map (fun c => caseKey c.name) =
      w.columns.map fun c => caseKey c.name := by
    rw [table, List.map_map]
    rfl
  constructor
  · intro hnodup
    rw [← hnames] at hnodup
    simp only [readTable, h.read_eq, Table.fault?_eq_none hnodup]
  · intro hrepeated
    rw [← hnames] at hrepeated
    obtain ⟨before, c, behind, hsplit, ⟨b, hb, hkey⟩, hfault⟩ := Table.exists_fault? hrepeated
    -- the columns of the table are those of the definition, one by one
    obtain ⟨ws, wmore, hws, rfl, hmore⟩ := List.map_eq_append_iff.1 hsplit
    obtain ⟨v, wbehind, rfl, rfl, rfl⟩ := List.map_eq_cons_iff.1 hmore
    obtain ⟨k, hk, rfl⟩ := List.mem_map.1 hb
    refine ⟨ws, v, wbehind, ⟨.repeatedColumn ⟨v.name, w.name⟩, none, line?⟩, hws, ⟨k, hk, hkey⟩, ?_,
      rfl, rfl, rfl⟩
    simp only [readTable, h.read_eq, hfault]
    rfl

end WrittenTable

end

attribute [local instance] Sql.parser

namespace WrittenTable

/-- A definition with types, a default, a check, a reference and a name for a constraint, and one of
the same form whose columns share a name. -/
theorem readTable_eq_temporary :
    let type (text : String) (tree : Tree) : Option WrittenType := some ⟨text.toList, tree⟩
    let rule (text : String) : WrittenConstraint := ⟨none, .other text.toList⟩
    let integer : Tree := .leaf .type "INTEGER"
    let text10 : Tree := .node .type "TEXT(10)" [.leaf .other ""]
    let id : WrittenColumn :=
      ⟨"id", type "INTEGER" integer, [⟨some "k", .notNull⟩, rule "DEFAULT 0"]⟩
    let age : WrittenColumn := ⟨"age", type "VARCHAR(10)" text10,
      [rule "CHECK (\"age\" IS NOT NULL)", ⟨none, .null⟩]⟩
    let owner : WrittenColumn := ⟨"owner", type "INT" integer,
      [rule "REFERENCES \"U\" (\"id\")", ⟨none, .notNull⟩]⟩
    let w (last : String) : WrittenTable :=
      ⟨.temp, true, "T", [id, age, owner, ⟨last, none, []⟩],
        ["PRIMARY KEY (\"id\")".toList, "CHECK (\"id\" > 0)".toList]⟩
    (∀ last ∈ ["note", "ID"], (w last).Delivered .localSync (spaced (w last).words)) ∧
      readTable .localSync (spaced (w "note").words) = .ok (some ⟨"T",
        [⟨"id", "INTEGER", false⟩, ⟨"age", "TEXT(10)", true⟩, ⟨"owner", "INTEGER", false⟩,
          ⟨"note", "", true⟩]⟩) ∧
      ∃ e, (readTable .localSync (spaced (w "ID").words)).mapError
          (fun cause => (⟨cause, none, some 7⟩ : SourceError)) = .error e ∧
        e.kind = .malformedTable ∧ e.line = some 7 := by
  intro type rule integer text10 id age owner w
  let columns (last : String) : List Tree := [
    .of .columnDefinition [.leaf .quotedName "id", integer, .leaf .nullness "", .of .constraint []],
    .of .columnDefinition [.leaf .quotedName "age", text10, .of .constraint [],
      .leaf .nullness "NULL"],
    .of .columnDefinition [.leaf .quotedName "owner", integer, .of .constraint [.of .schema
      [.node .table "U" [.leaf .quotedName "U"], .of .items [.leaf .quotedName "id"]]],
      .leaf .nullness ""],
    .leaf .quotedName last]
  let rules : List Tree := [.of .constraint [], .of .constraint []]
  let schema (last : String) : Tree := .of .schema
    [.node .table "T" [.leaf .quotedName "T"], .of .items (columns last ++ rules)]
  have hwords : ∀ last ∈ ["note", "ID"], ∀ k ∈ (w last).words, k.IsWritten k.text := by
    decide +kernel
  have hparse : ∀ last ∈ ["note", "ID"], Parser.parse .localSync (spaced (w last).words) =
      .ok (.node .definition "TABLE" [schema last]) := by
    decide +kernel
  have hcolumns : ∀ last, List.Forall₂ WrittenColumn.Delivered (w last).columns (columns last) := by
    intro last
    refine .cons (.defined rfl rfl ?_) (.cons (.defined rfl rfl ?_) (.cons (.defined rfl rfl ?_)
      (.cons (.bare rfl rfl (.inl rfl) rfl) .nil)))
    · exact .cons ⟨rfl, rfl⟩ (.cons ⟨by decide, by decide⟩ .nil)
    · exact .cons ⟨by decide, by decide⟩ (.cons ⟨rfl, by decide⟩ .nil)
    · exact .cons ⟨by decide, by decide⟩ (.cons ⟨rfl, rfl⟩ .nil)
  have hrules : ∀ t ∈ rules, DeclaresNothing t := by
    intro t ht
    obtain rfl : t = .of .constraint [] := by simpa [rules] using ht
    exact ⟨by decide, rfl, by decide⟩
  have hword : upper "TABLE".toList = "TABLE".toList := by decide +kernel
  have hdelivered : ∀ last ∈ ["note", "ID"],
      (w last).Delivered .localSync (spaced (w last).words) := fun last hlast =>
    ⟨lays_spaced (hwords last hlast), _, schema last, columns last, rules, hparse last hlast, rfl,
      hword, rfl, rfl, rfl, rfl, hcolumns last, rfl, hrules⟩
  refine ⟨hdelivered, ?_, ?_⟩
  · exact (readTable_eq (hdelivered "note" (by simp)) none).1 (by decide +kernel)
  · obtain ⟨_, _, _, e, -, -, he, -, hkind, hline⟩ :=
      (readTable_eq (hdelivered "ID" (by simp)) (some 7)).2 (by decide +kernel)
    exact ⟨e, he, hkind, hline⟩

/-- The NOT NULL of a computed column without a type is taken for a part of its rule, and the column is
nullable.  With a type the same column is not. -/
theorem nullable_of_untyped_rule :
    let start := "CREATE TABLE \"t\" (\"b\" INT, "
    let untyped := (start ++ "\"a\" AS (\"b\" + 1) STORED NOT NULL)").toList
    let typed := (start ++ "\"a\" INT AS (\"b\" + 1) STORED NOT NULL)").toList
    readTable .localSync untyped = .ok (some ⟨"t", [⟨"b", "INTEGER", true⟩, ⟨"a", "", true⟩]⟩) ∧
      readTable .localSync typed =
        .ok (some ⟨"t", [⟨"b", "INTEGER", true⟩, ⟨"a", "INTEGER", false⟩]⟩) := by
  decide +kernel

end WrittenTable

end SqlContract.Sql
