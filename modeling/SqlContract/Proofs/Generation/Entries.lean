/-
Nothing that is read of a source is lost or counted twice.

Each part of a source makes at most one entry of a report, a statement or an error, and only a part
that declares no contract makes none.  The entries stand in the order of the parts and carry their
lines.  Generation moves statements and tables to the errors, and announces every error once.

Main definitions:

* `Entry` — what a part of a source puts into a report;
* `Entered` — the entries of the parts of a source;
* `Report.ofEntries` — the report that some entries make;
* `Report.MovesTo` — a report becomes another by moving entries to the errors.

Main results:

* `foldlM_entered` — **a run of reading makes one entry after the other**;
* `Marked.read_of_read_error` — a dialect that cannot be read is looked at or makes no difference;
* `entries_conserved` — **what becomes of every part of a source**.
-/

import SqlContract.Proofs.Generation.Claims
import SqlContract.Proofs.Generation.Totality
import SqlContract.Sql.Statement

set_option autoImplicit false
set_option relaxedAutoImplicit false

namespace SqlContract

open Sql

/-! ### Entries -/

/-- What a part of a source puts into a report. -/
inductive Entry
  | statement (c : Contract)
  | error (e : SourceError)
  deriving DecidableEq, Repr

namespace Entry

def statement? : Entry → Option Contract
  | statement c => some c
  | error _ => none

def error? : Entry → Option SourceError
  | statement _ => none
  | error e => some e

/-- The line that an entry carries. -/
def line? : Entry → Option Int
  | statement c => c.line
  | error e => e.line

/-- Entries without a statement are errors. -/
theorem eq_map_error {es : List Entry} (h : es.filterMap statement? = []) :
    es = (es.filterMap error?).map error := by
  induction es with
  | nil => rfl
  | cons e es ih =>
      cases e with
      | statement c => cases h
      | error e => exact congrArg (error e :: ·) (ih h)

end Entry

/-- The report that some entries make, with the errors `before` ahead of theirs. -/
def Report.ofEntries (tables : Tables) (before : List SourceError) (es : List Entry) : Report :=
  ({ Report.empty with tables } : Report).extend (es.filterMap Entry.statement?)
    (before ++ es.filterMap Entry.error?)

section

variable {α : Type}

/-- The entries that the parts of a source make, one part after the other.  A part that declares no
contract makes none.  A part that cannot be read makes an error, and one that gives a contract makes
a statement unless an entry before it is a statement of that name, and otherwise the error that says
so.  Every entry has the line of its part. -/
inductive Entered (read : α → Except SourceError (Option Contract)) (line : α → Int) :
    List α → List Entry → Prop
  | nil : Entered read line [] []
  | plain {xs : List α} {es : List Entry} {x : α} :
      Entered read line xs es → read x = .ok none → Entered read line (xs ++ [x]) es
  | unreadable {xs : List α} {es : List Entry} {x : α} {e : SourceError} :
      Entered read line xs es → read x = .error e → e.line = some (line x) →
      Entered read line (xs ++ [x]) (es ++ [.error e])
  | kept {xs : List α} {es : List Entry} {x : α} {c : Contract} :
      Entered read line xs es → read x = .ok (some c) → c.line = some (line x) →
      (∀ d, .statement d ∈ es → d.name ≠ c.name) →
      Entered read line (xs ++ [x]) (es ++ [.statement c])
  | repeated {xs : List α} {es : List Entry} {x : α} {c d : Contract} :
      Entered read line xs es → read x = .ok (some c) → c.line = some (line x) →
      .statement d ∈ es → d.name = c.name →
      Entered read line (xs ++ [x]) (es ++ [.error (Report.repeatedStatement c)])

/-- What the parts of a source give carries their lines. -/
structure Placed (read : α → Except SourceError (Option Contract)) (line : α → Int) : Prop where
  error : ∀ {x e}, read x = .error e → e.line = some (line x)
  statement : ∀ {x c}, read x = .ok (some c) → c.line = some (line x)

variable {read : α → Except SourceError (Option Contract)} {line : α → Int}

/-- Where every part declares a contract, there are as many entries as parts. -/
theorem Entered.length_eq {xs : List α} {es : List Entry} (h : Entered read line xs es)
    (hsome : ∀ x, read x ≠ .ok none) : es.length = xs.length := by
  induction h with
  | nil => rfl
  | plain _ hx => exact absurd hx (hsome _)
  | unreadable _ _ _ ih | kept _ _ _ _ ih | repeated _ _ _ _ _ ih =>
      rw [List.length_append, List.length_append, ih]
      rfl

/-- Where every part declares a contract, the entries carry the lines of the parts in order. -/
theorem Entered.lines_eq {xs : List α} {es : List Entry} (h : Entered read line xs es)
    (hsome : ∀ x, read x ≠ .ok none) : es.map Entry.line? = xs.map fun x => some (line x) := by
  induction h with
  | nil => rfl
  | plain _ hx => exact absurd hx (hsome _)
  | unreadable _ _ hline ih | kept _ _ hline _ ih | repeated _ _ hline _ _ ih =>
      rw [List.map_append, List.map_append, ih]
      exact congrArg (_ ++ [·]) hline

/-- A statement is what one of the parts gives. -/
theorem Entered.exists_of_statement {xs : List α} {es : List Entry} {c : Contract}
    (h : Entered read line xs es) (hc : .statement c ∈ es) : ∃ x ∈ xs, read x = .ok (some c) := by
  induction h with
  | nil => cases hc
  | plain _ _ ih =>
      obtain ⟨x, hx, hread⟩ := ih hc
      exact ⟨x, List.mem_append_left _ hx, hread⟩
  | unreadable _ _ _ ih | repeated _ _ _ _ _ ih =>
      have hc := (List.mem_append.1 hc).resolve_right (by simp)
      obtain ⟨x, hx, hread⟩ := ih hc
      exact ⟨x, List.mem_append_left _ hx, hread⟩
  | @kept _ _ x _ _ hread _ _ ih =>
      rcases List.mem_append.1 hc with hc | hc
      · obtain ⟨x, hx, hread⟩ := ih hc
        exact ⟨x, List.mem_append_left _ hx, hread⟩
      · obtain rfl := Entry.statement.inj (List.mem_singleton.1 hc)
        exact ⟨x, List.mem_append_right _ (List.mem_singleton.2 rfl), hread⟩

namespace Report

variable {tables : Tables} {before : List SourceError} {es : List Entry}

theorem ofEntries_concat_statement (c : Contract) :
    (ofEntries tables before es).extend [c] [] =
      ofEntries tables before (es ++ [.statement c]) := by
  unfold ofEntries
  rw [extend_extend]
  simp [List.filterMap_cons, Entry.statement?, Entry.error?]

theorem ofEntries_concat_error (e : SourceError) :
    (ofEntries tables before es).extend [] [e] = ofEntries tables before (es ++ [.error e]) := by
  unfold ofEntries
  rw [extend_extend]
  simp [List.filterMap_cons, Entry.statement?, Entry.error?]

theorem mem_statements_ofEntries {c : Contract} :
    c ∈ (ofEntries tables before es).statements ↔ .statement c ∈ es := by
  unfold ofEntries
  simp only [extend, empty, List.nil_append, List.mem_filterMap]
  constructor
  · rintro ⟨entry, hentry, hc⟩
    cases entry with
    | statement d => exact Option.some.inj hc ▸ hentry
    | error e => simp [Entry.statement?] at hc
  · exact fun h => ⟨_, h, rfl⟩

/-- Taking in one more part makes one more entry, or none. -/
theorem exists_takeIn_ofEntries (tables : Tables) (before : List SourceError) {es : List Entry}
    {xs : List α} (h : Entered read line xs es)
    (hplaced : Placed read line) (x : α) :
    ∃ es', Entered read line (xs ++ [x]) es' ∧
      (ofEntries tables before es).takeIn (read x) = ofEntries tables before es' := by
  cases hx : read x with
  | error e =>
      exact ⟨_, h.unreadable hx (hplaced.error hx), ofEntries_concat_error e⟩
  | ok c? =>
      cases c? with
      | none => exact ⟨es, h.plain hx, rfl⟩
      | some c =>
          have hline := hplaced.statement hx
          by_cases hname : c.name ∈ (ofEntries tables before es).statements.map (·.name)
          · obtain ⟨d, hd, hdc⟩ := List.mem_map.1 hname
            refine ⟨_, h.repeated hx hline (mem_statements_ofEntries.1 hd) hdc, ?_⟩
            exact (if_pos hname).trans (ofEntries_concat_error _)
          · refine ⟨_, h.kept hx hline fun d hd hdc => hname ?_, ?_⟩
            · exact List.mem_map.2 ⟨d, mem_statements_ofEntries.2 hd, hdc⟩
            · exact (if_neg hname).trans (ofEntries_concat_statement c)

end Report

/-- **A run of reading makes one entry after the other.** -/
theorem foldlM_entered {ε : Type} {tables : Tables} {step : Report → α → Except ε Report}
    (hstep : ∀ r x, r.tables = tables → step r x = .ok (r.takeIn (read x)))
    (hplaced : Placed read line) (before : List SourceError) (xs : List α) :
    ∃ es, Entered read line xs es ∧
      xs.foldlM step (.ofEntries tables before []) = .ok (.ofEntries tables before es) := by
  -- over the parts from the last one on, since an entry depends on those before it
  induction xs using List.reverseRecOn with
  | nil => exact ⟨[], .nil, rfl⟩
  | append_singleton xs x ih =>
      obtain ⟨es, hes, hrun⟩ := ih
      obtain ⟨es', hes', htake⟩ := Report.exists_takeIn_ofEntries tables before hes hplaced x
      refine ⟨es', hes', foldlM_concat hrun ?_⟩
      rw [hstep _ x rfl, htake]

end

/-! ### Lines of what is read -/

theorem Headed.placed_given (lead : String) : Placed (given lead) fun s => s.line where
  error := by
    intro s e h
    unfold given statement? at h
    split at h
    · simp at h
    · split_ifs at h
      · split at h
        · simp at h
        · rw [← Except.error.inj h]
          rfl
      · rw [← Except.error.inj h]
    · rw [← Except.error.inj h]
  statement := by
    intro s c h
    obtain ⟨name, rest, -, -, hbody⟩ := statement?_eq_some_iff.1 h
    obtain ⟨word, declared, card, fields, -, -, -, -, -, -, rfl⟩ := body_eq_ok_iff.1 hbody
    rfl

/-- A dialect that is read from a word, or the word is unknown. -/
theorem readDialect_cases (word : String) :
    (∃ d, ReadError.readDialect word = .ok d) ∨
      ReadError.readDialect word = .error (.unknownDialect word) := by
  unfold ReadError.readDialect
  cases Dialect.ofWord? word with
  | none => exact .inr rfl
  | some d => exact .inl ⟨d, rfl⟩

namespace Marked

variable [Sql.Parser] {d : Dialect} {lead : String} {known : Tables} {q : MarkedQuery}

theorem query_of_given {c : Contract} (h : given d lead known q = .ok (some c)) :
    query (.ok d) lead known q = .ok c := by
  unfold given at h
  split at h
  · rename_i hq
    rw [hq, Option.some.inj (Except.ok.inj h)]
  · simp at h
  · simp at h

theorem query_of_given_error {e : SourceError} (h : given d lead known q = .error e) :
    query (.ok d) lead known q = .error (.source e) := by
  unfold given at h
  split at h
  · simp at h
  · rename_i hq
    rw [hq, Except.error.inj h]
  · simp at h

/-- A query gives a contract or an error. -/
theorem given_ne_none : given d lead known q ≠ .ok none := by
  intro h
  unfold given at h
  split at h
  · simp at h
  · simp at h
  · rename_i hq
    obtain ⟨e, he⟩ := exists_source_of_query hq
    simp at he

theorem placed_given : Placed (given d lead known) fun q => q.line where
  error := by
    intro q e h
    have hq := query_of_given_error h
    unfold query at hq
    split_ifs at hq
    · obtain ⟨e', he, hsource⟩ := mapError_eq_error_iff.1 hq
      obtain ⟨cause, rfl⟩ := exists_cause_of_namedQuery he
      rw [← ReadError.source.inj hsource]
      rfl
    · rw [← ReadError.source.inj (Except.error.inj hq)]
  statement := by
    intro q c h
    have hq := query_of_given h
    unfold query at hq
    split_ifs at hq
    obtain ⟨-, header, sql, card, fields, params, shape, -, -, -, -, -, rfl⟩ :=
      exists_of_namedQuery (mapError_eq_ok_iff.1 hq)
    rfl

/-- The error of a statement that would define a table: there is one exactly if the statement opens
as a table definition does and cannot be read as one, and it has the line of the statement. -/
theorem definitionError?_eq_some_iff {s : Segment} {e : SourceError} :
    definitionError? d s = some e ↔
      definesTable s.text = true ∧
        ∃ cause, readTable d s.text = .error cause ∧ e = ⟨cause, none, some s.line⟩ := by
  unfold definitionError?
  by_cases hs : definesTable s.text = true
  · have hdefinition : definition (.ok d) s = (readTable d s.text).mapError fun cause =>
        .source ⟨cause, none, some s.line⟩ := if_pos hs
    rw [hdefinition]
    cases readTable d s.text with
    | ok t? => simp [Except.mapError, hs]
    | error cause => simp [Except.mapError, hs, eq_comm]
  · have hdefinition : definition (.ok d) s = .ok none := if_neg hs
    rw [hdefinition]
    simp [hs]

/-! ### Dialects that cannot be read -/

variable {strict : Bool} {r r' : Report}

/-- A dialect that cannot be read is an error, or makes no difference to a table definition. -/
theorem definition_error (word : String) (s : Segment) (d : Dialect) :
    definition (.error (.unknownDialect word)) s = .error (.unknownDialect word) ∨
      definition (.error (.unknownDialect word)) s = definition (.ok d) s := by
  unfold definition
  split_ifs
  · exact .inl rfl
  · exact .inr rfl

theorem rowShape_error (word : String) (known : Tables) (card : Cardinality)
    (header : List (List String)) (fields : Fields) (sql : List Char) (d : Dialect) :
    rowShape (.error (.unknownDialect word)) known card header fields sql =
        .error (.inl (.unknownDialect word)) ∨
      rowShape (.error (.unknownDialect word)) known card header fields sql =
        rowShape (.ok d) known card header fields sql := by
  unfold rowShape
  split_ifs
  · exact .inr rfl
  · exact .inr rfl
  · exact .inr rfl
  · exact .inl rfl

omit [Sql.Parser] in
/-- Where a first step gives the same, so do two runs, or one of them ends with the error. -/
theorem bind_error_or {ε α β : Type} {x : Except ε α} {f g : α → Except ε β} {e : ε}
    (h : ∀ a, f a = .error e ∨ f a = g a) : x >>= f = .error e ∨ x >>= f = x >>= g := by
  cases x with
  | error e' => exact .inr rfl
  | ok a => exact h a

theorem namedQuery_error (word lead : String) (known : Tables) (q : MarkedQuery) (d : Dialect) :
    namedQuery (.error (.unknownDialect word)) lead known q = .error (.inl (.unknownDialect word)) ∨
      namedQuery (.error (.unknownDialect word)) lead known q =
        namedQuery (.ok d) lead known q := by
  unfold namedQuery
  refine bind_error_or fun ⟨card, header, fields, sql⟩ => bind_error_or fun params => ?_
  rcases rowShape_error word known card header fields sql d with h | h
  · rw [h]
    exact .inl rfl
  · rw [h]
    exact .inr rfl

theorem query_error (word lead : String) (known : Tables) (q : MarkedQuery) (d : Dialect) :
    query (.error (.unknownDialect word)) lead known q = .error (.unknownDialect word) ∨
      query (.error (.unknownDialect word)) lead known q = query (.ok d) lead known q := by
  unfold query
  split_ifs
  · rcases namedQuery_error word lead known q d with h | h
    · rw [h]
      exact .inl rfl
    · rw [h]
      exact .inr rfl
  · exact .inr rfl

theorem readDefinition_of_error {word : String} {s : Segment} (d : Dialect)
    (h : readDefinition (.error (.unknownDialect word)) strict r s = .ok r') :
    readDefinition (.ok d) strict r s = .ok r' := by
  unfold readDefinition at h ⊢
  rcases definition_error word s d with hs | hs
  · rw [hs] at h
    simp [recover] at h
  · rwa [hs] at h

theorem readQuery_of_error {word : String} (d : Dialect)
    (h : readQuery (.error (.unknownDialect word)) lead strict r q = .ok r') :
    readQuery (.ok d) lead strict r q = .ok r' := by
  unfold readQuery at h ⊢
  rcases query_error word lead r.tables q d with hq | hq
  · rw [hq] at h
    simp [recover] at h
  · rwa [hq] at h

omit [Sql.Parser] in
/-- Steps that give the same where the first of them succeed make runs that do. -/
theorem foldlM_of_foldlM {ε α σ : Type} {f g : σ → α → Except ε σ}
    (h : ∀ s x s', f s x = .ok s' → g s x = .ok s') {xs : List α} {s s' : σ}
    (hrun : xs.foldlM f s = .ok s') : xs.foldlM g s = .ok s' := by
  induction xs generalizing s with
  | nil => exact hrun
  | cons x xs ih =>
      rw [List.foldlM_cons] at hrun ⊢
      obtain ⟨mid, hmid, hrun⟩ := bind_eq_ok_iff.1 hrun
      exact bind_eq_ok_iff.2 ⟨mid, h s x mid hmid, ih hrun⟩

/-- **A dialect that cannot be read ends the reading, or makes no difference.** -/
theorem read_of_read_error {word : String} {known : List Table} {text : List Char}
    (h : read (.error (.unknownDialect word)) lead strict known text = .ok r) (d : Dialect) :
    read (.ok d) lead strict known text = .ok r := by
  unfold read at h ⊢
  obtain ⟨mid, hmid, h⟩ := bind_eq_ok_iff.1 h
  refine bind_eq_ok_iff.2 ⟨mid, foldlM_of_foldlM (fun _ _ _ => readDefinition_of_error d) hmid, ?_⟩
  exact foldlM_of_foldlM (fun _ _ _ => readQuery_of_error d) h

end Marked

/-! ### Reports of sources -/

/-- What is read of a source with headers. -/
theorem Headed.exists_entered (lead : String) (text : List Char) :
    ∃ es, Entered (given lead) (fun s => s.line) (segments text) es ∧
      read lead false text = .ok (.ofEntries [] [] es) :=
  foldlM_entered (fun r s _ => readSegment_false lead r s) (placed_given lead) [] (segments text)

/-- What is read of a marked source. -/
theorem Marked.exists_entered [Sql.Parser] (d : Dialect) (lead : String) (known : List Table)
    (text : List Char) :
    let tables := allTables d known text
    ∃ es, Entered (given d lead tables) (fun q => q.line) (split text) es ∧
      es.length = (split text).length ∧
      read (.ok d) lead false known text =
        .ok (.ofEntries tables ((segments text).filterMap (definitionError? d)) es) := by
  intro tables
  set before := (segments text).filterMap (definitionError? d)
  have hdefined : (segments text).foldlM (readDefinition (.ok d) false)
      { Report.empty with tables := Tables.ofList known } = .ok (.ofEntries tables before []) := by
    rw [foldlM_readDefinition]
    simp [Report.ofEntries, Report.extend, tables, before, allTables]
  have hstep : ∀ (r : Report) (q : MarkedQuery), r.tables = tables →
      readQuery (.ok d) lead false r q = .ok (r.takeIn (given d lead tables q)) := by
    intro r q ht
    rw [readQuery_false, ht]
  obtain ⟨es, hes, hrun⟩ := foldlM_entered hstep placed_given before (split text)
  refine ⟨es, hes, hes.length_eq fun q => given_ne_none, ?_⟩
  exact bind_eq_ok_iff.2 ⟨_, hdefined, hrun⟩

/-! ### Reports of modules -/

/-- What becomes of the report `r` of a source when the module is generated: some of the tables and
some of the statements make way for errors, one for each, and the log announces every error once
before it sums up. -/
def Report.MovesTo (summary : Report → LogLine) (r r' : Report) : Prop :=
  ∃ tableErrors statementErrors,
    Moves tableClashed r.tables r'.tables tableErrors ∧
    Moves statementClashed r.statements r'.statements statementErrors ∧
    r'.errors = r.errors ++ tableErrors ++ statementErrors ∧
    r'.log = r'.errors.map .skipping ++ [summary r']

theorem movesTo_of_generate {config : Config} (hstrict : config.strict = false)
    {summary : Report → LogLine} (hsummary : ∀ r log, summary { r with log } = summary r)
    {tables : Tables} {before : List SourceError} {es : List Entry} {g : Generated}
    (h : generate config summary (.ofEntries tables before es) = .ok g) :
    (Report.ofEntries tables before es).MovesTo summary g.report := by
  obtain ⟨kept, tableErrors, statements, statementErrors, htables, hstatements, hclaim⟩ :=
    Report.exists_claimAll config.dialect (.ofEntries tables before es)
  rw [← hstrict] at hclaim
  rw [generate_eq hclaim] at h
  split_ifs at h
  obtain rfl := Except.ok.inj h
  refine ⟨tableErrors, statementErrors, htables, hstatements, rfl, ?_⟩
  -- reading logs nothing, so the log starts with the errors
  refine congrArg₂ (· ++ [·]) ?_ (hsummary _ _).symm
  simp [Report.ofEntries, Report.extend, Report.empty]

/-- **What becomes of every part of a source.**  Of a source with headers, each statement that declares
a contract makes exactly one entry of the report; of a marked source, each query does, and the errors
of its table definitions stand before theirs.  A dialect that is unknown ends the reading or makes no
difference.  What a module is generated of is the same report, from which statements and tables are
moved to the errors. -/
theorem entries_conserved [Sql.Parser] :
    (∀ lead text, ∃ es,
      Entered (Headed.given lead) (fun s => s.line) (segments text) es ∧
        Headed.read lead false text = .ok (.ofEntries [] [] es)) ∧
    (∀ d lead known text, ∃ es,
      Entered (Marked.given d lead (Marked.allTables d known text)) (fun q => q.line)
          (Marked.split text) es ∧
        es.length = (Marked.split text).length ∧
        Marked.read (.ok d) lead false known text = .ok (.ofEntries
          (Marked.allTables d known text)
          ((segments text).filterMap (Marked.definitionError? d)) es) ∧
        ∀ s e, Marked.definitionError? d s = some e ↔ definesTable s.text = true ∧
          ∃ cause, readTable d s.text = .error cause ∧ e = ⟨cause, none, some s.line⟩) ∧
    (∀ word lead known text r, Marked.read (.error (.unknownDialect word)) lead false known text =
      .ok r → ∀ d, Marked.read (.ok d) lead false known text = .ok r) ∧
    (∀ (config : Config) text g, config.strict = false → generateHeaded config text = .ok g →
      ∃ r, Headed.read config.lead false text = .ok r ∧ r.MovesTo headedSummary g.report) ∧
    ∀ (config : Config) known text g, config.strict = false →
      generateMarked config known text = .ok g →
        ∃ r, Marked.read (.ok config.dialect) config.lead false known text = .ok r ∧
          r.MovesTo markedSummary g.report := by
  refine ⟨Headed.exists_entered, fun d lead known text => ?_,
    fun word lead known text r h => Marked.read_of_read_error h, fun config text g hstrict hg => ?_,
    fun config known text g hstrict hg => ?_⟩
  · obtain ⟨es, hes, hlength, hread⟩ := Marked.exists_entered d lead known text
    exact ⟨es, hes, hlength, hread, fun s e => Marked.definitionError?_eq_some_iff⟩
  · obtain ⟨es, -, hread⟩ := Headed.exists_entered config.lead text
    refine ⟨_, hread, movesTo_of_generate hstrict (fun _ _ => rfl) ?_⟩
    unfold generateHeaded at hg
    rwa [hstrict, hread] at hg
  · obtain ⟨es, -, -, hread⟩ := Marked.exists_entered config.dialect config.lead known text
    refine ⟨_, hread, movesTo_of_generate hstrict (fun _ _ => rfl) ?_⟩
    unfold generateMarked at hg
    rwa [hstrict, hread] at hg

attribute [local instance] Sql.parser

/-- Errors of every stage.  Of tables of which two are called alike and one repeats a column, and of
statements of which one repeats a name, two are called alike and one cannot be read, the report of the
marked source has two tables, two statements and three errors.  One of the tables and one of the
statements move to the errors when the module is generated.  A dialect is not looked at where there is
no table and no row. -/
theorem entries_conserved_moved :
    let config : Config := {}
    let headed := ("-- @name getUser\n-- @count one\nSELECT 1;\nSELECT 0;\n" ++
      "-- @name get_user\n-- @count one\nSELECT 2;\n-- @name getUser\n-- @count one\nSELECT 2;\n" ++
      "-- @name b\n-- @count few\nSELECT 3").toList
    let marked := ("CREATE TABLE t (a INTEGER, A TEXT);\nCREATE TABLE a_b (x INTEGER);\n" ++
      "CREATE TABLE aB (x INTEGER);\n-- name: getUser :one\nSELECT 1;\n" ++
      "-- name: get_user :one\nSELECT 2;\n-- name: getUser :one\nSELECT 2;\n" ++
      "-- name: b :few\nSELECT 3").toList
    let rowless := "-- name: a :exec\nDELETE FROM t".toList
    let size (r : Report) := (r.tables.length, r.statements.length, r.errors.length, r.log.length)
    (∃ r g, Headed.read config.lead false headed = .ok r ∧ generateHeaded config headed = .ok g ∧
        r.MovesTo headedSummary g.report ∧ size r = (0, 2, 2, 2) ∧ size g.report = (0, 1, 3, 4)) ∧
      (∃ r g, Marked.read (.ok config.dialect) config.lead false [] marked = .ok r ∧
        generateMarked config [] marked = .ok g ∧ r.MovesTo markedSummary g.report ∧
        size r = (2, 2, 3, 3) ∧ size g.report = (1, 1, 5, 6)) ∧
      ∃ r, Marked.read (.error (.unknownDialect "x")) config.lead false [] rowless = .ok r ∧
        Marked.read (.ok config.dialect) config.lead false [] rowless = .ok r ∧
        size r = (0, 1, 0, 0) := by
  intro config headed marked rowless size
  obtain ⟨-, -, hunknown, hheaded, hmarked⟩ := entries_conserved
  refine ⟨?_, ?_, ?_⟩
  · obtain ⟨r, hr, hsize⟩ := exists_ok_of_map_toOption (f := size) (b := (0, 2, 2, 2))
      (x := Headed.read config.lead false headed) (by decide +kernel)
    obtain ⟨g, hg, hsize'⟩ := exists_ok_of_map_toOption (f := fun g : Generated => size g.report)
      (b := (0, 1, 3, 4)) (x := generateHeaded config headed) (by decide +kernel)
    obtain ⟨r', hr', hmoves⟩ := hheaded config headed g rfl hg
    obtain rfl := Except.ok.inj (hr.symm.trans hr')
    exact ⟨r, g, hr, hg, hmoves, hsize, hsize'⟩
  · obtain ⟨r, hr, hsize⟩ := exists_ok_of_map_toOption (f := size) (b := (2, 2, 3, 3))
      (x := Marked.read (.ok config.dialect) config.lead false [] marked) (by decide +kernel)
    obtain ⟨g, hg, hsize'⟩ := exists_ok_of_map_toOption (f := fun g : Generated => size g.report)
      (b := (1, 1, 5, 6)) (x := generateMarked config [] marked) (by decide +kernel)
    obtain ⟨r', hr', hmoves⟩ := hmarked config [] marked g rfl hg
    obtain rfl := Except.ok.inj (hr.symm.trans hr')
    exact ⟨r, g, hr, hg, hmoves, hsize, hsize'⟩
  · obtain ⟨r, hr, hsize⟩ := exists_ok_of_map_toOption (f := size) (b := (0, 1, 0, 0))
      (x := Marked.read (.error (.unknownDialect "x")) config.lead false [] rowless)
      (by decide +kernel)
    exact ⟨r, hr, hunknown _ _ _ _ r hr config.dialect, hsize⟩

end SqlContract
