/-
Writing contracts and reading them back.

A contract is written as a statement with a header, one line for each of its parts.  The texts of
several contracts stand one behind the other, and each has to be read as if it stood alone: the scan
starts afresh behind every semicolon that ends a statement, because the SQL before it leaves nothing
open and the line feed before the semicolon ends a comment.

Main definitions:

* `Contract.written` — a contract as a statement with a header;
* `Contract.Writable` — the contracts that have such a form;
* `placed` — contracts with the lines that they stand on.

Main results:

* `Contract.gives_written` — what one written contract gives;
* `forall₂_gives_written` — **each written contract is one statement of the text**;
* `read_written` — **contracts that are written are read back**.
-/

import SqlContract.Proofs.Headed.Fields
import SqlContract.Proofs.Headed.Statement

set_option autoImplicit false
set_option relaxedAutoImplicit false

namespace SqlContract

open Text Sql

/-! ### Contracts as they are written -/

namespace Contract

/-- The words of the header lines that declare a contract. -/
def headerWords (c : Contract) : List (List String) :=
  ["name", c.name] :: ["count", c.cardinality.word] ::
    ((c.parameters.map fun p => Fields.lineOf .param p.name p.scalarType) ++
      c.returns.map fun r => Fields.lineOf .returns r.name r.scalarType)

/-- The header lines that declare a contract. -/
def header (c : Contract) : List Char :=
  (c.headerWords.map Header.line).flatMap (· ++ ['\n'])

/-- The header lines of a contract and its SQL, each line with a line feed behind it. -/
def statement (c : Contract) : List Char :=
  c.header ++ (c.sql.toList ++ ['\n'])

/-- A contract as a statement with a header, and a line with the semicolon that ends it. -/
def written (c : Contract) : List Char :=
  c.statement ++ [';', '\n']

/-- Contracts that can be written as a statement with a header. -/
structure Writable (c : Contract) : Prop where
  name : isIdentifier c.name = true
  parameters : ∀ p ∈ c.parameters,
    isIdentifier p.name = true ∧ p.scalarType ∈ ScalarType.declarable
  returns : ∀ r ∈ c.returns, isIdentifier r.name = true ∧ r.scalarType ∈ ScalarType.declarable
  notNullable : ∀ r ∈ c.returns, r.nullable = false
  nodup_parameters : (c.parameters.map (·.name)).Nodup
  nodup_returns : (c.returns.map (·.name)).Nodup
  exec : c.cardinality = .exec → c.returns = []
  sourceTable : c.sourceTable = none
  count : placeholderCount c.sql.toList = c.parameters.length
  sql_ne : c.sql.toList ≠ []
  /-- The SQL has no blanks at its ends. -/
  strip_sql : strip c.sql.toList = c.sql.toList
  /-- Line feeds are its only line breaks. -/
  lineFeeds : ∀ x ∈ c.sql.toList, isLineBreak x = true → x = '\n'
  /-- It does not start with a header line. -/
  lead : ¬ Header.defaultLead.toList <+: c.sql.toList
  /-- It is one statement. -/
  semicolon : .semicolon ∉ scan c.sql.toList
  /-- Its quotes and block comments are closed. -/
  closed : ¬ LeavesOpen (scan c.sql.toList)

instance (c : Contract) : Decidable c.Writable :=
  decidable_of_iff
    (isIdentifier c.name = true ∧
      (∀ p ∈ c.parameters,
        isIdentifier p.name = true ∧ p.scalarType ∈ ScalarType.declarable) ∧
      (∀ r ∈ c.returns, isIdentifier r.name = true ∧ r.scalarType ∈ ScalarType.declarable) ∧
      (∀ r ∈ c.returns, r.nullable = false) ∧
      (c.parameters.map (·.name)).Nodup ∧ (c.returns.map (·.name)).Nodup ∧
      (c.cardinality = .exec → c.returns = []) ∧ c.sourceTable = none ∧
      placeholderCount c.sql.toList = c.parameters.length ∧ c.sql.toList ≠ [] ∧
      strip c.sql.toList = c.sql.toList ∧
      (c.sql.toList.all fun x => !isLineBreak x || x == '\n') = true ∧
      ¬ Header.defaultLead.toList <+: c.sql.toList ∧ .semicolon ∉ scan c.sql.toList ∧
      ¬ LeavesOpen (scan c.sql.toList))
    (by
      rw [List.all_eq_true]
      constructor
      · rintro ⟨h₁, h₂, h₃, h₄, h₅, h₆, h₇, h₈, h₉, h₁₀, h₁₁, h₁₂, h₁₃, h₁₄, h₁₅⟩
        refine ⟨h₁, h₂, h₃, h₄, h₅, h₆, h₇, h₈, h₉, h₁₀, h₁₁, fun x hx hb => ?_, h₁₃, h₁₄, h₁₅⟩
        simpa [hb] using h₁₂ x hx
      · rintro ⟨h₁, h₂, h₃, h₄, h₅, h₆, h₇, h₈, h₉, h₁₀, h₁₁, h₁₂, h₁₃, h₁₄, h₁₅⟩
        refine ⟨h₁, h₂, h₃, h₄, h₅, h₆, h₇, h₈, h₉, h₁₀, h₁₁, fun x hx => ?_, h₁₃, h₁₄, h₁₅⟩
        cases hb : isLineBreak x with
        | false => rfl
        | true => simp [h₁₂ x hx hb])

end Contract

/-- Contracts with the lines that they stand on when they are written one behind the other, the
first of them on line `line`. -/
def placed (line : Nat) : List Contract → List Contract
  | [] => []
  | c :: cs => { c with line := some (line : Int) } :: placed (line + lineFeeds c.written) cs

theorem map_name_placed (cs : List Contract) (line : Nat) :
    (placed line cs).map (·.name) = cs.map (·.name) := by
  induction cs generalizing line with
  | nil => rfl
  | cons c cs ih => rw [placed, List.map_cons, List.map_cons, ih]

/-! ### The header -/

theorem Cardinality.isWord_word (k : Cardinality) : IsWord k.word := by
  cases k <;> decide

theorem FieldKind.isWord_word (kind : FieldKind) : IsWord kind.word := by
  cases kind <;> decide

theorem ScalarType.isWord_word (type : ScalarType) : IsWord type.word := by
  cases type <;> decide

theorem isWord_of_mem_lineOf {kind : FieldKind} {name w : String} {type : ScalarType}
    (h : isIdentifier name = true) (hw : w ∈ Fields.lineOf kind name type) : IsWord w := by
  simp only [Fields.lineOf, List.mem_cons, List.not_mem_nil, or_false] at hw
  rcases hw with rfl | rfl | rfl
  · exact kind.isWord_word
  · exact isWord_of_isIdentifier h
  · exact type.isWord_word

namespace Contract

variable {c : Contract}

/-- The header lines of a contract hold words. -/
theorem Writable.isWord (h : c.Writable) : ∀ ws ∈ c.headerWords, ∀ w ∈ ws, IsWord w := by
  intro ws hws w hw
  simp only [headerWords, List.mem_cons, List.mem_append, List.mem_map] at hws
  rcases hws with rfl | rfl | ⟨p, hp, rfl⟩ | ⟨r, hr, rfl⟩
  · simp only [List.mem_cons, List.not_mem_nil, or_false] at hw
    rcases hw with rfl | rfl
    · decide
    · exact isWord_of_isIdentifier h.name
  · simp only [List.mem_cons, List.not_mem_nil, or_false] at hw
    rcases hw with rfl | rfl
    · decide
    · exact c.cardinality.isWord_word
  · exact isWord_of_mem_lineOf (h.parameters p hp).1 hw
  · exact isWord_of_mem_lineOf (h.returns r hr).1 hw

/-- **What one written contract gives**: the contract, on the line of its statement. -/
theorem gives_written (h : c.Writable) {pre : List Char} (hpre : pre = [] ∨ pre = ['\n'])
    (line : Nat) (terminated : Bool) :
    Headed.Gives Header.defaultLead
      ⟨pre ++ c.statement, line, terminated⟩
      { c with line := some (line : Int) } := by
  have hsplit : Header.split Header.defaultLead (pre ++ c.statement) =
      (c.headerWords, c.sql.toList) :=
    Header.split_written hpre (by simp [headerWords]) h.isWord h.sql_ne h.strip_sql h.lineFeeds
      h.lead
  have hfields := Fields.ofLines_lineOf h.parameters h.returns h.notNullable h.nodup_parameters
    h.nodup_returns
  have hcard : Cardinality.ofWord? c.cardinality.word = some c.cardinality := by
    cases c.cardinality <;> rfl
  have hexec : ¬ (c.cardinality = .exec ∧ c.returns ≠ []) := fun he => he.2 (h.exec he.1)
  have hbody : Headed.body c.name (some (line : Int)) (c.headerWords.drop 1) c.sql.toList =
      .ok { c with line := some (line : Int) } := by
    refine Headed.body_eq_ok_iff.2 ⟨_, _, c.cardinality, ⟨c.parameters, c.returns⟩, rfl, hcard,
      hfields, h.sql_ne, hexec, h.count, ?_⟩
    rw [String.ofList_toList, ← h.sourceTable]
  refine Headed.statement?_eq_some_iff.2 ⟨c.name, c.headerWords.drop 1, ?_, h.name, ?_⟩
  · rw [hsplit]
    rfl
  · rw [hsplit]
    exact hbody

/-- A header starts with a minus. -/
theorem exists_header_eq_cons (c : Contract) : ∃ u, c.header = '-' :: u := by
  rw [header, headerWords, List.map_cons, List.flatMap_cons, Header.line,
    Header.toList_defaultLead]
  exact ⟨_, rfl⟩

/-! ### The text of several contracts -/

/-- Header lines are comments of their own, whatever follows them. -/
theorem exists_scan_header {wss : List (List String)} (h : ∀ ws ∈ wss, ∀ w ∈ ws, IsWord w) :
    ∃ ps, .semicolon ∉ ps ∧
      ∀ t, scan ((wss.map Header.line).flatMap (· ++ ['\n']) ++ t) = ps ++ scan t := by
  induction wss with
  | nil => exact ⟨[], List.not_mem_nil, fun t => rfl⟩
  | cons ws wss ih =>
      obtain ⟨ps, hps, hscan⟩ := ih fun vs hvs => h vs (List.mem_cons_of_mem ws hvs)
      have hline := Header.scan_line_append (h ws List.mem_cons_self)
      refine ⟨.lineComment ((Header.line ws).drop 2) :: .plain '\n' :: ps, ?_, fun t => ?_⟩
      · simpa using hps
      · rw [List.map_cons, List.flatMap_cons, List.append_assoc, List.append_assoc,
          List.singleton_append, hline, hscan]
        rfl

/-- The statement of a contract scans on its own, whatever follows it, and has no semicolon. -/
theorem Writable.exists_scan_statement (h : c.Writable) {pre : List Char}
    (hpre : pre = [] ∨ pre = ['\n']) :
    ∃ ps, .semicolon ∉ ps ∧ ∀ t, scan (pre ++ (c.statement ++ t)) = ps ++ scan t := by
  obtain ⟨ps, hps, hheader⟩ := exists_scan_header h.isWord
  have hpreScan : ∀ t, scan (pre ++ t) = pre.map Piece.plain ++ scan t := by
    rcases hpre with rfl | rfl
    · exact fun t => rfl
    · exact scan_blanks_append allBlank_lineFeed
  -- the SQL leaves nothing open, and the line feed behind it ends a comment
  have hsql : ∀ t, scan (c.sql.toList ++ '\n' :: t) =
      scan c.sql.toList ++ .plain '\n' :: scan t := by
    intro t
    rw [scan_append h.closed rfl, scan_cons_blank (by decide)]
  refine ⟨pre.map Piece.plain ++ (ps ++ (scan c.sql.toList ++ [.plain '\n'])), ?_, fun t => ?_⟩
  · simp [hps, h.semicolon]
  · rw [statement, header, List.append_assoc, List.append_assoc, List.singleton_append, hpreScan,
      hheader, hsql]
    simp

/-- The statement of a contract is one statement of the whole text. -/
theorem Writable.segmentsAt_written (h : c.Writable) {pre : List Char}
    (hpre : pre = [] ∨ pre = ['\n']) (line : Nat) (t : List Char) :
    segmentsAt line (pre ++ (c.written ++ t)) =
      ⟨pre ++ c.statement, line + Text.lineFeeds pre, true⟩ ::
        segmentsAt (line + Text.lineFeeds (pre ++ c.statement)) ('\n' :: t) := by
  obtain ⟨ps, hps, hscan⟩ := h.exists_scan_statement hpre
  have hself : scan (pre ++ c.statement) = ps := by simpa using hscan []
  have hform : pre ++ (c.written ++ t) = pre ++ c.statement ++ ';' :: '\n' :: t := by
    simp [written]
  have hcut : scan (pre ++ c.statement ++ ';' :: '\n' :: t) =
      scan (pre ++ c.statement) ++ .semicolon :: scan ('\n' :: t) := by
    rw [hself, List.append_assoc, hscan, (Starts.semicolon _).scan_eq]
  have hline : startLine line (pre ++ c.statement) = line + Text.lineFeeds pre := by
    obtain ⟨u, hu⟩ := c.exists_header_eq_cons
    rw [statement, hu, startLine]
    rcases hpre with rfl | rfl
    · rfl
    · rfl
  rw [hform, segmentsAt_append line hcut (by rwa [hself]), hline]

end Contract

open Contract

/-- **Each written contract is one statement of the text.** -/
theorem forall₂_gives_written {cs : List Contract} (h : ∀ c ∈ cs, c.Writable) {pre : List Char}
    (hpre : pre = [] ∨ pre = ['\n']) (line : Nat) :
    List.Forall₂ (Headed.Gives Header.defaultLead)
      (segmentsAt line (pre ++ cs.flatMap Contract.written))
      (placed (line + lineFeeds pre) cs) := by
  -- behind a semicolon the text goes on with a line feed, so `pre` is one from the second on
  induction cs generalizing pre line with
  | nil =>
      have hblank : AllBlank pre := by
        rcases hpre with rfl | rfl
        · exact fun c hc => absurd hc List.not_mem_nil
        · exact allBlank_lineFeed
      rw [List.flatMap_nil, List.append_nil, segmentsAt_of_allBlank line hblank]
      exact .nil
  | cons c cs ih =>
      have hc := h c List.mem_cons_self
      have hrest := ih (fun d hd => h d (List.mem_cons_of_mem c hd)) (.inr rfl : ['\n'] = [] ∨ _)
        (line + lineFeeds (pre ++ c.statement))
      rw [List.flatMap_cons, hc.segmentsAt_written hpre line, placed]
      refine .cons (gives_written hc hpre _ _) ?_
      have hline : line + lineFeeds (pre ++ c.statement) +
          lineFeeds ['\n'] = line + lineFeeds pre + lineFeeds c.written := by
        have hone : List.count '\n' ['\n'] = 1 := by decide
        have hend : List.count '\n' [';', '\n'] = 1 := by decide
        simp only [lineFeeds, written, List.count_append]
        omega
      rw [hline] at hrest
      exact hrest

/-- **Contracts that are written are read back.** -/
theorem read_written {cs : List Contract} (h : ∀ c ∈ cs, c.Writable)
    (hn : (cs.map (·.name)).Nodup) (strict : Bool) :
    Headed.read Header.defaultLead strict (cs.flatMap Contract.written) =
      .ok ⟨placed 1 cs, [], [], []⟩ := by
  have hgives : List.Forall₂ (Headed.Gives Header.defaultLead)
      (segments (cs.flatMap Contract.written)) (placed 1 cs) := by
    rw [segments_eq_segmentsAt]
    exact forall₂_gives_written h (.inl rfl : [] = [] ∨ _) 1
  have hnames : ((Report.empty.statements ++ placed 1 cs).map (·.name)).Nodup := by
    rw [List.map_append, map_name_placed]
    exact hn
  exact Headed.foldlM_readSegment hgives hnames

/-- Two contracts whose SQL has semicolons in a literal and in comments, and ends in a comment. -/
theorem read_written_pair :
    let cs : List Contract :=
      [⟨"add", .exec, [⟨"id", .number⟩, ⟨"note", .string⟩], [],
          "INSERT INTO t VALUES (?, ?, 'a;''b') -- ; two", none, none⟩,
        ⟨"find", .many, [⟨"id", .number⟩], [⟨"note", .string, false⟩],
          "/* ; */ SELECT note\nFROM t WHERE id = ?1", none, none⟩]
    (∀ c ∈ cs, c.Writable) ∧
      Headed.read Header.defaultLead true (cs.flatMap Contract.written) =
        .ok ⟨placed 1 cs, [], [], []⟩ ∧
      (placed 1 cs).map (·.line) = [some 1, some 7] := by
  intro cs
  have hcs : ∀ c ∈ cs, c.Writable := by decide +kernel
  have hn : (cs.map (·.name)).Nodup := by decide +kernel
  exact ⟨hcs, read_written hcs hn true, by decide +kernel⟩

end SqlContract
