/-
Generation goes on behind every failure, but for two.

Generation that is not strict leaves out what it cannot read or name and reports it.  One failure is
seen too late for that: an accessor for the remote engine that binds a parameter numbered zero takes
the last of the parameters, and where there are none, nothing is generated at all.  Another is not
taken for a failure of the source: a number of a placeholder may have more digits than are read.

Main definitions:

* `Report.Accounts`, `Report.AccountsTables` — nothing that is left out goes unreported;
* `written` — what is generated of a report;
* `Headed.longNumber?`, `Marked.longNumber?` — the first number of a text that is too long.

Main results:

* `Headed.exists_accounts`, `Marked.exists_accounts` — what is left out of a source is reported;
* `generateHeadedWithin_eq_ok_iff`, `generateMarkedWithin_eq_ok_iff` — a limit of digits changes no
  module, and leaves one out exactly if a number is too long for it;
* `generate_total` — **what is generated of every text, and the two ways in which nothing is**;
* `generate_placeholder_zero` — a statement for which nothing is generated.
-/

import SqlContract.Proofs.Generation.Claims
import SqlContract.Proofs.Generation.Soundness
import SqlContract.Sql.Statement

set_option autoImplicit false
set_option relaxedAutoImplicit false

namespace SqlContract

open Text Sql

/-! ### Reports that leave nothing unsaid -/

namespace Report

/-- The statements of a report are given by the parts `xs` of a source, and for each part that gives
none of them an error is reported: the one that was met when it was read, or one with the name and the
line of the contract that it gives. -/
structure Accounts {α : Type} (read : α → Except SourceError (Option Contract)) (xs : List α)
    (r : Report) : Prop where
  exists_given : ∀ c ∈ r.statements, ∃ x ∈ xs, read x = .ok (some c)
  unreadable : ∀ x ∈ xs, ∀ e, read x = .error e → e ∈ r.errors
  leftOut : ∀ x ∈ xs, ∀ c, read x = .ok (some c) →
    c ∈ r.statements ∨ ∃ e ∈ r.errors, e.statement = some c.name ∧ e.line = c.line

/-- The tables of a report are among those given, and for each that is left out an error is
reported. -/
structure AccountsTables (given : Tables) (r : Report) : Prop where
  sublist : r.tables.Sublist given
  leftOut : ∀ entry ∈ given,
    entry ∈ r.tables ∨ ∃ clash, ⟨.tableClash entry.2.name clash, none, none⟩ ∈ r.errors

/-- A report that is made by the fates of the statements accounts for them. -/
theorem accounts_of_fates {α : Type} {read : α → Except SourceError (Option Contract)} {xs : List α}
    {p : Progress} {r : Report} (hkept : r.statements = (fates read p xs).filterMap Fate.contract?)
    (hread : (fates read p xs).filterMap Fate.readError? ⊆ r.errors)
    (hclaim : (fates read p xs).filterMap Fate.claimError? ⊆ r.errors) : r.Accounts read xs where
  exists_given := by
    intro c hc
    rw [hkept] at hc
    obtain ⟨f, hf, hfc⟩ := List.mem_filterMap.1 hc
    obtain ⟨x, hx, q, hmeets⟩ := exists_of_mem_fates hf
    refine ⟨x, hx, ?_⟩
    generalize read x = given at hmeets
    cases hmeets with
    | kept => rw [← Option.some.inj hfc]
    | plain | unreadable | repeated | refused => simp [Fate.contract?] at hfc
  unreadable := by
    intro x hx e he
    obtain ⟨q, hq⟩ := exists_fate_mem read hx p
    rw [he] at hq
    exact hread (List.mem_filterMap.2 ⟨_, hq, rfl⟩)
  leftOut := by
    intro x hx c hc
    obtain ⟨q, hq⟩ := exists_fate_mem read hx p
    have hmeets := q.meets_fate (read x)
    generalize q.fate (read x) = f at hq hmeets
    rw [hc] at hmeets
    cases hmeets with
    | repeated => exact .inr ⟨_, hread (List.mem_filterMap.2 ⟨_, hq, rfl⟩), rfl, rfl⟩
    | refused => exact .inr ⟨_, hclaim (List.mem_filterMap.2 ⟨_, hq, rfl⟩), rfl, rfl⟩
    | kept =>
        rw [hkept]
        exact .inl (List.mem_filterMap.2 ⟨_, hq, rfl⟩)

/-- Where every contract that is given is sound, those of the report are. -/
theorem Accounts.sound {α : Type} {read : α → Except SourceError (Option Contract)} {xs : List α}
    {r : Report} (h : r.Accounts read xs) (hsound : ∀ x c, read x = .ok (some c) → c.Sound) :
    ∀ c ∈ r.statements, c.Sound := by
  intro c hc
  obtain ⟨x, -, hx⟩ := h.exists_given c hc
  exact hsound x c hx

end Report

/-! ### Sources with headers -/

/-- **What is left out of a source with headers is reported.** -/
theorem Headed.exists_accounts (config : Config) (text : List Char) :
    ∃ r r', read config.lead false text = .ok r ∧ r.claimAll config.dialect false = .ok r' ∧
      r'.Accounts (given config.lead) (segments text) := by
  obtain ⟨r, hread, hclaim⟩ := exists_read_claimAll config text
  refine ⟨r, _, hread, hclaim, Report.accounts_of_fates rfl ?_ ?_⟩
  · exact List.subset_append_left _ _
  · exact List.subset_append_right _ _

/-! ### Marked sources -/

namespace Marked

variable [Sql.Parser] {d : Dialect} {lead : String}

/-- What a query gives over known tables. -/
def given (d : Dialect) (lead : String) (known : Tables) (q : MarkedQuery) :
    Except SourceError (Option Contract) :=
  match query (.ok d) lead known q with
  | .ok c => .ok (some c)
  | .error (.source e) => .error e
  | .error (.unknownDialect _) => .ok none

theorem sound_of_given {known : Tables} (hknown : known.Sound) {q : MarkedQuery} {c : Contract}
    (h : given d lead known q = .ok (some c)) : c.Sound := by
  unfold given at h
  split at h
  · rename_i hq
    obtain rfl := Option.some.inj (Except.ok.inj h)
    exact sound_of_query hknown hq
  · simp at h
  · simp at h

/-- The table that a statement defines. -/
def table? (d : Dialect) (s : Segment) : Option Table :=
  match definition (.ok d) s with
  | .ok t? => t?
  | .error _ => none

/-- The error that is met when a statement is read as a table definition. -/
def definitionError? (d : Dialect) (s : Segment) : Option SourceError :=
  match definition (.ok d) s with
  | .error (.source e) => some e
  | _ => none

/-- The tables that the queries of a text are read over: those known before and those that the text
defines. -/
def allTables (d : Dialect) (known : List Table) (text : List Char) : Tables :=
  ((segments text).filterMap (table? d)).foldl Tables.insert (Tables.ofList known)

theorem sound_allTables {known : List Table} (h : ∀ t ∈ known, t.fault? = none)
    (text : List Char) : (allTables d known text).Sound := by
  have hempty : Tables.Sound [] := by simp [Tables.Sound]
  refine Tables.Sound.foldl_insert (hempty.foldl_insert h) fun t ht => ?_
  obtain ⟨s, -, hs⟩ := List.mem_filterMap.1 ht
  unfold table? at hs
  split at hs
  · rename_i t? hdefinition
    rw [hs] at hdefinition
    exact fault?_of_definition hdefinition
  · simp at hs

/-- Reading table definitions that is not strict goes on to the end. -/
theorem foldlM_readDefinition (segs : List Segment) (r : Report) :
    segs.foldlM (readDefinition (.ok d) false) r =
      .ok { r.extend [] (segs.filterMap (definitionError? d)) with
        tables := (segs.filterMap (table? d)).foldl Tables.insert r.tables } := by
  induction segs generalizing r with
  | nil => simp [Report.extend, pure, Except.pure]
  | cons s segs ih =>
      have hstep : readDefinition (.ok d) false r s =
          .ok { r.extend [] (definitionError? d s).toList with
            tables := (table? d s).toList.foldl Tables.insert r.tables } := by
        unfold readDefinition definitionError? table?
        cases hs : definition (.ok d) s with
        | ok t? => cases t? <;> simp [Report.extend]
        | error e =>
            obtain ⟨e, rfl⟩ := exists_source_of_definition hs
            simp only [recover, Report.record_false]
            rfl
      rw [List.foldlM_cons, hstep]
      refine (ih _).trans (congrArg Except.ok ?_)
      cases he : definitionError? d s <;> cases ht : table? d s <;>
        simp [Report.extend, he, ht]

theorem readQuery_false (r : Report) (q : MarkedQuery) :
    readQuery (.ok d) lead false r q = .ok (r.takeIn (given d lead r.tables q)) := by
  unfold readQuery given
  cases hq : query (.ok d) lead r.tables q with
  | ok c =>
      simp only [Report.add_false]
      rfl
  | error e =>
      obtain ⟨e, rfl⟩ := exists_source_of_query hq
      simp only [recover, Report.record_false]
      rfl

/-- **What is left out of a marked source is reported**, tables and statements. -/
theorem exists_accounts (config : Config) (known : List Table) (text : List Char) :
    let tables := allTables config.dialect known text
    ∃ r r', read (.ok config.dialect) config.lead false known text = .ok r ∧
      r.claimAll config.dialect false = .ok r' ∧
      r'.Accounts (given config.dialect config.lead tables) (split text) ∧
      (segments text).filterMap (definitionError? config.dialect) ⊆ r'.errors ∧
      r'.AccountsTables tables := by
  intro tables
  obtain ⟨ns, kept, clashes, hmoves, hclaimTables⟩ :=
    Report.exists_foldlM_claimTable tables (.initial config.dialect)
  set unreadable := (segments text).filterMap (definitionError? config.dialect)
  set fs := fates (given config.dialect config.lead tables) (.start ns) (split text)
  -- what is read, first the tables and then the queries over them
  have hdefined := foldlM_readDefinition (d := config.dialect) (segments text)
    { Report.empty with tables := Tables.ofList known }
  have hread : read (.ok config.dialect) config.lead false known text =
      .ok ({ Report.empty.extend [] unreadable with tables := tables }.extend
        (fs.filterMap Fate.named?) (fs.filterMap Fate.readError?)) := by
    refine bind_eq_ok_iff.2 ⟨_, hdefined, ?_⟩
    refine foldlM_takeIn tables (fun r q ht => ?_) rfl rfl
    rw [readQuery_false, ht]
  -- what is kept
  have hclaim := Report.claimAll_eq (given config.dialect config.lead tables) (split text)
    (hclaimTables _)
    (r := { Report.empty.extend [] unreadable with tables := tables }.extend
        (fs.filterMap Fate.named?) (fs.filterMap Fate.readError?)) rfl
  refine ⟨_, _, hread, hclaim, Report.accounts_of_fates rfl ?_ ?_, ?_, hmoves.sublist, ?_⟩
  · intro e he
    simp [Report.addTables, Report.extend, fs, he]
  · exact List.subset_append_right _ _
  · intro e he
    simp [Report.addTables, Report.extend, he]
  · intro entry hentry
    obtain hkept | ⟨e, he, clash, rfl⟩ := hmoves.mem_or hentry
    · exact .inl hkept
    · exact .inr ⟨clash, by simp [Report.addTables, Report.extend, he]⟩

end Marked

/-! ### What is generated -/

/-- What is generated of a report: a module, unless an accessor for the remote engine binds a parameter
numbered zero where there are no parameters. -/
def written (config : Config) (summary : Report → LogLine) (r : Report) :
    Except EmitError Generated :=
  if config.dialect = .remoteAsync ∧ config.conventions ≠ [] ∧ ∃ c ∈ r.statements, c.BindsZero then
    .error .unboundPlaceholder
  else
    .ok ⟨(Module.whole config.dialect config.header r.tables config.conventions r.statements).text,
      { r with log := r.log ++ [summary r] }⟩

theorem generate_eq_written {config : Config} {summary : Report → LogLine} {r r' : Report}
    (hclaim : r.claimAll config.dialect config.strict = .ok r')
    (hsound : ∀ c ∈ r'.statements, c.Sound) :
    generate config summary r = written config summary r' := by
  have hiff : (config.conventions ≠ [] ∧ ∃ c ∈ r'.statements, c.arguments? config.dialect = none) ↔
      config.dialect = .remoteAsync ∧ config.conventions ≠ [] ∧
        ∃ c ∈ r'.statements, c.BindsZero := by
    constructor
    · rintro ⟨hne, c, hc, hnone⟩
      obtain ⟨hremote, hzero⟩ := (c.arguments?_eq_none_iff (hsound c hc).count _).1 hnone
      exact ⟨hremote, hne, c, hc, hzero⟩
    · rintro ⟨hremote, hne, c, hc, hzero⟩
      exact ⟨hne, c, hc, (c.arguments?_eq_none_iff (hsound c hc).count _).2 ⟨hremote, hzero⟩⟩
  rw [generate_eq hclaim]
  unfold written
  simp only [hiff]

/-! ### Numbers that are too long -/

section Stopped

variable {α β ε ε' : Type} {stop? : α → Option ε'} {step : β → α → Except ε β}

/-- A run comes to an end exactly if nothing stops it and it comes to the same end by itself. -/
theorem foldlM_unlessStopped_eq_ok_iff {xs : List α} {b b' : β} :
    xs.foldlM (fun b a => unlessStopped (stop? a) (step b a)) b = .ok b' ↔
      xs.findSome? stop? = none ∧ xs.foldlM step b = .ok b' := by
  induction xs generalizing b with
  | nil => simp [pure, Except.pure]
  | cons a xs ih =>
      rw [List.foldlM_cons, List.foldlM_cons, List.findSome?_cons]
      cases stop? a with
      | some e => simp [unlessStopped, bind, Except.bind]
      | none =>
          cases step b a with
          | error e => simp [unlessStopped, bind, Except.bind, Except.mapError]
          | ok b₁ => exact ih

/-- What stops a run whose steps all succeed is the error that it ends with. -/
theorem foldlM_unlessStopped_of_some (hstep : ∀ b a, ∃ b', step b a = .ok b') {xs : List α} {e : ε'}
    (h : xs.findSome? stop? = some e) (b : β) :
    xs.foldlM (fun b a => unlessStopped (stop? a) (step b a)) b = .error (.inl e) := by
  induction xs generalizing b with
  | nil => simp at h
  | cons a xs ih =>
      rw [List.foldlM_cons]
      rw [List.findSome?_cons] at h
      cases ha : stop? a with
      | some e' =>
          rw [ha] at h
          rw [Option.some.inj h]
          rfl
      | none =>
          rw [ha] at h
          obtain ⟨b', hb'⟩ := hstep b a
          rw [hb']
          exact ih h b'

end Stopped

section Within

variable {limit : Option Nat} {config : Config} {known : List Table} {text : List Char}
  {g : Generated}

/-- The first number of a source with headers that is counted and too long. -/
def Headed.longNumber? (limit : Option Nat) (lead : String) (text : List Char) :
    Option LongNumber :=
  (segments text).findSome? fun s => (counted? lead s.text).bind (Sql.longNumber? limit)

/-- The first number of a marked source that is counted and too long. -/
def Marked.longNumber? (limit : Option Nat) (lead : String) (text : List Char) :
    Option LongNumber :=
  (split text).findSome? fun q => (counted? lead q).bind (Sql.longNumber? limit)

/-- **A limit of digits changes no module** of a source with headers, and there is none exactly if a
number is too long for it. -/
theorem generateHeadedWithin_eq_ok_iff : generateHeadedWithin limit config text = .ok g ↔
    Headed.longNumber? limit config.lead text = none ∧ generateHeaded config text = .ok g := by
  unfold generateHeadedWithin generateHeaded Headed.readWithin Headed.longNumber? Headed.read
  simp only [bind_eq_ok_iff, mapError_eq_ok_iff, foldlM_unlessStopped_eq_ok_iff, and_assoc,
    exists_and_left]

/-- **A limit of digits changes no module** of a marked source, and there is none exactly if a number is
too long for it. -/
theorem generateMarkedWithin_eq_ok_iff [Sql.Parser] :
    generateMarkedWithin limit config known text = .ok g ↔
      Marked.longNumber? limit config.lead text = none ∧ generateMarked config known text = .ok g := by
  unfold generateMarkedWithin generateMarked Marked.readWithin Marked.longNumber? Marked.read
  simp only [bind_eq_ok_iff, mapError_eq_ok_iff, foldlM_unlessStopped_eq_ok_iff]
  constructor
  · rintro ⟨r, ⟨mid, hmid, hlong, hr⟩, hg⟩
    exact ⟨hlong, r, ⟨mid, hmid, hr⟩, hg⟩
  · rintro ⟨hlong, r, ⟨mid, hmid, hr⟩, hg⟩
    exact ⟨r, ⟨mid, hmid, hlong, hr⟩, hg⟩

/-- A number that is too long ends the generation that is not strict of a source with headers. -/
theorem generateHeadedWithin_of_some (hstrict : config.strict = false) {n : LongNumber}
    (h : Headed.longNumber? limit config.lead text = some n) :
    generateHeadedWithin limit config text = .error (.longNumber n) := by
  have hread : Headed.readWithin limit config.lead config.strict text = .error (.inl n) := by
    rw [hstrict]
    exact foldlM_unlessStopped_of_some (fun r s => ⟨_, Headed.readSegment_false config.lead r s⟩) h _
  unfold generateHeadedWithin
  rw [hread]
  rfl

/-- A number that is too long ends the generation that is not strict of a marked source. -/
theorem generateMarkedWithin_of_some [Sql.Parser] (hstrict : config.strict = false)
    (known : List Table) {n : LongNumber}
    (h : Marked.longNumber? limit config.lead text = some n) :
    generateMarkedWithin limit config known text = .error (.longNumber n) := by
  have hread : Marked.readWithin limit (.ok config.dialect) config.lead config.strict known text =
      .error (.inl n) := by
    unfold Marked.readWithin
    rw [hstrict, Marked.foldlM_readDefinition]
    exact foldlM_unlessStopped_of_some (fun r q => ⟨_, Marked.readQuery_false r q⟩) h _
  unfold generateMarkedWithin
  rw [hread]
  rfl

end Within

/-! ### Every text -/

/-- **What is generated of every text, and the two ways in which nothing is.**  Reading that is not
strict leads to a report that accounts for all that is left out, be it of a source with headers or
of a marked one over known tables without a fault, and every contract that is met on the way is
sound.  A module is written of this report unless an accessor for the remote engine binds a
parameter numbered zero where there are no parameters, or the number of a placeholder that is counted
has more digits than are read. -/
theorem generate_total [Sql.Parser] {config : Config} (hstrict : config.strict = false) {known : List Table}
    (hknown : ∀ t ∈ known, t.fault? = none) (limit : Option Nat) (text : List Char) :
    (∃ r : Report, r.Accounts (Headed.given config.lead) (segments text) ∧
        (∀ s c, Headed.given config.lead s = .ok (some c) → c.Sound) ∧
        generateHeadedWithin limit config text =
          (Headed.longNumber? limit config.lead text).elim (written config headedSummary r)
            fun n => .error (.longNumber n)) ∧
      ∃ r : Report,
        r.Accounts (Marked.given config.dialect config.lead
          (Marked.allTables config.dialect known text)) (Marked.split text) ∧
        (∀ q c, Marked.given config.dialect config.lead
          (Marked.allTables config.dialect known text) q = .ok (some c) → c.Sound) ∧
        (segments text).filterMap (Marked.definitionError? config.dialect) ⊆ r.errors ∧
        r.AccountsTables (Marked.allTables config.dialect known text) ∧
        generateMarkedWithin limit config known text =
          (Marked.longNumber? limit config.lead text).elim (written config markedSummary r)
            fun n => .error (.longNumber n) := by
  constructor
  · obtain ⟨r, r', hread, hclaim, haccounts⟩ := Headed.exists_accounts config text
    have hsound : ∀ s c, Headed.given config.lead s = .ok (some c) → c.Sound :=
      fun _ _ hs => Headed.sound_of_gives hs
    rw [← hstrict] at hread hclaim
    refine ⟨r', haccounts, hsound, ?_⟩
    cases hlong : Headed.longNumber? limit config.lead text with
    | some n => exact generateHeadedWithin_of_some hstrict hlong
    | none =>
        have hwithin : Headed.readWithin limit config.lead config.strict text = .ok r :=
          foldlM_unlessStopped_eq_ok_iff.2 ⟨hlong, hread⟩
        unfold generateHeadedWithin
        rw [hwithin]
        exact generate_eq_written hclaim (haccounts.sound hsound)
  · obtain ⟨r, r', hread, hclaim, haccounts, herrors, htables⟩ :=
      Marked.exists_accounts config known text
    have hsound : ∀ q c, Marked.given config.dialect config.lead
        (Marked.allTables config.dialect known text) q = .ok (some c) → c.Sound :=
      fun _ _ hq => Marked.sound_of_given (Marked.sound_allTables hknown text) hq
    rw [← hstrict] at hread hclaim
    refine ⟨r', haccounts, hsound, herrors, htables, ?_⟩
    cases hlong : Marked.longNumber? limit config.lead text with
    | some n => exact generateMarkedWithin_of_some hstrict known hlong
    | none =>
        obtain ⟨mid, hmid, hqueries⟩ := bind_eq_ok_iff.1 hread
        have hwithin : Marked.readWithin limit (.ok config.dialect) config.lead config.strict known
            text = .ok r :=
          bind_eq_ok_iff.2 ⟨mid, mapError_eq_ok_iff.2 hmid,
            foldlM_unlessStopped_eq_ok_iff.2 ⟨hlong, hqueries⟩⟩
        unfold generateMarkedWithin
        rw [hwithin]
        exact generate_eq_written hclaim (haccounts.sound hsound)

/-- A number with a digit more than are read ends generation, its zeros in front counted. -/
example : generateHeadedWithin (some 3) {} "-- @name a\n-- @count one\nSELECT ?0001".toList =
    .error (.longNumber ⟨3, 4⟩) := by
  decide +kernel

attribute [local instance] Sql.parser

/-- A query whose cardinality is unknown, behind one whose placeholder says its number. -/
theorem generate_total_unknown_cardinality :
    let config : Config := { dialect := .remoteAsync }
    let known : List Table := [⟨"t", [⟨"id", "INTEGER", false⟩]⟩]
    let text :=
      "-- name: a :one\nSELECT id FROM t WHERE id = ?1;\n-- name: b :few\nSELECT 1;\n".toList
    config.strict = false ∧ (∀ t ∈ known, t.fault? = none) ∧
      ∃ g, generateMarkedWithin defaultDigitLimit config known text = .ok g ∧
        ⟨.unknownCardinality "few", some "b", some 3⟩ ∈ g.report.errors := by
  intro config known text
  have hknown : ∀ t ∈ known, t.fault? = none := by
    intro t ht
    obtain rfl := List.mem_singleton.1 ht
    decide
  obtain ⟨-, r, haccounts, -, -, -, hwritten⟩ :=
    generate_total (rfl : config.strict = false) hknown defaultDigitLimit text
  set given := Marked.given config.dialect config.lead (Marked.allTables config.dialect known text)
  have hpositive : (Marked.split text).all (fun q =>
      (contractOf? (given q)).all fun c => !decide c.BindsZero) = true := by
    decide +kernel
  have hunbound : ¬ ∃ c ∈ r.statements, c.BindsZero := by
    rintro ⟨c, hc, hzero⟩
    obtain ⟨q, hq, hgiven⟩ := haccounts.exists_given c hc
    have hone := List.all_eq_true.1 hpositive q hq
    rw [hgiven] at hone
    simp [contractOf?, hzero] at hone
  have herror : ∃ q ∈ Marked.split text,
      given q = .error ⟨.unknownCardinality "few", some "b", some 3⟩ := by
    decide +kernel
  obtain ⟨q, hq, he⟩ := herror
  have hlong : Marked.longNumber? defaultDigitLimit config.lead text = none := by
    decide +kernel
  rw [hlong] at hwritten
  refine ⟨rfl, hknown, _, hwritten.trans (if_neg fun h => hunbound h.2.2), ?_⟩
  exact haccounts.unreadable q hq _ he

/-- Nothing is generated for the remote engine of a statement that has a placeholder numbered zero
and no parameters, although nothing is read strictly. -/
theorem generate_placeholder_zero :
    let config : Config := { dialect := .remoteAsync }
    generateHeadedWithin defaultDigitLimit config "-- @name a\n-- @count one\nSELECT ?0".toList =
        .error .unboundPlaceholder ∧
      generateMarkedWithin defaultDigitLimit config [] "-- name: a :one\nSELECT ?0".toList =
        .error .unboundPlaceholder := by
  decide +kernel

end SqlContract
