/-
Strict reading is lenient reading that ends with the first error.

Errors are met in several stages: while table definitions are read, while statements are read, when a
name repeats, and when the names of tables and statements are bound.  Each stage treats an error in
one of two ways, recording it or ending with it, and so the two ways can be compared step by step.

Main definitions:

* `Stops` — of two results, one ends with the first error that the other records;
* `Report.strictly`, `Generated.strictly` — what was read, unless there is an error.

Main results:

* `Stops.bind`, `Stops.foldlM` — **stages in a row stop together**;
* `Headed.stops_read`, `Marked.stops_read`, `Report.stops_claimAll`, `stops_generate` — the stages;
* `strict_eq_strictly` — **what is read strictly is what raising the first recorded error gives**.
-/

import SqlContract.Proofs.Generation.Emission
import SqlContract.Sql.Statement

set_option autoImplicit false
set_option relaxedAutoImplicit false

namespace SqlContract

open Sql

/-! ### Stages -/

section

variable {ε ε' α σ τ : Type}

/-- Of two results behind the errors `before`, the strict one is the lenient one where that records no
further error, and ends with the first such error elsewhere.  Nothing is said where the lenient one
fails. -/
def Stops (errors : σ → List SourceError) (raise : SourceError → ε) (before : List SourceError)
    (lenient strict : Except ε σ) : Prop :=
  ∀ s, lenient = .ok s →
    errors s = before ∧ strict = .ok s ∨
      ∃ e es, errors s = before ++ e :: es ∧ strict = .error (raise e)

variable {errors : σ → List SourceError} {errors' : τ → List SourceError}
  {raise : SourceError → ε} {before : List SourceError}

/-- A stage that records no errors is the same for both. -/
theorem Stops.same {x : Except ε σ} (h : ∀ s, x = .ok s → errors s = before) :
    Stops errors raise before x x := by
  intro s hs
  exact .inl ⟨h s hs, hs⟩

/-- **Two stages in a row.**  Where the first ends, the errors that the second records stand behind
those of the first. -/
theorem Stops.bind {x y : Except ε σ} {f g : σ → Except ε τ}
    (h : Stops errors raise before x y) (hf : ∀ s, Stops errors' raise (errors s) (f s) (g s)) :
    Stops errors' raise before (x >>= f) (y >>= g) := by
  intro t ht
  obtain ⟨s, hs, ht⟩ := bind_eq_ok_iff.1 ht
  rcases h s hs with ⟨hsame, rfl⟩ | ⟨e, es, hmore, rfl⟩
  · rw [← hsame]
    exact hf s t ht
  · -- the strict run has ended; the lenient one goes on and can only add errors behind `e`
    refine .inr ?_
    rcases hf s t ht with ⟨hsame', -⟩ | ⟨e', es', hmore', -⟩
    · exact ⟨e, es, hsame'.trans hmore, rfl⟩
    · refine ⟨e, es ++ e' :: es', ?_, rfl⟩
      rw [hmore', hmore, List.append_assoc, List.cons_append]

/-- **Many stages in a row**, one for each item of a list. -/
theorem Stops.foldlM {step step' : σ → α → Except ε σ}
    (h : ∀ s x, Stops errors raise (errors s) (step s x) (step' s x)) (xs : List α) (s : σ) :
    Stops errors raise (errors s) (xs.foldlM step s) (xs.foldlM step' s) := by
  induction xs generalizing s with
  | nil =>
      refine Stops.same fun t ht => ?_
      rw [Except.ok.inj ht]
  | cons x xs ih =>
      rw [List.foldlM_cons, List.foldlM_cons]
      exact (h s x).bind ih

/-- A stage whose errors are turned into errors of another kind. -/
theorem Stops.mapError {x y : Except ε σ} (h : Stops errors raise before x y) (f : ε → ε') :
    Stops errors (fun e => f (raise e)) before (x.mapError f) (y.mapError f) := by
  intro s hs
  cases x with
  | error e => simp [Except.mapError] at hs
  | ok s' =>
      obtain rfl : s' = s := Except.ok.inj hs
      rcases h s' rfl with ⟨hsame, rfl⟩ | ⟨e, es, hmore, rfl⟩
      · exact .inl ⟨hsame, rfl⟩
      · exact .inr ⟨e, es, hmore, rfl⟩

/-- A stage whose result is put into another one with the same errors. -/
theorem Stops.map {x y : Except ε σ} (h : Stops errors raise before x y) {f : σ → τ}
    (hf : ∀ s, errors' (f s) = errors s) :
    Stops errors' raise before (x.map f) (y.map f) := by
  intro t ht
  obtain ⟨s, hs, rfl⟩ := map_eq_ok_iff.1 ht
  rw [hf]
  rcases h s hs with ⟨hsame, rfl⟩ | ⟨e, es, hmore, rfl⟩
  · exact .inl ⟨hsame, rfl⟩
  · exact .inr ⟨e, es, hmore, rfl⟩

end

/-! ### Reading -/

namespace Report

theorem stops_record (r : Report) (e : SourceError) :
    Stops errors id r.errors (r.record false e) (r.record true e) := by
  intro r' hr'
  obtain rfl := Except.ok.inj hr'
  exact .inr ⟨e, [], rfl, rfl⟩

theorem stops_add (r : Report) (c : Contract) :
    Stops errors id r.errors (r.add false c) (r.add true c) := by
  unfold add
  split_ifs
  · exact r.stops_record (repeatedStatement c)
  · refine Stops.same fun r' hr' => ?_
    rw [← Except.ok.inj hr']

end Report

namespace Headed

theorem stops_readSegment (lead : String) (r : Report) (s : Segment) :
    Stops Report.errors id r.errors (readSegment lead false r s) (readSegment lead true r s) := by
  unfold readSegment
  cases statement? lead (some s.line) s.text with
  | error e => exact r.stops_record e
  | ok c? =>
      cases c? with
      | none => exact Stops.same fun r' hr' => by rw [Except.ok.inj hr']
      | some c => exact r.stops_add c

theorem stops_read (lead : String) (text : List Char) :
    Stops Report.errors id [] (read lead false text) (read lead true text) :=
  Stops.foldlM (stops_readSegment lead) (segments text) Report.empty

end Headed

namespace Marked

variable [Sql.Parser] (dialect : Except ReadError Dialect)

omit [Sql.Parser] in
theorem stops_recover (r : Report) (e : ReadError) :
    Stops Report.errors ReadError.source r.errors (recover false r e) (recover true r e) := by
  cases e with
  | source e => exact (r.stops_record e).mapError ReadError.source
  | unknownDialect word => exact Stops.same fun r' hr' => by simp [recover] at hr'

theorem stops_readDefinition (r : Report) (s : Segment) :
    Stops Report.errors ReadError.source r.errors (readDefinition dialect false r s)
      (readDefinition dialect true r s) := by
  unfold readDefinition
  cases definition dialect s with
  | error e => exact stops_recover r e
  | ok t? =>
      cases t? with
      | none => exact Stops.same fun r' hr' => by rw [Except.ok.inj hr']
      | some t => exact Stops.same fun r' hr' => by rw [← Except.ok.inj hr']

theorem stops_readQuery (lead : String) (r : Report) (q : MarkedQuery) :
    Stops Report.errors ReadError.source r.errors (readQuery dialect lead false r q)
      (readQuery dialect lead true r q) := by
  unfold readQuery
  cases query dialect lead r.tables q with
  | error e => exact stops_recover r e
  | ok c => exact (r.stops_add c).mapError ReadError.source

theorem stops_read (lead : String) (known : List Table) (text : List Char) :
    Stops Report.errors ReadError.source [] (read dialect lead false known text)
      (read dialect lead true known text) := by
  have htables := Stops.foldlM (stops_readDefinition dialect) (segments text)
    { Report.empty with tables := Tables.ofList known }
  exact htables.bind fun r => Stops.foldlM (stops_readQuery dialect lead) (split text) r

end Marked

/-! ### Generation -/

namespace Report

theorem stops_claimTable (state : Namespace × Report) (entry : String × Table) :
    Stops (fun s : Namespace × Report => s.2.errors) id state.2.errors
      (claimTable false state entry) (claimTable true state entry) := by
  unfold claimTable
  split
  · exact Stops.same fun s hs => by rw [← Except.ok.inj hs]
  · exact (state.2.stops_record _).map fun _ => rfl

theorem stops_claimContract (state : Namespace × Report) (c : Contract) :
    Stops (fun s : Namespace × Report => s.2.errors) id state.2.errors
      (claimContract false state c) (claimContract true state c) := by
  unfold claimContract
  split
  · exact Stops.same fun s hs => by rw [← Except.ok.inj hs]
  · exact (state.2.stops_record _).map fun _ => rfl

theorem stops_claimAll (d : Dialect) (r : Report) :
    Stops errors id r.errors (r.claimAll d false) (r.claimAll d true) := by
  unfold claimAll
  have htables := Stops.foldlM stops_claimTable r.tables
    (Namespace.initial d, { r with tables := [], statements := [] })
  refine htables.bind fun state => ?_
  refine (Stops.foldlM stops_claimContract r.statements state).bind fun state => ?_
  exact Stops.same fun r' hr' => by rw [← Except.ok.inj hr']

end Report

/-- The way in which a module is generated, strictly or not. -/
def Config.withStrict (config : Config) (strict : Bool) : Config :=
  { config with strict }

theorem stops_generate (config : Config) (summary : Report → LogLine) (r : Report) :
    Stops (fun g : Generated => g.report.errors) EmitError.source r.errors
      (generate (config.withStrict false) summary r)
      (generate (config.withStrict true) summary r) := by
  unfold generate
  refine ((r.stops_claimAll config.dialect).mapError EmitError.source).bind fun r => ?_
  -- what is written of a report does not depend on strictness, and keeps the errors
  refine Stops.same fun g hg => ?_
  obtain ⟨m, -, hg⟩ := bind_eq_ok_iff.1 hg
  rw [← Except.ok.inj hg]

theorem stops_generateHeaded (config : Config) (text : List Char) :
    Stops (fun g : Generated => g.report.errors) EmitError.source []
      (generateHeaded (config.withStrict false) text)
      (generateHeaded (config.withStrict true) text) := by
  unfold generateHeaded
  exact ((Headed.stops_read config.lead text).mapError EmitError.source).bind
    fun r => stops_generate config headedSummary r

theorem stops_generateMarked [Sql.Parser] (config : Config) (known : List Table) (text : List Char) :
    Stops (fun g : Generated => g.report.errors) EmitError.source []
      (generateMarked (config.withStrict false) known text)
      (generateMarked (config.withStrict true) known text) := by
  unfold generateMarked
  exact ((Marked.stops_read (.ok config.dialect) config.lead known text).mapError _).bind
    fun r => stops_generate config markedSummary r

/-! ### Raising the first error -/

/-- What was read, unless there is an error; then the first one. -/
def Report.strictly (r : Report) : Except SourceError Report :=
  match r.firstError? with
  | none => .ok r
  | some e => .error e

/-- What was generated, unless there is an error; then the first one. -/
def Generated.strictly (g : Generated) : Except SourceError Generated :=
  g.report.strictly.map fun _ => g

theorem Report.strictly_of_errors_eq_nil {r : Report} (h : r.errors = []) : r.strictly = .ok r := by
  simp [strictly, firstError?, h]

theorem Report.strictly_of_errors_eq_cons {r : Report} {e : SourceError} {es : List SourceError}
    (h : r.errors = e :: es) : r.strictly = .error e := by
  simp [strictly, firstError?, h]

/-- A report that is given is the report itself. -/
theorem Report.map_strictly (r : Report) : (r.strictly.map fun _ => r) = r.strictly := by
  unfold strictly
  cases r.firstError? with
  | none => rfl
  | some e => rfl

/-- What a strict stage gives, where nothing was read before. -/
theorem Stops.eq_strictly {ε σ : Type} {report : σ → Report} {raise : SourceError → ε}
    {lenient strict : Except ε σ}
    (h : Stops (fun s => (report s).errors) raise [] lenient strict) {s : σ}
    (hs : lenient = .ok s) : strict = ((report s).strictly.map fun _ => s).mapError raise := by
  rcases h s hs with ⟨hnone, rfl⟩ | ⟨e, es, hsome, rfl⟩
  · rw [Report.strictly_of_errors_eq_nil hnone]
    rfl
  · rw [Report.strictly_of_errors_eq_cons hsome]
    rfl

/-- What is read strictly. -/
theorem Stops.eq_strictly_report {ε : Type} {raise : SourceError → ε}
    {lenient strict : Except ε Report} (h : Stops Report.errors raise [] lenient strict)
    {r : Report} (hr : lenient = .ok r) : strict = r.strictly.mapError raise := by
  rw [← r.map_strictly]
  exact h.eq_strictly hr

/-- **What is read strictly is what raising the first recorded error gives.**  Wherever a source is
read to its end, be it one with headers or a marked one, the strict reading gives the same report if
that has no error, and ends with its first error otherwise; and so for the modules generated of
them. -/
theorem strict_eq_strictly [Sql.Parser] :
    (∀ lead text r, Headed.read lead false text = .ok r →
      Headed.read lead true text = r.strictly) ∧
    (∀ dialect lead known text r, Marked.read dialect lead false known text = .ok r →
      Marked.read dialect lead true known text = r.strictly.mapError .source) ∧
    (∀ (config : Config) text g, generateHeaded (config.withStrict false) text = .ok g →
      generateHeaded (config.withStrict true) text = g.strictly.mapError .source) ∧
    ∀ (config : Config) known text g,
      generateMarked (config.withStrict false) known text = .ok g →
        generateMarked (config.withStrict true) known text = g.strictly.mapError .source := by
  refine ⟨fun lead text r hr => ?_, fun dialect lead known text r hr => ?_,
    fun config text g hg => ?_, fun config known text g hg => ?_⟩
  · rw [(Headed.stops_read lead text).eq_strictly_report hr]
    cases r.strictly with
    | error e => rfl
    | ok r => rfl
  · exact (Marked.stops_read dialect lead known text).eq_strictly_report hr
  · exact (stops_generateHeaded config text).eq_strictly hg
  · exact (stops_generateMarked config known text).eq_strictly hg

attribute [local instance] Sql.parser

/-- Errors of several stages.  A name that is bound already stands in the text before a cardinality
that is unknown, but is found later, since names are bound once all is read; so strict generation ends
with the cardinality, or with a table that repeats a column where there is one. -/
theorem strict_eq_strictly_stages :
    let config : Config := {}
    let headed := ("-- @name getUser\n-- @count one\nSELECT 1;\n" ++
      "-- @name get_user\n-- @count one\nSELECT 2;\n-- @name b\n-- @count few\nSELECT 3").toList
    let marked := ("-- name: getUser :one\nSELECT 1;\n-- name: get_user :one\nSELECT 2;\n" ++
      "CREATE TABLE t (a INTEGER, A TEXT);\n-- name: b :few\nSELECT 3").toList
    let clash : SourceError.Cause :=
      .statementClash "get_user" (.bound "get_user" (.statement "getUser"))
    let column : SourceError := ⟨.repeatedColumn ⟨"A", "t"⟩, none, some 5⟩
    let few (line : Int) : SourceError := ⟨.unknownCardinality "few", some "b", some line⟩
    (∃ r, Headed.read config.lead false headed = .ok r ∧ r.errors = [few 7] ∧
        Headed.read config.lead true headed = .error (few 7)) ∧
      (∃ r, Marked.read (.ok config.dialect) config.lead false [] marked = .ok r ∧
        r.errors = [column, few 6] ∧
        Marked.read (.ok config.dialect) config.lead true [] marked = .error (.source column)) ∧
      (∃ g, generateHeaded (config.withStrict false) headed = .ok g ∧
        g.report.errors = [few 7, ⟨clash, some "get_user", some 4⟩] ∧
        generateHeaded (config.withStrict true) headed = .error (.source (few 7))) ∧
      ∃ g, generateMarked (config.withStrict false) [] marked = .ok g ∧
        g.report.errors = [column, few 6, ⟨clash, some "get_user", some 3⟩] ∧
        generateMarked (config.withStrict true) [] marked = .error (.source column) := by
  intro config headed marked clash column few
  obtain ⟨hheaded, hmarked, hgenerateHeaded, hgenerateMarked⟩ := strict_eq_strictly
  refine ⟨?_, ?_, ?_, ?_⟩
  · obtain ⟨r, hr, he⟩ := exists_ok_of_map_toOption (f := Report.errors) (b := [few 7])
      (x := Headed.read config.lead false headed) (by decide +kernel)
    refine ⟨r, hr, he, ?_⟩
    rw [hheaded _ _ r hr, Report.strictly_of_errors_eq_cons he]
  · obtain ⟨r, hr, he⟩ := exists_ok_of_map_toOption (f := Report.errors) (b := [column, few 6])
      (x := Marked.read (.ok config.dialect) config.lead false [] marked) (by decide +kernel)
    refine ⟨r, hr, he, ?_⟩
    rw [hmarked _ _ _ _ r hr, Report.strictly_of_errors_eq_cons he]
    rfl
  · obtain ⟨g, hg, he⟩ := exists_ok_of_map_toOption (f := fun g : Generated => g.report.errors)
      (b := [few 7, ⟨clash, some "get_user", some 4⟩])
      (x := generateHeaded (config.withStrict false) headed) (by decide +kernel)
    refine ⟨g, hg, he, ?_⟩
    rw [hgenerateHeaded _ _ g hg, Generated.strictly, Report.strictly_of_errors_eq_cons he]
    rfl
  · obtain ⟨g, hg, he⟩ := exists_ok_of_map_toOption (f := fun g : Generated => g.report.errors)
      (b := [column, few 6, ⟨clash, some "get_user", some 3⟩])
      (x := generateMarked (config.withStrict false) [] marked) (by decide +kernel)
    refine ⟨g, hg, he, ?_⟩
    rw [hgenerateMarked _ _ _ g hg, Generated.strictly, Report.strictly_of_errors_eq_cons he]
    rfl

end SqlContract
