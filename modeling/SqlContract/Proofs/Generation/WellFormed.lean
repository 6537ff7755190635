/-
Contracts are well formed.

Whatever a source says, the contracts that are read from it can be relied on: their names are
identifiers of their own, their parameters match the placeholders of their SQL, and nothing in them is
said twice.  A contract that is built has no fault, so to check every contract as it is built changes
nothing.

Main definitions:

* `Contract.WellFormed`, `Report.WellFormed` — what holds of a contract, and of those of a report;
* `Headed.readChecked`, `Marked.readChecked` — reading that ends with the first fault of a contract.

Main results:

* `Headed.wellFormed_of_statement?`, `Marked.wellFormed_of_query` — **what is built is well formed**;
* `Headed.wellFormed_of_read`, `Marked.wellFormed_of_read` — what is reported is well formed;
* `readers_wellFormed` — **reports are well formed, and no contract is ever refused**.
-/

import SqlContract.Proofs.Generation.Entries
import SqlContract.Proofs.Generation.Isolation

set_option autoImplicit false
set_option relaxedAutoImplicit false

namespace SqlContract

open Text Sql

/-! ### Well-formed contracts -/

/-- What holds of every contract that is read. -/
structure Contract.WellFormed (c : Contract) : Prop where
  isIdentifier_name : isIdentifier c.name = true
  nodup_parameters : (c.parameters.map (·.name)).Nodup
  nodup_returns : (c.returns.map (·.name)).Nodup
  returns_of_exec : c.cardinality = .exec → c.returns = []
  count_placeholders : placeholderCount c.sql.toList = c.parameters.length
  sql_ne_nil : c.sql.toList ≠ []
  strip_sql : strip c.sql.toList = c.sql.toList

theorem Contract.WellFormed.fault?_eq_none {c : Contract} (h : c.WellFormed) : c.fault? = none :=
  fault?_eq_none_iff.2
    ⟨fun hexec => hexec.2 (h.returns_of_exec hexec.1), h.nodup_parameters, h.nodup_returns⟩

/-- A sound contract is well formed if its name and its SQL are. -/
theorem Contract.Sound.wellFormed {c : Contract} (h : c.Sound) (hname : isIdentifier c.name = true)
    (hsql : c.sql.toList ≠ []) (hstrip : strip c.sql.toList = c.sql.toList) : c.WellFormed := by
  obtain ⟨hexec, hparameters, hreturns⟩ := fault?_eq_none_iff.1 h.fault
  refine ⟨hname, hparameters, hreturns, fun hcard => ?_, h.count, hsql, hstrip⟩
  by_contra hne
  exact hexec ⟨hcard, hne⟩

theorem Header.strip_split (lead : String) (text : List Char) :
    strip (split lead text).2 = (split lead text).2 :=
  strip_strip _

/-- **What a statement with a header gives is well formed.** -/
theorem Headed.wellFormed_of_statement? {lead : String} {line : Option Int} {text : List Char}
    {c : Contract} (h : statement? lead line text = .ok (some c)) : c.WellFormed := by
  have hsound := sound_of_statement? h
  obtain ⟨name, rest, -, hname, hbody⟩ := statement?_eq_some_iff.1 h
  obtain ⟨word, declared, card, fields, -, -, -, hsql, -, -, rfl⟩ := body_eq_ok_iff.1 hbody
  refine hsound.wellFormed hname ?_ ?_
  · rwa [String.toList_ofList]
  · rw [String.toList_ofList]
    exact Header.strip_split lead text

namespace Marked

variable [Sql.Parser] {dialect : Except ReadError Dialect} {lead : String} {known : Tables} {q : MarkedQuery}
  {c : Contract}

theorem sql_of_namedQuery (h : namedQuery dialect lead known q = .ok c) :
    c.name = q.name ∧ c.sql.toList ≠ [] ∧ strip c.sql.toList = c.sql.toList := by
  obtain ⟨text, header, sql, -, -, -, -, hsplit, hne, -, -, -, rfl⟩ := exists_of_namedQuery h
  have hstrip := Header.strip_split lead text
  rw [hsplit] at hstrip
  rw [String.toList_ofList]
  exact ⟨rfl, hne, hstrip⟩

theorem wellFormed_of_query_ok {d : Dialect} (hknown : known.Sound)
    (h : query (.ok d) lead known q = .ok c) : c.WellFormed := by
  have hsound := sound_of_query hknown h
  unfold query at h
  split_ifs at h with hid
  obtain ⟨hname, hsql, hstrip⟩ := sql_of_namedQuery (mapError_eq_ok_iff.1 h)
  exact hsound.wellFormed (by rwa [hname]) hsql hstrip

/-- **What a marked query gives over sound tables is well formed**, for whatever word the dialect. -/
theorem wellFormed_of_query {word : String} (hknown : known.Sound)
    (h : query (ReadError.readDialect word) lead known q = .ok c) : c.WellFormed := by
  rcases readDialect_cases word with ⟨d, hd⟩ | herror
  · rw [hd] at h
    exact wellFormed_of_query_ok hknown h
  · rw [herror] at h
    rcases query_error word lead known q .localSync with hq | hq
    · rw [hq] at h
      cases h
    · rw [hq] at h
      exact wellFormed_of_query_ok hknown h

end Marked

/-! ### Well-formed reports -/

/-- The contracts of a report are well formed, and they have distinct names. -/
structure Report.WellFormed (r : Report) : Prop where
  nodup_names : (r.statements.map (·.name)).Nodup
  statements : ∀ c ∈ r.statements, c.WellFormed

namespace Report.WellFormed

variable {strict : Bool} {r r' : Report}

theorem congr (h : r.WellFormed) (hs : r'.statements = r.statements) : r'.WellFormed := by
  obtain ⟨hnames, hstatements⟩ := h
  rw [← hs] at hnames hstatements
  exact ⟨hnames, hstatements⟩

/-- A well-formed contract is added under a new name, or left out. -/
theorem add (h : r.WellFormed) {c : Contract} (hc : c.WellFormed) (hr : r.add strict c = .ok r') :
    r'.WellFormed := by
  unfold Report.add at hr
  split_ifs at hr with htaken
  · exact h.congr (Headed.statements_of_record hr)
  · cases hr
    have hfree : c.name ∉ r.statements.map (·.name) := by
      intro hm
      obtain ⟨c', hc', he⟩ := List.mem_map.1 hm
      exact htaken (List.any_eq_true.2 ⟨c', hc', by simp [he]⟩)
    constructor
    · rw [List.map_append, List.map_singleton, ← List.concat_eq_append]
      exact h.nodup_names.concat hfree
    · intro c' hc'
      rcases List.mem_append.1 hc' with hc' | hc'
      · exact h.statements c' hc'
      · rw [List.mem_singleton.1 hc']
        exact hc

theorem readSegment (h : r.WellFormed) {lead : String} {s : Segment}
    (hr : Headed.readSegment lead strict r s = .ok r') : r'.WellFormed := by
  unfold Headed.readSegment at hr
  split at hr
  · exact h.congr (Headed.statements_of_record hr)
  · cases hr
    exact h
  · rename_i c hc
    exact h.add (Headed.wellFormed_of_statement? hc) hr

end Report.WellFormed

theorem Report.wellFormed_empty : Report.empty.WellFormed :=
  ⟨List.nodup_nil, fun _ hc => absurd hc List.not_mem_nil⟩

/-- **What is reported of a source with headers is well formed.** -/
theorem Headed.wellFormed_of_read {lead : String} {strict : Bool} {text : List Char} {r : Report}
    (h : read lead strict text = .ok r) : r.WellFormed :=
  foldlM_preserves (P := Report.WellFormed) (fun _ _ _ hs => hs.readSegment) Report.wellFormed_empty
    h

namespace Marked

variable [Sql.Parser] {lead : String} {strict : Bool} {r r' : Report}

/-- A sound report whose contracts are well formed. -/
structure Healthy (r : Report) : Prop where
  sound : SoundReport r
  wellFormed : r.WellFormed

omit [Sql.Parser] in
theorem wellFormed_of_recover (h : r.WellFormed) {e : ReadError}
    (hr : recover strict r e = .ok r') : r'.WellFormed :=
  h.congr (statements_of_recover hr)

theorem Healthy.readDefinition (h : Healthy r) {d : Dialect} {s : Segment}
    (hr : readDefinition (.ok d) strict r s = .ok r') : Healthy r' := by
  exact ⟨h.sound.readDefinition hr, h.wellFormed.congr (statements_of_readDefinition hr)⟩

theorem Healthy.readQuery (h : Healthy r) {d : Dialect} {q : MarkedQuery}
    (hr : readQuery (.ok d) lead strict r q = .ok r') : Healthy r' := by
  refine ⟨h.sound.readQuery hr, ?_⟩
  unfold Marked.readQuery at hr
  split at hr
  · rename_i c hquery
    have hadd : r.add strict c = .ok r' := mapError_eq_ok_iff.1 hr
    exact h.wellFormed.add (wellFormed_of_query_ok h.sound.1 hquery) hadd
  · exact wellFormed_of_recover h.wellFormed hr

omit [Sql.Parser] in
theorem healthy_start {known : List Table} (hknown : ∀ t ∈ known, t.fault? = none) :
    Healthy { Report.empty with tables := Tables.ofList known } := by
  have hempty : Tables.Sound [] := fun _ he => absurd he List.not_mem_nil
  exact ⟨⟨hempty.foldl_insert hknown, fun _ hc => absurd hc List.not_mem_nil⟩,
    Report.wellFormed_empty.congr rfl⟩

/-- **What is reported of a marked source is well formed**, over known tables without a fault. -/
theorem wellFormed_of_read {word : String} {known : List Table} {text : List Char}
    (hknown : ∀ t ∈ known, t.fault? = none)
    (h : read (ReadError.readDialect word) lead strict known text = .ok r) : r.WellFormed := by
  obtain ⟨d, hd⟩ : ∃ d, read (.ok d) lead strict known text = .ok r := by
    rcases readDialect_cases word with ⟨d, hd⟩ | herror
    · rw [hd] at h
      exact ⟨d, h⟩
    · rw [herror] at h
      exact ⟨.localSync, read_of_read_error h .localSync⟩
  obtain ⟨mid, hdefinitions, hqueries⟩ := bind_eq_ok_iff.1 hd
  have hmid := foldlM_preserves (P := Healthy) (fun _ _ _ hs => hs.readDefinition)
    (healthy_start hknown) hdefinitions
  exact (foldlM_preserves (P := Healthy) (fun _ _ _ hs => hs.readQuery) hmid hqueries).wellFormed

end Marked

/-! ### Contracts that are checked as they are built -/

/-- A step that ends with the fault of the contract that it builds, if there is one. -/
def Contract.guarded {ε σ : Type} (built? : Option Contract) (x : Except ε σ) :
    Except (Contract.Fault ⊕ ε) σ :=
  match built?.bind Contract.fault? with
  | some f => .error (.inl f)
  | none => x.mapError .inr

/-- Reads a source with headers, and checks every contract as it is built. -/
def Headed.readChecked (lead : String) (strict : Bool) (text : List Char) :
    Except (Contract.Fault ⊕ SourceError) Report :=
  (segments text).foldlM
    (fun r s => Contract.guarded (contractOf? (given lead s)) (readSegment lead strict r s))
    Report.empty

/-- Reads a marked source, and checks every contract as it is built. -/
def Marked.readChecked [Sql.Parser] (dialect : Except ReadError Dialect) (lead : String) (strict : Bool)
    (known : List Table) (text : List Char) : Except (Contract.Fault ⊕ ReadError) Report := do
  let r ← ((segments text).foldlM (readDefinition dialect strict)
    { Report.empty with tables := Tables.ofList known }).mapError .inr
  (split text).foldlM
    (fun r q => Contract.guarded (query dialect lead r.tables q).toOption
      (readQuery dialect lead strict r q)) r

/-- A step whose contract is well formed is not refused. -/
theorem Contract.guarded_eq {ε σ : Type} {built? : Option Contract}
    (h : ∀ c, built? = some c → c.WellFormed) (x : Except ε σ) :
    Contract.guarded built? x = x.mapError .inr := by
  unfold guarded
  cases built? with
  | none => rfl
  | some c =>
      have hfault := (h c rfl).fault?_eq_none
      rw [Option.bind_some, hfault]

/-- Runs whose steps give the same up to the wording of errors do so as well. -/
theorem foldlM_eq_mapError {ε ε' α σ : Type} {f : σ → α → Except ε σ} {g : σ → α → Except ε' σ}
    {wording : ε → ε'} {P : σ → Prop} (hP : ∀ s x s', P s → f s x = .ok s' → P s')
    (hstep : ∀ s x, P s → g s x = (f s x).mapError wording) {xs : List α} {s : σ} (h : P s) :
    xs.foldlM g s = (xs.foldlM f s).mapError wording := by
  induction xs generalizing s with
  | nil => rfl
  | cons x xs ih =>
      rw [List.foldlM_cons, List.foldlM_cons, hstep s x h]
      cases hx : f s x with
      | error e => rfl
      | ok s' => exact ih (hP s x s' h hx)

/-- **No contract of a source with headers is refused.** -/
theorem Headed.readChecked_eq (lead : String) (strict : Bool) (text : List Char) :
    readChecked lead strict text = (read lead strict text).mapError .inr := by
  refine foldlM_eq_mapError (P := fun _ => True) (fun _ _ _ _ _ => trivial) (fun r s _ => ?_) trivial
  refine Contract.guarded_eq (fun c hc => ?_) _
  exact wellFormed_of_statement? (contractOf?_given_eq_some_iff.1 hc)

/-- **No contract of a marked source is refused**, over known tables without a fault. -/
theorem Marked.readChecked_eq [Sql.Parser] (word lead : String) (strict : Bool) {known : List Table}
    (hknown : ∀ t ∈ known, t.fault? = none) (text : List Char) :
    readChecked (ReadError.readDialect word) lead strict known text =
      (read (ReadError.readDialect word) lead strict known text).mapError .inr := by
  have hdefinition : ∀ r s r', Healthy r →
      readDefinition (ReadError.readDialect word) strict r s = .ok r' → Healthy r' := by
    intro r s r' h hr
    rcases readDialect_cases word with ⟨d, hd⟩ | herror
    · rw [hd] at hr
      exact h.readDefinition hr
    · rw [herror] at hr
      exact h.readDefinition (readDefinition_of_error .localSync hr)
  have hquery : ∀ r q r', Healthy r →
      readQuery (ReadError.readDialect word) lead strict r q = .ok r' → Healthy r' := by
    intro r q r' h hr
    rcases readDialect_cases word with ⟨d, hd⟩ | herror
    · rw [hd] at hr
      exact h.readQuery hr
    · rw [herror] at hr
      exact h.readQuery (readQuery_of_error .localSync hr)
  unfold readChecked read
  cases hmid : (segments text).foldlM (readDefinition (ReadError.readDialect word) strict)
      { Report.empty with tables := Tables.ofList known } with
  | error e => rfl
  | ok mid =>
      have hhealthy := foldlM_preserves (P := Healthy) hdefinition (healthy_start hknown) hmid
      refine foldlM_eq_mapError (P := Healthy) hquery (fun r q h => ?_) hhealthy
      refine Contract.guarded_eq (fun c hc => ?_) _
      cases hq : query (ReadError.readDialect word) lead r.tables q with
      | error e =>
          rw [hq] at hc
          cases hc
      | ok c' =>
          rw [hq] at hc
          cases hc
          exact wellFormed_of_query h.sound.1 hq

/-- **Reports are well formed, and no contract is ever refused**: from headed and from marked sources,
read strictly or not, for whatever lead and dialect, over known tables without a fault. -/
theorem readers_wellFormed [Sql.Parser] :
    (∀ (lead : String) (strict : Bool) (text : List Char),
      (∀ r, Headed.read lead strict text = .ok r → r.WellFormed) ∧
      Headed.readChecked lead strict text = (Headed.read lead strict text).mapError .inr) ∧
    ∀ (word lead : String) (strict : Bool) (known : List Table) (text : List Char),
      (∀ t ∈ known, t.fault? = none) →
      (∀ r, Marked.read (ReadError.readDialect word) lead strict known text = .ok r →
        r.WellFormed) ∧
      Marked.readChecked (ReadError.readDialect word) lead strict known text =
        (Marked.read (ReadError.readDialect word) lead strict known text).mapError .inr := by
  constructor
  · intro lead strict text
    exact ⟨fun r => Headed.wellFormed_of_read, Headed.readChecked_eq lead strict text⟩
  · intro word lead strict known text hknown
    exact ⟨fun r => Marked.wellFormed_of_read hknown,
      Marked.readChecked_eq word lead strict hknown text⟩

attribute [local instance] Sql.parser

/-- A query with parameters and rows that are found, and one that repeats its name. -/
theorem readers_wellFormed_inferred :
    let known : List Table := [⟨"t", [⟨"id", "INTEGER", false⟩, ⟨"note", "TEXT", true⟩]⟩]
    let text := "-- name: a :one\nSELECT note AS n, id FROM t WHERE id = ? ;\n-- name: a :exec\nSELECT 1"
    let a : Contract := ⟨"a", .one, [⟨"p0", .untyped⟩], [⟨"n", .string, true⟩, ⟨"id", .number, false⟩],
      "SELECT note AS n, id FROM t WHERE id = ?", some 1, none⟩
    (∀ t ∈ known, t.fault? = none) ∧ ∃ r,
      Marked.read (ReadError.readDialect "local-sync") Header.defaultLead false known text.toList =
        .ok r ∧ r.statements = [a] ∧ r.WellFormed ∧
      Marked.readChecked (ReadError.readDialect "local-sync") Header.defaultLead false known
        text.toList = .ok r := by
  intro known text a
  have hknown : ∀ t ∈ known, t.fault? = none := by decide +kernel
  obtain ⟨r, hr, hstatements⟩ := exists_ok_of_map_toOption (f := Report.statements) (b := [a])
    (x := Marked.read (ReadError.readDialect "local-sync") Header.defaultLead false known text.toList)
    (by decide +kernel)
  obtain ⟨hwellFormed, hchecked⟩ :=
    readers_wellFormed.2 "local-sync" Header.defaultLead false known text.toList hknown
  refine ⟨hknown, r, hr, hstatements, hwellFormed r hr, ?_⟩
  rw [hchecked, hr]
  rfl

end SqlContract
