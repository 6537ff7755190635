/-
What is read of a source has a sound shape.

A contract is checked part by part while it is read, and never as a whole.  The checks on its parts
are enough: its names are distinct, a statement without rows declares no fields of a row, and it has
as many parameters as its statement binds.  The fields that are found from tables have distinct names
since no table repeats a column.

Main definitions:

* `Tables.Sound` — tables without a fault;
* `Contract.Sound` — a contract without a fault, with a parameter for each that its statement binds.

Main results:

* `Fields.distinct_of_ofLines` — declared fields have distinct names;
* `Shape.nodup_infer` — the fields that are found have distinct names;
* `Headed.sound_of_statement?` — **what a statement with a header gives is sound**;
* `Marked.sound_of_query` — **what a marked query gives over sound tables is sound**;
* `Marked.sound_of_read` — what is read of a marked source is sound;
* `Marked.exists_source_of_query`, `Marked.exists_source_of_definition` — with a dialect at hand,
  errors of a source are all that can go wrong.
-/

import SqlContract.Generation
import SqlContract.Proofs.Generation.Emission
import SqlContract.Proofs.Headed.Fields

set_option autoImplicit false
set_option relaxedAutoImplicit false

namespace SqlContract

open Text Sql

/-! ### Results in sequence -/

theorem bind_eq_error_iff {ε α β : Type} {x : Except ε α} {f : α → Except ε β} {e : ε} :
    x >>= f = .error e ↔ x = .error e ∨ ∃ a, x = .ok a ∧ f a = .error e := by
  cases x with
  | error e => simp [bind, Except.bind]
  | ok a => simp [bind, Except.bind]

theorem map_eq_error_iff {ε α β : Type} {x : Except ε α} {f : α → β} {e : ε} :
    x.map f = .error e ↔ x = .error e := by
  cases x with
  | error e => simp [Except.map]
  | ok a => simp [Except.map]

theorem mapError_eq_ok_iff {ε ε' α : Type} {x : Except ε α} {f : ε → ε'} {a : α} :
    x.mapError f = .ok a ↔ x = .ok a := by
  cases x with
  | error e => simp [Except.mapError]
  | ok a => simp [Except.mapError]

theorem mapError_eq_error_iff {ε ε' α : Type} {x : Except ε α} {f : ε → ε'} {e' : ε'} :
    x.mapError f = .error e' ↔ ∃ e, x = .error e ∧ f e = e' := by
  cases x with
  | error e => simp [Except.mapError]
  | ok a => simp [Except.mapError]

theorem exists_of_mapM_error {ε α β : Type} {f : α → Except ε β} {xs : List α} {e : ε}
    (h : xs.mapM f = .error e) : ∃ x ∈ xs, f x = .error e := by
  induction xs with
  | nil => cases h
  | cons x xs ih =>
      rw [List.mapM_cons] at h
      rcases bind_eq_error_iff.1 h with hx | ⟨y, -, hrest⟩
      · exact ⟨x, List.mem_cons_self, hx⟩
      · rcases bind_eq_error_iff.1 hrest with hxs | ⟨ys, -, hys⟩
        · obtain ⟨z, hz, hfz⟩ := ih hxs
          exact ⟨z, List.mem_cons_of_mem x hz, hfz⟩
        · cases hys

/-! ### Tables -/

namespace Table

/-- Where no column repeats a name, the names are distinct whatever their case, and none was seen
before. -/
theorem nodup_of_repeatedColumn? {cs : List Column} {seen : List String}
    (h : repeatedColumn? seen cs = none) :
    (cs.map fun c => caseKey c.name).Nodup ∧ ∀ c ∈ cs, caseKey c.name ∉ seen := by
  -- over the names seen, which grow by each column
  induction cs generalizing seen with
  | nil => simp
  | cons c cs ih =>
      rw [repeatedColumn?] at h
      split_ifs at h with hseen
      obtain ⟨hnodup, hfresh⟩ := ih h
      have hc : caseKey c.name ∉ seen := by simpa using hseen
      refine ⟨?_, ?_⟩
      · rw [List.map_cons, List.nodup_cons]
        refine ⟨fun hmem => ?_, hnodup⟩
        obtain ⟨d, hd, he⟩ := List.mem_map.1 hmem
        exact hfresh d hd (he ▸ List.mem_cons_self)
      · intro d hd
        rcases List.mem_cons.1 hd with rfl | hd
        · exact hc
        · exact fun hmem => hfresh d hd (List.mem_cons_of_mem _ hmem)

/-- The fields of a table without a fault have distinct names. -/
theorem nodup_fields {t : Table} (h : t.fault? = none) : (t.fields.map (·.name)).Nodup := by
  unfold fault? at h
  have hkeys := (nodup_of_repeatedColumn? (Option.map_eq_none_iff.1 h)).1
  have hnames : (t.columns.map (·.name)).Nodup := by
    refine List.Nodup.of_map caseKey ?_
    rwa [List.map_map]
  unfold fields
  rwa [List.map_map]

end Table

/-- **The table that is read of a text**: that of its tree, if it has no fault. -/
theorem readTable_eq_some_iff [Sql.Parser] {d : Dialect} {sql : List Char} {t : Table} :
    readTable d sql = .ok (some t) ↔ ∃ tree, Sql.Parser.parse d sql = .ok tree ∧
      Sql.Definition.ofTree d tree = .table t ∧ t.fault? = none := by
  have hread : readTable d sql = .ok (some t) ↔
      Sql.Definition.read d sql = .ok (.table t) ∧ t.fault? = none := by
    unfold readTable
    cases Sql.Definition.read d sql with
    | error words => simp
    | ok definition =>
        cases definition with
        | other => simp
        | table t' =>
            dsimp only
            cases hfault : t'.fault? with
            | none =>
                simp only [Except.ok.injEq, Option.some.injEq, Sql.Definition.table.injEq]
                exact ⟨fun he => ⟨he, he ▸ hfault⟩, fun he => he.1⟩
            | some fault =>
                refine iff_of_false (by simp) fun he => ?_
                obtain rfl := Sql.Definition.table.inj (Except.ok.inj he.1)
                rw [hfault] at he
                cases he.2
  rw [hread, Sql.Definition.read]
  cases Sql.Parser.parse d sql with
  | error words => simp [Except.map]
  | ok tree => simp [Except.map]

namespace Tables

/-- No table has a fault. -/
def Sound (ts : Tables) : Prop :=
  ∀ e ∈ ts, e.2.fault? = none

theorem mem_set {key : String} {t : Table} {ts : Tables} {e : String × Table}
    (h : e ∈ set key t ts) : e = (key, t) ∨ e ∈ ts := by
  induction ts with
  | nil => exact .inl (List.mem_singleton.1 h)
  | cons f ts ih =>
      rw [set] at h
      split_ifs at h
      · rcases List.mem_cons.1 h with he | he
        · exact .inl he
        · exact .inr (List.mem_cons_of_mem f he)
      · rcases List.mem_cons.1 h with rfl | he
        · exact .inr List.mem_cons_self
        · exact (ih he).imp_right (List.mem_cons_of_mem f)

theorem Sound.set {ts : Tables} (h : ts.Sound) {key : String} {t : Table} (ht : t.fault? = none) :
    (Tables.set key t ts).Sound := by
  intro e he
  rcases mem_set he with rfl | he
  · exact ht
  · exact h e he

theorem Sound.foldl_insert {ts : Tables} (h : ts.Sound) {more : List Table}
    (hmore : ∀ t ∈ more, t.fault? = none) : (more.foldl insert ts).Sound := by
  induction more generalizing ts with
  | nil => exact h
  | cons t more ih =>
      exact ih (h.set (hmore t List.mem_cons_self)) fun u hu => hmore u (List.mem_cons_of_mem t hu)

theorem Sound.get? {ts : Tables} (h : ts.Sound) {name : String} {t : Table}
    (ht : ts.get? name = some t) : t.fault? = none := by
  obtain ⟨l, r, rfl, -⟩ := List.lookup_eq_some_iff.1 ht
  exact h (caseKey name, t) (by simp)

end Tables

/-! ### Shapes of rows -/

namespace Scope

/-- The tables of a scope have no fault. -/
def Sound (s : Scope) : Prop :=
  s.primary.fault? = none ∧ s.byName.Sound

theorem exists_of_mem_mapM {α β : Type} {f : α → Option β} {xs : List α} {ys : List β}
    (h : xs.mapM f = some ys) {y : β} (hy : y ∈ ys) : ∃ x ∈ xs, f x = some y := by
  induction xs generalizing ys with
  | nil =>
      obtain rfl : [] = ys := Option.some.inj h
      simp at hy
  | cons x xs ih =>
      rw [List.mapM_cons] at h
      obtain ⟨z, hz, h⟩ := Option.bind_eq_some_iff.1 h
      obtain ⟨zs, hzs, h⟩ := Option.bind_eq_some_iff.1 h
      obtain rfl := Option.some.inj h
      rcases List.mem_cons.1 hy with rfl | hy
      · exact ⟨x, List.mem_cons_self, hz⟩
      · obtain ⟨w, hw, hwy⟩ := ih hzs hy
        exact ⟨w, List.mem_cons_of_mem x hw, hwy⟩

theorem forall_foldl_set {P : Table → Prop} {xs : List (String × Table)} (h : ∀ x ∈ xs, P x.2)
    {ts : Tables} (hts : ∀ e ∈ ts, P e.2) :
    ∀ e ∈ xs.foldl (fun ts (name, t) => ts.set (caseKey name) t) ts, P e.2 := by
  induction xs generalizing ts with
  | nil => exact hts
  | cons x xs ih =>
      refine ih (fun y hy => h y (List.mem_cons_of_mem x hy)) fun e he => ?_
      rcases Tables.mem_set he with rfl | he
      · exact h x List.mem_cons_self
      · exact hts e he

/-- The tables of a scope are known. -/
theorem forall_of_ofRefs? {P : Table → Prop} {known : Tables} (h : ∀ n t, known.get? n = some t → P t)
    {refs : List TableRef} {s : Scope} (hs : ofRefs? known refs = some s) :
    P s.primary ∧ ∀ e ∈ s.byName, P e.2 := by
  unfold ofRefs? at hs
  split at hs
  · rename_i first rest hrefs
    obtain rfl := Option.some.inj hs
    have hall : ∀ x ∈ first :: rest, P x.2 := by
      intro x hx
      obtain ⟨ref, -, href⟩ := exists_of_mem_mapM hrefs hx
      cases ref with
      | derived => simp [lookup?] at href
      | named table given? =>
          obtain ⟨t, ht, rfl⟩ := Option.map_eq_some_iff.1 href
          exact h table t ht
    exact ⟨hall first List.mem_cons_self, forall_foldl_set hall (by simp)⟩
  · simp at hs

/-- A scope over sound tables is sound. -/
theorem sound_of_ofRefs? {known : Tables} (h : known.Sound) {refs : List TableRef} {s : Scope}
    (hs : ofRefs? known refs = some s) : s.Sound :=
  forall_of_ofRefs? (fun _ _ ht => h.get? ht) hs

/-- The fields of a shape over a sound scope have distinct names. -/
theorem nodup_shape {s : Scope} (h : s.Sound) (selected : List Selected) :
    ((s.shape selected).returns.map (·.name)).Nodup := by
  have hunknown : (Shape.unknown.returns.map (·.name)).Nodup := List.nodup_nil
  have htable : ∀ {t : Table}, t.fault? = none →
      ((Shape.ofTable t).returns.map (·.name)).Nodup := fun ht => Table.nodup_fields ht
  unfold shape
  split
  · exact hunknown
  · unfold starShape
    split
    · rename_i q
      cases hq : s.byName.get? q with
      | none => exact hunknown
      | some t => exact htable (h.2.get? hq)
    · split_ifs
      · exact htable h.1
      · exact hunknown
  · split
    · exact htable h.1
    · split_ifs with hnodup
      · exact hnodup
      · exact hunknown

end Scope

/-- The fields that are found from sound tables have distinct names. -/
theorem Shape.nodup_infer [Sql.Parser] (d : Dialect) {known : Tables} (h : known.Sound) (sql : List Char) :
    ((infer d known sql).returns.map (·.name)).Nodup := by
  unfold infer
  split
  · split
    · rename_i hscope
      exact Scope.nodup_shape (Scope.sound_of_ofRefs? h hscope) _
    · exact List.nodup_nil
  · exact List.nodup_nil

/-! ### Fields -/

namespace Fields

/-- A line declares one more field, under a new name. -/
theorem exists_push_of_declare {f f' : Fields} {words : List String}
    (h : f.declare words = .ok f') :
    ∃ kind name type, name ∉ f.names kind ∧ f' = f.push kind name type := by
  obtain ⟨kind, name, type, -, -, -, hfree, hpush⟩ := declare_eq_ok_iff.1 h
  exact ⟨kind, name, type, hfree, hpush⟩

theorem names_push_of_ne {f : Fields} {kind other : FieldKind} (h : other ≠ kind) (name : String)
    (type : ScalarType) : (f.push kind name type).names other = f.names other := by
  cases kind <;> cases other
  · exact absurd rfl h
  · rfl
  · rfl
  · exact absurd rfl h

/-- The fields of each group have distinct names. -/
def Distinct (f : Fields) : Prop :=
  ∀ kind, (f.names kind).Nodup

theorem Distinct.push {f : Fields} (h : f.Distinct) {kind : FieldKind} {name : String}
    (hname : name ∉ f.names kind) (type : ScalarType) : (f.push kind name type).Distinct := by
  intro other
  by_cases ho : other = kind
  · subst ho
    rw [names_push, ← List.concat_eq_append]
    exact (h other).concat hname
  · rw [names_push_of_ne ho]
    exact h other

/-- **Declared fields have distinct names.** -/
theorem distinct_of_ofLines {lines : List (List String)} {f : Fields} (h : ofLines lines = .ok f) :
    f.Distinct := by
  refine foldlM_preserves (P := Distinct) ?_ ?_ h
  · intro f words f' hf hdeclare
    obtain ⟨kind, name, type, hname, rfl⟩ := exists_push_of_declare hdeclare
    exact hf.push hname type
  · intro kind
    cases kind <;> exact List.nodup_nil

end Fields

/-! ### Contracts -/

/-- A contract without a fault that has as many parameters as its statement binds. -/
structure Contract.Sound (c : Contract) : Prop where
  fault : c.fault? = none
  count : placeholderCount c.sql.toList = c.parameters.length

theorem Contract.fault?_eq_none_iff {c : Contract} :
    c.fault? = none ↔ ¬ (c.cardinality = .exec ∧ c.returns ≠ []) ∧
      (c.parameters.map (·.name)).Nodup ∧ (c.returns.map (·.name)).Nodup := by
  unfold fault?
  by_cases hexec : c.cardinality = .exec ∧ c.returns ≠ []
  · rw [if_pos hexec]
    exact iff_of_false (by simp) fun h => h.1 hexec
  · rw [if_neg hexec]
    by_cases hparams : (c.parameters.map (·.name)).Nodup
    · by_cases hreturns : (c.returns.map (·.name)).Nodup
      · rw [if_neg (not_not.2 hparams), if_neg (not_not.2 hreturns)]
        exact iff_of_true rfl ⟨hexec, hparams, hreturns⟩
      · rw [if_neg (not_not.2 hparams), if_pos hreturns]
        exact iff_of_false (by simp) fun h => hreturns h.2.2
    · rw [if_pos hparams]
      exact iff_of_false (by simp) fun h => hparams h.2.1

/-- **What a statement with a header gives is sound.** -/
theorem Headed.sound_of_statement? {lead : String} {line : Option Int} {text : List Char}
    {c : Contract} (h : statement? lead line text = .ok (some c)) : c.Sound := by
  obtain ⟨name, rest, -, -, hbody⟩ := statement?_eq_some_iff.1 h
  obtain ⟨word, declared, card, fields, -, -, hfields, -, hexec, hcount, rfl⟩ :=
    body_eq_ok_iff.1 hbody
  have hdistinct := Fields.distinct_of_ofLines hfields
  refine ⟨Contract.fault?_eq_none_iff.2 ⟨hexec, hdistinct .param, hdistinct .returns⟩, ?_⟩
  rw [String.toList_ofList]
  exact hcount

theorem Headed.sound_of_gives {lead : String} {s : Segment} {c : Contract} (h : Gives lead s c) :
    c.Sound :=
  sound_of_statement? h

namespace Marked

variable {d : Dialect} {lead : String} {known : Tables} {q : MarkedQuery} {c : Contract}
  {header : List (List String)} {fields : Fields} {sql : List Char}

/-- The parameters of a query have distinct names, one for each that its text binds. -/
theorem nodup_parameters {params : List Parameter} (hfields : fields.Distinct)
    (h : parameters header fields sql = .ok params) :
    (params.map (·.name)).Nodup ∧ placeholderCount sql = params.length := by
  unfold parameters at h
  split_ifs at h
  · obtain ⟨_, hcheck, h⟩ := bind_eq_ok_iff.1 h
    obtain rfl := Except.ok.inj h
    exact ⟨hfields .param, checkPlaceholders_eq_ok_iff.1 hcheck⟩
  · obtain rfl := Except.ok.inj h
    refine ⟨?_, by simp⟩
    rw [List.map_map]
    refine List.Nodup.map ?_ List.nodup_range
    intro i j hij
    have hrepr : toString i = toString j := by simpa using hij
    exact Nat.repr_inj.1 hrepr

theorem tables_of_recover {strict : Bool} {r r' : Report} {e : ReadError}
    (h : recover strict r e = .ok r') : r'.tables = r.tables := by
  cases e with
  | unknownDialect word => cases h
  | source e => exact Report.tables_of_record (mapError_eq_ok_iff.1 h)

theorem statements_of_recover {strict : Bool} {r r' : Report} {e : ReadError}
    (h : recover strict r e = .ok r') : r'.statements = r.statements := by
  cases e with
  | unknownDialect word => cases h
  | source e => exact Headed.statements_of_record (mapError_eq_ok_iff.1 h)

/-- How a query stands before its placeholders are counted: the header and the SQL of its first
statement. -/
theorem exists_of_draft {D : Draft} (h : draft lead q = .ok D) :
    Cardinality.ofWord? q.cardinality = some D.cardinality ∧ D.sql ≠ [] ∧
      Fields.ofLines D.header = .ok D.fields ∧
      ∃ s more, segments q.body = s :: more ∧ Header.split lead s.text = (D.header, D.sql) := by
  unfold draft at h
  obtain ⟨card, hcard, h⟩ := bind_eq_ok_iff.1 h
  split at h
  rename_i header sql hparts
  dsimp only at h
  split_ifs at h with hempty
  · obtain ⟨_, herror, -⟩ := bind_eq_ok_iff.1 h
    cases herror
  · have hne : sql ≠ [] := by simpa using hempty
    obtain ⟨fields, hfields, h⟩ := bind_eq_ok_iff.1 h
    obtain rfl := Except.ok.inj h
    refine ⟨readCardinality_eq_ok_iff.1 hcard, hne, hfields, ?_⟩
    split at hparts
    · rename_i s more hsegments
      exact ⟨s, more, hsegments, hparts⟩
    · exact absurd (Prod.mk.inj hparts).2.symm hne

variable [Sql.Parser]

/-- The fields of a query's rows have distinct names, and there are none where there are no rows. -/
theorem nodup_rowShape {card : Cardinality} {shape : Shape} (hknown : known.Sound)
    (hfields : fields.Distinct) (h : rowShape (.ok d) known card header fields sql = .ok shape) :
    ¬ (card = .exec ∧ shape.returns ≠ []) ∧ (shape.returns.map (·.name)).Nodup := by
  unfold rowShape at h
  split_ifs at h with hexec hreturns hdeclared
  · obtain rfl := Except.ok.inj h
    exact ⟨fun hno => hno.2 rfl, List.nodup_nil⟩
  · obtain rfl := Except.ok.inj h
    exact ⟨fun hno => hexec hno.1, hfields .returns⟩
  · obtain rfl := Except.ok.inj h
    exact ⟨fun hno => hexec hno.1, Shape.nodup_infer d hknown sql⟩

/-- How the contract of a query is put together: from the header of its first statement, and from the
SQL behind it. -/
theorem exists_of_namedQuery {dialect : Except ReadError Dialect}
    (h : namedQuery dialect lead known q = .ok c) :
    ∃ text header sql card fields params shape, Header.split lead text = (header, sql) ∧
      sql ≠ [] ∧ Fields.ofLines header = .ok fields ∧
      parameters header fields sql = .ok params ∧
      rowShape dialect known card header fields sql = .ok shape ∧
      c = ⟨q.name, card, params, shape.returns, String.ofList sql, some q.line,
        shape.sourceTable⟩ := by
  unfold namedQuery at h
  obtain ⟨⟨card, header, fields, sql⟩, hdraft, h⟩ := bind_eq_ok_iff.1 h
  obtain ⟨-, hne, hfields, s, -, -, hsplit⟩ := exists_of_draft (mapError_eq_ok_iff.1 hdraft)
  obtain ⟨params, hparams, h⟩ := bind_eq_ok_iff.1 h
  obtain ⟨shape, hshape, h⟩ := bind_eq_ok_iff.1 h
  exact ⟨s.text, header, sql, card, fields, params, shape, hsplit, hne, hfields,
    mapError_eq_ok_iff.1 hparams, hshape, (Except.ok.inj h).symm⟩

/-- **What a marked query gives over sound tables is sound.** -/
theorem sound_of_query (hknown : known.Sound) (h : query (.ok d) lead known q = .ok c) :
    c.Sound := by
  unfold query at h
  split_ifs at h
  obtain ⟨-, header, sql, card, fields, params, shape, -, -, hfields, hparams, hshape, rfl⟩ :=
    exists_of_namedQuery (mapError_eq_ok_iff.1 h)
  have hdistinct := Fields.distinct_of_ofLines hfields
  obtain ⟨hnames, hcount⟩ := nodup_parameters hdistinct hparams
  obtain ⟨hexec, hreturns⟩ := nodup_rowShape hknown hdistinct hshape
  refine ⟨Contract.fault?_eq_none_iff.2 ⟨hexec, hnames, hreturns⟩, ?_⟩
  rw [String.toList_ofList]
  exact hcount

/-! ### Errors of marked sources -/

/-- With a dialect at hand, only the source of a query can be wrong. -/
theorem exists_cause_of_namedQuery {e : Sum ReadError SourceError.Cause}
    (h : namedQuery (.ok d) lead known q = .error e) : ∃ cause, e = .inr cause := by
  have hinr : ∀ {α : Type} {x : Except SourceError.Cause α} {e : Sum ReadError SourceError.Cause},
      x.mapError .inr = .error e → ∃ cause, e = .inr cause := by
    intro α x e he
    obtain ⟨cause, -, rfl⟩ := mapError_eq_error_iff.1 he
    exact ⟨cause, rfl⟩
  unfold namedQuery at h
  rcases bind_eq_error_iff.1 h with h | ⟨⟨card, header, fields, sql⟩, -, h⟩
  · exact hinr h
  · rcases bind_eq_error_iff.1 h with h | ⟨params, -, h⟩
    · exact hinr h
    · rcases bind_eq_error_iff.1 h with h | ⟨shape, -, h⟩
      · unfold rowShape at h
        split_ifs at h
        exact ⟨.execReturns, (Except.error.inj h).symm⟩
      · simp [pure, Except.pure] at h

theorem exists_source_of_query {e : ReadError} (h : query (.ok d) lead known q = .error e) :
    ∃ e', e = .source e' := by
  unfold query at h
  split_ifs at h
  · obtain ⟨e', he, rfl⟩ := mapError_eq_error_iff.1 h
    obtain ⟨cause, rfl⟩ := exists_cause_of_namedQuery he
    exact ⟨_, rfl⟩
  · exact ⟨_, (Except.error.inj h).symm⟩

/-- With a dialect at hand, only the source of a table definition can be wrong. -/
theorem exists_source_of_definition {s : Segment} {e : ReadError}
    (h : definition (.ok d) s = .error e) : ∃ e', e = .source e' := by
  unfold definition at h
  split_ifs at h
  obtain ⟨cause, -, rfl⟩ := mapError_eq_error_iff.1 h
  exact ⟨_, rfl⟩

/-- A table that is read has no fault. -/
theorem fault?_of_definition {s : Segment} {t : Table} (h : definition (.ok d) s = .ok (some t)) :
    t.fault? = none := by
  unfold definition at h
  split_ifs at h
  swap
  · simp at h
  obtain ⟨-, -, -, hfault⟩ := readTable_eq_some_iff.1 (mapError_eq_ok_iff.1 h)
  exact hfault

/-! ### What is read of a marked source -/

/-- The tables and the contracts of a report are sound. -/
def SoundReport (r : Report) : Prop :=
  r.tables.Sound ∧ ∀ c ∈ r.statements, c.Sound

variable {strict : Bool} {r r' : Report}

section

variable {dialect : Except ReadError Dialect} {s : Segment}

theorem statements_of_readDefinition (h : readDefinition dialect strict r s = .ok r') :
    r'.statements = r.statements := by
  unfold readDefinition at h
  split at h
  · rw [Except.ok.inj h]
  · rw [← Except.ok.inj h]
  · exact statements_of_recover h

theorem tables_of_readQuery (h : readQuery dialect lead strict r q = .ok r') :
    r'.tables = r.tables := by
  unfold readQuery at h
  split at h
  · exact Report.tables_of_add (mapError_eq_ok_iff.1 h)
  · exact tables_of_recover h

/-- What reading one query does to the contracts that are read. -/
theorem statements_of_readQuery (h : readQuery dialect lead strict r q = .ok r') :
    r'.statements = r.statements ∨
      ∃ c, query dialect lead r.tables q = .ok c ∧ r'.statements = r.statements ++ [c] := by
  unfold readQuery at h
  split at h
  · rename_i c hc
    exact (Headed.statements_of_add (mapError_eq_ok_iff.1 h)).imp_right fun hadded =>
      ⟨c, hc, hadded⟩
  · exact .inl (statements_of_recover h)

/-- What holds of the contracts of some queries holds of those that are read. -/
theorem forall_of_readQuery {P : Contract → Prop} (h : ∀ c ∈ r.statements, P c)
    (hquery : ∀ c, query dialect lead r.tables q = .ok c → P c)
    (hr : readQuery dialect lead strict r q = .ok r') : ∀ c ∈ r'.statements, P c := by
  rcases statements_of_readQuery hr with hsame | ⟨c, hc, hadded⟩
  · rwa [hsame]
  · rw [hadded]
    exact List.forall_mem_append.2 ⟨h, List.forall_mem_singleton.2 (hquery c hc)⟩

end

omit [Sql.Parser] in
theorem SoundReport.recover (h : SoundReport r) {e : ReadError}
    (hr : recover strict r e = .ok r') : SoundReport r' := by
  unfold SoundReport
  rw [tables_of_recover hr, statements_of_recover hr]
  exact h

/-- Reading a table definition keeps a report sound. -/
theorem SoundReport.readDefinition (h : SoundReport r) {s : Segment}
    (hr : readDefinition (.ok d) strict r s = .ok r') : SoundReport r' := by
  unfold Marked.readDefinition at hr
  split at hr
  · exact Except.ok.inj hr ▸ h
  · rename_i t hdefinition
    rw [← Except.ok.inj hr]
    exact ⟨h.1.set (fault?_of_definition hdefinition), h.2⟩
  · exact h.recover hr

/-- Reading a query keeps a report sound. -/
theorem SoundReport.readQuery (h : SoundReport r)
    (hr : readQuery (.ok d) lead strict r q = .ok r') : SoundReport r' := by
  refine ⟨?_, forall_of_readQuery h.2 (fun c hc => sound_of_query h.1 hc) hr⟩
  rw [tables_of_readQuery hr]
  exact h.1

/-- **What is read of a marked source is sound**, over known tables without a fault. -/
theorem sound_of_read {tables : List Table} (hknown : ∀ t ∈ tables, t.fault? = none)
    {text : List Char} (h : read (.ok d) lead strict tables text = .ok r) : SoundReport r := by
  obtain ⟨mid, hdefinitions, hqueries⟩ := bind_eq_ok_iff.1 h
  have hempty : Tables.Sound [] := by simp [Tables.Sound]
  have hstart : SoundReport { Report.empty with tables := Tables.ofList tables } :=
    ⟨hempty.foldl_insert hknown, by simp [Report.empty]⟩
  have hmid := foldlM_preserves (P := SoundReport) (fun _ _ _ hs => hs.readDefinition) hstart
    hdefinitions
  exact foldlM_preserves (P := SoundReport) (fun _ _ _ hs => hs.readQuery) hmid hqueries

end Marked

end SqlContract
