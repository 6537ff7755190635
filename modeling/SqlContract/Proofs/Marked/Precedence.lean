/-
Definitions of a text stand before known tables.

A text is read in two rounds: the tables that it defines are put over those known before, and then its
queries are read over all of them.  A query asks for tables by name only.  So a known table is never
seen if the text defines its name, and a query sees the last definition of a name, wherever the query
itself stands.

Main definitions:

* `Marked.DefinedBy`, `Marked.LastDefined` — the names that some statements define, and the table that
  is defined last under a name;
* `Tables.AgreeBut` — tables that are found alike under all names but some;
* `Marked.Alike` — two readings end alike, with tables in some relation.

Main results:

* `Marked.query_congr` — **a query depends on what tables are found by name**;
* `Marked.get?_foldlM_readDefinition` — the table that is found after a run of definitions;
* `Marked.alike_foldlM_readDefinition` — a run of definitions makes up for known tables that differ;
* `Marked.read_overridden` — **known tables that a text defines again do not matter**.
-/

import SqlContract.Proofs.Generation.Synonyms

set_option autoImplicit false
set_option relaxedAutoImplicit false

namespace SqlContract

open Sql

/-! ### Tables by name -/

namespace Tables

variable {ts us : Tables} {defined : String → Prop}

theorem lookup_cons_eq_ite (key : String) (e : String × Table) (ts : Tables) :
    (e :: ts).lookup key = if key = e.1 then some e.2 else ts.lookup key := by
  obtain ⟨k, t⟩ := e
  rw [List.lookup_cons]
  by_cases h : key = k
  · rw [beq_iff_eq.2 h, if_pos h]
  · rw [beq_eq_false_iff_ne.2 h, if_neg h]

theorem lookup_set (key key' : String) (t : Table) (ts : Tables) :
    (ts.set key t).lookup key' = if key' = key then some t else ts.lookup key' := by
  induction ts with
  | nil => exact lookup_cons_eq_ite key' (key, t) []
  | cons e ts ih =>
      rw [set]
      split_ifs with he hkey hkey
      · rw [lookup_cons_eq_ite, if_pos hkey]
      · rw [lookup_cons_eq_ite, lookup_cons_eq_ite, he, if_neg hkey, if_neg hkey]
      · rw [lookup_cons_eq_ite, ih, if_pos hkey, hkey, if_neg (Ne.symm he)]
      · rw [lookup_cons_eq_ite, lookup_cons_eq_ite, ih, if_neg hkey]

/-- A table that is added is found under its name, and all others as before. -/
theorem get?_insert (ts : Tables) (t : Table) (name : String) :
    (ts.insert t).get? name = if caseKey name = caseKey t.name then some t else ts.get? name :=
  lookup_set _ _ t ts

/-- Tables under their keys that are found alike by every name, but for the names in `defined`. -/
structure AgreeBut (defined : String → Prop) (ts us : Tables) : Prop where
  left : ts.Keyed
  right : us.Keyed
  get?_eq : ∀ name, ¬ defined name → ts.get? name = us.get? name

/-- A table that is added to both makes up for its name. -/
theorem AgreeBut.insert {rest : String → Prop} (h : AgreeBut defined ts us) (t : Table)
    (hrest : ∀ name, ¬ rest name → caseKey name ≠ caseKey t.name → ¬ defined name) :
    AgreeBut rest (ts.insert t) (us.insert t) where
  left := h.left.insert t
  right := h.right.insert t
  get?_eq := by
    intro name hname
    rw [get?_insert, get?_insert]
    split_ifs with hkey
    · rfl
    · exact h.get?_eq name (hrest name hname hkey)

theorem AgreeBut.mono {rest : String → Prop} (h : AgreeBut defined ts us)
    (hrest : ∀ name, defined name → rest name) : AgreeBut rest ts us :=
  ⟨h.left, h.right, fun name hname => h.get?_eq name (mt (hrest name) hname)⟩

/-- Tables that are found alike by every name are the same tables in some order. -/
theorem AgreeBut.perm (h : AgreeBut (fun _ => False) ts us) : ts.Perm us := by
  have hmem : ∀ {ts us : Tables}, ts.Keyed → us.Keyed → (∀ name, ts.get? name = us.get? name) →
      ts ⊆ us := by
    intro ts us hts hus hget e he
    have hkey : e = (caseKey e.2.name, e.2) := Prod.ext (hts.key_eq e he) rfl
    rw [hkey] at he ⊢
    rw [← hus.get?_eq_some_iff, ← hget]
    exact hts.get?_eq_some_iff.2 he
  have hget : ∀ name, ts.get? name = us.get? name := fun name => h.get?_eq name not_false
  refine (List.perm_ext_iff_of_nodup (.of_map _ h.left.nodup) (.of_map _ h.right.nodup)).2 fun e => ?_
  exact ⟨@hmem ts us h.left h.right hget e, @hmem us ts h.right h.left (fun n => (hget n).symm) e⟩

end Tables

/-! ### Queries ask by name -/

section

variable {known known' : Tables}

theorem Scope.lookup?_congr (h : ∀ name, known.get? name = known'.get? name) :
    Scope.lookup? known = Scope.lookup? known' := by
  funext ref
  cases ref with
  | derived => rfl
  | named table given? => simp only [lookup?, h]

theorem Shape.infer_congr [Parser] (h : ∀ name, known.get? name = known'.get? name) (d : Dialect)
    (sql : List Char) : infer d known sql = infer d known' sql := by
  unfold infer Scope.ofRefs?
  rw [Scope.lookup?_congr h]

namespace Marked

theorem rowShape_congr [Parser] (h : ∀ name, known.get? name = known'.get? name)
    (dialect : Except ReadError Dialect) (card : Cardinality) (header : List (List String))
    (fields : Fields) (sql : List Char) :
    rowShape dialect known card header fields sql = rowShape dialect known' card header fields sql := by
  unfold rowShape
  simp only [Shape.infer_congr h]

/-- **A query depends on what tables are found by name.** -/
theorem query_congr [Parser] (h : ∀ name, known.get? name = known'.get? name)
    (dialect : Except ReadError Dialect) (lead : String) (q : MarkedQuery) :
    query dialect lead known q = query dialect lead known' q := by
  unfold query namedQuery
  simp only [rowShape_congr h]

end Marked

end

namespace Marked

/-! ### Two readings -/

/-- Two readings end alike: with the same error, or with reports that differ in their tables only, and
these are in the given relation. -/
inductive Alike (rel : Tables → Tables → Prop) :
    Except ReadError Report → Except ReadError Report → Prop
  | error (e : ReadError) : Alike rel (.error e) (.error e)
  | ok {r r' : Report} : r'.statements = r.statements → r'.errors = r.errors → r'.log = r.log →
      rel r.tables r'.tables → Alike rel (.ok r) (.ok r')

section

variable {rel rel' : Tables → Tables → Prop} {x y : Except ReadError Report} {r r' : Report}

theorem Alike.mono (h : Alike rel x y) (hrel : ∀ ts us, rel ts us → rel' ts us) : Alike rel' x y := by
  cases h with
  | error e => exact .error e
  | ok hstatements herrors hlog htables => exact .ok hstatements herrors hlog (hrel _ _ htables)

/-- Two rounds in a row. -/
theorem Alike.bind {f g : Report → Except ReadError Report} (h : Alike rel x y)
    (hfg : ∀ r r', Alike rel (.ok r) (.ok r') → Alike rel' (f r) (g r')) :
    Alike rel' (x >>= f) (y >>= g) := by
  cases h with
  | error e => exact .error e
  | ok hstatements herrors hlog htables => exact hfg _ _ (.ok hstatements herrors hlog htables)

theorem Alike.record (h : Alike rel (.ok r) (.ok r')) (strict : Bool) (e : SourceError) :
    Alike rel ((r.record strict e).mapError .source) ((r'.record strict e).mapError .source) := by
  cases h with
  | ok hstatements herrors hlog htables =>
      unfold Report.record
      split_ifs
      · exact .error _
      · exact .ok hstatements (congrArg (· ++ _) herrors) (congrArg (· ++ _) hlog) htables

theorem Alike.recover (h : Alike rel (.ok r) (.ok r')) (strict : Bool) (e : ReadError) :
    Alike rel (Marked.recover strict r e) (Marked.recover strict r' e) := by
  cases e with
  | unknownDialect word => exact .error _
  | source e => exact h.record strict e

theorem Alike.add (h : Alike rel (.ok r) (.ok r')) (strict : Bool) (c : Contract) :
    Alike rel ((r.add strict c).mapError .source) ((r'.add strict c).mapError .source) := by
  have hrecord := h.record strict (Report.repeatedStatement c)
  cases h with
  | ok hstatements herrors hlog htables =>
      unfold Report.add
      rw [hstatements]
      split_ifs
      · exact hrecord
      · exact .ok rfl herrors hlog htables

end

variable [Sql.Parser] {dialect : Except ReadError Dialect} {lead : String} {strict : Bool} {r r' : Report}
  {s : Segment} {segs : List Segment} {name : String} {t : Table}

/-! ### Definitions of a text -/

/-- Some of the statements define a table of the given name, whatever its case. -/
def DefinedBy (dialect : Except ReadError Dialect) (segs : List Segment) (name : String) : Prop :=
  ∃ s ∈ segs, ∃ t, definition dialect s = .ok (some t) ∧ caseKey t.name = caseKey name

/-- The table that the statements define last under the given name. -/
def LastDefined (dialect : Except ReadError Dialect) (segs : List Segment) (name : String)
    (t : Table) : Prop :=
  ∃ before s behind, segs = before ++ s :: behind ∧ definition dialect s = .ok (some t) ∧
    caseKey t.name = caseKey name ∧ ¬ DefinedBy dialect behind name

theorem definedBy_cons_iff : DefinedBy dialect (s :: segs) name ↔
    (∃ t, definition dialect s = .ok (some t) ∧ caseKey t.name = caseKey name) ∨
      DefinedBy dialect segs name :=
  List.exists_mem_cons_iff ..

theorem not_definedBy_nil : ¬ DefinedBy dialect [] name := by
  rintro ⟨s, hs, -⟩
  simp at hs

theorem lastDefined_cons_iff : LastDefined dialect (s :: segs) name t ↔
    LastDefined dialect segs name t ∨
      definition dialect s = .ok (some t) ∧ caseKey t.name = caseKey name ∧
        ¬ DefinedBy dialect segs name := by
  constructor
  · rintro ⟨before, s', behind, hsegs, hs, hname, hlast⟩
    cases before with
    | nil =>
        obtain ⟨rfl, rfl⟩ := List.cons.inj hsegs
        exact .inr ⟨hs, hname, hlast⟩
    | cons _ before =>
        obtain ⟨-, rfl⟩ := List.cons.inj hsegs
        exact .inl ⟨before, s', behind, rfl, hs, hname, hlast⟩
  · rintro (⟨before, s', behind, rfl, hs, hname, hlast⟩ | ⟨hs, hname, hlast⟩)
    · exact ⟨s :: before, s', behind, rfl, hs, hname, hlast⟩
    · exact ⟨[], s, segs, rfl, hs, hname, hlast⟩

theorem not_lastDefined_nil : ¬ LastDefined dialect [] name t := by
  rintro ⟨before, s, behind, hsegs, -⟩
  simp at hsegs

/-- What one statement does to the tables: it adds the one that it defines, or leaves all as they
were. -/
theorem tables_of_readDefinition (h : readDefinition dialect strict r s = .ok r') :
    (∃ t, definition dialect s = .ok (some t) ∧ r'.tables = r.tables.insert t) ∨
      (∀ t, definition dialect s ≠ .ok (some t)) ∧ r'.tables = r.tables := by
  unfold readDefinition at h
  split at h
  · rename_i hs
    rw [← Except.ok.inj h]
    exact .inr ⟨by simp [hs], rfl⟩
  · rename_i t hs
    rw [← Except.ok.inj h]
    exact .inl ⟨t, hs, rfl⟩
  · rename_i e hs
    exact .inr ⟨by simp [hs], tables_of_recover h⟩

/-- **The table that is found after a run of definitions** is the last that they define under the name,
or else the one that was there before. -/
theorem get?_foldlM_readDefinition (h : segs.foldlM (readDefinition dialect strict) r = .ok r') :
    r'.tables.get? name = some t ↔ LastDefined dialect segs name t ∨
      ¬ DefinedBy dialect segs name ∧ r.tables.get? name = some t := by
  induction segs generalizing r with
  | nil =>
      rw [Except.ok.inj h]
      simp [not_lastDefined_nil, not_definedBy_nil]
  | cons s segs ih =>
      rw [List.foldlM_cons] at h
      obtain ⟨mid, hmid, h⟩ := bind_eq_ok_iff.1 h
      rw [ih h, lastDefined_cons_iff, definedBy_cons_iff]
      rcases tables_of_readDefinition hmid with ⟨u, hu, htables⟩ | ⟨hnone, htables⟩
      · rw [htables, Tables.get?_insert, hu]
        by_cases hkey : caseKey name = caseKey u.name
        · simp only [if_pos hkey, Except.ok.injEq, Option.some.injEq]
          constructor
          · rintro (hlast | ⟨hno, rfl⟩)
            · exact .inl (.inl hlast)
            · exact .inl (.inr ⟨rfl, hkey.symm, hno⟩)
          · rintro ((hlast | ⟨rfl, -, hno⟩) | ⟨hno, -⟩)
            · exact .inl hlast
            · exact .inr ⟨hno, rfl⟩
            · exact absurd (.inl ⟨u, rfl, hkey.symm⟩) hno
        · simp only [if_neg hkey, Except.ok.injEq, Option.some.injEq]
          constructor
          · rintro (hlast | ⟨hno, ht⟩)
            · exact .inl (.inl hlast)
            · refine .inr ⟨?_, ht⟩
              rintro (⟨_, rfl, hname⟩ | hsegs)
              · exact hkey hname.symm
              · exact hno hsegs
          · rintro ((hlast | ⟨rfl, hname, -⟩) | ⟨hno, ht⟩)
            · exact .inl hlast
            · exact absurd hname.symm hkey
            · exact .inr ⟨fun hsegs => hno (.inr hsegs), ht⟩
      · simp [htables, hnone]

/-! ### Known tables that differ -/

/-- One statement makes up for the name that it defines. -/
theorem alike_readDefinition
    (h : Alike (Tables.AgreeBut (DefinedBy dialect (s :: segs))) (.ok r) (.ok r')) :
    Alike (Tables.AgreeBut (DefinedBy dialect segs)) (readDefinition dialect strict r s)
      (readDefinition dialect strict r' s) := by
  -- a statement that defines no table leaves no name to make up for
  have hnone : (∀ t, definition dialect s ≠ .ok (some t)) →
      Alike (Tables.AgreeBut (DefinedBy dialect segs)) (.ok r) (.ok r') := fun hs =>
    h.mono fun ts us hagree => hagree.mono fun name hname =>
      (definedBy_cons_iff.1 hname).resolve_left fun ⟨t, ht, _⟩ => hs t ht
  unfold readDefinition
  cases hs : definition dialect s with
  | error e => exact (hnone (by simp [hs])).recover strict e
  | ok t? =>
      cases t? with
      | none => exact hnone (by simp [hs])
      | some t =>
          cases h with
          | ok hstatements herrors hlog htables =>
              refine .ok hstatements herrors hlog (htables.insert t fun name hname hkey => ?_)
              rw [definedBy_cons_iff]
              rintro (⟨u, hu, hukey⟩ | hsegs)
              · rw [hs] at hu
                obtain rfl := Option.some.inj (Except.ok.inj hu)
                exact hkey hukey.symm
              · exact hname hsegs

/-- **A run of definitions makes up for known tables that differ** under the names that it defines. -/
theorem alike_foldlM_readDefinition
    (h : Alike (Tables.AgreeBut (DefinedBy dialect segs)) (.ok r) (.ok r')) :
    Alike (Tables.AgreeBut fun _ => False) (segs.foldlM (readDefinition dialect strict) r)
      (segs.foldlM (readDefinition dialect strict) r') := by
  induction segs generalizing r r' with
  | nil => exact h.mono fun _ _ hagree => hagree.mono fun _ => not_definedBy_nil
  | cons s segs ih =>
      rw [List.foldlM_cons, List.foldlM_cons]
      exact (alike_readDefinition h).bind fun _ _ hmid => ih hmid

theorem alike_readQuery (h : Alike (Tables.AgreeBut fun _ => False) (.ok r) (.ok r'))
    (q : MarkedQuery) :
    Alike (Tables.AgreeBut fun _ => False) (readQuery dialect lead strict r q)
      (readQuery dialect lead strict r' q) := by
  have hquery : query dialect lead r'.tables q = query dialect lead r.tables q := by
    cases h with
    | ok _ _ _ htables => exact query_congr (fun n => (htables.get?_eq n not_false).symm) dialect lead q
  unfold readQuery
  rw [hquery]
  cases query dialect lead r.tables q with
  | error e => exact h.recover strict e
  | ok c => exact h.add strict c

theorem alike_foldlM_readQuery {qs : List MarkedQuery}
    (h : Alike (Tables.AgreeBut fun _ => False) (.ok r) (.ok r')) :
    Alike (Tables.AgreeBut fun _ => False) (qs.foldlM (readQuery dialect lead strict) r)
      (qs.foldlM (readQuery dialect lead strict) r') := by
  induction qs generalizing r r' with
  | nil => exact h
  | cons q qs ih =>
      rw [List.foldlM_cons, List.foldlM_cons]
      exact (alike_readQuery h q).bind fun _ _ hmid => ih hmid

/-! ### What is read -/

/-- The tables of a report are those that stand after the definitions of the text. -/
theorem exists_of_read {known : List Table} {text : List Char}
    (h : read dialect lead strict known text = .ok r) :
    ∃ mid, (segments text).foldlM (readDefinition dialect strict)
        { Report.empty with tables := Tables.ofList known } = .ok mid ∧ r.tables = mid.tables := by
  obtain ⟨mid, hmid, hqueries⟩ := bind_eq_ok_iff.1 h
  refine ⟨mid, hmid, ?_⟩
  exact foldlM_preserves (P := fun q : Report => q.tables = mid.tables)
    (fun _ _ _ hq hstep => (tables_of_readQuery hstep).trans hq) rfl hqueries

/-- **Known tables that a text defines again do not matter.**  Take two lists of known tables that are
found alike under every name that no statement of the text defines.  Over both, the reading of the text
ends alike: with the same error, or with the same statements, errors and log, and the same tables in
some order.  Under a name stands the table that the text defines last, or else the one that was known
before; and every query of the text, wherever it stands, makes its entry over these tables. -/
theorem read_overridden (word lead : String) (strict : Bool) {known known' : List Table}
    (text : List Char)
    (h : ∀ name, ¬ DefinedBy (ReadError.readDialect word) (segments text) name →
      (Tables.ofList known).get? name = (Tables.ofList known').get? name) :
    Alike List.Perm (read (ReadError.readDialect word) lead strict known text)
        (read (ReadError.readDialect word) lead strict known' text) ∧
      ∀ r, read (ReadError.readDialect word) lead strict known text = .ok r →
        (∀ name t, r.tables.get? name = some t ↔
          LastDefined (ReadError.readDialect word) (segments text) name t ∨
            ¬ DefinedBy (ReadError.readDialect word) (segments text) name ∧
              (Tables.ofList known).get? name = some t) ∧
        ∀ d, ReadError.readDialect word = .ok d ∨ Dialect.ofWord? word = none →
          ∃ before es, Entered (given d lead r.tables) (fun q => q.line) (split text) es ∧
            r = .ofEntries r.tables before es := by
  refine ⟨?_, fun r hr => ⟨fun name t => ?_, fun d hd => ?_⟩⟩
  · have hkeyed : ∀ ts, (Tables.ofList ts).Keyed := Tables.keyed_nil.foldl_insert
    have hstart : Alike (Tables.AgreeBut (DefinedBy (ReadError.readDialect word) (segments text)))
        (.ok { Report.empty with tables := Tables.ofList known })
        (.ok { Report.empty with tables := Tables.ofList known' }) :=
      .ok rfl rfl rfl ⟨hkeyed known, hkeyed known', h⟩
    have hread : Alike (Tables.AgreeBut fun _ => False)
        (read (ReadError.readDialect word) lead strict known text)
        (read (ReadError.readDialect word) lead strict known' text) :=
      (alike_foldlM_readDefinition hstart).bind fun _ _ => alike_foldlM_readQuery
    exact hread.mono fun _ _ hagree => hagree.perm
  · obtain ⟨mid, hmid, htables⟩ := exists_of_read hr
    rw [htables]
    exact get?_foldlM_readDefinition hmid
  · -- what is read strictly, or for an unknown dialect, is what is read for `d` and not strictly
    have hdialect : read (.ok d) lead strict known text = .ok r := by
      rcases hd with hd | hunknown
      · rwa [hd] at hr
      · have hunread : ReadError.readDialect word = .error (.unknownDialect word) := by
          unfold ReadError.readDialect
          rw [hunknown]
        rw [hunread] at hr
        exact read_of_read_error hr d
    obtain ⟨es, hes, -, hread⟩ := exists_entered d lead known text
    obtain rfl := Stops.eq_of_ok (fun strict => read (.ok d) lead strict known text)
      (stops_read (.ok d) lead known text) hread hdialect
    exact ⟨_, es, hes, rfl⟩

end Marked

attribute [local instance] Sql.parser

namespace Marked

/-- A query that stands before two definitions of its table, which is known before as well.  Without the
known table the tables come in another order. -/
theorem read_overridden_twice :
    let t : Table := ⟨"t", [⟨"x", "REAL", true⟩]⟩
    let known : List Table := [⟨"Users", [⟨"old", "BLOB", true⟩]⟩, t]
    let known' : List Table := [t]
    let text := ("-- name: all :many\nSELECT * FROM Users;\nCREATE TABLE users (id INTEGER);\n" ++
      "CREATE TABLE USERS (note TEXT)").toList
    let users : Table := ⟨"USERS", [⟨"note", "TEXT", true⟩]⟩
    (∀ name, ¬ DefinedBy (ReadError.readDialect "local-sync") (segments text) name →
        (Tables.ofList known).get? name = (Tables.ofList known').get? name) ∧
      ∃ r r', read (ReadError.readDialect "local-sync") "@" false known text = .ok r ∧
        read (ReadError.readDialect "local-sync") "@" false known' text = .ok r' ∧
        r.tables = [("users", users), ("t", t)] ∧ r'.tables = [("t", t), ("users", users)] ∧
        r'.statements = r.statements ∧
        r.statements.map (·.returns) = [[⟨"note", .string, true⟩]] := by
  intro t known known' text users
  have hagree : ∀ name, ¬ DefinedBy (ReadError.readDialect "local-sync") (segments text) name →
      (Tables.ofList known).get? name = (Tables.ofList known').get? name := by
    intro name hname
    have hkey : caseKey name ≠ "users" := by
      intro hkey
      refine hname ⟨⟨"\nCREATE TABLE USERS (note TEXT)".toList, 4, false⟩, ?_, users, ?_, ?_⟩
      · decide +kernel
      · decide +kernel
      · rw [hkey]
        decide +kernel
    have hknown : Tables.ofList known = ("users", ⟨"Users", [⟨"old", "BLOB", true⟩]⟩) ::
        Tables.ofList known' := by
      decide +kernel
    unfold Tables.get?
    rw [hknown, Tables.lookup_cons_eq_ite, if_neg hkey]
  obtain ⟨r, hr, hshown⟩ := exists_ok_of_map_toOption
    (f := fun r : Report => (r.tables, r.statements.map (·.returns)))
    (b := ([("users", users), ("t", t)], [[⟨"note", .string, true⟩]]))
    (x := read (ReadError.readDialect "local-sync") "@" false known text) (by decide +kernel)
  obtain ⟨r', hr', htables⟩ := exists_ok_of_map_toOption (f := Report.tables)
    (b := [("t", t), ("users", users)])
    (x := read (ReadError.readDialect "local-sync") "@" false known' text) (by decide +kernel)
  obtain ⟨hknown, hreturns⟩ := Prod.mk.inj hshown
  have halike := (read_overridden "local-sync" "@" false text hagree).1
  rw [hr, hr'] at halike
  cases halike with
  | ok hstatements => exact ⟨hagree, r, r', hr, hr', hknown, htables, hstatements, hreturns⟩

end Marked

end SqlContract
