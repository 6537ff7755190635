/-
The SQL constants of generated modules.

The SQL of a contract that is read from a source holds no carriage return, which a literal could not
keep.  The literal of an SQL constant is therefore read back as the SQL itself, in the form of either
engine.

Main results:

* `Headed.return_not_mem_of_read`, `Marked.return_not_mem_of_read` — **the SQL of a contract that is
  read holds no carriage return**;
* `Literal.sql_survives` — **SQL constants survive**, in the form of either engine.
-/

import SqlContract.Emit.Module
import SqlContract.Proofs.Emit.Definitions
import SqlContract.Proofs.Generation.WellFormed

set_option autoImplicit false
set_option relaxedAutoImplicit false

namespace SqlContract

open Text Sql

/-! ### The SQL of contracts that are read -/

/-- The SQL behind a header has no other line breaks than line feeds. -/
theorem Header.eq_lineFeed_of_mem_split {lead : String} {text : List Char} {c : Char}
    (hc : c ∈ (split lead text).2) (hbreak : isLineBreak c = true) : c = '\n' := by
  have hself : c ∈ strip (['\n'].intercalate
      (takeLines lead.toList ((lines text).dropWhile (isFiller lead.toList))).2) := hc
  have hsuffix : (lines text).dropWhile (isFiller lead.toList) <:+ lines text :=
    List.dropWhile_suffix _
  obtain ⟨hs, hlines, -⟩ := exists_takeLines_eq lead.toList
    ((lines text).dropWhile (isFiller lead.toList))
  generalize (takeLines lead.toList ((lines text).dropWhile (isFiller lead.toList))).2 = behind
    at hself hlines
  obtain ⟨u, v, -, -, hstrip⟩ := exists_strip_eq (['\n'].intercalate behind)
  have hmem : c ∈ ['\n'].intercalate behind := by
    rw [hstrip]
    exact List.mem_append_right u (List.mem_append_left v hself)
  rcases mem_intercalate hmem with hfeed | ⟨l, hl, hcl⟩
  · exact List.mem_singleton.1 hfeed
  · have hline : l ∈ lines text := by
      rw [hlines] at hsuffix
      exact hsuffix.subset (List.mem_append_right hs hl)
    rw [isLineBreak_of_mem_lines hline hcl] at hbreak
    cases hbreak

theorem Header.return_not_mem_split (lead : String) (text : List Char) :
    '\r' ∉ (split lead text).2 :=
  fun h => absurd (eq_lineFeed_of_mem_split h (by decide)) (by decide)

/-- **The SQL of a statement with a header holds no carriage return.** -/
theorem Headed.return_not_mem_of_read {lead : String} {strict : Bool} {text : List Char} {r : Report}
    (h : read lead strict text = .ok r) {c : Contract} (hc : c ∈ r.statements) :
    '\r' ∉ c.sql.toList := by
  obtain ⟨s, -, hgives⟩ := exists_segment_of_mem_read h hc
  obtain ⟨name, rest, -, -, hbody⟩ := statement?_eq_some_iff.1 hgives
  obtain ⟨word, declared, card, fields, -, -, -, -, -, -, rfl⟩ := body_eq_ok_iff.1 hbody
  rw [String.toList_ofList]
  exact Header.return_not_mem_split lead s.text

namespace Marked

variable [Sql.Parser] {dialect : Except ReadError Dialect} {lead : String} {strict : Bool}
  {known : Tables} {q : MarkedQuery} {c : Contract} {r r' : Report}

theorem return_not_mem_of_query (h : query dialect lead known q = .ok c) : '\r' ∉ c.sql.toList := by
  unfold query at h
  split_ifs at h
  obtain ⟨text, header, sql, -, -, -, -, hsplit, -, -, -, -, rfl⟩ :=
    exists_of_namedQuery (mapError_eq_ok_iff.1 h)
  have hsql := Header.return_not_mem_split lead text
  rwa [hsplit, ← String.toList_ofList (l := sql)] at hsql

/-- **The SQL of a marked query holds no carriage return.** -/
theorem return_not_mem_of_read {tables : List Table} {text : List Char}
    (h : read dialect lead strict tables text = .ok r) (hc : c ∈ r.statements) :
    '\r' ∉ c.sql.toList := by
  obtain ⟨mid, hdefinitions, hqueries⟩ := bind_eq_ok_iff.1 h
  have hmid : mid.statements = [] :=
    foldlM_preserves (P := fun r : Report => r.statements = [])
      (fun _ _ _ hs hstep => (statements_of_readDefinition hstep).trans hs) rfl hdefinitions
  have hstart : ∀ c ∈ mid.statements, '\r' ∉ c.sql.toList := by
    simp [hmid]
  exact foldlM_preserves (P := fun r : Report => ∀ c ∈ r.statements, '\r' ∉ c.sql.toList)
    (fun _ _ _ hs => forall_of_readQuery hs fun c => return_not_mem_of_query) hstart hqueries c hc

end Marked

/-! ### SQL constants -/

/-- **SQL constants survive.**  SQL without a carriage return and a null character is the value of
the literal that is written for it, and what follows the literal is what is left; the same is true
of the form of the SQL that an engine takes.  No SQL that is read from a source holds a carriage
return. -/
theorem Literal.sql_survives [Sql.Parser] :
    (∀ sql : String, '\r' ∉ sql.toList → '\x00' ∉ sql.toList → ∀ rest : List Char,
      read? ((sqlLiteral sql).toList ++ rest) = some (sql.toList, rest) ∧
        ∀ d : Dialect, read? ((sqlLiteral (d.engineSql sql)).toList ++ rest) =
          some ((d.engineSql sql).toList, rest)) ∧
      (∀ (lead : String) (strict : Bool) (text : List Char) (r : Report),
        Headed.read lead strict text = .ok r → ∀ c ∈ r.statements, '\r' ∉ c.sql.toList) ∧
      ∀ (word lead : String) (strict : Bool) (known : List Table) (text : List Char) (r : Report),
        Marked.read (ReadError.readDialect word) lead strict known text = .ok r →
          ∀ c ∈ r.statements, '\r' ∉ c.sql.toList := by
  refine ⟨fun sql hreturn hnul rest => ⟨read?_sqlLiteral hreturn hnul rest, fun d => ?_⟩,
    fun _ _ _ _ h _ hc => Headed.return_not_mem_of_read h hc,
    fun _ _ _ _ _ _ h _ hc => Marked.return_not_mem_of_read h hc⟩
  have hreturn' : '\r' ∉ (d.engineSql sql).toList :=
    d.not_mem_engineSql hreturn (by decide) (by decide)
  have hnul' : '\x00' ∉ (d.engineSql sql).toList :=
    d.not_mem_engineSql hnul (by decide) (by decide)
  exact read?_sqlLiteral hreturn' hnul' rest

attribute [local instance] Sql.parser

/-- SQL that would end triple quotes, with a backslash and a quote at its end. -/
theorem Literal.sql_survives_quotes :
    let sql := "SELECT '\"\"\"', '\\' || ?\nAS \"%\""
    let rest := "\nimport os".toList
    '\r' ∉ sql.toList ∧ '\x00' ∉ sql.toList ∧
      sqlLiteral sql = "'SELECT \\'\"\"\"\\', \\'\\\\\\' || ?\\nAS \"%\"'" ∧
      read? ((sqlLiteral sql).toList ++ rest) = some (sql.toList, rest) ∧
      read? ((sqlLiteral (Dialect.remoteAsync.engineSql sql)).toList ++ rest) =
        some ("SELECT '\"\"\"', '\\' || %s\nAS \"%%\"".toList, rest) ∧
      (∃ r, Headed.read "-- @" true "-- @name a\r\n-- @count exec\r\nDELETE\rFROM t".toList = .ok r ∧
        (∀ c ∈ r.statements, '\r' ∉ c.sql.toList) ∧
        r.statements.map (·.sql) = ["DELETE\nFROM t"]) ∧
      ∃ r, Marked.read (ReadError.readDialect "local-sync") "-- @" true []
          "-- name: a :exec\nDELETE\r\nFROM t".toList = .ok r ∧
        (∀ c ∈ r.statements, '\r' ∉ c.sql.toList) ∧
        r.statements.map (·.sql) = ["DELETE\nFROM t"] := by
  intro sql rest
  have hreturn : '\r' ∉ sql.toList := by decide +kernel
  have hnul : '\x00' ∉ sql.toList := by decide +kernel
  have hliteral : sqlLiteral sql =
      "'SELECT \\'\"\"\"\\', \\'\\\\\\' || ?\\nAS \"%\"'" := by decide +kernel
  have hremote : (Dialect.remoteAsync.engineSql sql).toList =
      "SELECT '\"\"\"', '\\' || %s\nAS \"%%\"".toList := by decide +kernel
  obtain ⟨hsql, hheaded, hmarked⟩ := sql_survives
  obtain ⟨hself, hengine⟩ := hsql sql hreturn hnul rest
  have hread := hengine .remoteAsync
  rw [hremote] at hread
  obtain ⟨r, hr, hshown⟩ := exists_ok_of_map_toOption
    (f := fun r : Report => r.statements.map (·.sql)) (b := ["DELETE\nFROM t"])
    (x := Headed.read "-- @" true "-- @name a\r\n-- @count exec\r\nDELETE\rFROM t".toList)
    (by decide +kernel)
  obtain ⟨r', hr', hshown'⟩ := exists_ok_of_map_toOption
    (f := fun r : Report => r.statements.map (·.sql)) (b := ["DELETE\nFROM t"])
    (x := Marked.read (ReadError.readDialect "local-sync") "-- @" true []
      "-- name: a :exec\nDELETE\r\nFROM t".toList)
    (by decide +kernel)
  exact ⟨hreturn, hnul, hliteral, hself, hread, ⟨r, hr, hheaded _ _ _ _ hr, hshown⟩,
    r', hr', hmarked _ _ _ _ _ _ hr', hshown'⟩

end SqlContract
