/-
What the SQL of a contract keeps of its statement.

A text is cut into statements by its pieces, in which only a line feed ends a line comment, and a
statement is cut into lines at every line break.  The SQL of a contract is put together from such
lines.  It keeps what the statement says as long as the two notions of a line agree: a break of
another kind inside a literal is replaced, and what stands behind one in a line comment is not part
of the comment any more.

Main definitions:

* `KeepsCode` — SQL that says what a text says.

Main results:

* `Headed.substance_of_gives` — what the SQL of a contract says, whatever breaks there are;
* `Headed.keepsCode_iff` — **when the SQL of a contract keeps what its statement says**;
* `Headed.not_keepsCode_separator` — a literal that is not kept.
-/

import SqlContract.Proofs.Headed.Statement

set_option autoImplicit false
set_option relaxedAutoImplicit false

namespace SqlContract

open Text Sql

/-- `sql` says what `text` says: it has the same tokens, none of them a semicolon, and nothing is
code that is a comment in `text`. -/
structure KeepsCode (text sql : List Char) : Prop where
  tokens_eq : tokens sql = tokens text
  semicolon_notMem : .semicolon ∉ scan sql
  substance_eq : substance sql = substance text

namespace Headed

variable {lead : String} {text : List Char} {strict : Bool} {r : Report} {s : Segment}
  {c : Contract}

/-- **What the SQL of a contract says** is what its statement says with a line feed for each line
break. -/
theorem substance_of_gives (h : Gives Header.defaultLead s c) :
    substance c.sql.toList = substance (relined s.text) := by
  obtain ⟨name, rest, -, -, hbody⟩ := statement?_eq_some_iff.1 h
  obtain ⟨word, declared, card, fields, -, -, -, hne, -, -, rfl⟩ := body_eq_ok_iff.1 hbody
  rw [String.toList_ofList]
  exact Header.substance_split hne

/-- SQL with the substance of a statement keeps what the statement says. -/
theorem keepsCode_of_substance_eq {sql : List Char} (hs : s ∈ segments text)
    (h : substance sql = substance s.text) : KeepsCode s.text sql := by
  have htokens := tokens_congr h
  refine ⟨htokens, fun hm => ?_, h⟩
  have hm' : .semicolon ∈ tokens s.text := htokens ▸ List.mem_filter.2 ⟨hm, rfl⟩
  exact (scan_segment hs).2 (List.mem_filter.1 hm').1

/-- **When the SQL of a contract keeps what its statement says.**  Every contract that is read
belongs to a statement.  Its SQL has the tokens of the statement, and keeps all that the statement
says, exactly if that does not change with a line feed for each line break.  Where no line comment
says anything behind a line break, this is the case exactly if line feeds are the only line breaks
in literals and quoted identifiers. -/
theorem keepsCode_iff (h : read Header.defaultLead strict text = .ok r) (hc : c ∈ r.statements) :
    (∃ s ∈ segments text, Gives Header.defaultLead s c) ∧
      ∀ s ∈ segments text, Gives Header.defaultLead s c →
        (tokens c.sql.toList = tokens s.text ↔ tokens (relined s.text) = tokens s.text) ∧
        (KeepsCode s.text c.sql.toList ↔ substance (relined s.text) = substance s.text) ∧
        (BreaksEndComments s.text →
          (KeepsCode s.text c.sql.toList ↔ BreaksInQuotes s.text)) := by
  refine ⟨exists_segment_of_mem_read h hc, fun s hs hgives => ?_⟩
  -- both texts are compared with the statement whose breaks are all line feeds
  have hsql := substance_of_gives hgives
  have hkeeps : KeepsCode s.text c.sql.toList ↔ substance (relined s.text) = substance s.text := by
    constructor
    · intro hk
      rw [← hsql]
      exact hk.substance_eq
    · intro he
      exact keepsCode_of_substance_eq hs (hsql.trans he)
  refine ⟨by rw [tokens_congr hsql], hkeeps, fun hbreaks => ?_⟩
  rw [hkeeps]
  exact substance_relined_eq_iff hbreaks

/-- A literal with a semicolon and a line feed in it, and a comment with a semicolon, are kept. -/
theorem keepsCode_lineFeed :
    let text := "-- @name a\n-- @count exec\nSET x = 'a;\nb' -- ; no code\n;".toList
    let c : Contract := ⟨"a", .exec, [], [], "SET x = 'a;\nb' -- ; no code", some 1, none⟩
    let s : Segment := ⟨text.dropLast, 1, true⟩
    read Header.defaultLead true text = .ok ⟨[c], [], [], []⟩ ∧ s ∈ segments text ∧
      KeepsCode s.text c.sql.toList := by
  intro text c s
  have hread : read Header.defaultLead true text = .ok ⟨[c], [], [], []⟩ := by decide +kernel
  have hs : s ∈ segments text := by decide +kernel
  have hgives : Gives Header.defaultLead s c := by
    show statement? _ _ _ = _
    decide +kernel
  have hsame : substance (relined s.text) = substance s.text := by decide +kernel
  obtain ⟨-, hkeeps, -⟩ := (keepsCode_iff hread List.mem_cons_self).2 s hs hgives
  exact ⟨hread, hs, hkeeps.2 hsame⟩

/-- A line separator in a literal is not kept. -/
theorem not_keepsCode_separator :
    ∃ r c s, read Header.defaultLead true
        "-- @name a\n-- @count one\nSELECT 'x\u2028y'".toList = .ok r ∧
      c ∈ r.statements ∧ s ∈ segments "-- @name a\n-- @count one\nSELECT 'x\u2028y'".toList ∧
      Gives Header.defaultLead s c ∧ tokens c.sql.toList ≠ tokens s.text := by
  refine ⟨⟨[⟨"a", .one, [], [], "SELECT 'x\ny'", some 1, none⟩], [], [], []⟩,
    ⟨"a", .one, [], [], "SELECT 'x\ny'", some 1, none⟩,
    ⟨"-- @name a\n-- @count one\nSELECT 'x\u2028y'".toList, 1, false⟩, ?_, ?_, ?_, ?_, ?_⟩
  · decide +kernel
  · decide +kernel
  · decide +kernel
  · show statement? _ _ _ = _
    decide +kernel
  · decide +kernel

end Headed

end SqlContract
