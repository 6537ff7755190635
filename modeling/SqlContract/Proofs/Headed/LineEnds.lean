/-
Headed sources with line ends of two characters.

A carriage return before a line feed is part of the line end, so no line of a header holds one, and
none is left in the SQL of a statement, whose lines are put together with line feeds.  What stands on a
line is all that is read of a statement, and its own line is counted in line feeds.

Main results:

* `Text.lines_withoutReturns` — the lines of a text;
* `Header.split_withoutReturns` — the header of a statement and the SQL behind it;
* `Headed.readSegment_withoutReturns` — one statement is read as it is without carriage returns;
* `Headed.read_withoutReturns`, `Headed.read_crlf_eq` — **a text is read as it is with its line ends
  replaced**.
-/

import SqlContract.Proofs.Scanning.LineEnds
import SqlContract.Source.Headed

set_option autoImplicit false
set_option relaxedAutoImplicit false

namespace SqlContract

open Text Sql

/-! ### Lines -/

/-- **The lines of a text are those without its carriage returns**, if each of them belongs to a line
end. -/
theorem Text.lines_withoutReturns {s : List Char} (h : Paired s) :
    lines (withoutReturns s) = lines s := by
  induction s using break_induction with
  | nil => rfl
  | crlf cs ih =>
      have hfeed : isLineBreak '\n' = true := by decide
      rw [withoutReturns_return, withoutReturns_cons (by decide), lines_crlf,
        lines_cons fun hc => absurd hc (by decide), if_pos hfeed, ih h.tail.tail]
  | cons c cs hcs ih =>
      -- a carriage return here would have its line feed behind it
      have hc : c ≠ '\r' := by
        intro hc
        exact hcs hc (h.1 hc)
      rw [withoutReturns_cons hc, lines_cons fun he => absurd he hc, lines_cons hcs, ih h.tail]

/-- The header of a text and the SQL behind it are read off its lines. -/
theorem Header.split_withoutReturns (lead : String) {text : List Char} (h : Paired text) :
    split lead (withoutReturns text) = split lead text := by
  unfold split
  rw [lines_withoutReturns h]

/-! ### Statements -/

namespace Headed

variable {lead : String} {strict : Bool} {text : List Char}

/-- **One statement is read as it is without its carriage returns.** -/
theorem readSegment_withoutReturns {s : Segment} (h : Paired s.text) (r : Report) :
    readSegment lead strict r s.withoutReturns = readSegment lead strict r s := by
  have hstatement : statement? lead (some s.line) (withoutReturns s.text) =
      statement? lead (some s.line) s.text := by
    unfold statement?
    rw [Header.split_withoutReturns lead h]
  unfold readSegment Segment.withoutReturns
  dsimp only
  rw [hstatement]

/-- So are statements one after the other, -/
theorem foldlM_readSegment_withoutReturns {segs : List Segment} (h : ∀ s ∈ segs, Paired s.text)
    (r : Report) : (segs.map Segment.withoutReturns).foldlM (readSegment lead strict) r =
      segs.foldlM (readSegment lead strict) r := by
  induction segs generalizing r with
  | nil => rfl
  | cons s segs ih =>
      have hfirst : readSegment lead strict r s.withoutReturns = readSegment lead strict r s :=
        readSegment_withoutReturns (h s List.mem_cons_self) r
      rw [List.map_cons, List.foldlM_cons, List.foldlM_cons, hfirst]
      congr 1
      funext mid
      exact ih (fun t ht => h t (List.mem_cons_of_mem s ht)) mid

/-- and a text. -/
theorem read_withoutReturns (h : Paired text) :
    read lead strict (withoutReturns text) = read lead strict text := by
  unfold read
  rw [segments_withoutReturns h]
  exact foldlM_readSegment_withoutReturns (fun s hs => paired_of_mem_segments h hs) Report.empty

/-- **A text is read as it is with its line ends replaced**, whatever the lead of its header lines is,
strictly or not: the contracts, their SQL and lines, and the errors and the log are the same. -/
theorem read_crlf_eq (lead : String) (strict : Bool) (h : '\r' ∉ text) :
    read lead strict (crlf text) = read lead strict text := by
  have hread : read lead strict (withoutReturns (crlf text)) = read lead strict (crlf text) :=
    read_withoutReturns (paired_crlf h)
  rw [withoutReturns_crlf h] at hread
  exact hread.symm

/-- A literal and a comment that run over line ends, and an error behind them. -/
theorem read_crlf_eq_literal :
    let text := ("-- @name a\n-- @count one\nSELECT 'x\ny' /* ;\n */\n;\n\n" ++
      "-- @name b\n-- @count two\nSELECT 1").toList
    let a : Contract := ⟨"a", .one, [], [], "SELECT 'x\ny' /* ;\n */", some 1, none⟩
    let e : SourceError := ⟨.unknownCardinality "two", some "b", some 8⟩
    '\r' ∉ text ∧
      read Header.defaultLead false (crlf text) = .ok ⟨[a], [], [e], [.skipping e]⟩ ∧
      read Header.defaultLead true (crlf text) = .error e := by
  intro text a e
  have hreturn : '\r' ∉ text := by decide +kernel
  refine ⟨hreturn, ?_, ?_⟩
  · rw [read_crlf_eq Header.defaultLead false hreturn]
    decide +kernel
  · rw [read_crlf_eq Header.defaultLead true hreturn]
    decide +kernel

end Headed

end SqlContract
