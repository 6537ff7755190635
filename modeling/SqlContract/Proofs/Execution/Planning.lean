/-
Which statements are planned when they are prepared.

The remote engine explains some statements and no others, and a statement is told by what is taken for
its first word.  That is more than the first word where only block comments keep another word from it:
such a statement is not planned for its first word, and may be planned for the two words together.

Main definitions:

* `Statement.IsPlanned`, `Statement.IsTaken` — a statement is planned when it is prepared for the remote
  engine, or taken as it is.

Main results:

* `Statement.isPlanned_iff`, `Statement.isTaken_iff` — a statement is one or the other, by its text;
* `Statement.planned_by_firstWord` — **which statements are planned, by their first words**.
-/

import SqlContract.Proofs.Execution.Protocol
import SqlContract.Proofs.Scanning.FirstWord
import SqlContract.Validation.Record

set_option autoImplicit false
set_option relaxedAutoImplicit false

namespace SqlContract

open Sql Text Scripted

variable {w x rest : List Char}

/-- Whether a word, in whatever case, starts statements that the remote engine can plan. -/
def StartsPlannable (w : List Char) : Prop :=
  String.ofList (upper w) ∈ plannable

instance (w : List Char) : Decidable (StartsPlannable w) :=
  inferInstanceAs (Decidable (_ ∈ plannable))

/-- No word that starts such statements is the beginning of another one. -/
theorem not_startsPlannable_append (h : StartsPlannable w) (hx : x ≠ []) :
    ¬ StartsPlannable (w ++ x) := by
  have hapart : ∀ a ∈ plannable, ∀ b ∈ plannable, a.toList <+: b.toList → a.toList = b.toList := by
    decide
  intro hlonger
  have heq := hapart _ h _ hlonger (by simp [upper_append])
  rw [String.toList_ofList, String.toList_ofList, upper_append] at heq
  exact hx (upper_eq_nil_iff.1 (List.append_right_eq_self.1 heq.symm))

namespace Statement

section

variable [RecordLibrary] {s : Statement} {c : Scripted}

/-- Preparing a statement for the remote engine plans it, inside a transaction. -/
def IsPlanned (s : Statement) (c : Scripted) : Prop :=
  ∃ said r, c.Spoke said (Prepared.prepare engine .remoteAsync s c).1 ∧
    Prepared.PlannedInside ⟨.remoteAsync, s⟩ said r ∧
    (Prepared.prepare engine .remoteAsync s c).2 = r.map fun _ => ⟨.remoteAsync, s⟩

/-- Preparing a statement for the remote engine asks nothing, and takes the statement as it is. -/
def IsTaken (s : Statement) (c : Scripted) : Prop :=
  Prepared.prepare engine .remoteAsync s c = (c, .ok ⟨.remoteAsync, s⟩)

theorem isPlanned_of_mem (h : leadingKeyword s.sql.toList ∈ plannable) (c : Scripted) :
    s.IsPlanned c := by
  unfold IsPlanned Prepared.prepare Prepared.plan
  dsimp only
  rw [if_pos (List.contains_iff_mem.2 h)]
  obtain ⟨said, hspoke, hinside⟩ := Prepared.planned_planInside ⟨.remoteAsync, s⟩ c
  exact ⟨said, _, hspoke, hinside, rfl⟩

theorem isTaken_of_not_mem (h : leadingKeyword s.sql.toList ∉ plannable) (c : Scripted) :
    s.IsTaken c := by
  unfold IsTaken Prepared.prepare Prepared.plan
  dsimp only
  rw [if_neg fun hmem => h (List.contains_iff_mem.1 hmem)]
  rfl

/-- A statement that is taken as it is is not planned: planning asks something. -/
theorem IsTaken.not_isPlanned (h : s.IsTaken c) : ¬ s.IsPlanned c := by
  rintro ⟨said, r, hspoke, hinside, -⟩
  rw [h] at hspoke
  obtain rfl : said = [] := List.append_right_eq_self.1 hspoke.log_eq.symm
  cases hinside

theorem isPlanned_iff : s.IsPlanned c ↔ leadingKeyword s.sql.toList ∈ plannable := by
  refine ⟨fun h => by_contra fun hnot => ?_, fun h => isPlanned_of_mem h c⟩
  exact (isTaken_of_not_mem hnot c).not_isPlanned h

theorem isTaken_iff : s.IsTaken c ↔ leadingKeyword s.sql.toList ∉ plannable :=
  ⟨fun h hmem => h.not_isPlanned (isPlanned_of_mem hmem c), fun h => isTaken_of_not_mem h c⟩

theorem isPlanned_iff_startsPlannable (h : FirstWord s.sql.toList w rest) :
    s.IsPlanned c ↔ StartsPlannable (w ++ joined rest) := by
  rw [isPlanned_iff, leadingKeyword_of_firstWord h]
  rfl

/-- A statement that is planned has a first word. -/
theorem IsPlanned.exists_firstWord (h : s.IsPlanned c) :
    ∃ w rest, FirstWord s.sql.toList w rest := by
  refine Sql.exists_firstWord fun hnone => ?_
  have hmem := isPlanned_iff.1 h
  rw [hnone] at hmem
  exact absurd hmem (by decide)

/-- **Which statements are planned, by their first words.**  What is taken for the first word of a text
is the word with what is joined to it, and no more than the word if and only if no word goes on behind
block comments.  A statement that is prepared for the remote engine is planned if and only if it has a
first word for which it is, and is taken as it is otherwise; where no word goes on, that is the first
word, and where one does, no statement is planned for its first word alone. -/
theorem planned_by_firstWord (s : Statement) (c : Scripted) :
    (s.IsPlanned c ↔
      ∃ w rest, FirstWord s.sql.toList w rest ∧ StartsPlannable (w ++ joined rest)) ∧
    (s.IsTaken c ↔ ¬ s.IsPlanned c) ∧
    ∀ w rest, FirstWord s.sql.toList w rest →
      leadingKeyword s.sql.toList = String.ofList (upper (w ++ joined rest)) ∧
      (leadingKeyword s.sql.toList = String.ofList (upper w) ↔ ¬ GoesOn rest) ∧
      (¬ GoesOn rest → (s.IsPlanned c ↔ StartsPlannable w)) ∧
      (GoesOn rest → StartsPlannable w → s.IsTaken c) := by
  refine ⟨⟨fun h => ?_, ?_⟩, ?_, fun w rest h => ⟨leadingKeyword_of_firstWord h,
    leadingKeyword_eq_iff h, fun hgoes => ?_, fun hgoes hw => ?_⟩⟩
  · obtain ⟨w, rest, hfirst⟩ := h.exists_firstWord
    exact ⟨w, rest, hfirst, (isPlanned_iff_startsPlannable hfirst).1 h⟩
  · rintro ⟨w, rest, hfirst, hstarts⟩
    exact (isPlanned_iff_startsPlannable hfirst).2 hstarts
  · rw [isTaken_iff, isPlanned_iff]
  · rw [isPlanned_iff_startsPlannable h, (joined_eq_nil_iff h.ends).2 hgoes, List.append_nil]
  · rw [isTaken_iff, ← isPlanned_iff (c := c), isPlanned_iff_startsPlannable h]
    exact not_startsPlannable_append hw hgoes.joined_ne_nil

end

attribute [local instance] RecordType.library

/-- A word in lower case behind a comment, with a comment and a blank behind it. -/
theorem planned_by_firstWord_comments :
    FirstWord "-- all\nselect/* x */ 1".toList "select".toList "/* x */ 1".toList ∧
    ¬ GoesOn "/* x */ 1".toList ∧
    (⟨"-- all\nselect/* x */ 1", [], (⟨"StatementInput", [], true⟩ : RecordType), .get, none, none⟩ :
      Statement).IsPlanned (.fresh .remoteAsync) := by
  have hfirst : FirstWord "-- all\nselect/* x */ 1".toList "select".toList "/* x */ 1".toList :=
    { exists_opening := ⟨_, @IsOpening.lineComment " all".toList [] (by decide) .nil, rfl⟩
      ne_nil := by decide
      word := List.all_eq_true.1 rfl
      ends := by
        rintro c ⟨⟩
        decide }
  have hnot : ¬ GoesOn "/* x */ 1".toList := (joined_eq_nil_iff hfirst.ends).1 (by decide +kernel)
  have hplanned := ((planned_by_firstWord
    ⟨"-- all\nselect/* x */ 1", [], (⟨"StatementInput", [], true⟩ : RecordType), .get, none, none⟩
    (.fresh .remoteAsync)).2.2 _ _ hfirst).2.2.1 hnot
  exact ⟨hfirst, hnot, hplanned.2 (by decide)⟩

/-- Two words that only a block comment keeps apart are taken for one.  So a statement is taken as it is
whose first word can start one that is planned, and a statement is planned whose first word cannot. -/
theorem not_planned_by_firstWord_touching :
    FirstWord "SELECT/**/1".toList "SELECT".toList "/**/1".toList ∧
    leadingKeyword "SELECT/**/1".toList = "SELECT1" ∧
    (⟨"SELECT/**/1", [], (⟨"StatementInput", [], true⟩ : RecordType), .get, none, none⟩ :
      Statement).IsTaken (.fresh .remoteAsync) ∧
    FirstWord "WI/**/TH 1".toList "WI".toList "/**/TH 1".toList ∧
    (⟨"WI/**/TH 1", [], (⟨"StatementInput", [], true⟩ : RecordType), .get, none, none⟩ :
      Statement).IsPlanned (.fresh .remoteAsync) := by
  have hfirst : ∀ w rest : List Char, w ≠ [] → w.all isWord = true →
      FirstWord (w ++ ("/**/".toList ++ rest)) w ("/**/".toList ++ rest) := by
    intro w rest hne hword
    refine ⟨⟨[], .nil, rfl⟩, hne, List.all_eq_true.1 hword, ?_⟩
    rintro c ⟨⟩
    decide
  refine ⟨hfirst "SELECT".toList ['1'] (by decide) rfl, by decide +kernel,
    isTaken_of_not_mem (by decide +kernel) _, hfirst "WI".toList "TH 1".toList (by decide) rfl,
    isPlanned_of_mem (by decide +kernel) _⟩

end Statement

end SqlContract
