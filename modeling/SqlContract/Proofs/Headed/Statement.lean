/-
Statements with headers, read one after the other.

Main definitions:

* `Headed.Gives` — a statement of a text gives a contract.

Main results:

* `Headed.statement?_eq_some_iff` — **when a statement gives a contract, and which**;
* `Headed.exists_segment_of_mem_read` — **every contract that is read belongs to a statement of the
  text**;
* `Headed.foldlM_readSegment` — **statements with distinct names are all read**.
-/

import SqlContract.Source.Headed
import SqlContract.Proofs.Headed.Header
import SqlContract.Proofs.Scanning.Statements

set_option autoImplicit false
set_option relaxedAutoImplicit false

namespace SqlContract

open Text Sql

/-! ### Results in sequence -/

theorem bind_eq_ok_iff {ε α β : Type} {x : Except ε α} {f : α → Except ε β} {b : β} :
    x >>= f = .ok b ↔ ∃ a, x = .ok a ∧ f a = .ok b := by
  cases x with
  | error e => simp [bind, Except.bind]
  | ok a => simp [bind, Except.bind]

/-! ### One statement -/

theorem checkPlaceholders_eq_ok_iff {sql : List Char} {params : List Parameter} :
    checkPlaceholders sql params = .ok () ↔ placeholderCount sql = params.length := by
  unfold checkPlaceholders
  simp

theorem readCardinality_eq_ok_iff {word : String} {c : Cardinality} :
    readCardinality word = .ok c ↔ Cardinality.ofWord? word = some c := by
  unfold readCardinality
  cases Cardinality.ofWord? word with
  | none => simp
  | some d => simp

namespace Headed

variable {lead name : String} {line : Option Int} {text sql : List Char}
  {rest : List (List String)} {c : Contract}

/-- Which contract stands before the placeholders are counted. -/
theorem draft_eq_ok_iff : draft name line rest sql = .ok c ↔
    ∃ word declared card fields, rest = ["count", word] :: declared ∧
      Cardinality.ofWord? word = some card ∧ Fields.ofLines declared = .ok fields ∧ sql ≠ [] ∧
      ¬ (card = .exec ∧ fields.returns ≠ []) ∧
      c = ⟨name, card, fields.params, fields.returns, String.ofList sql, line, none⟩ := by
  constructor
  · intro h
    unfold draft at h
    -- the first match is expanded into both of its branches before the rest of the block
    dsimp only at h
    split at h
    · simp only [bind_eq_ok_iff] at h
      obtain ⟨word, hword, card, hcard, fields, hfields, h⟩ := h
      obtain rfl := Except.ok.inj hword
      split_ifs at h with hempty hexec
      rw [List.isEmpty_iff] at hempty
      exact ⟨_, _, card, fields, rfl, readCardinality_eq_ok_iff.1 hcard, hfields, hempty, hexec,
        (Except.ok.inj h).symm⟩
    · obtain ⟨word, hword, -⟩ := bind_eq_ok_iff.1 h
      simp at hword
  · rintro ⟨word, declared, card, fields, rfl, hcard, hfields, hempty, hexec, rfl⟩
    rw [ne_eq, ← List.isEmpty_iff] at hempty
    simp only [draft, bind_eq_ok_iff]
    refine ⟨word, rfl, card, readCardinality_eq_ok_iff.2 hcard, fields, hfields, ?_⟩
    rw [if_neg hempty, if_neg hexec]
    rfl

/-- Which contract the rest of a header and the SQL behind it give. -/
theorem body_eq_ok_iff : body name line rest sql = .ok c ↔
    ∃ word declared card fields, rest = ["count", word] :: declared ∧
      Cardinality.ofWord? word = some card ∧ Fields.ofLines declared = .ok fields ∧ sql ≠ [] ∧
      ¬ (card = .exec ∧ fields.returns ≠ []) ∧ placeholderCount sql = fields.params.length ∧
      c = ⟨name, card, fields.params, fields.returns, String.ofList sql, line, none⟩ := by
  unfold body
  rw [bind_eq_ok_iff]
  constructor
  · rintro ⟨c', hdraft, h⟩
    obtain ⟨word, declared, card, fields, rfl, hcard, hfields, hempty, hexec, rfl⟩ :=
      draft_eq_ok_iff.1 hdraft
    obtain ⟨_, hcheck, h⟩ := bind_eq_ok_iff.1 h
    exact ⟨_, _, card, fields, rfl, hcard, hfields, hempty, hexec,
      checkPlaceholders_eq_ok_iff.1 hcheck, (Except.ok.inj h).symm⟩
  · rintro ⟨word, declared, card, fields, rfl, hcard, hfields, hempty, hexec, hcount, rfl⟩
    refine ⟨_, draft_eq_ok_iff.2 ⟨_, _, card, fields, rfl, hcard, hfields, hempty, hexec, rfl⟩, ?_⟩
    rw [checkPlaceholders_eq_ok_iff.2 hcount]
    rfl

/-- **When a statement gives a contract, and which.** -/
theorem statement?_eq_some_iff : statement? lead line text = .ok (some c) ↔
    ∃ name rest, (Header.split lead text).1 = ["name", name] :: rest ∧ isIdentifier name = true ∧
      body name line rest (Header.split lead text).2 = .ok c := by
  generalize hsplit : Header.split lead text = parts
  obtain ⟨header, sql⟩ := parts
  constructor
  · intro h
    rw [statement?, hsplit] at h
    split at h
    · simp at h
    · rename_i name rest' sql' he
      obtain ⟨rfl, rfl⟩ := Prod.mk.inj he
      split_ifs at h with hname
      split at h
      · rename_i c' hbody
        obtain rfl : c' = c := Option.some.inj (Except.ok.inj h)
        exact ⟨name, rest', rfl, hname, hbody⟩
      · simp at h
    · simp at h
  · rintro ⟨name, rest, rfl, hname, hbody⟩
    simp only [statement?, hsplit, hname, hbody, if_true]

/-! ### One statement after the other -/

/-- A statement of a text gives a contract. -/
def Gives (lead : String) (s : Segment) (c : Contract) : Prop :=
  statement? lead (some s.line) s.text = .ok (some c)

variable {strict : Bool} {r r' : Report} {s : Segment}

theorem statements_of_record {e : SourceError} (h : r.record strict e = .ok r') :
    r'.statements = r.statements := by
  unfold Report.record at h
  split_ifs at h
  rw [← Except.ok.inj h]

/-- A contract is added behind the others, or left out. -/
theorem statements_of_add {d : Contract} (h : r.add strict d = .ok r') :
    r'.statements = r.statements ∨ r'.statements = r.statements ++ [d] := by
  unfold Report.add at h
  split_ifs at h
  · exact .inl (statements_of_record h)
  · exact .inr (by rw [← Except.ok.inj h])

/-- What reading one statement does to the contracts that are read. -/
theorem statements_of_readSegment (h : readSegment lead strict r s = .ok r') :
    r'.statements = r.statements ∨
      ∃ c, Gives lead s c ∧ r'.statements = r.statements ++ [c] := by
  unfold readSegment at h
  split at h
  · exact .inl (statements_of_record h)
  · exact .inl (by rw [Except.ok.inj h])
  · rename_i c hc
    exact (statements_of_add h).imp_right fun hadded => ⟨c, hc, hadded⟩

/-- A contract that is read behind some others belongs to a statement that is read. -/
theorem exists_gives_of_mem_foldlM {segs : List Segment}
    (h : segs.foldlM (readSegment lead strict) r = .ok r') (hc : c ∈ r'.statements) :
    c ∈ r.statements ∨ ∃ s ∈ segs, Gives lead s c := by
  induction segs generalizing r with
  | nil =>
      rw [List.foldlM_nil] at h
      rw [Except.ok.inj h]
      exact .inl hc
  | cons s segs ih =>
      rw [List.foldlM_cons] at h
      obtain ⟨mid, hmid, h⟩ := bind_eq_ok_iff.1 h
      rcases ih h with hc | ⟨t, ht, hg⟩
      · rcases statements_of_readSegment hmid with he | ⟨d, hd, he⟩
        · exact .inl (he ▸ hc)
        · rw [he] at hc
          rcases List.mem_append.1 hc with hc | hc
          · exact .inl hc
          · obtain rfl := List.mem_singleton.1 hc
            exact .inr ⟨s, List.mem_cons_self, hd⟩
      · exact .inr ⟨t, List.mem_cons_of_mem s ht, hg⟩

/-- **Every contract that is read belongs to a statement of the text.** -/
theorem exists_segment_of_mem_read (h : read lead strict text = .ok r) (hc : c ∈ r.statements) :
    ∃ s ∈ segments text, Gives lead s c := by
  rcases exists_gives_of_mem_foldlM h hc with hc | hs
  · exact absurd hc List.not_mem_nil
  · exact hs

/-- A statement with a name that is not taken is read. -/
theorem readSegment_of_gives (h : Gives lead s c) (hn : c.name ∉ r.statements.map (·.name)) :
    readSegment lead strict r s = .ok { r with statements := r.statements ++ [c] } := by
  have hany : (r.statements.any fun d => d.name == c.name) = false := by
    rw [List.any_eq_false]
    intro d hd he
    exact hn (List.mem_map.2 ⟨d, hd, by simpa using he⟩)
  unfold readSegment
  rw [show statement? lead (some s.line) s.text = .ok (some c) from h]
  simp [Report.add, hany]

/-- **Statements with distinct names are all read.** -/
theorem foldlM_readSegment {segs : List Segment} {cs : List Contract}
    (h : List.Forall₂ (Gives lead) segs cs) (hn : ((r.statements ++ cs).map (·.name)).Nodup) :
    segs.foldlM (readSegment lead strict) r =
      .ok { r with statements := r.statements ++ cs } := by
  -- over the report, whose contracts are the ones read before
  induction h generalizing r with
  | nil => rw [List.foldlM_nil, List.append_nil]; rfl
  | @cons s c segs cs hc _ ih =>
      have hfree : c.name ∉ r.statements.map (·.name) := by
        rw [List.map_append, List.nodup_append] at hn
        intro hm
        exact hn.2.2 _ hm _ List.mem_cons_self rfl
      rw [List.foldlM_cons, readSegment_of_gives hc hfree]
      refine (ih ?_).trans ?_
      · rwa [List.append_assoc]
      · rw [List.append_assoc]
        rfl

end Headed

end SqlContract
