/-
What becomes of the statements of a source.

Reading that is not strict goes on behind every error.  A statement then has one of five fates, and
which one depends on nothing but the statement and the names met before it: the names of the contracts
read so far, and the names that the generated module binds so far.

Main definitions:

* `Fate` — what becomes of a statement;
* `Progress` — the names met before a statement;
* `fates` — what becomes of each statement of a source;
* `Progress.Settled` — a contract with a name met before could bind no names.

Main results:

* `Namespace.clash?_claim`, `Namespace.clash?_claim_self` — a name that is bound stays bound;
* `foldlM_takeIn`, `foldlM_claimContract` — **the fates say what is read and what is kept**;
* `Progress.contract?_fate` — **a name met before changes nothing in what is kept**.
-/

import SqlContract.Generation
import SqlContract.Proofs.Headed.Statement

set_option autoImplicit false
set_option relaxedAutoImplicit false

namespace SqlContract

open Text

/-! ### Names that are bound -/

namespace Namespace

theorem map_fst_claim (ns : Namespace) (names : List String) (owner : Owner) :
    (ns.claim names owner).map (·.1) = names.reverse ++ ns.map (·.1) := by
  induction names generalizing ns with
  | nil => rfl
  | cons n names ih => exact (ih _).trans (by simp)

/-- Which names can be bound. -/
theorem clash?_eq_none_iff {ns : Namespace} {names : List String} :
    ns.clash? names = none ↔ ∀ n ∈ names, isKeyword n = false ∧ n ∉ ns.map (·.1) := by
  unfold clash?
  rw [List.findSome?_eq_none_iff]
  refine forall₂_congr fun n _ => ?_
  have hfree : ns.lookup n = none ↔ n ∉ ns.map (·.1) := by
    rw [List.lookup_eq_none_iff]
    constructor
    · intro h hn
      obtain ⟨e, he, rfl⟩ := List.mem_map.1 hn
      simpa using h e he
    · intro h e he
      exact bne_iff_ne.2 fun hn => h (List.mem_map.2 ⟨e, he, hn.symm⟩)
  unfold clashOf?
  cases isKeyword n with
  | true => simp
  | false => simpa using hfree

/-- A name that cannot be bound stays so. -/
theorem clash?_claim {ns : Namespace} {names : List String} (h : ns.clash? names ≠ none)
    (others : List String) (owner : Owner) : (ns.claim others owner).clash? names ≠ none := by
  intro hnone
  refine h (clash?_eq_none_iff.2 fun n hn => ?_)
  obtain ⟨hk, hfree⟩ := clash?_eq_none_iff.1 hnone n hn
  rw [map_fst_claim, List.mem_append, not_or] at hfree
  exact ⟨hk, hfree.2⟩

/-- A name that is bound cannot be bound again. -/
theorem clash?_claim_self (ns : Namespace) {names : List String} (hne : names ≠ []) (owner : Owner) :
    (ns.claim names owner).clash? names ≠ none := by
  intro hnone
  obtain ⟨n, hn⟩ := List.exists_mem_of_ne_nil names hne
  refine (clash?_eq_none_iff.1 hnone n hn).2 ?_
  rw [map_fst_claim]
  exact List.mem_append_left _ (List.mem_reverse.2 hn)

end Namespace

/-! ### Reports that grow -/

namespace Report

/-- A report with more contracts and more errors. -/
def extend (r : Report) (cs : List Contract) (es : List SourceError) : Report :=
  { r with
    statements := r.statements ++ cs
    errors := r.errors ++ es
    log := r.log ++ es.map .skipping }

@[simp] theorem extend_nil (r : Report) : r.extend [] [] = r := by
  simp [extend]

theorem extend_extend (r : Report) (cs cs' : List Contract) (es es' : List SourceError) :
    (r.extend cs es).extend cs' es' = r.extend (cs ++ cs') (es ++ es') := by
  simp [extend]

theorem record_false (r : Report) (e : SourceError) : r.record false e = .ok (r.extend [] [e]) := by
  simp [record, extend]

/-- A report with what one statement gives, read without being strict. -/
def takeIn (r : Report) : Except SourceError (Option Contract) → Report
  | .error e => r.extend [] [e]
  | .ok none => r
  | .ok (some c) =>
      if c.name ∈ r.statements.map (·.name) then r.extend [] [repeatedStatement c]
      else r.extend [c] []

theorem add_false (r : Report) (c : Contract) :
    r.add false c = .ok (r.takeIn (.ok (some c))) := by
  have hany : (r.statements.any fun d => d.name == c.name) = true ↔
      c.name ∈ r.statements.map (·.name) := by
    simp
  unfold add takeIn
  simp only [hany]
  split_ifs
  · exact record_false r _
  · simp [extend]

end Report

/-! ### Fates -/

/-- What becomes of a statement of a source. -/
inductive Fate
  /-- It declares no contract. -/
  | plain
  | unreadable (e : SourceError)
  /-- Its contract has the name of one that was read before. -/
  | repeated (c : Contract)
  /-- A name generated for its contract cannot be bound. -/
  | refused (c : Contract) (clash : Clash)
  | kept (c : Contract)
  deriving DecidableEq, Repr

namespace Fate

/-- The contract that a statement contributes to the generated module. -/
def contract? : Fate → Option Contract
  | kept c => some c
  | _ => none

/-- The contract that is read from a statement under a new name. -/
def named? : Fate → Option Contract
  | kept c | refused c _ => some c
  | _ => none

/-- The error that is met when a statement is read. -/
def readError? : Fate → Option SourceError
  | unreadable e => some e
  | repeated c => some (Report.repeatedStatement c)
  | _ => none

/-- The error that is met when the names of a statement are bound. -/
def claimError? : Fate → Option SourceError
  | refused c clash => some ⟨.statementClash c.name clash, some c.name, c.line⟩
  | _ => none

end Fate

/-- The names met before a statement. -/
structure Progress where
  /-- The names of the contracts that were read. -/
  names : List String
  /-- The names that the module binds. -/
  bound : Namespace

namespace Progress

/-- Nothing is read yet, and the names of `ns` are bound. -/
def start (ns : Namespace) : Progress :=
  ⟨[], ns⟩

/-- The fate of a statement that gives `given`. -/
def fate (p : Progress) (given : Except SourceError (Option Contract)) : Fate :=
  match given with
  | .error e => .unreadable e
  | .ok none => .plain
  | .ok (some c) =>
      if c.name ∈ p.names then .repeated c
      else
        match p.bound.clash? c.names.toList with
        | none => .kept c
        | some clash => .refused c clash

/-- The names met up to and with a statement of the given fate. -/
def after (p : Progress) : Fate → Progress
  | .kept c => ⟨p.names ++ [c.name], p.bound.claim c.names.toList (.statement c.name)⟩
  | .refused c _ => { p with names := p.names ++ [c.name] }
  | .plain | .unreadable _ | .repeated _ => p

/-- The rules by which a statement meets its fate. -/
inductive Meets (p : Progress) : Except SourceError (Option Contract) → Fate → Prop
  | plain : Meets p (.ok none) .plain
  | unreadable (e : SourceError) : Meets p (.error e) (.unreadable e)
  | repeated {c : Contract} : c.name ∈ p.names → Meets p (.ok (some c)) (.repeated c)
  | refused {c : Contract} {clash : Clash} : c.name ∉ p.names →
      p.bound.clash? c.names.toList = some clash → Meets p (.ok (some c)) (.refused c clash)
  | kept {c : Contract} : c.name ∉ p.names → p.bound.clash? c.names.toList = none →
      Meets p (.ok (some c)) (.kept c)

theorem meets_fate (p : Progress) (given : Except SourceError (Option Contract)) :
    p.Meets given (p.fate given) := by
  unfold fate
  split
  · exact .unreadable _
  · exact .plain
  · split_ifs with hmem
    · exact .repeated hmem
    · split
      · rename_i hclash
        exact .kept hmem hclash
      · rename_i hclash
        exact .refused hmem hclash

end Progress

section

variable {α : Type} (read : α → Except SourceError (Option Contract))

/-- What becomes of each statement of a source, where `p` is met before the first. -/
def fates (p : Progress) : List α → List Fate
  | [] => []
  | x :: xs => p.fate (read x) :: fates (p.after (p.fate (read x))) xs

/-- What is met up to the end of a source. -/
def Progress.run (p : Progress) (xs : List α) : Progress :=
  xs.foldl (fun p x => p.after (p.fate (read x))) p

theorem length_fates (p : Progress) (xs : List α) : (fates read p xs).length = xs.length := by
  induction xs generalizing p with
  | nil => rfl
  | cons x xs ih => exact congrArg (· + 1) (ih _)

theorem fates_append (p : Progress) (xs ys : List α) :
    fates read p (xs ++ ys) = fates read p xs ++ fates read (p.run read xs) ys := by
  induction xs generalizing p with
  | nil => rfl
  | cons x xs ih => exact congrArg (p.fate (read x) :: ·) (ih _)

variable {read}

/-- Every statement meets its fate. -/
theorem exists_fate_mem (read : α → Except SourceError (Option Contract)) {xs : List α} {x : α}
    (h : x ∈ xs) (p : Progress) :
    ∃ q : Progress, q.fate (read x) ∈ fates read p xs := by
  induction xs generalizing p with
  | nil => simp at h
  | cons y ys ih =>
      rcases List.mem_cons.1 h with rfl | h
      · exact ⟨p, List.mem_cons_self⟩
      · obtain ⟨q, hq⟩ := ih h (p.after (p.fate (read y)))
        exact ⟨q, List.mem_cons_of_mem _ hq⟩

/-- Every fate is that of a statement. -/
theorem exists_of_mem_fates {xs : List α} {f : Fate} {p : Progress} (h : f ∈ fates read p xs) :
    ∃ x ∈ xs, ∃ q : Progress, q.Meets (read x) f := by
  induction xs generalizing p with
  | nil => simp [fates] at h
  | cons y ys ih =>
      rcases List.mem_cons.1 h with rfl | h
      · exact ⟨y, List.mem_cons_self, p, p.meets_fate (read y)⟩
      · obtain ⟨x, hx, hmeets⟩ := ih h
        exact ⟨x, List.mem_cons_of_mem y hx, hmeets⟩

/-! ### What is read and what is kept -/

/-- What reading one statement does to a report, in terms of its fate. -/
theorem takeIn_eq_extend {p : Progress} {r : Report} (hp : p.names = r.statements.map (·.name))
    (given : Except SourceError (Option Contract)) :
    r.takeIn given = r.extend (p.fate given).named?.toList (p.fate given).readError?.toList := by
  have h := p.meets_fate given
  generalize p.fate given = f at h
  cases h with
  | plain => exact r.extend_nil.symm
  | unreadable e => rfl
  | repeated hmem =>
      rw [hp] at hmem
      exact if_pos hmem
  | refused hmem | kept hmem =>
      rw [hp] at hmem
      exact if_neg hmem

/-- The names of the contracts in a report are the names met. -/
theorem names_after {p : Progress} {cs : List Contract} (hp : p.names = cs.map (·.name)) (f : Fate) :
    (p.after f).names = (cs ++ f.named?.toList).map (·.name) := by
  cases f with
  | plain | unreadable | repeated => simpa [Progress.after, Fate.named?] using hp
  | refused | kept => simp [Progress.after, Fate.named?, hp]

/-- **What is read of a source**, by the fates of its statements. -/
theorem foldlM_takeIn {ε : Type} (tables : Tables) {step : Report → α → Except ε Report}
    (hstep : ∀ r x, r.tables = tables → step r x = .ok (r.takeIn (read x))) {xs : List α}
    {p : Progress} {r : Report} (ht : r.tables = tables)
    (hp : p.names = r.statements.map (·.name)) :
    xs.foldlM step r = .ok (r.extend ((fates read p xs).filterMap Fate.named?)
      ((fates read p xs).filterMap Fate.readError?)) := by
  -- over the report, which grows with the names met
  induction xs generalizing p r with
  | nil => exact congrArg Except.ok r.extend_nil.symm
  | cons x xs ih =>
      have htake := takeIn_eq_extend hp (read x)
      have hrest := ih (p := p.after (p.fate (read x))) (r := r.takeIn (read x))
        (by rw [htake]; exact ht) (by rw [htake]; exact names_after hp _)
      rw [List.foldlM_cons, hstep r x ht]
      refine hrest.trans (congrArg Except.ok ?_)
      rw [htake, Report.extend_extend, fates, List.filterMap_cons, List.filterMap_cons]
      cases (p.fate (read x)).named? <;> cases (p.fate (read x)).readError? <;> rfl

/-- What binding the names of one statement does, in terms of its fate. -/
theorem claimContract_fate (p : Progress) (r : Report)
    (given : Except SourceError (Option Contract)) :
    (p.fate given).named?.toList.foldlM (Report.claimContract false) (p.bound, r) =
      .ok ((p.after (p.fate given)).bound,
        r.extend (p.fate given).contract?.toList (p.fate given).claimError?.toList) := by
  have h := p.meets_fate given
  generalize p.fate given = f at h
  cases h with
  | plain | unreadable | repeated =>
      exact congrArg (fun r => Except.ok (p.bound, r)) r.extend_nil.symm
  | @refused c clash _ hclash =>
      have hstep : Report.claimContract false (p.bound, r) c =
          .ok (p.bound, r.extend [] [⟨.statementClash c.name clash, some c.name, c.line⟩]) := by
        simp only [Report.claimContract, Namespace.claimContract, hclash, Report.record_false]
        rfl
      show Report.claimContract false (p.bound, r) c >>= pure = _
      rw [hstep]
      rfl
  | @kept c _ hclash =>
      have hstep : Report.claimContract false (p.bound, r) c =
          .ok (p.bound.claim c.names.toList (.statement c.name), r.extend [c] []) := by
        simp [Report.claimContract, Namespace.claimContract, hclash, Report.extend]
      show Report.claimContract false (p.bound, r) c >>= pure = _
      rw [hstep]
      rfl

/-- **What is kept of a source**, by the fates of its statements. -/
theorem foldlM_claimContract (read : α → Except SourceError (Option Contract)) (p : Progress)
    (r : Report) (xs : List α) :
    ((fates read p xs).filterMap Fate.named?).foldlM (Report.claimContract false) (p.bound, r) =
      .ok ((p.run read xs).bound, r.extend ((fates read p xs).filterMap Fate.contract?)
        ((fates read p xs).filterMap Fate.claimError?)) := by
  induction xs generalizing p r with
  | nil => exact congrArg (fun r => Except.ok (p.bound, r)) r.extend_nil.symm
  | cons x xs ih =>
      have hsplit : (fates read p (x :: xs)).filterMap Fate.named? =
          (p.fate (read x)).named?.toList ++
            (fates read (p.after (p.fate (read x))) xs).filterMap Fate.named? := by
        rw [fates, List.filterMap_cons]
        cases (p.fate (read x)).named? <;> rfl
      rw [hsplit, List.foldlM_append, claimContract_fate]
      refine (ih _ _).trans (congrArg Except.ok (congrArg (Prod.mk _) ?_))
      rw [Report.extend_extend, fates, List.filterMap_cons, List.filterMap_cons]
      cases (p.fate (read x)).contract? <;> cases (p.fate (read x)).claimError? <;> rfl

end

/-! ### Names met before -/

/-- The contract that is given, if any. -/
def contractOf? : Except SourceError (Option Contract) → Option Contract
  | .ok c? => c?
  | .error _ => none

namespace Progress

/-- A contract with a name met before could bind no names. -/
def Settled (p : Progress) : Prop :=
  ∀ n ∈ p.names, p.bound.clash? (Names.ofName n).toList ≠ none

theorem settled_start (ns : Namespace) : (start ns).Settled := by
  intro n hn
  simp [start] at hn

theorem Settled.after {p : Progress} (h : p.Settled)
    (given : Except SourceError (Option Contract)) : (p.after (p.fate given)).Settled := by
  have hmeets := p.meets_fate given
  generalize p.fate given = f at hmeets
  cases hmeets with
  | plain | unreadable | repeated => exact h
  | @refused c clash _ hclash =>
      intro n hn
      rcases List.mem_append.1 hn with hn | hn
      · exact h n hn
      · obtain rfl := List.mem_singleton.1 hn
        have hsome : p.bound.clash? (Names.ofName c.name).toList = some clash := hclash
        simp [Progress.after, hsome]
  | @kept c =>
      intro n hn
      rcases List.mem_append.1 hn with hn | hn
      · exact Namespace.clash?_claim (h n hn) _ _
      · obtain rfl := List.mem_singleton.1 hn
        exact Namespace.clash?_claim_self _ (by simp [Names.toList]) _

theorem Settled.run {α : Type} {read : α → Except SourceError (Option Contract)} {p : Progress}
    (h : p.Settled) (xs : List α) : (p.run read xs).Settled := by
  induction xs generalizing p with
  | nil => exact h
  | cons x xs ih => exact ih (h.after (read x))

/-- **A name met before changes nothing in what is kept**: the rule that the first contract of a name
stays follows from the rule that a name is bound once. -/
theorem contract?_fate {p : Progress} (h : p.Settled)
    (given : Except SourceError (Option Contract)) :
    (p.fate given).contract? =
      (contractOf? given).filter fun c => (p.bound.clash? c.names.toList).isNone := by
  have hmeets := p.meets_fate given
  generalize p.fate given = f at hmeets
  cases hmeets with
  | plain | unreadable => rfl
  | @repeated c hmem =>
      have hclash : (p.bound.clash? c.names.toList).isNone = false :=
        Option.isNone_eq_false_iff.2 (Option.isSome_iff_ne_none.2 (h _ hmem))
      exact (Option.filter_some_neg (by simp [hclash])).symm
  | refused _ hclash => exact (Option.filter_some_neg (by simp [hclash])).symm
  | kept _ hclash => exact (Option.filter_some_pos (by simp [hclash])).symm

/-- Only what is kept binds names. -/
theorem bound_after (p : Progress) (f : Fate) :
    (p.after f).bound =
      f.contract?.elim p.bound fun c => p.bound.claim c.names.toList (.statement c.name) := by
  cases f <;> rfl

end Progress

/-! ### Sources with headers -/

/-- The names of what was read are bound by the fates. -/
theorem Report.claimAll_eq {α : Type} (read : α → Except SourceError (Option Contract))
    (xs : List α) {d : Dialect} {r q : Report} {ns : Namespace}
    (htables : r.tables.foldlM (claimTable false)
      (Namespace.initial d, { r with tables := [], statements := [] }) = .ok (ns, q))
    (hstatements : r.statements = (fates read (.start ns) xs).filterMap Fate.named?) :
    r.claimAll d false = .ok (q.extend ((fates read (.start ns) xs).filterMap Fate.contract?)
      ((fates read (.start ns) xs).filterMap Fate.claimError?)) := by
  have hclaim := foldlM_claimContract read (.start ns) q xs
  unfold claimAll
  dsimp only
  rw [hstatements]
  exact bind_eq_ok_iff.2 ⟨_, htables, bind_eq_ok_iff.2 ⟨_, hclaim, rfl⟩⟩

namespace Headed

open Sql

/-- What a statement of a text gives. -/
def given (lead : String) (s : Segment) : Except SourceError (Option Contract) :=
  statement? lead (some s.line) s.text

/-- What becomes of each statement of a text. -/
def fates (config : Config) (text : List Char) : List Fate :=
  SqlContract.fates (given config.lead) (.start (.initial config.dialect)) (segments text)

theorem readSegment_false (lead : String) (r : Report) (s : Segment) :
    readSegment lead false r s = .ok (r.takeIn (given lead s)) := by
  unfold readSegment given
  cases statement? lead (some s.line) s.text with
  | error e => exact r.record_false e
  | ok o =>
      cases o with
      | none => rfl
      | some c => exact r.add_false c

/-- **What is kept of a text, and which errors are met**, those of reading before those of names. -/
theorem exists_read_claimAll (config : Config) (text : List Char) :
    ∃ r, read config.lead false text = .ok r ∧
      r.claimAll config.dialect false =
        .ok (Report.empty.extend ((fates config text).filterMap Fate.contract?)
          ((fates config text).filterMap Fate.readError? ++
            (fates config text).filterMap Fate.claimError?)) := by
  refine ⟨Report.empty.extend ((fates config text).filterMap Fate.named?)
    ((fates config text).filterMap Fate.readError?), ?_, ?_⟩
  · exact foldlM_takeIn [] (fun r s _ => readSegment_false config.lead r s) rfl rfl
  · refine (Report.claimAll_eq (given config.lead) (segments text) rfl ?_).trans ?_
    · rfl
    · refine congrArg Except.ok ?_
      simp only [Report.extend, Report.empty, fates, List.map_append, List.nil_append]

end Headed

end SqlContract
