/-
Failures are isolated.

A statement that contributes nothing to a generated module could still have stood in the way of
others: it is scanned with them, its name counts as taken, and it moves those behind it further down.
None of this changes the module.  What is kept of a source depends on the bound names alone, and only
what is kept binds names.

Main results:

* `Headed.map_unplaced_given` — what a statement gives does not depend on its line, the line apart;
* `contracts_fates_below` — **what is kept depends on the bound names alone**;
* `Headed.map_unplaced_fates_deleted` — what is kept of a text without such a statement;
* `generateHeaded_deleted` — **without a statement that contributes nothing the module is the same**.
-/

import SqlContract.Proofs.Generation.Emission
import SqlContract.Proofs.Generation.Fates
import SqlContract.Proofs.Scanning.Deletion

set_option autoImplicit false
set_option relaxedAutoImplicit false

namespace SqlContract

open Text Sql

/-! ### Lines of statements -/

namespace Headed

variable {lead : String}

theorem body_at_line {name : String} {line line' : Option Int} {rest : List (List String)}
    {sql : List Char} {c : Contract} (h : body name line rest sql = .ok c) :
    body name line' rest sql = .ok { c with line := line' } := by
  obtain ⟨word, declared, card, fields, hrest, hcard, hfields, hsql, hexec, hcount, rfl⟩ :=
    body_eq_ok_iff.1 h
  exact body_eq_ok_iff.2
    ⟨word, declared, card, fields, hrest, hcard, hfields, hsql, hexec, hcount, rfl⟩

/-- What a statement gives at one line it gives at another. -/
theorem Gives.at_line {s s' : Segment} {c : Contract} (htext : s'.text = s.text)
    (h : Gives lead s c) : Gives lead s' { c with line := some (s'.line : Int) } := by
  obtain ⟨name, rest, hheader, hname, hbody⟩ := statement?_eq_some_iff.1 h
  refine statement?_eq_some_iff.2 ⟨name, rest, ?_, hname, ?_⟩
  · rw [htext, hheader]
  · rw [htext]
    exact body_at_line hbody

theorem contractOf?_given_eq_some_iff {s : Segment} {c : Contract} :
    contractOf? (given lead s) = some c ↔ Gives lead s c := by
  unfold Gives given
  cases statement? lead (some s.line) s.text with
  | error e => simp [contractOf?]
  | ok o => simp [contractOf?]

/-- **What a statement gives does not depend on its line**, the line apart. -/
theorem map_unplaced_given (lead : String) {s s' : Segment} (htext : s'.text = s.text) :
    (contractOf? (given lead s')).map (·.unplaced) =
      (contractOf? (given lead s)).map (·.unplaced) := by
  -- one direction is enough, since the two statements can change places
  have hone : ∀ {s s' : Segment}, s'.text = s.text → ∀ {c}, contractOf? (given lead s) = some c →
      (contractOf? (given lead s')).map (·.unplaced) = some c.unplaced := by
    intro s s' htext c hc
    have hgives := (contractOf?_given_eq_some_iff.1 hc).at_line htext
    rw [contractOf?_given_eq_some_iff.2 hgives]
    rfl
  cases hc : contractOf? (given lead s) with
  | some c => exact hone htext hc
  | none =>
      cases hc' : contractOf? (given lead s') with
      | none => rfl
      | some c' =>
          have hback := hone htext.symm hc'
          rw [hc] at hback
          exact absurd hback (by simp)

end Headed

/-! ### What is kept -/

/-- What two statements of one text contribute to a module, where the same names are bound. -/
theorem map_unplaced_contract?_fate (lead : String) {p p' : Progress} {s s' : Segment}
    (hbound : p.bound = p'.bound) (h : p.Settled) (h' : p'.Settled) (htext : s.text = s'.text) :
    (p.fate (Headed.given lead s)).contract?.map (·.unplaced) =
      (p'.fate (Headed.given lead s')).contract?.map (·.unplaced) := by
  have hgiven := Headed.map_unplaced_given lead htext
  rw [Progress.contract?_fate h, Progress.contract?_fate h', hbound]
  -- whether the names clash depends on the name alone
  have hfilter : ∀ c? : Option Contract,
      (c?.filter fun c => (p'.bound.clash? c.names.toList).isNone).map (·.unplaced) =
        (c?.map (·.unplaced)).filter fun c => (p'.bound.clash? c.names.toList).isNone := by
    intro c?
    cases c? with
    | none => rfl
    | some c =>
        have hnames : c.unplaced.names = c.names := rfl
        simp only [Option.filter_some, Option.map_some, hnames]
        split_ifs
        · rfl
        · rfl
  rw [hfilter, hfilter, hgiven]

/-- The names bound behind two statements of one text. -/
theorem bound_after_fate (lead : String) {p p' : Progress} {s s' : Segment}
    (hbound : p.bound = p'.bound) (h : p.Settled) (h' : p'.Settled) (htext : s.text = s'.text) :
    (p.after (p.fate (Headed.given lead s))).bound =
      (p'.after (p'.fate (Headed.given lead s'))).bound := by
  have hsame := map_unplaced_contract?_fate lead hbound h h' htext
  rw [Progress.bound_after, Progress.bound_after, hbound]
  cases hc : (p.fate (Headed.given lead s)).contract? with
  | none =>
      rw [hc, Option.map_none] at hsame
      rw [Option.map_eq_none_iff.1 hsame.symm]
  | some c =>
      rw [hc, Option.map_some] at hsame
      obtain ⟨c', hc', hunplaced⟩ := Option.map_eq_some_iff.1 hsame.symm
      have hname : c'.unplaced.name = c.unplaced.name := by rw [hunplaced]
      have hnames : c'.names = c.names := congrArg Names.ofName hname
      have howner : Owner.statement c'.name = .statement c.name := congrArg Owner.statement hname
      rw [hc']
      simp only [Option.elim_some, hnames, howner]

/-- **What is kept depends on the bound names alone**: neither the names met before nor the lines of
the statements matter. -/
theorem contracts_fates_below (lead : String) {p p' : Progress} (hbound : p.bound = p'.bound)
    (h : p.Settled) (h' : p'.Settled) (n : Nat) (segs : List Segment) :
    ((fates (Headed.given lead) p (segs.map (·.below n))).filterMap Fate.contract?).map
        (·.unplaced) =
      ((fates (Headed.given lead) p' segs).filterMap Fate.contract?).map (·.unplaced) := by
  -- over what is met before: the bound names stay the same in step, the names read may differ
  induction segs generalizing p p' with
  | nil => rfl
  | cons s segs ih =>
      have htext : (s.below n).text = s.text := rfl
      have hsame := map_unplaced_contract?_fate lead hbound h h' htext
      have hrest := ih (bound_after_fate lead hbound h h' htext)
        (h.after (Headed.given lead (s.below n))) (h'.after (Headed.given lead s))
      rw [List.map_cons, fates, fates, List.filterMap_cons, List.filterMap_cons]
      cases hc : (p.fate (Headed.given lead (s.below n))).contract? with
      | none =>
          rw [hc, Option.map_none] at hsame
          rw [Option.map_eq_none_iff.1 hsame.symm]
          exact hrest
      | some c =>
          rw [hc, Option.map_some] at hsame
          obtain ⟨c', hc', hunplaced⟩ := Option.map_eq_some_iff.1 hsame.symm
          rw [hc']
          exact congrArg₂ List.cons hunplaced.symm hrest

/-- **What is kept of a text without a statement that contributes nothing**: the same, the lines
apart. -/
theorem Headed.map_unplaced_fates_deleted {config : Config} {text : List Char}
    {front back : List Segment} {seg : Segment} {f : Fate}
    (hseg : segments text = front ++ seg :: back)
    (hf : (fates config text)[front.length]? = some f) (hnone : f.contract? = none) :
    ((fates config (deleted front seg text)).filterMap Fate.contract?).map (·.unplaced) =
      ((fates config text).filterMap Fate.contract?).map (·.unplaced) := by
  obtain ⟨back', hdeleted, hback⟩ := exists_segments_deleted hseg
  -- `p` is what is met before the statement, in both texts
  set p := (Progress.start (Namespace.initial config.dialect)).run (given config.lead) front
  have hp : p.Settled := (Progress.settled_start _).run front
  have hfates : fates config text =
      SqlContract.fates (given config.lead) (.start (.initial config.dialect)) front ++
        p.fate (given config.lead seg) ::
          SqlContract.fates (given config.lead) (p.after (p.fate (given config.lead seg))) back := by
    unfold fates
    rw [hseg, fates_append, SqlContract.fates]
  have hfates' : fates config (deleted front seg text) =
      SqlContract.fates (given config.lead) (.start (.initial config.dialect)) front ++
        SqlContract.fates (given config.lead) p back' := by
    unfold fates
    rw [hdeleted, fates_append]
  have hfate : p.fate (given config.lead seg) = f := by
    rw [hfates, List.getElem?_append_right (by rw [length_fates]), length_fates, Nat.sub_self] at hf
    exact Option.some.inj hf
  have hbound : (p.after f).bound = p.bound := by
    rw [Progress.bound_after, hnone, Option.elim_none]
  have hsettled : (p.after f).Settled := hfate ▸ hp.after (given config.lead seg)
  have hrest := contracts_fates_below config.lead hbound hsettled hp (lineFeeds seg.text) back'
  rw [← hback] at hrest
  rw [hfates, hfates', hfate, List.filterMap_append, List.filterMap_append,
    List.filterMap_cons_none hnone, List.map_append, List.map_append, hrest]

/-! ### Modules -/

/-- The module of a text, by the fates of its statements. -/
theorem generateHeaded_eq {config : Config} (hstrict : config.strict = false) (text : List Char) :
    let kept := (Headed.fates config text).filterMap Fate.contract?
    let errors := (Headed.fates config text).filterMap Fate.readError? ++
      (Headed.fates config text).filterMap Fate.claimError?
    let r := Report.empty.extend kept errors
    generateHeaded config text =
      if config.conventions ≠ [] ∧ ∃ c ∈ kept, c.arguments? config.dialect = none then
        .error .unboundPlaceholder
      else
        .ok ⟨(Module.whole config.dialect config.header [] config.conventions kept).text,
          { r with log := r.log ++ [headedSummary r] }⟩ := by
  intro kept errors r
  obtain ⟨r₀, hread, hclaim⟩ := Headed.exists_read_claimAll config text
  rw [← hstrict] at hread hclaim
  unfold generateHeaded
  rw [hread]
  exact generate_eq hclaim

/-- Whether the statements of a module can all be bound does not depend on their lines. -/
theorem exists_unbound_iff {d : Dialect} {cs cs' : List Contract}
    (h : cs.map (·.unplaced) = cs'.map (·.unplaced)) :
    (∃ c ∈ cs, c.arguments? d = none) ↔ ∃ c ∈ cs', c.arguments? d = none := by
  have hunplaced : ∀ cs : List Contract, (∃ c ∈ cs, c.arguments? d = none) ↔
      ∃ c ∈ cs.map (·.unplaced), c.arguments? d = none := by
    intro cs
    constructor
    · rintro ⟨c, hc, hnone⟩
      exact ⟨c.unplaced, List.mem_map_of_mem hc, hnone⟩
    · rintro ⟨c, hc, hnone⟩
      obtain ⟨c', hc', rfl⟩ := List.mem_map.1 hc
      exact ⟨c', hc', hnone⟩
  rw [hunplaced, h, ← hunplaced]

/-- **Without a statement that contributes nothing the module is the same.**  A text is generated that
is not read strictly.  One of its statements is taken out with its semicolon, and it is plain SQL,
cannot be read, repeats a name or has a generated name that is bound.  Then the text without it gives a
module with the same source, and with the same statements on other lines.  The fates say what the
statements and the errors of the module are, each fate that of the statement at its place. -/
theorem generateHeaded_deleted {config : Config} {text : List Char} {g : Generated}
    {front back : List Segment} {seg : Segment} {f : Fate} (hstrict : config.strict = false)
    (hg : generateHeaded config text = .ok g) (hseg : segments text = front ++ seg :: back)
    (hf : (Headed.fates config text)[front.length]? = some f) (hnone : f.contract? = none) :
    g.report.statements = (Headed.fates config text).filterMap Fate.contract? ∧
      g.report.errors = (Headed.fates config text).filterMap Fate.readError? ++
        (Headed.fates config text).filterMap Fate.claimError? ∧
      ∃ g', generateHeaded config (deleted front seg text) = .ok g' ∧ g'.source = g.source ∧
        g'.report.statements.map (·.unplaced) = g.report.statements.map (·.unplaced) := by
  have hkept := Headed.map_unplaced_fates_deleted hseg hf hnone
  rw [generateHeaded_eq hstrict] at hg
  split_ifs at hg with hunbound
  obtain rfl := Except.ok.inj hg
  refine ⟨rfl, rfl, ?_⟩
  rw [← exists_unbound_iff hkept] at hunbound
  refine ⟨_, (generateHeaded_eq hstrict _).trans (if_neg hunbound), ?_, hkept⟩
  show (Module.whole _ _ _ _ _).text = (Module.whole _ _ _ _ _).text
  rw [← Module.text_whole_unplaced, hkept, Module.text_whole_unplaced]

/-- A statement whose generated names are bound, so that one behind it with the same name counts as a
repetition.  Without it that one has no names either.  A quote is open behind both. -/
theorem generateHeaded_deleted_refused :
    let text :=
      ("-- @name getUser\n-- @count one\n-- @param id number\nSELECT a FROM t WHERE id = ?;\n" ++
      "-- @name get_user\n-- @count exec\nDELETE FROM t;\n" ++
      "-- @name get_user\n-- @count exec\nDELETE FROM u WHERE a = 'b").toList
    let front : List Segment :=
      [⟨"-- @name getUser\n-- @count one\n-- @param id number\nSELECT a FROM t WHERE id = ?".toList,
        1, true⟩]
    let seg : Segment := ⟨"\n-- @name get_user\n-- @count exec\nDELETE FROM t".toList, 5, true⟩
    let first : Contract :=
      ⟨"getUser", .one, [⟨"id", .number⟩], [], "SELECT a FROM t WHERE id = ?", some 1, none⟩
    let second : Contract := ⟨"get_user", .exec, [], [], "DELETE FROM t", some 5, none⟩
    let third : Contract := ⟨"get_user", .exec, [], [], "DELETE FROM u WHERE a = 'b", some 8, none⟩
    Headed.fates {} text = [.kept first,
        .refused second (.bound "get_user" (.statement "getUser")), .repeated third] ∧
      ∃ g g', generateHeaded {} text = .ok g ∧
        generateHeaded {} (deleted front seg text) = .ok g' ∧ g'.source = g.source ∧
        g.report.statements = [first] ∧ g'.report.statements.map (·.unplaced) = [first.unplaced] := by
  intro text front seg first second third
  have hseg : segments text = front ++ seg ::
      [⟨"\n-- @name get_user\n-- @count exec\nDELETE FROM u WHERE a = 'b".toList, 8, false⟩] := by
    decide +kernel
  have hfates : Headed.fates {} text = [.kept first,
      .refused second (.bound "get_user" (.statement "getUser")), .repeated third] := by
    decide +kernel
  have hf : (Headed.fates {} text)[1]? =
      some (.refused second (.bound "get_user" (.statement "getUser"))) := by
    rw [hfates]
    rfl
  have hok : (generateHeaded {} text).isOk = true := by decide +kernel
  cases hg : generateHeaded {} text with
  | error e =>
      rw [hg] at hok
      exact absurd hok Bool.false_ne_true
  | ok g =>
      obtain ⟨hkept, -, g', hg', hsource, hstatements⟩ :=
        generateHeaded_deleted rfl hg hseg hf rfl
      have hfirst : g.report.statements = [first] := by
        rw [hkept, hfates]
        rfl
      refine ⟨hfates, g, g', rfl, hg', hsource, hfirst, ?_⟩
      rw [hstatements, hfirst]
      rfl

end SqlContract
