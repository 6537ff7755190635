/-
The two groups of fields that header lines declare.

One run over the lines fills two lists, the parameters and the row fields.  A line looks at its own group
only: its name must be free there, and the field is added at the end.  So the lines of one group are read
as if those of the other did not stand between them.

Main definitions:

* `Declaration`, `Declaration.line` — what one line declares, and the line that declares it;
* `Fields.given` — the fields that some declarations give;
* `Fields.linesOf` — the lines of one group.

Main results:

* `Fields.ofLines_eq_ok_iff` — **what some lines declare, and which lines declare anything**;
* `Fields.ofLines_apart` — **the lines of the two groups are read apart**, however they stand among
  each other.
-/

import SqlContract.Proofs.Generation.Soundness
import SqlContract.Proofs.Headed.Fields

set_option autoImplicit false
set_option relaxedAutoImplicit false

namespace SqlContract

open Text

theorem FieldKind.word_injective : Function.Injective FieldKind.word := by
  intro kind kind'
  cases kind <;> cases kind' <;> decide

theorem ScalarType.word_injective : Function.Injective ScalarType.word := by
  intro type type'
  cases type <;> cases type' <;> decide

/-! ### Declarations -/

/-- What one header line declares. -/
structure Declaration where
  kind : FieldKind
  name : String
  type : ScalarType
  deriving DecidableEq, Repr

namespace Declaration

/-- The words of the line that declares a field. -/
def line (d : Declaration) : List String :=
  Fields.lineOf d.kind d.name d.type

/-- Whether a field of the name and the type can be declared. -/
def Valid (d : Declaration) : Prop :=
  isIdentifier d.name = true ∧ d.type ∈ ScalarType.declarable

instance (d : Declaration) : Decidable d.Valid :=
  inferInstanceAs (Decidable (_ ∧ _))

/-- The declarations of one kind, in order. -/
def ofKind (kind : FieldKind) (ds : List Declaration) : List Declaration :=
  ds.filter fun d => d.kind = kind

variable {d : Declaration} {ds : List Declaration} {kind : FieldKind}

theorem ofKind_cons_of_eq (h : d.kind = kind) : ofKind kind (d :: ds) = d :: ofKind kind ds :=
  List.filter_cons_of_pos (by simpa using h)

theorem ofKind_cons_of_ne (h : d.kind ≠ kind) : ofKind kind (d :: ds) = ofKind kind ds :=
  List.filter_cons_of_neg (by simpa using h)

theorem ofKind_ofKind_self : ofKind kind (ofKind kind ds) = ofKind kind ds := by
  simp [ofKind]

theorem ofKind_ofKind_of_ne {other : FieldKind} (h : other ≠ kind) :
    ofKind other (ofKind kind ds) = [] := by
  refine List.filter_eq_nil_iff.2 fun d hd => ?_
  have hkind : d.kind = kind := by simpa using (List.mem_filter.1 hd).2
  simpa [hkind] using h.symm

/-- A line tells what it declares. -/
theorem line_injective : Function.Injective line := by
  rintro ⟨kind, name, type⟩ ⟨kind', name', type'⟩ h
  obtain ⟨hkind, hrest⟩ := List.cons.inj h
  obtain ⟨hname, hrest⟩ := List.cons.inj hrest
  obtain ⟨htype, -⟩ := List.cons.inj hrest
  obtain rfl := FieldKind.word_injective hkind
  obtain rfl := ScalarType.word_injective htype
  exact congrArg (Declaration.mk kind · type) hname

/-- Lines that each declare something are the lines of some declarations. -/
theorem exists_map_line {lines : List (List String)}
    (h : ∀ l ∈ lines, ∃ d : Declaration, d.Valid ∧ l = d.line) :
    ∃ ds : List Declaration, lines = ds.map line ∧ ∀ d ∈ ds, d.Valid := by
  induction lines with
  | nil => exact ⟨[], rfl, by simp⟩
  | cons l ls ih =>
      obtain ⟨⟨d, hd, rfl⟩, hls⟩ := List.forall_mem_cons.1 h
      obtain ⟨ds, rfl, hds⟩ := ih hls
      exact ⟨d :: ds, rfl, List.forall_mem_cons.2 ⟨hd, hds⟩⟩

/-- The first word of a line tells the kind of what it declares. -/
theorem head?_line : d.line.head? = some kind.word ↔ d.kind = kind := by
  cases hd : d.kind <;> cases kind <;> simp [line, Fields.lineOf, hd, FieldKind.word]

end Declaration

/-! ### What lines declare -/

namespace Fields

open Declaration

variable {f g : Fields} {d : Declaration} {ds : List Declaration} {kind : FieldKind}
  {l : List String} {lines lines' : List (List String)} {ps : List Parameter}
  {rs : List ReturnField}

/-- Adds a declared field at the end of its group. -/
def put (f : Fields) (d : Declaration) : Fields :=
  f.push d.kind d.name d.type

/-- The fields that some declarations give, each group in the order of its declarations. -/
def given (ds : List Declaration) : Fields :=
  ⟨(ofKind .param ds).map fun d => ⟨d.name, d.type⟩,
    (ofKind .returns ds).map fun d => ⟨d.name, d.type, false⟩⟩

/-- **What one line declares**, as a declaration. -/
theorem declare_eq_ok_iff_put : f.declare l = .ok g ↔
    ∃ d : Declaration, d.Valid ∧ l = d.line ∧ d.name ∉ f.names d.kind ∧ g = f.put d := by
  rw [declare_eq_ok_iff]
  constructor
  · rintro ⟨kind, name, type, hname, htype, hline, hfree, hg⟩
    exact ⟨⟨kind, name, type⟩, ⟨hname, htype⟩, hline, hfree, hg⟩
  · rintro ⟨⟨kind, name, type⟩, ⟨hname, htype⟩, hline, hfree, hg⟩
    exact ⟨kind, name, type, hname, htype, hline, hfree, hg⟩

/-- The names of a group behind one more declaration, and those still to come. -/
theorem names_put_append (f : Fields) (d : Declaration) (ds : List Declaration)
    (kind : FieldKind) :
    (f.put d).names kind ++ (ofKind kind ds).map (·.name) =
      f.names kind ++ (ofKind kind (d :: ds)).map (·.name) := by
  unfold put
  by_cases h : d.kind = kind
  · subst h
    rw [names_push, ofKind_cons_of_eq rfl, List.append_assoc]
    rfl
  · rw [names_push_of_ne (Ne.symm h), ofKind_cons_of_ne h]

/-- A run over some lines, from fields whose names are distinct in each group. -/
theorem foldlM_declare_eq_ok_iff (hf : f.Distinct) : lines.foldlM declare f = .ok g ↔
    ∃ ds : List Declaration, lines = ds.map line ∧ (∀ d ∈ ds, d.Valid) ∧
      (∀ kind, (f.names kind ++ (ofKind kind ds).map (·.name)).Nodup) ∧ g = ds.foldl put f := by
  -- the names that are taken and those to come are one list, which no step changes
  induction lines generalizing f with
  | nil =>
      constructor
      · intro h
        refine ⟨[], rfl, by simp, fun kind => ?_, (Except.ok.inj h).symm⟩
        simpa [ofKind] using hf kind
      · rintro ⟨ds, hlines, -, -, rfl⟩
        rw [List.map_eq_nil_iff.1 hlines.symm]
        rfl
  | cons l ls ih =>
      rw [List.foldlM_cons, bind_eq_ok_iff]
      constructor
      · rintro ⟨mid, hmid, hrun⟩
        obtain ⟨d, hvalid, rfl, hfree, rfl⟩ := declare_eq_ok_iff_put.1 hmid
        obtain ⟨ds, rfl, hds, hnames, rfl⟩ := (ih (hf.push hfree d.type)).1 hrun
        refine ⟨d :: ds, rfl, List.forall_mem_cons.2 ⟨hvalid, hds⟩, fun kind => ?_, rfl⟩
        rw [← names_put_append]
        exact hnames kind
      · rintro ⟨ds, hlines, hds, hnames, rfl⟩
        obtain ⟨d, ds, rfl, rfl, rfl⟩ := List.map_eq_cons_iff.1 hlines.symm
        obtain ⟨hvalid, hds⟩ := List.forall_mem_cons.1 hds
        have hfree : d.name ∉ f.names d.kind := by
          have hnodup := hnames d.kind
          rw [ofKind_cons_of_eq rfl, List.map_cons] at hnodup
          exact fun hmem => (List.nodup_append.1 hnodup).2.2 _ hmem _ List.mem_cons_self rfl
        refine ⟨f.put d, declare_eq_ok_iff_put.2 ⟨d, hvalid, rfl, hfree, rfl⟩,
          (ih (hf.push hfree d.type)).2 ⟨ds, rfl, hds, fun kind => ?_, rfl⟩⟩
        have hput := names_put_append f d ds kind
        rw [put] at hput
        rw [hput]
        exact hnames kind

theorem foldl_put (ds : List Declaration) (f : Fields) :
    ds.foldl put f = ⟨f.params ++ (given ds).params, f.returns ++ (given ds).returns⟩ := by
  induction ds generalizing f with
  | nil => simp [given, ofKind]
  | cons d ds ih =>
      rw [List.foldl_cons, ih]
      obtain ⟨kind, name, type⟩ := d
      cases kind <;> simp [put, push, given, ofKind]

/-- **What some lines declare, and which lines declare anything**: each line is that of a declaration, and
no name is declared twice in one group. -/
theorem ofLines_eq_ok_iff : ofLines lines = .ok f ↔
    ∃ ds : List Declaration, lines = ds.map line ∧ (∀ d ∈ ds, d.Valid) ∧
      (∀ kind, ((ofKind kind ds).map (·.name)).Nodup) ∧ f = given ds := by
  have hempty : Distinct ⟨[], []⟩ := by
    intro kind
    cases kind <;> exact List.nodup_nil
  have hnames : ∀ kind, names ⟨[], []⟩ kind = [] := by
    intro kind
    cases kind <;> rfl
  unfold ofLines
  simp only [foldlM_declare_eq_ok_iff hempty, foldl_put, hnames, List.nil_append]

/-! ### The lines of one group -/

/-- The lines that declare fields of a kind, in order. -/
def linesOf (kind : FieldKind) (lines : List (List String)) : List (List String) :=
  lines.filter fun l => l.head? = some kind.word

theorem linesOf_map_line (kind : FieldKind) (ds : List Declaration) :
    linesOf kind (ds.map line) = (ofKind kind ds).map line := by
  unfold linesOf ofKind
  rw [List.filter_map]
  refine congrArg (List.map line) (List.filter_congr fun d _ => ?_)
  simp only [Function.comp_apply, head?_line]

/-- The lines of a group are read as the declarations of the group. -/
theorem ofLines_linesOf (hvalid : ∀ d ∈ ds, d.Valid)
    (hnodup : ((ofKind kind ds).map (·.name)).Nodup) :
    ofLines (linesOf kind (ds.map line)) = .ok (given (ofKind kind ds)) := by
  refine ofLines_eq_ok_iff.2 ⟨ofKind kind ds, linesOf_map_line kind ds,
    fun d hd => hvalid d (List.mem_filter.1 hd).1, fun other => ?_, rfl⟩
  by_cases h : other = kind
  · rw [h, ofKind_ofKind_self]
    exact hnodup
  · rw [ofKind_ofKind_of_ne h]
    exact List.nodup_nil

theorem given_ofKind_param (ds : List Declaration) :
    given (ofKind .param ds) = ⟨(given ds).params, []⟩ := by
  unfold given
  rw [ofKind_ofKind_self, ofKind_ofKind_of_ne (by decide)]
  rfl

theorem given_ofKind_returns (ds : List Declaration) :
    given (ofKind .returns ds) = ⟨[], (given ds).returns⟩ := by
  unfold given
  rw [ofKind_ofKind_self, ofKind_ofKind_of_ne (by decide)]
  rfl

/-- Lines of which each group can be read are lines of declarations, distinct in each group. -/
theorem exists_of_linesOf (hkinds : ∀ l ∈ lines, ∃ kind : FieldKind, l.head? = some kind.word)
    (h : ∀ kind, ∃ f, ofLines (linesOf kind lines) = .ok f) :
    ∃ ds : List Declaration, lines = ds.map line ∧ (∀ d ∈ ds, d.Valid) ∧
      ∀ kind, ((ofKind kind ds).map (·.name)).Nodup := by
  have hlines : ∀ l ∈ lines, ∃ d : Declaration, d.Valid ∧ l = d.line := by
    intro l hl
    obtain ⟨kind, hkind⟩ := hkinds l hl
    obtain ⟨f, hf⟩ := h kind
    obtain ⟨ds, hds, hvalid, -, -⟩ := ofLines_eq_ok_iff.1 hf
    have hmem : l ∈ linesOf kind lines := List.mem_filter.2 ⟨hl, by simpa using hkind⟩
    rw [hds] at hmem
    obtain ⟨d, hd, rfl⟩ := List.mem_map.1 hmem
    exact ⟨d, hvalid d hd, rfl⟩
  obtain ⟨ds, rfl, hvalid⟩ := exists_map_line hlines
  refine ⟨ds, rfl, hvalid, fun kind => ?_⟩
  obtain ⟨f, hf⟩ := h kind
  obtain ⟨es, hes, -, hnodup, -⟩ := ofLines_eq_ok_iff.1 hf
  rw [linesOf_map_line] at hes
  obtain rfl := List.map_injective_iff.2 line_injective hes
  have hself := hnodup kind
  rwa [ofKind_ofKind_self] at hself

/-- **The two groups together are read as each of them alone.** -/
theorem ofLines_eq_ok_iff_linesOf : ofLines lines = .ok ⟨ps, rs⟩ ↔
    (∀ l ∈ lines, ∃ kind : FieldKind, l.head? = some kind.word) ∧
      ofLines (linesOf .param lines) = .ok ⟨ps, []⟩ ∧
      ofLines (linesOf .returns lines) = .ok ⟨[], rs⟩ := by
  constructor
  · intro h
    obtain ⟨ds, rfl, hvalid, hnodup, hgiven⟩ := ofLines_eq_ok_iff.1 h
    refine ⟨fun l hl => ?_, ?_, ?_⟩
    · obtain ⟨d, -, rfl⟩ := List.mem_map.1 hl
      exact ⟨d.kind, head?_line.2 rfl⟩
    · rw [ofLines_linesOf hvalid (hnodup _), given_ofKind_param, ← hgiven]
    · rw [ofLines_linesOf hvalid (hnodup _), given_ofKind_returns, ← hgiven]
  · rintro ⟨hkinds, hparams, hreturns⟩
    have hgroups : ∀ kind, ∃ f, ofLines (linesOf kind lines) = .ok f := by
      intro kind
      cases kind with
      | param => exact ⟨_, hparams⟩
      | returns => exact ⟨_, hreturns⟩
    obtain ⟨ds, rfl, hvalid, hnodup⟩ := exists_of_linesOf hkinds hgroups
    rw [ofLines_linesOf hvalid (hnodup _), given_ofKind_param] at hparams
    rw [ofLines_linesOf hvalid (hnodup _), given_ofKind_returns] at hreturns
    have hps : (given ds).params = ps := congrArg Fields.params (Except.ok.inj hparams)
    have hrs : (given ds).returns = rs := congrArg Fields.returns (Except.ok.inj hreturns)
    exact ofLines_eq_ok_iff.2 ⟨ds, rfl, hvalid, hnodup, by rw [← hps, ← hrs]⟩

/-- The fields of a group are those of its lines, in order. -/
theorem linesOf_eq (h : ofLines lines = .ok ⟨ps, rs⟩) :
    linesOf .param lines = ps.map (fun p => lineOf .param p.name p.scalarType) ∧
      linesOf .returns lines = rs.map fun r => lineOf .returns r.name r.scalarType := by
  obtain ⟨ds, rfl, -, -, hgiven⟩ := ofLines_eq_ok_iff.1 h
  obtain ⟨rfl, rfl⟩ := Fields.mk.inj hgiven
  have hkind : ∀ kind, ∀ d ∈ ofKind kind ds, d.line = lineOf kind d.name d.type := by
    intro kind d hd
    obtain rfl : d.kind = kind := by simpa using (List.mem_filter.1 hd).2
    rfl
  rw [linesOf_map_line, linesOf_map_line, List.map_map, List.map_map]
  exact ⟨List.map_congr_left (hkind .param), List.map_congr_left (hkind .returns)⟩

/-- **The lines of the two groups are read apart.**  Some lines declare parameters and row fields exactly
if each is a line of one of the groups and those of each group, alone and in order, declare its fields.  So
lines that stand otherwise among each other, but in the same order within each group, declare the same.
The fields stand in the order of their lines; and lines that could each declare a field alone declare
fields together exactly if no name is declared twice in one group, whatever the other group holds. -/
theorem ofLines_apart (lines : List (List String)) (ps : List Parameter) (rs : List ReturnField) :
    (ofLines lines = .ok ⟨ps, rs⟩ ↔
      (∀ l ∈ lines, ∃ kind : FieldKind, l.head? = some kind.word) ∧
        ofLines (linesOf .param lines) = .ok ⟨ps, []⟩ ∧
        ofLines (linesOf .returns lines) = .ok ⟨[], rs⟩) ∧
      (∀ lines' : List (List String), lines'.Perm lines →
        (∀ kind, linesOf kind lines' = linesOf kind lines) →
          (ofLines lines' = .ok ⟨ps, rs⟩ ↔ ofLines lines = .ok ⟨ps, rs⟩)) ∧
      (ofLines lines = .ok ⟨ps, rs⟩ →
        linesOf .param lines = ps.map (fun p => lineOf .param p.name p.scalarType) ∧
          linesOf .returns lines = rs.map fun r => lineOf .returns r.name r.scalarType) ∧
      ∀ ds : List Declaration, (∀ d ∈ ds, d.Valid) →
        ((∃ f, ofLines (ds.map line) = .ok f) ↔
          ∀ kind, ((ofKind kind ds).map (·.name)).Nodup) := by
  refine ⟨ofLines_eq_ok_iff_linesOf, fun lines' hperm hgroups => ?_, linesOf_eq,
    fun ds hvalid => ⟨?_, fun hnodup => ?_⟩⟩
  · have hkinds : (∀ l ∈ lines', ∃ kind : FieldKind, l.head? = some kind.word) ↔
        ∀ l ∈ lines, ∃ kind : FieldKind, l.head? = some kind.word :=
      forall_congr' fun l => by rw [hperm.mem_iff]
    refine ofLines_eq_ok_iff_linesOf.trans (Iff.trans ?_ ofLines_eq_ok_iff_linesOf.symm)
    rw [hgroups, hgroups, hkinds]
  · rintro ⟨f, hf⟩
    obtain ⟨es, hes, -, hnodup, -⟩ := ofLines_eq_ok_iff.1 hf
    obtain rfl := List.map_injective_iff.2 line_injective hes
    exact hnodup
  · exact ⟨_, ofLines_eq_ok_iff.2 ⟨ds, rfl, hvalid, hnodup, rfl⟩⟩

/-- Two names that each stand in both groups, with the lines of the groups among each other and one group
behind the other; and a name that stands twice in one group. -/
theorem ofLines_apart_mixed :
    let ps : List Parameter := [⟨"id", .number⟩, ⟨"name", .string⟩]
    let rs : List ReturnField := [⟨"name", .string, false⟩, ⟨"id", .number, false⟩]
    let mixed := [["param", "id", "number"], ["returns", "name", "string"],
      ["returns", "id", "number"], ["param", "name", "string"]]
    let sorted := [["param", "id", "number"], ["param", "name", "string"],
      ["returns", "name", "string"], ["returns", "id", "number"]]
    let twice : List Declaration := [⟨.param, "id", .number⟩, ⟨.param, "id", .string⟩]
    ofLines (linesOf .param mixed) = .ok ⟨ps, []⟩ ∧ ofLines (linesOf .returns mixed) = .ok ⟨[], rs⟩ ∧
      ofLines mixed = .ok ⟨ps, rs⟩ ∧ sorted.Perm mixed ∧ ofLines sorted = .ok ⟨ps, rs⟩ ∧
      linesOf .param mixed = ps.map (fun p => lineOf .param p.name p.scalarType) ∧
      (∀ d ∈ twice, d.Valid) ∧ ¬ ∃ f, ofLines (twice.map line) = .ok f := by
  intro ps rs mixed sorted twice
  have hvalid : ∀ d ∈ twice, d.Valid := by decide +kernel
  obtain ⟨hread, hperm, horder, hnames⟩ := ofLines_apart mixed ps rs
  have hparams : ofLines (linesOf .param mixed) = .ok ⟨ps, []⟩ := by decide +kernel
  have hreturns : ofLines (linesOf .returns mixed) = .ok ⟨[], rs⟩ := by decide +kernel
  have hkinds : ∀ l ∈ mixed, ∃ kind : FieldKind, l.head? = some kind.word := by
    simp only [mixed, List.forall_mem_cons]
    exact ⟨⟨.param, rfl⟩, ⟨.returns, rfl⟩, ⟨.returns, rfl⟩, ⟨.param, rfl⟩, by simp⟩
  have hmixed := hread.2 ⟨hkinds, hparams, hreturns⟩
  have hsorted : sorted.Perm mixed := by decide +kernel
  refine ⟨hparams, hreturns, hmixed, hsorted, (hperm sorted hsorted fun kind => ?_).2 hmixed,
    (horder hmixed).1, hvalid, fun hf => ?_⟩
  · cases kind <;> decide +kernel
  · exact absurd ((hnames twice hvalid).1 hf .param) (by decide +kernel)

end Fields

end SqlContract
