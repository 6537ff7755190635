/-
What the accessors of a module refer to.

Which types an accessor refers to is decided by the parameters, the fields of a row and the cardinality,
apart from what decides which types the module defines.  Here the two are compared: what an accessor
refers to is defined before it in the text of the module, and nowhere else.

Main definitions:

* `Module.DefinesAbove` — a text defines a name once, and above some place.

Main results:

* `Module.shapes_subset_before` — what stands before an accessor;
* `Module.references_defined` — **what an accessor refers to is defined before it, once**.
-/

import SqlContract.Proofs.Generation.Synonyms

set_option autoImplicit false
set_option relaxedAutoImplicit false

namespace SqlContract

namespace Module

variable {d : Dialect} {header : String} {tables : Tables}
  {conventions : List (Except EmitError Convention)} {contracts : List Contract} {c : Contract}
  {m : Module} {before behind : List Part} {a : Accessor} {n : String}

/-! ### What stands before an accessor -/

theorem accessor_not_mem_fixedParts : Part.accessor a ∉ fixedParts d header tables contracts := by
  intro h
  rcases form_of_mem_fixedParts h with h | h | h | ⟨e, -, h⟩ <;> cases h

/-- **What stands before an accessor**: the constants, the record types of the tables, and the record
types of its own statement. -/
theorem shapes_subset_before (h : build d header tables conventions contracts = .ok m)
    (hsplit : m.parts = before ++ .accessor a :: behind) :
    a.contract ∈ contracts ∧ fixedParts d header tables contracts ⊆ before ∧
      a.contract.shapes tables ⊆ before := by
  obtain ⟨-, parts, hparts, hm⟩ := exists_of_build h
  rw [hm] at hsplit
  have hfixed := subset_of_append_eq hsplit accessor_not_mem_fixedParts
  rw [← List.flatten_cons, ← List.flatMap_id] at hsplit
  obtain ⟨l, ps, r, us, vs, hlists, he, hbefore⟩ := exists_of_flatMap_eq_append hsplit
  rw [id_eq] at he
  have hus : us ⊆ before := hbefore ▸ List.subset_append_right _ us
  have hps : ps ∈ fixedParts d header tables contracts :: parts := by
    simp [hlists]
  rcases List.mem_cons.1 hps with rfl | hps
  · have hmem : Part.accessor a ∈ fixedParts d header tables contracts := by
      simp [he]
    exact absurd hmem accessor_not_mem_fixedParts
  · obtain ⟨c, hc, hcontract⟩ := exists_of_mem_mapM_ok hparts hps
    unfold contractParts at hcontract
    obtain ⟨accessors, haccessors, hcontract⟩ := bind_eq_ok_iff.1 hcontract
    obtain rfl := Except.ok.inj hcontract
    have hshapes := subset_of_append_eq he accessor_not_mem_shapes
    have hmem : a ∈ accessors := by
      have hall : Part.accessor a ∈ c.shapes tables ++ accessors.map Part.accessor := by
        simp [he]
      simpa [accessor_not_mem_shapes] using hall
    obtain ⟨v?, -, hv⟩ := exists_of_mem_mapM_ok haccessors hmem
    obtain ⟨v, -, hv⟩ := bind_eq_ok_iff.1 hv
    obtain rfl := contract_of_accessor hv
    exact ⟨hc, hfixed, List.Subset.trans hshapes hus⟩

/-! ### References -/

/-- The text of a module defines a name once, and does so among the definitions above some place. -/
structure DefinesAbove (N : Normalizer) (m : Module) (above : List Definition) (n : String)
    (meaning : Meaning) : Prop where
  mem : (n, meaning) ∈ above
  once : N.Defines m.text n meaning

theorem definesAbove_of_contract {N : Normalizer}
    (h : build d header tables conventions contracts = .ok m)
    (hr : Readable header tables contracts) (hN : N.TellsApart (names tables contracts) d.taken)
    (hsplit : m.parts = before ++ behind) (hc : c ∈ contracts)
    (hn : n ∈ [c.names.constant, c.names.params, c.names.row]) {p : Part} (hp : p ∈ before)
    {meaning : Meaning} (hmem : (n, meaning) ∈ p.definitions) :
    DefinesAbove N m (before.flatMap Part.definitions) n meaning := by
  have hmade : n ∈ names tables contracts := by
    refine List.mem_append_right _ (List.mem_flatMap.2 ⟨c, hc, ?_⟩)
    exact List.mem_cons_of_mem _ (List.mem_cons_of_mem _ hn)
  have hpart : p ∈ m.parts := by
    rw [hsplit]
    exact List.mem_append_left _ hp
  exact ⟨List.mem_flatMap.2 ⟨p, hp, hmem⟩,
    defines_of_mem h hr hN hmade (not_accessor_of_contract h hc hn) hpart hmem⟩

/-- The text of the parts before an accessor defines what stands before the accessor in the text of the
module. -/
theorem read_before (h : build d header tables conventions contracts = .ok m)
    (hr : Readable header tables contracts) (hsplit : m.parts = before ++ .accessor a :: behind) :
    TopLevel.read (text ⟨before⟩).toList = before.flatMap Part.definitions ∧
      TopLevel.read m.text.toList =
        before.flatMap Part.definitions ++ (a.bound, .function) :: behind.flatMap Part.definitions := by
  have hne : before ≠ [] := by
    obtain ⟨-, hfixed, -⟩ := shapes_subset_before h hsplit
    exact List.ne_nil_of_mem (hfixed (List.mem_append_left _ (List.mem_append_left _
      (List.mem_append_left _ (List.mem_singleton.2 rfl)))))
  have hbefore : ∀ p ∈ before, p.Readable := fun p hp => hr.parts h p (by simp [hsplit, hp])
  refine ⟨read_text hne hbefore, ?_⟩
  rw [hr.read_text h, hsplit, List.flatMap_append, List.flatMap_cons]
  rfl

/-- **What an accessor refers to is defined before it, once.**  The text of an accessor is code that
all accessors have, the name that it binds, values, and references.

As far as the text of the module can be read, it defines the accessor behind what the parts before the
accessor define.  As far as the normal forms of its names tell them apart, too, each record type that the
accessor refers to is a record type of its own statement; each constant that it refers to holds the SQL
of its own statement in the form of the engine; and each record type that a synonym of the module names
is that of a table.  All of them are defined before the accessor, and once in the text. -/
theorem references_defined (h : build d header tables conventions contracts = .ok m)
    (hsplit : m.parts = before ++ .accessor a :: behind) :
    a.contract ∈ contracts ∧
      (a.lines = a.fragments.map Fragment.spell ∧ ∀ l ∈ a.fragments, ∀ f ∈ l, a.Fits f) ∧
      (Readable header tables contracts →
        let above := TopLevel.read (text ⟨before⟩).toList
        (∃ below, TopLevel.read m.text.toList = above ++ (a.bound, .function) :: below) ∧
          ∀ N : Normalizer, N.TellsApart (names tables contracts) d.taken →
            (∀ n ∈ a.types, ∃ meaning,
              (n, meaning) ∈ (a.contract.shapes tables).flatMap Part.definitions ∧
                DefinesAbove N m above n meaning) ∧
            (∀ name target, (name, .alias target) ∈ TopLevel.read m.text.toList →
              ∃ e ∈ tables, target = e.2.typeName ∧ DefinesAbove N m above target e.2.meaning) ∧
            ∀ n ∈ a.constants, DefinesAbove N m above n (.text (d.engineSql a.contract.sql))) := by
  obtain ⟨hc, hfixed, hshapes⟩ := shapes_subset_before h hsplit
  refine ⟨hc, ⟨a.lines_eq_spell, a.fits_fragments⟩, fun hr => ?_⟩
  obtain ⟨habove, hread⟩ := read_before h hr hsplit
  rw [habove]
  refine ⟨⟨_, hread⟩, fun N hN => ⟨fun n hn => ?types, fun name target hsynonym => ?synonyms,
    fun n hn => ?constants⟩⟩
  case types =>
    have hshape : ∀ p ∈ a.contract.shapes tables, ∀ meaning, (n, meaning) ∈ p.definitions →
        n ∈ [a.contract.names.constant, a.contract.names.params, a.contract.names.row] →
        ∃ meaning, (n, meaning) ∈ (a.contract.shapes tables).flatMap Part.definitions ∧
          DefinesAbove N m (before.flatMap Part.definitions) n meaning := fun p hp meaning hmem hname =>
      ⟨meaning, List.mem_flatMap.2 ⟨p, hp, hmem⟩,
        definesAbove_of_contract h hr hN hsplit hc hname (hshapes hp) hmem⟩
    rcases Accessor.type_cases hn with ⟨rfl, hparameters⟩ | ⟨rfl, hreturns⟩
    · have hp : Part.record a.contract.names.params
          (a.contract.parameters.map fun p => (p.name, p.scalarType.hint false)) ∈
            a.contract.shapes tables := by
        simp [Contract.shapes_eq, hparameters]
      exact hshape _ hp _ (List.mem_singleton.2 rfl) (by simp)
    · have hp : a.contract.rowPart tables ∈ a.contract.shapes tables := by
        simp [Contract.shapes_eq, hreturns]
      have hdefines : ∃ meaning,
          (a.contract.names.row, meaning) ∈ (a.contract.rowPart tables).definitions := by
        unfold Contract.rowPart
        split
        · exact ⟨_, List.mem_singleton.2 rfl⟩
        · exact ⟨_, List.mem_singleton.2 rfl⟩
      obtain ⟨meaning, hmem⟩ := hdefines
      exact hshape _ hp meaning hmem (by simp)
  case synonyms =>
    obtain ⟨u, v, hcut⟩ := List.append_of_mem hsynonym
    obtain ⟨e, he, rfl, -⟩ := exists_of_alias h hr hcut
    have hpart : e.2.part ∈ before :=
      hfixed (List.mem_append_right _ (List.mem_map.2 ⟨e.2, List.mem_map.2 ⟨e, he, rfl⟩, rfl⟩))
    exact ⟨e, he, rfl, List.mem_flatMap.2 ⟨_, hpart, List.mem_singleton.2 rfl⟩,
      defines_table h hr hN he⟩
  case constants =>
    obtain rfl := Accessor.eq_of_mem_constants hn
    have hdefinition : a.contract.constant d ∈ contracts.map (·.constant d) :=
      List.mem_map.2 ⟨_, hc, rfl⟩
    have hp : Part.constants (contracts.map (·.constant d)) ∈
        fixedParts d header tables contracts := by
      refine List.mem_append_left _ (List.mem_append_right _ ?_)
      simp [List.ne_nil_of_mem hc]
    exact definesAbove_of_contract h hr hN hsplit hc (by simp) (hfixed hp)
      (List.mem_map.2 ⟨_, hdefinition, rfl⟩)

/-- The accessors of a statement whose rows repeat a table, behind those of another. -/
theorem references_defined_repeated :
    let N := Normalizer.fullWidth
    let users : Table := ⟨"users", [⟨"id", "INTEGER", false⟩]⟩
    let contracts : List Contract :=
      [⟨"drop", .exec, [⟨"id", .number⟩], [], "DELETE FROM users WHERE id = ?", none, none⟩,
        ⟨"all", .many, [⟨"id", .number⟩], [⟨"id", .number, false⟩],
          "SELECT * FROM users WHERE id > ?", none, some "users"⟩]
    ∃ (m : Module) (a : Accessor) (before behind : List Part),
      build .remoteAsync "# rows" [("users", users)] [.ok .prepared, .ok .oneShot] contracts = .ok m ∧
        m.parts = before ++ .accessor a :: behind ∧ a.contract.name = "all" ∧
        a.types = ["AllParams", "AllRow", "AllParams", "AllRow"] ∧ a.constants = ["ALL_SQL"] ∧
        (∃ above below, TopLevel.read m.text.toList =
            above ++ ("prepare_all", .function) :: below ∧
          (∃ meaning, DefinesAbove N m above "AllParams" meaning) ∧
          (∃ meaning, DefinesAbove N m above "AllRow" meaning) ∧
          DefinesAbove N m above "Users" (.record [("id", "float")]) ∧
          DefinesAbove N m above "ALL_SQL" (.text "SELECT * FROM users WHERE id > %s")) := by
  intro N users contracts
  let tables : Tables := [("users", users)]
  let parameters : List Parameter := [⟨"id", .number⟩]
  let a : Accessor := ⟨.remoteAsync, .prepared, ⟨"all", .many, parameters, [⟨"id", .number, false⟩],
    "SELECT * FROM users WHERE id > ?", none, some "users"⟩, parameters⟩
  obtain ⟨m, hm, hmem⟩ := exists_ok_of_map_toOption
    (f := fun m : Module => (m.parts.contains (.accessor a),
      (m.parts.flatMap Part.definitions).contains ("AllRow", .alias "Users")))
    (b := (true, true))
    (x := build .remoteAsync "# rows" tables [.ok .prepared, .ok .oneShot] contracts)
    (by decide +kernel)
  obtain ⟨haccessor, hsynonym⟩ := Prod.mk.inj hmem
  obtain ⟨before, behind, hsplit⟩ := List.append_of_mem (List.contains_iff_mem.1 haccessor)
  have hr : Readable "# rows" tables contracts :=
    ⟨by decide +kernel, by decide +kernel, by decide +kernel⟩
  have hN : N.TellsApart (names tables contracts) Dialect.remoteAsync.taken := by
    unfold Normalizer.TellsApart
    decide +kernel
  have htypes : a.types = ["AllParams", "AllRow", "AllParams", "AllRow"] := by decide +kernel
  have hconstants : a.constants = ["ALL_SQL"] := by decide +kernel
  have hsql : Dialect.remoteAsync.engineSql a.contract.sql =
      "SELECT * FROM users WHERE id > %s" := by
    decide +kernel
  have hbound : a.bound = "prepare_all" := by decide +kernel
  have hmeaning : users.meaning = .record [("id", "float")] := by decide +kernel
  obtain ⟨-, -, htext⟩ := references_defined hm hsplit
  obtain ⟨⟨below, hread⟩, hnames⟩ := htext hr
  obtain ⟨hdefined, htables, hconstant⟩ := hnames N hN
  obtain ⟨params, -, hparams⟩ := hdefined "AllParams" (by simp [htypes])
  obtain ⟨row, -, hrow⟩ := hdefined "AllRow" (by simp [htypes])
  have halias : ("AllRow", .alias "Users") ∈ TopLevel.read m.text.toList := by
    rw [hr.read_text hm]
    exact List.contains_iff_mem.1 hsynonym
  obtain ⟨e, he, -, husers⟩ := htables "AllRow" "Users" halias
  obtain rfl := List.mem_singleton.1 he
  have honce := hconstant "ALL_SQL" (by simp [hconstants])
  rw [hsql] at honce
  rw [hbound] at hread
  rw [hmeaning] at husers
  exact ⟨m, a, before, behind, hm, hsplit, rfl, htypes, hconstants, _, below, hread,
    ⟨params, hparams⟩, ⟨row, hrow⟩, husers, honce⟩

/-- Of two statements whose names are alike but for the width of a letter, the constants have one name.
An accessor of the first refers to it, and what it has is the SQL of the second. -/
theorem not_references_defined_fullWidth :
    let N := Normalizer.fullWidth
    let contracts : List Contract :=
      [⟨"ａ", .exec, [], [], "DELETE FROM t", none, none⟩,
        ⟨"a", .exec, [], [], "DELETE FROM u", none, none⟩]
    ∃ (m : Module) (a : Accessor),
      build .localSync "# two" [] [.ok .oneShot] contracts = .ok m ∧ .accessor a ∈ m.parts ∧
        a.contract.sql = "DELETE FROM t" ∧ a.constants = ["Ａ_SQL"] ∧
        (TopLevel.read m.text.toList).filter (fun e => decide (N.normal e.1 = N.normal "Ａ_SQL")) =
          [("Ａ_SQL", .text "DELETE FROM t"), ("A_SQL", .text "DELETE FROM u")] ∧
        ¬ N.Defines m.text "Ａ_SQL" (.text "DELETE FROM t") := by
  intro N contracts
  let a : Accessor := ⟨.localSync, .oneShot, ⟨"ａ", .exec, [], [], "DELETE FROM t", none, none⟩, []⟩
  obtain ⟨m, hm, hshown⟩ := exists_ok_of_map_toOption
    (f := fun m : Module => (m.parts.contains (.accessor a),
      (m.parts.flatMap Part.definitions).filter
        fun e => decide (N.normal e.1 = N.normal "Ａ_SQL")))
    (b := (true, [("Ａ_SQL", .text "DELETE FROM t"), ("A_SQL", .text "DELETE FROM u")]))
    (x := build .localSync "# two" [] [.ok .oneShot] contracts) (by decide +kernel)
  obtain ⟨haccessor, hboth⟩ := Prod.mk.inj hshown
  have hr : Readable "# two" [] contracts :=
    ⟨by decide +kernel, by decide +kernel, by decide +kernel⟩
  rw [← hr.read_text hm] at hboth
  refine ⟨m, a, hm, List.contains_iff_mem.1 haccessor, rfl, by decide +kernel, hboth, fun hone => ?_⟩
  rw [Normalizer.Defines, hboth] at hone
  simp at hone

end Module

end SqlContract
