/-
The names of a generated module are distinct.

A name is claimed once, and so two things never share a name.  The names of one statement are claimed
together and not compared with each other; that they differ follows from how they are made.  The
accessors have no capitals, which all the others do, and these end in different letters.

Names are compared as they are spelled, though they are looked up in their normal forms.  So names that
differ in their spelling alone are both claimed, and are one name in the module.

Main definitions:

* `Dialect.binds`, `Dialect.taken` — the names that the fixed parts of a module bind, and those that are
  not free;
* `Module.fixedParts` — the parts of a module before those of its statements;
* `Module.names` — the names that are made for tables and statements;
* `Module.Readable` — the text of a module can be read;
* `Namespace.Holds` — which names were claimed.

Main results:

* `Names.nodup_toList` — **the names of one statement are distinct**;
* `Namespace.Holds.foldlM` — what a run of claims has claimed;
* `Module.form_of_mem_parts` — what the parts of a module are;
* `Module.Readable.read_text` — the text of a module defines what its parts define;
* `Module.names_distinct` — **the names of a module are distinct and free**.
-/

import SqlContract.Proofs.Emit.Definitions
import SqlContract.Proofs.Generation.Fates
import SqlContract.Proofs.Generation.Soundness
import SqlContract.Proofs.Text.Case

set_option autoImplicit false
set_option relaxedAutoImplicit false

namespace SqlContract

open Text TopLevel

/-! ### The names of one statement -/

namespace Names

variable {name : String} {c : Char}

theorem isUpper_of_mem_function (h : c ∈ (ofName name).function.toList) : c.isUpper = false := by
  have hfunction : (ofName name).function.toList = lower (separateWords name.toList) :=
    String.toList_ofList
  rw [hfunction] at h
  exact isUpper_of_mem_lower h

theorem toList_factory (name : String) :
    (ofName name).factory.toList = "prepare_".toList ++ (ofName name).function.toList :=
  String.toList_append

theorem isUpper_of_mem_factory (h : c ∈ (ofName name).factory.toList) : c.isUpper = false := by
  rw [toList_factory] at h
  rcases List.mem_append.1 h with h | h
  · have hlead : "prepare_".toList.all (fun c => !c.isUpper) = true := by decide
    simpa using List.all_eq_true.1 hlead c h
  · exact isUpper_of_mem_function h

/-- A text without capitals is none with a capital in it. -/
theorem ne_of_isUpper {a b : String} (ha : ∀ {c}, c ∈ a.toList → c.isUpper = false)
    (hc : c ∈ b.toList) (hupper : c.isUpper = true) : a ≠ b := by
  rintro rfl
  rw [ha hc] at hupper
  simp at hupper

/-- Texts with different last characters are different. -/
theorem append_ne_append {a b s t : String} (h : s.toList.getLast? ≠ t.toList.getLast?)
    (hs : s.toList ≠ []) (ht : t.toList ≠ []) : a ++ s ≠ b ++ t := by
  intro heq
  have hlast := congrArg (fun x : String => x.toList.getLast?) heq
  simp only [String.toList_append, List.getLast?_append_of_ne_nil _ hs,
    List.getLast?_append_of_ne_nil _ ht] at hlast
  exact h hlast

/-- **The names of one statement are distinct**, whatever its name is. -/
theorem nodup_toList (name : String) : (ofName name).toList.Nodup := by
  have hconstant : 'L' ∈ (ofName name).constant.toList := by simp [ofName]
  have hparams : 'P' ∈ (ofName name).params.toList := by simp [ofName]
  have hrow : 'R' ∈ (ofName name).row.toList := by simp [ofName]
  have hfunctionFactory : (ofName name).function ≠ (ofName name).factory := by
    intro heq
    have hlength := congrArg List.length (toList_factory name)
    rw [← heq, List.length_append] at hlength
    simp at hlength
  have hconstantParams : (ofName name).constant ≠ (ofName name).params :=
    append_ne_append (by decide) (by decide) (by decide)
  have hconstantRow : (ofName name).constant ≠ (ofName name).row :=
    append_ne_append (by decide) (by decide) (by decide)
  have hparamsRow : (ofName name).params ≠ (ofName name).row :=
    append_ne_append (by decide) (by decide) (by decide)
  simp only [toList, List.nodup_cons, List.mem_cons, List.not_mem_nil, or_false, not_or]
  -- what is left compares a name without capitals with one that has a capital
  refine ⟨⟨hfunctionFactory, ?_, ?_, ?_⟩, ⟨?_, ?_, ?_⟩, ⟨hconstantParams, hconstantRow⟩,
    hparamsRow, not_false, List.nodup_nil⟩
  · exact ne_of_isUpper isUpper_of_mem_function hconstant rfl
  · exact ne_of_isUpper isUpper_of_mem_function hparams rfl
  · exact ne_of_isUpper isUpper_of_mem_function hrow rfl
  · exact ne_of_isUpper isUpper_of_mem_factory hconstant rfl
  · exact ne_of_isUpper isUpper_of_mem_factory hparams rfl
  · exact ne_of_isUpper isUpper_of_mem_factory hrow rfl

end Names

/-! ### The names that are claimed -/

namespace Namespace

/-- A namespace holds some names beside the fixed ones: no two are alike, and none is a keyword or a
fixed name. -/
structure Holds (d : Dialect) (names : List String) (ns : Namespace) : Prop where
  bound : ∀ n, n ∈ ns.map (·.1) ↔ n ∈ names ∨ n ∈ sharedNames ++ d.reserved
  nodup : names.Nodup
  free : ∀ n ∈ names, isKeyword n = false ∧ n ∉ sharedNames ++ d.reserved

variable {d : Dialect} {names more : List String} {ns ns' : Namespace}

theorem holds_initial (d : Dialect) : Holds d [] (initial d) where
  bound := by
    intro n
    simp [initial]
  nodup := List.nodup_nil
  free := by simp

/-- Names that do not clash can be claimed together if they differ from each other. -/
theorem Holds.claim (h : Holds d names ns) (hfree : ns.clash? more = none) (hmore : more.Nodup)
    (owner : Owner) : Holds d (names ++ more) (ns.claim more owner) where
  bound := by
    intro n
    rw [map_fst_claim, List.mem_append, List.mem_reverse, h.bound, List.mem_append (s := names)]
    tauto
  nodup := by
    refine List.nodup_append.2 ⟨h.nodup, hmore, ?_⟩
    rintro a ha _ hb rfl
    exact (clash?_eq_none_iff.1 hfree a hb).2 ((h.bound a).2 (.inl ha))
  free := by
    intro n hn
    rcases List.mem_append.1 hn with hn | hn
    · exact h.free n hn
    · obtain ⟨hkeyword, hbound⟩ := clash?_eq_none_iff.1 hfree n hn
      exact ⟨hkeyword, fun hfixed => hbound ((h.bound n).2 (.inr hfixed))⟩

/-- What a run of claims has claimed, if each claims the names of one thing. -/
theorem Holds.foldlM {α : Type} (made : α → List String)
    {step : Namespace → α → Except SourceError Namespace}
    (hstep : ∀ ns x ns', step ns x = .ok ns' →
      ns.clash? (made x) = none ∧ ∃ owner, ns' = ns.claim (made x) owner)
    (hmade : ∀ x, (made x).Nodup) {xs : List α} (h : Holds d names ns)
    (hrun : xs.foldlM step ns = .ok ns') : Holds d (names ++ xs.flatMap made) ns' := by
  induction xs generalizing names ns with
  | nil =>
      rw [List.flatMap_nil, List.append_nil, ← Except.ok.inj hrun]
      exact h
  | cons x xs ih =>
      rw [List.foldlM_cons] at hrun
      obtain ⟨mid, hmid, hrun⟩ := bind_eq_ok_iff.1 hrun
      obtain ⟨hfree, owner, rfl⟩ := hstep ns x mid hmid
      rw [List.flatMap_cons, ← List.append_assoc]
      exact ih (h.claim hfree (hmade x) owner) hrun

theorem claim_of_claimTable {t : Table} (h : ns.claimTable t = .ok ns') :
    ns.clash? [t.typeName] = none ∧ ∃ owner, ns' = ns.claim [t.typeName] owner := by
  unfold claimTable at h
  split at h
  · simp at h
  · rename_i hfree
    exact ⟨hfree, _, (Except.ok.inj h).symm⟩

theorem claim_of_claimContract {c : Contract} (h : ns.claimContract c = .ok ns') :
    ns.clash? c.names.toList = none ∧ ∃ owner, ns' = ns.claim c.names.toList owner := by
  unfold claimContract at h
  split at h
  · simp at h
  · rename_i hfree
    exact ⟨hfree, _, (Except.ok.inj h).symm⟩

end Namespace

/-! ### The names that a module binds -/

/-- The names that the imports and the helpers of a module bind. -/
def Dialect.binds (d : Dialect) : List String :=
  d.imported ++ d.shared

/-- The names that are not free for tables and statements. -/
def Dialect.taken (d : Dialect) : List String :=
  keywords ++ sharedNames ++ d.reserved ++ d.binds

namespace Dialect

/-- What the imports and the helpers bind is reserved. -/
theorem binds_subset (d : Dialect) : d.binds ⊆ sharedNames ++ d.reserved := by
  cases d <;> decide

theorem isAscii_of_mem_taken (d : Dialect) :
    ∀ n ∈ d.taken, ∀ c ∈ n.toList, c.toNat < 0x80 := by
  have hall : (d.taken.all fun n => n.toList.all fun c => decide (c.toNat < 0x80)) = true := by
    cases d <;> decide +kernel
  intro n hn c hc
  exact of_decide_eq_true (List.all_eq_true.1 (List.all_eq_true.1 hall n hn) c hc)

end Dialect

theorem Tables.mem_of_get? {ts : Tables} {name : String} {t : Table} (h : ts.get? name = some t) :
    (caseKey name, t) ∈ ts := by
  obtain ⟨l, r, rfl, -⟩ := List.lookup_eq_some_iff.1 h
  simp

namespace Module

/-- The names that are made for some tables and statements. -/
def names (tables : Tables) (contracts : List Contract) : List String :=
  tables.map (·.2.typeName) ++ contracts.flatMap (·.names.toList)

variable {d : Dialect} {tables : Tables} {contracts : List Contract} {c : Contract}

theorem holds_namespaceOf {ns : Namespace}
    (h : namespaceOf d (tables.map (·.2)) contracts = .ok ns) :
    ns.Holds d (names tables contracts) := by
  obtain ⟨mid, htables, hcontracts⟩ := bind_eq_ok_iff.1 h
  have hmid := (Namespace.holds_initial d).foldlM (fun t => [t.typeName])
    (fun _ _ _ => Namespace.claim_of_claimTable) (fun _ => List.nodup_singleton _) htables
  have hns := hmid.foldlM (fun c => c.names.toList)
    (fun _ _ _ => Namespace.claim_of_claimContract) (fun c => Names.nodup_toList c.name) hcontracts
  have hmap : (tables.map (·.2)).flatMap (fun t => [t.typeName]) = tables.map (·.2.typeName) := by
    rw [← List.map_eq_flatMap, List.map_map]
    rfl
  rwa [List.nil_append, hmap] at hns

theorem contract_of_accessor {v : Convention} {a : Accessor} (h : c.accessor d v = .ok a) :
    a.contract = c := by
  rw [Contract.accessor_eq] at h
  split_ifs at h
  rw [← Except.ok.inj h]

/-- The names that the record types of a statement bind. -/
theorem flatMap_defines_shapes (tables : Tables) (c : Contract) :
    (c.shapes tables).flatMap Part.defines =
      (if c.parameters.isEmpty then [] else [c.names.params]) ++
        if c.returns.isEmpty then [] else [c.names.row] := by
  unfold Contract.shapes
  rw [List.flatMap_append]
  congr 1
  · split_ifs <;> rfl
  · split_ifs
    · rfl
    · split <;> rfl

theorem defines_subset_of_shapes {p : Part} (h : p ∈ c.shapes tables) :
    p.defines ⊆ c.names.toList := by
  intro n hn
  have hmem := List.mem_flatMap.2 ⟨p, h, hn⟩
  rw [flatMap_defines_shapes] at hmem
  rcases List.mem_append.1 hmem with hmem | hmem
  · split_ifs at hmem
    · simp at hmem
    · simp [Names.toList, List.mem_singleton.1 hmem]
  · split_ifs at hmem
    · simp at hmem
    · simp [Names.toList, List.mem_singleton.1 hmem]

/-- The parts of a statement are its record types and its accessors. -/
theorem form_of_mem_contractParts {conventions : List (Except EmitError Convention)}
    {parts : List Part} (h : contractParts d tables conventions c = .ok parts) {p : Part}
    (hp : p ∈ parts) : p ∈ c.shapes tables ∨ ∃ a : Accessor, p = .accessor a ∧ a.contract = c := by
  unfold contractParts at h
  obtain ⟨accessors, haccessors, h⟩ := bind_eq_ok_iff.1 h
  obtain rfl := Except.ok.inj h
  refine (List.mem_append.1 hp).imp_right fun hp => ?_
  obtain ⟨a, ha, rfl⟩ := List.mem_map.1 hp
  obtain ⟨v?, -, hv⟩ := exists_of_mem_mapM_ok haccessors ha
  obtain ⟨v, -, hv⟩ := bind_eq_ok_iff.1 hv
  exact ⟨a, rfl, contract_of_accessor hv⟩

theorem defines_subset_of_accessor {a : Accessor} (h : a.contract = c) :
    (Part.accessor a).defines ⊆ [c.names.function, c.names.factory] := by
  subst h
  cases hconvention : a.convention with
  | oneShot => simp [Part.defines, Part.definitions, Accessor.bound, hconvention]
  | prepared => simp [Part.defines, Part.definitions, Accessor.bound, hconvention]

theorem cases_of_mem_contractParts {conventions : List (Except EmitError Convention)}
    {parts : List Part} (h : contractParts d tables conventions c = .ok parts) {p : Part}
    (hp : p ∈ parts) : p ∈ c.shapes tables ∨ p.defines ⊆ [c.names.function, c.names.factory] := by
  refine (form_of_mem_contractParts h hp).imp_right ?_
  rintro ⟨a, rfl, ha⟩
  exact defines_subset_of_accessor ha

/-- The parts of a module before those of its statements. -/
def fixedParts (d : Dialect) (header : String) (tables : Tables) (contracts : List Contract) :
    List Part :=
  [.opening header d] ++
    (if d.helpers.isEmpty then [] else [.helpers d]) ++
    (if contracts.isEmpty then [] else [.constants (contracts.map (·.constant d))]) ++
    (tables.map (·.2)).map Table.part

/-- What the parts before those of the statements are. -/
theorem form_of_mem_fixedParts {header : String} {p : Part}
    (h : p ∈ fixedParts d header tables contracts) :
    p = .opening header d ∨ p = .helpers d ∨ p = .constants (contracts.map (·.constant d)) ∨
      ∃ e ∈ tables, p = e.2.part := by
  simp only [fixedParts, List.mem_append, or_assoc] at h
  rcases h with h | h | h | h
  · exact .inl (List.mem_singleton.1 h)
  · -- not every dialect has helpers
    split_ifs at h
    · simp at h
    · exact .inr (.inl (List.mem_singleton.1 h))
  · split_ifs at h
    · simp at h
    · exact .inr (.inr (.inl (List.mem_singleton.1 h)))
  · obtain ⟨t, ht, rfl⟩ := List.mem_map.1 h
    obtain ⟨e, he, rfl⟩ := List.mem_map.1 ht
    exact .inr (.inr (.inr ⟨e, he, rfl⟩))

theorem cases_of_mem_fixedParts {header : String} {p : Part}
    (h : p ∈ fixedParts d header tables contracts) :
    p.defines ⊆ d.binds ∨ p.defines ⊆ contracts.map (·.names.constant) ∨
      ∃ e ∈ tables, p = e.2.part := by
  rcases form_of_mem_fixedParts h with rfl | rfl | rfl | h
  · exact .inl (by simp [Dialect.binds])
  · exact .inl (by simp [Dialect.binds])
  · exact .inr (.inl (by simp [Contract.constant, Function.comp_def]))
  · exact .inr (.inr h)

section

variable {header : String} {conventions : List (Except EmitError Convention)} {m : Module}

/-- How a module is put together. -/
theorem exists_of_build (h : build d header tables conventions contracts = .ok m) :
    (∃ ns, namespaceOf d (tables.map (·.2)) contracts = .ok ns) ∧
      ∃ parts, contracts.mapM (contractParts d tables conventions) = .ok parts ∧
        m.parts = fixedParts d header tables contracts ++ parts.flatten := by
  obtain ⟨ns, hns, h⟩ := bind_eq_ok_iff.1 h
  obtain ⟨parts, hparts, h⟩ := bind_eq_ok_iff.1 h
  obtain rfl := Except.ok.inj h
  exact ⟨⟨ns, mapError_eq_ok_iff.1 hns⟩, parts, hparts, rfl⟩

/-- What the parts of a module are. -/
theorem form_of_mem_parts (h : build d header tables conventions contracts = .ok m) {p : Part}
    (hp : p ∈ m.parts) : p ∈ fixedParts d header tables contracts ∨
      ∃ c ∈ contracts, p ∈ c.shapes tables ∨ ∃ a : Accessor, p = .accessor a ∧ a.contract = c := by
  obtain ⟨-, parts, hparts, hm⟩ := exists_of_build h
  rw [hm] at hp
  refine (List.mem_append.1 hp).imp_right fun hp => ?_
  obtain ⟨ps, hps, hp⟩ := List.mem_flatten.1 hp
  obtain ⟨c, hc, hcontract⟩ := exists_of_mem_mapM_ok hparts hps
  exact ⟨c, hc, form_of_mem_contractParts hcontract hp⟩

/-- Which names the parts of a module bind. -/
theorem cases_of_mem_parts (h : build d header tables conventions contracts = .ok m) {p : Part}
    (hp : p ∈ m.parts) : p.defines ⊆ d.binds ∨ p.defines ⊆ contracts.map (·.names.constant) ∨
      (∃ e ∈ tables, p = e.2.part) ∨ ∃ c ∈ contracts, p ∈ c.shapes tables ∨
        p.defines ⊆ [c.names.function, c.names.factory] := by
  rcases form_of_mem_parts h hp with hp | ⟨c, hc, hp⟩
  · exact (cases_of_mem_fixedParts hp).imp_right (·.imp_right .inl)
  · refine .inr (.inr (.inr ⟨c, hc, hp.imp_right ?_⟩))
    rintro ⟨a, rfl, ha⟩
    exact defines_subset_of_accessor ha

/-- The record type of a table is a part of the module. -/
theorem part_mem_parts (h : build d header tables conventions contracts = .ok m) {e : String × Table}
    (he : e ∈ tables) : e.2.part ∈ m.parts := by
  obtain ⟨-, parts, -, hm⟩ := exists_of_build h
  rw [hm]
  refine List.mem_append_left _ (List.mem_append_right _ ?_)
  exact List.mem_map.2 ⟨e.2, List.mem_map.2 ⟨e, he, rfl⟩, rfl⟩

/-- The record types of a statement are parts of the module. -/
theorem shapes_subset_parts (h : build d header tables conventions contracts = .ok m)
    (hc : c ∈ contracts) : c.shapes tables ⊆ m.parts := by
  obtain ⟨-, parts, hparts, hm⟩ := exists_of_build h
  obtain ⟨ps, hps, hcontract⟩ := exists_ok_of_mem_mapM hparts hc
  unfold contractParts at hcontract
  obtain ⟨accessors, -, hcontract⟩ := bind_eq_ok_iff.1 hcontract
  obtain rfl := Except.ok.inj hcontract
  intro p hp
  rw [hm]
  exact List.mem_append_right _ (List.mem_flatten.2 ⟨_, hps, List.mem_append_left _ hp⟩)

/-- **What a module binds** are the names of its fixed parts and those that are made for its tables
and statements. -/
theorem defines_subset (h : build d header tables conventions contracts = .ok m) :
    m.parts.flatMap Part.defines ⊆ d.binds ++ names tables contracts := by
  intro n hn
  obtain ⟨p, hp, hn⟩ := List.mem_flatMap.1 hn
  have hmade : ∀ {c : Contract}, c ∈ contracts → n ∈ c.names.toList →
      n ∈ d.binds ++ names tables contracts := fun hc hn =>
    List.mem_append_right _ (List.mem_append_right _ (List.mem_flatMap.2 ⟨_, hc, hn⟩))
  rcases cases_of_mem_parts h hp with hfixed | hconstants | ⟨e, he, rfl⟩ | ⟨c, hc, hshapes | haccessor⟩
  · exact List.mem_append_left _ (hfixed hn)
  · obtain ⟨c, hc, rfl⟩ := List.mem_map.1 (hconstants hn)
    exact hmade hc (by simp [Names.toList])
  · obtain rfl := List.mem_singleton.1 hn
    exact List.mem_append_right _ (List.mem_append_left _ (List.mem_map.2 ⟨e, he, rfl⟩))
  · exact hmade hc (defines_subset_of_shapes hshapes hn)
  · refine hmade hc ?_
    have hmem := haccessor hn
    simp only [List.mem_cons, List.not_mem_nil, or_false] at hmem
    rcases hmem with rfl | rfl <;> simp [Names.toList]

/-! ### The text of a module -/

/-- The text of a module can be read: its header is a comment, its names are identifiers, and its SQL can
stand in literals. -/
structure Readable (header : String) (tables : Tables) (contracts : List Contract) : Prop where
  header : Part.IsComment header
  identifier : ∀ n ∈ names tables contracts, isIdentifier n = true
  sql : ∀ c ∈ contracts, '\r' ∉ c.sql.toList ∧ '\x00' ∉ c.sql.toList

theorem oneLine_hint (t : ScalarType) (nullable : Bool) : OneLine (t.hint nullable).toList := by
  cases t <;> cases nullable <;> decide

theorem Readable.typeName (h : Readable header tables contracts) {e : String × Table}
    (he : e ∈ tables) : isIdentifier e.2.typeName = true :=
  h.identifier _ (List.mem_append_left _ (List.mem_map.2 ⟨e, he, rfl⟩))

theorem Readable.contract (h : Readable header tables contracts) (hc : c ∈ contracts) {n : String}
    (hn : n ∈ c.names.toList) : isIdentifier n = true :=
  h.identifier _ (List.mem_append_right _ (List.mem_flatMap.2 ⟨c, hc, hn⟩))

theorem Readable.fixedParts (h : Readable header tables contracts) {p : Part}
    (hp : p ∈ fixedParts d header tables contracts) : p.Readable := by
  simp only [Module.fixedParts, List.mem_append, or_assoc] at hp
  rcases hp with hp | hp | hp | hp
  · obtain rfl := List.mem_singleton.1 hp
    exact h.header
  · split_ifs at hp
    · simp at hp
    · obtain rfl := List.mem_singleton.1 hp
      trivial
  · split_ifs at hp with hempty
    · simp at hp
    · obtain rfl := List.mem_singleton.1 hp
      refine ⟨by simpa using hempty, fun e he => ?_⟩
      obtain ⟨c, hc, rfl⟩ := List.mem_map.1 he
      obtain ⟨hreturn, hnul⟩ := h.sql c hc
      exact ⟨h.contract hc (by simp [Contract.constant, Names.toList]),
        d.not_mem_engineSql hreturn (by decide) (by decide),
        d.not_mem_engineSql hnul (by decide) (by decide)⟩
  · obtain ⟨t, ht, rfl⟩ := List.mem_map.1 hp
    obtain ⟨e, he, rfl⟩ := List.mem_map.1 ht
    refine ⟨h.typeName he, fun f hf => ?_⟩
    obtain ⟨c, -, rfl⟩ := List.mem_map.1 hf
    exact oneLine_hint _ _

theorem Readable.shapes (h : Readable header tables contracts) (hc : c ∈ contracts) {p : Part}
    (hp : p ∈ c.shapes tables) : p.Readable := by
  have hparams := h.contract hc (n := c.names.params) (by simp [Names.toList])
  have hrow := h.contract hc (n := c.names.row) (by simp [Names.toList])
  unfold Contract.shapes at hp
  rcases List.mem_append.1 hp with hp | hp
  · split_ifs at hp
    · simp at hp
    · obtain rfl := List.mem_singleton.1 hp
      refine ⟨hparams, fun f hf => ?_⟩
      obtain ⟨q, -, rfl⟩ := List.mem_map.1 hf
      exact oneLine_hint _ _
  · split_ifs at hp
    · simp at hp
    · split at hp
      · rename_i t ht
        obtain ⟨s, -, ht⟩ := Option.bind_eq_some_iff.1 ht
        obtain rfl := List.mem_singleton.1 hp
        have htype := h.typeName (Tables.mem_of_get? ht)
        exact ⟨hrow, htype⟩
      · obtain rfl := List.mem_singleton.1 hp
        refine ⟨hrow, fun f hf => ?_⟩
        obtain ⟨q, -, rfl⟩ := List.mem_map.1 hf
        exact oneLine_hint _ _

/-- The parts of a module whose text can be read can be read. -/
theorem Readable.parts (hr : Readable header tables contracts)
    (h : build d header tables conventions contracts = .ok m) : ∀ p ∈ m.parts, p.Readable := by
  intro p hp
  rcases form_of_mem_parts h hp with hp | ⟨c, hc, hp | ⟨a, rfl, rfl⟩⟩
  · exact hr.fixedParts hp
  · exact hr.shapes hc hp
  · intro n hn
    exact hr.contract hc hn

theorem parts_ne_nil (h : build d header tables conventions contracts = .ok m) : m.parts ≠ [] := by
  obtain ⟨-, parts, -, hm⟩ := exists_of_build h
  rw [hm]
  simp [fixedParts]

/-- **The text of a module defines what its parts define.** -/
theorem Readable.read_text (hr : Readable header tables contracts)
    (h : build d header tables conventions contracts = .ok m) :
    TopLevel.read m.text.toList = m.parts.flatMap Part.definitions :=
  Module.read_text (parts_ne_nil h) (hr.parts h)

/-! ### Names are distinct -/

theorem nodup_names (h : build d header tables conventions contracts = .ok m) :
    (names tables contracts).Nodup := by
  obtain ⟨⟨ns, hns⟩, -⟩ := exists_of_build h
  exact (holds_namespaceOf hns).nodup

theorem free_of_mem_names (h : build d header tables conventions contracts = .ok m) {n : String}
    (hn : n ∈ names tables contracts) : n ∉ d.taken := by
  obtain ⟨⟨ns, hns⟩, -⟩ := exists_of_build h
  obtain ⟨hkeyword, hfixed⟩ := (holds_namespaceOf hns).free n hn
  have hkeyword : n ∉ keywords := by simpa [isKeyword] using hkeyword
  rw [List.mem_append, not_or] at hfixed
  simp only [Dialect.taken, List.mem_append, not_or]
  refine ⟨⟨⟨hkeyword, hfixed.1⟩, hfixed.2⟩, fun hbinds => ?_⟩
  exact not_or.2 hfixed (List.mem_append.1 (d.binds_subset hbinds))

/-- Names that are spelled differently are distinct and free in their normal forms exactly if these
tell them apart. -/
theorem nodup_normal_iff (N : Normalizer) {ns taken : List String} (hnodup : ns.Nodup)
    (hfree : ∀ n ∈ ns, n ∉ taken) (hascii : ∀ n ∈ taken, ∀ c ∈ n.toList, c.toNat < 0x80) :
    ((ns.map N.normal).Nodup ∧ ∀ n ∈ ns, N.normal n ∉ taken) ↔ N.TellsApart ns taken := by
  constructor
  · rintro ⟨hnormal, hnormalFree⟩ a ha b hb he
    rcases List.mem_append.1 hb with hb | hb
    · exact List.inj_on_of_nodup_map hnormal hb ha he
    · rw [N.normal_ascii b (hascii b hb)] at he
      exact absurd (he ▸ hb) (hnormalFree a ha)
  · intro h
    refine ⟨List.Nodup.map_on (fun a ha b hb he => h b hb a (List.mem_append_left _ ha) he) hnodup,
      fun n hn htaken => ?_⟩
    -- a taken name is in normal form
    have hself := N.normal_ascii _ (hascii _ htaken)
    have hsame := h n hn _ (List.mem_append_right _ htaken) hself
    rw [hsame] at htaken
    exact hfree n hn htaken

end

/-- **The names of a module are distinct and free.**  Where a module is written, the names that are
made for its tables and statements are all different, and none is taken: none is a keyword, none is a
name that every module uses, and none is one that the imports and the helpers of this one bind.  The
parts of the module bind no other names, and the text of the module binds these names, if it can be
read.

Names are compared as they are spelled.  They are distinct and free in their normal forms, too, exactly
if the normal forms tell them apart. -/
theorem names_distinct {header : String} {conventions : List (Except EmitError Convention)}
    {m : Module} (h : build d header tables conventions contracts = .ok m) :
    ((names tables contracts).Nodup ∧ ∀ n ∈ names tables contracts, n ∉ d.taken) ∧
      (∀ N : Normalizer, ((names tables contracts).map N.normal).Nodup ∧
          (∀ n ∈ names tables contracts, N.normal n ∉ d.taken) ↔
        N.TellsApart (names tables contracts) d.taken) ∧
      m.parts.flatMap Part.defines ⊆ d.binds ++ names tables contracts ∧
      (Readable header tables contracts →
        (TopLevel.read m.text.toList).map (·.1) = m.parts.flatMap Part.defines) := by
  have hnodup := nodup_names h
  have hfree : ∀ n ∈ names tables contracts, n ∉ d.taken := fun n => free_of_mem_names h
  refine ⟨⟨hnodup, hfree⟩, fun N => nodup_normal_iff N hnodup hfree d.isAscii_of_mem_taken,
    defines_subset h, fun hr => ?_⟩
  rw [hr.read_text h, List.map_flatMap]
  rfl

/-- A table and a statement that are called alike, with names that differ in their endings. -/
theorem names_distinct_alike :
    let tables : Tables := [("get_user", ⟨"get_user", [⟨"id", "INTEGER", false⟩]⟩)]
    let contracts : List Contract :=
      [⟨"getUser", .one, [], [⟨"id", .number, false⟩], "SELECT id FROM get_user", none,
          some "get_user"⟩,
        ⟨"x", .exec, [⟨"id", .number⟩], [], "DELETE FROM get_user WHERE id = ?", some 3, none⟩]
    let made := ["GetUser", "get_user", "prepare_get_user", "GET_USER_SQL", "GetUserParams",
      "GetUserRow", "x", "prepare_x", "X_SQL", "XParams", "XRow"]
    ∃ m, build .localSync "# users" tables [.ok .prepared, .ok .oneShot] contracts = .ok m ∧
      names tables contracts = made ∧ made.Nodup ∧ (∀ n ∈ made, n ∉ Dialect.localSync.taken) ∧
      (TopLevel.read m.text.toList).map (·.1) = ["annotations", "sqlite3", "Callable", "closing",
        "Any", "TypedDict", "_dict_row", "_compile", "GET_USER_SQL", "X_SQL", "GetUser", "GetUserRow",
        "prepare_get_user", "get_user", "XParams", "prepare_x", "x"] := by
  intro tables contracts made
  obtain ⟨m, hm, hdefines⟩ := exists_ok_of_map_toOption
    (f := fun m : Module => m.parts.flatMap Part.defines)
    (b := ["annotations", "sqlite3", "Callable", "closing", "Any", "TypedDict", "_dict_row",
      "_compile", "GET_USER_SQL", "X_SQL", "GetUser", "GetUserRow", "prepare_get_user", "get_user",
      "XParams", "prepare_x", "x"])
    (x := build .localSync "# users" tables [.ok .prepared, .ok .oneShot] contracts)
    (by decide +kernel)
  have hmade : names tables contracts = made := by decide +kernel
  obtain ⟨⟨hnodup, hfree⟩, -, -, hread⟩ := names_distinct hm
  rw [hmade] at hnodup hfree
  have hreadable : Readable "# users" tables contracts :=
    ⟨by decide +kernel, by rw [hmade]; decide +kernel, by decide +kernel⟩
  exact ⟨m, hm, hmade, hnodup, hfree, (hread hreadable).trans hdefines⟩

/-- Of two statements whose names are alike but for the width of a letter, a module is written all the
same.  It defines an accessor for each, and one name has both. -/
theorem not_names_distinct_fullWidth :
    let contracts : List Contract :=
      [⟨"ａ", .exec, [], [], "DELETE FROM t", none, none⟩,
        ⟨"a", .exec, [], [], "DELETE FROM u", none, none⟩]
    ∃ m, build .localSync "# two" [] [.ok .oneShot] contracts = .ok m ∧
      [("ａ", Meaning.function), ("a", Meaning.function)] ⊆ TopLevel.read m.text.toList ∧
      Normalizer.fullWidth.normal "ａ" = "a" ∧
      ¬ ((names [] contracts).map Normalizer.fullWidth.normal).Nodup := by
  intro contracts
  obtain ⟨m, hm, hdefines⟩ := exists_ok_of_map_toOption
    (f := fun m : Module =>
      decide ([("ａ", Meaning.function), ("a", Meaning.function)] ⊆ m.parts.flatMap Part.definitions))
    (b := true) (x := build .localSync "# two" [] [.ok .oneShot] contracts) (by decide +kernel)
  have hreadable : Readable "# two" [] contracts :=
    ⟨by decide +kernel, by decide +kernel, by decide +kernel⟩
  refine ⟨m, hm, ?_, by decide +kernel, by decide +kernel⟩
  rw [hreadable.read_text hm]
  exact of_decide_eq_true hdefines

end Module

end SqlContract
