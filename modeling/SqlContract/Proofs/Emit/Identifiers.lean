/-
Names that are no identifiers.

A statement has an identifier for its name, and its accessors and its constant have one, too.  The
record types open with what the name holds behind its underscores: this can be a digit, or nothing.  The
name of a table is any text, and so is its type name.  No claim asks whether a name is an identifier.

Main definitions:

* `bare` — a name without its underscores.

Main results:

* `isIdentifierForm_snakeChars` — **the snake form of a name is an identifier exactly if the name is**;
* `isIdentifierForm_pascalChars` — **the Pascal form is one exactly if the bare name is one in capitals**;
* `Module.isIdentifier_iff` — **when a module binds nothing but identifiers**.
-/

import SqlContract.Proofs.Emit.Names
import SqlContract.Proofs.Text.Identifiers

set_option autoImplicit false
set_option relaxedAutoImplicit false

namespace SqlContract

open Text

/-- A name without its underscores. -/
def bare (name : List Char) : List Char :=
  name.filter (· ≠ '_')

theorem bare_underscore (cs : List Char) : bare ('_' :: cs) = bare cs := by
  simp [bare]

theorem bare_cons {c : Char} (hc : c ≠ '_') (cs : List Char) : bare (c :: cs) = c :: bare cs := by
  simp [bare, hc]

/-- Underscores stand in identifiers, and tell nothing of the rest. -/
theorem all_isIdentifierContinue_bare (s : List Char) :
    (bare s).all isIdentifierContinue = s.all isIdentifierContinue := by
  induction s with
  | nil => rfl
  | cons c cs ih =>
      by_cases hc : c = '_'
      · rw [hc, bare_underscore, ih, List.all_cons]
        have hunderscore : isIdentifierContinue '_' = true := by decide
        rw [hunderscore, Bool.true_and]
      · rw [bare_cons hc, List.all_cons, ih, List.all_cons]

/-! ### Words of a name -/

theorem bare_separateFrom (prev : Char) (s : List Char) : bare (separateFrom prev s) = bare s := by
  induction s generalizing prev with
  | nil => rfl
  | cons c cs ih =>
      rw [separateFrom]
      split_ifs
      · rw [bare_underscore]
        by_cases hc : c = '_'
        · rw [hc, bare_underscore, bare_underscore, ih]
        · rw [bare_cons hc, bare_cons hc, ih]
      · by_cases hc : c = '_'
        · rw [hc, bare_underscore, bare_underscore, ih]
        · rw [bare_cons hc, bare_cons hc, ih]

theorem bare_separateWords (s : List Char) : bare (separateWords s) = bare s := by
  cases s with
  | nil => rfl
  | cons c cs =>
      rw [separateWords]
      by_cases hc : c = '_'
      · rw [hc, bare_underscore, bare_underscore, bare_separateFrom]
      · rw [bare_cons hc, bare_cons hc, bare_separateFrom]

theorem isIdentifierForm_separateWords (s : List Char) :
    isIdentifierForm (separateWords s) = isIdentifierForm s := by
  cases s with
  | nil => rfl
  | cons c cs =>
      rw [separateWords, isIdentifierForm, isIdentifierForm, ← all_isIdentifierContinue_bare,
        bare_separateFrom, all_isIdentifierContinue_bare]

/-- **The snake form of a name is an identifier exactly if the name is.** -/
theorem isIdentifierForm_snakeChars (name : List Char) :
    isIdentifierForm (snakeChars name) = isIdentifierForm name := by
  unfold snakeChars
  rw [isIdentifierForm_lower, isIdentifierForm_separateWords]

/-! ### The Pascal form -/

theorem all_isIdentifierContinue_capitalizeWords (atStart : Bool) (s : List Char) :
    (capitalizeWords atStart s).all isIdentifierContinue = s.all isIdentifierContinue := by
  induction s generalizing atStart with
  | nil => rfl
  | cons c cs ih =>
      rw [capitalizeWords, List.all_cons]
      split_ifs with hc hstart
      · rw [ih, hc]
        have hunderscore : isIdentifierContinue '_' = true := by decide
        rw [hunderscore, Bool.true_and]
      · rw [List.all_append, all_isIdentifierContinue_upperChar, ih]
      · rw [List.all_append, ih]
        simp

theorem capitalizeWords_eq_nil_iff {atStart : Bool} {s : List Char} :
    capitalizeWords atStart s = [] ↔ bare s = [] := by
  induction s generalizing atStart with
  | nil => simp [capitalizeWords, bare]
  | cons c cs ih =>
      rw [capitalizeWords]
      split_ifs with hc hstart
      · rw [hc, bare_underscore]
        exact ih
      · simp [bare_cons hc, upperChar_ne_nil]
      · simp [bare_cons hc]

/-- Words are capitalized as the text without underscores is put in capitals, as far as identifiers are
concerned. -/
theorem isIdentifierForm_capitalizeWords (s : List Char) :
    isIdentifierForm (capitalizeWords true s) = isIdentifierForm (upper (bare s)) := by
  induction s with
  | nil => rfl
  | cons c cs ih =>
      by_cases hc : c = '_'
      · rw [capitalizeWords, if_pos hc, hc, bare_underscore, ih]
      · rw [capitalizeWords, if_neg hc, if_pos rfl, bare_cons hc, isIdentifierForm_upper_cons,
          all_isIdentifierContinue_bare, isIdentifierForm_append (upperChar_ne_nil c),
          all_isIdentifierContinue_capitalizeWords]

theorem bare_append_of_not_mem {a : List Char} (h : '_' ∉ a) (b : List Char) :
    bare (a ++ b) = a ++ bare b := by
  have hself : a.filter (· ≠ '_') = a := by
    refine List.filter_eq_self.2 fun c hc => decide_eq_true ?_
    rintro rfl
    exact h hc
  unfold bare
  rw [List.filter_append, hself]

theorem bare_lowerFrom_eq_nil_iff {afterCased : Bool} {s : List Char} :
    bare (lowerFrom afterCased s) = [] ↔ bare s = [] := by
  induction s generalizing afterCased with
  | nil => simp [lowerFrom]
  | cons c cs ih =>
      obtain ⟨image, next, hlower, hmaps, ⟨rfl, rfl⟩ | ⟨hc, himage⟩⟩ :=
        exists_lowerFrom_cons afterCased c cs
      · rw [hlower, bare_underscore]
        exact (iff_of_eq (congrArg (· = []) (bare_underscore _))).trans ih
      · rw [hlower, bare_append_of_not_mem himage, bare_cons hc]
        simp [hmaps.ne_nil]

/-- The capitals of a text are those of its small letters, as far as identifiers are concerned. -/
theorem isIdentifierForm_upper_bare_lowerFrom (afterCased : Bool) (s : List Char) :
    isIdentifierForm (upper (bare (lowerFrom afterCased s))) = isIdentifierForm (upper (bare s)) := by
  induction s generalizing afterCased with
  | nil => rfl
  | cons c cs ih =>
      obtain ⟨image, next, hlower, hmaps, ⟨rfl, rfl⟩ | ⟨hc, himage⟩⟩ :=
        exists_lowerFrom_cons afterCased c cs
      · rw [hlower, bare_underscore]
        exact (congrArg (fun s => isIdentifierForm (upper s)) (bare_underscore _)).trans (ih _)
      · -- the image of the first character opens the text that is left
        have hupper : upper (image ++ bare (lowerFrom next cs)) =
            upper image ++ upper (bare (lowerFrom next cs)) := List.flatMap_append
        have hne : upper image ≠ [] := by
          cases image with
          | nil => exact absurd rfl hmaps.ne_nil
          | cons d image => simp [upper, upperChar_ne_nil]
        rw [hlower, bare_append_of_not_mem himage, hupper, isIdentifierForm_append hne,
          hmaps.isIdentifierForm_upper, all_isIdentifierContinue_upper, all_isIdentifierContinue_bare,
          all_isIdentifierContinue_lowerFrom, bare_cons hc, isIdentifierForm_upper_cons,
          all_isIdentifierContinue_bare]

/-- The Pascal form of a name, character by character. -/
def pascalChars (name : List Char) : List Char :=
  capitalizeWords true (snakeChars name)

/-- **The Pascal form of a name is an identifier exactly if the bare name is one in capitals.** -/
theorem isIdentifierForm_pascalChars (name : List Char) :
    isIdentifierForm (pascalChars name) = isIdentifierForm (upper (bare name)) := by
  unfold pascalChars snakeChars lower
  rw [isIdentifierForm_capitalizeWords, isIdentifierForm_upper_bare_lowerFrom, bare_separateWords]

theorem pascalChars_eq_nil_iff {name : List Char} : pascalChars name = [] ↔ bare name = [] := by
  unfold pascalChars snakeChars lower
  rw [capitalizeWords_eq_nil_iff, bare_lowerFrom_eq_nil_iff, bare_separateWords]

/-! ### The names of a statement -/

namespace Names

variable {name : String}

theorem isIdentifierForm_function (name : String) :
    isIdentifierForm (ofName name).function.toList = isIdentifierForm name.toList := by
  have hfunction : (ofName name).function.toList = snakeChars name.toList := String.toList_ofList
  rw [hfunction, isIdentifierForm_snakeChars]

theorem isIdentifierForm_factory (h : isIdentifierForm name.toList = true) :
    isIdentifierForm (ofName name).factory.toList = true := by
  have hlead : isIdentifierForm "prepare_".toList = true := by decide
  have hrest : (ofName name).function.toList.all isIdentifierContinue = true :=
    all_isIdentifierContinue_of_isIdentifierForm ((isIdentifierForm_function name).trans h)
  rw [toList_factory, isIdentifierForm_append (by decide), hlead, hrest]
  rfl

theorem isIdentifierForm_constant (h : isIdentifierForm name.toList = true) :
    isIdentifierForm (ofName name).constant.toList = true := by
  have hconstant : (ofName name).constant.toList = upper (snakeChars name.toList) ++ "_SQL".toList := by
    simp [ofName, upperCase, snakeCase, String.toList_append]
  have hupper : isIdentifierForm (upper (snakeChars name.toList)) = true :=
    isIdentifierForm_upper ((isIdentifierForm_snakeChars _).trans h)
  have hne : upper (snakeChars name.toList) ≠ [] := by
    intro hnil
    rw [hnil] at hupper
    cases hupper
  have hend : "_SQL".toList.all isIdentifierContinue = true := by decide
  rw [hconstant, isIdentifierForm_append hne, hupper, hend]
  rfl

/-- A record type of a statement has an identifier for its name exactly if the bare name is one in
capitals, or there is no bare name. -/
theorem isIdentifierForm_pascalCase_append {ending : String}
    (hending : isIdentifierForm ending.toList = true) :
    isIdentifierForm (pascalCase name ++ ending).toList = true ↔
      bare name.toList = [] ∨ isIdentifierForm (upper (bare name.toList)) = true := by
  have hpascal : (pascalCase name ++ ending).toList = pascalChars name.toList ++ ending.toList := by
    simp [pascalCase, pascalChars, String.toList_append]
  rw [hpascal]
  by_cases hbare : bare name.toList = []
  · rw [pascalChars_eq_nil_iff.2 hbare, List.nil_append]
    exact iff_of_true hending (.inl hbare)
  · rw [isIdentifierForm_append (mt pascalChars_eq_nil_iff.1 hbare), isIdentifierForm_pascalChars,
      all_isIdentifierContinue_of_isIdentifierForm hending, Bool.and_true, or_iff_right hbare]

end Names

theorem Table.isIdentifierForm_typeName (t : Table) :
    isIdentifierForm t.typeName.toList = isIdentifierForm (upper (bare t.name.toList)) := by
  have htype : t.typeName.toList = pascalChars t.name.toList := String.toList_ofList
  rw [htype, isIdentifierForm_pascalChars]

/-! ### The names of a module -/

namespace Module

variable {d : Dialect} {header : String} {tables : Tables} {contracts : List Contract}
  {conventions : List (Except EmitError Convention)} {m : Module}

theorem isIdentifier_of_mem_binds {n : String} (h : n ∈ d.binds) : isIdentifier n = true := by
  revert n
  cases d <;> decide +kernel

/-- What a module can bind is no keyword, and so it is an identifier if it has the form of one. -/
theorem isIdentifier_eq (h : build d header tables conventions contracts = .ok m) {n : String}
    (hn : n ∈ d.binds ++ names tables contracts) : isIdentifier n = isIdentifierForm n.toList := by
  rcases List.mem_append.1 hn with hbinds | hname
  · have hidentifier := isIdentifier_of_mem_binds hbinds
    have hform := hidentifier
    simp only [isIdentifier, Bool.and_eq_true] at hform
    rw [hidentifier, hform.1]
  · obtain ⟨⟨ns, hns⟩, -⟩ := exists_of_build h
    obtain ⟨hkeyword, -⟩ := (holds_namespaceOf hns).free n hname
    rw [isIdentifier, hkeyword, Bool.not_false, Bool.and_true]

/-- The accessors and the constant of a statement have identifiers for their names. -/
theorem isIdentifier_of_accessor (h : build d header tables conventions contracts = .ok m)
    {c : Contract} (hc : c ∈ contracts) (hname : isIdentifier c.name = true) {n : String}
    (hn : n ∈ [c.names.function, c.names.factory, c.names.constant]) : isIdentifier n = true := by
  have hmade : n ∈ c.names.toList := by
    simp only [List.mem_cons, List.not_mem_nil, or_false] at hn
    rcases hn with rfl | rfl | rfl <;> simp [Names.toList]
  rw [isIdentifier_eq h (List.mem_append_right _ (List.mem_append_right _
    (List.mem_flatMap.2 ⟨c, hc, hmade⟩)))]
  simp only [isIdentifier, Bool.and_eq_true] at hname
  simp only [List.mem_cons, List.not_mem_nil, or_false] at hn
  rcases hn with rfl | rfl | rfl
  · exact (Names.isIdentifierForm_function c.name).trans hname.1
  · exact Names.isIdentifierForm_factory hname.1
  · exact Names.isIdentifierForm_constant hname.1

/-- The record types of a statement have the form of identifiers exactly if its name has it in
capitals without its underscores, or holds nothing but underscores. -/
theorem isIdentifierForm_shapes_iff (c : Contract) (tables : Tables) :
    (∀ n ∈ (c.shapes tables).flatMap Part.defines, isIdentifierForm n.toList = true) ↔
      (c.parameters ≠ [] ∨ c.returns ≠ [] →
        bare c.name.toList = [] ∨ isIdentifierForm (upper (bare c.name.toList)) = true) := by
  have hparams : isIdentifierForm c.names.params.toList = true ↔
      bare c.name.toList = [] ∨ isIdentifierForm (upper (bare c.name.toList)) = true :=
    Names.isIdentifierForm_pascalCase_append (by decide)
  have hrow : isIdentifierForm c.names.row.toList = true ↔
      bare c.name.toList = [] ∨ isIdentifierForm (upper (bare c.name.toList)) = true :=
    Names.isIdentifierForm_pascalCase_append (by decide)
  rw [flatMap_defines_shapes]
  constructor
  · rintro hall (hparameters | hreturns)
    · exact hparams.1 (hall c.names.params (by simp [hparameters]))
    · exact hrow.1 (hall c.names.row (by simp [hreturns]))
  · intro h n hn
    rcases List.mem_append.1 hn with hn | hn
    · split_ifs at hn with hempty
      · simp at hn
      · obtain rfl := List.mem_singleton.1 hn
        exact hparams.2 (h (.inl (by simpa using hempty)))
    · split_ifs at hn with hempty
      · simp at hn
      · obtain rfl := List.mem_singleton.1 hn
        exact hrow.2 (h (.inr (by simpa using hempty)))

/-- **When a module binds nothing but identifiers.**  Where a module is written of statements that have
identifiers for their names, the accessors and the constants have identifiers for theirs.  All that the
module binds are identifiers exactly if the name of each table is one when it is put in capitals without
its underscores, and so is the name of each statement that has a record type, unless it holds nothing
but underscores. -/
theorem isIdentifier_iff (h : build d header tables conventions contracts = .ok m)
    (hnames : ∀ c ∈ contracts, isIdentifier c.name = true) :
    (∀ c ∈ contracts, ∀ n ∈ [c.names.function, c.names.factory, c.names.constant],
      isIdentifier n = true) ∧
    ((∀ n ∈ m.parts.flatMap Part.defines, isIdentifier n = true) ↔
      (∀ e ∈ tables, isIdentifierForm (upper (bare e.2.name.toList)) = true) ∧
        ∀ c ∈ contracts, c.parameters ≠ [] ∨ c.returns ≠ [] →
          bare c.name.toList = [] ∨ isIdentifierForm (upper (bare c.name.toList)) = true) := by
  have haccessors : ∀ c ∈ contracts, ∀ n ∈ [c.names.function, c.names.factory, c.names.constant],
      isIdentifier n = true := fun c hc n hn => isIdentifier_of_accessor h hc (hnames c hc) hn
  refine ⟨haccessors, ?_⟩
  constructor
  · intro hall
    have hform : ∀ n ∈ m.parts.flatMap Part.defines, isIdentifierForm n.toList = true := by
      intro n hn
      rw [← isIdentifier_eq h (defines_subset h hn)]
      exact hall n hn
    refine ⟨fun e he => ?_, fun c hc => (isIdentifierForm_shapes_iff c tables).1 fun n hn => ?_⟩
    · rw [← e.2.isIdentifierForm_typeName]
      exact hform _ (List.mem_flatMap.2 ⟨_, part_mem_parts h he, List.mem_singleton.2 rfl⟩)
    · obtain ⟨p, hp, hn⟩ := List.mem_flatMap.1 hn
      exact hform n (List.mem_flatMap.2 ⟨p, shapes_subset_parts h hc hp, hn⟩)
  · rintro ⟨htables, hcontracts⟩ n hn
    have heq := isIdentifier_eq h (defines_subset h hn)
    obtain ⟨p, hp, hn⟩ := List.mem_flatMap.1 hn
    rcases cases_of_mem_parts h hp with hfixed | hconstants | ⟨e, he, rfl⟩ | ⟨c, hc, hshapes | haccessor⟩
    · exact isIdentifier_of_mem_binds (hfixed hn)
    · obtain ⟨c, hc, rfl⟩ := List.mem_map.1 (hconstants hn)
      exact haccessors c hc _ (by simp)
    · obtain rfl := List.mem_singleton.1 hn
      rw [heq, e.2.isIdentifierForm_typeName]
      exact htables e he
    · rw [heq]
      exact (isIdentifierForm_shapes_iff c tables).2 (hcontracts c hc) n
        (List.mem_flatMap.2 ⟨p, hshapes, hn⟩)
    · refine haccessors c hc n ?_
      have hmem := haccessor hn
      simp only [List.mem_cons, List.not_mem_nil, or_false] at hmem
      rcases hmem with rfl | rfl <;> simp

/-- A statement whose name opens with an underscore and a table whose name has capitals inside. -/
theorem isIdentifier_iff_mixed :
    let tables : Tables := [("userdata", ⟨"userData", [⟨"id", "INTEGER", false⟩]⟩)]
    let contracts : List Contract :=
      [⟨"_getUser", .one, [⟨"id", .number⟩], [⟨"id", .number, false⟩],
        "SELECT id FROM userData WHERE id = ?", none, some "userData"⟩]
    ∃ m, build .remoteAsync "" tables [.ok .prepared] contracts = .ok m ∧
      m.parts.flatMap Part.defines = ["annotations", "Awaitable", "Callable", "Any", "TypedDict",
        "AsyncConnection", "dict_row", "_GET_USER_SQL", "UserData", "GetUserParams", "GetUserRow",
        "prepare__get_user"] ∧
      ∀ n ∈ m.parts.flatMap Part.defines, isIdentifier n = true := by
  intro tables contracts
  obtain ⟨m, hm, hdefines⟩ := exists_ok_of_map_toOption
    (f := fun m : Module => m.parts.flatMap Part.defines)
    (b := ["annotations", "Awaitable", "Callable", "Any", "TypedDict", "AsyncConnection", "dict_row",
      "_GET_USER_SQL", "UserData", "GetUserParams", "GetUserRow", "prepare__get_user"])
    (x := build .remoteAsync "" tables [.ok .prepared] contracts) (by decide +kernel)
  obtain ⟨-, hiff⟩ := isIdentifier_iff hm (by decide +kernel)
  exact ⟨m, hm, hdefines, hiff.2 ⟨by decide +kernel, by decide +kernel⟩⟩

/-- Of a table whose name holds a blank, and of a statement whose name has a digit behind an underscore,
a module is written all the same, and it binds names that are no identifiers. -/
theorem not_isIdentifier_blank :
    let tables : Tables := [("my table", ⟨"my table", [⟨"id", "INTEGER", false⟩]⟩)]
    let contracts : List Contract := [⟨"_1", .one, [⟨"id", .number⟩], [], "SELECT ?", none, none⟩]
    (∀ c ∈ contracts, isIdentifier c.name = true) ∧
      ∃ m, build .remoteAsync "" tables [.ok .oneShot] contracts = .ok m ∧
        ["My table", "1Params"] ⊆ m.parts.flatMap Part.defines ∧
        isIdentifier "My table" = false ∧ isIdentifier "1Params" = false := by
  intro tables contracts
  obtain ⟨m, hm, hdefines⟩ := exists_ok_of_map_toOption
    (f := fun m : Module => decide (["My table", "1Params"] ⊆ m.parts.flatMap Part.defines))
    (b := true) (x := build .remoteAsync "" tables [.ok .oneShot] contracts)
    (by decide +kernel)
  exact ⟨by decide +kernel, m, hm, of_decide_eq_true hdefines, by decide +kernel, by decide +kernel⟩

end Module

end SqlContract
