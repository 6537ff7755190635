/-
The text of an accessor, piece by piece.

The text of an accessor is put together from code that is the same in every module, from the name
that it binds, from a few values, and from references: record types in its annotations, and the
constant of its statement in its body.

Main definitions:

* `Fragment`, `Accessor.fragments` — the text of an accessor, line by line, with its references;
* `Accessor.bound` — the name that an accessor binds;
* `Accessor.types`, `Accessor.constants` — the record types and the constants that it refers to.

Main results:

* `Accessor.lines_eq_spell` — **the fragments are the text of the accessor**;
* `Accessor.fits_fragments` — **what the fragments of an accessor are**.
-/

import SqlContract.Emit.Accessor
import Mathlib

set_option autoImplicit false
set_option relaxedAutoImplicit false

namespace SqlContract

/-! ### The text of an accessor -/

/-- A piece of the text of an accessor. -/
inductive Fragment
  /-- Code that does not depend on the statement. -/
  | code (text : String)
  /-- The name that the accessor binds. -/
  | binder (name : String)
  /-- A record type in an annotation. -/
  | recordType (name : String)
  /-- An SQL constant. -/
  | constant (name : String)
  /-- The tuple of the values of some parameters. -/
  | values (parameters : List Parameter)
  /-- A number of parameters. -/
  | arity (n : Nat)
  deriving DecidableEq, Repr

namespace Fragment

/-- The spelling of a fragment. -/
@[simp] def text : Fragment → String
  | code s | binder s | recordType s | constant s => s
  | values parameters => argumentTuple parameters
  | arity n => toString n

/-- The record type that a fragment refers to. -/
def type? : Fragment → Option String
  | recordType name => some name
  | _ => none

/-- The SQL constant that a fragment refers to. -/
def constant? : Fragment → Option String
  | constant name => some name
  | _ => none

/-- The text that some fragments spell. -/
def spell (fs : List Fragment) : String :=
  fs.foldr (fun f s => f.text ++ s) ""

@[simp] theorem spell_nil : spell [] = "" := rfl

@[simp] theorem spell_cons (f : Fragment) (fs : List Fragment) :
    spell (f :: fs) = f.text ++ spell fs := rfl

@[simp] theorem spell_append (fs gs : List Fragment) : spell (fs ++ gs) = spell fs ++ spell gs := by
  induction fs with
  | nil => simp
  | cons f fs ih => simp [ih, String.append_assoc]

/-- Some lines of fragments behind the blanks of a level. -/
def indent (level : Nat) (lines : List (List Fragment)) : List (List Fragment) :=
  lines.map (code (String.ofList (List.replicate (4 * level) ' ')) :: ·)

/-- Lines that are not empty are indented alike. -/
theorem indent_map_spell {level : Nat} {lines : List (List Fragment)}
    (h : ∀ l ∈ lines, spell l ≠ "") :
    SqlContract.indent level (lines.map spell) = (indent level lines).map spell := by
  unfold SqlContract.indent indent
  rw [List.map_map, List.map_map]
  refine List.map_congr_left fun l hl => ?_
  have hne : ¬ spell l = "" := h l hl
  simp [hne]

end Fragment

open Fragment

/-- The type of a row, in fragments. -/
def Contract.rowFragment (c : Contract) : Fragment :=
  if c.returns.isEmpty then code untypedRow else recordType c.names.row

/-- The type of what an accessor returns, in fragments. -/
def Contract.resultFragments (c : Contract) : List Fragment :=
  match c.cardinality with
  | .exec => [code "None"]
  | .one => [c.rowFragment, code " | None"]
  | .many => [code "list[", c.rowFragment, code "]"]

theorem Contract.spell_resultFragments (c : Contract) : spell c.resultFragments = c.resultType := by
  unfold Contract.resultFragments Contract.resultType Contract.rowType Contract.rowFragment
  cases c.cardinality <;> cases c.returns.isEmpty <;> simp [String.append_assoc]

namespace Accessor

/-- The lines that run the statement, in fragments. -/
def bodyFragments (a : Accessor) : List (List Fragment) :=
  let constant := Fragment.constant a.contract.names.constant
  match a.dialect with
  | .localSync =>
      let call := if a.arguments.isEmpty then [constant]
        else [constant, code ", ", values a.arguments]
      if a.contract.cardinality = .exec then [code "db.execute(" :: (call ++ [code ")"])]
      else
        [[code "with closing(db.cursor()) as cur:"], [code "    cur.row_factory = _dict_row"],
         code "    cur.execute(" :: (call ++ [code ")"]),
         [code "    return cur.", code a.fetch, code "()"]]
  | .remoteAsync =>
      let args := [code "args = ", values a.arguments]
      let call := [constant, code ", args"] ++
        if a.convention = .prepared then [code ", prepare=True"] else []
      if a.contract.cardinality = .exec then
        [args, code "await db.execute(" :: (call ++ [code ")"])]
      else
        [args, [code "async with db.cursor(row_factory=dict_row) as cur:"],
         code "    await cur.execute(" :: (call ++ [code ")"]),
         [code "    return await cur.", code a.fetch, code "()"]]

/-- The lines of a factory that check the statement, in fragments. -/
def setupFragments (a : Accessor) : List (List Fragment) :=
  match a.dialect with
  | .localSync =>
      [[code "_compile(db, ", constant a.contract.names.constant, code ", ",
        arity a.contract.parameters.length, code ")"]]
  | .remoteAsync => []

/-- The parameter list without the connection, in fragments. -/
def signatureFragments (a : Accessor) : List Fragment :=
  if a.contract.parameters.isEmpty then []
  else [code "params: ", recordType a.contract.names.params]

/-- The line that opens an accessor which takes the connection on every call, in fragments. -/
def functionFragments (a : Accessor) : List Fragment :=
  [code a.definition, binder a.contract.names.function, code "(", code "db: ",
    code a.dialect.handle] ++
    (if a.contract.parameters.isEmpty then [] else code ", " :: a.signatureFragments) ++
    code ") -> " :: (a.contract.resultFragments ++ [code ":"])

/-- The line that opens a factory, in fragments. -/
def factoryFragments (a : Accessor) : List Fragment :=
  let result := a.contract.resultFragments
  [code "def ", binder a.contract.names.factory, code "(", code "db: ", code a.dialect.handle,
    code ") -> Callable[["] ++
    (if a.contract.parameters.isEmpty then [] else [recordType a.contract.names.params]) ++
    code "], " ::
      ((if a.dialect.isAsync then code "Awaitable[" :: (result ++ [code "]"]) else result) ++
        [code "]:"])

/-- The line that opens the function which a factory returns, in fragments. -/
def runFragments (a : Accessor) : List Fragment :=
  [code a.definition, code "run("] ++ a.signatureFragments ++
    code ") -> " :: (a.contract.resultFragments ++ [code ":"])

/-- The lines of an accessor, in fragments. -/
def fragments (a : Accessor) : List (List Fragment) :=
  match a.convention with
  | .oneShot => a.functionFragments :: Fragment.indent 1 a.bodyFragments
  | .prepared =>
      a.factoryFragments :: (Fragment.indent 1 a.setupFragments ++
        Fragment.indent 1 [a.runFragments] ++ Fragment.indent 2 a.bodyFragments ++
        [[], [code "    return run"]])

/-- The code that accessors are made of beside what depends on their statements. -/
def fixedCode : List String :=
  ["    ", "        ", "def ", "async def ", "(", "db: ", "sqlite3.Connection",
   "AsyncConnection[Any]", ", ", "params: ", ") -> ", ":", ") -> Callable[[", "], ", "Awaitable[",
   "]", "]:", "run(", "    return run", "None", " | None", "list[", "dict[str, Any]", "db.execute(",
   ")", "with closing(db.cursor()) as cur:", "    cur.row_factory = _dict_row", "    cur.execute(",
   "    return cur.", "fetchone", "fetchall", "()", "args = ", ", args", ", prepare=True",
   "await db.execute(", "async with db.cursor(row_factory=dict_row) as cur:",
   "    await cur.execute(", "    return await cur.", "_compile(db, "]

/-- The name that an accessor binds. -/
def bound (a : Accessor) : String :=
  match a.convention with
  | .oneShot => a.contract.names.function
  | .prepared => a.contract.names.factory

/-- The record types that an accessor refers to. -/
def types (a : Accessor) : List String :=
  a.fragments.flatten.filterMap Fragment.type?

/-- The SQL constants that an accessor refers to. -/
def constants (a : Accessor) : List String :=
  a.fragments.flatten.filterMap Fragment.constant?

variable {a : Accessor}

theorem map_spell_bodyFragments (a : Accessor) : a.bodyFragments.map spell = a.body := by
  unfold bodyFragments body
  cases a.dialect with
  | localSync =>
      cases a.arguments.isEmpty <;> by_cases hexec : a.contract.cardinality = .exec <;>
        simp [hexec, String.append_assoc]
  | remoteAsync =>
      by_cases hprepared : a.convention = .prepared <;>
        by_cases hexec : a.contract.cardinality = .exec <;>
          simp [hprepared, hexec, String.append_assoc]

theorem map_spell_setupFragments (a : Accessor) : a.setupFragments.map spell = a.setup := by
  unfold setupFragments setup
  cases a.dialect <;> simp [toString, String.append_assoc]

theorem spell_signatureFragments (a : Accessor) : spell a.signatureFragments = a.signature := by
  unfold signatureFragments signature
  split_ifs <;> simp

theorem spell_ne_of_mem_bodyFragments {l : List Fragment} (h : l ∈ a.bodyFragments) :
    spell l ≠ "" := by
  unfold bodyFragments at h
  cases hd : a.dialect with
  | localSync =>
      by_cases hexec : a.contract.cardinality = .exec
      · simp only [hd, hexec, if_true, List.mem_singleton] at h
        simp [h]
      · simp only [hd, hexec, if_false, List.mem_cons, List.not_mem_nil, or_false] at h
        rcases h with rfl | rfl | rfl | rfl <;> simp
  | remoteAsync =>
      by_cases hexec : a.contract.cardinality = .exec
      · simp only [hd, hexec, if_true, List.mem_cons, List.not_mem_nil, or_false] at h
        rcases h with rfl | rfl <;> simp
      · simp only [hd, hexec, if_false, List.mem_cons, List.not_mem_nil, or_false] at h
        rcases h with rfl | rfl | rfl | rfl <;> simp

theorem spell_ne_of_mem_setupFragments {l : List Fragment} (h : l ∈ a.setupFragments) :
    spell l ≠ "" := by
  unfold setupFragments at h
  cases hd : a.dialect with
  | localSync =>
      simp only [hd, List.mem_singleton] at h
      simp [h]
  | remoteAsync => simp [hd] at h

theorem spell_functionFragments (a : Accessor) : spell a.functionFragments =
    a.definition ++ a.contract.names.function ++ "(" ++ ("db: " ++ a.dialect.handle) ++
      (if a.signature.isEmpty then "" else ", " ++ a.signature) ++ ") -> " ++
      a.contract.resultType ++ ":" := by
  unfold functionFragments signatureFragments signature
  cases a.contract.parameters.isEmpty <;>
    simp [Contract.spell_resultFragments, String.append_assoc]

theorem spell_runFragments (a : Accessor) : spell a.runFragments =
    a.definition ++ "run(" ++ a.signature ++ ") -> " ++ a.contract.resultType ++ ":" := by
  simp [runFragments, spell_signatureFragments, Contract.spell_resultFragments, String.append_assoc]

theorem spell_factoryFragments (a : Accessor) : spell a.factoryFragments =
    "def " ++ a.contract.names.factory ++ "(" ++ ("db: " ++ a.dialect.handle) ++ ") -> Callable[[" ++
      (if a.contract.parameters.isEmpty then "" else a.contract.names.params) ++ "], " ++
      (if a.dialect.isAsync then "Awaitable[" ++ a.contract.resultType ++ "]"
        else a.contract.resultType) ++ "]:" := by
  -- the literals of both sides are cut alike, and are not to be put together
  unfold factoryFragments
  cases a.contract.parameters.isEmpty <;> cases a.dialect.isAsync <;>
    simp [Contract.spell_resultFragments, String.append_assoc, -String.reduceAppend]

/-- **The fragments are the text of the accessor.** -/
theorem lines_eq_spell (a : Accessor) : a.lines = a.fragments.map spell := by
  have hbody : ∀ level, indent level a.body = (Fragment.indent level a.bodyFragments).map spell := by
    intro level
    rw [← map_spell_bodyFragments]
    exact indent_map_spell fun l => spell_ne_of_mem_bodyFragments
  have hsetup : indent 1 a.setup = (Fragment.indent 1 a.setupFragments).map spell := by
    rw [← map_spell_setupFragments]
    exact indent_map_spell fun l => spell_ne_of_mem_setupFragments
  have hrun : indent 1 [spell a.runFragments] =
      (Fragment.indent 1 [a.runFragments]).map spell := by
    have hne : ∀ l ∈ [a.runFragments], spell l ≠ "" := by
      intro l hl
      rw [List.mem_singleton.1 hl, spell_runFragments]
      simp
    exact indent_map_spell hne
  unfold lines fragments
  cases a.convention with
  | oneShot => simp only [List.map_cons, spell_functionFragments, hbody]
  | prepared =>
      rw [spell_runFragments] at hrun
      simp only [List.map_cons, List.map_append, spell_factoryFragments, hsetup, hrun, hbody]
      simp

/-- What a fragment of an accessor may be: code that all accessors have, the name that this one
binds, and what it takes from its statement. -/
def Fits (a : Accessor) : Fragment → Prop
  | .code text => text ∈ fixedCode
  | .binder name => name = a.bound
  | .recordType name =>
      name = a.contract.names.params ∧ a.contract.parameters ≠ [] ∨
        name = a.contract.names.row ∧ a.contract.returns ≠ []
  | .constant name => name = a.contract.names.constant
  | .values parameters => parameters = a.arguments
  | .arity n => n = a.contract.parameters.length

@[simp] theorem fits_code {text : String} : a.Fits (.code text) ↔ text ∈ fixedCode := Iff.rfl

@[simp] theorem fits_constant {name : String} :
    a.Fits (.constant name) ↔ name = a.contract.names.constant := Iff.rfl

@[simp] theorem fits_values {parameters : List Parameter} :
    a.Fits (.values parameters) ↔ parameters = a.arguments := Iff.rfl

@[simp] theorem fits_arity {n : Nat} :
    a.Fits (.arity n) ↔ n = a.contract.parameters.length := Iff.rfl

theorem fits_bodyFragments (a : Accessor) : ∀ l ∈ a.bodyFragments, ∀ f ∈ l, a.Fits f := by
  have hfetch : a.Fits (.code a.fetch) := by
    unfold fetch
    split_ifs <;> simp [fixedCode]
  unfold bodyFragments
  cases a.dialect with
  | localSync =>
      cases a.arguments.isEmpty <;> by_cases hexec : a.contract.cardinality = .exec <;>
        simp [hexec, fits_code.1 hfetch] <;> simp [fixedCode]
  | remoteAsync =>
      by_cases hprepared : a.convention = .prepared <;>
        by_cases hexec : a.contract.cardinality = .exec <;>
          simp [hprepared, hexec, fits_code.1 hfetch] <;> simp [fixedCode]

theorem fits_resultFragments (a : Accessor) : ∀ f ∈ a.contract.resultFragments, a.Fits f := by
  have hrow : a.Fits a.contract.rowFragment := by
    unfold Contract.rowFragment
    split_ifs with hreturns
    · simp [fixedCode, untypedRow]
    · exact .inr ⟨rfl, by simpa using hreturns⟩
  unfold Contract.resultFragments
  cases a.contract.cardinality <;> simp [hrow, fixedCode]

theorem fits_signatureFragments (a : Accessor) : ∀ f ∈ a.signatureFragments, a.Fits f := by
  unfold signatureFragments
  split_ifs with hparameters
  · simp
  · have hparams : a.Fits (.recordType a.contract.names.params) :=
      .inl ⟨rfl, by simpa using hparameters⟩
    simp [hparams, fixedCode]

theorem fits_setupFragments (a : Accessor) : ∀ l ∈ a.setupFragments, ∀ f ∈ l, a.Fits f := by
  unfold setupFragments
  cases a.dialect <;> simp [fixedCode]

theorem fits_indent {level : Nat} {lines : List (List Fragment)} (hlevel : level = 1 ∨ level = 2)
    (h : ∀ l ∈ lines, ∀ f ∈ l, a.Fits f) : ∀ l ∈ Fragment.indent level lines, ∀ f ∈ l, a.Fits f := by
  intro l hl f hf
  obtain ⟨l', hl', rfl⟩ := List.mem_map.1 hl
  rcases List.mem_cons.1 hf with rfl | hf
  · rcases hlevel with rfl | rfl <;> exact fits_code.2 (by decide)
  · exact h l' hl' f hf

theorem fits_functionFragments (h : a.convention = .oneShot) :
    ∀ f ∈ a.functionFragments, a.Fits f := by
  have hname : a.Fits (.binder a.contract.names.function) := by
    simp [Fits, bound, h]
  unfold functionFragments definition
  cases a.dialect <;> cases a.contract.parameters.isEmpty <;>
    simp +contextual [Dialect.isAsync, Dialect.handle, hname, fits_signatureFragments,
      fits_resultFragments, or_imp, fixedCode]

theorem fits_factoryFragments (h : a.convention = .prepared) :
    ∀ f ∈ a.factoryFragments, a.Fits f := by
  have hname : a.Fits (.binder a.contract.names.factory) := by
    simp [Fits, bound, h]
  have hparams : a.contract.parameters ≠ [] → a.Fits (.recordType a.contract.names.params) :=
    fun hne => .inl ⟨rfl, hne⟩
  unfold factoryFragments
  cases a.dialect <;>
    simp +contextual [Dialect.isAsync, Dialect.handle, hname, hparams, fits_resultFragments, or_imp,
      fixedCode]

theorem fits_runFragments (a : Accessor) : ∀ f ∈ a.runFragments, a.Fits f := by
  unfold runFragments definition
  cases a.dialect <;>
    simp +contextual [Dialect.isAsync, fits_signatureFragments, fits_resultFragments, or_imp,
      fixedCode]

/-- **Every fragment of an accessor** is code that all accessors have, the name that it binds, or
taken from its statement. -/
theorem fits_fragments (a : Accessor) : ∀ l ∈ a.fragments, ∀ f ∈ l, a.Fits f := by
  unfold fragments
  cases hconvention : a.convention with
  | oneShot =>
      exact List.forall_mem_cons.2
        ⟨fits_functionFragments hconvention, fits_indent (.inl rfl) a.fits_bodyFragments⟩
  | prepared =>
      refine List.forall_mem_cons.2 ⟨fits_factoryFragments hconvention, ?_⟩
      simp only [List.forall_mem_append]
      refine ⟨⟨⟨?setup, ?run⟩, ?body⟩, ?last⟩
      case setup => exact fits_indent (.inl rfl) a.fits_setupFragments
      case run => exact fits_indent (.inl rfl) (List.forall_mem_singleton.2 a.fits_runFragments)
      case body => exact fits_indent (.inr rfl) a.fits_bodyFragments
      case last => simp [fixedCode]

theorem type_cases {n : String} (h : n ∈ a.types) :
    n = a.contract.names.params ∧ a.contract.parameters ≠ [] ∨
      n = a.contract.names.row ∧ a.contract.returns ≠ [] := by
  obtain ⟨f, hf, htype⟩ := List.mem_filterMap.1 h
  obtain ⟨l, hl, hf⟩ := List.mem_flatten.1 hf
  have hfits := a.fits_fragments l hl f hf
  cases f with
  | recordType name =>
      obtain rfl : name = n := Option.some.inj htype
      exact hfits
  | _ => cases htype

theorem eq_of_mem_constants {n : String} (h : n ∈ a.constants) : n = a.contract.names.constant := by
  obtain ⟨f, hf, hconstant⟩ := List.mem_filterMap.1 h
  obtain ⟨l, hl, hf⟩ := List.mem_flatten.1 hf
  have hfits := a.fits_fragments l hl f hf
  cases f with
  | constant name =>
      obtain rfl : name = n := Option.some.inj hconstant
      exact hfits
  | _ => cases hconstant

end Accessor

end SqlContract
