/-
What the parts of a module define.

A part is made to define some names, and it defines them if its text is read so.  The texts of all
parts are read line by line: the lines of a part are closed, it starts at the margin, and so the text
of a module defines what its parts define, one after the other.

Main definitions:

* `Part.definitions`, `Part.defines` — what a part is to define, and the names;
* `Part.lines` — the lines of a part;
* `Part.Readable` — the names of a part are identifiers, its comment is one, and its SQL can stand in
  a literal.

Main results:

* `Part.text_append_lineFeed` — the text of a part is its lines;
* `Part.closed_lines` — the lines of a readable part are closed;
* `Part.definitions_lines` — **a part defines what it is to define**;
* `Module.read_text` — **the text of a module defines what its parts define**, in their order.
-/

import SqlContract.Emit.Module
import SqlContract.Proofs.Emit.Fragments
import SqlContract.Proofs.Emit.TopLevel
import SqlContract.Proofs.Remote.Format

set_option autoImplicit false
set_option relaxedAutoImplicit false

namespace SqlContract

open Text TopLevel

/-! ### What parts are to define -/

/-- The call that makes a record type whose fields are not all called as attributes are. -/
def recordCall (name : String) (fields : List (String × String)) : String :=
  "TypedDict(" ++ quoted name ++ ", \x7b" ++
    ", ".intercalate (fields.map fun f => quoted f.1 ++ ": " ++ quoted f.2) ++ "\x7d)"

/-- What the definition of a record type gives to its name. -/
def recordMeaning (name : String) (fields : List (String × String)) : Meaning :=
  if fields.all fun f => isIdentifier f.1 then .record fields
  else .expression (recordCall name fields)

/-- The names that the imports of a module bind. -/
def Dialect.imported : Dialect → List String
  | .localSync => ["annotations", "sqlite3", "Callable", "closing", "Any", "TypedDict"]
  | .remoteAsync =>
      ["annotations", "Awaitable", "Callable", "Any", "TypedDict", "AsyncConnection", "dict_row"]

/-- The names of the functions that the accessors share. -/
def Dialect.shared : Dialect → List String
  | .localSync => ["_dict_row", "_compile"]
  | .remoteAsync => []

/-- The form that an engine takes holds no character that would not stand in a literal. -/
theorem Dialect.not_mem_engineSql (d : Dialect) {sql : String} {c : Char} (h : c ∉ sql.toList)
    (hpercent : c ≠ '%') (hs : c ≠ 's') : c ∉ (d.engineSql sql).toList := by
  cases d with
  | localSync => exact h
  | remoteAsync =>
      rw [engineSql, String.toList_ofList]
      intro hm
      rcases Sql.mem_pyformat hm with hm | he | he
      · exact h hm
      · exact hpercent he
      · exact hs he

namespace Part

/-- What a part is to define. -/
def definitions : Part → List Definition
  | .opening _ d => d.imported.map (·, .imported)
  | .helpers d => d.shared.map (·, .function)
  | .constants cs => cs.map fun c => (c.1, .text c.2)
  | .record name fields => [(name, recordMeaning name fields)]
  | .synonym name target => [(name, .alias target)]
  | .accessor a => [(a.bound, .function)]

/-- The names that a part is to define. -/
def defines (p : Part) : List String :=
  p.definitions.map (·.1)

@[simp] theorem defines_opening (header : String) (d : Dialect) :
    (Part.opening header d).defines = d.imported := by
  simp [defines, definitions, Function.comp_def]

@[simp] theorem defines_helpers (d : Dialect) : (Part.helpers d).defines = d.shared := by
  simp [defines, definitions, Function.comp_def]

@[simp] theorem defines_constants (cs : List (String × String)) :
    (Part.constants cs).defines = cs.map (·.1) := by
  simp [defines, definitions, Function.comp_def]

/-- The lines of a part. -/
def lines : Part → List (List Char)
  | .opening header d =>
      header.toList.splitOn '\n' ++
        ("from __future__ import annotations" :: "" :: d.imports).map String.toList
  | .helpers d => d.helpers.toList.splitOn '\n'
  | .constants cs => (cs.map fun c => (constantDefinition c.1 c.2).toList).intersperse []
  | .record name fields =>
      if fields.all fun f => isIdentifier f.1 then
        ("class " ++ name ++ "(TypedDict):").toList ::
          if fields.isEmpty then ["    pass".toList]
          else fields.map fun f => ("    " ++ f.1 ++ ": " ++ f.2).toList
      else [(name ++ " = " ++ recordCall name fields).toList]
  | .synonym name target => [(name ++ " = " ++ target).toList]
  | .accessor a => a.lines.map String.toList

/-- A header is a comment: all its lines are empty or start with the sign. -/
def IsComment (header : String) : Prop :=
  ∀ l ∈ header.toList.splitOn '\n', '\r' ∉ l ∧ l.head?.all (· == '#') = true

instance (header : String) : Decidable (IsComment header) :=
  inferInstanceAs (Decidable (∀ l ∈ header.toList.splitOn '\n', _ ∧ _))

/-- The text of a part can be read: its names are identifiers, its header is a comment, and its SQL can
stand in a literal. -/
def Readable : Part → Prop
  | .opening header _ => IsComment header
  | .helpers _ => True
  | .constants cs => cs ≠ [] ∧
      ∀ c ∈ cs, isIdentifier c.1 = true ∧ '\r' ∉ c.2.toList ∧ '\x00' ∉ c.2.toList
  | .record name fields => isIdentifier name = true ∧ ∀ f ∈ fields, OneLine f.2.toList
  | .synonym name target => isIdentifier name = true ∧ isIdentifier target = true
  | .accessor a => ∀ n ∈ a.contract.names.toList, isIdentifier n = true

/-! ### The text of a part -/

theorem intercalate_lineFeed {ls : List (List Char)} (h : ls ≠ []) :
    ['\n'].intercalate ls ++ ['\n'] = unlines ls := by
  induction ls with
  | nil => exact absurd rfl h
  | cons l ls ih =>
      cases ls with
      | nil => simp [unlines]
      | cons m ls =>
          rw [List.intercalate_cons_cons, List.append_assoc, ih (List.cons_ne_nil m ls)]
          simp [unlines]

theorem toList_intercalate_lineFeed (ls : List String) (h : ls ≠ []) :
    ("\n".intercalate ls).toList ++ ['\n'] = unlines (ls.map String.toList) := by
  rw [String.toList_intercalate]
  exact intercalate_lineFeed (by simpa using h)

theorem unlines_append (ls ms : List (List Char)) :
    unlines (ls ++ ms) = unlines ls ++ unlines ms :=
  List.flatMap_append

theorem unlines_splitOn (s : List Char) : unlines (s.splitOn '\n') = s ++ ['\n'] := by
  rw [← intercalate_lineFeed (List.splitOn_ne_nil '\n' s), List.intercalate_splitOn]

/-- Texts with an empty line between them. -/
theorem unlines_intersperse {ls : List String} (h : ls ≠ []) :
    unlines ((ls.map String.toList).intersperse []) = ("\n\n".intercalate ls).toList ++ ['\n'] := by
  induction ls with
  | nil => exact absurd rfl h
  | cons l ls ih =>
      cases ls with
      | nil => simp [unlines]
      | cons m ls =>
          have hrest := ih (List.cons_ne_nil m ls)
          simp only [List.map_cons] at hrest
          rw [List.map_cons, List.map_cons, List.intersperse_cons_cons, String.intercalate_cons_cons,
            String.toList_append, String.toList_append, List.append_assoc, List.append_assoc, ← hrest]
          simp [unlines]

/-- **The text of a part is its lines.** -/
theorem text_append_lineFeed {p : Part} (h : p.Readable) :
    p.text.toList ++ ['\n'] = unlines p.lines := by
  cases p with
  | opening header d =>
      have hlines := toList_intercalate_lineFeed
        ([header, "from __future__ import annotations", ""] ++ d.imports) (by simp)
      rw [text, hlines, lines, unlines_append, unlines_splitOn]
      simp [unlines]
  | helpers d => rw [text, lines, unlines_splitOn]
  | constants cs =>
      have hne : cs.map (fun c => constantDefinition c.1 c.2) ≠ [] := by
        simpa using h.1
      rw [text, ← unlines_intersperse hne, lines, List.map_map]
      rfl
  | record name fields =>
      rw [text, lines, recordDefinition]
      split_ifs with hall hempty
      · simp [unlines]
      · rw [String.toList_append, List.append_assoc,
          toList_intercalate_lineFeed _ (by simpa using hempty)]
        simp [unlines, List.flatMap_map]
      · simp [unlines, recordCall]
  | synonym name target => simp [text, lines, unlines]
  | accessor a =>
      have hne : a.lines ≠ [] := by
        unfold Accessor.lines
        cases a.convention <;> simp
      rw [text, Accessor.text, toList_intercalate_lineFeed _ hne]
      rfl

/-! ### The lines of a part are closed -/

section Names

variable {n : String}

theorem not_mem_of_isIdentifier {c : Char} (hc : isIdentifierContinue c = false)
    (h : isIdentifier n = true) : c ∉ n.toList := by
  intro hmem
  have hform : isIdentifierForm n.toList = true := (Bool.and_eq_true_iff.1 h).1
  have hall := List.all_eq_true.1 (all_isIdentifierContinue_of_isIdentifierForm hform) c hmem
  rw [hc] at hall
  cases hall

theorem isName_of_isIdentifier (h : isIdentifier n = true) : IsName n.toList where
  ne_nil := identifier_ne_nil h
  blank := fun _ => isBlank_of_mem_identifier h
  comment := fun he => not_mem_of_isIdentifier (by decide) h (List.mem_of_mem_head? he)

theorem oneLine_of_isIdentifier (h : isIdentifier n = true) : OneLine n.toList :=
  oneLine_of_isBlank (isName_of_isIdentifier h).blank

theorem head?_of_isIdentifier (h : isIdentifier n = true) {c : Char}
    (hc : isIdentifierContinue c = false) : n.toList.head? ≠ some c :=
  fun he => not_mem_of_isIdentifier hc h (List.mem_of_mem_head? he)

theorem not_quote_of_isIdentifier (h : isIdentifier n = true) :
    n.toList.head?.all (fun c => c ≠ '\'' ∧ c ≠ '"') = true := by
  have hsingle := head?_of_isIdentifier h (c := '\'') (by decide)
  have hdouble := head?_of_isIdentifier h (c := '"') (by decide)
  cases hhead : n.toList.head? with
  | none => rfl
  | some c =>
      rw [hhead] at hsingle hdouble
      have hne : c ≠ '\'' ∧ c ≠ '"' := ⟨fun he => hsingle (he ▸ rfl), fun he => hdouble (he ▸ rfl)⟩
      simpa using hne

theorem isKeyword_of_isIdentifier (h : isIdentifier n = true) : isKeyword n = false := by
  simpa using (Bool.and_eq_true_iff.1 h).2

end Names

theorem oneLine_hexDigits (width n : Nat) : OneLine (hexDigits width n) := by
  have hall : ∀ k < 16, isLineEnd (Nat.digitChar k) = false := by decide
  induction width generalizing n with
  | zero => rfl
  | succ width ih =>
      rw [hexDigits, oneLine_append]
      exact ⟨ih (n / 16), by simp [OneLine, hall (n % 16) (Nat.mod_lt n (by decide))]⟩

/-- A text in quotes is one line, whatever it holds. -/
theorem oneLine_quoted (s : String) : OneLine (quoted s).toList := by
  have hchar : ∀ quote : Char, isLineEnd quote = false → ∀ c, OneLine (escapeChar quote c) := by
    intro quote hquote c
    unfold escapeChar
    split_ifs with hself htab hfeed hreturn hprint
    · have hc : isLineEnd c = false := by
        rcases hself with rfl | rfl
        · exact hquote
        · decide
      simp [OneLine, hc]
      decide
    · decide
    · decide
    · decide
    · simp [OneLine, isLineEnd, hfeed, hreturn]
    · unfold hexEscape
      split_ifs <;> simp [OneLine, show isLineEnd '\\' = false by decide,
        show isLineEnd 'x' = false by decide, show isLineEnd 'u' = false by decide,
        show isLineEnd 'U' = false by decide] <;> simpa [OneLine] using oneLine_hexDigits _ c.toNat
  have hquote : isLineEnd (quoteFor s.toList) = false := by
    rcases Literal.quoteFor_eq s.toList with h | h <;> rw [h] <;> decide
  rw [quoted, String.toList_ofList, quotedChars]
  unfold OneLine at hchar ⊢
  simp [hquote, List.all_flatMap, hchar]

/-- Texts on one line are so with a separator on one line. -/
theorem oneLine_intercalate {sep : String} {ls : List String} (hsep : OneLine sep.toList)
    (h : ∀ l ∈ ls, OneLine l.toList) : OneLine (sep.intercalate ls).toList := by
  rw [String.toList_intercalate]
  refine List.all_eq_true.2 fun c hc => ?_
  rcases mem_intercalate hc with hc | ⟨l, hl, hc⟩
  · exact List.all_eq_true.1 hsep c hc
  · obtain ⟨t, ht, rfl⟩ := List.mem_map.1 hl
    exact List.all_eq_true.1 (h t ht) c hc

theorem oneLine_argumentTuple (ps : List Parameter) : OneLine (argumentTuple ps).toList := by
  unfold argumentTuple
  split_ifs
  · decide
  · rw [String.toList_append, String.toList_append, oneLine_append, oneLine_append]
    refine ⟨⟨by decide, oneLine_intercalate (by decide) ?_⟩, by decide⟩
    intro l hl
    obtain ⟨p, -, rfl⟩ := List.mem_map.1 hl
    rw [String.toList_append, String.toList_append, oneLine_append, oneLine_append]
    exact ⟨⟨by decide, oneLine_quoted p.name⟩, by decide⟩

theorem oneLine_recordCall (name : String) (fields : List (String × String)) :
    OneLine (recordCall name fields).toList := by
  unfold recordCall
  simp only [String.toList_append, oneLine_append]
  refine ⟨⟨⟨⟨by decide, oneLine_quoted name⟩, by decide⟩, oneLine_intercalate (by decide) ?_⟩,
    by decide⟩
  intro l hl
  obtain ⟨f, -, rfl⟩ := List.mem_map.1 hl
  simp only [String.toList_append, oneLine_append]
  exact ⟨⟨oneLine_quoted f.1, by decide⟩, oneLine_quoted f.2⟩

section Accessors

variable {a : Accessor}

theorem bound_mem_names (a : Accessor) : a.bound ∈ a.contract.names.toList := by
  unfold Accessor.bound
  cases a.convention <;> simp [Names.toList]

/-- A fragment of an accessor whose names are identifiers is on one line. -/
theorem oneLine_of_fits (h : ∀ n ∈ a.contract.names.toList, isIdentifier n = true) {f : Fragment}
    (hf : a.Fits f) : OneLine f.text.toList := by
  have hname : ∀ n ∈ a.contract.names.toList, OneLine n.toList :=
    fun n hn => oneLine_of_isIdentifier (h n hn)
  cases f with
  | code text =>
      have hall : (Accessor.fixedCode.all fun s => s.toList.all (!isLineEnd ·)) = true := by
        decide +kernel
      exact List.all_eq_true.1 hall text hf
  | binder name =>
      obtain rfl : name = a.bound := hf
      exact hname _ (bound_mem_names a)
  | recordType name =>
      rcases hf with ⟨rfl, -⟩ | ⟨rfl, -⟩ <;> exact hname _ (by simp [Names.toList])
  | constant name =>
      obtain rfl : name = a.contract.names.constant := hf
      exact hname _ (by simp [Names.toList])
  | values parameters => exact oneLine_argumentTuple parameters
  | arity n =>
      refine List.all_eq_true.2 fun c hc => ?_
      have hdigits : c ∈ Nat.toDigits 10 n := by
        rwa [← Nat.toList_repr]
      have hdigit : c.isDigit = true := Nat.isDigit_of_mem_toDigits (by decide) (by decide) hdigits
      have hfeed : c ≠ '\n' := by
        rintro rfl
        exact absurd hdigit (by decide)
      have hreturn : c ≠ '\r' := by
        rintro rfl
        exact absurd hdigit (by decide)
      simp [isLineEnd, hfeed, hreturn]

theorem oneLine_spell {fs : List Fragment} (h : ∀ f ∈ fs, OneLine f.text.toList) :
    OneLine (Fragment.spell fs).toList := by
  induction fs with
  | nil => decide
  | cons f fs ih =>
      rw [Fragment.spell_cons, String.toList_append, oneLine_append]
      exact ⟨h f List.mem_cons_self, ih fun g hg => h g (List.mem_cons_of_mem f hg)⟩

/-- The lines of an accessor whose names are identifiers are lines. -/
theorem oneLine_of_mem_lines (h : ∀ n ∈ a.contract.names.toList, isIdentifier n = true) {l : String}
    (hl : l ∈ a.lines) : OneLine l.toList := by
  rw [Accessor.lines_eq_spell] at hl
  obtain ⟨fs, hfs, rfl⟩ := List.mem_map.1 hl
  exact oneLine_spell fun f hf => oneLine_of_fits h (a.fits_fragments fs hfs f hf)

theorem isInner_of_mem_indent {level : Nat} {ls : List String} {l : String}
    (hl : l ∈ indent (level + 1) ls) : IsInner l.toList := by
  obtain ⟨t, -, rfl⟩ := List.mem_map.1 hl
  split_ifs with hempty
  · rw [String.isEmpty_iff.1 hempty]
    rfl
  · rw [String.toList_append, String.toList_ofList, show 4 * (level + 1) = 4 * level + 3 + 1 by omega,
      List.replicate_succ]
    rfl

/-- The lines of an accessor: one at the margin that opens the function it binds, and lines of its
body. -/
theorem exists_lines_eq (a : Accessor) : ∃ word rest body, (word = "def " ∨ word = "async def ") ∧
    a.lines = (word ++ a.bound ++ "(" ++ rest) :: body ∧ ∀ l ∈ body, IsInner l.toList := by
  cases hconvention : a.convention with
  | oneShot =>
      have hword : a.definition = "def " ∨ a.definition = "async def " := by
        unfold Accessor.definition
        split_ifs
        · exact .inr rfl
        · exact .inl rfl
      unfold Accessor.lines Accessor.bound
      simp only [hconvention, String.append_assoc]
      exact ⟨a.definition, _, _, hword, rfl, fun l => isInner_of_mem_indent⟩
  | prepared =>
      unfold Accessor.lines Accessor.bound
      simp only [hconvention, String.append_assoc, List.cons_append, List.nil_append]
      refine ⟨"def ", _, _, .inl rfl, rfl, ?_⟩
      · intro l hl
        simp only [List.mem_append, List.mem_cons, List.not_mem_nil, or_false] at hl
        rcases hl with ((hl | hl) | hl) | rfl | rfl
        · exact isInner_of_mem_indent hl
        · exact isInner_of_mem_indent hl
        · exact isInner_of_mem_indent hl
        · rfl
        · rfl

end Accessors

section Lines

variable {p : Part} {name : String} {fields : List (String × String)}

theorem mem_intersperse {α : Type} {sep x : α} {xs : List α} (h : x ∈ xs.intersperse sep) :
    x = sep ∨ x ∈ xs := by
  induction xs with
  | nil => simp at h
  | cons y ys ih =>
      cases ys with
      | nil => exact .inr h
      | cons z zs =>
          rw [List.intersperse_cons_cons] at h
          rcases List.mem_cons.1 h with rfl | h
          · exact .inr List.mem_cons_self
          · rcases List.mem_cons.1 h with rfl | h
            · exact .inl rfl
            · exact (ih h).imp_right (List.mem_cons_of_mem y)

/-- The lines between line feeds hold none. -/
theorem lineFeed_not_mem_of_mem_splitOn {s l : List Char} (h : l ∈ s.splitOn '\n') : '\n' ∉ l := by
  induction s generalizing l with
  | nil =>
      rw [List.splitOn_nil, List.mem_singleton] at h
      simp [h]
  | cons c s ih =>
      have hcons : (c :: s).splitOn '\n' = if (c == '\n') = true then [] :: s.splitOn '\n'
          else (s.splitOn '\n').modifyHead (List.cons c) := List.splitOnP_cons_eq_if_modifyHead c s
      rw [hcons] at h
      split_ifs at h with hc
      · rcases List.mem_cons.1 h with rfl | h
        · simp
        · exact ih h
      · cases hs : s.splitOn '\n' with
        | nil => exact absurd hs (List.splitOn_ne_nil '\n' s)
        | cons first others =>
            rw [hs] at ih h
            rcases List.mem_cons.1 h with rfl | h
            · rw [List.mem_cons, not_or]
              exact ⟨fun he => hc (by simp [← he]), ih List.mem_cons_self⟩
            · exact ih (List.mem_cons_of_mem first h)

theorem isInner_of_isComment {header : String} (h : IsComment header) {l : List Char}
    (hl : l ∈ header.toList.splitOn '\n') : IsInner l ∧ OneLine l := by
  obtain ⟨hreturn, hhead⟩ := h l hl
  have hfeed : '\n' ∉ l := lineFeed_not_mem_of_mem_splitOn hl
  refine ⟨?_, List.all_eq_true.2 fun c hc => ?_⟩
  · cases l with
    | nil => rfl
    | cons c cs => simpa [IsInner] using .inr (by simpa using hhead)
  · have hne : c ≠ '\n' ∧ c ≠ '\r' := ⟨fun he => hfeed (he ▸ hc), fun he => hreturn (he ▸ hc)⟩
    simp [isLineEnd, hne]

theorem isPlain_of_mem_imports (d : Dialect) :
    ∀ l ∈ ("from __future__ import annotations" :: "" :: d.imports).map String.toList, IsPlain l := by
  cases d <;> decide +kernel

theorem isPlain_of_mem_helpers (d : Dialect) : ∀ l ∈ d.helpers.toList.splitOn '\n', IsPlain l := by
  cases d <;> decide +kernel

theorem isPlain_class (h : isIdentifier name = true) :
    IsPlain ("class " ++ name ++ "(TypedDict):").toList := by
  have hword := isBlank_of_mem_keyword "class" (by decide)
  have hrest : (name.toList ++ "(TypedDict):".toList).head? ≠ some '=' := by
    rw [List.head?_append_of_ne_nil _ (isName_of_isIdentifier h).ne_nil]
    exact head?_of_isIdentifier h (by decide)
  have hline : OneLine (name.toList ++ "(TypedDict):".toList) :=
    oneLine_append.2 ⟨oneLine_of_isIdentifier h, by decide⟩
  simpa using isPlain_word hword hrest hline

/-- The line of an assignment of what is no literal. -/
theorem isPlain_assignment (h : isIdentifier name = true) {value : String}
    (hvalue : OneLine value.toList)
    (hquote : value.toList.head?.all (fun c => c ≠ '\'' ∧ c ≠ '"') = true) :
    IsPlain (name ++ " = " ++ value).toList := by
  rw [String.toList_append, String.toList_append, List.append_assoc]
  exact (isName_of_isIdentifier h).isPlain (oneLine_of_isIdentifier h) hvalue hquote

theorem isPlain_definition {a : Accessor} (h : isIdentifier a.bound = true) {word rest : String}
    (hword : word = "def " ∨ word = "async def ") (hline : OneLine rest.toList) :
    IsPlain (word ++ a.bound ++ "(" ++ rest).toList := by
  have hname : OneLine (a.bound.toList ++ ("(".toList ++ rest.toList)) :=
    oneLine_append.2 ⟨oneLine_of_isIdentifier h, oneLine_append.2 ⟨by decide, hline⟩⟩
  rcases hword with rfl | rfl
  · have hhead : (a.bound.toList ++ ("(".toList ++ rest.toList)).head? ≠ some '=' := by
      rw [List.head?_append_of_ne_nil _ (isName_of_isIdentifier h).ne_nil]
      exact head?_of_isIdentifier h (by decide)
    simpa using isPlain_word (isBlank_of_mem_keyword "def" (by decide)) hhead hname
  · have hdef : OneLine ("def ".toList ++ (a.bound.toList ++ ("(".toList ++ rest.toList))) :=
      oneLine_append.2 ⟨by decide, hname⟩
    have hhead : ("def ".toList ++ (a.bound.toList ++ ("(".toList ++ rest.toList))).head? ≠ some '=' :=
      fun he => absurd (Option.some.inj he) (by decide)
    simpa using isPlain_word (isBlank_of_mem_keyword "async" (by decide)) hhead hdef

theorem isInner_field (f : String × String) : IsInner ("    " ++ f.1 ++ ": " ++ f.2).toList := by
  simp [IsInner, String.toList_append, show isBlank ' ' = true by decide]

/-- The line of a field. -/
theorem closed_field {f : String × String} (h : isIdentifier f.1 = true) (htype : OneLine f.2.toList) :
    Closed ("    " ++ f.1 ++ ": " ++ f.2).toList := by
  have hline : OneLine ("    " ++ f.1 ++ ": " ++ f.2).toList := by
    simp only [String.toList_append, oneLine_append]
    exact ⟨⟨⟨by decide, oneLine_of_isIdentifier h⟩, by decide⟩, htype⟩
  exact ((isInner_field f).isPlain hline).closed

/-- The lines of a record, in either of its two forms. -/
theorem closed_record (h : (Part.record name fields).Readable) :
    ∀ l ∈ (Part.record name fields).lines, Closed l := by
  obtain ⟨hname, htypes⟩ := h
  intro l hl
  rw [lines] at hl
  split_ifs at hl with hall hempty
  · rcases List.mem_cons.1 hl with rfl | hl
    · exact (isPlain_class hname).closed
    · obtain rfl := List.mem_singleton.1 hl
      have hpass : IsPlain "    pass".toList := by decide
      exact hpass.closed
  · rcases List.mem_cons.1 hl with rfl | hl
    · exact (isPlain_class hname).closed
    · obtain ⟨f, hf, rfl⟩ := List.mem_map.1 hl
      exact closed_field (List.all_eq_true.1 hall f hf) (htypes f hf)
  · obtain rfl := List.mem_singleton.1 hl
    have hhead : (recordCall name fields).toList.head? = some 'T' := by
      simp [recordCall, String.toList_append]
    refine (isPlain_assignment hname (oneLine_recordCall name fields) ?_).closed
    rw [hhead]
    decide

/-- The lines of an accessor: its definition, and what stands inside it. -/
theorem closed_accessor {a : Accessor} (h : (Part.accessor a).Readable) :
    ∀ l ∈ (Part.accessor a).lines, Closed l := by
  intro l hl
  obtain ⟨word, rest, body, hword, hlines, hbody⟩ := exists_lines_eq a
  obtain ⟨t, ht, rfl⟩ := List.mem_map.1 hl
  have hline : OneLine t.toList := oneLine_of_mem_lines h ht
  rw [hlines] at ht
  rcases List.mem_cons.1 ht with rfl | ht
  · rw [String.toList_append, oneLine_append] at hline
    exact (isPlain_definition (h _ (bound_mem_names a)) hword hline.2).closed
  · exact ((hbody t ht).isPlain hline).closed

/-- **The lines of a readable part are closed.** -/
theorem closed_lines (h : p.Readable) : ∀ l ∈ p.lines, Closed l := by
  intro l hl
  cases p with
  | opening header d =>
      rcases List.mem_append.1 hl with hl | hl
      · obtain ⟨hinner, hline⟩ := isInner_of_isComment h hl
        exact (hinner.isPlain hline).closed
      · exact (isPlain_of_mem_imports d l hl).closed
  | helpers d => exact (isPlain_of_mem_helpers d l hl).closed
  | constants cs =>
      rcases mem_intersperse hl with rfl | hl
      · have hempty : IsPlain [] := by decide
        exact hempty.closed
      · obtain ⟨c, hc, rfl⟩ := List.mem_map.1 hl
        obtain ⟨hname, hreturn, hnul⟩ := h.2 c hc
        rw [constantDefinition, String.toList_append, String.toList_append, List.append_assoc]
        exact closed_literal (isName_of_isIdentifier hname)
          fun rest => Literal.read?_sqlLiteral hreturn hnul _
  | record name fields => exact closed_record h l hl
  | synonym name target =>
      obtain ⟨hname, htarget⟩ := h
      obtain rfl := List.mem_singleton.1 hl
      exact (isPlain_assignment hname (oneLine_of_isIdentifier htarget)
        (not_quote_of_isIdentifier htarget)).closed
  | accessor a => exact closed_accessor h l hl

/-! ### What the lines of a part define -/

theorem fieldsBelow_eq_nil {ls : List (List Char)}
    (h : ∀ l ∈ ls, l.head?.all isBlank = true → l = []) : fieldsBelow ls = [] := by
  refine List.filterMap_eq_nil_iff.2 fun l hl => ?_
  have hblank := List.mem_takeWhile_imp (p := fun l : List Char => l.head?.all isBlank) hl
  obtain rfl := h l ((List.takeWhile_sublist _).subset hl) hblank
  rfl

theorem field?_line {f : String × String} (h : isIdentifier f.1 = true) :
    field? ("    " ++ f.1 ++ ": " ++ f.2).toList = some f := by
  have hcolon : ∀ c ∈ f.1.toList, decide (c ≠ ':') = true := by
    intro c hc
    simpa using fun he : c = ':' => not_mem_of_isIdentifier (c := ':') (by decide) h (he ▸ hc)
  have hspaces : ("    " ++ f.1 ++ ": " ++ f.2).toList.dropWhile (· = ' ') =
      f.1.toList ++ (": ".toList ++ f.2.toList) := by
    have hlead : ∀ c ∈ "    ".toList, decide (c = ' ') = true := by simp
    have hself : (f.1.toList ++ (": ".toList ++ f.2.toList)).dropWhile (· = ' ') =
        f.1.toList ++ (": ".toList ++ f.2.toList) := by
      refine List.dropWhile_eq_self_iff.2 fun hpos hspace => ?_
      have hhead : f.1.toList.head? = some ' ' := by
        have hfirst : (f.1.toList ++ (": ".toList ++ f.2.toList)).head? = f.1.toList.head? :=
          List.head?_append_of_ne_nil _ (isName_of_isIdentifier h).ne_nil
        rw [← hfirst, List.head?_eq_getElem?, List.getElem?_eq_getElem hpos]
        simpa using hspace
      exact head?_of_isIdentifier h (by decide) hhead
    simp only [String.toList_append, List.append_assoc]
    rw [List.dropWhile_append_of_pos hlead, hself]
  have htake : (f.1.toList ++ (": ".toList ++ f.2.toList)).takeWhile (· ≠ ':') = f.1.toList := by
    rw [List.takeWhile_append_of_pos hcolon]
    simp
  unfold field?
  rw [hspaces]
  dsimp only
  rw [htake, List.drop_left, List.dropPrefix?_append_of_beq _ (beq_self_eq_true _)]
  simp

theorem fieldsBelow_fields {fields : List (String × String)}
    (h : ∀ f ∈ fields, isIdentifier f.1 = true) :
    fieldsBelow (fields.map fun f => ("    " ++ f.1 ++ ": " ++ f.2).toList) = fields := by
  induction fields with
  | nil => rfl
  | cons f fields ih =>
      have hrest := ih fun g hg => h g (List.mem_cons_of_mem f hg)
      have hfield := field?_line (h f List.mem_cons_self)
      have hblank : ("    " ++ f.1 ++ ": " ++ f.2).toList.head?.all isBlank = true := by
        simp [String.toList_append, show isBlank ' ' = true by decide]
      unfold fieldsBelow at hrest ⊢
      rw [List.map_cons, List.takeWhile_cons, if_pos hblank, List.filterMap_cons_some hfield, hrest]

theorem meaningOf_literal {sql : String} (hreturn : '\r' ∉ sql.toList) (hnul : '\x00' ∉ sql.toList) :
    meaningOf (sqlLiteral sql).toList = .text sql := by
  have hread := Literal.read?_sqlLiteral hreturn hnul []
  rw [List.append_nil] at hread
  unfold meaningOf
  rw [hread]
  simp

theorem meaningOf_recordCall (name : String) (fields : List (String × String)) :
    meaningOf (recordCall name fields).toList = .expression (recordCall name fields) := by
  have hread : Literal.read? (recordCall name fields).toList = none := by
    refine read?_eq_none ?_
    simp [recordCall, String.toList_append]
  have hform : isIdentifierForm (recordCall name fields).toList = false := by
    refine Bool.eq_false_iff.2 fun hform => ?_
    have hmem : '(' ∈ (recordCall name fields).toList := by
      simp [recordCall, String.toList_append]
    have hall := List.all_eq_true.1 (all_isIdentifierContinue_of_isIdentifierForm hform) _ hmem
    exact absurd hall (by decide)
  unfold meaningOf
  rw [hread, hform]
  simp

theorem meaningOf_identifier (h : isIdentifier name = true) :
    meaningOf name.toList = .alias name := by
  have hread : Literal.read? name.toList = none := read?_eq_none (not_quote_of_isIdentifier h)
  have hform : isIdentifierForm name.toList = true := (Bool.and_eq_true_iff.1 h).1
  unfold meaningOf
  rw [hread, hform]
  simp

/-- What an assignment to an identifier defines. -/
theorem definitionsOf_identifier (h : isIdentifier name = true) (value : String)
    (below : List (List Char)) :
    definitionsOf (name ++ " = " ++ value).toList below = [(name, meaningOf value.toList)] := by
  have hkeyword : isKeyword (String.ofList name.toList) = false := by
    rw [String.ofList_toList]
    exact isKeyword_of_isIdentifier h
  rw [String.toList_append, String.toList_append, List.append_assoc,
    definitionsOf_assignment (isName_of_isIdentifier h) hkeyword, String.ofList_toList]

theorem definitions_constants {cs : List (String × String)}
    (h : ∀ c ∈ cs, isIdentifier c.1 = true ∧ '\r' ∉ c.2.toList ∧ '\x00' ∉ c.2.toList) :
    TopLevel.definitions ((cs.map fun c => (constantDefinition c.1 c.2).toList).intersperse []) =
      cs.map fun c => (c.1, .text c.2) := by
  have hof : ∀ c ∈ cs, ∀ below, definitionsOf (constantDefinition c.1 c.2).toList below =
      [(c.1, .text c.2)] := by
    intro c hc below
    obtain ⟨hname, hreturn, hnul⟩ := h c hc
    rw [constantDefinition, definitionsOf_identifier hname, meaningOf_literal hreturn hnul]
  clear h
  induction cs with
  | nil => rfl
  | cons c cs ih =>
      have hrest := ih fun d hd => hof d (List.mem_cons_of_mem c hd)
      have hself := hof c List.mem_cons_self
      cases cs with
      | nil => simp [TopLevel.definitions, hself]
      | cons d ds =>
          rw [List.map_cons] at hrest
          rw [List.map_cons, List.map_cons, List.intersperse_cons_cons, TopLevel.definitions,
            TopLevel.definitions, hself, hrest]
          rfl

/-- A record defines its name, in either of its two forms. -/
theorem definitions_record (h : (Part.record name fields).Readable) :
    TopLevel.definitions (Part.record name fields).lines = [(name, recordMeaning name fields)] := by
  obtain ⟨hname, -⟩ := h
  have hparen : '(' ∉ name.toList := not_mem_of_isIdentifier (by decide) hname
  have hclass : ("class " ++ name ++ "(TypedDict):").toList =
      "class ".toList ++ (name.toList ++ '(' :: "TypedDict):".toList) := by
    simp [String.toList_append]
  rw [lines, recordMeaning]
  split_ifs with hall hempty
  · obtain rfl := List.isEmpty_iff.1 hempty
    have hbelow : fieldsBelow ["    pass".toList] = [] := by decide
    have hpass : definitionsOf "    pass".toList [] = [] := by decide
    rw [TopLevel.definitions, hclass, definitionsOf_class hparen, hbelow, TopLevel.definitions,
      hpass, String.ofList_toList]
    rfl
  · have hfields := fieldsBelow_fields (List.all_eq_true.1 hall)
    have hinner : TopLevel.definitions
        (fields.map fun f => ("    " ++ f.1 ++ ": " ++ f.2).toList) = [] := by
      refine definitions_inner fun l hl => ?_
      obtain ⟨f, -, rfl⟩ := List.mem_map.1 hl
      exact isInner_field f
    rw [TopLevel.definitions, hclass, definitionsOf_class hparen, hfields, hinner,
      String.ofList_toList]
    rfl
  · rw [TopLevel.definitions, definitionsOf_identifier hname, meaningOf_recordCall]
    rfl

/-- An accessor defines its name, and nothing inside it. -/
theorem definitions_accessor {a : Accessor} (h : (Part.accessor a).Readable) :
    TopLevel.definitions (Part.accessor a).lines = [(a.bound, .function)] := by
  obtain ⟨word, rest, body, hword, hlines, hbody⟩ := exists_lines_eq a
  have hparen : '(' ∉ a.bound.toList :=
    not_mem_of_isIdentifier (by decide) (h _ (bound_mem_names a))
  have hinner : TopLevel.definitions (body.map String.toList) = [] := by
    refine definitions_inner fun l hl => ?_
    obtain ⟨t, ht, rfl⟩ := List.mem_map.1 hl
    exact hbody t ht
  have hfirst : (word ++ a.bound ++ "(" ++ rest).toList =
      word.toList ++ (a.bound.toList ++ '(' :: rest.toList) := by
    simp [String.toList_append]
  rw [lines, hlines, List.map_cons, TopLevel.definitions, hinner, hfirst, List.append_nil]
  rcases hword with rfl | rfl
  · rw [definitionsOf_def hparen, String.ofList_toList]
  · rw [definitionsOf_async hparen, String.ofList_toList]

/-- **A part defines what it is to define**, as its lines are read. -/
theorem definitions_lines (h : p.Readable) : TopLevel.definitions p.lines = p.definitions := by
  cases p with
  | opening header d =>
      have hheader : TopLevel.definitions (header.toList.splitOn '\n') = [] :=
        definitions_inner fun l hl => (isInner_of_isComment h hl).1
      have hmargin : fieldsBelow
          (("from __future__ import annotations" :: "" :: d.imports).map String.toList) = [] :=
        fieldsBelow_of_margin (by decide)
      have himports : TopLevel.definitions
          (("from __future__ import annotations" :: "" :: d.imports).map String.toList) =
            d.imported.map (·, .imported) := by
        cases d <;> decide +kernel
      rw [lines, definitions_append hmargin, hheader, himports]
      rfl
  | helpers d =>
      have hhelpers : TopLevel.definitions (d.helpers.toList.splitOn '\n') =
          d.shared.map (·, .function) := by
        cases d <;> decide +kernel
      exact hhelpers
  | constants cs => exact definitions_constants h.2
  | record name fields => exact definitions_record h
  | synonym name target =>
      obtain ⟨hname, htarget⟩ := h
      rw [lines, TopLevel.definitions, definitionsOf_identifier hname, meaningOf_identifier htarget]
      rfl
  | accessor a => exact definitions_accessor h

/-- An assignment starts at the margin. -/
theorem fieldsBelow_assignment (h : isIdentifier name = true) (value : String)
    (ls : List (List Char)) : fieldsBelow ((name ++ " = " ++ value).toList :: ls) = [] := by
  obtain ⟨hne, hblank⟩ : name.toList ≠ [] ∧ ∀ c ∈ name.toList, isBlank c = false :=
    ⟨(isName_of_isIdentifier h).ne_nil, (isName_of_isIdentifier h).blank⟩
  rw [String.toList_append, String.toList_append, List.append_assoc]
  obtain ⟨c, cs, hc⟩ := List.exists_cons_of_ne_nil hne
  rw [hc] at hblank ⊢
  exact fieldsBelow_of_margin (hblank c List.mem_cons_self)

/-- A part starts at the margin. -/
theorem fieldsBelow_lines (h : p.Readable) : fieldsBelow p.lines = [] := by
  cases p with
  | opening header d =>
      have hbelow : fieldsBelow
          (("from __future__ import annotations" :: "" :: d.imports).map String.toList) = [] :=
        fieldsBelow_of_margin (by decide)
      rw [lines, fieldsBelow_append hbelow]
      refine fieldsBelow_eq_nil fun l hl hblank => ?_
      cases l with
      | nil => rfl
      | cons c cs =>
          obtain rfl : c = '#' := by simpa using (h _ hl).2
          simp [show isBlank '#' = false by decide] at hblank
  | helpers d => cases d <;> decide +kernel
  | constants cs =>
      obtain ⟨hne, hcs⟩ := h
      cases cs with
      | nil => exact absurd rfl hne
      | cons c cs =>
          have hfirst := (hcs c List.mem_cons_self).1
          cases cs with
          | nil => exact fieldsBelow_assignment hfirst _ _
          | cons d ds => exact fieldsBelow_assignment hfirst _ _
  | record name fields =>
      have hclass : ∀ ls, fieldsBelow (("class " ++ name ++ "(TypedDict):").toList :: ls) = [] := by
        intro ls
        rw [String.toList_append, String.toList_append, List.append_assoc]
        exact fieldsBelow_of_margin (by decide)
      rw [lines]
      split_ifs
      · exact hclass _
      · exact hclass _
      · exact fieldsBelow_assignment h.1 _ _
  | synonym name target => exact fieldsBelow_assignment h.1 _ _
  | accessor a =>
      obtain ⟨word, rest, body, hword, hlines, -⟩ := exists_lines_eq a
      rw [lines, hlines, List.map_cons, String.toList_append, String.toList_append,
        String.toList_append, List.append_assoc, List.append_assoc]
      rcases hword with rfl | rfl
      · exact fieldsBelow_of_margin (by decide)
      · exact fieldsBelow_of_margin (by decide)

end Lines

end Part

/-! ### The text of a module -/

namespace Module

variable {ps : List Part}

/-- The lines of some parts, with two empty lines between them. -/
def linesOf (ps : List Part) : List (List Char) :=
  [[], []].intercalate (ps.map Part.lines)

theorem text_eq_unlines (hne : ps ≠ []) (h : ∀ p ∈ ps, p.Readable) :
    (text ⟨ps⟩).toList = unlines (linesOf ps) := by
  unfold text linesOf
  rw [String.toList_append]
  induction ps with
  | nil => exact absurd rfl hne
  | cons p ps ih =>
      have hself := Part.text_append_lineFeed (h p List.mem_cons_self)
      cases ps with
      | nil => simpa using hself
      | cons q qs =>
          have hrest := ih (List.cons_ne_nil q qs) fun r hr => h r (List.mem_cons_of_mem p hr)
          simp only [List.map_cons] at hrest ⊢
          rw [String.intercalate_cons_cons, String.toList_append, String.toList_append,
            List.intercalate_cons_cons, Part.unlines_append, Part.unlines_append, ← hself,
            List.append_assoc, hrest]
          simp [unlines]

theorem definitions_linesOf (h : ∀ p ∈ ps, p.Readable) :
    TopLevel.definitions (linesOf ps) = ps.flatMap Part.definitions ∧
      fieldsBelow (linesOf ps) = [] := by
  unfold linesOf
  induction ps with
  | nil => exact ⟨rfl, rfl⟩
  | cons p ps ih =>
      obtain ⟨hrest, hmargin⟩ := ih fun r hr => h r (List.mem_cons_of_mem p hr)
      have hself := Part.definitions_lines (h p List.mem_cons_self)
      have hfields := Part.fieldsBelow_lines (h p List.mem_cons_self)
      cases ps with
      | nil => simpa using ⟨hself, hfields⟩
      | cons q qs =>
          simp only [List.map_cons] at hrest hmargin ⊢
          have hbelow : fieldsBelow ([[], []] ++ [[], []].intercalate
              (q.lines :: qs.map Part.lines)) = [] := by
            rw [fieldsBelow_append hmargin]
            rfl
          have hempty : TopLevel.definitions [[], []] = [] := by decide
          rw [List.intercalate_cons_cons, List.append_assoc, definitions_append hbelow,
            definitions_append hmargin, fieldsBelow_append hbelow, hself, hempty, hrest]
          exact ⟨rfl, hfields⟩

/-- **The text of a module defines what its parts define**, in their order. -/
theorem read_text (hne : ps ≠ []) (h : ∀ p ∈ ps, p.Readable) :
    TopLevel.read (text ⟨ps⟩).toList = ps.flatMap Part.definitions := by
  have hclosed : ∀ l ∈ linesOf ps, Closed l := by
    intro l hl
    obtain ⟨ls, hls, hl⟩ := List.mem_flatten.1 hl
    rcases Part.mem_intersperse hls with rfl | hls
    · have hempty : IsPlain [] := by decide
      have hl : l = [] := by simpa using hl
      rw [hl]
      exact hempty.closed
    · obtain ⟨p, hp, rfl⟩ := List.mem_map.1 hls
      exact Part.closed_lines (h p hp) l hl
  rw [text_eq_unlines hne h, TopLevel.read, codeLines_unlines hclosed, (definitions_linesOf h).1]

end Module

end SqlContract
