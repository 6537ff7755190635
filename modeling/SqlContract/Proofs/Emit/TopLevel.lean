/-
What the text of a module defines.

The text is read line by line, with nothing known of how modules are written.  A line at the margin
imports names, opens a function or a class, or assigns a value to a name; a line behind blanks belongs
to what was opened above it.  A literal may run over lines, and the line that assigns it runs with it.

A name is looked up in its normal form: compatibility characters, such as the full-width letters, stand
for the plain ones.  What this form is stays open here, but for names of ASCII characters, which are in
normal form.

Main definitions:

* `TopLevel.codeLines` — the lines of a text;
* `TopLevel.read` — what a text defines, in order;
* `Normalizer` — the normal forms of names;
* `Normalizer.TellsApart` — names that differ have different normal forms;
* `Normalizer.Defines` — a text defines a name once.

Main results:

* `TopLevel.codeLines_unlines` — lines that are closed are read back;
* `TopLevel.definitions_append` — what lines define does not depend on the lines above them;
* `Normalizer.defines_of_count` — **a name that is written once is defined once**, if its normal form
  tells it from the others.
-/

import SqlContract.Proofs.Emit.Expressions
import SqlContract.Proofs.Text.Blanks
import SqlContract.Proofs.Text.Identifiers

set_option autoImplicit false
set_option relaxedAutoImplicit false

namespace SqlContract

open Text

/-- What a definition gives to its name. -/
inductive Meaning
  | imported
  | function
  /-- A record type with its fields and their types. -/
  | record (fields : List (String × String))
  | text (value : String)
  /-- The value of another name. -/
  | alias (target : String)
  | expression (source : String)
  deriving DecidableEq, Repr

/-- A name with what a definition gives to it. -/
abbrev Definition := String × Meaning

namespace TopLevel

/-! ### Lines -/

/-- The characters that end a line. -/
def isLineEnd (c : Char) : Bool :=
  c == '\n' || c == '\r'

/-- The name that a text at the margin assigns to, and the text behind the sign. -/
def assigned? (s : List Char) : Option (List Char × List Char) :=
  let name := s.takeWhile (!isBlank ·)
  if name.isEmpty || name.head? == some '#' then none
  else ((s.dropWhile (!isBlank ·)).dropPrefix? " = ".toList).map (name, ·)

/-- The first line of a text.  A literal that it assigns belongs to it, with all its line ends. -/
def firstLine (s : List Char) : List Char :=
  match (assigned? s).bind fun a => Literal.read? a.2 with
  | some (_, rest) => s.take (s.length - rest.length) ++ rest.takeWhile (!isLineEnd ·)
  | none => s.takeWhile (!isLineEnd ·)

/-- The lines of a text. -/
def codeLines : List Char → List (List Char)
  | [] => []
  | c :: cs => firstLine (c :: cs) :: codeLines (cs.drop (firstLine (c :: cs)).length)
termination_by s => s.length
decreasing_by
  simp only [List.length_drop, List.length_cons]
  omega

/-- The text of some lines, each with its end. -/
def unlines (ls : List (List Char)) : List Char :=
  ls.flatMap (· ++ ['\n'])

/-! ### Definitions -/

/-- The names that a line imports. -/
def importedNames (line : List Char) : List String :=
  if "import ".toList.isPrefixOf line || "from ".toList.isPrefixOf line then
    (((words line).dropWhile (· ≠ "import".toList)).drop 1).map fun w =>
      String.ofList (w.takeWhile (· ≠ ','))
  else []

/-- The name that stands behind a word and before a parenthesis. -/
def opened? (word : String) (line : List Char) : Option String :=
  (line.dropPrefix? word.toList).map fun s => String.ofList (s.takeWhile (· ≠ '('))

/-- The field that a line of a class declares. -/
def field? (line : List Char) : Option (String × String) :=
  let s := line.dropWhile (· = ' ')
  let name := s.takeWhile (· ≠ ':')
  ((s.drop name.length).dropPrefix? ": ".toList).map fun type =>
    (String.ofList name, String.ofList type)

/-- The fields of a class, for the lines below the one that opens it. -/
def fieldsBelow (ls : List (List Char)) : List (String × String) :=
  (ls.takeWhile fun l => l.head?.all isBlank).filterMap field?

/-- What a value gives to a name. -/
def meaningOf (value : List Char) : Meaning :=
  match Literal.read? value with
  | some (s, []) => .text (String.ofList s)
  | _ =>
      if isIdentifierForm value then .alias (String.ofList value)
      else .expression (String.ofList value)

/-- What a line defines above some others. -/
def definitionsOf (line : List Char) (below : List (List Char)) : List Definition :=
  (importedNames line).map (·, .imported) ++
    (((opened? "def " line).map (·, .function)).or
      (((opened? "async def " line).map (·, .function)).or
        (((opened? "class " line).map (·, .record (fieldsBelow below))).or
          ((assigned? line).map fun a => (String.ofList a.1, meaningOf a.2))))).toList

/-- What some lines define. -/
def definitions : List (List Char) → List Definition
  | [] => []
  | l :: ls => definitionsOf l ls ++ definitions ls

/-- What a text defines, in order. -/
def read (s : List Char) : List Definition :=
  definitions (codeLines s)

/-! ### Reading lines back -/

section Lines

variable {l rest name value : List Char} {ls ms : List (List Char)}

/-- A prefix without line feeds is found in a line or not at all. -/
theorem dropPrefix?_append {w : List Char} (hw : '\n' ∉ w) (s rest : List Char) :
    (s ++ '\n' :: rest).dropPrefix? w = (s.dropPrefix? w).map (· ++ '\n' :: rest) := by
  induction w generalizing s with
  | nil => cases s <;> rfl
  | cons c w ih =>
      rw [List.mem_cons, not_or] at hw
      cases s with
      | nil => simp [List.dropPrefix?, hw.1]
      | cons d s =>
          rw [List.cons_append, List.dropPrefix?, List.dropPrefix?]
          split_ifs
          · exact ih hw.2 s
          · rfl

theorem takeWhile_append_lineFeed {p : Char → Bool} (hp : p '\n' = false) (s rest : List Char) :
    (s ++ '\n' :: rest).takeWhile p = s.takeWhile p := by
  induction s with
  | nil => simp [hp]
  | cons c s ih => simp [List.takeWhile_cons, ih]

theorem dropWhile_append_lineFeed {p : Char → Bool} (hp : p '\n' = false) (s rest : List Char) :
    (s ++ '\n' :: rest).dropWhile p = s.dropWhile p ++ '\n' :: rest := by
  induction s with
  | nil => simp [hp]
  | cons c s ih => by_cases hc : p c = true <;> simp [hc, ih]

/-- What a line assigns is seen before its end. -/
theorem assigned?_append (l rest : List Char) :
    assigned? (l ++ '\n' :: rest) = (assigned? l).map fun a => (a.1, a.2 ++ '\n' :: rest) := by
  have hblank : (!isBlank '\n') = false := by decide
  have hsign : '\n' ∉ " = ".toList := by decide
  unfold assigned?
  rw [takeWhile_append_lineFeed hblank, dropWhile_append_lineFeed hblank, dropPrefix?_append hsign]
  dsimp only
  split_ifs
  · rfl
  · rw [Option.map_map, Option.map_map]
    rfl

/-- A line that is read back, whatever follows it. -/
def Closed (l : List Char) : Prop :=
  ∀ rest, firstLine (l ++ '\n' :: rest) = l

/-- A text without line ends. -/
def OneLine (s : List Char) : Prop :=
  s.all (!isLineEnd ·) = true

instance (s : List Char) : Decidable (OneLine s) :=
  inferInstanceAs (Decidable (_ = true))

theorem oneLine_append {s t : List Char} : OneLine (s ++ t) ↔ OneLine s ∧ OneLine t := by
  unfold OneLine
  rw [List.all_append, Bool.and_eq_true]

theorem oneLine_of_isBlank {s : List Char} (h : ∀ c ∈ s, isBlank c = false) : OneLine s := by
  refine List.all_eq_true.2 fun c hc => ?_
  have hblank := h c hc
  have hfeed : c ≠ '\n' := by
    rintro rfl
    exact absurd hblank (by decide)
  have hreturn : c ≠ '\r' := by
    rintro rfl
    exact absurd hblank (by decide)
  simp [isLineEnd, hfeed, hreturn]

/-- A line that assigns no literal. -/
def IsPlain (l : List Char) : Prop :=
  OneLine l ∧
    (assigned? l).all (fun a => a.2.head?.all fun c => c ≠ '\'' ∧ c ≠ '"') = true

instance (l : List Char) : Decidable (IsPlain l) :=
  inferInstanceAs (Decidable (OneLine l ∧ _ = true))

/-- A text that does not open with a quote is no literal. -/
theorem read?_eq_none {s : List Char} (h : s.head?.all (fun c => c ≠ '\'' ∧ c ≠ '"') = true) :
    Literal.read? s = none := by
  cases s with
  | nil => rfl
  | cons c s =>
      have hc : ¬ (c = '\'' ∨ c = '"') := by simpa using h
      rw [Literal.read?, Literal.opening?, if_neg hc]
      rfl

theorem IsPlain.closed (h : IsPlain l) : Closed l := by
  obtain ⟨hends, hvalue⟩ := h
  intro rest
  have hnone : (assigned? (l ++ '\n' :: rest)).bind (fun a => Literal.read? a.2) = none := by
    rw [assigned?_append]
    cases ha : assigned? l with
    | none => rfl
    | some a =>
        rw [ha] at hvalue
        refine read?_eq_none (s := a.2 ++ '\n' :: rest) ?_
        cases hs : a.2 with
        | nil => rfl
        | cons c s => simpa [hs] using hvalue
  have hfeed : (!isLineEnd '\n') = false := by decide
  unfold firstLine
  rw [hnone]
  dsimp only
  rw [takeWhile_append_lineFeed hfeed, List.takeWhile_eq_self_iff]
  simpa [OneLine] using hends

/-- A name that can stand at the margin of a line. -/
structure IsName (name : List Char) : Prop where
  ne_nil : name ≠ []
  blank : ∀ c ∈ name, isBlank c = false
  comment : name.head? ≠ some '#'

theorem takeWhile_word {w : List Char} (hw : ∀ c ∈ w, isBlank c = false) (s : List Char) :
    (w ++ ' ' :: s).takeWhile (!isBlank ·) = w := by
  have hspace : isBlank ' ' = true := by decide
  rw [List.takeWhile_append_of_pos (by simpa using hw)]
  simp [hspace]

theorem IsName.assigned? (h : IsName name) (value : List Char) :
    assigned? (name ++ (" = ".toList ++ value)) = some (name, value) := by
  have hspace : isBlank ' ' = true := by decide
  have htake : (name ++ (" = ".toList ++ value)).takeWhile (!isBlank ·) = name :=
    takeWhile_word h.blank _
  have hdrop : (name ++ (" = ".toList ++ value)).dropWhile (!isBlank ·) = " = ".toList ++ value := by
    rw [List.dropWhile_append_of_pos (by simpa using h.blank)]
    simp [hspace]
  have hfirst : ¬ (name.isEmpty || name.head? == some '#') = true := by
    simp [h.ne_nil, h.comment]
  unfold TopLevel.assigned?
  rw [htake, hdrop, if_neg hfirst, List.dropPrefix?_append_of_beq value (beq_self_eq_true _)]
  rfl

/-- The assignment of what is no literal. -/
theorem IsName.isPlain (h : IsName name) (hname : OneLine name) (hvalue : OneLine value)
    (hquote : value.head?.all (fun c => c ≠ '\'' ∧ c ≠ '"') = true) :
    IsPlain (name ++ (" = ".toList ++ value)) := by
  refine ⟨oneLine_append.2 ⟨hname, oneLine_append.2 ⟨by decide, hvalue⟩⟩, ?_⟩
  rw [h.assigned?]
  exact hquote

/-- A line that opens with a word and no sign of an assignment. -/
theorem isPlain_word {w : List Char} (hw : ∀ c ∈ w, isBlank c = false) (hrest : rest.head? ≠ some '=')
    (hline : OneLine rest) : IsPlain (w ++ ' ' :: rest) := by
  have hnone : (' ' :: rest).dropPrefix? " = ".toList = none := by
    cases rest with
    | nil => rfl
    | cons c rest =>
        have hc : c ≠ '=' := fun he => hrest (he ▸ rfl)
        simp [List.dropPrefix?, hc]
  have hspace : isBlank ' ' = true := by decide
  have hdrop : (w ++ ' ' :: rest).dropWhile (!isBlank ·) = ' ' :: rest := by
    rw [List.dropWhile_append_of_pos (by simpa using hw)]
    simp [hspace]
  have hassigned : TopLevel.assigned? (w ++ ' ' :: rest) = none := by
    unfold TopLevel.assigned?
    rw [hdrop, hnone]
    simp
  refine ⟨oneLine_append.2 ⟨oneLine_of_isBlank hw, ?_⟩, ?_⟩
  · have hspace : OneLine [' '] := by decide
    exact oneLine_append.2 ⟨hspace, hline⟩
  · rw [hassigned]
    rfl

/-- The assignment of a literal is a line, with all line ends of the literal. -/
theorem closed_literal (h : IsName name) {literal v : List Char}
    (hread : ∀ rest, Literal.read? (literal ++ '\n' :: rest) = some (v, '\n' :: rest)) :
    Closed (name ++ (" = ".toList ++ literal)) := by
  intro rest
  have hassigned : (TopLevel.assigned? (name ++ (" = ".toList ++ literal) ++ '\n' :: rest)).bind
      (fun a => Literal.read? a.2) = some (v, '\n' :: rest) := by
    rw [assigned?_append, h.assigned?, Option.map_some, Option.bind_some, hread]
  have hlength : (name ++ (" = ".toList ++ literal) ++ '\n' :: rest).length -
      ('\n' :: rest).length = (name ++ (" = ".toList ++ literal)).length := by
    rw [List.length_append, Nat.add_sub_cancel]
  unfold firstLine
  rw [hassigned]
  dsimp only
  rw [hlength, List.take_left]
  simp [isLineEnd]

/-- **Lines that are closed are read back.** -/
theorem codeLines_unlines (h : ∀ l ∈ ls, Closed l) : codeLines (unlines ls) = ls := by
  induction ls with
  | nil => rw [unlines, List.flatMap_nil, codeLines]
  | cons l ls ih =>
      have hclosed := h l List.mem_cons_self (unlines ls)
      have hrest := ih fun m hm => h m (List.mem_cons_of_mem l hm)
      have htext : unlines (l :: ls) = l ++ '\n' :: unlines ls := by
        simp [unlines]
      rw [htext]
      cases l with
      | nil =>
          rw [List.nil_append] at hclosed ⊢
          rw [codeLines, hclosed, List.length_nil, List.drop_zero, hrest]
      | cons c cs =>
          rw [List.cons_append] at hclosed ⊢
          rw [codeLines, hclosed, List.length_cons, List.append_cons, List.drop_left' (by simp),
            hrest]

end Lines

/-! ### What lines define -/

section Definitions

variable {l name value : List Char} {ls ms : List (List Char)}

theorem fieldsBelow_append (h : fieldsBelow ms = []) : fieldsBelow (ls ++ ms) = fieldsBelow ls := by
  unfold fieldsBelow at h ⊢
  rw [List.takeWhile_append]
  split_ifs with hall
  · rw [List.filterMap_append, h, List.append_nil, (List.takeWhile_prefix _).eq_of_length hall]
  · rfl

/-- **What lines define does not depend on the lines above them.** -/
theorem definitions_append (h : fieldsBelow ms = []) :
    definitions (ls ++ ms) = definitions ls ++ definitions ms := by
  induction ls with
  | nil => rfl
  | cons l ls ih =>
      have hof : definitionsOf l (ls ++ ms) = definitionsOf l ls := by
        unfold definitionsOf
        rw [fieldsBelow_append h]
      rw [List.cons_append, definitions, hof, ih, definitions, List.append_assoc]

/-- Lines without fields on top of others. -/
theorem fieldsBelow_of_margin {c : Char} {cs : List Char} (hc : isBlank c = false) :
    fieldsBelow ((c :: cs) :: ls) = [] := by
  simp [fieldsBelow, hc]

/-- A line that is empty, a comment, or behind blanks. -/
def IsInner (l : List Char) : Prop :=
  l.head?.all (fun c => isBlank c || c == '#') = true

theorem IsInner.assigned? (h : IsInner l) : TopLevel.assigned? l = none := by
  cases l with
  | nil => rfl
  | cons c cs =>
      have hc : isBlank c = true ∨ c = '#' := by simpa [IsInner] using h
      unfold TopLevel.assigned?
      rcases hc with hc | rfl
      · simp [hc]
      · simp [show isBlank '#' = false by decide]

theorem IsInner.isPlain (h : IsInner l) (hline : OneLine l) : IsPlain l := by
  refine ⟨hline, ?_⟩
  rw [h.assigned?]
  rfl

theorem definitionsOf_inner (h : IsInner l) (below : List (List Char)) :
    definitionsOf l below = [] := by
  cases l with
  | nil => rfl
  | cons c cs =>
      have hc : isBlank c = true ∨ c = '#' := by simpa [IsInner] using h
      -- no word that opens a definition starts like this
      have hne : ∀ d ∈ ['i', 'f', 'd', 'a', 'c'], d ≠ c := by
        rintro d hd rfl
        rcases hc with hc | rfl
        · fin_cases hd <;> revert hc <;> decide
        · revert hd
          decide
      simp only [List.mem_cons, List.not_mem_nil, or_false, forall_eq_or_imp, forall_eq] at hne
      obtain ⟨hi, hf, hd, ha, hclass⟩ := hne
      unfold definitionsOf
      rw [h.assigned?]
      simp [importedNames, opened?, List.dropPrefix?, hi, hf, hd.symm, ha.symm, hclass.symm]

theorem definitions_inner (h : ∀ l ∈ ls, IsInner l) : definitions ls = [] := by
  induction ls with
  | nil => rfl
  | cons l ls ih =>
      rw [definitions, definitionsOf_inner (h l List.mem_cons_self),
        ih fun m hm => h m (List.mem_cons_of_mem l hm)]
      rfl

/-- The name of what a line opens. -/
theorem opened?_append {word : String} (h : '(' ∉ name) (rest : List Char) :
    opened? word (word.toList ++ (name ++ '(' :: rest)) = some (String.ofList name) := by
  have hname : ∀ c ∈ name, decide (c ≠ '(') = true := by
    intro c hc
    simpa using fun he : c = '(' => h (he ▸ hc)
  unfold opened?
  rw [List.dropPrefix?_append_of_beq _ (beq_self_eq_true _), Option.map_some,
    List.takeWhile_append_of_pos hname]
  simp

theorem definitionsOf_def (h : '(' ∉ name) (rest : List Char) (below : List (List Char)) :
    definitionsOf ("def ".toList ++ (name ++ '(' :: rest)) below =
      [(String.ofList name, .function)] := by
  unfold definitionsOf
  rw [opened?_append h]
  rfl

theorem definitionsOf_async (h : '(' ∉ name) (rest : List Char) (below : List (List Char)) :
    definitionsOf ("async def ".toList ++ (name ++ '(' :: rest)) below =
      [(String.ofList name, .function)] := by
  unfold definitionsOf
  rw [opened?_append h]
  rfl

theorem definitionsOf_class (h : '(' ∉ name) (rest : List Char) (below : List (List Char)) :
    definitionsOf ("class ".toList ++ (name ++ '(' :: rest)) below =
      [(String.ofList name, .record (fieldsBelow below))] := by
  unfold definitionsOf
  rw [opened?_append h]
  rfl

/-- The line of an assignment opens with a word and a blank only if the word is its name. -/
theorem not_prefix_assignment {word : List Char} (more : List Char) (hword : ∀ c ∈ word, isBlank c = false)
    (hname : ∀ c ∈ name, isBlank c = false) (hne : name ≠ word) (value : List Char) :
    ¬ word ++ ' ' :: more <+: name ++ (" = ".toList ++ value) := by
  rintro ⟨t, he⟩
  have hcut := congrArg (List.takeWhile (!isBlank ·)) he
  rw [List.append_assoc] at hcut
  exact hne ((takeWhile_word hname _).symm.trans (hcut.symm.trans (takeWhile_word hword _)))

theorem opened?_assignment {w : List Char} (word : String) (more : List Char)
    (hword : word.toList = w ++ ' ' :: more) (hw : ∀ c ∈ w, isBlank c = false) (hname : ∀ c ∈ name, isBlank c = false) (hne : name ≠ w)
    (value : List Char) : opened? word (name ++ (" = ".toList ++ value)) = none := by
  unfold opened?
  rw [Option.map_eq_none_iff, Option.eq_none_iff_forall_ne_some]
  intro s hs
  obtain ⟨p, he, hp⟩ := List.dropPrefix?_eq_some_iff.1 hs
  rw [eq_of_beq hp, hword] at he
  exact not_prefix_assignment more hw hname hne value ⟨s, he.symm⟩

theorem isBlank_of_mem_keyword (word : String) (h : word ∈ keywords) :
    ∀ c ∈ word.toList, isBlank c = false := by
  have hall : (keywords.all fun w => w.toList.all (!isBlank ·)) = true := by decide
  simpa using List.all_eq_true.1 hall word h

/-- An assignment defines its name. -/
theorem definitionsOf_assignment (h : IsName name) (hkeyword : isKeyword (String.ofList name) = false)
    (value : List Char) (below : List (List Char)) :
    definitionsOf (name ++ (" = ".toList ++ value)) below =
      [(String.ofList name, meaningOf value)] := by
  have hne : ∀ word ∈ keywords, name ≠ word.toList := by
    rintro word hword rfl
    rw [isKeyword, String.ofList_toList, List.contains_iff_mem.2 hword] at hkeyword
    cases hkeyword
  have hdef := opened?_assignment "def " [] rfl (isBlank_of_mem_keyword "def" (by decide)) h.blank
    (hne "def" (by decide)) value
  have hasync := opened?_assignment "async def " "def ".toList rfl
    (isBlank_of_mem_keyword "async" (by decide)) h.blank (hne "async" (by decide)) value
  have hclass := opened?_assignment "class " [] rfl (isBlank_of_mem_keyword "class" (by decide))
    h.blank (hne "class" (by decide)) value
  have himport : ¬ "import ".toList <+: name ++ (" = ".toList ++ value) :=
    not_prefix_assignment [] (isBlank_of_mem_keyword "import" (by decide)) h.blank
      (hne "import" (by decide)) value
  have hfrom : ¬ "from ".toList <+: name ++ (" = ".toList ++ value) :=
    not_prefix_assignment [] (isBlank_of_mem_keyword "from" (by decide)) h.blank
      (hne "from" (by decide)) value
  have hnone : importedNames (name ++ (" = ".toList ++ value)) = [] := by
    unfold importedNames
    rw [if_neg]
    simpa [List.isPrefixOf_iff_prefix] using ⟨himport, hfrom⟩
  unfold definitionsOf
  rw [hnone, hdef, hasync, hclass, h.assigned?]
  rfl

end Definitions

end TopLevel

/-! ### Names in their normal forms -/

/-- The plain character for a full-width one. -/
def plainChar (c : Char) : Char :=
  if 0xFF01 ≤ c.toNat ∧ c.toNat ≤ 0xFF5E then Char.ofNat (c.toNat - 0xFEE0) else c

/-- The normal forms of names.  Names of ASCII characters are in normal form. -/
structure Normalizer where
  normal : String → String
  normal_ascii : ∀ name, (∀ c ∈ name.toList, c.toNat < 0x80) → normal name = name

/-- The normal forms that put plain characters for full-width ones. -/
def Normalizer.fullWidth : Normalizer where
  normal name := String.ofList (name.toList.map plainChar)
  normal_ascii := by
    intro name h
    have hchar : ∀ c ∈ name.toList, plainChar c = c := by
      intro c hc
      have hascii := h c hc
      exact if_neg (by omega)
    rw [List.map_congr_left hchar, List.map_id', String.ofList_toList]

/-- The normal forms of some names tell them from each other and from some others. -/
def Normalizer.TellsApart (N : Normalizer) (names others : List String) : Prop :=
  ∀ a ∈ names, ∀ b ∈ names ++ others, N.normal b = N.normal a → b = a

/-- A text defines a name once: of all its definitions, this is the one under the name. -/
def Normalizer.Defines (N : Normalizer) (text name : String) (meaning : Meaning) : Prop :=
  (TopLevel.read text.toList).filter (fun e => decide (N.normal e.1 = N.normal name)) =
    [(name, meaning)]

/-- An item that is counted once is alone under its key. -/
theorem filter_eq_singleton {α β : Type} [DecidableEq β] {f : α → β} {xs : List α} {x : α}
    (hx : x ∈ xs) (hcount : (xs.map f).count (f x) = 1) : xs.filter (fun y => decide (f y = f x)) = [x] := by
  have hlength : (xs.filter fun y => decide (f y = f x)).length = 1 := by
    rw [← hcount, ← List.countP_eq_length_filter, List.count, List.countP_map]
    exact List.countP_congr fun y _ => by simp
  obtain ⟨y, hy⟩ := List.length_eq_one_iff.1 hlength
  have hmem : x ∈ xs.filter fun y => decide (f y = f x) := List.mem_filter.2 ⟨hx, by simp⟩
  rw [hy, List.mem_singleton] at hmem
  rw [hy, hmem]

/-- **A name that is written once is defined once**, if its normal form tells it from the others. -/
theorem Normalizer.defines_of_count {N : Normalizer} {text name : String} {meaning : Meaning}
    (hnormal : ∀ e ∈ TopLevel.read text.toList, N.normal e.1 = N.normal name → e.1 = name)
    (hmem : (name, meaning) ∈ TopLevel.read text.toList)
    (hcount : ((TopLevel.read text.toList).map (·.1)).count name = 1) : N.Defines text name meaning := by
  have hsame : (TopLevel.read text.toList).filter (fun e => decide (N.normal e.1 = N.normal name)) =
      (TopLevel.read text.toList).filter (fun e => decide (e.1 = (name, meaning).1)) := by
    refine List.filter_congr fun e he => ?_
    rw [decide_eq_decide]
    exact ⟨hnormal e he, congrArg N.normal⟩
  unfold Normalizer.Defines
  rw [hsame]
  exact filter_eq_singleton hmem hcount

end SqlContract
