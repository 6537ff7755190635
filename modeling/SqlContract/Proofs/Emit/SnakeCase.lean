/-
The snake form of a name.

The snake form of a name of ASCII is the name in small letters, with an underscore before each capital
that opens a word.  Whether a capital opens a word is said here by its place in the name and by the
characters beside it; the form itself is made along the name, with nothing but the last character in
hand.

Main definitions:

* `IsAscii` — a text of ASCII characters;
* `opensWordAt` — the places of the capitals that open a word.

Main results:

* `separateWords_eq` — an underscore is inserted before each capital that opens a word, and nowhere else;
* `lower_of_isAscii` — the lower case of ASCII goes character by character;
* `snakeChars_snakeChars` — a snake form is its own snake form;
* `snakeCase_spec` — **the snake form makes small letters and inserts underscores, and nothing more**.
-/

import SqlContract.Proofs.Emit.Identifiers

set_option autoImplicit false
set_option relaxedAutoImplicit false

namespace SqlContract

open Text

/-! ### Words inside a name -/

/-- The capitals that open a word inside a name, by their places: each stands behind a small letter or a
digit, or behind another capital and before a small letter. -/
def opensWordAt (name : List Char) (i : Nat) : Bool :=
  0 < i && name[i]?.any Char.isUpper &&
    (name[i - 1]?.any (fun prev => prev.isLower || prev.isDigit) ||
      name[i - 1]?.any Char.isUpper && name[i + 1]?.any Char.isLower)

/-- Whether a word starts behind `before` and the last character of it, read off the place. -/
theorem opensWordAt_eq (before : List Char) (prev c : Char) (after : List Char) :
    opensWordAt (before ++ prev :: c :: after) (before.length + 1) = startsWord prev c after := by
  have hbehind : (before ++ prev :: c :: after)[before.length + 1 + 1]? = after.head? := by
    rw [List.getElem?_append_right (by omega), List.head?_eq_getElem?]
    have hplace : before.length + 1 + 1 - before.length = 2 := by omega
    rw [hplace, List.getElem?_cons_succ, List.getElem?_cons_succ]
  have hplace : (before ++ prev :: c :: after)[before.length + 1]? = some c := by simp
  have hbefore : (before ++ prev :: c :: after)[before.length + 1 - 1]? = some prev := by simp
  unfold opensWordAt startsWord
  rw [hplace, hbefore, hbehind]
  simp [Bool.or_assoc]

/-- Behind the first character an underscore is inserted before each capital that opens a word. -/
theorem separateFrom_eq (before : List Char) (prev : Char) (s : List Char) :
    separateFrom prev s = (s.zipIdx (before.length + 1)).flatMap fun p =>
      if opensWordAt (before ++ prev :: s) p.2 then ['_', p.1] else [p.1] := by
  -- along the rest of the name, the character in hand joining those before it
  induction s generalizing before prev with
  | nil => rfl
  | cons c cs ih =>
      have hrest := ih (before ++ [prev]) c
      rw [List.length_append, List.length_singleton, List.append_assoc, List.singleton_append] at hrest
      rw [separateFrom, List.zipIdx_cons, List.flatMap_cons, opensWordAt_eq, ← hrest]
      split_ifs <;> rfl

/-- **An underscore is inserted before each capital that opens a word**, and nowhere else. -/
theorem separateWords_eq (name : List Char) :
    separateWords name = name.zipIdx.flatMap fun p =>
      if opensWordAt name p.2 then ['_', p.1] else [p.1] := by
  cases name with
  | nil => rfl
  | cons c cs =>
      have hrest := separateFrom_eq [] c cs
      have hfirst : opensWordAt (c :: cs) 0 = false := rfl
      rw [separateWords, hrest, List.zipIdx_cons, List.flatMap_cons, hfirst]
      rfl

theorem separateFrom_of_small {prev : Char} {s : List Char} (h : ∀ c ∈ s, c.isUpper = false) :
    separateFrom prev s = s := by
  induction s generalizing prev with
  | nil => rfl
  | cons c cs ih =>
      have hc : startsWord prev c cs = false := by
        rw [startsWord, h c List.mem_cons_self, Bool.false_and]
      rw [separateFrom, hc, ih fun d hd => h d (List.mem_cons_of_mem c hd)]
      rfl

/-- Where no capital stands no word starts inside a name. -/
theorem separateWords_of_small {s : List Char} (h : ∀ c ∈ s, c.isUpper = false) :
    separateWords s = s := by
  cases s with
  | nil => rfl
  | cons c cs =>
      rw [separateWords, separateFrom_of_small fun d hd => h d (List.mem_cons_of_mem c hd)]

/-! ### Names of ASCII -/

/-- A text of ASCII characters. -/
def IsAscii (s : List Char) : Prop :=
  ∀ c ∈ s, c.toNat < 0x80

theorem IsAscii.tail {c : Char} {s : List Char} (h : IsAscii (c :: s)) : IsAscii s :=
  fun d hd => h d (List.mem_cons_of_mem c hd)

theorem IsAscii.separateFrom {prev : Char} {s : List Char} (h : IsAscii s) :
    IsAscii (separateFrom prev s) := by
  induction s generalizing prev with
  | nil => exact h
  | cons c cs ih =>
      have hc := h c List.mem_cons_self
      rw [SqlContract.separateFrom]
      split_ifs <;> intro d hd <;> simp only [List.mem_cons] at hd
      · rcases hd with rfl | rfl | hd
        · decide
        · exact hc
        · exact ih h.tail d hd
      · rcases hd with rfl | hd
        · exact hc
        · exact ih h.tail d hd

theorem IsAscii.separateWords {s : List Char} (h : IsAscii s) : IsAscii (separateWords s) := by
  cases s with
  | nil => exact h
  | cons c cs =>
      intro d hd
      rcases List.mem_cons.1 hd with rfl | hd
      · exact h d List.mem_cons_self
      · exact h.tail.separateFrom d hd

theorem lowerFrom_of_isAscii {afterCased : Bool} {s : List Char} (h : IsAscii s) :
    lowerFrom afterCased s = s.map Char.toLower := by
  induction s generalizing afterCased with
  | nil => rfl
  | cons c cs ih =>
      have hc := h c List.mem_cons_self
      have hsigma : c ≠ 'Σ' := by
        rintro rfl
        revert hc
        decide
      rw [lowerFrom, if_neg hsigma, lowerChar, if_pos hc, ih h.tail]
      rfl

/-- The lower case of ASCII goes character by character. -/
theorem lower_of_isAscii {s : List Char} (h : IsAscii s) : lower s = s.map Char.toLower :=
  lowerFrom_of_isAscii h

theorem IsAscii.map_toLower {s : List Char} (h : IsAscii s) : IsAscii (s.map Char.toLower) := by
  intro d hd
  obtain ⟨c, hc, rfl⟩ := List.mem_map.1 hd
  exact of_ascii (P := fun c => c.toLower.toNat < 0x80) (by decide +kernel) (h c hc)

/-- Small letters are made of a name as well behind its underscores. -/
theorem bare_map_toLower {s : List Char} (h : IsAscii s) :
    bare (s.map Char.toLower) = (bare s).map Char.toLower := by
  unfold bare
  rw [List.filter_map]
  refine congrArg (List.map Char.toLower) (List.filter_congr fun c hc => ?_)
  by_cases hunderscore : c = '_'
  · rw [hunderscore]
    decide
  · have hlower := (toLower_of_ascii (h c hc)).2 hunderscore
    simp [hunderscore, hlower.symm]

/-! ### The snake form -/

/-- The snake form of a name of ASCII, as it is put together. -/
theorem snakeChars_of_isAscii {name : List Char} (h : IsAscii name) :
    snakeChars name = (separateWords name).map Char.toLower :=
  lower_of_isAscii h.separateWords

/-- Without its underscores the snake form is the bare name in lower case. -/
theorem bare_snakeChars {name : List Char} (h : IsAscii name) :
    bare (snakeChars name) = bare (lower name) := by
  rw [snakeChars_of_isAscii h, bare_map_toLower h.separateWords, bare_separateWords,
    lower_of_isAscii h, bare_map_toLower h]

/-- A snake form is its own snake form. -/
theorem snakeChars_snakeChars {name : List Char} (h : IsAscii name) :
    snakeChars (snakeChars name) = snakeChars name := by
  have hsmall : ∀ c ∈ snakeChars name, c.isUpper = false := fun c hc => isUpper_of_mem_lower hc
  have hascii : IsAscii (snakeChars name) := by
    rw [snakeChars_of_isAscii h]
    exact h.separateWords.map_toLower
  calc snakeChars (snakeChars name)
      = (separateWords (snakeChars name)).map Char.toLower := snakeChars_of_isAscii hascii
    _ = (snakeChars name).map Char.toLower := by rw [separateWords_of_small hsmall]
    _ = (snakeChars name).map id := List.map_congr_left fun c hc =>
        Char.toLower_eq_of_not_isUpper (by simp [hsmall c hc])
    _ = snakeChars name := List.map_id _

/-- The snake form, place by place: each character in its small form, and before each capital that opens
a word an underscore. -/
theorem snakeChars_eq {name : List Char} (h : IsAscii name) :
    snakeChars name = name.zipIdx.flatMap fun p =>
      if opensWordAt name p.2 then ['_', p.1.toLower] else [p.1.toLower] := by
  rw [snakeChars_of_isAscii h, separateWords_eq, List.map_flatMap]
  refine List.flatMap_congr fun p _ => ?_
  split_ifs <;> rfl

/-- **The snake form makes small letters and inserts underscores, and nothing more.**  Without its
underscores it is the bare name in lower case; it has no capital and is an identifier; it has the
characters of the name in their places, the underscores among them, and one more underscore before each
capital that opens a word; it is its own snake form.  Two statements whose accessors have one name
therefore have names that agree up to letter case and underscores. -/
theorem snakeCase_spec (name : String) (hascii : IsAscii name.toList)
    (hname : isIdentifierForm name.toList = true) :
    bare (snakeCase name).toList = bare (lower name.toList) ∧
      (∀ c ∈ (snakeCase name).toList, c.isUpper = false) ∧
      isIdentifierForm (snakeCase name).toList = true ∧
      (snakeCase name).toList = (name.toList.zipIdx.flatMap fun p =>
        if opensWordAt name.toList p.2 then ['_', p.1.toLower] else [p.1.toLower]) ∧
      snakeCase (snakeCase name) = snakeCase name ∧
      ∀ c c' : Contract, c.name = name → IsAscii c'.name.toList →
        c.names.function = c'.names.function →
          bare (lower c.name.toList) = bare (lower c'.name.toList) := by
  have hsnake : ∀ name : String, (snakeCase name).toList = snakeChars name.toList := fun name => by
    rw [snakeCase, String.toList_ofList]
  rw [hsnake]
  refine ⟨bare_snakeChars hascii, fun c hc => isUpper_of_mem_lower hc, ?_, snakeChars_eq hascii, ?_, ?_⟩
  · rw [isIdentifierForm_snakeChars, hname]
  · rw [snakeCase, hsnake, snakeChars_snakeChars hascii]
    rfl
  · rintro c c' rfl hascii' hfunction
    have hforms : snakeChars c.name.toList = snakeChars c'.name.toList := by
      rw [← hsnake, ← hsnake]
      exact congrArg String.toList hfunction
    rw [← bare_snakeChars hascii, ← bare_snakeChars hascii', hforms]

/-- Runs of capitals, digits and underscores of all places in one name. -/
theorem snakeCase_spec_capitals :
    let name := "_getHTTPStatus2For_XMLDoc"
    IsAscii name.toList ∧ isIdentifierForm name.toList = true ∧
      bare (snakeCase name).toList = bare (lower name.toList) ∧
      (snakeCase name).toList = "_get_http_status2_for_xml_doc".toList ∧
      snakeCase (snakeCase name) = snakeCase name := by
  intro name
  have hascii : IsAscii name.toList := by simp [IsAscii, name]
  have hname : isIdentifierForm name.toList = true := by cbv
  obtain ⟨hbare, -, -, -, hagain, -⟩ := snakeCase_spec name hascii hname
  exact ⟨hascii, hname, hbare, by decide +kernel, hagain⟩

end SqlContract
