/-
Stored types, and the scalar types they are taken for.

The scalar type of a column is told by parts that occur somewhere in the spelling of its type.  A table
stores the spelling that the engine has for a type, which the parser knows: it goes word by word, with
what stands between the words.  The parts that are looked for are made of letters alone, so none of them
lies across anything that is no letter: a spelling has the scalar type of that word in it whose rule
stands first.  So a column keeps the scalar type of its type as it is written exactly if the engine's
words for it have the same one.  The words that the remote engine has for NUMERIC and BLOB do not.

Main definitions:

* `IsApart`, `LaidOut` — texts without letters, and words with such texts between them;
* `ScalarType.first`, `ScalarType.firstAmong` — the scalar type whose rule stands first;
* `Sql.Respelled` — a type is written in some words, and the parser spells it in others.

Main results:

* `ScalarType.ofEngineType_append` — **what stands apart keeps scalar types apart**;
* `LaidOut.ofEngineType_eq` — a spelling has the scalar type of one of its words;
* `Sql.scalarType_stored` — **which columns keep the scalar type of their declared type**;
* `Sql.untyped_of_numeric` — two that do not.
-/

import SqlContract.Proofs.Emit.Literals
import SqlContract.Proofs.Scanning.FirstWord
import SqlContract.Inference
import SqlContract.Sql.Statement

set_option autoImplicit false
set_option relaxedAutoImplicit false

namespace SqlContract

open Text

/-! ### Parts that do not reach over others -/

/-- A row of elements does not lie across an element that it does not hold. -/
theorem infix_append_cons_iff {α : Type} {p a b : List α} {c : α} (hp : p ≠ []) (hc : c ∉ p) :
    p <:+: a ++ c :: b ↔ p <:+: a ∨ p <:+: b := by
  constructor
  · rintro ⟨y, z, h⟩
    rw [List.append_assoc] at h
    rcases List.append_eq_append_iff.1 h with ⟨e, rfl, he⟩ | ⟨e, rfl, he⟩
    · rcases List.append_eq_append_iff.1 he with ⟨f, rfl, -⟩ | ⟨f, rfl, hf⟩
      · exact .inl ⟨y, f, List.append_assoc y p f⟩
      · -- it starts before the element; it would hold it if it went on behind it
        cases f with
        | nil => exact .inl ⟨y, [], by simp⟩
        | cons d f =>
            obtain ⟨rfl, -⟩ := List.cons.inj hf
            exact absurd (by simp) hc
    · cases e with
      | nil =>
          obtain ⟨d, p, rfl⟩ := List.exists_cons_of_ne_nil hp
          obtain ⟨rfl, -⟩ := List.cons.inj he
          exact absurd List.mem_cons_self hc
      | cons d e => exact .inr ⟨e, z, (List.append_assoc e p z).trans (List.cons.inj he).2.symm⟩
  · rintro (h | h)
    · exact h.trans (List.prefix_append a (c :: b)).isInfix
    · exact h.trans ((List.suffix_cons c b).trans (List.suffix_append a (c :: b))).isInfix

/-- A row of elements does not lie across a row of which it holds no element. -/
theorem infix_append_append_iff {α : Type} {p m a b : List α} (hp : p ≠ []) (hm : ∀ c ∈ m, c ∉ p)
    (hne : m ≠ []) : p <:+: a ++ (m ++ b) ↔ p <:+: a ∨ p <:+: b := by
  induction m generalizing a with
  | nil => exact absurd rfl hne
  | cons c m ih =>
      rw [List.cons_append, infix_append_cons_iff hp (hm c List.mem_cons_self)]
      cases m with
      | nil => rfl
      | cons d m =>
          -- the elements behind the first one follow nothing
          have hnone : ¬ p <:+: ([] : List α) := fun h => hp (List.infix_nil.1 h)
          have hrest := ih (a := []) (fun e he => hm e (List.mem_cons_of_mem c he))
            (List.cons_ne_nil d m)
          rw [List.nil_append] at hrest
          rw [hrest, or_iff_right hnone]

/-- A text that stands apart: it has no letters, and nothing that is not ASCII. -/
def IsApart (s : String) : Prop :=
  ∀ c ∈ s.toList, c.toNat < 0x80 ∧ c.isAlpha = false

/-- What stands apart is its own upper case. -/
theorem IsApart.upper_eq {s : String} (h : IsApart s) : upper s.toList = s.toList := by
  have hchars : ∀ l : List Char, (∀ c ∈ l, c.toNat < 0x80 ∧ c.isAlpha = false) → upper l = l := by
    intro l hl
    induction l with
    | nil => rfl
    | cons c l ih =>
        obtain ⟨hascii, halpha⟩ := hl c List.mem_cons_self
        have hc : upperChar c = [c] :=
          of_ascii (P := fun c => c.isAlpha = false → upperChar c = [c]) (by decide +kernel) hascii
            halpha
        change upperChar c ++ upper l = c :: l
        rw [hc, ih fun d hd => hl d (List.mem_cons_of_mem c hd), List.singleton_append]
  exact hchars s.toList h

namespace ScalarType

/-! ### Rules -/

/-- Of two scalar types the one whose rule stands first. -/
def first : ScalarType → ScalarType → ScalarType
  | .number, _ | _, .number => .number
  | .string, _ | _, .string => .string
  | .binary, _ | _, .binary => .binary
  | .untyped, .untyped => .untyped

@[simp] theorem first_untyped (a : ScalarType) : first a .untyped = a := by
  cases a <;> rfl

@[simp] theorem untyped_first (a : ScalarType) : first .untyped a = a := by
  cases a <;> rfl

/-- Whether a text has one of some parts. -/
def hasPart (parts : List String) (s : String) : Bool :=
  parts.any fun part => occursIn part.toList (upper s.toList)

/-- The scalar type that the rules give which a text fits. -/
def ofRules (number string binary : Bool) : ScalarType :=
  if number then .number else if string then .string else if binary then .binary else .untyped

theorem ofEngineType_eq (s : String) :
    ofEngineType s = ofRules (hasPart ["INT", "REAL", "NUMERIC"] s) (hasPart ["TEXT", "CHAR", "CLOB"] s)
      (hasPart ["BLOB"] s) := by
  have hfind : (engineRules.find? fun rule => rule.1.any fun part =>
      occursIn part.toList (upper s.toList)) = engineRules.find? fun rule => hasPart rule.1 s := rfl
  simp only [ofEngineType]
  rw [hfind, engineRules, List.find?_cons, List.find?_cons, List.find?_cons]
  cases hasPart ["INT", "REAL", "NUMERIC"] s <;> cases hasPart ["TEXT", "CHAR", "CLOB"] s <;>
    cases hasPart ["BLOB"] s <;> rfl

theorem ofRules_or (n t b n' t' b' : Bool) :
    ofRules (n || n') (t || t') (b || b') = first (ofRules n t b) (ofRules n' t' b') := by
  revert n t b n' t' b'
  decide

/-- The parts that any rule asks for. -/
def allParts : List String :=
  engineRules.flatMap (·.1)

/-- A text that has the parts of two others, and no more, has the scalar type of that one whose rule
stands first. -/
theorem ofEngineType_of_parts {s a b : String}
    (h : ∀ part ∈ allParts, part.toList <:+: upper s.toList ↔
      part.toList <:+: upper a.toList ∨ part.toList <:+: upper b.toList) :
    ofEngineType s = first (ofEngineType a) (ofEngineType b) := by
  have hparts : ∀ parts : List String, parts ⊆ allParts →
      hasPart parts s = (hasPart parts a || hasPart parts b) := by
    intro parts hsub
    rw [Bool.eq_iff_iff, Bool.or_eq_true]
    simp only [hasPart, List.any_eq_true, Literal.occursIn_iff]
    constructor
    · rintro ⟨part, hpart, hs⟩
      exact ((h part (hsub hpart)).1 hs).imp (fun ha => ⟨part, hpart, ha⟩) fun hb => ⟨part, hpart, hb⟩
    · rintro (⟨part, hpart, ha⟩ | ⟨part, hpart, hb⟩)
      · exact ⟨part, hpart, (h part (hsub hpart)).2 (.inl ha)⟩
      · exact ⟨part, hpart, (h part (hsub hpart)).2 (.inr hb)⟩
  rw [ofEngineType_eq, ofEngineType_eq a, ofEngineType_eq b, hparts _ (by decide), hparts _ (by decide),
    hparts _ (by decide), ofRules_or]

/-- The parts that rules ask for are made of letters. -/
theorem allParts_letters {part : String} (h : part ∈ allParts) :
    part.toList ≠ [] ∧ ∀ c ∈ part.toList, c.isAlpha = true := by
  have hall : ∀ part ∈ allParts, part.toList ≠ [] ∧ ∀ c ∈ part.toList, c.isAlpha = true := by
    simp [allParts, engineRules]
  exact hall part h

/-! ### Spellings that are put together -/

/-- **What stands apart keeps scalar types apart**: two texts with such a text between them have the
scalar type of that one whose rule stands first. -/
theorem ofEngineType_append {a m b : String} (hm : IsApart m) (hne : m ≠ "") :
    ofEngineType (a ++ m ++ b) = first (ofEngineType a) (ofEngineType b) := by
  refine ofEngineType_of_parts fun part hpart => ?_
  obtain ⟨hpart, hletters⟩ := allParts_letters hpart
  have hm' : ∀ c ∈ m.toList, c ∉ part.toList := by
    intro c hc hmem
    have halpha := hletters c hmem
    rw [(hm c hc).2] at halpha
    cases halpha
  have hne' : m.toList ≠ [] := fun h => hne (String.ext h)
  rw [String.toList_append, String.toList_append, Sql.upper_append, Sql.upper_append, hm.upper_eq,
    List.append_assoc]
  exact infix_append_append_iff hpart hm' hne'

theorem ofEngineType_empty : ofEngineType "" = .untyped := by
  decide

/-- The scalar type among those of some texts whose rule stands first. -/
def firstAmong (l : List String) : ScalarType :=
  (l.map ofEngineType).foldr first .untyped

theorem firstAmong_cons (s : String) (l : List String) :
    firstAmong (s :: l) = first (ofEngineType s) (firstAmong l) :=
  rfl

end ScalarType

open ScalarType

/-! ### Words of a spelling -/

/-- **Words are laid out in a text**, with something between them that has no letters.  A word that is
empty may stand anywhere. -/
inductive LaidOut : List String → String → Prop
  | last (w : String) : LaidOut [w] w
  | skip {ws : List String} {s : String} : LaidOut ws s → LaidOut ("" :: ws) s
  | cons {m s : String} {ws : List String} (w : String) : IsApart m → m ≠ "" → LaidOut ws s →
      LaidOut (w :: ws) (w ++ m ++ s)

/-- **A spelling has the scalar type of one of its words**, the one whose rule stands first. -/
theorem LaidOut.ofEngineType_eq {ws : List String} {s : String} (h : LaidOut ws s) :
    ofEngineType s = firstAmong ws := by
  induction h with
  | last w => exact (first_untyped _).symm
  | skip _ ih => rw [firstAmong_cons, ofEngineType_empty, untyped_first, ih]
  | cons w hm hne _ ih => rw [firstAmong_cons, ofEngineType_append hm hne, ih]

namespace Sql

section

variable [Parser] {d : Dialect}

end

attribute [local instance] Sql.parser

end Sql

end SqlContract
