/-
Texts as a reader of SQL divides them.

The splitting at semicolons knows literals, identifiers in double quotes and comments.  A reader of
SQL knows names in brackets and in backticks as well.  To the splitter such a name is text like any
other, so that a semicolon in it ends a statement, and a quote or a comment sign in it opens what the
reader has not opened.  As long as no name holds such a sign the two meet the same semicolons.

Main definitions:

* `Span`, `Span.Written` — what a reader divides a text into, and which spans may stand side by side;
* `Span.SemicolonAt` — the semicolons of the reader; those of the splitter are `SeparatorAt`;
* `Span.ReadsOne` — behind a semicolon nothing stands but blanks, comments and more semicolons.

Main results:

* `Span.scan_spell` — the scan of spans whose names hold no sign that the splitter minds;
* `Span.Written.semicolonAt` — **the splitter ends statements where the reader does**, if the names are
  such.
-/

import SqlContract.Proofs.Scanning.Splitting
import SqlContract.Proofs.Scanning.Stretches

set_option autoImplicit false
set_option relaxedAutoImplicit false

namespace SqlContract.Sql

open SqlContract.Text

/-! ### Spans -/

/-- The marks around a name that are no quotes. -/
inductive Fence
  | brackets
  | backticks
  deriving DecidableEq, Repr

def Fence.opening : Fence → Char
  | .brackets => '['
  | .backticks => '\x60'

def Fence.closing : Fence → Char
  | .brackets => ']'
  | .backticks => '\x60'

/-- What a reader of SQL divides a text into: a stretch that the splitter knows as well, or a name
between marks that the splitter does not know. -/
inductive Span
  | stretch (l : Stretch)
  | name (fence : Fence) (body : List Char)
  deriving DecidableEq, Repr

namespace Span

def text : Span → List Char
  | .stretch l => l.text
  | .name f body => f.opening :: (body ++ [f.closing])

/-- Inside a name the closing mark is doubled. -/
def WellFormed : Span → Prop
  | .stretch l => l.WellFormed
  | .name f body => Doubled f.closing body

instance (l : Span) : Decidable l.WellFormed :=
  match l with
  | .stretch l => inferInstanceAs (Decidable l.WellFormed)
  | .name f body => decidable_of_iff (closeQuote f.closing (body ++ [f.closing]) = some (body, []))
      doubled_iff_closeQuote.symm

/-- Which spans may stand side by side: a name must not go on, and a line comment needs a line feed
behind it. -/
def MayPrecede : Span → Span → Prop
  | .stretch a, .stretch b => a.MayPrecede b
  | .stretch (.piece (.lineComment _)), .name _ _ => False
  | .stretch _, .name _ _ => True
  | .name f _, .stretch (.ordinary s) => s.head? ≠ some f.closing
  | .name _ _, .stretch (.piece _) => True
  | .name f _, .name f' _ => f.closing ≠ f'.opening

/-- The end of a statement. -/
abbrev semicolon : Span :=
  .stretch (.piece .semicolon)

/-- Whether a span says nothing: blanks, a comment, or a semicolon. -/
def isPassedOver : Span → Bool
  | .stretch (.ordinary s) => s.all isBlank
  | .stretch (.piece p) => p.isComment || p == .semicolon
  | .name _ _ => false

/-- The mark that opens a name or a literal, and what stands in it. -/
def enclosed? : Span → Option (Char × List Char)
  | .stretch (.piece (.quoted q body)) => some (q.char, body)
  | .name f body => some (f.opening, body)
  | .stretch _ => none

/-- A name holds no sign that the splitter minds. -/
def IsClear : Span → Prop
  | .stretch _ => True
  | .name f body => IsOrdinary (Span.name f body).text

instance (l : Span) : Decidable l.IsClear :=
  match l with
  | .stretch _ => inferInstanceAs (Decidable True)
  | .name _ _ => inferInstanceAs (Decidable (IsOrdinary _))

/-- The text of some spans. -/
def spell (ls : List Span) : List Char :=
  ls.flatMap text

@[simp] theorem spell_nil : spell [] = [] := rfl

@[simp] theorem spell_cons (l : Span) (ls : List Span) : spell (l :: ls) = l.text ++ spell ls := rfl

@[simp] theorem spell_append (ls ls' : List Span) : spell (ls ++ ls') = spell ls ++ spell ls' :=
  List.flatMap_append

/-- A text as a reader divides it. -/
structure Written (ls : List Span) : Prop where
  wellFormed : ∀ l ∈ ls, l.WellFormed
  chain : ls.IsChain MayPrecede

/-- A semicolon of the reader has `place` characters of the text before it. -/
def SemicolonAt (ls : List Span) (place : Nat) : Prop :=
  ∃ n, ls[n]? = some semicolon ∧ place = (spell (ls.take n)).length

/-- The text is one statement to the reader. -/
def ReadsOne (ls : List Span) : Prop :=
  ∀ n, ls[n]? = some semicolon → ∀ l ∈ ls.drop (n + 1), l.isPassedOver = true

theorem readsOne_iff {ls : List Span} : ReadsOne ls ↔
    ∀ n < ls.length, ls[n]? = some semicolon → ∀ l ∈ ls.drop (n + 1), l.isPassedOver = true :=
  ⟨fun h n _ => h n, fun h n hn => h n (List.getElem?_eq_some_iff.1 hn).1 hn⟩

instance (ls : List Span) : Decidable (ReadsOne ls) :=
  decidable_of_iff _ readsOne_iff.symm

theorem Written.drop {ls : List Span} (h : Written ls) (n : Nat) : Written (ls.drop n) :=
  ⟨fun l hl => h.wellFormed l (List.mem_of_mem_drop hl), h.chain.drop n⟩

/-- A text cut at one of its spans. -/
theorem eq_of_getElem? {ls : List Span} {n : Nat} {l : Span} (h : ls[n]? = some l) :
    ls = ls.take n ++ l :: ls.drop (n + 1) := by
  obtain ⟨hn, rfl⟩ := List.getElem?_eq_some_iff.1 h
  rw [← List.drop_eq_getElem_cons hn, List.take_append_drop]

theorem spell_eq_of_getElem? {ls : List Span} {n : Nat} {l : Span} (h : ls[n]? = some l) :
    spell ls = spell (ls.take n) ++ (l.text ++ spell (ls.drop (n + 1))) := by
  conv_lhs => rw [eq_of_getElem? h]
  rw [spell_append, spell_cons]

/-- A name or a literal goes on behind its mark and what stands in it. -/
theorem exists_text_eq {l : Span} {c : Char} {body : List Char} (h : l.enclosed? = some (c, body)) :
    ∃ behind, l.text = c :: (body ++ behind) := by
  cases l with
  | name f body =>
      obtain ⟨rfl, rfl⟩ := Prod.mk.inj (Option.some.inj h)
      exact ⟨[f.closing], rfl⟩
  | stretch a =>
      cases a with
      | ordinary s => cases h
      | piece p =>
          cases p with
          | quoted q body =>
              obtain ⟨rfl, rfl⟩ := Prod.mk.inj (Option.some.inj h)
              exact ⟨[q.char], rfl⟩
          | plain | lineComment | blockComment | semicolon | placeholder | percent => cases h

/-! ### Scanning spans -/

/-- The pieces of a span to the splitter, whose name holds no sign that the splitter minds. -/
def pieces : Span → List Piece
  | .stretch l => l.pieces
  | .name f body => (Span.name f body).text.map .plain

/-- One span is read from a text, whose start does not go on with it. -/
theorem scan_text_append {l k : Span} (hl : l.WellFormed) (hclear : l.IsClear)
    (h : l.MayPrecede k) (hk : k.WellFormed) (t : List Char) :
    scan (l.text ++ (k.text ++ t)) = l.pieces ++ scan (k.text ++ t) := by
  cases l with
  | stretch a =>
      cases k with
      | stretch b => exact Sql.scan_text_append hl (Stretch.MayPrecede.endsBefore h hk t)
      | name f body =>
          refine Sql.scan_text_append hl ?_
          cases a with
          | ordinary s => cases f <;> exact ⟨fun _ => by simp [text, Fence.opening],
              fun _ => by simp [text, Fence.opening]⟩
          | piece p =>
              cases p with
              | quoted q body => cases q <;> cases f <;>
                  simp [Stretch.EndsBefore, text, Fence.opening, Quote.char]
              | lineComment body => exact h.elim
              | placeholder digits =>
                  intro c hc
                  obtain rfl : f.opening = c := Option.some.inj hc
                  cases f <;> decide
              | plain | blockComment | semicolon | percent => trivial
  | name f body =>
      refine scan_ordinary_append hclear ?_
      have hlast : (Span.name f body).text.getLast? = some f.closing := by
        rw [text, ← List.cons_append, List.getLast?_concat]
      refine ⟨fun he => ?_, fun he => ?_⟩
      all_goals
        rw [hlast] at he
        cases f <;> exact absurd he (by decide)

/-- The last span of a text. -/
theorem scan_text {l : Span} (hl : l.WellFormed) (hclear : l.IsClear) : scan l.text = l.pieces := by
  cases l with
  | stretch a =>
      have hscan := Sql.scan_text_append hl a.endsBefore_nil
      rwa [List.append_nil, scan_nil, List.append_nil] at hscan
  | name f body =>
      have hscan := scan_ordinary_append hclear (Stretch.ordinary _).endsBefore_nil
      rwa [List.append_nil, scan_nil, List.append_nil] at hscan

/-- **The scan of spans** whose names hold no sign that the splitter minds. -/
theorem scan_spell {ls : List Span} (h : Written ls) (hclear : ∀ l ∈ ls, l.IsClear) :
    scan (spell ls) = ls.flatMap pieces := by
  obtain ⟨hwf, hchain⟩ := h
  induction ls with
  | nil => exact scan_nil
  | cons l ls ih =>
      have hl := hwf l List.mem_cons_self
      have hlclear := hclear l List.mem_cons_self
      obtain ⟨hnext, hchain⟩ := List.isChain_cons.1 hchain
      have hrest := ih (fun k hk => hclear k (List.mem_cons_of_mem l hk))
        (fun k hk => hwf k (List.mem_cons_of_mem l hk)) hchain
      cases ls with
      | nil =>
          rw [spell_cons, spell_nil, List.append_nil, scan_text hl hlclear]
          simp
      | cons k ls =>
          have hk := hwf k (List.mem_cons_of_mem l List.mem_cons_self)
          rw [spell_cons, spell_cons, scan_text_append hl hlclear (hnext k rfl) hk, ← spell_cons,
            hrest]
          rfl

/-- What is passed over consists of blanks, comments and semicolons. -/
theorem mem_pieces_of_isPassedOver {l : Span} (h : l.isPassedOver = true) {p : Piece}
    (hp : p ∈ l.pieces) :
    (∃ c, p = .plain c ∧ isBlank c = true) ∨ p.isComment = true ∨ p = .semicolon := by
  cases l with
  | name => cases h
  | stretch a =>
      cases a with
      | ordinary s =>
          obtain ⟨c, hc, rfl⟩ := List.mem_map.1 hp
          exact .inl ⟨c, rfl, List.all_eq_true.1 h c hc⟩
      | piece q =>
          obtain rfl := List.mem_singleton.1 hp
          have hq : (p.isComment || p == .semicolon) = true := h
          rw [Bool.or_eq_true, beq_iff_eq] at hq
          exact .inr hq

theorem isClear_of_isPassedOver {l : Span} (h : l.isPassedOver = true) : l.IsClear := by
  cases l with
  | name => cases h
  | stretch => trivial

/-! ### Semicolons -/

/-- A semicolon among the pieces of spans is one of the spans. -/
theorem exists_of_semicolon_mem {ls : List Span} {start place : Nat}
    (hwf : ∀ l ∈ ls, l.WellFormed)
    (h : ⟨.semicolon, place⟩ ∈ occurrencesFrom start (ls.flatMap pieces)) :
    ∃ n, ls[n]? = some semicolon ∧ place = start + (spell (ls.take n)).length := by
  induction ls generalizing start with
  | nil => cases h
  | cons l ls ih =>
      -- one behind the first span stands one further back
      have hbehind : ∀ {m}, ⟨.semicolon, place⟩ ∈ occurrencesFrom (start + m) (ls.flatMap pieces) →
          m = l.text.length → ∃ n, (l :: ls)[n]? = some semicolon ∧
            place = start + (spell ((l :: ls).take n)).length := by
        rintro m hm rfl
        obtain ⟨n, hn, rfl⟩ := ih (fun k hk => hwf k (List.mem_cons_of_mem l hk)) hm
        refine ⟨n + 1, hn, ?_⟩
        rw [List.take_succ_cons, spell_cons, List.length_append, Nat.add_assoc]
      rw [List.flatMap_cons] at h
      cases l with
      | name f body =>
          rw [pieces, occurrencesFrom_map_plain] at h
          exact hbehind h rfl
      | stretch a =>
          cases a with
          | ordinary s =>
              rw [pieces, Stretch.pieces, occurrencesFrom_map_plain] at h
              exact hbehind h rfl
          | piece p =>
              have hp : p.isPlain = false := by
                have hwfp := hwf _ List.mem_cons_self
                cases p with
                | plain => exact hwfp.elim
                | quoted | lineComment | blockComment | semicolon | placeholder | percent => rfl
              rw [pieces, Stretch.pieces, List.singleton_append, occurrencesFrom_cons_of_not hp] at h
              rcases List.mem_cons.1 h with he | h
              · obtain ⟨rfl, rfl⟩ := Occurrence.mk.inj he
                exact ⟨0, rfl, rfl⟩
              · exact hbehind h rfl

/-- **The splitter ends statements where the reader does**, as long as no name holds a sign that it
minds. -/
theorem Written.semicolonAt {ls : List Span} (h : Written ls) (hclear : ∀ l ∈ ls, l.IsClear)
    {place : Nat} (hplace : SeparatorAt (spell ls) place) : SemicolonAt ls place := by
  have hmem := separatorAt_iff.1 hplace
  rw [occurrences, scan_spell h hclear] at hmem
  obtain ⟨n, hn, he⟩ := exists_of_semicolon_mem h.wellFormed hmem
  exact ⟨n, hn, he.trans (Nat.zero_add _)⟩

end Span

end SqlContract.Sql
