/-
Markers in a text.

The queries of a marked source begin at its markers, so a text without markers is one part, and a
marker that stands in front of a text without any takes all of it.  A marker may run over several
lines; a line with nothing but a semicolon goes on with none.

Main definitions:

* `Marked.Unmarked` — texts in which no line starts with a marker.

Main results:

* `Marked.split_eq_nil_iff` — **texts without queries are the unmarked ones**;
* `Marker.ofText?_written` — a marker is read as it is written;
* `Marked.split_written` — **a marker before an unmarked text takes all of it**;
* `Marked.Unmarked.append_end` — a semicolon on a line of its own makes no marker.
-/

import SqlContract.Proofs.Scanning.Parts
import SqlContract.Proofs.Text.Blanks
import SqlContract.Source.Marked

set_option autoImplicit false
set_option relaxedAutoImplicit false

namespace SqlContract

open Text Sql

/-! ### Texts without markers -/

namespace Marked

/-- No marker stands at the start of any line of a text.  The text itself starts a line if
`atStart` says so. -/
structure Unmarked (atStart : Bool) (s : List Char) : Prop where
  start : atStart = true → Marker.ofText? s = none
  lines : ∀ t, '\n' :: t <:+ s → Marker.ofText? t = none

instance (atStart : Bool) (s : List Char) : Decidable (Unmarked atStart s) :=
  decidable_of_iff ((atStart = true → Marker.ofText? s = none) ∧
    ∀ t ∈ s.tails, t.head? = some '\n' → Marker.ofText? t.tail = none) <| by
      constructor
      · intro h
        exact ⟨h.1, fun t ht => h.2 ('\n' :: t) ((List.mem_tails _ _).2 ht) rfl⟩
      · intro h
        refine ⟨h.start, fun t ht hhead => ?_⟩
        obtain ⟨cs, rfl⟩ := List.head?_eq_some_iff.1 hhead
        exact h.lines cs ((List.mem_tails _ _).1 ht)

theorem unmarked_cons_iff {atStart : Bool} {c : Char} {cs : List Char} :
    Unmarked atStart (c :: cs) ↔
      (atStart = true → Marker.ofText? (c :: cs) = none) ∧ Unmarked (c = '\n') cs := by
  constructor
  · intro h
    refine ⟨h.start, ?_, fun t ht => h.lines t (ht.trans (List.suffix_cons c cs))⟩
    intro hc
    have hc : c = '\n' := by simpa using hc
    exact h.lines cs (by rw [hc])
  · intro h
    obtain ⟨hstart, hrest⟩ := h
    refine ⟨hstart, fun t ht => ?_⟩
    rcases List.suffix_cons_iff.1 ht with he | ht
    · rw [List.cons.injEq] at he
      obtain ⟨rfl, rfl⟩ := he
      exact hrest.start (by simp)
    · exact hrest.lines t ht

theorem splitFrom_cons {atStart : Bool} {c : Char} {cs : List Char}
    (h : atStart = true → Marker.ofText? (c :: cs) = none) (line : Nat) :
    splitFrom line atStart (c :: cs) =
      (c :: (splitFrom (if c = '\n' then line + 1 else line) (c = '\n') cs).1,
        (splitFrom (if c = '\n' then line + 1 else line) (c = '\n') cs).2) := by
  have hnone : (if atStart then Marker.ofText? (c :: cs) else none) = none := by
    by_cases hs : atStart = true
    · rw [if_pos hs, h hs]
    · rw [if_neg hs]
  rw [splitFrom, hnone]

/-- A text that starts with a marker. -/
theorem splitFrom_marker {s rest : List Char} {m : Marker} (h : Marker.ofText? s = some m)
    (hm : 0 < m.length) (hrest : s.drop m.length = rest) (line : Nat) :
    ∃ line', splitFrom line true s =
      ([], ⟨String.ofList m.name, String.ofList m.cardinality, line,
        (splitFrom line' false rest).1⟩ :: (splitFrom line' false rest).2) := by
  cases s with
  | nil => cases h
  | cons c cs =>
      obtain ⟨k, hk⟩ : ∃ k, m.length = k + 1 := ⟨m.length - 1, by omega⟩
      have hdrop : cs.drop (m.length - 1) = rest := by
        rw [← hrest, hk]
        rfl
      refine ⟨line + lineFeeds ((c :: cs).take m.length), ?_⟩
      rw [splitFrom, if_pos rfl, h]
      dsimp only
      rw [hdrop]

/-- A text without markers is one part. -/
theorem splitFrom_of_unmarked {atStart : Bool} {s : List Char} (h : Unmarked atStart s)
    (line : Nat) : splitFrom line atStart s = (s, []) := by
  induction s generalizing atStart line with
  | nil => rw [splitFrom]
  | cons c cs ih =>
      obtain ⟨hstart, hrest⟩ := unmarked_cons_iff.1 h
      rw [splitFrom_cons hstart, ih hrest]

theorem unmarked_of_splitFrom {atStart : Bool} {s : List Char} {line : Nat}
    (h : (splitFrom line atStart s).2 = []) : Unmarked atStart s := by
  induction s generalizing atStart line with
  | nil => exact ⟨fun _ => rfl, fun t ht => absurd (List.suffix_nil.1 ht) (List.cons_ne_nil _ _)⟩
  | cons c cs ih =>
      have hstart : atStart = true → Marker.ofText? (c :: cs) = none := by
        rintro rfl
        cases hm : Marker.ofText? (c :: cs) with
        | none => rfl
        | some m =>
            rw [splitFrom, if_pos rfl, hm] at h
            exact absurd h (List.cons_ne_nil _ _)
      rw [splitFrom_cons hstart] at h
      exact unmarked_cons_iff.2 ⟨hstart, ih h⟩

/-- **The texts without queries are the unmarked ones.** -/
theorem split_eq_nil_iff {s : List Char} : split s = [] ↔ Unmarked true s := by
  constructor
  · exact unmarked_of_splitFrom
  · intro h
    rw [split, splitFrom_of_unmarked h]

/-- What stands behind a line of an unmarked text is unmarked. -/
theorem Unmarked.of_line {atStart : Bool} {s t : List Char} (h : Unmarked atStart s)
    (ht : '\n' :: t <:+ s) : Unmarked true t where
  start _ := h.lines t ht
  lines u hu := h.lines u (hu.trans ((List.suffix_cons '\n' t).trans ht))

end Marked

/-! ### Markers as they are written -/

namespace Marker

theorem after?_append (lead : String) (s : List Char) : after? lead (lead.toList ++ s) = some s := by
  have hprefix : lead.toList.isPrefixOf (lead.toList ++ s) = true :=
    List.isPrefixOf_iff_prefix.2 (List.prefix_append _ _)
  rw [after?, if_pos hprefix, ← String.length_toList, List.drop_left]

/-- What every marker opens with. -/
def sign : List Char :=
  "-- name:".toList

theorem opening?_sign_append (s : List Char) : opening? (sign ++ s) = some (stripLeft s) := by
  have hsign : sign ++ s =
      "--".toList ++ ' ' :: ("name".toList ++ (":".toList ++ s)) := rfl
  have hspaces : ("--".toList ++ ' ' :: ("name".toList ++ (":".toList ++ s))).dropWhile isSpace =
      "--".toList ++ ' ' :: ("name".toList ++ (":".toList ++ s)) := rfl
  have hname : stripLeft (' ' :: ("name".toList ++ (":".toList ++ s))) =
      "name".toList ++ (":".toList ++ s) := rfl
  have hcolon : stripLeft (":".toList ++ s) = ":".toList ++ s := rfl
  unfold opening?
  rw [hsign, hspaces]
  simp only [after?_append, hname, hcolon, Option.bind_eq_bind, Option.bind_some]
  rfl

theorem takeRun_append {w s : List Char} (hw : ∀ c ∈ w, isBlank c = false)
    (hs : ∀ c ∈ s.head?, isBlank c = true) : takeRun (w ++ s) = (w, s) := by
  have hspan := (span_eq_iff (p := (!isBlank ·)) (s := w ++ s)).2
    ⟨rfl, fun c hc => by simp [hw c hc], fun c hc => by simp [hs c hc]⟩
  exact Prod.ext hspan.1 hspan.2

/-- A marker as it is written: a name with blanks around it, and a word behind a colon. -/
def written (name word : List Char) : List Char :=
  sign ++ (name ++ ':' :: word)

/-- **A marker is read as it is written**, up to the end of its line. -/
theorem ofText?_written {u v name word : List Char} (hu : AllBlank u) (hv : AllBlank v)
    (hne : v ≠ []) (hname : name ≠ []) (hn : ∀ c ∈ name, isBlank c = false) (hword : word ≠ [])
    (hw : ∀ c ∈ word, isBlank c = false) (t : List Char) :
    ofText? (written (u ++ (name ++ v)) word ++ '\n' :: t) =
      some ⟨name, word, (written (u ++ (name ++ v)) word).length⟩ := by
  have hopening : opening? (written (u ++ (name ++ v)) word ++ '\n' :: t) =
      some (name ++ (v ++ ':' :: (word ++ '\n' :: t))) := by
    have hstrip : stripLeft (u ++ (name ++ (v ++ ':' :: (word ++ '\n' :: t)))) =
        name ++ (v ++ ':' :: (word ++ '\n' :: t)) := by
      rw [stripLeft_blanks_append hu]
      refine stripLeft_of_head? fun c hc => ?_
      obtain ⟨d, ds, rfl⟩ := List.exists_cons_of_ne_nil hname
      obtain rfl : d = c := Option.some.inj hc
      exact hn d List.mem_cons_self
    have hform : written (u ++ (name ++ v)) word ++ '\n' :: t =
        sign ++ (u ++ (name ++ (v ++ ':' :: (word ++ '\n' :: t)))) := by
      simp only [written, List.append_assoc, List.cons_append]
    rw [hform, opening?_sign_append, hstrip]
  have hfirst : takeRun (name ++ (v ++ ':' :: (word ++ '\n' :: t))) =
      (name, v ++ ':' :: (word ++ '\n' :: t)) := by
    refine takeRun_append hn fun c hc => ?_
    obtain ⟨d, ds, rfl⟩ := List.exists_cons_of_ne_nil hne
    obtain rfl : d = c := Option.some.inj hc
    exact hv d List.mem_cons_self
  have hbehind : stripLeft (v ++ ':' :: (word ++ '\n' :: t)) = (':' :: word) ++ '\n' :: t := by
    rw [stripLeft_blanks_append hv]
    rfl
  have hsecond : takeRun ((':' :: word) ++ '\n' :: t) = (':' :: word, '\n' :: t) := by
    refine takeRun_append (fun c hc => ?_) fun c hc => ?_
    · rcases List.mem_cons.1 hc with rfl | hc
      · decide
      · exact hw c hc
    · obtain rfl : '\n' = c := Option.some.inj hc
      decide
  have hapart : apart? (name ++ (v ++ ':' :: (word ++ '\n' :: t))) =
      some (name, word, '\n' :: t) := by
    obtain ⟨d, ds, rfl⟩ := List.exists_cons_of_ne_nil hword
    have hfilled : name.isEmpty = false := by simpa using hname
    simp only [apart?, hfirst, hbehind, hsecond, hfilled]
    rfl
  unfold ofText?
  rw [hopening]
  dsimp only
  rw [hapart]
  simp

end Marker

/-- **A marker before an unmarked text takes all of it.** -/
theorem Marked.split_written {u v name word t : List Char} (hu : AllBlank u) (hv : AllBlank v)
    (hne : v ≠ []) (hname : name ≠ []) (hn : ∀ c ∈ name, isBlank c = false) (hword : word ≠ [])
    (hw : ∀ c ∈ word, isBlank c = false) (ht : Unmarked false ('\n' :: t)) :
    split (Marker.written (u ++ (name ++ v)) word ++ '\n' :: t) =
      [⟨String.ofList name, String.ofList word, 1, '\n' :: t⟩] := by
  have hpos : 0 < (Marker.written (u ++ (name ++ v)) word).length := by
    simp [Marker.written]
  obtain ⟨line, hsplit⟩ := splitFrom_marker
    (Marker.ofText?_written hu hv hne hname hn hword hw t) hpos List.drop_left 1
  unfold split
  rw [hsplit, splitFrom_of_unmarked ht]

/-! ### A semicolon on a line of its own -/

/-- A text with a semicolon on a line of its own behind it; where nothing is left of the text, the
line end may be gone as well. -/
inductive Ended : List Char → List Char → Prop
  | line (s : List Char) : Ended s (s ++ ['\n', ';'])
  | bare : Ended [] [';']

namespace Ended

variable {s s' : List Char}

theorem dropWhile (h : Ended s s') {p : Char → Bool} (hp : p ';' = false) :
    Ended (s.dropWhile p) (s'.dropWhile p) := by
  cases h with
  | line =>
      rw [List.dropWhile_append]
      by_cases hs : s.dropWhile p = []
      · rw [hs]
        by_cases hline : p '\n' = true
        · simp only [List.isEmpty_nil, if_true, List.dropWhile_cons, hline, hp]
          exact .bare
        · simp only [List.isEmpty_nil, if_true, List.dropWhile_cons, hline]
          exact .line []
      · rw [if_neg (by simpa using hs)]
        exact .line _
  | bare =>
      rw [List.dropWhile_cons_of_neg (by simp [hp])]
      exact .bare

theorem stripLeft (h : Ended s s') : Ended (Text.stripLeft s) (Text.stripLeft s') :=
  h.dropWhile rfl

/-- What is found in front of an ended text is found without its end. -/
theorem after? {lead : String} {t' : List Char} (h : Ended s s') (hne : lead.toList ≠ [])
    (hline : '\n' ∉ lead.toList) (hsemi : ';' ∉ lead.toList)
    (ht : Marker.after? lead s' = some t') : ∃ t, Marker.after? lead s = some t ∧ Ended t t' := by
  unfold Marker.after? at ht
  split_ifs at ht with hp
  cases ht
  have hp := List.isPrefixOf_iff_prefix.1 hp
  cases h with
  | line =>
      obtain ⟨x, rfl⟩ := prefix_of_append hline hp
      refine ⟨x, Marker.after?_append lead x, ?_⟩
      rw [List.append_assoc, ← String.length_toList, List.drop_left]
      exact .line x
  | bare =>
      obtain ⟨c, cs, hcs⟩ := List.exists_cons_of_ne_nil hne
      rw [hcs] at hp hsemi
      obtain ⟨rfl, -⟩ := List.cons_prefix_cons.1 hp
      exact absurd List.mem_cons_self hsemi

theorem opening? {t' : List Char} (h : Ended s s') (ht : Marker.opening? s' = some t') :
    ∃ t, Marker.opening? s = some t ∧ Ended t t' := by
  simp only [Marker.opening?, Option.bind_eq_bind, Option.bind_eq_some_iff] at ht
  obtain ⟨a', ha', b', hb', c', hc', hlast⟩ := ht
  obtain ⟨a, ha, hended⟩ := (h.dropWhile rfl).after? (by decide) (by decide) (by decide) ha'
  obtain ⟨b, hb, hended⟩ := hended.stripLeft.after? (by decide) (by decide) (by decide) hb'
  obtain ⟨c, hc, hended⟩ := hended.stripLeft.after? (by decide) (by decide) (by decide) hc'
  cases hlast
  refine ⟨Text.stripLeft c, ?_, hended.stripLeft⟩
  simp only [Marker.opening?, ha, hb, hc, Option.bind_eq_bind, Option.bind_some]
  rfl

theorem takeRun_line (s : List Char) :
    Marker.takeRun (s ++ ['\n', ';']) =
      ((Marker.takeRun s).1, (Marker.takeRun s).2 ++ ['\n', ';']) := by
  obtain ⟨htake, hdrop⟩ := span_append (p := (!isBlank ·)) (s := s) (t := ['\n', ';']) fun _ c hc => by
    obtain rfl : '\n' = c := Option.some.inj hc
    decide
  exact Prod.ext htake hdrop

theorem lineEnd? {t' : List Char} (h : Marker.lineEnd? (s ++ ['\n', ';']) = some t') :
    ∃ t, Marker.lineEnd? s = some t := by
  unfold Marker.lineEnd? at h ⊢
  rw [List.dropWhile_append] at h
  cases hs : s.dropWhile Marker.isSpace with
  | nil => exact ⟨[], rfl⟩
  | cons c cs =>
      rw [hs] at h
      by_cases hc : c = '\n'
      · exact ⟨c :: cs, if_pos hc⟩
      · simp [hc] at h

theorem apart? {x' : List Char × List Char × List Char} (h : Ended s s')
    (hx : Marker.apart? s' = some x') : ∃ x, Marker.apart? s = some x := by
  cases h with
  | bare => cases hx
  | line =>
      unfold Marker.apart? at hx ⊢
      rw [takeRun_line] at hx
      dsimp only at hx ⊢
      have hended := (Ended.line (Marker.takeRun s).2).stripLeft
      generalize Text.stripLeft ((Marker.takeRun s).2 ++ ['\n', ';']) = behind' at hx hended
      generalize Text.stripLeft (Marker.takeRun s).2 = behind at hended ⊢
      cases hended with
      | bare => cases hx
      | line =>
          rw [takeRun_line] at hx
          dsimp only at hx
          split at hx
          · rename_i c cs hword
            split_ifs at hx ⊢
            obtain ⟨rest', hrest', -⟩ := Option.map_eq_some_iff.1 hx
            obtain ⟨rest, hrest⟩ := lineEnd? hrest'
            exact ⟨_, by rw [hrest]; rfl⟩
          · cases hx

theorem together? {x' : List Char × List Char × List Char} (h : Ended s s')
    (hx : Marker.together? s' = some x') : ∃ x, Marker.together? s = some x := by
  cases h with
  | bare => cases hx
  | line =>
      unfold Marker.together? at hx ⊢
      rw [takeRun_line] at hx
      dsimp only at hx ⊢
      split at hx
      · rename_i hcut hend
        obtain ⟨rest, hrest⟩ := lineEnd? hend
        exact ⟨_, by rw [hcut, hrest]⟩
      · cases hx

/-- The end of a text makes no marker. -/
theorem ofText?_eq_none (h : Ended s s') (hs : Marker.ofText? s = none) :
    Marker.ofText? s' = none := by
  by_contra hmarker
  obtain ⟨m, hm⟩ := Option.ne_none_iff_exists'.1 hmarker
  unfold Marker.ofText? at hm hs
  cases hbody' : Marker.opening? s' with
  | none =>
      rw [hbody'] at hm
      cases hm
  | some body' =>
      obtain ⟨body, hbody, hended⟩ := h.opening? hbody'
      rw [hbody'] at hm
      rw [hbody] at hs
      obtain ⟨x', hx', -⟩ := Option.map_eq_some_iff.1 hm
      have hnone := Option.map_eq_none_iff.1 hs
      rw [Option.or_eq_none_iff] at hnone
      obtain ⟨hapart, htogether⟩ := hnone
      rcases Option.or_eq_some_iff.1 hx' with hx' | ⟨-, hx'⟩
      · obtain ⟨x, hx⟩ := hended.apart? hx'
        rw [hapart] at hx
        cases hx
      · obtain ⟨x, hx⟩ := hended.together? hx'
        rw [htogether] at hx
        cases hx

end Ended

/-- **A semicolon on a line of its own makes no marker.** -/
theorem Marked.Unmarked.append_end {atStart : Bool} {s : List Char} (h : Unmarked atStart s) :
    Unmarked atStart (s ++ ['\n', ';']) where
  start hstart := (Ended.line s).ofText?_eq_none (h.start hstart)
  lines t ht := by
    obtain ⟨before, he⟩ := ht
    rcases List.append_eq_append_iff.1 he with ⟨within, hs, ht⟩ | ⟨within, -, ht⟩
    · cases within with
      | nil =>
          obtain rfl : t = [';'] := List.tail_eq_of_cons_eq ht
          rfl
      | cons c within =>
          rw [List.cons_append, List.cons.injEq] at ht
          obtain ⟨rfl, rfl⟩ := ht
          exact (Ended.line within).ofText?_eq_none (h.lines within ⟨before, hs.symm⟩)
    · -- the line feed is that of the end, so only the semicolon is behind it
      have hsuffix : '\n' :: t <:+ ['\n', ';'] := ⟨within, ht.symm⟩
      rcases List.suffix_cons_iff.1 hsuffix with he | hsuffix
      · obtain rfl : t = [';'] := List.tail_eq_of_cons_eq he
        rfl
      · have hmem := hsuffix.subset List.mem_cons_self
        exact absurd (List.mem_singleton.1 hmem) (by decide)

end SqlContract
