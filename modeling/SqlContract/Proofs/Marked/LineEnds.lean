/-
Marked sources with line ends of two characters.

The tables of a text are those of the text with a carriage return before every line feed, as long as
the parser takes a carriage return for a blank in their definitions; it does unless a name or a literal
in quotes runs over lines.  Where it refuses a definition, the words of its refusal may quote the line
ends.  The queries are not the same: only spaces and tabs may stand between a marker and the end of its
line, so a marker with a carriage return there is none.  What is left of the queries is a marker at the
very end of the text, and that one has no SQL.

Main definitions:

* `Sql.ReturnsAreBlank` — a carriage return before a line feed is a blank to the parser.

Main results:

* `Marker.ofText?_crlf` — **which markers are left** when the line ends are replaced;
* `Marked.body_of_mem_splitFrom_crlf` — queries that are left have nothing below their markers;
* `Marked.splitFrom_crlf`, `Marked.split_crlf` — the queries are the same, or the first one is left
  out;
* `definesTable_withoutReturns` — the statements that open as table definitions are the same;
* `Marked.table?_withoutReturns`, `Marked.definitionError?_withoutReturns_iff` — the tables that they
  define, and when they make the same errors;
* `Marked.read_crlf` — **what a text with replaced line ends is read as**.
-/

import SqlContract.Proofs.Generation.Entries
import SqlContract.Proofs.Marked.Markers
import SqlContract.Proofs.Scanning.LineEnds

set_option autoImplicit false
set_option relaxedAutoImplicit false

namespace SqlContract

open Text Sql

/-! ### Markers -/

namespace Marker

variable {s : List Char}

theorem after?_crlf {lead : String} (hreturn : '\r' ∉ lead.toList) (hfeed : '\n' ∉ lead.toList)
    (s : List Char) : after? lead (crlf s) = (after? lead s).map crlf := by
  have hstarts : lead.toList.isPrefixOf (crlf s) = lead.toList.isPrefixOf s := by
    rw [Bool.eq_iff_iff, List.isPrefixOf_iff_prefix, List.isPrefixOf_iff_prefix,
      prefix_crlf_iff hreturn hfeed]
  unfold after?
  rw [hstarts]
  split_ifs with h
  · obtain ⟨t, rfl⟩ := List.isPrefixOf_iff_prefix.1 h
    rw [crlf_append, crlf_eq_self hfeed, ← String.length_toList, List.drop_left, List.drop_left]
    rfl
  · rfl

theorem stripLeft_crlf (s : List Char) : stripLeft (crlf s) = crlf (stripLeft s) :=
  dropWhile_crlf (by decide) s

/-- A reader that is the same with line ends replaced, behind another one. -/
theorem bind_map_crlf {x : Option (List Char)} {f : List Char → Option (List Char)}
    (h : ∀ t, f (crlf t) = (f t).map crlf) : (x.map crlf).bind f = (x.bind f).map crlf := by
  cases x with
  | none => rfl
  | some t => exact h t

theorem opening?_crlf (s : List Char) : opening? (crlf s) = (opening? s).map crlf := by
  have hspaces : (crlf s).dropWhile isSpace = crlf (s.dropWhile isSpace) :=
    dropWhile_crlf (by decide) s
  unfold opening?
  simp only [Option.bind_eq_bind]
  rw [hspaces, after?_crlf (by decide) (by decide)]
  refine bind_map_crlf fun t => ?_
  rw [stripLeft_crlf, after?_crlf (by decide) (by decide)]
  refine bind_map_crlf fun t => ?_
  rw [stripLeft_crlf, after?_crlf (by decide) (by decide)]
  refine bind_map_crlf fun t => ?_
  rw [stripLeft_crlf]
  rfl

theorem takeRun_crlf (s : List Char) :
    takeRun (crlf s) = ((takeRun s).1, crlf (takeRun s).2) :=
  Prod.ext (takeWhile_crlf (by decide) (by decide) s) (dropWhile_crlf (by decide) s)

/-- Only the end of the text is left of the ends of lines. -/
theorem lineEnd?_crlf (s : List Char) : lineEnd? (crlf s) = (lineEnd? s).filter (·.isEmpty) := by
  have hspaces : (crlf s).dropWhile isSpace = crlf (s.dropWhile isSpace) :=
    dropWhile_crlf (by decide) s
  unfold lineEnd?
  rw [hspaces]
  cases s.dropWhile isSpace with
  | nil => rfl
  | cons c cs =>
      by_cases hc : c = '\n'
      · subst hc
        rfl
      · rw [crlf_cons hc]
        simp only [hc, if_false, Option.filter_none]

theorem apart?_crlf (s : List Char) : apart? (crlf s) = (apart? s).filter (·.2.2.isEmpty) := by
  unfold apart?
  rw [takeRun_crlf]
  dsimp only
  rw [stripLeft_crlf, takeRun_crlf]
  dsimp only
  split
  · rw [lineEnd?_crlf]
    split_ifs
    · rfl
    · cases lineEnd? (takeRun (stripLeft (takeRun s).2)).2 with
      | none => rfl
      | some rest => cases rest <;> rfl
  · rfl

theorem together?_crlf (s : List Char) :
    together? (crlf s) = (together? s).filter (·.2.2.isEmpty) := by
  unfold together?
  rw [takeRun_crlf]
  dsimp only
  rw [lineEnd?_crlf]
  cases cutRun? (takeRun s).1 with
  | none => rfl
  | some x =>
      cases lineEnd? (takeRun s).2 with
      | none => rfl
      | some rest => cases rest <;> rfl

theorem allBlank_of_lineEnd? (h : lineEnd? s = some []) : AllBlank s := by
  have hspaces : s.dropWhile isSpace = [] := by
    unfold lineEnd? at h
    split at h
    · assumption
    · split_ifs at h
      cases h
  intro c hc
  have hspace := List.dropWhile_eq_nil_iff.1 hspaces c hc
  rw [isSpace, Bool.or_eq_true, beq_iff_eq, beq_iff_eq] at hspace
  rcases hspace with rfl | rfl <;> decide

/-- Where a marker can be read as two runs and as one, the one does not end the text. -/
theorem together?_of_apart? {x y : List Char × List Char × List Char} (hx : apart? s = some x)
    (hy : together? s = some y) : y.2.2 ≠ [] := by
  intro hempty
  have hend : lineEnd? (takeRun s).2 = some [] := by
    unfold together? at hy
    dsimp only at hy
    split at hy
    · rename_i hend
      obtain rfl := Option.some.inj hy
      rw [hend]
      exact congrArg some hempty
    · cases hy
  have hbehind : stripLeft (takeRun s).2 = [] :=
    List.dropWhile_eq_nil_iff.2 (allBlank_of_lineEnd? hend)
  unfold apart? at hx
  dsimp only at hx
  rw [hbehind] at hx
  cases hx

theorem apart?_or_together?_crlf (s : List Char) :
    (apart? (crlf s)).or (together? (crlf s)) =
      ((apart? s).or (together? s)).filter (·.2.2.isEmpty) := by
  rw [apart?_crlf, together?_crlf]
  cases hx : apart? s with
  | none => rfl
  | some x =>
      cases hy : together? s with
      | none => simp
      | some y =>
          have hnone : (some y).filter (·.2.2.isEmpty) = none := by
            simpa using together?_of_apart? hx hy
          rw [hnone, Option.or_none, Option.some_or]

/-- **The markers that are left** when line ends are replaced are those at the end of the text. -/
theorem ofText?_crlf (s : List Char) :
    ofText? (crlf s) = ((ofText? s).filter fun m => m.length = s.length).map fun m =>
      { m with length := (crlf s).length } := by
  unfold ofText?
  rw [opening?_crlf]
  cases hopening : opening? s with
  | none => rfl
  | some body =>
      rw [Option.map_some]
      dsimp only
      rw [apart?_or_together?_crlf]
      cases (apart? body).or (together? body) with
      | none => rfl
      | some x =>
          obtain ⟨name, word, rest⟩ := x
          rw [Option.filter_some, Option.map_some, Option.filter_some]
          cases rest with
          | nil => simp
          | cons c cs =>
              have hpos : s ≠ [] := by
                rintro rfl
                cases hopening
              have hne : s.length - (c :: cs).length ≠ s.length := by
                have hlength := List.length_pos_iff.2 hpos
                rw [List.length_cons]
                omega
              rw [if_neg (by simp), if_neg (by simpa using hne)]
              rfl

end Marker

/-! ### Queries -/

namespace Marked

variable {s : List Char}

/-- A marker takes at least the sign that it opens with. -/
theorem two_le_length_of_ofText? {m : Marker} (h : Marker.ofText? s = some m) : 2 ≤ s.length := by
  unfold Marker.ofText? at h
  split at h
  · cases h
  · rename_i body hopening
    obtain ⟨t, ht, -⟩ := Option.bind_eq_some_iff.1 hopening
    unfold Marker.after? at ht
    split_ifs at ht with hsign
    have hle := (List.isPrefixOf_iff_prefix.1 hsign).length_le
    exact hle.trans (List.dropWhile_sublist _).length_le

theorem length_le_of_ofText? {m : Marker} (h : Marker.ofText? s = some m) :
    m.length ≤ s.length := by
  unfold Marker.ofText? at h
  split at h
  · cases h
  · obtain ⟨x, -, rfl⟩ := Option.map_eq_some_iff.1 h
    exact Nat.sub_le _ _

/-- There is a marker at the start of a text, or there is none. -/
theorem marker_or_none (atStart : Bool) (s : List Char) :
    (atStart = true → Marker.ofText? s = none) ∨
      (atStart = true ∧ ∃ m, Marker.ofText? s = some m) := by
  cases hm : Marker.ofText? s with
  | none => exact .inl fun _ => rfl
  | some m =>
      cases atStart with
      | false => exact .inl (by simp)
      | true => exact .inr ⟨rfl, m, rfl⟩

theorem splitFrom_cons_within (line : Nat) (c : Char) (cs : List Char) :
    splitFrom line false (c :: cs) =
      (c :: (splitFrom (if c = '\n' then line + 1 else line) (c = '\n') cs).1,
        (splitFrom (if c = '\n' then line + 1 else line) (c = '\n') cs).2) :=
  splitFrom_cons (by simp) line

/-- The queries of a text stand on its lines. -/
theorem line_of_mem_splitFrom {line : Nat} {atStart : Bool} {q : MarkedQuery}
    (hq : q ∈ (splitFrom line atStart s).2) :
    line ≤ q.line ∧ (atStart = false → line < q.line) := by
  induction hn : s.length using Nat.strong_induction_on generalizing s line atStart with
  | _ n ih =>
      cases s with
      | nil => 
          rw [splitFrom] at hq
          cases hq
      | cons c cs =>
          rcases marker_or_none atStart (c :: cs) with hmarker | ⟨rfl, m, hm⟩
          · rw [splitFrom_cons hmarker] at hq
            have hrest := ih cs.length (by simp [← hn]) hq rfl
            by_cases hc : c = '\n'
            · simp only [hc, if_true] at hrest
              omega
            · simp only [hc, if_false, decide_false, true_implies] at hrest
              omega
          · rw [splitFrom, if_pos rfl, hm] at hq
            rcases List.mem_cons.1 hq with rfl | hq
            · simp
            · have hle : (cs.drop (m.length - 1)).length < n := by
                rw [← hn, List.length_drop, List.length_cons]
                omega
              have hrest := ih _ hle hq rfl
              simp only [true_implies] at hrest
              exact ⟨by omega, by simp⟩

/-- A text without a marker at its start is split behind its first line end, or its first
character. -/
theorem splitFrom_crlf_cons {atStart : Bool} {c : Char} {cs : List Char}
    (h : atStart = true → Marker.ofText? (crlf (c :: cs)) = none) (line : Nat) :
    (splitFrom line atStart (crlf (c :: cs))).2 =
      (splitFrom (if c = '\n' then line + 1 else line) (c = '\n') (crlf cs)).2 := by
  by_cases hc : c = '\n'
  · subst hc
    rw [crlf_lineFeed] at h ⊢
    have hreturn : decide ('\r' = '\n') = false := rfl
    rw [splitFrom_cons h, hreturn, splitFrom_cons_within]
    rfl
  · rw [crlf_cons hc] at h ⊢
    rw [splitFrom_cons h]

/-- A marker that takes all of a text has nothing below it. -/
theorem splitFrom_of_length {m : Marker} (h : Marker.ofText? s = some m) (hm : m.length = s.length)
    (line : Nat) : (splitFrom line true s).2 =
      [⟨String.ofList m.name, String.ofList m.cardinality, line, []⟩] := by
  have hlength := two_le_length_of_ofText? h
  have hrest : s.drop m.length = [] := by rw [hm, List.drop_length]
  obtain ⟨line', he⟩ := splitFrom_marker h (by omega) hrest line
  rw [he, splitFrom]

/-- A marker that takes less than all of a text has the rest below it. -/
theorem exists_splitFrom_of_length_ne {m : Marker} (h : Marker.ofText? s = some m)
    (hm : m.length ≠ s.length) (line : Nat) :
    ∃ q qs, (splitFrom line true s).2 = q :: qs ∧ q.line = line ∧ q.body ≠ [] := by
  have htwo := two_le_length_of_ofText? h
  have hle := length_le_of_ofText? h
  cases s with
  | nil => cases h
  | cons c cs =>
      rw [splitFrom, if_pos rfl, h]
      refine ⟨_, _, rfl, rfl, ?_⟩
      have hrest : cs.drop (m.length - 1) ≠ [] := by
        rw [ne_eq, List.drop_eq_nil_iff]
        rw [List.length_cons] at htwo hle hm
        omega
      obtain ⟨d, ds, hd⟩ := List.exists_cons_of_ne_nil hrest
      dsimp only
      rw [hd, splitFrom_cons_within]
      exact List.cons_ne_nil _ _

/-- **Queries that are left** when line ends are replaced have nothing below their markers. -/
theorem body_of_mem_splitFrom_crlf {line : Nat} {atStart : Bool} {q : MarkedQuery}
    (hq : q ∈ (splitFrom line atStart (crlf s)).2) : q.body = [] := by
  induction s generalizing line atStart with
  | nil =>
      rw [crlf_nil, splitFrom] at hq
      cases hq
  | cons c cs ih =>
      rcases marker_or_none atStart (crlf (c :: cs)) with hmarker | ⟨rfl, m', hm'⟩
      · rw [splitFrom_crlf_cons hmarker] at hq
        exact ih hq
      · obtain ⟨m, -, rfl⟩ := Option.map_eq_some_iff.1 ((Marker.ofText?_crlf _).symm.trans hm')
        rw [splitFrom_of_length hm' rfl] at hq
        rw [List.mem_singleton.1 hq]

/-- **The queries are the same when line ends are replaced, or the first one is left out.** -/
theorem splitFrom_crlf (line : Nat) (atStart : Bool) (s : List Char) :
    (splitFrom line atStart (crlf s)).2 = (splitFrom line atStart s).2 ∨
      ∃ q qs, (splitFrom line atStart s).2 = q :: qs ∧ q.body ≠ [] ∧
        ∀ q' ∈ (splitFrom line atStart (crlf s)).2, q.line < q'.line := by
  induction s generalizing line atStart with
  | nil => exact .inl rfl
  | cons c cs ih =>
      have hcrlf := Marker.ofText?_crlf (c :: cs)
      rcases marker_or_none atStart (c :: cs) with hmarker | ⟨rfl, m, hm⟩
      · have hmarker' : atStart = true → Marker.ofText? (crlf (c :: cs)) = none := by
          intro hs
          rw [hcrlf, hmarker hs]
          rfl
        rw [splitFrom_crlf_cons hmarker', splitFrom_cons hmarker]
        exact ih _ _
      · rw [hm, Option.filter_some] at hcrlf
        by_cases hlength : m.length = (c :: cs).length
        · rw [if_pos (by simpa using hlength)] at hcrlf
          rw [splitFrom_of_length hcrlf rfl, splitFrom_of_length hm hlength]
          exact .inl rfl
        · -- the marker ends before a line end, and is none with the carriage return there
          rw [if_neg (by simpa using hlength)] at hcrlf
          obtain ⟨q, qs, hsplit, hline, hbody⟩ := exists_splitFrom_of_length_ne hm hlength line
          refine .inr ⟨q, qs, hsplit, hbody, fun q' hq' => ?_⟩
          rw [splitFrom_crlf_cons fun _ => hcrlf] at hq'
          obtain ⟨hle, hlt⟩ := line_of_mem_splitFrom hq'
          rw [hline]
          by_cases hc : c = '\n'
          · rw [if_pos hc] at hle
            omega
          · rw [if_neg hc] at hlt
            exact hlt (by simpa using hc)

/-- So either nothing is below any marker and all queries are left, or a query is left out, and it
stands before those that are left. -/
theorem split_crlf (s : List Char) :
    (split (crlf s) = split s ∧ ∀ q ∈ split s, q.body = []) ∨
      ∃ q ∈ split s, q.body ≠ [] ∧ ∀ q' ∈ split (crlf s), q.line < q'.line := by
  rcases splitFrom_crlf 1 true s with hsplit | ⟨q, qs, hsplit, hbody, hlater⟩
  · refine .inl ⟨hsplit, fun q hq => ?_⟩
    unfold split at hq
    rw [← hsplit] at hq
    exact body_of_mem_splitFrom_crlf hq
  · refine .inr ⟨q, ?_, hbody, hlater⟩
    rw [split, hsplit]
    exact List.mem_cons_self

end Marked

/-! ### Table definitions -/

/-- Characters that are no line ends. -/
def NoLineEnd (s : List Char) : Prop :=
  '\r' ∉ s ∧ '\n' ∉ s

instance (s : List Char) : Decidable (NoLineEnd s) :=
  inferInstanceAs (Decidable (_ ∧ _))

section

variable {k : String} {s t : List Char}

theorem afterKeyword?_eq_some_iff :
    afterKeyword? k s = some t ↔ ∃ p, s = p ++ t ∧ p.map Char.toUpper = k.toList := by
  unfold afterKeyword?
  constructor
  · intro h
    split_ifs at h with hk
    cases h
    exact ⟨s.take k.length, (List.take_append_drop _ _).symm, hk⟩
  · rintro ⟨p, rfl, hk⟩
    have hlength : k.length = p.length := by
      rw [← String.length_toList, ← hk, List.length_map]
    rw [hlength, List.take_left, List.drop_left, if_pos hk]

theorem noLineEnd_of_map_toUpper {p : List Char} (hk : NoLineEnd k.toList)
    (hp : p.map Char.toUpper = k.toList) : NoLineEnd p := by
  rw [← hp] at hk
  exact ⟨fun hm => hk.1 (List.mem_map_of_mem hm), fun hm => hk.2 (List.mem_map_of_mem hm)⟩

theorem afterKeyword?_withoutReturns (hk : NoLineEnd k.toList) (h : Paired s) :
    afterKeyword? k (withoutReturns s) = (afterKeyword? k s).map withoutReturns := by
  ext t
  rw [Option.map_eq_some_iff]
  constructor
  · intro ht
    obtain ⟨p, he, hp⟩ := afterKeyword?_eq_some_iff.1 ht
    obtain ⟨hreturn, hfeed⟩ := noLineEnd_of_map_toUpper hk hp
    obtain ⟨rest, rfl⟩ := (h.prefix_withoutReturns_iff hreturn hfeed).1 ⟨t, he.symm⟩
    refine ⟨rest, afterKeyword?_eq_some_iff.2 ⟨p, rfl, hp⟩, ?_⟩
    rw [withoutReturns_append, withoutReturns_eq_self hreturn] at he
    exact List.append_cancel_left he
  · rintro ⟨rest, hrest, rfl⟩
    obtain ⟨p, rfl, hp⟩ := afterKeyword?_eq_some_iff.1 hrest
    have hreturn := (noLineEnd_of_map_toUpper hk hp).1
    refine afterKeyword?_eq_some_iff.2 ⟨p, ?_, hp⟩
    rw [withoutReturns_append, withoutReturns_eq_self hreturn]

theorem suffix_of_afterKeyword? (h : afterKeyword? k s = some t) : t <:+ s := by
  obtain ⟨p, rfl, -⟩ := afterKeyword?_eq_some_iff.1 h
  exact List.suffix_append p t

theorem afterWord?_withoutReturns (hk : NoLineEnd k.toList) (h : Paired s) :
    afterWord? k (withoutReturns s) = (afterWord? k s).map withoutReturns := by
  unfold afterWord?
  rw [afterKeyword?_withoutReturns hk h]
  cases hrest : afterKeyword? k s with
  | none => rfl
  | some rest =>
      have hpaired := h.of_suffix (suffix_of_afterKeyword? hrest)
      rw [Option.map_some, Option.bind_some, Option.bind_some, hpaired.any_head? (by decide),
        stripLeft_withoutReturns]
      split_ifs <;> rfl

theorem suffix_of_afterWord? (h : afterWord? k s = some t) : t <:+ s := by
  obtain ⟨rest, hrest, ht⟩ := Option.bind_eq_some_iff.1 h
  split_ifs at ht
  cases ht
  exact (List.dropWhile_suffix _).trans (suffix_of_afterKeyword? hrest)

/-- What stands behind a word that may be left out. -/
theorem getD_afterWord?_withoutReturns (h : Paired s) :
    let behind := fun s => ((afterWord? "TEMPORARY" s).or (afterWord? "TEMP" s)).getD s
    behind (withoutReturns s) = withoutReturns (behind s) ∧ behind s <:+ s := by
  intro behind
  constructor
  · dsimp only [behind]
    rw [afterWord?_withoutReturns (by decide) h, afterWord?_withoutReturns (by decide) h]
    cases afterWord? "TEMPORARY" s <;> cases afterWord? "TEMP" s <;> rfl
  · dsimp only [behind]
    cases htemporary : afterWord? "TEMPORARY" s with
    | some t => exact suffix_of_afterWord? htemporary
    | none =>
        cases htemp : afterWord? "TEMP" s with
        | some t => exact suffix_of_afterWord? htemp
        | none => exact List.suffix_refl s

/-- Whether a text is to be read as a table definition does not depend on carriage returns. -/
theorem definesTable_withoutReturns (h : Paired s) :
    definesTable (withoutReturns s) = definesTable s := by
  have hcode : Paired (stripLeft (withoutComments s)) := (Paired.withoutComments h).dropWhile
  unfold definesTable
  rw [withoutComments_withoutReturns h, stripLeft_withoutReturns,
    afterWord?_withoutReturns (by decide) hcode]
  cases hcreate : afterWord? "CREATE" (stripLeft (withoutComments s)) with
  | none => rfl
  | some rest =>
      have hrest := hcode.of_suffix (suffix_of_afterWord? hcreate)
      obtain ⟨hbehind, hsuffix⟩ := getD_afterWord?_withoutReturns hrest
      have hpaired := hrest.of_suffix hsuffix
      rw [Option.map_some]
      dsimp only at hbehind hpaired ⊢
      rw [hbehind, afterKeyword?_withoutReturns (by decide) hpaired]
      generalize ((afterWord? "TEMPORARY" rest).or (afterWord? "TEMP" rest)).getD rest = behind
        at hpaired
      cases htable : afterKeyword? "TABLE" behind with
      | none => rfl
      | some tail =>
          have htail := hpaired.of_suffix (suffix_of_afterKeyword? htable)
          rw [Option.map_some]
          dsimp only
          rw [htail.any_head? (by decide)]

end

/-- A carriage return before a line feed is a blank to the parser: a text is read as it is without
them, or refused with and without them.  The words of a refusal may differ. -/
def Sql.ReturnsAreBlank [Parser] (d : Dialect) (sql : List Char) : Prop :=
  (Parser.parse d (withoutReturns sql)).toOption = (Parser.parse d sql).toOption

/-- Two readings of the elements of a list that give something of the same elements give the same
results exactly if they agree on every element. -/
theorem filterMap_eq_filterMap_iff {α β : Type} {f g : α → Option β} {l : List α}
    (h : ∀ a ∈ l, (f a).isSome = (g a).isSome) :
    l.filterMap f = l.filterMap g ↔ ∀ a ∈ l, f a = g a := by
  refine ⟨fun he => ?_, List.filterMap_congr⟩
  induction l with
  | nil => simp
  | cons a l ih =>
      have ha := h a List.mem_cons_self
      have hl := fun b hb => h b (List.mem_cons_of_mem a hb)
      cases hf : f a with
      | none =>
          rw [hf, Option.isSome_none, eq_comm, Option.isSome_eq_false_iff, Option.isNone_iff_eq_none]
            at ha
          rw [List.filterMap_cons_none hf, List.filterMap_cons_none ha] at he
          exact List.forall_mem_cons.2 ⟨hf.trans ha.symm, ih hl he⟩
      | some b =>
          rw [hf, Option.isSome_some, eq_comm, Option.isSome_iff_exists] at ha
          obtain ⟨b', hg⟩ := ha
          rw [List.filterMap_cons_some hf, List.filterMap_cons_some hg] at he
          obtain ⟨rfl, hrest⟩ := List.cons.inj he
          exact List.forall_mem_cons.2 ⟨hf.trans hg.symm, ih hl hrest⟩

theorem segments_eq_map_withoutReturns {text : List Char} (h : '\r' ∉ text) :
    segments text = (segments (crlf text)).map Segment.withoutReturns := by
  rw [← segments_withoutReturns (paired_crlf h), withoutReturns_crlf h]

namespace Marked

variable [Sql.Parser] {d : Dialect} {text : List Char}

/-- The reading of a table, where carriage returns are blanks: as without them, or refused with and
without them. -/
theorem readTable_withoutReturns {s : List Char} (h : ReturnsAreBlank d s) :
    (readTable d (withoutReturns s) = readTable d s ∧
        Parser.parse d (withoutReturns s) = Parser.parse d s) ∨
      ∃ words words', Parser.parse d s = .error words ∧
        Parser.parse d (withoutReturns s) = .error words' ∧
        readTable d s = .error (.unreadableTable words) ∧
        readTable d (withoutReturns s) = .error (.unreadableTable words') := by
  unfold readTable Definition.read
  unfold ReturnsAreBlank at h
  cases hs : Parser.parse d s with
  | ok t =>
      rw [hs] at h
      cases hs' : Parser.parse d (withoutReturns s) with
      | ok t' =>
          rw [hs'] at h
          obtain rfl : t' = t := Option.some.inj h
          exact .inl ⟨rfl, rfl⟩
      | error words =>
          rw [hs'] at h
          cases h
  | error words =>
      rw [hs] at h
      cases hs' : Parser.parse d (withoutReturns s) with
      | ok t =>
          rw [hs'] at h
          cases h
      | error words' => exact .inr ⟨words, words', rfl, rfl, rfl, rfl⟩

variable {s : Segment}

theorem table?_eq_some_iff {t : Table} :
    table? d s = some t ↔ definesTable s.text = true ∧ readTable d s.text = .ok (some t) := by
  unfold table?
  by_cases hs : definesTable s.text = true
  · have hdefinition : definition (.ok d) s = (readTable d s.text).mapError fun cause =>
        .source ⟨cause, none, some s.line⟩ := if_pos hs
    rw [hdefinition]
    cases readTable d s.text <;> simp [Except.mapError, hs]
  · have hdefinition : definition (.ok d) s = .ok none := if_neg hs
    rw [hdefinition]
    simp [hs]

/-- **A statement defines the table that it defines without carriage returns.** -/
theorem table?_withoutReturns (h : Paired s.text)
    (hd : definesTable s.text = true → ReturnsAreBlank d s.text) :
    table? d s.withoutReturns = table? d s := by
  ext t
  rw [table?_eq_some_iff, table?_eq_some_iff]
  change definesTable (withoutReturns s.text) = true ∧ readTable d (withoutReturns s.text) = _ ↔ _
  rw [definesTable_withoutReturns h]
  refine and_congr_right fun hs => ?_
  rcases readTable_withoutReturns (hd hs) with ⟨hread, -⟩ | ⟨_, _, -, -, hread, hread'⟩
  · rw [hread]
  · rw [hread, hread']
    exact iff_of_false (by simp) (by simp)

/-- It makes an error with its carriage returns if it makes one without them. -/
theorem isSome_definitionError?_withoutReturns (h : Paired s.text)
    (hd : definesTable s.text = true → ReturnsAreBlank d s.text) :
    (definitionError? d s.withoutReturns).isSome = (definitionError? d s).isSome := by
  rw [Bool.eq_iff_iff, Option.isSome_iff_exists, Option.isSome_iff_exists]
  simp only [definitionError?_eq_some_iff]
  change (∃ e, definesTable (withoutReturns s.text) = true ∧
    ∃ cause, readTable d (withoutReturns s.text) = _ ∧ _) ↔ _
  rw [definesTable_withoutReturns h]
  by_cases hs : definesTable s.text = true
  · rcases readTable_withoutReturns (hd hs) with ⟨hread, -⟩ | ⟨_, _, -, -, hread, hread'⟩
    · rw [hread]
      rfl
    · exact iff_of_true ⟨_, hs, _, hread', rfl⟩ ⟨_, hs, _, hread, rfl⟩
  · exact iff_of_false (fun ⟨_, he, _⟩ => hs he) fun ⟨_, he, _⟩ => hs he

/-- The two errors are one **exactly if the parser refuses the definition in the same words**. -/
theorem definitionError?_withoutReturns_iff (h : Paired s.text)
    (hd : definesTable s.text = true → ReturnsAreBlank d s.text) :
    definitionError? d s.withoutReturns = definitionError? d s ↔
      (definesTable s.text = true →
        Parser.parse d (withoutReturns s.text) = Parser.parse d s.text) := by
  have hdefines : definesTable s.withoutReturns.text = definesTable s.text :=
    definesTable_withoutReturns h
  by_cases hs : definesTable s.text = true
  · rw [imp_iff_right hs]
    have hs' := hdefines.trans hs
    rcases readTable_withoutReturns (hd hs) with
      ⟨hread, hparse⟩ | ⟨words, words', hparse, hparse', hread, hread'⟩
    · refine iff_of_true ?_ hparse
      ext e
      rw [definitionError?_eq_some_iff, definitionError?_eq_some_iff, hdefines]
      exact and_congr_right fun _ => exists_congr fun _ => and_congr_left fun _ => by
        rw [← hread]
        rfl
    · have herror := definitionError?_eq_some_iff.2 ⟨hs, _, hread, rfl⟩
      have herror' := definitionError?_eq_some_iff (s := s.withoutReturns).2 ⟨hs', _, hread', rfl⟩
      rw [herror, herror', hparse, hparse']
      simp [Segment.withoutReturns]
  · refine iff_of_true ?_ fun he => absurd he hs
    have hs' : ¬ definesTable s.withoutReturns.text = true := by rwa [hdefines]
    ext e
    rw [definitionError?_eq_some_iff, definitionError?_eq_some_iff]
    exact iff_of_false (fun he => hs' he.1) fun he => hs he.1

variable {lead : String} {known : List Table}

/-- **A text defines the tables that it defines with its line ends replaced**, -/
theorem allTables_crlf (h : '\r' ∉ text)
    (hd : ∀ s ∈ segments (crlf text), definesTable s.text = true → ReturnsAreBlank d s.text) :
    allTables d known (crlf text) = allTables d known text := by
  have htables : (segments (crlf text)).filterMap (table? d) =
      (segments text).filterMap (table? d) := by
    rw [segments_eq_map_withoutReturns h, List.filterMap_map]
    exact List.filterMap_congr fun s hs =>
      (table?_withoutReturns (paired_of_mem_segments (paired_crlf h) hs) (hd s hs)).symm
  unfold allTables
  rw [htables]

/-- and what cannot be read as a table makes as many errors, which are the same exactly if the parser
refuses it in the same words. -/
theorem definitionErrors_crlf (h : '\r' ∉ text)
    (hd : ∀ s ∈ segments (crlf text), definesTable s.text = true → ReturnsAreBlank d s.text) :
    ((segments (crlf text)).filterMap (definitionError? d)).length =
        ((segments text).filterMap (definitionError? d)).length ∧
      ((segments (crlf text)).filterMap (definitionError? d) =
          (segments text).filterMap (definitionError? d) ↔
        ∀ s ∈ segments (crlf text), definesTable s.text = true →
          Parser.parse d (withoutReturns s.text) = Parser.parse d s.text) := by
  have hsome : ∀ s ∈ segments (crlf text), (definitionError? d s).isSome =
      (definitionError? d s.withoutReturns).isSome := fun s hs =>
    (isSome_definitionError?_withoutReturns (paired_of_mem_segments (paired_crlf h) hs)
      (hd s hs)).symm
  rw [segments_eq_map_withoutReturns h, List.filterMap_map]
  constructor
  · rw [List.length_filterMap_eq_countP, List.length_filterMap_eq_countP]
    exact List.countP_congr fun s hs => by rw [hsome s hs]; rfl
  · refine (filterMap_eq_filterMap_iff hsome).trans (forall₂_congr fun s hs => ?_)
    rw [eq_comm]
    exact definitionError?_withoutReturns_iff (paired_of_mem_segments (paired_crlf h) hs) (hd s hs)

/-- A query with nothing below its marker has no contract. -/
theorem given_ne_some_of_body {tables : Tables} {q : MarkedQuery} {c : Contract} (h : q.body = []) :
    given d lead tables q ≠ .ok (some c) := by
  intro hc
  have hq := query_of_given hc
  unfold query at hq
  split_ifs at hq
  obtain ⟨D, hdraft, -⟩ := bind_eq_ok_iff.1 (mapError_eq_ok_iff.1 hq)
  obtain ⟨-, -, -, s, more, hsegments, -⟩ := exists_of_draft (mapError_eq_ok_iff.1 hdraft)
  rw [h, segments, scan_nil] at hsegments
  cases hsegments

/-- Queries with nothing below their markers make no statements. -/
theorem statements_eq_nil_of_bodies {tables : Tables} {qs : List MarkedQuery} {es : List Entry}
    (h : Entered (given d lead tables) (fun q => q.line) qs es) (hqs : ∀ q ∈ qs, q.body = []) :
    es.filterMap Entry.statement? = [] := by
  rw [List.filterMap_eq_nil_iff]
  intro e he
  cases e with
  | error e => rfl
  | statement c =>
      obtain ⟨q, hq, hgiven⟩ := h.exists_of_statement he
      exact absurd hgiven (given_ne_some_of_body (hqs q hq))

/-- Queries on other lines make other entries. -/
theorem entries_ne_of_line {tables : Tables} {qs qs' : List MarkedQuery} {es es' : List Entry}
    (h : Entered (given d lead tables) (fun q => q.line) qs es)
    (h' : Entered (given d lead tables) (fun q => q.line) qs' es') {q : MarkedQuery} (hq : q ∈ qs)
    (hlines : ∀ q' ∈ qs', q'.line ≠ q.line) : es' ≠ es := by
  rintro rfl
  have hsame := (h.lines_eq fun _ => given_ne_none).symm.trans (h'.lines_eq fun _ => given_ne_none)
  have hmem : some (q.line : Int) ∈ qs'.map fun q => some (q.line : Int) := by
    rw [← hsame]
    exact List.mem_map_of_mem hq
  obtain ⟨q', hq', hline⟩ := List.mem_map.1 hmem
  exact hlines q' hq' (Int.ofNat.inj (Option.some.inj hline))

/-- What a text is read as depends on the tables and on the queries. -/
theorem read_eq_of_split {text' : List Char} (hsplit : split text' = split text)
    (htables : allTables d known text' = allTables d known text)
    (herrors : (segments text').filterMap (definitionError? d) =
      (segments text).filterMap (definitionError? d)) :
    read (.ok d) lead false known text' = read (.ok d) lead false known text := by
  unfold read
  rw [foldlM_readDefinition, foldlM_readDefinition, herrors, hsplit]
  unfold allTables at htables
  simp only [htables]

/-- **What a text is read as once its line ends are replaced.**  No statement is left.  Where a carriage
return is a blank to the parser in the table definitions of the text, the tables are the same; and the
statements and errors are so exactly if nothing is below any marker and the parser refuses what it
refuses of the definitions in the same words. -/
theorem read_crlf (d : Dialect) (lead : String) (known : List Table) {text : List Char}
    (h : '\r' ∉ text) :
    ∃ r r', read (.ok d) lead false known text = .ok r ∧
      read (.ok d) lead false known (crlf text) = .ok r' ∧ r'.statements = [] ∧
      ((∀ s ∈ segments (crlf text), definesTable s.text = true → ReturnsAreBlank d s.text) →
        r'.tables = r.tables ∧
          ((r'.statements = r.statements ∧ r'.errors = r.errors) ↔
            (∀ q ∈ split text, q.body = []) ∧
              ∀ s ∈ segments (crlf text), definesTable s.text = true →
                Parser.parse d (withoutReturns s.text) = Parser.parse d s.text)) := by
  obtain ⟨es, hes, -, hread⟩ := exists_entered d lead known text
  obtain ⟨es', hes', -, hread'⟩ := exists_entered d lead known (crlf text)
  have hnone := statements_eq_nil_of_bodies hes' fun q hq => body_of_mem_splitFrom_crlf hq
  refine ⟨_, _, hread, hread', hnone, fun hd => ?_⟩
  have htables : allTables d known (crlf text) = allTables d known text := allTables_crlf h hd
  obtain ⟨hlength, hdefinitions⟩ := definitionErrors_crlf h hd
  refine ⟨htables, ?_⟩
  constructor
  · rintro ⟨hstatements, herrors⟩
    have herrors : (segments (crlf text)).filterMap (definitionError? d) ++
          es'.filterMap Entry.error? =
        (segments text).filterMap (definitionError? d) ++ es.filterMap Entry.error? := herrors
    -- the errors of definitions stand before those of queries, and there are as many of them
    obtain ⟨hsame, herrors⟩ := List.append_inj herrors hlength
    refine ⟨?_, hdefinitions.1 hsame⟩
    rcases split_crlf text with ⟨-, hall⟩ | ⟨q, hq, -, hlater⟩
    · exact hall
    · -- without statements the entries are the errors, but the query left out has one of its own
      rw [htables] at hes'
      refine absurd ?_ (entries_ne_of_line hes hes' hq fun q' hq' => (hlater q' hq').ne')
      rw [Entry.eq_map_error hnone, Entry.eq_map_error (hstatements.symm.trans hnone), herrors]
  · rintro ⟨hall, hwords⟩
    rcases split_crlf text with ⟨hsplit, -⟩ | ⟨q, hq, hbody, -⟩
    · have hsame : read (.ok d) lead false known (crlf text) =
          read (.ok d) lead false known text :=
        read_eq_of_split hsplit htables (hdefinitions.2 hwords)
      rw [hread, hread'] at hsame
      have hreport := Except.ok.inj hsame
      exact ⟨congrArg Report.statements hreport, congrArg Report.errors hreport⟩
    · exact absurd (hall q hq) hbody

end Marked

attribute [local instance] Sql.parser

namespace Marked

/-- A table that is read as before, and a query that is left out. -/
theorem read_crlf_table :
    let text :=
      "CREATE TABLE t (\n  id INTEGER\n);\n-- name: clear :exec\nDELETE FROM t;\n".toList
    '\r' ∉ text ∧
      (∀ s ∈ segments (crlf text), definesTable s.text = true →
        ReturnsAreBlank .localSync s.text) ∧
      ∃ r r', read (.ok .localSync) Header.defaultLead false [] text = .ok r ∧
        read (.ok .localSync) Header.defaultLead false [] (crlf text) = .ok r' ∧
        r.tables.map (·.1) = ["t"] ∧ r'.tables = r.tables ∧
        r.statements.map (·.name) = ["clear"] ∧ r'.statements = [] := by
  intro text
  have hreturn : '\r' ∉ text := by decide +kernel
  have hblank : ∀ s ∈ segments (crlf text), definesTable s.text = true →
      ReturnsAreBlank .localSync s.text := by
    unfold ReturnsAreBlank
    decide +kernel
  obtain ⟨r, r', hr, hr', hnone, hsame⟩ := read_crlf .localSync Header.defaultLead [] hreturn
  obtain ⟨r₀, hr₀, hgives⟩ := exists_ok_of_map_toOption
    (f := fun r : Report => (r.tables.map (·.1), r.statements.map (·.name)))
    (b := (["t"], ["clear"])) (x := read (.ok .localSync) Header.defaultLead false [] text)
    (by decide +kernel)
  obtain rfl : r₀ = r := Except.ok.inj (hr₀.symm.trans hr)
  obtain ⟨htables, hstatements⟩ := Prod.ext_iff.1 hgives
  exact ⟨hreturn, hblank, r₀, r', hr, hr', htables, (hsame hblank).1, hstatements, hnone⟩

/-- A query that is left out without an error once its line ends are replaced. -/
theorem not_read_crlf_query :
    let text := "-- name: clear :exec\nDELETE FROM t;\n".toList
    '\r' ∉ text ∧ ∃ r r', read (.ok .localSync) Header.defaultLead false [] text = .ok r ∧
      read (.ok .localSync) Header.defaultLead false [] (crlf text) = .ok r' ∧
      r.statements.map (·.name) = ["clear"] ∧ r'.statements = [] ∧ r'.errors = [] := by
  intro text
  obtain ⟨r, hr, hgives⟩ := exists_ok_of_map_toOption
    (f := fun r : Report => r.statements.map (·.name))
    (b := ["clear"]) (x := read (.ok .localSync) Header.defaultLead false [] text)
    (by decide +kernel)
  obtain ⟨r', hr', hgives'⟩ := exists_ok_of_map_toOption
    (f := fun r : Report => (r.statements, r.errors))
    (b := ([], [])) (x := read (.ok .localSync) Header.defaultLead false [] (crlf text))
    (by decide +kernel)
  obtain ⟨hstatements, herrors⟩ := Prod.ext_iff.1 hgives'
  exact ⟨by decide +kernel, r, r', hr, hr', hgives, hstatements, herrors⟩

end Marked

end SqlContract
