/-
Headers in front of SQL.

What stands ahead of the SQL of a statement are lines of two kinds, fillers and header lines, and
every one of them is blank or a comment: a header says nothing to an engine.  A header that is
written a line for each list of words is read back as these words.

Main definitions:

* `Header.line` — the header line of some words;
* `IsWord` — texts that can be a word of a header line.

Main results:

* `Header.split_written` — **a header that is written is read back**, and so is the SQL behind it;
* `Header.substance_split` — **a header says nothing**: what the text says besides its comments and
  blanks is what its SQL says, once every line ends in a line feed.
-/

import SqlContract.Header
import SqlContract.Proofs.Scanning.Substance

set_option autoImplicit false
set_option relaxedAutoImplicit false

namespace SqlContract

open Text Sql

/-- Texts that can be a word of a header line. -/
def IsWord (w : String) : Prop :=
  w.toList ≠ [] ∧ ∀ c ∈ w.toList, isBlank c = false

instance (w : String) : Decidable (IsWord w) :=
  decidable_of_iff (w.toList ≠ [] ∧ (w.toList.all fun c => !isBlank c) = true) (by simp [IsWord])

theorem isWord_of_isIdentifier {w : String} (h : isIdentifier w = true) : IsWord w :=
  ⟨identifier_ne_nil h, fun _ hc => isBlank_of_mem_identifier h hc⟩

namespace Header

theorem toList_defaultLead : defaultLead.toList = ['-', '-', ' ', '@'] := by decide

/-! ### What stands ahead of the SQL -/

variable {lead l : List Char}

theorem words?_of_lead (h : lead <+: stripLeft l) :
    words? lead l = some ((words ((stripLeft l).drop lead.length)).map String.ofList) :=
  if_pos (List.isPrefixOf_iff_prefix.2 h)

theorem words?_eq_none_iff : words? lead l = none ↔ ¬ lead <+: stripLeft l := by
  simp [words?]

/-- A filler is blank or a comment. -/
theorem isRemark_of_isFiller (h : isFiller lead l = true) : IsRemark l := by
  simp only [isFiller, Bool.or_eq_true, Bool.and_eq_true, List.isEmpty_iff] at h
  rcases h with h | ⟨h, -⟩
  · exact .inl (stripLeft_eq_nil_iff.2 (strip_eq_nil_iff.1 h))
  · exact .inr ((List.isPrefixOf_iff_prefix.1 h).trans (strip_prefix_stripLeft l))

/-- A header line is a comment. -/
theorem isRemark_of_lead (h : defaultLead.toList <+: stripLeft l) : IsRemark l := by
  rw [toList_defaultLead] at h
  exact .inr (List.IsPrefix.trans ⟨[' ', '@'], rfl⟩ h)

/-- A text with the lead in front starts with no blank. -/
theorem stripLeft_of_lead {s : List Char} (h : defaultLead.toList <+: s) : stripLeft s = s := by
  obtain ⟨x, rfl⟩ := h
  refine stripLeft_of_head? fun c hc => ?_
  obtain rfl : '-' = c := Option.some.inj hc
  decide

/-- A header line is no filler. -/
theorem isFiller_of_lead (h : defaultLead.toList <+: stripLeft l) :
    isFiller defaultLead.toList l = false := by
  have hstrip : defaultLead.toList <+: strip l := by
    refine prefix_strip (fun c hc => ?_) h
    obtain rfl : '@' = c := Option.some.inj hc
    decide
  have hself : defaultLead.toList <+: stripLeft (strip l) := by
    rw [stripLeft_of_lead hstrip]
    exact hstrip
  have hne : strip l ≠ [] := by
    intro he
    rw [he, toList_defaultLead] at hstrip
    exact absurd (List.prefix_nil.1 hstrip) (by decide)
  simp [isFiller, hne, words?_of_lead hself]

/-- The lines of a text are fillers, then header lines, then the lines of the SQL. -/
theorem exists_takeLines_eq (lead : List Char) (ls : List (List Char)) :
    ∃ hs, ls = hs ++ (takeLines lead ls).2 ∧ ∀ l ∈ hs, lead <+: stripLeft l := by
  induction ls with
  | nil => exact ⟨[], rfl, by simp⟩
  | cons l ls ih =>
      by_cases hl : lead <+: stripLeft l
      · obtain ⟨hs, he, hhs⟩ := ih
        refine ⟨l :: hs, ?_, ?_⟩
        · simp only [takeLines, words?_of_lead hl]
          rw [List.cons_append, ← he]
        · intro k hk
          rcases List.mem_cons.1 hk with rfl | hk
          · exact hl
          · exact hhs k hk
      · refine ⟨[], ?_, by simp⟩
        simp only [takeLines, words?_eq_none_iff.2 hl]
        rfl

/-- **A header says nothing.**  Where there is SQL behind it, what the text says apart from comments
and blanks is what the SQL says, with a line feed for each line break of the text. -/
theorem substance_split {text : List Char} (h : (split defaultLead text).2 ≠ []) :
    substance (split defaultLead text).2 = substance (relined text) := by
  obtain ⟨hs, he, hhs⟩ := exists_takeLines_eq defaultLead.toList
    ((lines text).dropWhile (isFiller defaultLead.toList))
  have hsplit : (split defaultLead text).2 = strip (['\n'].intercalate
      (takeLines defaultLead.toList ((lines text).dropWhile (isFiller defaultLead.toList))).2) := rfl
  rw [hsplit] at h ⊢
  generalize (takeLines defaultLead.toList
    ((lines text).dropWhile (isFiller defaultLead.toList))).2 = rest at he h ⊢
  have hcut : lines text =
      ((lines text).takeWhile (isFiller defaultLead.toList) ++ hs) ++ rest := by
    rw [List.append_assoc, ← he, List.takeWhile_append_dropWhile]
  have hremarks : ∀ l ∈ (lines text).takeWhile (isFiller defaultLead.toList) ++ hs,
      IsRemark l ∧ '\n' ∉ l := by
    intro l hl
    refine ⟨?_, fun hm => ?_⟩
    · rcases List.mem_append.1 hl with hl | hl
      · exact isRemark_of_isFiller (List.mem_takeWhile_imp hl)
      · exact isRemark_of_lead (hhs l hl)
    · have hmem : l ∈ lines text := hcut ▸ List.mem_append_left rest hl
      exact absurd (isLineBreak_of_mem_lines hmem hm) (by decide)
  -- without lines behind the header there is no SQL
  have hrest : rest ≠ [] := by
    rintro rfl
    exact h rfl
  obtain ⟨w, hw, hlined⟩ := exists_relined_eq text
  rw [substance_strip, hlined, substance_append_blanks _ hw, hcut,
    substance_remarks hrest hremarks]

/-! ### Headers as they are written -/

/-- The header line of some words. -/
def line (ws : List String) : List Char :=
  defaultLead.toList ++ [' '].intercalate (ws.map String.toList)

theorem stripLeft_line (ws : List String) : stripLeft (line ws) = line ws :=
  stripLeft_of_lead (List.prefix_append _ _)

theorem prefix_line (ws : List String) : defaultLead.toList <+: stripLeft (line ws) := by
  rw [stripLeft_line]
  exact List.prefix_append _ _

/-- The words of a header line are read back. -/
theorem words?_line {ws : List String} (h : ∀ w ∈ ws, IsWord w) :
    words? defaultLead.toList (line ws) = some ws := by
  have hwords : words ([' '].intercalate (ws.map String.toList)) = ws.map String.toList := by
    refine words_intercalate fun w hw => ?_
    obtain ⟨v, hv, rfl⟩ := List.mem_map.1 hw
    exact h v hv
  rw [words?_of_lead (prefix_line ws), stripLeft_line, line, List.drop_left, hwords,
    List.map_map]
  simp

/-- A header line is one line. -/
theorem isLineBreak_of_mem_line {ws : List String} (h : ∀ w ∈ ws, IsWord w) {c : Char}
    (hc : c ∈ line ws) : isLineBreak c = false := by
  rcases List.mem_append.1 hc with hc | hc
  · have hall : defaultLead.toList.all (!isLineBreak ·) = true := by decide
    simpa using List.all_eq_true.1 hall c hc
  · rcases mem_intercalate hc with hc | ⟨l, hl, hc⟩
    · rw [List.mem_singleton.1 hc]
      decide
    · obtain ⟨w, hw, rfl⟩ := List.mem_map.1 hl
      exact isLineBreak_of_not_isBlank ((h w hw).2 c hc)

/-- A header line is a comment of its own, whatever follows it. -/
theorem scan_line_append {ws : List String} (h : ∀ w ∈ ws, IsWord w) (t : List Char) :
    scan (line ws ++ '\n' :: t) =
      .lineComment ((line ws).drop 2) :: .plain '\n' :: scan t := by
  have hform : line ws = '-' :: '-' :: (line ws).drop 2 := by
    rw [line, toList_defaultLead]
    rfl
  have hbody : '\n' ∉ (line ws).drop 2 := fun hm =>
    absurd (isLineBreak_of_mem_line h (List.mem_of_mem_drop hm)) (by decide)
  conv_lhs => rw [hform]
  exact scan_lineComment hbody t

/-- Header lines are taken up to the first line that is none. -/
theorem takeLines_append {wss : List (List String)} (h : ∀ ws ∈ wss, ∀ w ∈ ws, IsWord w)
    {ls : List (List Char)} (hl : ∀ l ∈ ls.head?, ¬ defaultLead.toList <+: stripLeft l) :
    takeLines defaultLead.toList (wss.map line ++ ls) = (wss, ls) := by
  induction wss with
  | nil =>
      cases ls with
      | nil => rfl
      | cons l ls => simp only [List.map_nil, List.nil_append, takeLines,
          words?_eq_none_iff.2 (hl l rfl)]
  | cons ws wss ih =>
      have hrest := ih fun vs hvs => h vs (List.mem_cons_of_mem ws hvs)
      simp only [List.map_cons, List.cons_append, takeLines, words?_line (h ws List.mem_cons_self),
        hrest]

/-- SQL that is written as lines is put together again. -/
theorem strip_intercalate_lines {sql : List Char} (hs : strip sql = sql)
    (hb : ∀ c ∈ sql, isLineBreak c = true → c = '\n') :
    strip (['\n'].intercalate (lines (sql ++ ['\n']))) = sql := by
  have hself : relined (sql ++ ['\n']) = sql ++ ['\n'] := by
    refine relined_eq_self fun c hc hbreak => ?_
    rcases List.mem_append.1 hc with hc | hc
    · exact hb c hc hbreak
    · exact List.mem_singleton.1 hc
  obtain ⟨w, hw, he⟩ := exists_relined_eq (sql ++ ['\n'])
  rw [hself] at he
  rw [← strip_append_blanks _ hw, ← he, strip_append_blanks _ allBlank_lineFeed, hs]

/-- SQL does not get a header line by a line feed at its end. -/
theorem not_prefix_of_mem_lines {sql : List Char} (hs : strip sql = sql)
    (hne : sql ≠ []) (hlead : ¬ defaultLead.toList <+: sql) :
    ∀ l ∈ (lines (sql ++ ['\n'])).head?, ¬ defaultLead.toList <+: stripLeft l := by
  intro l hl hp
  -- the first line starts as the SQL does, with no blank
  have hself : stripLeft l = l := by
    refine stripLeft_of_head? fun c hc => ?_
    obtain ⟨x, hx⟩ := prefix_of_mem_head?_lines hl
    have hhead : (sql ++ ['\n']).head? = some c := by
      rw [← hx]
      exact head?_of_append hc
    obtain ⟨d, ds, rfl⟩ := List.exists_cons_of_ne_nil hne
    obtain rfl : d = c := Option.some.inj hhead
    exact isBlank_of_strip_eq_cons hs
  rw [hself] at hp
  rcases List.prefix_concat_iff.1 (hp.trans (prefix_of_mem_head?_lines hl)) with he | he
  · have hm : '\n' ∈ defaultLead.toList := by
      rw [he]
      simp
    exact absurd hm (by decide)
  · exact hlead he

/-- **A header that is written is read back**, and so is the SQL behind it. -/
theorem split_written {pre : List Char} (hpre : pre = [] ∨ pre = ['\n'])
    {wss : List (List String)} (hwss : wss ≠ []) (hw : ∀ ws ∈ wss, ∀ w ∈ ws, IsWord w)
    {sql : List Char} (hne : sql ≠ []) (hs : strip sql = sql)
    (hb : ∀ c ∈ sql, isLineBreak c = true → c = '\n') (hlead : ¬ defaultLead.toList <+: sql) :
    split defaultLead (pre ++ ((wss.map line).flatMap (· ++ ['\n']) ++ (sql ++ ['\n']))) =
      (wss, sql) := by
  have hlines : lines ((wss.map line).flatMap (· ++ ['\n']) ++ (sql ++ ['\n'])) =
      wss.map line ++ lines (sql ++ ['\n']) := by
    refine lines_flatMap_append (fun l hl c hc => ?_) _
    obtain ⟨ws, hws, rfl⟩ := List.mem_map.1 hl
    exact isLineBreak_of_mem_line (hw ws hws) hc
  have hdrop : (lines (pre ++ ((wss.map line).flatMap (· ++ ['\n']) ++ (sql ++ ['\n'])))).dropWhile
      (isFiller defaultLead.toList) = wss.map line ++ lines (sql ++ ['\n']) := by
    obtain ⟨ws, vss, rfl⟩ := List.exists_cons_of_ne_nil hwss
    have hfirst : isFiller defaultLead.toList (line ws) = false := isFiller_of_lead (prefix_line ws)
    have hblank : isFiller defaultLead.toList [] = true := rfl
    -- the break behind the semicolon of the statement before is an empty line, and so a filler
    rcases hpre with rfl | rfl
    · rw [List.nil_append, hlines, List.map_cons, List.cons_append, List.dropWhile_cons, hfirst]
      rfl
    · have hbreak := lines_append_lineFeed (l := []) (by simp)
        (((ws :: vss).map line).flatMap (· ++ ['\n']) ++ (sql ++ ['\n']))
      rw [List.nil_append] at hbreak
      rw [List.singleton_append, hbreak, hlines, List.dropWhile_cons, hblank, if_pos rfl,
        List.map_cons, List.cons_append, List.dropWhile_cons, hfirst]
      rfl
  unfold split
  rw [hdrop, takeLines_append hw (not_prefix_of_mem_lines hs hne hlead)]
  exact Prod.ext rfl (strip_intercalate_lines hs hb)

end Header

end SqlContract
