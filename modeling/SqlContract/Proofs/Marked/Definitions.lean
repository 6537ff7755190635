/-
Reading all table definitions of a text, and reading one.

A text that is one table definition is read alone, or as a text of which all definitions are read.
Then it is cut at its semicolons first, and what is no CREATE TABLE without its comments is passed over.
The cut loses nothing as long as the splitter meets no semicolon but those of the reader.  A semicolon
inside a name in brackets or backticks is one to the splitter, and so is one in a literal behind a name
with a quote in it: there the definition ends for the splitter, and what is left of it cannot be read.
The test loses definitions as well: without a comment between them two words are one, and it does not
know all the words that a reader takes between CREATE and TABLE.

Main definitions:

* `Sql.Follows` — what is asked of the parser: that it takes a text as its spans say.

Main results:

* `definesTable_of_semicolon` — the test does not see what stands behind a semicolon;
* `Marked.tables_of_readTable` — **all tables of a text that is one definition are that one table**, if
  the test lets it through and the splitter meets no other semicolons than the reader;
* `Marked.tables_ne_of_comment` — a definition that the test passes over.
-/

import SqlContract.Proofs.Marked.LineEnds
import SqlContract.Proofs.Scanning.Spans

set_option autoImplicit false
set_option relaxedAutoImplicit false

namespace SqlContract

open Text Sql

section

variable {k : String} {s tail : List Char}

/-! ### The test in front of a semicolon -/

theorem any_head?_semicolon {p : Char → Bool} (hp : p ';' = false) (s tail : List Char) :
    (s ++ ';' :: tail).head?.any p = s.head?.any p := by
  cases s with
  | nil => exact hp
  | cons c cs => rfl

theorem prefix_semicolon_iff {p : List Char} (hp : ';' ∉ p) :
    p <+: s ++ ';' :: tail ↔ p <+: s := by
  constructor
  · exact prefix_of_append hp
  · intro h
    exact h.trans (List.prefix_append s _)

/-- A run of characters of a class that a semicolon is not of ends before it. -/
theorem span_semicolon {p : Char → Bool} (hp : p ';' = false) (s tail : List Char) :
    (s ++ ';' :: tail).takeWhile p = s.takeWhile p ∧
      (s ++ ';' :: tail).dropWhile p = s.dropWhile p ++ ';' :: tail := by
  refine span_append fun _ c hc => ?_
  obtain rfl : ';' = c := Option.some.inj hc
  exact hp

theorem afterKeyword?_semicolon (hk : ';' ∉ k.toList) (s tail : List Char) :
    afterKeyword? k (s ++ ';' :: tail) = (afterKeyword? k s).map (· ++ ';' :: tail) := by
  ext t
  rw [Option.map_eq_some_iff]
  constructor
  · intro ht
    obtain ⟨p, he, hp⟩ := afterKeyword?_eq_some_iff.1 ht
    -- a semicolon is its own upper case, so the keyword would hold it too
    have hsemicolon : ';' ∉ p := by
      intro hm
      refine hk ?_
      rw [← hp]
      exact List.mem_map_of_mem (f := Char.toUpper) hm
    obtain ⟨rest, rfl⟩ := (prefix_semicolon_iff hsemicolon).1 ⟨t, he.symm⟩
    rw [List.append_assoc] at he
    exact ⟨rest, afterKeyword?_eq_some_iff.2 ⟨p, rfl, hp⟩, List.append_cancel_left he⟩
  · rintro ⟨rest, hrest, rfl⟩
    obtain ⟨p, rfl, hp⟩ := afterKeyword?_eq_some_iff.1 hrest
    exact afterKeyword?_eq_some_iff.2 ⟨p, List.append_assoc p rest _, hp⟩

theorem stripLeft_semicolon (s tail : List Char) :
    stripLeft (s ++ ';' :: tail) = stripLeft s ++ ';' :: tail :=
  (span_semicolon (by decide) s tail).2

theorem afterWord?_semicolon (hk : ';' ∉ k.toList) (s tail : List Char) :
    afterWord? k (s ++ ';' :: tail) = (afterWord? k s).map (· ++ ';' :: tail) := by
  unfold afterWord?
  rw [afterKeyword?_semicolon hk]
  cases afterKeyword? k s with
  | none => rfl
  | some rest =>
      rw [Option.map_some, Option.bind_some, Option.bind_some, any_head?_semicolon (by decide),
        stripLeft_semicolon]
      split_ifs <;> rfl

/-- What stands behind a word that may be left out, in front of a semicolon. -/
theorem getD_afterWord?_semicolon (s tail : List Char) :
    ((afterWord? "TEMPORARY" (s ++ ';' :: tail)).or (afterWord? "TEMP" (s ++ ';' :: tail))).getD
        (s ++ ';' :: tail) =
      ((afterWord? "TEMPORARY" s).or (afterWord? "TEMP" s)).getD s ++ ';' :: tail := by
  rw [afterWord?_semicolon (by decide), afterWord?_semicolon (by decide)]
  cases afterWord? "TEMPORARY" s <;> cases afterWord? "TEMP" s <;> rfl

/-- **The test for a table definition does not see what stands behind a semicolon.** -/
theorem definesTable_of_semicolon {body w : List Char}
    (h : withoutComments s = withoutComments body ++ ';' :: w) :
    definesTable s = definesTable body := by
  unfold definesTable
  rw [h, stripLeft_semicolon, afterWord?_semicolon (by decide)]
  cases afterWord? "CREATE" (stripLeft (withoutComments body)) with
  | none => rfl
  | some rest =>
      rw [Option.map_some]
      dsimp only
      rw [getD_afterWord?_semicolon, afterKeyword?_semicolon (by decide)]
      generalize ((afterWord? "TEMPORARY" rest).or (afterWord? "TEMP" rest)).getD rest = behind
      cases afterKeyword? "TABLE" behind with
      | none => rfl
      | some tail =>
          rw [Option.map_some]
          dsimp only
          rw [any_head?_semicolon (by decide)]

theorem definesTable_of_strip_eq_nil (h : strip (withoutComments s) = []) :
    definesTable s = false := by
  unfold definesTable
  rw [stripLeft_eq_nil_iff.2 (strip_eq_nil_iff.1 h)]
  rfl

end

/-! ### The first semicolon -/

namespace Sql.Span

variable {ls : List Span}

/-- Where the splitter meets its first semicolon. -/
theorem exists_first_separator {s : List Char} (h : .semicolon ∈ scan s) :
    ∃ body tail, s = body ++ ';' :: tail ∧ scan s = scan body ++ .semicolon :: scan tail ∧
      .semicolon ∉ scan body ∧ SeparatorAt s body.length ∧
      ∀ place, SeparatorAt s place → body.length ≤ place := by
  obtain ⟨g, qs, hscan, hg⟩ := List.eq_append_cons_of_mem h
  have hs : s = join g ++ ';' :: join qs := by
    rw [← join_scan s, hscan, join_append, join_cons]
    rfl
  have hbehind : scan s = (g ++ [.semicolon]) ++ qs := by
    rw [hscan, List.append_assoc]
    rfl
  refine ⟨join g, join qs, hs, ?_, ?_, ?_, fun place hplace => ?_⟩
  · rw [hscan, (scan_of_append hscan).1, (scan_of_append hbehind).2]
  · rwa [(scan_of_append hscan).1]
  · rw [separatorAt_iff, occurrences, hscan]
    exact mem_occurrencesFrom_append rfl g qs
  · have hmem := separatorAt_iff.1 hplace
    rw [occurrences, hscan, occurrencesFrom_append] at hmem
    rcases List.mem_append.1 hmem with hmem | hmem
    · -- no piece before the first semicolon is one
      have hpiece := List.mem_map_of_mem (f := Occurrence.piece) hmem
      rw [map_piece_occurrencesFrom] at hpiece
      exact absurd (List.mem_of_mem_filter hpiece) hg
    · simpa using (within_of_mem hmem).1

/-- What says nothing defines no table. -/
theorem definesTable_of_isPassedOver (h : Written ls) (hls : ∀ l ∈ ls, l.isPassedOver = true)
    {line : Nat} {seg : Segment} (hseg : seg ∈ segmentsAt line (spell ls)) :
    definesTable seg.text = false := by
  have hscan := scan_spell h fun l hl => isClear_of_isPassedOver (hls l hl)
  obtain ⟨g, hg, htext⟩ := exists_group_of_mem hseg
  obtain ⟨hsemicolon, hinfix⟩ := mem_cut hg
  refine definesTable_of_strip_eq_nil (strip_eq_nil_iff.2 fun c hc => ?_)
  -- what is left of its pieces without the comments are blanks
  rw [htext, withoutComments, scan_join_of_infix hinfix] at hc
  obtain ⟨p, hp, hcp⟩ := List.mem_flatMap.1 hc
  obtain ⟨hpg, hcomment⟩ := List.mem_filter.1 hp
  have hpls := hinfix.subset hpg
  rw [hscan] at hpls
  obtain ⟨l, hl, hpl⟩ := List.mem_flatMap.1 hpls
  rcases mem_pieces_of_isPassedOver (hls l hl) hpl with ⟨b, rfl, hb⟩ | hp | rfl
  · obtain rfl := List.mem_singleton.1 hcp
    exact hb
  · rw [hp] at hcomment
    cases hcomment
  · exact absurd hpg hsemicolon

end Sql.Span

section

/-! ### What a parser makes of spans -/

/-- The parser takes a text as its spans say, as far as its ends are concerned. -/
structure Sql.Follows [Parser] (d : Dialect) (ls : List Span) : Prop where
  /-- What stands behind a definition from a semicolon on may be left out, if it says nothing. -/
  closing : ∀ n, ls[n]? = some .semicolon → (∀ l ∈ ls.drop (n + 1), l.isPassedOver = true) →
    ∀ t, Parser.parse d (Span.spell ls) = .ok t → t.kind = .definition →
      Parser.parse d (Span.spell (ls.take n)) = .ok t
  /-- A text that ends in an open name or literal, before a semicolon in it, is refused. -/
  unclosed : ∀ n l c body, ls[n]? = some l → l.enclosed? = some (c, body) →
    ∀ m, body[m]? = some ';' →
      ∃ words, Parser.parse d (Span.spell (ls.take n) ++ c :: body.take m) = .error words

variable [Sql.Parser] {d : Dialect}

/-- What is asked of the parser is asked of finitely many texts. -/
theorem Sql.follows_of_forall {ls : List Span}
    (hclosing : ∀ n < ls.length, ls[n]? = some .semicolon →
      Parser.parse d (Span.spell (ls.take n)) = Parser.parse d (Span.spell ls))
    (hunclosed : ∀ n < ls.length, ∀ x ∈ ls[n]?.bind Span.enclosed?, ∀ m < x.2.length,
      x.2[m]? = some ';' →
        (Parser.parse d (Span.spell (ls.take n) ++ x.1 :: x.2.take m)).toOption = none) :
    Follows d ls where
  closing n hn _ t ht _ := (hclosing n (List.getElem?_eq_some_iff.1 hn).1 hn).trans ht
  unclosed n l c body hn hl m hm := by
    have hx : (c, body) ∈ ls[n]?.bind Span.enclosed? := by
      rw [hn, Option.bind_some, hl]
      rfl
    have hnone := hunclosed n (List.getElem?_eq_some_iff.1 hn).1 (c, body) hx m
      (List.getElem?_eq_some_iff.1 hm).1 hm
    cases hparse : Parser.parse d (Span.spell (ls.take n) ++ c :: body.take m) with
    | error words => exact ⟨words, rfl⟩
    | ok t =>
        rw [hparse] at hnone
        cases hnone

/-! ### One definition -/

/-- A tree that defines a table is that of a definition. -/
theorem kind_of_ofTree {t : Tree} {T : Table} (h : Definition.ofTree d t = .table T) :
    t.kind = .definition := by
  unfold Definition.ofTree at h
  split at h
  · split_ifs at h with hkind
    rw [Bool.and_eq_true, Bool.and_eq_true, beq_iff_eq] at hkind
    exact hkind.1.1
  · cases h

/-- The tree of a text that defines a table. -/
theorem exists_of_readTable {s : List Char} {T : Table} (h : readTable d s = .ok (some T)) :
    ∃ t, Parser.parse d s = .ok t ∧ t.kind = .definition := by
  obtain ⟨t, hparse, htree, -⟩ := readTable_eq_some_iff.1 h
  exact ⟨t, hparse, kind_of_ofTree htree⟩

/-- A table is read of a text from its tree alone. -/
theorem readTable_congr {s s' : List Char} (h : Parser.parse d s' = Parser.parse d s) :
    readTable d s' = readTable d s := by
  unfold readTable Definition.read
  rw [h]

namespace Marked

variable {ls : List Span} {T : Table} {s : List Char}

/-- Statements that open no table definition add no tables. -/
theorem foldlM_definition_of_not_definesTable {segs : List Segment}
    (h : ∀ seg ∈ segs, definesTable seg.text = false) (ts : Tables) :
    segs.foldlM (fun ts seg => do
      return ((← definition (.ok d) seg).map ts.insert).getD ts) ts = .ok ts := by
  induction segs with
  | nil => rfl
  | cons seg segs ih =>
      have hnone : definition (.ok d) seg = .ok none := if_neg (by simp [h seg List.mem_cons_self])
      rw [List.foldlM_cons, hnone]
      exact ih fun k hk => h k (List.mem_cons_of_mem seg hk)

/-- The tables of a text whose first statement is read, and whose others open no definition. -/
theorem tables_of_segments {seg : Segment} {segs : List Segment} (hsegments : segments s = seg :: segs)
    (hrest : ∀ k ∈ segs, definesTable k.text = false)
    (h : readTable d seg.text = .ok (some T)) :
    tables (.ok d) s = .ok (if definesTable seg.text then [(caseKey T.name, T)] else []) := by
  have hdefinition : definition (.ok d) seg = .ok (if definesTable seg.text then some T else none) := by
    unfold definition
    split_ifs with hdefines
    · show (readTable d seg.text).mapError _ = _
      rw [h]
      rfl
    · rfl
  unfold tables
  rw [hsegments, List.foldlM_cons, hdefinition]
  split_ifs
  · exact foldlM_definition_of_not_definesTable hrest _
  · exact foldlM_definition_of_not_definesTable hrest _

/-- A text whose first statement opens a definition that the parser refuses. -/
theorem tables_of_refused {seg : Segment} {segs : List Segment} {words : String}
    (hsegments : segments s = seg :: segs) (hdefines : definesTable seg.text = true)
    (h : Parser.parse d seg.text = .error words) :
    tables (.ok d) s = .error (.source ⟨.unreadableTable words, none, some seg.line⟩) := by
  have hdefinition : definition (.ok d) seg =
      .error (.source ⟨.unreadableTable words, none, some seg.line⟩) := by
    refine (if_pos hdefines).trans ?_
    show (readTable d seg.text).mapError _ = _
    unfold readTable Definition.read
    rw [h]
    rfl
  unfold tables
  rw [hsegments, List.foldlM_cons, hdefinition]
  rfl

omit [Sql.Parser] in
/-- The test says the same of a text and of what stands before its first semicolon. -/
theorem definesTable_of_scan {body tail : List Char}
    (h : scan (body ++ ';' :: tail) = scan body ++ .semicolon :: scan tail) :
    definesTable (body ++ ';' :: tail) = definesTable body := by
  refine definesTable_of_semicolon (w := withoutComments tail) ?_
  unfold withoutComments code
  rw [h, List.filter_append, join_append]
  rfl

/-- **All tables of a text that is one table definition**, which the parser takes as its spans say.  As
long as the splitter meets no semicolons but those of the reader, they are the table that it defines if
the text is CREATE TABLE without its comments, and none otherwise.  The splitter meets no others if no
name in brackets or backticks holds a sign that it minds.  Where the first semicolon that it meets is
inside a name or a literal, a text that is CREATE TABLE without its comments cannot be read. -/
theorem tables_of_readTable (hwritten : Span.Written ls) (hone : Span.ReadsOne ls)
    (hfollows : Follows d ls) (h : readTable d (Span.spell ls) = .ok (some T)) :
    let text := Span.spell ls
    ((∀ place, SeparatorAt text place → Span.SemicolonAt ls place) →
        tables (.ok d) text =
          .ok (if definesTable text then [(caseKey T.name, T)] else [])) ∧
      ((∀ l ∈ ls, l.IsClear) → ∀ place, SeparatorAt text place → Span.SemicolonAt ls place) ∧
      ∀ n l c body m, ls[n]? = some l → l.enclosed? = some (c, body) → body[m]? = some ';' →
        let place := (Span.spell (ls.take n)).length + 1 + m
        SeparatorAt text place → (∀ other, SeparatorAt text other → place ≤ other) →
        definesTable text = true →
        ∃ words line, tables (.ok d) text =
          .error (.source ⟨.unreadableTable words, none, some line⟩) := by
  intro text
  refine ⟨fun hplaces => ?_, fun hclear place => hwritten.semicolonAt hclear, ?_⟩
  · by_cases hmem : .semicolon ∈ scan text
    · -- the first semicolon of the splitter is one of the reader, and nothing is said behind it
      obtain ⟨body, tail, htext, hscan, hbody, hseparator, -⟩ := Span.exists_first_separator hmem
      obtain ⟨n, hn, hlength⟩ := hplaces _ hseparator
      have hsplit : Span.spell (ls.take n) ++ ([';'] ++ Span.spell (ls.drop (n + 1))) =
          body ++ ([';'] ++ tail) := (Span.spell_eq_of_getElem? hn).symm.trans htext
      obtain ⟨rfl, hbehind⟩ := List.append_inj hsplit hlength.symm
      obtain rfl := (List.append_inj hbehind rfl).2
      have hsilent := hone n hn
      obtain ⟨t, hparse, hkind⟩ := exists_of_readTable h
      have hread : readTable d (Span.spell (ls.take n)) = .ok (some T) :=
        (readTable_congr ((hfollows.closing n hn hsilent t hparse hkind).trans hparse.symm)).trans h
      rw [htext] at hscan ⊢
      have hsegments := segmentsAt_append 1 hscan hbody
      rw [definesTable_of_scan hscan]
      exact tables_of_segments hsegments (fun k hk =>
        Span.definesTable_of_isPassedOver (hwritten.drop (n + 1)) hsilent hk) hread
    · -- the splitter sees one statement, or nothing at all
      have hsegments := segmentsOf_of_not_mem hmem 1
      rw [← segments_eq_segmentsOf, join_scan] at hsegments
      split_ifs at hsegments with hcode
      · have hnone : definesTable text = false := definesTable_of_strip_eq_nil hcode
        unfold tables
        rw [hsegments, hnone]
        rfl
      · exact tables_of_segments hsegments (by simp) h
  · intro n l c body m hn hl hm place hplace hfirst hdefines
    have hmem : .semicolon ∈ scan text := by
      have hpiece := List.mem_map_of_mem (f := Occurrence.piece) (separatorAt_iff.1 hplace)
      rw [occurrences, map_piece_occurrencesFrom] at hpiece
      exact List.mem_of_mem_filter hpiece
    obtain ⟨start, tail, htext, hscan, hstart, hseparator, hleast⟩ :=
      Span.exists_first_separator hmem
    -- what stands before that semicolon ends in the open name or literal
    have hlength : start.length = place := le_antisymm (hleast _ hplace) (hfirst _ hseparator)
    obtain ⟨words, hwords⟩ := hfollows.unclosed n l c body hn hl m hm
    have hopen : start = Span.spell (ls.take n) ++ c :: body.take m := by
      obtain ⟨behind, hbehind⟩ := Span.exists_text_eq hl
      have hcut : text = (Span.spell (ls.take n) ++ c :: body.take m) ++
          (body.drop m ++ (behind ++ Span.spell (ls.drop (n + 1)))) := by
        rw [show text = Span.spell ls from rfl, Span.spell_eq_of_getElem? hn, hbehind]
        conv_lhs => rw [← List.take_append_drop m body]
        simp only [List.append_assoc, List.cons_append]
      refine (List.append_inj (htext.symm.trans hcut) ?_).1
      obtain ⟨hlt, -⟩ := List.getElem?_eq_some_iff.1 hm
      rw [hlength, List.length_append, List.length_cons, List.length_take, Nat.min_eq_left hlt.le]
      dsimp only [place]
      omega
    rw [← hopen] at hwords
    rw [htext] at hscan hdefines ⊢
    rw [definesTable_of_scan hscan] at hdefines
    exact ⟨words, _, tables_of_refused (segmentsAt_append 1 hscan hstart) hdefines hwords⟩

end Marked

end

attribute [local instance] Sql.parser

namespace Marked

/-- Names in brackets and backticks, a semicolon in a literal, one in a comment, and one that ends the
definition; and a name with a semicolon in it, at which the definition is cut. -/
theorem tables_of_readTable_names :
    let note : Span := .stretch (.piece (.blockComment " all; ".toList))
    let ls : List Span := [.stretch (.ordinary "create ".toList), note,
      .stretch (.ordinary " Table Notes (".toList), .name .brackets "the id".toList,
      .stretch (.ordinary " INTEGER, ".toList), .name .backticks "b".toList,
      .stretch (.ordinary " TEXT DEFAULT ".toList), .stretch (.piece (.quoted .single [';'])),
      .stretch (.ordinary [')']), .semicolon, .stretch (.ordinary [' '])]
    let ls' : List Span := [.stretch (.ordinary "CREATE TABLE t (".toList),
      .name .brackets "a;b".toList, .stretch (.ordinary " INTEGER)".toList)]
    Span.spell ls =
        "create /* all; */ Table Notes ([the id] INTEGER, \x60b\x60 TEXT DEFAULT ';'); ".toList ∧
      Span.spell ls' = "CREATE TABLE t ([a;b] INTEGER)".toList ∧
      tables (.ok .localSync) (Span.spell ls) =
        .ok [("notes", ⟨"Notes", [⟨"the id", "INTEGER", true⟩, ⟨"b", "TEXT", true⟩]⟩)] ∧
      readTable .localSync (Span.spell ls') = .ok (some ⟨"t", [⟨"a;b", "INTEGER", true⟩]⟩) ∧
      ∃ words line, tables (.ok .localSync) (Span.spell ls') =
        .error (.source ⟨.unreadableTable words, none, some line⟩) := by
  intro note ls ls'
  have hwritten : Span.Written ls :=
    ⟨by decide +kernel, by simp [ls, note, Span.MayPrecede, Stretch.MayPrecede, Fence.closing]⟩
  have hwritten' : Span.Written ls' :=
    ⟨by decide +kernel, by simp [ls', Span.MayPrecede, Fence.closing]⟩
  have hone : Span.ReadsOne ls := by decide +kernel
  have hone' : Span.ReadsOne ls' := by decide +kernel
  have hfollows : Follows .localSync ls :=
    follows_of_forall (by decide +kernel) (by decide +kernel)
  have hfollows' : Follows .localSync ls' :=
    follows_of_forall (by decide +kernel) (by decide +kernel)
  have hread : readTable .localSync (Span.spell ls) =
      .ok (some ⟨"Notes", [⟨"the id", "INTEGER", true⟩, ⟨"b", "TEXT", true⟩]⟩) := by
    decide +kernel
  have hread' : readTable .localSync (Span.spell ls') =
      .ok (some ⟨"t", [⟨"a;b", "INTEGER", true⟩]⟩) := by
    decide +kernel
  obtain ⟨htables, hclear, -⟩ := tables_of_readTable hwritten hone hfollows hread
  obtain ⟨-, -, hcut⟩ := tables_of_readTable hwritten' hone' hfollows' hread'
  refine ⟨by decide +kernel, by decide +kernel, ?_, hread', ?_⟩
  · rw [htables (hclear (by decide +kernel))]
    decide +kernel
  · refine hcut 1 _ '[' "a;b".toList 1 rfl rfl rfl ?_ ?_ (by decide +kernel)
    · exact separatorAt_iff.2 (by decide +kernel)
    · intro other hother
      have hmem := separatorAt_iff.1 hother
      have hall : ∀ o ∈ occurrences (Span.spell ls'), 18 ≤ o.start := by decide +kernel
      exact hall _ hmem

/-- Without the comment between them, TABLE and the name are one word, and the definition is passed
over. -/
theorem tables_ne_of_comment :
    readTable .localSync "CREATE TABLE/* c */t (id INTEGER)".toList =
        .ok (some ⟨"t", [⟨"id", "INTEGER", true⟩]⟩) ∧
      tables (.ok .localSync) "CREATE TABLE/* c */t (id INTEGER)".toList ≠
        .ok [("t", ⟨"t", [⟨"id", "INTEGER", true⟩]⟩)] := by
  decide +kernel

end Marked

end SqlContract
