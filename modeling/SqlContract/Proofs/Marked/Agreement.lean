/-
The two forms of a statement agree.

A statement with its name and its cardinality in a header can be written as a query under a marker
instead, with the same rest.  Both forms are read in their own ways: the first is cut at semicolons
and its header lines stand together; the second is cut at markers, a semicolon ends it, and lines
before its header are passed over.

Main definitions:

* `Headed.form`, `Marked.form` — a statement in both forms;
* `Headed.declared`, `Headed.behind` — the fields that the rest declares, and the SQL behind them.

Main results:

* `Headed.split_form`, `Marked.split_body` — **both forms have the same header lines and the same
  SQL**;
* `Marked.exists_read_form` — **what the first form gives, the second gives as well**.
-/

import SqlContract.Proofs.Generation.Totality
import SqlContract.Proofs.Headed.RoundTrip
import SqlContract.Proofs.Marked.Markers
import SqlContract.Sql.Statement

set_option autoImplicit false
set_option relaxedAutoImplicit false

namespace SqlContract

open Text Sql

/-! ### The two forms -/

/-- A statement with its name and its cardinality in a header. -/
def Headed.form (name : String) (k : Cardinality) (rest : List Char) : List Char :=
  ("-- @name " ++ name ++ "\n-- @count " ++ k.word ++ "\n").toList ++ rest

/-- The same statement as a query under a marker, with a semicolon on a line of its own. -/
def Marked.form (name : String) (k : Cardinality) (rest : List Char) : List Char :=
  ("-- name: " ++ name ++ " :" ++ k.word ++ "\n").toList ++ (rest ++ "\n;".toList)

/-- The words of the header lines that a text starts with. -/
def Headed.declared (rest : List Char) : List (List String) :=
  (Header.takeLines Header.defaultLead.toList (lines rest)).1

/-- The SQL behind the header lines that a text starts with. -/
def Headed.behind (rest : List Char) : List Char :=
  strip (['\n'].intercalate (Header.takeLines Header.defaultLead.toList (lines rest)).2)

variable {name : String} {k : Cardinality} {rest : List Char}

theorem Headed.form_eq (name : String) (k : Cardinality) (rest : List Char) :
    form name k rest = Header.line ["name", name] ++ '\n' ::
      (Header.line ["count", k.word] ++ '\n' :: rest) := by
  have hfirst : "-- @name ".toList = Header.defaultLead.toList ++ ("name".toList ++ [' ']) := by
    decide
  have hsecond : "\n-- @count ".toList =
      '\n' :: (Header.defaultLead.toList ++ ("count".toList ++ [' '])) := by decide
  have hfeed : "\n".toList = ['\n'] := by decide
  rw [form, String.toList_append, String.toList_append, String.toList_append, String.toList_append,
    hfirst, hsecond, hfeed]
  simp only [Header.line, List.intercalate, List.map_cons, List.map_nil, List.intersperse,
    List.flatten_cons, List.flatten_nil, List.append_assoc, List.cons_append, List.nil_append,
    List.append_nil]

theorem Marked.form_eq (name : String) (k : Cardinality) (rest : List Char) :
    form name k rest = Marker.written (' ' :: (name.toList ++ [' '])) k.word.toList ++
      '\n' :: (rest ++ ['\n', ';']) := by
  have hfirst : "-- name: ".toList = Marker.sign ++ [' '] := by decide
  have hsecond : " :".toList = [' ', ':'] := by decide
  have hfeed : "\n".toList = ['\n'] := by decide
  have hlast : "\n;".toList = ['\n', ';'] := by decide
  rw [form, String.toList_append, String.toList_append, String.toList_append, String.toList_append,
    hfirst, hsecond, hfeed, hlast]
  simp only [Marker.written, List.append_assoc, List.cons_append, List.nil_append]

/-! ### Lines -/

namespace Header

/-- A line feed behind a text ends its last line, or makes an empty line. -/
theorem lines_concat_lineFeed (s : List Char) :
    lines (s ++ ['\n']) = lines s ∨ lines (s ++ ['\n']) = lines s ++ [[]] := by
  induction s using break_induction with
  | nil => exact .inr rfl
  | crlf cs ih =>
      rw [List.cons_append, List.cons_append, lines_crlf, lines_crlf]
      rcases ih with ih | ih
      · exact .inl (by rw [ih])
      · exact .inr (by rw [ih, List.cons_append])
  | cons c cs h ih =>
      cases cs with
      | nil =>
          by_cases hr : c = '\r'
          · subst hr
            exact .inl rfl
          · rw [List.cons_append, lines_cons (fun he => absurd he hr), lines_cons h]
            split_ifs
            · exact .inr rfl
            · exact .inl rfl
      | cons d ds =>
          have h' : c = '\r' → (d :: ds ++ ['\n']).head? ≠ some '\n' := h
          rw [List.cons_append, lines_cons h', lines_cons h]
          obtain ⟨l, ls, hls⟩ : ∃ l ls, lines (d :: ds) = l :: ls :=
            List.exists_cons_of_ne_nil fun he => List.cons_ne_nil d ds (lines_eq_nil_iff.1 he)
          rcases ih with ih | ih
          · exact .inl (by rw [ih])
          · refine .inr ?_
            rw [ih, hls]
            split_ifs
            · rfl
            · rfl

theorem intercalate_cons {l : List Char} {ls : List (List Char)} (h : ls ≠ []) :
    ['\n'].intercalate (l :: ls) = l ++ '\n' :: ['\n'].intercalate ls := by
  obtain ⟨k, ks, rfl⟩ := List.exists_cons_of_ne_nil h
  simp [List.intercalate]

theorem exists_intercalate_cons (l : List Char) (ls : List (List Char)) :
    ∃ t, ['\n'].intercalate (l :: ls) = l ++ t := by
  cases ls with
  | nil => exact ⟨[], by simp [List.intercalate]⟩
  | cons m ms => exact ⟨_, intercalate_cons (List.cons_ne_nil m ms)⟩

/-- A blank line in front of a text goes when the text is stripped. -/
theorem strip_intercalate_cons {l : List Char} (hl : AllBlank l) (ls : List (List Char)) :
    strip (['\n'].intercalate (l :: ls)) = strip (['\n'].intercalate ls) := by
  cases ls with
  | nil =>
      have hline : ['\n'].intercalate [l] = l := by simp [List.intercalate]
      rw [hline, strip_eq_nil_iff.2 hl]
      rfl
  | cons m ms =>
      rw [intercalate_cons (List.cons_ne_nil m ms), strip_blanks_append hl]
      exact strip_blanks_append allBlank_lineFeed _

/-- And so does a blank line behind it. -/
theorem strip_intercalate_concat (ls : List (List Char)) :
    strip (['\n'].intercalate (ls ++ [[]])) = strip (['\n'].intercalate ls) := by
  suffices h : ∃ w, AllBlank w ∧ ['\n'].intercalate (ls ++ [[]]) = ['\n'].intercalate ls ++ w by
    obtain ⟨w, hw, he⟩ := h
    rw [he, strip_append_blanks _ hw]
  induction ls with
  | nil => exact ⟨[], by simp [AllBlank], rfl⟩
  | cons l ls ih =>
      obtain ⟨w, hw, he⟩ := ih
      cases ls with
      | nil => exact ⟨['\n'], allBlank_lineFeed, by simp [List.intercalate]⟩
      | cons m ms =>
          have hmore : m :: ms ++ [[]] ≠ [] := List.cons_ne_nil _ _
          refine ⟨w, hw, ?_⟩
          rw [List.cons_append, intercalate_cons hmore, he,
            intercalate_cons (List.cons_ne_nil m ms), List.append_assoc]
          rfl

variable {lead : List Char}

/-- An empty line at the end is no header line. -/
theorem takeLines_concat (hlead : lead ≠ []) (ls : List (List Char)) :
    takeLines lead (ls ++ [[]]) = ((takeLines lead ls).1, (takeLines lead ls).2 ++ [[]]) := by
  have hempty : words? lead [] = none := by
    rw [words?_eq_none_iff]
    intro hp
    exact hlead (List.prefix_nil.1 hp)
  induction ls with
  | nil => simp [takeLines, hempty]
  | cons l ls ih =>
      rw [List.cons_append, takeLines, takeLines]
      cases words? lead l with
      | none => rfl
      | some ws => simp only [ih]

theorem takeLines_eq_of_fst_eq_nil {ls : List (List Char)} (h : (takeLines lead ls).1 = []) :
    takeLines lead ls = ([], ls) := by
  cases ls with
  | nil => rfl
  | cons l ls =>
      rw [takeLines] at h ⊢
      cases hl : words? lead l with
      | none => rfl
      | some ws =>
          rw [hl] at h
          exact absurd h (List.cons_ne_nil _ _)

/-- Lines whose SQL does not start with a comment have no filler but blank lines before it. -/
theorem takeLines_dropWhile {ls : List (List Char)} (hne : strip (['\n'].intercalate ls) ≠ [])
    (hdash : ¬ ['-', '-'] <+: strip (['\n'].intercalate ls)) :
    (takeLines defaultLead.toList (ls.dropWhile (isFiller defaultLead.toList))).1 = [] ∧
      strip (['\n'].intercalate
        (takeLines defaultLead.toList (ls.dropWhile (isFiller defaultLead.toList))).2) =
        strip (['\n'].intercalate ls) := by
  induction ls with
  | nil => exact absurd rfl hne
  | cons l ls ih =>
      by_cases hl : AllBlank l
      · have hfiller : isFiller defaultLead.toList l = true := by
          simp [isFiller, strip_eq_nil_iff.2 hl]
        rw [strip_intercalate_cons hl] at hne hdash ⊢
        rw [List.dropWhile_cons_of_pos hfiller]
        exact ih hne hdash
      · -- this line starts the SQL, so it is no comment
        have hremark : ¬ IsRemark l := by
          rintro (hblank | hp)
          · exact hl (stripLeft_eq_nil_iff.1 hblank)
          · refine hdash (prefix_strip (by simp; decide) ?_)
            obtain ⟨t, ht⟩ := exists_intercalate_cons l ls
            rw [ht, stripLeft_append hl]
            exact hp.trans (List.prefix_append _ _)
        have hfiller : ¬ isFiller defaultLead.toList l = true := mt isRemark_of_isFiller hremark
        have hwords := words?_eq_none_iff.2 (mt isRemark_of_lead hremark)
        rw [List.dropWhile_cons_of_neg hfiller, takeLines, hwords]
        exact ⟨rfl, rfl⟩

end Header

/-! ### The header lines and the SQL of both forms -/

theorem isLineBreak_of_mem_nameLine (hname : ∀ c ∈ name.toList, isLineBreak c = false) {c : Char}
    (hc : c ∈ Header.line ["name", name]) : isLineBreak c = false := by
  rcases List.mem_append.1 hc with hc | hc
  · have hall : Header.defaultLead.toList.all (!isLineBreak ·) = true := by decide
    simpa using List.all_eq_true.1 hall c hc
  · rcases mem_intercalate hc with hc | ⟨l, hl, hc⟩
    · rw [List.mem_singleton.1 hc]
      decide
    · simp only [List.map_cons, List.map_nil, List.mem_cons, List.not_mem_nil, or_false] at hl
      rcases hl with rfl | rfl
      · have hall : "name".toList.all (!isLineBreak ·) = true := by decide
        simpa using List.all_eq_true.1 hall c hc
      · exact hname c hc

theorem isWord_of_mem_countLine (k : Cardinality) : ∀ w ∈ ["count", k.word], IsWord w := by
  intro w hw
  simp only [List.mem_cons, List.not_mem_nil, or_false] at hw
  rcases hw with rfl | rfl
  · decide
  · exact k.isWord_word

/-- The words of the lines that name a statement and give its cardinality, with those of the rest. -/
theorem Headed.split_form (hname : ∀ c ∈ name.toList, isLineBreak c = false) :
    Header.split Header.defaultLead (form name k rest) =
      (("name" :: (words name.toList).map String.ofList) :: ["count", k.word] :: declared rest,
        behind rest) := by
  have hcount := isWord_of_mem_countLine k
  have hlines : lines (form name k rest) =
      Header.line ["name", name] :: Header.line ["count", k.word] :: lines rest := by
    rw [form_eq, lines_append_lineFeed fun c hc => isLineBreak_of_mem_nameLine hname hc,
      lines_append_lineFeed fun c hc => Header.isLineBreak_of_mem_line hcount hc]
  have hwords : Header.words? Header.defaultLead.toList (Header.line ["name", name]) =
      some ("name" :: (words name.toList).map String.ofList) := by
    rw [Header.words?_of_lead (Header.prefix_line _), Header.stripLeft_line, Header.line,
      List.drop_left]
    have hcut : [' '].intercalate (["name", name].map String.toList) =
        "name".toList ++ ' ' :: name.toList := by
      simp [List.intercalate]
    have hword : IsWord "name" := by decide
    have hblank : isBlank ' ' = true := by decide
    rw [hcut, words_append_blank hword.1 hword.2 hblank, List.map_cons, String.ofList_toList]
  unfold Header.split
  rw [hlines, List.dropWhile_cons_of_neg
    (by rw [Header.isFiller_of_lead (Header.prefix_line _)]; exact Bool.false_ne_true)]
  simp only [Header.takeLines, hwords, Header.words?_line hcount]
  rfl

/-- The header lines and the SQL are the same under a marker, where the rest has header lines or its
SQL does not start with a comment. -/
theorem Marked.split_body (hsql : Headed.behind rest ≠ [])
    (hstart : Headed.declared rest ≠ [] ∨ ¬ ['-', '-'] <+: Headed.behind rest) :
    Header.split Header.defaultLead ('\n' :: (rest ++ ['\n'])) =
      (Headed.declared rest, Headed.behind rest) := by
  have hlead : Header.defaultLead.toList ≠ [] := by decide
  have hlines : lines ('\n' :: (rest ++ ['\n'])) = [] :: lines (rest ++ ['\n']) :=
    lines_append_lineFeed (l := []) (by simp) _
  have hempty : Header.isFiller Header.defaultLead.toList [] = true := rfl
  -- up to an empty line at the end, the lines are those of the rest
  obtain ⟨hdeclared, hbehind⟩ : (Header.takeLines Header.defaultLead.toList
      (lines (rest ++ ['\n']))).1 = Headed.declared rest ∧
      strip (['\n'].intercalate (Header.takeLines Header.defaultLead.toList
        (lines (rest ++ ['\n']))).2) = Headed.behind rest := by
    rcases Header.lines_concat_lineFeed rest with he | he
    · rw [he]
      exact ⟨rfl, rfl⟩
    · rw [he, Header.takeLines_concat hlead]
      exact ⟨rfl, Header.strip_intercalate_concat _⟩
  unfold Header.split
  rw [hlines, List.dropWhile_cons_of_pos hempty]
  generalize lines (rest ++ ['\n']) = ls at hdeclared hbehind ⊢
  by_cases hnone : Headed.declared rest = []
  · have hdash := hstart.resolve_left fun h => h hnone
    rw [hnone] at hdeclared ⊢
    rw [Header.takeLines_eq_of_fst_eq_nil hdeclared] at hbehind
    dsimp only at hbehind
    rw [← hbehind] at hsql hdash ⊢
    obtain ⟨hfst, hsnd⟩ := Header.takeLines_dropWhile hsql hdash
    exact Prod.ext hfst hsnd
  · have hkeep : ls.dropWhile (Header.isFiller Header.defaultLead.toList) = ls := by
      cases ls with
      | nil => exact absurd hdeclared.symm hnone
      | cons l ls =>
          have hl : Header.defaultLead.toList <+: stripLeft l := by
            by_contra hl
            rw [Header.takeLines, Header.words?_eq_none_iff.2 hl] at hdeclared
            exact hnone hdeclared.symm
          refine List.dropWhile_cons_of_neg ?_
          rw [Header.isFiller_of_lead hl]
          exact Bool.false_ne_true
    rw [hkeep]
    exact Prod.ext hdeclared hbehind

/-! ### The pieces of both forms -/

/-- A form that is one statement has no semicolon in its rest. -/
theorem Headed.semicolon_not_mem (hname : ∀ c ∈ name.toList, isLineBreak c = false)
    (h : (segments (form name k rest)).map (·.text) = [form name k rest]) :
    .semicolon ∉ scan rest := by
  obtain ⟨seg, hseg, htext⟩ : ∃ seg ∈ segments (form name k rest), seg.text = form name k rest := by
    rw [← List.mem_map, h]
    exact List.mem_singleton.2 rfl
  have hnot := (scan_segment hseg).2
  rw [htext, form_eq] at hnot
  have hlead : ∀ ws : List String, Header.line ws = '-' :: '-' :: (Header.line ws).drop 2 := by
    intro ws
    rw [Header.line, Header.toList_defaultLead]
    rfl
  have hfirst : '\n' ∉ (Header.line ["name", name]).drop 2 := by
    intro hm
    have hbreak : isLineBreak '\n' = false :=
      isLineBreak_of_mem_nameLine hname (List.mem_of_mem_drop hm)
    exact absurd hbreak (by decide)
  rw [hlead, List.cons_append, List.cons_append, scan_lineComment hfirst,
    Header.scan_line_append (isWord_of_mem_countLine k)] at hnot
  simpa using hnot

/-- The first statement under the marker is the rest, up to the line of the semicolon. -/
theorem Marked.exists_segments_body (h : .semicolon ∉ scan rest) :
    ∃ line more, segments ('\n' :: (rest ++ ['\n', ';'])) =
      ⟨'\n' :: (rest ++ ['\n']), line, true⟩ :: more := by
  have hblank : isBlank '\n' = true := by decide
  have hscan : ∀ t, ClosesNothing ('\n' :: t) →
      scan ('\n' :: (rest ++ '\n' :: t)) = .plain '\n' :: (scan rest ++ .plain '\n' :: scan t) := by
    intro t ht
    rw [scan_cons_blank hblank, scan_append_of_closesNothing (fun _ => ht) rfl, scan_cons_blank hblank]
  have hline := hscan [] (by simp [ClosesNothing])
  have hend := hscan [';'] (by simp [ClosesNothing])
  have hsemi : scan [';'] = .semicolon :: scan [] := (Starts.semicolon []).scan_eq
  have hcut : scan (('\n' :: (rest ++ ['\n'])) ++ ';' :: []) =
      scan ('\n' :: (rest ++ ['\n'])) ++ .semicolon :: scan [] := by
    rw [List.cons_append, List.append_assoc, hline]
    refine hend.trans ?_
    rw [hsemi, scan_nil]
    simp
  have hnot : .semicolon ∉ scan ('\n' :: (rest ++ ['\n'])) := by
    rw [hline, scan_nil]
    simpa using h
  have hform : '\n' :: (rest ++ ['\n', ';']) = ('\n' :: (rest ++ ['\n'])) ++ ';' :: [] := by simp
  rw [segments_eq_segmentsAt, hform, segmentsAt_append 1 hcut hnot]
  exact ⟨_, _, rfl⟩

theorem Cardinality.ofWord?_word (k : Cardinality) : Cardinality.ofWord? k.word = some k := by
  cases k <;> rfl

/-- What a contract in the first form is made of. -/
theorem Headed.exists_of_form {line : Option Int} {d : Contract}
    (hname : ∀ c ∈ name.toList, isLineBreak c = false)
    (hd : statement? Header.defaultLead line (form name k rest) = .ok (some d)) :
    ∃ u v n fields, AllBlank u ∧ AllBlank v ∧ name.toList = u ++ (n ++ v) ∧
      isIdentifier (String.ofList n) = true ∧ Fields.ofLines (declared rest) = .ok fields ∧
      behind rest ≠ [] ∧ ¬ (k = .exec ∧ fields.returns ≠ []) ∧
      placeholderCount (behind rest) = fields.params.length ∧
      d = ⟨String.ofList n, k, fields.params, fields.returns, String.ofList (behind rest), line,
        none⟩ := by
  obtain ⟨n, lines, hheader, hid, hbody⟩ := statement?_eq_some_iff.1 hd
  rw [split_form hname] at hheader hbody
  obtain ⟨word, declared, card, fields, hcount, hcard, hfields, hsql, hexec, hplaceholders, rfl⟩ :=
    body_eq_ok_iff.1 hbody
  subst hcount
  simp only [List.cons.injEq, true_and] at hheader
  obtain ⟨hwords, ⟨rfl, -⟩, rfl⟩ := hheader
  rw [k.ofWord?_word, Option.some.injEq] at hcard
  subst hcard
  obtain ⟨w, hcut, rfl⟩ := List.map_eq_singleton_iff.1 hwords
  obtain ⟨u, v, hu, -, -, hn, hv⟩ := exists_of_words_eq_cons hcut
  exact ⟨u, v, w, fields, hu, allBlank_of_words_eq_nil hv, hn, hid, hfields, hsql, hexec,
    hplaceholders, rfl⟩

/-! ### The query under the marker -/

namespace Fields

/-- A line that declares no parameter leaves the parameters as they are. -/
theorem params_of_declare {f f' : Fields} {words : List String} (h : f.declare words = .ok f')
    (hwords : words.head? ≠ some FieldKind.param.word) : f'.params = f.params := by
  obtain ⟨kind, name, type, -, -, rfl, -, rfl⟩ := declare_eq_ok_iff.1 h
  cases kind with
  | param => exact absurd rfl hwords
  | returns => rfl

theorem params_of_foldlM {ls : List (List String)} {f f' : Fields}
    (h : ls.foldlM declare f = .ok f')
    (hls : ∀ ws ∈ ls, ws.head? ≠ some FieldKind.param.word) : f'.params = f.params := by
  induction ls generalizing f with
  | nil =>
      cases h
      rfl
  | cons ws ls ih =>
      rw [List.foldlM_cons] at h
      obtain ⟨mid, hmid, h⟩ := bind_eq_ok_iff.1 h
      have hrest := ih h fun vs hvs => hls vs (List.mem_cons_of_mem ws hvs)
      rw [hrest, params_of_declare hmid (hls ws List.mem_cons_self)]

end Fields

namespace Marked

variable {header : List (List String)} {fields : Fields} {sql : List Char} {card : Cardinality}

/-- Parameters that match the placeholders are the parameters of the query, declared or not. -/
theorem parameters_eq (hfields : Fields.ofLines header = .ok fields)
    (hcount : placeholderCount sql = fields.params.length) :
    parameters header fields sql = .ok fields.params := by
  unfold parameters
  split_ifs with hany
  · have hcheck := checkPlaceholders_eq_ok_iff.2 hcount
    rw [hcheck]
    rfl
  · have hnone : fields.params = [] := by
      refine Fields.params_of_foldlM hfields fun ws hws hhead => hany ?_
      exact List.any_eq_true.2 ⟨ws, hws, by rw [hhead]; exact beq_self_eq_true _⟩
    rw [hnone, List.length_nil] at hcount
    rw [hcount, hnone]
    rfl

variable [Sql.Parser]

/-- The rows of a query have a shape, and it is the declared one where rows are declared or there are
none. -/
theorem exists_rowShape (d : Dialect) (known : Tables) (header : List (List String))
    (sql : List Char) (hexec : ¬ (card = .exec ∧ fields.returns ≠ [])) :
    ∃ shape, rowShape (.ok d) known card header fields sql = .ok shape ∧
      (card = .exec ∨ (∃ ws ∈ header, ws.head? = some FieldKind.returns.word) →
        shape.returns = fields.returns) := by
  unfold rowShape
  by_cases hcard : card = .exec
  · have hnone : fields.returns = [] := by
      by_contra hne
      exact hexec ⟨hcard, hne⟩
    rw [if_pos hcard, hnone]
    exact ⟨.unknown, rfl, fun _ => rfl⟩
  · rw [if_neg hcard]
    by_cases hany : (header.any fun ws => ws.head? == some FieldKind.returns.word) = true
    · rw [if_pos hany]
      exact ⟨_, rfl, fun _ => rfl⟩
    · rw [if_neg hany]
      refine ⟨_, rfl, fun h => absurd ?_ hany⟩
      obtain ⟨ws, hws, hhead⟩ := h.resolve_left hcard
      exact List.any_eq_true.2 ⟨ws, hws, by rw [hhead]; exact beq_self_eq_true _⟩

/-- A query whose first statement has a header and SQL that fit together has a contract. -/
theorem exists_query {q : MarkedQuery} {lead : String} {s : Segment} {more : List Segment}
    (hname : isIdentifier q.name = true) (hcard : Cardinality.ofWord? q.cardinality = some card)
    (hbody : segments q.body = s :: more) (hsplit : Header.split lead s.text = (header, sql))
    (hsql : sql ≠ []) (hfields : Fields.ofLines header = .ok fields)
    (hcount : placeholderCount sql = fields.params.length)
    (hexec : ¬ (card = .exec ∧ fields.returns ≠ [])) (d : Dialect) (known : Tables) :
    ∃ shape : Shape, query (.ok d) lead known q = .ok ⟨q.name, card, fields.params, shape.returns,
        String.ofList sql, some q.line, shape.sourceTable⟩ ∧
      (card = .exec ∨ (∃ ws ∈ header, ws.head? = some FieldKind.returns.word) →
        shape.returns = fields.returns) := by
  obtain ⟨shape, hshape, hreturns⟩ := exists_rowShape d known header sql hexec
  refine ⟨shape, ?_, hreturns⟩
  have hempty : sql.isEmpty = false := by simpa using hsql
  have hdraft : draft lead q = .ok ⟨card, header, fields, sql⟩ := by
    unfold draft
    refine bind_eq_ok_iff.2 ⟨card, readCardinality_eq_ok_iff.2 hcard, ?_⟩
    simp only [hbody, hsplit, hempty, Bool.false_eq_true, if_false]
    exact bind_eq_ok_iff.2 ⟨fields, hfields, rfl⟩
  unfold query
  rw [if_pos hname, mapError_eq_ok_iff]
  exact bind_eq_ok_iff.2 ⟨_, mapError_eq_ok_iff.2 hdraft,
    bind_eq_ok_iff.2 ⟨fields.params, mapError_eq_ok_iff.2 (parameters_eq hfields hcount),
      bind_eq_ok_iff.2 ⟨shape, hshape, rfl⟩⟩⟩

/-- A text with one query that has a contract is read as that contract, besides the tables. -/
theorem exists_read_of_query {text : List Char} {q : MarkedQuery} (hsplit : split text = [q])
    (d : Dialect) (lead : String) (known : List Table) {P : Contract → Prop}
    (h : ∀ tables, ∃ c, query (.ok d) lead tables q = .ok c ∧ P c) :
    ∃ r c, read (.ok d) lead false known text = .ok r ∧ r.statements = [c] ∧ P c := by
  obtain ⟨r, hr, hnone⟩ : ∃ r, (segments text).foldlM (readDefinition (.ok d) false)
      { Report.empty with tables := Tables.ofList known } = .ok r ∧ r.statements = [] :=
    ⟨_, foldlM_readDefinition (segments text) _, rfl⟩
  obtain ⟨c, hc, hP⟩ := h r.tables
  have hadd : r.add false c = .ok { r with statements := [c] } := by
    unfold Report.add
    rw [hnone]
    rfl
  refine ⟨{ r with statements := [c] }, c, ?_, rfl, hP⟩
  unfold read
  rw [hsplit]
  refine bind_eq_ok_iff.2 ⟨r, hr, ?_⟩
  rw [List.foldlM_cons]
  refine bind_eq_ok_iff.2 ⟨_, ?_, rfl⟩
  unfold readQuery
  rw [hc]
  dsimp only
  rw [hadd]
  rfl

omit [Sql.Parser] in
/-- A form without a marker in it is one query once a marker stands before it. -/
theorem split_form {u v n : List Char} (hu : AllBlank u) (hv : AllBlank v)
    (hn : name.toList = u ++ (n ++ v)) (hid : isIdentifier (String.ofList n) = true)
    (h : split (Headed.form name k rest) = []) :
    split (form name k rest) =
      [⟨String.ofList n, k.word, 1, '\n' :: (rest ++ ['\n', ';'])⟩] := by
  have hword := isWord_of_isIdentifier hid
  rw [IsWord, String.toList_ofList] at hword
  have hblank : AllBlank [' '] := by
    intro c hc
    obtain rfl := List.mem_singleton.1 hc
    decide
  have hrest : Unmarked false ('\n' :: (rest ++ ['\n', ';'])) := by
    have hsuffix : '\n' :: rest <:+ Headed.form name k rest := by
      rw [Headed.form_eq]
      exact ((List.suffix_append _ _).trans (List.suffix_cons _ _)).trans (List.suffix_append _ _)
    have hend := ((split_eq_nil_iff.1 h).of_line hsuffix).append_end
    exact unmarked_cons_iff.2 ⟨nofun, hend⟩
  have hform : ' ' :: (name.toList ++ [' ']) = ([' '] ++ u) ++ (n ++ (v ++ [' '])) := by
    rw [hn]
    simp only [List.append_assoc, List.cons_append, List.nil_append]
  have hmarker := split_written (hblank.append hu) (hv.append hblank) (by simp) hword.1 hword.2
    k.isWord_word.1 k.isWord_word.2 hrest
  rw [form_eq, hform, hmarker, String.ofList_toList]

/-- **What the first form gives, the second gives as well.**  Where a statement in the first form is
one statement without a marker in it, and has a contract, the query in the second form is read as one
contract with its name, cardinality, parameters and SQL, and with its rows where these are declared or
there are none.  Comments before the SQL are part of it in the first form, unless header lines of the
rest stand before them, but not in the second. -/
theorem exists_read_form {line : Option Int} {d : Contract}
    (hname : ∀ c ∈ name.toList, isLineBreak c = false)
    (hone : (segments (Headed.form name k rest)).map (·.text) = [Headed.form name k rest])
    (hunmarked : split (Headed.form name k rest) = [])
    (hd : Headed.statement? Header.defaultLead line (Headed.form name k rest) = .ok (some d))
    (hstart : Headed.declared rest ≠ [] ∨ ¬ ['-', '-'] <+: d.sql.toList) (dialect : Dialect)
    (known : List Table) :
    ∃ r c, read (.ok dialect) Header.defaultLead false known (form name k rest) = .ok r ∧
      r.statements = [c] ∧ c.name = d.name ∧ c.cardinality = d.cardinality ∧
      c.parameters = d.parameters ∧ c.sql = d.sql ∧
      (k = .exec ∨ (∃ ws ∈ Headed.declared rest, ws.head? = some FieldKind.returns.word) →
        c.returns = d.returns) := by
  obtain ⟨u, v, n, fields, hu, hv, hn, hid, hfields, hsql, hexec, hcount, rfl⟩ :=
    Headed.exists_of_form hname hd
  dsimp only at hstart
  rw [String.toList_ofList] at hstart
  obtain ⟨line, more, hbody⟩ := exists_segments_body (Headed.semicolon_not_mem hname hone)
  have hsplit := split_form hu hv hn hid hunmarked
  refine exists_read_of_query hsplit dialect Header.defaultLead known fun tables => ?_
  obtain ⟨shape, hquery, hreturns⟩ := exists_query
    (q := ⟨String.ofList n, k.word, 1, '\n' :: (rest ++ ['\n', ';'])⟩) hid k.ofWord?_word hbody
    (split_body hsql hstart) hsql hfields hcount hexec dialect tables
  exact ⟨_, hquery, rfl, rfl, rfl, rfl, hreturns⟩

end Marked

attribute [local instance] Sql.parser

namespace Marked

/-- A statement that declares a parameter and a row field, with a comment before its SQL. -/
theorem exists_read_form_commented :
    let rest := "-- @param id number\n-- @returns note string\n-- by id\nSELECT note FROM t WHERE id = ?"
    let d : Contract := ⟨"find", .many, [⟨"id", .number⟩], [⟨"note", .string, false⟩],
      "-- by id\nSELECT note FROM t WHERE id = ?", some 1, none⟩
    Headed.statement? Header.defaultLead (some 1) (Headed.form "find" .many rest.toList) =
        .ok (some d) ∧
      ∃ r c, read (.ok .localSync) Header.defaultLead false [] (form "find" .many rest.toList) =
          .ok r ∧ r.statements = [c] ∧ c.name = d.name ∧ c.cardinality = d.cardinality ∧
        c.parameters = d.parameters ∧ c.sql = d.sql ∧ c.returns = d.returns := by
  intro rest d
  have hname : ∀ c ∈ "find".toList, isLineBreak c = false := by
    intro c hc
    have hall : "find".toList.all (!isLineBreak ·) = true := by decide
    simpa using List.all_eq_true.1 hall c hc
  have hone : (segments (Headed.form "find" .many rest.toList)).map (·.text) =
      [Headed.form "find" .many rest.toList] := by decide +kernel
  have hunmarked : split (Headed.form "find" .many rest.toList) = [] :=
    split_eq_nil_iff.2 (by decide +kernel)
  have hd : Headed.statement? Header.defaultLead (some 1) (Headed.form "find" .many rest.toList) =
      .ok (some d) := by decide +kernel
  have hdeclared : Headed.declared rest.toList =
      [["param", "id", "number"], ["returns", "note", "string"]] := by decide +kernel
  have hstart : Headed.declared rest.toList ≠ [] := by simp [hdeclared]
  have hreturns : ∃ ws ∈ Headed.declared rest.toList,
      ws.head? = some FieldKind.returns.word := by
    rw [hdeclared]
    exact ⟨["returns", "note", "string"], by simp, rfl⟩
  obtain ⟨r, c, hread, hstatements, hn, hk, hp, hs, hr⟩ :=
    exists_read_form hname hone hunmarked hd (.inl hstart) .localSync []
  exact ⟨hd, r, c, hread, hstatements, hn, hk, hp, hs, hr (.inr hreturns)⟩

end Marked

end SqlContract
