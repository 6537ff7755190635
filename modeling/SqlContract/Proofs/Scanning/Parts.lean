/-
Parts of a text and parts of its scan.

A scan may be cut anywhere: both parts of the text then scan on their own (`scan_of_append`).  Two
texts may not be put together anywhere, since a quote that the first leaves open can be closed by
the second, and a digit goes on with a number.  Nothing of the kind happens behind a text that
leaves nothing open, when a line feed follows it (`scan_append`).

Main definitions:

* `LeavesOpen` — a quote or a block comment is opened and never closed.

Main results:

* `scan_of_append` — **wherever a scan is cut, both parts of the text scan on their own**;
* `Starts.append` — when the piece that a text starts with outlives a continuation of the text;
* `scan_append` — **a text that leaves nothing open scans on its own**, whatever follows it on
  further lines.
-/

import SqlContract.Proofs.Scanning.Pieces

set_option autoImplicit false
set_option relaxedAutoImplicit false

namespace SqlContract.Sql

open SqlContract.Text

/-! ### Spelling pieces -/

@[simp] theorem join_nil : join [] = [] := rfl

@[simp] theorem join_cons (p : Piece) (ps : List Piece) : join (p :: ps) = p.text ++ join ps := rfl

@[simp] theorem join_append (ps qs : List Piece) : join (ps ++ qs) = join ps ++ join qs :=
  List.flatMap_append

/-- No piece is spelled by the empty text. -/
theorem Piece.exists_text_eq_cons (p : Piece) : ∃ c cs, p.text = c :: cs :=
  List.exists_cons_of_length_pos p.text_length_pos

/-! ### Cutting a text between two pieces -/

/-- A cut of a text into a run of characters of a class and a rest that starts with none. -/
theorem span_eq_iff {α : Type} {p : α → Bool} {s w d : List α} :
    s.takeWhile p = w ∧ s.dropWhile p = d ↔
      s = w ++ d ∧ (∀ x ∈ w, p x = true) ∧ ∀ x ∈ d.head?, p x = false := by
  constructor
  · rintro ⟨rfl, rfl⟩
    refine ⟨List.takeWhile_append_dropWhile.symm, fun x hx => List.mem_takeWhile_imp hx, ?_⟩
    intro x hx
    have hne : s.dropWhile p ≠ [] := by
      intro he
      simp [he] at hx
    have hhead := List.head_dropWhile_not p hne
    rwa [Option.some.inj ((List.head?_eq_some_head hne).symm.trans hx)] at hhead
  · rintro ⟨rfl, hw, hd⟩
    have hnil : d.takeWhile p = [] := by
      cases d with
      | nil => rfl
      | cons x xs => simp [hd x rfl]
    have hself : d.dropWhile p = d := by
      cases d with
      | nil => rfl
      | cons x xs => simp [hd x rfl]
    rw [List.takeWhile_append_of_pos hw, List.dropWhile_append_of_pos hw, hnil, hself]
    exact ⟨List.append_nil w, rfl⟩

/-- The head of a text is the head of what it starts with. -/
theorem head?_of_append {d : Char} {r t : List Char} (h : r.head? = some d) :
    (r ++ t).head? = some d := by
  cases r with
  | nil => simp at h
  | cons e es => exact h

/-- What a text starts with lies before a character that it does not hold. -/
theorem prefix_of_append {p s t : List Char} {c : Char} (hc : c ∉ p)
    (h : p <+: s ++ c :: t) : p <+: s := by
  induction s generalizing p with
  | nil =>
      cases p with
      | nil => exact List.nil_prefix
      | cons d p =>
          obtain ⟨rfl, -⟩ := List.cons_prefix_cons.1 h
          exact absurd List.mem_cons_self hc
  | cons d s ih =>
      cases p with
      | nil => exact List.nil_prefix
      | cons e p =>
          obtain ⟨rfl, hrest⟩ := List.cons_prefix_cons.1 h
          have hp : c ∉ p := fun hm => hc (List.mem_cons_of_mem e hm)
          exact List.cons_prefix_cons.2 ⟨rfl, ih hp hrest⟩

/-- A run that ends before the text `t` behind it is the same run without `t`. -/
theorem span_take {p : Char → Bool} {s r t : List Char} (h : (s ++ t).dropWhile p = r ++ t) :
    (s ++ t).takeWhile p = s.takeWhile p ∧ s.dropWhile p = r := by
  obtain ⟨hcut, hall, hhead⟩ := span_eq_iff.1 ⟨rfl, h⟩
  have hs : s = (s ++ t).takeWhile p ++ r := by
    rw [← List.append_assoc] at hcut
    exact List.append_cancel_right hcut
  have hspan := span_eq_iff.2 ⟨hs, hall, fun x hx => hhead x (head?_of_append hx)⟩
  exact ⟨hspan.1.symm, hspan.2⟩

/-- A run stays the same with a text `t` behind it, unless it reaches `t` and goes on there. -/
theorem span_append {p : Char → Bool} {s t : List Char}
    (h : s.dropWhile p = [] → ∀ x ∈ t.head?, p x = false) :
    (s ++ t).takeWhile p = s.takeWhile p ∧ (s ++ t).dropWhile p = s.dropWhile p ++ t := by
  obtain ⟨hcut, hall, hhead⟩ := span_eq_iff.1 (⟨rfl, rfl⟩ : s.takeWhile p = _ ∧ s.dropWhile p = _)
  refine span_eq_iff.2 ⟨by rw [← List.append_assoc, ← hcut], hall, fun x hx => ?_⟩
  cases hd : s.dropWhile p with
  | nil =>
      rw [hd] at hx
      exact h hd x hx
  | cons e es =>
      rw [hd] at hx hhead
      exact hhead x hx

/-- **What follows a piece and its rest can be cut off.** -/
theorem Starts.take {c : Char} {cs r t : List Char} {p : Piece}
    (h : Starts c (cs ++ t) p (r ++ t)) : Starts c cs p r := by
  -- the texts of `Starts` are indices, so both have to be variables before the case split
  generalize hcs : cs ++ t = cs' at h
  generalize hr : r ++ t = r' at h
  have hsame : cs' = r' → r = cs := by
    rintro rfl
    exact List.append_cancel_right (hr.trans hcs.symm)
  cases h with
  | quoted q hq =>
      subst hcs hr
      obtain ⟨he, hb, hrest⟩ := closeQuote_eq_some_iff.1 hq
      refine .quoted q (closeQuote_eq_some_iff.2 ⟨?_, hb, ?_⟩)
      · rw [← List.cons_append, ← List.append_assoc] at he
        exact List.append_cancel_right he
      · intro hhead
        have hnot := hrest (head?_of_append hhead)
        cases r with
        | nil => simp
        | cons d ds =>
            simp only [List.cons_append, List.tail_cons, List.mem_append, not_or] at hnot
            exact hnot.1
  | openQuote q hq =>
      obtain rfl := hsame rfl
      subst hcs
      exact .openQuote q fun hm => hq (List.mem_append_left t hm)
  | lineComment ds =>
      cases cs with
      | nil =>
          -- the comment would start inside what is cut off
          rw [List.nil_append] at hcs
          subst hcs
          have hlen := congrArg List.length hr
          have hle := (List.dropWhile_sublist (l := ds) (· ≠ '\n')).length_le
          simp only [List.length_append, List.length_cons] at hlen
          omega
      | cons d ds' =>
          simp only [List.cons_append, List.cons.injEq] at hcs
          obtain ⟨rfl, rfl⟩ := hcs
          obtain ⟨htake, rfl⟩ := span_take hr.symm
          rw [htake]
          exact .lineComment ds'
  | dash hne =>
      obtain rfl := hsame rfl
      subst hcs
      exact .dash fun he => hne (head?_of_append he)
  | @blockComment ds body _ hc =>
      obtain ⟨he, hb⟩ := closeComment_eq_some_iff.1 hc
      subst hr
      cases cs with
      | nil =>
          rw [List.nil_append] at hcs
          have hlen := congrArg List.length hcs
          rw [he] at hlen
          simp only [List.length_append, List.length_cons] at hlen
          omega
      | cons d ds' =>
          simp only [List.cons_append, List.cons.injEq] at hcs
          obtain ⟨rfl, rfl⟩ := hcs
          refine .blockComment (closeComment_eq_some_iff.2 ⟨?_, hb⟩)
          rw [← List.cons_append, ← List.cons_append, ← List.append_assoc] at he
          exact List.append_cancel_right he
  | @openComment ds hc =>
      obtain rfl := hsame rfl
      cases r with
      | nil => exact .slash (by simp)
      | cons d ds' =>
          simp only [List.cons_append, List.cons.injEq] at hcs
          obtain ⟨rfl, rfl⟩ := hcs
          exact .openComment fun hi => hc (hi.trans (List.infix_append' [] ds' t))
  | slash hne =>
      obtain rfl := hsame rfl
      subst hcs
      exact .slash fun he => hne (head?_of_append he)
  | semicolon =>
      obtain rfl := hsame rfl
      exact .semicolon r
  | placeholder =>
      subst hcs
      obtain ⟨htake, rfl⟩ := span_take hr.symm
      rw [htake]
      exact .placeholder cs
  | percent =>
      obtain rfl := hsame rfl
      exact .percent r
  | plain _ hm =>
      obtain rfl := hsame rfl
      exact .plain r hm

/-- **Wherever a scan is cut, both parts of the text scan on their own.** -/
theorem scan_of_append {s : List Char} {ps qs : List Piece} (h : scan s = ps ++ qs) :
    scan (join ps) = ps ∧ scan (join qs) = qs := by
  induction s using scan_induction generalizing ps with
  | nil =>
      rw [scan_nil] at h
      obtain ⟨rfl, rfl⟩ := List.append_eq_nil_iff.1 h.symm
      exact ⟨scan_nil, scan_nil⟩
  | cons c cs p rest hs ih =>
      cases ps with
      | nil =>
          rw [List.nil_append] at h
          exact ⟨scan_nil, by rw [← h, join_scan]⟩
      | cons p' ps =>
          rw [hs.scan_eq, List.cons_append, List.cons.injEq] at h
          obtain ⟨rfl, hrest⟩ := h
          obtain ⟨hps, hqs⟩ := ih hrest
          refine ⟨?_, hqs⟩
          have hjoin : rest = join ps ++ join qs := by rw [← join_scan rest, hrest, join_append]
          subst hjoin
          obtain ⟨d, ds, hd⟩ := p.exists_text_eq_cons
          have htext := hs.text_eq
          rw [hd, List.cons_append, List.cons.injEq, ← List.append_assoc] at htext
          obtain ⟨rfl, rfl⟩ := htext
          rw [join_cons, hd, List.cons_append, hs.take.scan_eq, hps]

/-! ### Continuing a text -/

/-- The characters that can belong to a piece that ends before them: a quote doubles the one before
it, a minus or an asterisk opens a comment, and a digit goes on with a number. -/
def isJoining (c : Char) : Bool :=
  ['\'', '"', '-', '*'].contains c || isDigit c

/-- A quote or an opening bracket that a piece leaves open before the text behind it: text behind
that could close it after all. -/
def Piece.Opens : Piece → List Char → Prop
  | .plain c, rest => c = '\'' ∨ c = '"' ∨ (c = '/' ∧ rest.head? = some '*')
  | .quoted q _, rest => rest.head? = some q.char
  | _, _ => False

/-- Whether some pieces leave a quote or a block comment open. -/
def LeavesOpen (ps : List Piece) : Prop :=
  .plain '\'' ∈ ps ∨ .plain '"' ∈ ps ∨ [.plain '/', .plain '*'] <:+: ps

instance (ps : List Piece) : Decidable (LeavesOpen ps) :=
  inferInstanceAs (Decidable (_ ∨ _ ∨ _))

/-- Texts that close nothing. -/
def ClosesNothing (t : List Char) : Prop :=
  '\'' ∉ t ∧ '"' ∉ t ∧ '/' ∉ t

theorem ClosesNothing.quote_not_mem {t : List Char} (h : ClosesNothing t) (q : Quote) :
    q.char ∉ t := by
  cases q with
  | single => exact h.1
  | double => exact h.2.1

theorem Quote.char_isJoining (q : Quote) : isJoining q.char = true := by
  cases q <;> decide

theorem Quote.opens (q : Quote) (rest : List Char) : (Piece.plain q.char).Opens rest := by
  cases q with
  | single => exact .inl rfl
  | double => exact .inr (.inl rfl)

/-- A closing bracket ends inside the second of two texts or lies in the first. -/
theorem closer_infix_append {s t : List Char} (h : ['*', '/'] <:+: s ++ t) (ht : '/' ∉ t) :
    ['*', '/'] <:+: s := by
  induction s with
  | nil =>
      have hm : '/' ∈ t := h.subset (by simp)
      exact absurd hm ht
  | cons c s ih =>
      rw [List.cons_append, List.infix_cons_iff] at h
      rcases h with hp | h
      · obtain ⟨rfl, hd⟩ := (closer_prefix_iff c _).1 hp
        cases s with
        | nil => exact absurd (List.mem_of_mem_head? hd) ht
        | cons d s =>
            obtain rfl : d = '/' := Option.some.inj hd
            exact ⟨[], s, rfl⟩
      · exact List.infix_cons (ih h)

/-- A head that a joined text has is not joining when neither text brings one. -/
theorem head?_append_ne {d : Char} {s t : List Char} (hs : s.head? ≠ some d)
    (ht : ∀ e ∈ t.head?, isJoining e = false) (hd : isJoining d = true) :
    (s ++ t).head? ≠ some d := by
  cases s with
  | nil =>
      intro he
      exact absurd (ht d he) (by simp [hd])
  | cons e es => exact hs

/-- **What a text starts with does not depend on its continuation**, as long as the continuation
does not join the last piece, nor closes what is open, nor goes on with the line of a comment. -/
theorem Starts.append {c : Char} {cs r t : List Char} {p : Piece} (h : Starts c cs p r)
    (ht : ∀ d ∈ t.head?, isJoining d = false) (hopen : p.Opens r → ClosesNothing t)
    (hline : ∀ body, p = .lineComment body → r = [] → ∀ d ∈ t.head?, d = '\n') :
    Starts c (cs ++ t) p (r ++ t) := by
  cases h with
  | quoted q hq =>
      obtain ⟨rfl, hb, hrest⟩ := closeQuote_eq_some_iff.1 hq
      refine .quoted q (closeQuote_eq_some_iff.2 ⟨by simp, hb, ?_⟩)
      intro hhead
      cases r with
      | nil => exact absurd (ht _ hhead) (by simp [q.char_isJoining])
      | cons d ds =>
          have hq' := (hopen hhead).quote_not_mem q
          simpa [hq'] using hrest hhead
  | openQuote q hq =>
      have hq' := (hopen (q.opens _)).quote_not_mem q
      exact .openQuote q (by simp [hq, hq'])
  | lineComment ds =>
      obtain ⟨htake, hdrop⟩ := span_append (p := (· ≠ '\n')) fun hr x hx => by
        simp [hline _ rfl hr x hx]
      rw [← htake, ← hdrop]
      exact .lineComment (ds ++ t)
  | dash hne => exact .dash (head?_append_ne hne ht (by decide))
  | blockComment hc =>
      obtain ⟨rfl, hb⟩ := closeComment_eq_some_iff.1 hc
      exact .blockComment (closeComment_eq_some_iff.2 ⟨by simp, hb⟩)
  | openComment hc =>
      have hcl := hopen (.inr (.inr ⟨rfl, rfl⟩))
      exact .openComment fun hi => hc (closer_infix_append hi hcl.2.2)
  | slash hne => exact .slash (head?_append_ne hne ht (by decide))
  | semicolon => exact .semicolon _
  | placeholder =>
      obtain ⟨htake, hdrop⟩ := span_append (p := isDigit) fun _ x hx => by
        have hj := ht x hx
        simp only [isJoining, Bool.or_eq_false_iff] at hj
        exact hj.2
      rw [← htake, ← hdrop]
      exact .placeholder (cs ++ t)
  | percent => exact .percent _
  | plain _ hm => exact .plain _ hm

/-- What a piece leaves open, the scan that starts with it leaves open. -/
theorem Starts.leavesOpen {c : Char} {cs r : List Char} {p : Piece} (h : Starts c cs p r)
    (ho : p.Opens r) : LeavesOpen (p :: scan r) := by
  cases h with
  | quoted q hq =>
      obtain ⟨-, -, hrest⟩ := closeQuote_eq_some_iff.1 hq
      -- the quote behind the piece is not closed, so it is a plain character
      obtain ⟨ds, rfl⟩ := List.head?_eq_some_iff.1 ho
      have hopen : Starts q.char ds (.plain q.char) ds := .openQuote q (hrest ho)
      rw [hopen.scan_eq]
      cases q with
      | single => exact .inl (by simp [Quote.char])
      | double => exact .inr (.inl (by simp [Quote.char]))
  | openQuote q hq =>
      cases q with
      | single => exact .inl List.mem_cons_self
      | double => exact .inr (.inl List.mem_cons_self)
  | openComment hc =>
      rw [(Starts.plain _ (by decide : isMark '*' = false)).scan_eq]
      exact .inr (.inr ⟨[], _, rfl⟩)
  | dash => simp [Piece.Opens] at ho
  | slash hne => simp [Piece.Opens, hne] at ho
  | plain _ hm =>
      rcases ho with rfl | rfl | ⟨rfl, -⟩
      · exact absurd hm (by decide)
      · exact absurd hm (by decide)
      · exact absurd hm (by decide)
  | lineComment | blockComment | semicolon | placeholder | percent => exact ho.elim

theorem LeavesOpen.cons {ps : List Piece} (h : LeavesOpen ps) (p : Piece) : LeavesOpen (p :: ps) := by
  rcases h with h | h | h
  · exact .inl (List.mem_cons_of_mem p h)
  · exact .inr (.inl (List.mem_cons_of_mem p h))
  · exact .inr (.inr (List.infix_cons h))

/-- A text scans on its own, whatever stands on the lines after it, as long as what it leaves open is
not closed there. -/
theorem scan_append_of_closesNothing {s t : List Char} (hs : LeavesOpen (scan s) → ClosesNothing t)
    (ht : t.head? = some '\n') : scan (s ++ t) = scan s ++ scan t := by
  induction s using scan_induction with
  | nil => rw [scan_nil, List.nil_append, List.nil_append]
  | cons c cs p rest h ih =>
      rw [h.scan_eq] at hs ⊢
      have hjoin : ∀ d ∈ t.head?, isJoining d = false := by
        intro d hd
        obtain rfl : '\n' = d := Option.some.inj (ht.symm.trans hd)
        decide
      have hstep : Starts c (cs ++ t) p (rest ++ t) :=
        h.append hjoin (fun ho => hs (h.leavesOpen ho))
          (fun _ _ _ d hd => (Option.some.inj (ht.symm.trans hd)).symm)
      rw [List.cons_append, hstep.scan_eq, ih fun ho => hs (ho.cons p), List.cons_append]

/-- **A text that leaves nothing open scans on its own**, whatever stands on the lines after it. -/
theorem scan_append {s t : List Char} (hs : ¬ LeavesOpen (scan s)) (ht : t.head? = some '\n') :
    scan (s ++ t) = scan s ++ scan t :=
  scan_append_of_closesNothing (fun ho => absurd ho hs) ht

end SqlContract.Sql
