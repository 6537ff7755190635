/-
Settings and the texts that are made of them.

The address of a database and the words for its driver are put together from the settings as they are,
with marks between them and nothing escaped.  A setting that holds a mark can be cut there as well, so
that other settings have the same text.  Here is said which settings are told by their texts, and this
exactly: those in which no mark can be found that could be taken for one between two settings.

The argument is one about places.  A mark that stands in a text put together around another mark lies in
the part before that, in the part behind it, or is that mark, as long as the two marks cannot overlap.

Main definitions:

* `portMark`, `portWords` — a port between its marks, in an address and in the words for the driver;
* `ConnectionSettings.AgreesWith` — settings that differ in the driver at most;
* `ConnectionSettings.PlainInUri`, `ConnectionSettings.PlainInConninfo` — settings without marks that
  could be taken for those between them.

Main results:

* `exists_of_append_eq` — where a mark stands among two parts and the mark between them;
* `ConnectionSettings.agreesWith_of_uri_eq`, `ConnectionSettings.agreesWith_of_conninfo_eq` — plain
  settings are told by their texts;
* `ConnectionSettings.determined_iff` — **settings are told by their texts exactly if they are plain**;
* `ConnectionSettings.uri_eq_of_colon` — a colon in a password that is taken for the end of the user.
-/

import Mathlib
import SqlContract.Database.Settings

set_option autoImplicit false
set_option relaxedAutoImplicit false

namespace SqlContract

/-! ### Marks in a text -/

/-- No end of a mark can go over into another mark that stands behind its start. -/
def ClearOf (m m₀ : List Char) : Prop :=
  ∀ e f r r', m = e ++ f → e ≠ [] → f ≠ [] → f ++ r ≠ m₀ ++ r'

/-- A mark is clear of all that start with a character which it has at most in the first place. -/
theorem clearOf_of_not_mem {a c : Char} {m m₀ : List Char} (h : c ∉ m) : ClearOf (a :: m) (c :: m₀) := by
  intro e f r r' hm he hf heq
  obtain ⟨a', e, rfl⟩ := List.exists_cons_of_ne_nil he
  obtain ⟨b, f, rfl⟩ := List.exists_cons_of_ne_nil hf
  obtain ⟨-, rfl⟩ := List.cons.inj hm
  obtain ⟨rfl, -⟩ := List.cons.inj heq
  exact h (by simp)

/-- **A mark that stands among two parts and a mark between them** stands in the first part, in the
second part, or is the mark between them. -/
theorem exists_of_append_eq {m m₀ x y z w : List Char} (hm : ClearOf m m₀) (hm₀ : ClearOf m₀ m)
    (h : y ++ (m ++ z) = x ++ (m₀ ++ w)) :
    (∃ f, x = y ++ (m ++ f) ∧ z = f ++ (m₀ ++ w)) ∨ (y = x ∧ m ++ z = m₀ ++ w) ∨
      ∃ f, y = x ++ (m₀ ++ f) ∧ w = f ++ (m ++ z) := by
  rcases List.append_eq_append_iff.1 h with ⟨e, rfl, he⟩ | ⟨e, rfl, he⟩
  · by_cases hnil : e = []
    · subst hnil
      exact .inr (.inl ⟨(List.append_nil y).symm, he⟩)
    rcases List.append_eq_append_iff.1 he with ⟨f, rfl, hf⟩ | ⟨f, hsplit, hf⟩
    · exact .inl ⟨f, rfl, hf⟩
    · -- the first mark would start in the first part and end behind it
      by_cases hfnil : f = []
      · subst hfnil
        rw [List.append_nil] at hsplit
        exact .inl ⟨[], by rw [List.append_nil, hsplit], by rw [List.nil_append]; exact hf.symm⟩
      · exact absurd hf.symm (hm e f z w hsplit hnil hfnil)
  · by_cases hnil : e = []
    · subst hnil
      exact .inr (.inl ⟨List.append_nil x, he.symm⟩)
    rcases List.append_eq_append_iff.1 he with ⟨f, rfl, hf⟩ | ⟨f, hsplit, hf⟩
    · exact .inr (.inr ⟨f, rfl, hf⟩)
    · -- it would start in the mark between the parts and end behind it
      by_cases hfnil : f = []
      · subst hfnil
        rw [List.append_nil] at hsplit
        exact .inr (.inr ⟨[], by rw [List.append_nil, hsplit], by rw [List.nil_append]; exact hf.symm⟩)
      · exact absurd hf.symm (hm₀ e f w z hsplit hnil hfnil)

/-- A sign divides a text in one way if the parts before it do not hold it. -/
theorem cut_eq_of_append_eq {c : Char} {x x' w w' : List Char} (hx : c ∉ x) (hx' : c ∉ x')
    (h : x' ++ ([c] ++ w') = x ++ ([c] ++ w)) : x' = x ∧ w' = w := by
  have hclear : ClearOf [c] [c] := clearOf_of_not_mem List.not_mem_nil
  rcases exists_of_append_eq hclear hclear h with
    ⟨f, rfl, -⟩ | ⟨rfl, hw⟩ | ⟨f, rfl, -⟩
  · exact absurd (by simp) hx
  · exact ⟨rfl, List.append_cancel_left hw⟩
  · exact absurd (by simp) hx'

/-! ### Ports -/

/-- The characters of a port. -/
def portDigits (n : Int) : List Char :=
  (toString n).toList

/-- The characters of a port are digits, and perhaps a sign. -/
theorem isDigit_of_mem_portDigits {n : Int} {c : Char} (h : c ∈ portDigits n) :
    c.isDigit = true ∨ c = '-' := by
  have hnat : ∀ m : Nat, c ∈ m.repr.toList → c.isDigit = true := by
    intro m hm
    rw [Nat.toList_repr] at hm
    exact Nat.isDigit_of_mem_toDigits (by decide) (by decide) hm
  rw [portDigits, Int.toString_eq_repr] at h
  cases n with
  | ofNat m => exact .inl (hnat m h)
  | negSucc m =>
      rw [Int.repr, String.toList_append] at h
      rcases List.mem_append.1 h with h | h
      · exact .inr (List.mem_singleton.1 h)
      · exact .inl (hnat _ h)

/-- What is neither a digit nor a sign stands in no port. -/
theorem not_mem_portDigits {c : Char} (hdigit : c.isDigit = false) (hsign : c ≠ '-') (n : Int) :
    c ∉ portDigits n := by
  intro h
  rcases isDigit_of_mem_portDigits h with h | h
  · rw [hdigit] at h
    cases h
  · exact hsign h

theorem portDigits_injective {n n' : Int} (h : portDigits n = portDigits n') : n = n' := by
  have hrepr : n.repr = n'.repr := String.ext h
  exact Int.repr_inj.1 hrepr

/-- A port between its marks in an address. -/
def portMark (n : Int) : List Char :=
  [':'] ++ (portDigits n ++ ['/'])

/-- A port between its marks in the words for the driver. -/
def portWords (n : Int) : List Char :=
  " port=".toList ++ (portDigits n ++ " user=".toList)

/-- The words around a port, with the blanks before them. -/
theorem portWords_eq (n : Int) :
    portWords n = ' ' :: ("port=".toList ++ (portDigits n ++ ([' '] ++ "user=".toList))) := by
  have hport : " port=".toList = ' ' :: "port=".toList := by decide
  have huser : " user=".toList = [' '] ++ "user=".toList := by decide
  rw [portWords, hport, huser, List.cons_append]

/-- Behind its colon a port in an address has no colon and no at sign. -/
theorem clearOf_portMark (n : Int) {c : Char} (hc : c = ':' ∨ c = '@') (m : List Char) :
    ClearOf (portMark n) (c :: m) := by
  refine clearOf_of_not_mem (m := portDigits n ++ ['/']) ?_
  rw [List.mem_append, List.mem_singleton]
  rcases hc with rfl | rfl
  · exact fun h => h.elim (not_mem_portDigits (by decide) (by decide) n) (by decide)
  · exact fun h => h.elim (not_mem_portDigits (by decide) (by decide) n) (by decide)

/-- Behind its first blank a port among the words for the driver has one more, before the user. -/
theorem clearOf_portWords (n : Int) (m : List Char) : ClearOf (portWords n) (' ' :: 'p' :: m) := by
  intro e f r r' hm he hf heq
  obtain ⟨a, e, rfl⟩ := List.exists_cons_of_ne_nil he
  obtain ⟨b, f, rfl⟩ := List.exists_cons_of_ne_nil hf
  obtain ⟨rfl, htail⟩ := List.cons.inj heq
  -- the end that starts with a blank is the word before the user
  have hsplit : e ++ ([' '] ++ f) = "port=".toList ++ portDigits n ++ ([' '] ++ "user=".toList) := by
    rw [portWords_eq, List.cons_append] at hm
    rw [List.append_assoc]
    exact (List.cons.inj hm).2.symm
  have hfirst : ' ' ∉ "port=".toList ++ portDigits n := by
    rw [List.mem_append]
    exact fun h => h.elim (by decide) (not_mem_portDigits (by decide) (by decide) n)
  have hclear : ClearOf [' '] [' '] := clearOf_of_not_mem List.not_mem_nil
  rcases exists_of_append_eq hclear hclear hsplit with
    ⟨g, hg, -⟩ | ⟨-, hg⟩ | ⟨g, -, hg⟩
  · rw [hg] at hfirst
    exact hfirst (by simp)
  · have huser : f = 'u' :: "ser=".toList := List.append_cancel_left hg
    rw [huser] at htail
    exact absurd (List.cons.inj htail).1 (by decide)
  · have huser : ' ' ∈ "user=".toList := by
      rw [hg]
      simp
    exact absurd huser (by decide)

theorem portMark_append_inj {n n' : Int} {w w' : List Char} (h : portMark n' ++ w' = portMark n ++ w) :
    n' = n ∧ w' = w := by
  have hcut : portDigits n' ++ (['/'] ++ w') = portDigits n ++ (['/'] ++ w) := by
    simpa [portMark] using h
  obtain ⟨hdigits, hw⟩ := cut_eq_of_append_eq (not_mem_portDigits (by decide) (by decide) n)
    (not_mem_portDigits (by decide) (by decide) n') hcut
  exact ⟨portDigits_injective hdigits, hw⟩

theorem portWords_append_inj {n n' : Int} {w w' : List Char}
    (h : portWords n' ++ w' = portWords n ++ w) : n' = n ∧ w' = w := by
  have hcut : portDigits n' ++ ([' '] ++ ("user=".toList ++ w')) =
      portDigits n ++ ([' '] ++ ("user=".toList ++ w)) := by
    rw [portWords_eq, portWords_eq] at h
    have htail : "port=".toList ++ (portDigits n' ++ ([' '] ++ "user=".toList)) ++ w' =
        "port=".toList ++ (portDigits n ++ ([' '] ++ "user=".toList)) ++ w := (List.cons.inj h).2
    simpa only [List.append_assoc, List.append_cancel_left_eq] using htail
  obtain ⟨hdigits, hw⟩ := cut_eq_of_append_eq (not_mem_portDigits (by decide) (by decide) n)
    (not_mem_portDigits (by decide) (by decide) n') hcut
  exact ⟨portDigits_injective hdigits, List.append_cancel_left hw⟩

namespace ConnectionSettings

/-- Settings that differ in the driver at most. -/
def AgreesWith (s s' : ConnectionSettings) : Prop :=
  s.username = s'.username ∧ s.password = s'.password ∧ s.host = s'.host ∧ s.port = s'.port ∧
    s.database = s'.database

instance (s s' : ConnectionSettings) : Decidable (s.AgreesWith s') :=
  inferInstanceAs (Decidable (_ ∧ _))

/-! ### Addresses -/

/-- The mark behind the driver. -/
def driverMark : List Char :=
  "://".toList

/-- The characters of an address, part by part. -/
theorem toList_uri (s : ConnectionSettings) :
    s.uri.toList = s.driver.toList ++ (driverMark ++ (s.username.toList ++ ([':'] ++
      (s.password.toList ++ (['@'] ++
        (s.host.toList ++ (portMark s.port ++ s.database.toList))))))) := by
  simp [uri, databaseUri, Value.asPartOr, Value.asPart, Value.shown, portMark, portDigits, driverMark,
    String.toList_append]

/-- **Settings without marks that could be taken for those of an address.**  An at sign in the user, and
colons in the host and the database that no port follows, can be taken for none. -/
structure PlainInUri (s : ConnectionSettings) : Prop where
  driver : ¬ driverMark <:+: s.driver.toList
  username : ':' ∉ s.username.toList
  password : ':' ∉ s.password.toList ∧ '@' ∉ s.password.toList
  host : '@' ∉ s.host.toList ∧ ∀ n, ¬ portMark n <:+: s.host.toList
  database : ∀ n, ¬ portMark n <:+: s.database.toList

variable {s s' : ConnectionSettings}

/-- In an address of plain settings there is one at sign with a colon before it and a port behind it. -/
theorem PlainInUri.cut_at (h : s.PlainInUri) (left : List Char) {right before behind : List Char}
    {n : Int} (hcolon : ':' ∈ left) (hport : right = before ++ (portMark n ++ behind))
    (heq : left ++ (['@'] ++ right) = s.username.toList ++ ([':'] ++ (s.password.toList ++ (['@'] ++
      (s.host.toList ++ (portMark s.port ++ s.database.toList)))))) :
    left = s.username.toList ++ ([':'] ++ s.password.toList) ∧
      right = s.host.toList ++ (portMark s.port ++ s.database.toList) := by
  have hat : ∀ c : Char, ClearOf ['@'] [c] := fun c => clearOf_of_not_mem List.not_mem_nil
  have hsign : ∀ c : Char, ClearOf [c] ['@'] := fun c => clearOf_of_not_mem List.not_mem_nil
  rcases exists_of_append_eq (hat ':') (hsign ':') heq with
    ⟨f, hf, -⟩ | ⟨-, hf⟩ | ⟨f, hleft, hrest⟩
  · -- an at sign of the user has no colon before it
    exact absurd (by rw [hf]; exact List.mem_append_left _ hcolon) h.username
  · exact absurd (List.cons.inj hf).1 (by decide)
  rcases exists_of_append_eq (hat '@') (hsign '@') hrest.symm with
    ⟨g, hg, -⟩ | ⟨rfl, hg⟩ | ⟨g, -, hg⟩
  · exact absurd (by rw [hg]; simp) h.password.2
  · exact ⟨hleft, List.append_cancel_left hg⟩
  -- an at sign of the host is none, and one of the database has no port behind it
  have hmark : ClearOf (portMark s.port) ['@'] := clearOf_portMark s.port (.inr rfl) []
  rcases exists_of_append_eq (clearOf_of_not_mem List.not_mem_nil) hmark hg.symm with
    ⟨k, hk, -⟩ | ⟨-, hk⟩ | ⟨k, -, hk⟩
  · exact absurd (by rw [hk]; simp) h.host.1
  · exact absurd (List.cons.inj hk).1 (by decide)
  · refine absurd ⟨k ++ (['@'] ++ before), behind, ?_⟩ (h.database n)
    rw [hk, hport]
    simp

/-- Plain settings are told by their address. -/
theorem agreesWith_of_uri_eq (h : s.PlainInUri) (huri : s'.uri = s.uri) : s'.AgreesWith s := by
  have htext := congrArg String.toList huri
  rw [toList_uri, toList_uri] at htext
  have hdriver : ClearOf driverMark driverMark := clearOf_of_not_mem (by decide)
  rcases exists_of_append_eq hdriver hdriver htext with
    ⟨f, hf, -⟩ | ⟨-, hrest⟩ | ⟨f, -, hrest⟩
  · exact absurd ⟨s'.driver.toList, f, by rw [hf, List.append_assoc]⟩ h.driver
  · -- with one driver the at sign divides both addresses alike
    have hrest := List.append_cancel_left hrest
    obtain ⟨hleft, hright⟩ := h.cut_at (s'.username.toList ++ ([':'] ++ s'.password.toList))
      (by simp) rfl (by simpa using hrest)
    have hcolon : ClearOf [':'] [':'] := clearOf_of_not_mem List.not_mem_nil
    have hmark : ∀ n n', ClearOf (portMark n) (portMark n') := fun n n' =>
      clearOf_portMark n (.inl rfl) _
    obtain ⟨husername, hpassword⟩ : s'.username.toList = s.username.toList ∧
        s'.password.toList = s.password.toList := by
      rcases exists_of_append_eq hcolon hcolon hleft with
        ⟨f, hf, -⟩ | ⟨hf, hg⟩ | ⟨f, -, hf⟩
      · exact absurd (by rw [hf]; simp) h.username
      · exact ⟨hf, List.append_cancel_left hg⟩
      · exact absurd (by rw [hf]; simp) h.password.1
    obtain ⟨hhost, hport, hdatabase⟩ : s'.host.toList = s.host.toList ∧ s'.port = s.port ∧
        s'.database.toList = s.database.toList := by
      rcases exists_of_append_eq (hmark _ _) (hmark _ _) hright with ⟨f, hf, -⟩ | ⟨hf, hg⟩ | ⟨f, -, hf⟩
      · exact absurd ⟨s'.host.toList, f, by rw [hf, List.append_assoc]⟩ (h.host.2 s'.port)
      · exact ⟨hf, portMark_append_inj hg⟩
      · exact absurd ⟨f, s'.database.toList, by rw [hf, List.append_assoc]⟩ (h.database s'.port)
    exact ⟨String.ext husername, String.ext hpassword, String.ext hhost, hport, String.ext hdatabase⟩
  · -- a later mark of a driver has one colon too many before the at sign
    obtain ⟨hleft, -⟩ := h.cut_at
      (f ++ (driverMark ++ (s'.username.toList ++ ([':'] ++ s'.password.toList))))
      (by simp) rfl (by simpa using hrest.symm)
    have hcount := congrArg (List.count ':') hleft
    have husername := List.count_eq_zero.2 h.username
    have hpassword := List.count_eq_zero.2 h.password.1
    simp [driverMark, List.count_append, husername, hpassword] at hcount
    omega

/-! ### Words for the driver -/

/-- The mark before the password. -/
def passwordWord : List Char :=
  " password=".toList

/-- The mark before the name of the database. -/
def databaseWord : List Char :=
  " dbname=".toList

/-- The characters of the words for the driver, part by part. -/
theorem toList_conninfo (s : ConnectionSettings) :
    s.conninfo.toList = "host=".toList ++ (s.host.toList ++ (portWords s.port ++ (s.username.toList ++
      (passwordWord ++ (s.password.toList ++ (databaseWord ++ s.database.toList)))))) := by
  have hwords : s.conninfo = "host=" ++ s.host ++ " port=" ++ toString s.port ++ " user=" ++
      s.username ++ " password=" ++ s.password ++ " dbname=" ++ s.database := by
    simp only [conninfo, toString]
  rw [hwords]
  simp only [String.toList_append, portWords, portDigits, List.append_assoc]
  rfl

/-- **Settings without words that could be taken for those of the driver.**  What follows such a word
decides which of them are told apart, so the words of a port do no harm in a password. -/
structure PlainInConninfo (s : ConnectionSettings) : Prop where
  host : ∀ n, ¬ portWords n <:+: s.host.toList
  username : (∀ n, ¬ portWords n <:+: s.username.toList) ∧ ¬ passwordWord <:+: s.username.toList
  password : ¬ passwordWord <:+: s.password.toList ∧ ¬ databaseWord <:+: s.password.toList
  database : ¬ databaseWord <:+: s.database.toList

theorem infix_of_eq_append {m x y f : List Char} (h : x = y ++ (m ++ f)) : m <:+: x :=
  ⟨y, f, by rw [h, List.append_assoc]⟩

theorem clearOf_passwordWord (m : List Char) : ClearOf passwordWord (' ' :: m) :=
  clearOf_of_not_mem (m := "password=".toList) (by decide)

theorem clearOf_databaseWord (m : List Char) : ClearOf databaseWord (' ' :: m) :=
  clearOf_of_not_mem (m := "dbname=".toList) (by decide)

theorem clearOf_portWords_portWords (n n' : Int) : ClearOf (portWords n) (portWords n') := by
  rw [portWords_eq n']
  exact clearOf_portWords n _

/-- Behind the password of plain settings no word for a password has one for a database behind it. -/
theorem PlainInConninfo.append_ne (h : s.PlainInConninfo) (before between behind : List Char) :
    before ++ (passwordWord ++ (between ++ (databaseWord ++ behind))) ≠
      s.password.toList ++ (databaseWord ++ s.database.toList) := by
  intro heq
  rcases exists_of_append_eq (clearOf_passwordWord _) (clearOf_databaseWord _) heq with
    ⟨f, hf, -⟩ | ⟨-, hf⟩ | ⟨f, -, hf⟩
  · exact h.password.1 (infix_of_eq_append hf)
  · exact absurd (List.cons.inj (List.cons.inj hf).2).1 (by decide)
  · refine h.database (infix_of_eq_append (y := f ++ (passwordWord ++ between)) (f := behind) ?_)
    rw [hf]
    simp only [List.append_assoc]

/-- Plain settings are told by the words for the driver. -/
theorem agreesWith_of_conninfo_eq (h : s.PlainInConninfo) (hconninfo : s'.conninfo = s.conninfo) :
    s'.AgreesWith s := by
  have htext := congrArg String.toList hconninfo
  rw [toList_conninfo, toList_conninfo] at htext
  rcases exists_of_append_eq (clearOf_portWords_portWords _ _) (clearOf_portWords_portWords _ _)
      (List.append_cancel_left htext) with ⟨f, hf, -⟩ | ⟨hhost, hrest⟩ | ⟨f, -, hrest⟩
  · exact absurd (infix_of_eq_append hf) (h.host s'.port)
  · -- with one host and one port the word before the password is the same
    obtain ⟨hport, hrest⟩ := portWords_append_inj hrest
    rcases exists_of_append_eq (clearOf_passwordWord _) (clearOf_passwordWord _) hrest with
      ⟨f, hf, -⟩ | ⟨husername, hrest⟩ | ⟨f, -, hrest⟩
    · exact absurd (infix_of_eq_append hf) h.username.2
    · rcases exists_of_append_eq (clearOf_databaseWord _) (clearOf_databaseWord _)
          (List.append_cancel_left hrest) with ⟨f, hf, -⟩ | ⟨hpassword, hrest⟩ | ⟨f, -, hf⟩
      · exact absurd (infix_of_eq_append hf) h.password.2
      · exact ⟨String.ext husername, String.ext hpassword, String.ext hhost, hport,
          String.ext (List.append_cancel_left hrest)⟩
      · exact absurd (infix_of_eq_append hf) h.database
    · exact absurd hrest.symm (h.append_ne f _ _)
  · -- a later word for a port would lie in the user or behind the password
    rcases exists_of_append_eq (clearOf_portWords _ _) (clearOf_passwordWord _) hrest.symm with
      ⟨g, hg, -⟩ | ⟨-, hg⟩ | ⟨g, -, hg⟩
    · exact absurd (infix_of_eq_append hg) (h.username.1 s'.port)
    · exact absurd (List.cons.inj (List.cons.inj (List.cons.inj hg).2).2).1 (by decide)
    · refine absurd hg.symm ?_
      simpa only [List.append_assoc] using h.append_ne (g ++ (portWords s'.port ++ s'.username.toList))
        s'.password.toList s'.database.toList

/-! ### Settings that are told by their texts -/

/-- A text of another length is another text. -/
theorem ofList_ne {l : List Char} {t : String} (h : l.length ≠ t.toList.length) :
    String.ofList l ≠ t := by
  rintro rfl
  rw [String.toList_ofList] at h
  exact h rfl

/-- Settings that are told by their address are plain: at every mark that could be taken for one of the
address it can be cut into other settings. -/
theorem plainInUri_of_determined (h : ∀ s' : ConnectionSettings, s'.uri = s.uri → s'.AgreesWith s) :
    s.PlainInUri := by
  have hother : ∀ s' : ConnectionSettings, s'.uri.toList = s.uri.toList → s'.AgreesWith s :=
    fun s' hs => h s' (String.ext hs)
  refine ⟨?_, ?_, ⟨?_, ?_⟩, ⟨?_, ?_⟩, ?_⟩
  · rintro ⟨a, b, hab⟩
    refine ofList_ne ?_ (hother { s with
      driver := .ofList a, username := .ofList (b ++ (driverMark ++ s.username.toList)) } ?_).1
    · simp [driverMark]
      omega
    · simp [toList_uri, ← hab]
  · intro hmem
    obtain ⟨a, b, hab⟩ := List.append_of_mem hmem
    refine ofList_ne ?_ (hother { s with
      username := .ofList a, password := .ofList (b ++ ([':'] ++ s.password.toList)) } ?_).1
    · simp [hab]
    · simp [toList_uri, hab]
  · intro hmem
    obtain ⟨a, b, hab⟩ := List.append_of_mem hmem
    refine ofList_ne ?_ (hother { s with
      username := .ofList (s.username.toList ++ ([':'] ++ a)), password := .ofList b } ?_).2.1
    · simp [hab]
      omega
    · simp [toList_uri, hab]
  · intro hmem
    obtain ⟨a, b, hab⟩ := List.append_of_mem hmem
    refine ofList_ne ?_ (hother { s with
      password := .ofList a, host := .ofList (b ++ (['@'] ++ s.host.toList)) } ?_).2.1
    · simp [hab]
    · simp [toList_uri, hab]
  · intro hmem
    obtain ⟨a, b, hab⟩ := List.append_of_mem hmem
    refine ofList_ne ?_ (hother { s with
      password := .ofList (s.password.toList ++ (['@'] ++ a)), host := .ofList b } ?_).2.2.1
    · simp [hab]
      omega
    · simp [toList_uri, hab]
  · rintro n ⟨a, b, hab⟩
    refine ofList_ne ?_ (hother { s with
      host := .ofList a, port := n, database := .ofList (b ++ (portMark s.port ++ s.database.toList)) }
      ?_).2.2.1
    · simp [← hab, portMark]
    · simp [toList_uri, ← hab]
  · rintro n ⟨a, b, hab⟩
    refine ofList_ne ?_ (hother { s with
      host := .ofList (s.host.toList ++ (portMark s.port ++ a)), port := n, database := .ofList b }
      ?_).2.2.2.2
    · simp [← hab, portMark]
      omega
    · simp [toList_uri, ← hab]

theorem length_passwordWord : passwordWord.length = 10 := by
  decide

theorem length_databaseWord : databaseWord.length = 8 := by
  decide

theorem length_portWords_pos (n : Int) : 0 < (portWords n).length := by
  rw [portWords_eq]
  exact Nat.succ_pos _

/-- Settings that are told by the words for the driver are plain: at every word that could be taken for
one of the driver they can be cut into other settings. -/
theorem plainInConninfo_of_determined
    (h : ∀ s' : ConnectionSettings, s'.conninfo = s.conninfo → s'.AgreesWith s) :
    s.PlainInConninfo := by
  have hother : ∀ s' : ConnectionSettings, s'.conninfo.toList = s.conninfo.toList → s'.AgreesWith s :=
    fun s' hs => h s' (String.ext hs)
  refine ⟨?_, ⟨?_, ?_⟩, ⟨?_, ?_⟩, ?_⟩
  · rintro n ⟨a, b, hab⟩
    refine ofList_ne ?_ (hother { s with
      host := .ofList a, port := n, username := .ofList (b ++ (portWords s.port ++ s.username.toList)) }
      ?_).2.2.1
    · have hpos := length_portWords_pos n
      simp only [← hab, List.length_append]
      omega
    · simp only [toList_conninfo, String.toList_ofList, ← hab, List.append_assoc]
  · rintro n ⟨a, b, hab⟩
    refine ofList_ne ?_ (hother { s with
      host := .ofList (s.host.toList ++ (portWords s.port ++ a)), port := n, username := .ofList b }
      ?_).1
    · have hpos := length_portWords_pos n
      simp only [← hab, List.length_append]
      omega
    · simp only [toList_conninfo, String.toList_ofList, ← hab, List.append_assoc]
  · rintro ⟨a, b, hab⟩
    refine ofList_ne ?_ (hother { s with
      username := .ofList a, password := .ofList (b ++ (passwordWord ++ s.password.toList)) } ?_).1
    · simp only [← hab, List.length_append, length_passwordWord]
      omega
    · simp only [toList_conninfo, String.toList_ofList, ← hab, List.append_assoc]
  · rintro ⟨a, b, hab⟩
    refine ofList_ne ?_ (hother { s with
      username := .ofList (s.username.toList ++ (passwordWord ++ a)), password := .ofList b } ?_).2.1
    · simp only [← hab, List.length_append, length_passwordWord]
      omega
    · simp only [toList_conninfo, String.toList_ofList, ← hab, List.append_assoc]
  · rintro ⟨a, b, hab⟩
    refine ofList_ne ?_ (hother { s with
      password := .ofList a, database := .ofList (b ++ (databaseWord ++ s.database.toList)) } ?_).2.1
    · simp only [← hab, List.length_append, length_databaseWord]
      omega
    · simp only [toList_conninfo, String.toList_ofList, ← hab, List.append_assoc]
  · rintro ⟨a, b, hab⟩
    refine ofList_ne ?_ (hother { s with
      password := .ofList (s.password.toList ++ (databaseWord ++ a)), database := .ofList b } ?_).2.2.2.2
    · simp only [← hab, List.length_append, length_databaseWord]
      omega
    · simp only [toList_conninfo, String.toList_ofList, ← hab, List.append_assoc]

/-- **Settings are told by their texts exactly if they are plain**: no settings that differ in more than
the driver have the same address, or the same words for the driver, as long as no mark in them can be
taken for one between them, and only then. -/
theorem determined_iff (s : ConnectionSettings) :
    ((∀ s' : ConnectionSettings, s'.uri = s.uri → s'.AgreesWith s) ↔ s.PlainInUri) ∧
      ((∀ s' : ConnectionSettings, s'.conninfo = s.conninfo → s'.AgreesWith s) ↔ s.PlainInConninfo) :=
  ⟨⟨plainInUri_of_determined, fun h _ => agreesWith_of_uri_eq h⟩,
    plainInConninfo_of_determined, fun h _ => agreesWith_of_conninfo_eq h⟩

/-- A colon of a user and one of a password are taken for each other in an address, and the word for a
password in a user and in a password among the words for the driver. -/
theorem uri_eq_of_colon :
    (∃ s s' : ConnectionSettings, s = { username := "a:b", password := "c" } ∧
      s' = { username := "a", password := "b:c" } ∧ ¬ s'.AgreesWith s ∧ s'.uri = s.uri) ∧
    ∃ s s' : ConnectionSettings, s = { username := "a password=b", password := "c" } ∧
      s' = { username := "a", password := "b password=c" } ∧ ¬ s'.AgreesWith s ∧
        s'.conninfo = s.conninfo :=
  ⟨⟨_, _, rfl, rfl, by decide, by decide⟩, _, _, rfl, rfl, by decide, by decide⟩

end ConnectionSettings

end SqlContract
