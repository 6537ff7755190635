/-
Trees: SQL as it is understood.

All parts of a statement are nodes of one form, so that a search through a statement needs to know
nothing of its grammar.  A node has a kind, the text that names it, and its parts in order.  A list
of parts is a node too, but one that a search looks through: its members are parts of the node that
holds the list.

* `Kind`, `Tree` — nodes and what they stand for;
* `Tree.name` — what a node is called;
* `Tree.members` — the parts of a node, with the members of lists in their places;
* `Tree.nearest?` — the nearest node of a kind: the one with the fewest nodes above it, and of two
  such nodes the first.
-/

set_option autoImplicit false
set_option relaxedAutoImplicit false

namespace SqlContract.Sql

/-- What a node stands for. -/
inductive Kind
  /-- A name, bare or in quotes, and a word that is no name. -/
  | name
  | quotedName
  | word
  /-- Literals. -/
  | text
  | number
  | null
  /-- All columns. -/
  | star
  /-- A column by its name, and the names that qualify it, the nearest first. -/
  | column
  /-- A member of a value, or of a name too long for a column. -/
  | member
  /-- A place for a parameter. -/
  | hole
  /-- An expression in brackets, and a list of them. -/
  | brackets
  | tuple
  /-- An expression with a name. -/
  | alias
  | call
  /-- A call that sums up many rows. -/
  | aggregate
  | window
  | interval
  | cast
  | remainder
  | type
  /-- Parts of a query. -/
  | table
  | tableAlias
  | from
  | join
  | unnest
  | values
  | limit
  | order
  | select
  | setOperation
  | subquery
  /-- A clause of a query, by its name; a query has one of a name. -/
  | clause
  | withQueries
  | namedQuery
  /-- Statements, and their parts. -/
  | insert
  | update
  | delete
  | returning
  | definition
  | schema
  | columnDefinition
  | constraint
  /-- NOT NULL, and NULL with its word as the text. -/
  | nullness
  | properties
  /-- Any other node. -/
  | other
  /-- Lists of parts, and the list of what a query gives. -/
  | several
  | items
  deriving DecidableEq, Repr

/-- A node. -/
inductive Tree
  | node (kind : Kind) (text : String) (parts : List Tree)

mutual

/-- Whether two nodes are equal. -/
def Tree.decEq : (t u : Tree) → Decidable (t = u)
  | .node k s ts, .node l r us =>
      if h : k = l ∧ s = r then
        match decEqAll ts us with
        | isTrue hts => isTrue (by rw [h.1, h.2, hts])
        | isFalse hts => isFalse fun he => hts (by injection he)
      else isFalse fun he => h (by injection he with hk hs; exact ⟨hk, hs⟩)

/-- Whether two lists of nodes are equal. -/
def decEqAll : (ts us : List Tree) → Decidable (ts = us)
  | [], [] => isTrue rfl
  | [], _ :: _ => isFalse nofun
  | _ :: _, [] => isFalse nofun
  | t :: ts, u :: us =>
      match t.decEq u, decEqAll ts us with
      | isTrue ht, isTrue hts => isTrue (by rw [ht, hts])
      | isFalse ht, _ => isFalse fun he => ht (List.cons.inj he).1
      | _, isFalse hts => isFalse fun he => hts (List.cons.inj he).2

end

instance : DecidableEq Tree :=
  Tree.decEq

namespace Tree

/-- A node without parts. -/
def leaf (kind : Kind) (text : String) : Tree :=
  .node kind text []

/-- A node that is known by its parts alone. -/
def of (kind : Kind) (parts : List Tree) : Tree :=
  .node kind "" parts

/-- The kind of a node. -/
def kind : Tree → Kind
  | .node k _ _ => k

/-- The text of a node. -/
def text : Tree → String
  | .node _ s _ => s

/-- The parts of a node. -/
def parts : Tree → List Tree
  | .node _ _ ts => ts

/-- Whether a node is of one of some kinds. -/
def isOneOf (t : Tree) (kinds : List Kind) : Bool :=
  kinds.contains t.kind

/-- The node with further parts behind its own. -/
def append (t : Tree) (more : List Tree) : Tree :=
  .node t.kind t.text (t.parts ++ more)

/-- Whether a node is a list of parts. -/
def isList (t : Tree) : Bool :=
  t.isOneOf [.several, .items]

/-- The parts of a node, with the members of lists in their places. -/
def members (t : Tree) : List Tree :=
  t.parts.flatMap fun p => if p.isList then p.parts else [p]

/-- The first part of a kind. -/
def part? (t : Tree) (k : Kind) : Option Tree :=
  t.members.find? (·.kind == k)

/-- Whether a node has a part of a kind. -/
def has (t : Tree) (k : Kind) : Bool :=
  (t.part? k).isSome

/-- The list of what a query gives. -/
def items (t : Tree) : List Tree :=
  ((t.parts.find? (·.kind == .items)).map parts).getD []

/-- What a node without names of its own parts is called. -/
def ownName (t : Tree) : String :=
  if t.isOneOf [.name, .quotedName, .word, .text, .number, .null, .star, .hole, .table] then t.text
  else ""

/-- What a node is called: a column by its name alone, a member by what it is a member of
something. -/
def name (t : Tree) : String :=
  match t.kind with
  | .column => (t.parts.head?.map ownName).getD ""
  | .member => (t.parts.getLast?.map ownName).getD ""
  | _ => t.ownName

/-- The column of a name. -/
def column (name : Tree) : Tree :=
  .of .column [name]

/-- Whether a node is a name. -/
def isName (t : Tree) : Bool :=
  t.isOneOf [.name, .quotedName]

/-- Whether a node is a column that nothing qualifies. -/
def isPlainColumn (t : Tree) : Bool :=
  t.kind == .column && t.parts.length == 1

/-- A list of nodes. -/
def several (ts : List Tree) : Tree :=
  .of .several ts

end Tree

/-! ### The nearest node of a kind -/

/-- The nearer of two nodes, each with the number of nodes above it; of two as near the first. -/
def nearer : Option (Nat × Tree) → Option (Nat × Tree) → Option (Nat × Tree)
  | some (m, s), some (n, t) => if n < m then some (n, t) else some (m, s)
  | some s, none => some s
  | none, t? => t?

mutual

/-- The nearest node of a kind in a tree, with the number of nodes above it. -/
def Tree.nearest? (k : Kind) : Tree → Option (Nat × Tree)
  | .node k' s ts =>
      if k' = k then some (0, .node k' s ts)
      else
        let inside := nearestAmong? k ts
        if k' = .several ∨ k' = .items then inside else inside.map fun (n, t) => (n + 1, t)

/-- The nearest node of a kind in some trees. -/
def nearestAmong? (k : Kind) : List Tree → Option (Nat × Tree)
  | [] => none
  | t :: ts => nearer (t.nearest? k) (nearestAmong? k ts)

end

end SqlContract.Sql
