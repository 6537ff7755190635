/-
Values that statements take and give.

* `Value` — the values of parameters, rows and results;
* `Value.isFilled` — whether a value counts as present where emptiness means absence;
* `Value.shown` — a value as error messages show it;
* `Value.plain` — a value with every record in it turned into a mapping;
* `Entries.set`, `Entries.ofList` — mappings in order of first insertion.
-/

import SqlContract.Number.Decimal
import SqlContract.Text.Quoted

set_option autoImplicit false
set_option relaxedAutoImplicit false

namespace SqlContract

/-- A value. -/
inductive Value
  | none
  | bool (b : Bool)
  | int (n : Int)
  | float (x : Binary64)
  | text (s : String)
  | bytes (bs : List UInt8)
  | list (items : List Value)
  /-- A mapping, with its entries in order of insertion. -/
  | dict (entries : List (Value × Value))
  /-- A validated record: the name of its type, and its fields in order of declaration. -/
  | record (type : String) (fields : List (String × Value))
  deriving Repr, Inhabited

namespace Value

/-- Whether a value counts as present: neither absent, nor false, nor zero, nor empty. -/
def isFilled : Value → Bool
  | .none => false
  | .bool b => b
  | .int n => n != 0
  | .float x => !x.isZero
  | .text s => !s.isEmpty
  | .bytes bs => !bs.isEmpty
  | .list items => !items.isEmpty
  | .dict entries => !entries.isEmpty
  | .record _ _ => true

/-- The integer that a number or a truth value is equal to. -/
def asInteger? : Value → Option Int
  | .bool b => some (if b then 1 else 0)
  | .int n => some n
  | .float x => x.toInt?
  | _ => Option.none

/-- Whether two values are one key of a mapping.  Numbers are one key when they are equal, so no two
keys that are not numbers at all are one. -/
def sameKey : Value → Value → Bool
  | .none, .none => true
  | .text s, .text t => s == t
  | .bytes s, .bytes t => s == t
  | .float .nan, .float .nan => false
  | .float x, .float y => (x.isZero && y.isZero) || x == y
  | v, w => match v.asInteger?, w.asInteger? with
    | some m, some n => m == n
    | _, _ => false

/-- The entry of a mapping at a name. -/
def entry? (entries : List (Value × Value)) (name : String) : Option Value :=
  (entries.find? fun e => match e.1 with | .text s => s == name | _ => false).map (·.2)

/-- A byte between quotes. -/
def escapeByte (quote : Char) (b : UInt8) : List Char :=
  let c := Char.ofNat b.toNat
  if b < 0x80 then Text.escapeChar quote c else '\\' :: 'x' :: Text.hexDigits 2 b.toNat

/-- Bytes as a literal. -/
def shownBytes (bs : List UInt8) : String :=
  let quote := Text.quoteFor (bs.map fun b => Char.ofNat b.toNat)
  String.ofList ('b' :: quote :: (bs.flatMap (escapeByte quote) ++ [quote]))

mutual

/-- A value as error messages show it. -/
def shown : Value → String
  | .none => "None"
  | .bool b => if b then "True" else "False"
  | .int n => toString n
  | .float x => x.written
  | .text s => Text.quoted s
  | .bytes bs => shownBytes bs
  | .list items => "[" ++ ", ".intercalate (shownItems items) ++ "]"
  | .dict entries => "\x7b" ++ ", ".intercalate (shownEntries entries) ++ "\x7d"
  | .record type fields => type ++ "(" ++ ", ".intercalate (shownFields fields) ++ ")"

/-- The items of a list, each as error messages show it. -/
def shownItems : List Value → List String
  | [] => []
  | v :: vs => shown v :: shownItems vs

/-- The entries of a mapping as error messages show them. -/
def shownEntries : List (Value × Value) → List String
  | [] => []
  | (k, v) :: es => (shown k ++ ": " ++ shown v) :: shownEntries es

/-- The fields of a record as error messages show them. -/
def shownFields : List (String × Value) → List String
  | [] => []
  | (name, v) :: fs => (name ++ "=" ++ shown v) :: shownFields fs

end

mutual

/-- The value with every record in it turned into a mapping from its field names. -/
def plain : Value → Value
  | .list items => .list (plainItems items)
  | .dict entries => .dict (plainEntries entries)
  | .record _ fields => .dict (plainFields fields)
  | v => v

/-- `plain` on the items of a list. -/
def plainItems : List Value → List Value
  | [] => []
  | v :: vs => plain v :: plainItems vs

/-- `plain` on the values of a mapping. -/
def plainEntries : List (Value × Value) → List (Value × Value)
  | [] => []
  | (k, v) :: es => (k, plain v) :: plainEntries es

/-- The mapping of a record's fields. -/
def plainFields : List (String × Value) → List (Value × Value)
  | [] => []
  | (name, v) :: fs => (.text name, plain v) :: plainFields fs

end

end Value

namespace Entries

/-- Sets a key of a mapping: a new key is added at the end, a known one keeps its place. -/
def set (k v : Value) : List (Value × Value) → List (Value × Value)
  | [] => [(k, v)]
  | e :: es => if e.1.sameKey k then (e.1, v) :: es else e :: set k v es

/-- The mapping that a list of entries builds.  Of entries with one key the first gives the place
and the last the value. -/
def ofList (entries : List (Value × Value)) : List (Value × Value) :=
  entries.foldl (fun es e => set e.1 e.2 es) []

end Entries

end SqlContract
