/-
Checks of single values.

A strict check takes a value of the type alone, with a whole number for a fractional one.  A lax
check converts where the meaning is plain: whole fractions and texts of numbers to integers, the
usual words to truth values, and texts to and from bytes.

* `FieldType` — the types of fields, with their notation;
* `FieldType.check` — a value as a value of a type;
* `FieldType.Admits` — what a strict check is to take, and as what.
-/

import SqlContract.ScalarType
import SqlContract.Validation.Problem

set_option autoImplicit false
set_option relaxedAutoImplicit false

namespace SqlContract

/-! ### Conversions -/

/-- White space at the ends of a text of a number; the information separators do not count. -/
def isPadding (c : Char) : Bool :=
  Text.isBlank c && !(0x1C ≤ c.toNat && c.toNat ≤ 0x1F)

/-- A text without the padding at its ends. -/
def trimPadding (s : List Char) : List Char :=
  ((s.dropWhile isPadding).reverse.dropWhile isPadding).reverse

/-- Removes a point with nothing but zeros behind it from a text of a whole number. -/
def dropZeroFraction (s : List Char) : List Char :=
  let zeros := s.dropWhile (· ≠ '.')
  if 1 < zeros.length && zeros.tail.all (· == '0') then s.takeWhile (· ≠ '.') else s

/-- What is left of a text of a number behind its leading zeros, among which underscores may stand;
a zero before a point or at the end is kept. -/
def dropLeadingZeros : List Char → List Char
  | '0' :: cs =>
      match cs.dropWhile fun c => c == '0' || c == '_' with
      | [] => (cs.getLast?.getD '0') :: []
      | '.' :: fraction =>
          (('0' :: cs.takeWhile fun c => c == '0' || c == '_').getLast?.getD '0') :: '.' :: fraction
      | rest => rest
  | cs => cs

/-- The texts of integers, read. -/
inductive IntText
  | number (n : Int)
  /-- More digits than are read. -/
  | oversized
  | other
  deriving DecidableEq, Repr

/-- How many characters the text of an integer may have, its leading zeros apart. -/
def intTextLimit : Nat := 4300

/-- Reads the integer that a text writes in decimal digits, with an optional sign. -/
def readInt (s : String) : IntText :=
  let (negative, body) := Binary64.splitSign (trimPadding s.toList)
  if ¬ body.head?.any Char.isDigit then .other
  else
    match Binary64.dropUnderscores? false (dropZeroFraction (dropLeadingZeros body)) with
    | none => .other
    | some ds =>
        if ds.isEmpty ∨ ¬ ds.all Char.isDigit then .other
        else if intTextLimit < ds.length + (if negative then 1 else 0) then .oversized
        else .number (if negative then -(Text.number ds : Int) else Text.number ds)

/-- The text without its underscores, where none stands at an end or beside another. -/
def withoutUnderscores? (s : List Char) : Option (List Char) :=
  if s.head? = some '_' ∨ s.getLast? = some '_' ∨
      (s.zip s.tail).any fun p => p.1 == '_' && p.2 == '_' then none
  else some (s.filter (· ≠ '_'))

/-- The number that a text writes: with padding at its ends, or with underscores in it. -/
def readFloat? (s : String) : Option Binary64 :=
  match Binary64.ofChars? (trimPadding s.toList) with
  | some x => some x
  | none => (withoutUnderscores? s.toList).bind Binary64.ofChars?

/-- Whether an integer fits a signed word of 64 bits. -/
def fitsWord (n : Int) : Bool :=
  -Int.pow 2 63 ≤ n && n < Int.pow 2 63

/-- Whether a whole floating-point number is taken as an integer: its magnitude is below that of
the least word. -/
def isWordSized (n : Int) : Bool :=
  n.natAbs < Nat.pow 2 63

/-- The truth value that a word stands for. -/
def readBool? (s : String) : Option Bool :=
  let word := String.ofList (s.toList.map Char.toLower)
  if ["0", "f", "n", "no", "off", "false"].contains word then some false
  else if ["1", "t", "y", "on", "yes", "true"].contains word then some true
  else none

/-- The text of a value that lax checks read as text: a text, or bytes of one. -/
def asText? : Value → Option (Option String)
  | .text s => some (some s)
  | .bytes bs => some (String.fromUTF8? ⟨bs.toArray⟩)
  | _ => none

/-- An integer as a floating-point number, where it is in range. -/
def toFloat? (n : Int) : Option Binary64 :=
  match Binary64.ofInt n with
  | .infinite _ => none
  | x => some x

/-! ### Checks -/

open Problem Checked

/-- Checks for an integer. -/
def checkInt (strict : Bool) : Value → Checked Int
  | .int n => .ok n
  | v =>
      if strict then fail .intType
      else
        match v with
        | .bool b => .ok (if b then 1 else 0)
        | .float x =>
            match x, x.toInt? with
            | _, some n => if isWordSized n then .ok n else fail .intParsingSize
            | .finite _ _ _, none => fail .intFromFloat
            | _, none => fail .finiteNumber
        | v =>
            match asText? v with
            | none => fail .intType
            | some text =>
                match text.map readInt with
                | some (.number n) => .ok n
                | some .oversized => fail .intParsingSize
                | _ => fail .intParsing

/-- Checks for a floating-point number. -/
def checkFloat (strict : Bool) : Value → Checked Binary64
  | .float x => .ok x
  | .int n =>
      match toFloat? n with
      | some x => .ok x
      | none => fail .floatType
  | v =>
      if strict then fail .floatType
      else
        match v with
        | .bool b => .ok (.ofInt (if b then 1 else 0))
        | v =>
            match asText? v with
            | none => fail .floatType
            | some text =>
                match text.bind readFloat? with
                | some x => .ok x
                | none => fail .floatParsing

/-- Checks for a text. -/
def checkText (strict : Bool) : Value → Checked String
  | .text s => .ok s
  | .bytes bs =>
      if strict then fail .stringType
      else
        match String.fromUTF8? ⟨bs.toArray⟩ with
        | some s => .ok s
        | none => fail .stringUnicode
  | _ => fail .stringType

/-- Checks for bytes. -/
def checkBytes (strict : Bool) : Value → Checked (List UInt8)
  | .bytes bs => .ok bs
  | .text s => if strict then fail .bytesType else .ok s.toUTF8.toList
  | _ => fail .bytesType

/-- The integer of a word that a number is. -/
def Value.asWord? : Value → Option Int
  | .int n => if fitsWord n then some n else Option.none
  | .float x => x.toInt?.filter isWordSized
  | _ => Option.none

/-- Checks for a truth value. -/
def checkBool (strict : Bool) : Value → Checked Bool
  | .bool b => .ok b
  | v =>
      if strict then fail .boolType
      else
        match asText? v, v.asWord? with
        | some text, _ =>
            match text.bind readBool? with
            | some b => .ok b
            | none => fail .boolParsing
        | none, some n => if n = 0 then .ok false else if n = 1 then .ok true else fail .boolParsing
        | none, none => fail .boolType

/-- The types of fields. -/
inductive FieldType
  | int
  | float
  | text
  | bytes
  | bool
  /-- Integers and floating-point numbers. -/
  | number
  /-- Every value. -/
  | any
  deriving DecidableEq, Repr

namespace FieldType

/-- A type as it is written. -/
def written : FieldType → String
  | .int => "int"
  | .float => "float"
  | .text => "str"
  | .bytes => "bytes"
  | .bool => "bool"
  | .number => "int | float"
  | .any => "Any"

/-- Checks for a number.  What is exactly one of the two kinds of numbers stays as it is. -/
def checkNumber (strict : Bool) (v : Value) : Checked Value :=
  match v with
  | .int n => .ok (.int n)
  | .float x => .ok (.float x)
  | v =>
      match checkInt strict v, checkFloat strict v with
      | .ok n, _ => .ok (.int n)
      | .error _, .ok x => .ok (.float x)
      | .error ps, .error qs =>
          both (fun a _ => a) (Checked.inside (.name "int") (.error ps))
            (Checked.inside (.name "float") (.error qs : Checked Value))

/-- A value as a value of a type. -/
def check (strict : Bool) (t : FieldType) (v : Value) : Checked Value :=
  match t with
  | .int => (checkInt strict v).map .int
  | .float => (checkFloat strict v).map .float
  | .text => (checkText strict v).map .text
  | .bytes => (checkBytes strict v).map .bytes
  | .bool => (checkBool strict v).map .bool
  | .number => checkNumber strict v
  | .any => .ok v

/-- A value `v` is one of the type, and is taken as `w`. -/
inductive Admits : FieldType → Value → Value → Prop
  | int (n : Int) : Admits .int (.int n) (.int n)
  | float (x : Binary64) : Admits .float (.float x) (.float x)
  /-- A whole number for a fractional one. -/
  | widened {n : Int} {x : Binary64} : toFloat? n = some x → Admits .float (.int n) (.float x)
  | text (s : String) : Admits .text (.text s) (.text s)
  | bytes (bs : List UInt8) : Admits .bytes (.bytes bs) (.bytes bs)
  | bool (b : Bool) : Admits .bool (.bool b) (.bool b)
  | whole (n : Int) : Admits .number (.int n) (.int n)
  | fraction (x : Binary64) : Admits .number (.float x) (.float x)
  | any (v : Value) : Admits .any v v

end FieldType

/-- The type of fields that hold values of a scalar type. -/
def ScalarType.fieldType : ScalarType → FieldType
  | .number => .number
  | .string => .text
  | .binary => .bytes
  | .untyped => .any

end SqlContract
