/-
Types, as they are declared and as an engine writes them.

Engines know a type by many names and write it by one.  A name that no engine knows is a type of the
user's own and keeps its spelling; the local engine gives a quoted name its meaning as a type where
it has one.

* `typeSpellings`, `spellType` — how each engine writes a type that both know;
* `TypeShape`, `TypeShape.written` — a declared type, and how an engine writes it;
* `Grammar.typeName?` — the reader of types.
-/

import SqlContract.Sql.Label
import SqlContract.Sql.Scan

set_option autoImplicit false
set_option relaxedAutoImplicit false

namespace SqlContract.Sql

open Reader

/-! ### Types and their spellings -/

/-- The types that an engine writes otherwise than by their tag: the tag, and how the local and the
remote engine write it. -/
def typeSpellings : List (String × String × String) :=
  [("BIGINT", "INTEGER", "BIGINT"), ("BINARY", "BLOB", "BYTEA"), ("BOOLEAN", "INTEGER", "BOOLEAN"),
   ("CHAR", "TEXT", "CHAR"), ("DATETIME", "DATETIME", "TIMESTAMP"), ("DECIMAL", "REAL", "DECIMAL"),
   ("DOUBLE", "REAL", "DOUBLE PRECISION"), ("FLOAT", "REAL", "REAL"), ("INT", "INTEGER", "INT"),
   ("LONGBLOB", "BLOB", "BLOB"), ("LONGTEXT", "TEXT", "TEXT"), ("MEDIUMBLOB", "BLOB", "BLOB"),
   ("MEDIUMTEXT", "TEXT", "TEXT"), ("NCHAR", "TEXT", "CHAR"), ("NVARCHAR", "TEXT", "VARCHAR"),
   ("SMALLINT", "INTEGER", "SMALLINT"), ("TIMESTAMPNTZ", "TIMESTAMPNTZ", "TIMESTAMP"),
   ("TINYBLOB", "BLOB", "BLOB"), ("TINYINT", "INTEGER", "SMALLINT"), ("TINYTEXT", "TEXT", "TEXT"),
   ("VARBINARY", "BLOB", "BYTEA"), ("VARCHAR", "TEXT", "VARCHAR")]

/-- How an engine writes the type of a tag. -/
def spellType (d : Dialect) (tag : String) : String :=
  match typeSpellings.lookup tag, d with
  | some (spelling, _), .localSync => spelling
  | some (_, spelling), .remoteAsync => spelling
  | none, _ => tag

/-- A declared type. -/
inductive TypeShape
  /-- A type that engines know, with its parameters. -/
  | known (tag : String) (parameters : List String)
  /-- A type that is made of others. -/
  | nested (tag : String) (parameters : List String)
  /-- A type of the user's own. -/
  | own (spelling : String) (parameters : List String)
  /-- A span of time in the given units. -/
  | span (units : String)
  /-- An array, with what stands in its brackets. -/
  | array (element : TypeShape) (sizes : List String)
  deriving Repr

namespace TypeShape

/-- Parameters between two marks, and nothing where there are none. -/
def inMarks (opening closing : String) (parameters : List String) : String :=
  if parameters.isEmpty then "" else opening ++ ", ".intercalate parameters ++ closing

/-- How an engine writes a type. -/
def written (d : Dialect) : TypeShape → String
  | .known tag ps =>
      if d == .remoteAsync && ["DOUBLE", "FLOAT"].contains tag && !ps.isEmpty then
        "FLOAT" ++ inMarks "(" ")" ps
      else spellType d tag ++ inMarks "(" ")" ps
  | .nested tag ps =>
      if d == .remoteAsync && tag == "ARRAY" && !ps.isEmpty then ", ".intercalate ps ++ "[]"
      else spellType d tag ++ inMarks "<" ">" ps
  | .own spelling ps => spelling ++ inMarks "(" ")" ps
  | .span units => "INTERVAL " ++ units
  | .array element sizes =>
      match d with
      | .remoteAsync => element.written d ++ "[" ++ ", ".intercalate sizes ++ "]"
      | .localSync => "ARRAY<" ++ element.written d ++ ">" ++ inMarks "[" "]" sizes

/-- The type with other parameters, where it can have some. -/
def withParameters (ps : List String) : TypeShape → TypeShape
  | .known tag _ => .known tag ps
  | .nested tag _ => .nested tag ps
  | .own spelling _ => .own spelling ps
  | s => s

/-- Whether a type has parameters. -/
def hasParameters : TypeShape → Bool
  | .known _ ps | .nested _ ps | .own _ ps => !ps.isEmpty
  | .span _ => false
  | .array .. => true

end TypeShape

/-! ### What stands in the brackets of a type -/

/-- A token as it stands among the parameters of a type. -/
def Token.written (t : Token) : String :=
  match t.kind with
  | .keyword => t.upper
  | .name => "\"" ++ t.text ++ "\""
  | .text => "'" ++ t.text.replace "'" "''" ++ "'"
  | _ => t.text

/-- Whether no space stands between two tokens. -/
def Token.joins (s t : Token) : Bool :=
  s.isOneOf ["(", "[", ".", "::"] || t.isOneOf ["(", ")", "[", "]", ".", ",", "::"]

/-- Tokens as they stand among the parameters of a type. -/
def writeTokens : List Token → String
  | [] => ""
  | [t] => t.written
  | s :: t :: ts => s.written ++ (if s.joins t then "" else " ") ++ writeTokens (t :: ts)

/-- What a reader gives, with the tokens that it took. -/
def withTokens {α : Type} (r : Reader (Option α)) : Reader (Option (α × List Token)) := do
  let before := (← get).left
  match ← r with
  | some a =>
      let behind ← get
      return some (a, (behind.taken.take (before - behind.left)).reverse)
  | none => return none

/-- Types of unsigned numbers, by the type that UNSIGNED follows. -/
def unsignedTypes : List (String × String) :=
  [("BIGINT", "UBIGINT"), ("DECIMAL", "UDECIMAL"), ("DOUBLE", "UDOUBLE"), ("INT", "UINT"),
   ("MEDIUMINT", "UMEDIUMINT"), ("SMALLINT", "USMALLINT"), ("TINYINT", "UTINYINT")]

/-- Types that may have a time zone. -/
def zonedTypes : List String :=
  ["TIME", "TIMESTAMP", "TIMESTAMPLTZ", "TIMESTAMPNTZ", "TIMESTAMPTZ", "TIMETZ"]

/-- Types whose parameters are fields with a name and a type. -/
def structTypes : List String :=
  ["FILE", "OBJECT", "STRUCT", "UNION"]

/-- Types that are made of others. -/
def nestedTypes : List String :=
  ["ARRAY", "LIST", "MAP", "NULLABLE", "RANGE"] ++ structTypes

namespace Grammar

variable (g : Grammar)

/-- A parameter of a type.  A word behind it is no part of it. -/
def typeSize? : Reader (Option String) := do
  match ← withTokens g.operand with
  | none => return none
  | some (size, tokens) =>
      let _ ← word? true []
      let text :=
        if size.isPlainColumn then upperText size.name
        else if size.kind == .type then size.text
        else writeTokens tokens
      return some text

/-- An expression as it stands among the parameters of a type. -/
def writtenExpression? (r : Reader (Option Tree)) : Reader (Option String) := do
  return (← withTokens r).map fun (_, tokens) => writeTokens tokens

/-- A field of a type that has fields. -/
def structField? : Reader (Option String) := do
  match ← g.name? true .any with
  | none => return none
  | some name =>
      let _ ← accept ":"
      return (← g.typeName {}).map fun type => name.name ++ " " ++ type.text

/-- A type of the user's own.  The remote engine keeps the quotes of its names. -/
def ownType (name : Tree) : Reader TypeShape := do
  match g.dialect with
  | .remoteAsync =>
      let spell (n : Tree) : String :=
        if n.kind == .quotedName then "\"" ++ n.text.replace "\"" "\"\"" ++ "\"" else n.text
      let members ← repeated do
        if ← accept "." then return some (← g.name? true .any) else return none
      return .own (".".intercalate (spell name :: (members.filterMap id).map spell)) []
  | .localSync =>
      let members ← repeated do
        if ← accept "." then
          return some (← given (← take? (!·.isReserved))).text
        else return none
      return .own (".".intercalate (name.name :: members)) []

/-- What a name means as a type to the local engine: the type of that spelling if there is one. -/
def meaning? (shape : TypeShape) : Reader (Option Tree) := do
  match g.dialect, shape with
  | .localSync, .own spelling _ =>
      let tokens ← given (tokens? .localSync spelling.toList)
      match (g.typeName { schema := true, names := false }).run (.before tokens) with
      | some (some type, _) => return some type
      | _ => return none
  | _, _ => return none

/-- What stands in round brackets behind a type: nothing, parameters, or something else. -/
inductive Round
  | absent
  | parameters (ps : List String)
  | unfit

/-- The parameters of a type in round brackets. -/
def roundParameters (f : TypeForm) (tag : String) : Reader Round := do
  if ← accept "(" then
    let parameters ←
      if structTypes.contains tag then commaList g.structField?
      else if nestedTypes.contains tag then commaList do return (← g.typeName f).map Tree.text
      else if tag == "ENUM" then commaList (writtenExpression? g.equality)
      else commaList g.typeSize?
    return if ← accept ")" then .parameters parameters else .unfit
  else return .absent

/-- The parameters of a type between angle brackets. -/
def angleParameters (f : TypeForm) (tag : String) : Reader (List String) := do
  if ← provided (nestedTypes.contains tag) (accept "<") then
    let parameters ←
      if structTypes.contains tag then commaList g.structField?
      else commaList do return (← g.typeName f).map Tree.text
    ensure (← accept ">")
    return parameters
  else return []

/-- The type that the words behind a type of times make of it. -/
def zonedType? (tag : String) : Reader (Option String) := do
  if !zonedTypes.contains tag then return none
  if ← acceptWords ["WITH", "TIME", "ZONE"] then
    return some (if ["TIME", "TIMETZ"].contains tag then "TIMETZ" else "TIMESTAMPTZ")
  else if ← acceptWords ["WITH", "LOCAL", "TIME", "ZONE"] then return some "TIMESTAMPLTZ"
  else if ← acceptWords ["WITHOUT", "TIME", "ZONE"] then return some tag
  else return none

/-- The units of a span of time. -/
def spanUnits? : Reader (Option String) := do
  match ← word? false [] with
  | none => return none
  | some unit =>
      if ← acceptWord "TO" then
        let last? ← word? false []
        return some (upperText unit.text ++ " TO " ++ upperText ((last?.map Tree.text).getD ""))
      else return some (upperText unit.text)

/-- The brackets of arrays behind a type. -/
def arrays (schema : Bool) (element : TypeShape) : Reader TypeShape := do
  let start ← get
  let announced ← accept "ARRAY"
  brackets start announced element ((← get).left + 1)
where
  /-- The brackets behind some brackets that were read. -/
  brackets (start : Cursor) (announced : Bool) (element : TypeShape) : Nat → Reader TypeShape
    | 0 => return element
    | n + 1 => do
        if ← atEnd then return element
        let behindArray := (← last?).any (·.is "ARRAY")
        let opened ← accept "["
        if !opened && !announced then return element
        if ← provided behindArray (accept "]") then return element
        let sizes ← commaList (writtenExpression? g.disjunction)
        if !sizes.isEmpty && !schema then
          set start
          return element
        let _ ← accept "]"
        brackets start false (.array element sizes) n

/-- A type that engines know, from behind its name on. -/
def knownType? (f : TypeForm) (tag : String) : Reader (Option TypeShape) := do
  let round ← g.roundParameters f tag
  let inRound := match round with
    | .parameters ps => ps
    | _ => []
  if round matches .unfit then return none
  let parameters := inRound ++ (← g.angleParameters f tag)
  let zoned? ← zonedType? tag
  let units? ← if tag == "INTERVAL" then spanUnits? else pure none
  if round matches .parameters _ && f.calls && zoned?.isNone then
    if (← glimpse g.string?).isNone then return none
  match units?, zoned? with
  | some units, _ => return some (.span units)
  | none, some zoned => return some (.known zoned parameters)
  | none, none =>
      if ← acceptWord "UNSIGNED" then
        return some (.known (← given (unsignedTypes.lookup tag)) parameters)
      else if tag == "NULLABLE" && parameters.isEmpty then return none
      else if nestedTypes.contains tag then return some (.nested tag parameters)
      else return some (.known tag parameters)

/-- A type.  Brackets that hold no parameters do not belong to it, and there is no type then. -/
def typeName? (f : TypeForm) : Reader (Option Tree) := do
  let start ← get
  let finish (shape : TypeShape) : Reader (Option Tree) := do
    let _ ← repeated do return if ← accept "LIST" then some () else none
    let shape ← g.arrays f.schema shape
    return some <| .node .type (shape.written g.dialect) <|
      if shape.hasParameters then [.leaf .other ""] else []
  match ← take? (·.isType) with
  | some t =>
      if t.isOneOf ["OBJECT IDENTIFIER", "PSEUDO TYPE"] then return some (.leaf .type t.upper)
      match ← g.knownType? f t.tag with
      | some shape => finish shape
      | none =>
          set start
          return none
  | none =>
      if !f.names then return none
      match ← g.name? false .plain with
      | none => return none
      | some name =>
          if !name.isName then return none
          let shape ← g.ownType name
          let meaning? ← g.meaning? shape
          match ← g.roundParameters f "", meaning? with
          | .unfit, _ =>
              set start
              return none
          | .absent, some type => finish (.own type.text [])
          | .absent, none => finish shape
          | .parameters ps, some type => finish (.own type.text ps)
          | .parameters ps, none => finish (shape.withParameters ps)

end Grammar

end SqlContract.Sql
