/-
Record types: the shapes of input and output records.

A record type takes mappings.  Keys that it does not declare are ignored, and a field that is left
out takes its default.  Fields whose names start with an underscore are private: they belong to no
mapping, and hold their default.  Some names every record keeps for itself.  Among these are the
configuration of its type, which is therefore no field, the keys beyond the declared ones, of which it
keeps none, and a hook that is called when a record is made.

* `FieldSpec`, `RecordType` — a declared field, and a record type;
* `RecordType.create`, `RecordType.validate`, `RecordType.read` — record types made, a value checked as a
  record, and what is read from a record;
* `checkMapping` — a value as a mapping from texts;
* `RecordType.library` — these as a library of records.
-/

import SqlContract.Validation.Library

set_option autoImplicit false
set_option relaxedAutoImplicit false

namespace SqlContract

open Checked

/-- One declared field of a record type. -/
structure FieldSpec where
  type : FieldType
  /-- Whether the field may be absent in value. -/
  nullable : Bool
  /-- The value of the field where it is left out; without one it may not be. -/
  default? : Option Value
  deriving Repr

namespace FieldSpec

/-- The type of a field as it is written. -/
def written (f : FieldSpec) : String :=
  ScalarType.orNone f.nullable f.type.written

/-- A value as a value of a field. -/
def checkValue (strict : Bool) (f : FieldSpec) (v : Value) : Checked Value :=
  match f.nullable, v with
  | true, .none => .ok .none
  | _, v => f.type.check strict v

/-- The field of a mapping at a name. -/
def check (strict : Bool) (entries : List (Value × Value)) (name : String) (f : FieldSpec) :
    Checked Value :=
  Checked.inside (.name name) <|
    match Value.entry? entries name, f.default? with
    | some v, _ => f.checkValue strict v
    | none, some v => .ok v
    | none, none => fail .missing

/-- A value `v` is one of the field, and is taken as `w`. -/
inductive Admits (f : FieldSpec) : Value → Value → Prop
  | absent : f.nullable = true → Admits f .none .none
  | value {v w : Value} : f.type.Admits v w → Admits f v w

end FieldSpec

/-- The shape of a record. -/
structure RecordType where
  name : String
  /-- The declared fields with their names, private ones included. -/
  declared : List (String × FieldSpec)
  /-- Whether values must be of the declared types already. -/
  strict : Bool
  deriving Repr

namespace RecordType

/-! ### Names of their own -/

/-- The name at which a record type keeps its configuration. -/
def configurationName : String := "model_config"

/-- The name at which a record keeps what it holds beyond its fields. -/
def surplusName : String := "model_extra"

/-- The name at which a record keeps which of its fields were given. -/
def givenName : String := "model_fields_set"

/-- The name of what is called when a record is made. -/
def hookName : String := "model_post_init"

/-- A former name of the configuration. -/
def settingsName : String := "Config"

/-- Names that no field may have, because every record answers to them. -/
def methods : List String :=
  ["model_dump", "model_dump_json", "model_validate", "model_validate_json",
   "model_validate_strings"]

/-- The names that records keep for themselves. -/
def keptNames : List String :=
  [configurationName, surplusName, givenName, hookName, settingsName] ++ methods ++
    ["model_fields", "model_computed_fields", "model_construct", "model_copy", "model_json_schema",
     "model_parametrized_name", "model_rebuild"]

/-! ### Checks -/

/-- The fields that records of the type have. -/
def fields (t : RecordType) : List (String × FieldSpec) :=
  t.declared.filter fun f => !isPrivateName f.1 && f.1 != configurationName

/-- The fields of a mapping as the fields of a record. -/
def checkFields (t : RecordType) (entries : List (Value × Value)) :
    Checked (List (String × Value)) :=
  all (t.fields.map fun f => (f.2.check t.strict entries f.1).map fun v => (f.1, v))

/-- The failure of a value with some problems. -/
def failure (title : String) (problems : List Problem) : RecordFailure :=
  .invalid problems s!"{problems.length} validation error(s) for {title}"

/-- The fields of a value as a record of the type.  A field at the name of the hook is called, which is
no use of a value. -/
def validate (t : RecordType) (v : Value) : Except RecordFailure (List (String × Value)) :=
  match v with
  | .dict entries => do
      let fields ← (t.checkFields entries).mapError (failure t.name)
      if t.fields.any (·.1 == hookName) then
        .error (.raised ⟨"TypeError", s!"the value of {hookName} is not callable"⟩)
      else .ok fields
  | _ => .error (failure t.name [⟨[], .modelType⟩])

/-- Makes a type of strict records.  Two settings cannot stand together, and no field may have the name
of a method. -/
def create (name : String) (declared : List (String × FieldSpec)) : Except Raised RecordType :=
  if declared.any (·.1 == settingsName) then
    .error ⟨"PydanticUserError", "\"Config\" and \"model_config\" cannot be used together"⟩
  else
    match declared.find? fun f => methods.contains f.1 with
    | some f => .error ⟨"NameError", s!"Field {f.1} conflicts with a member of every record"⟩
    | none => .ok ⟨name, declared, true⟩

/-! ### What is read -/

/-- The value of a private field. -/
def private? (t : RecordType) (name : String) : Option Value :=
  (t.declared.lookup name).bind (·.default?)

/-- The configuration of a record type, as records answer it. -/
def configuration (t : RecordType) : Value :=
  .dict [(.text "strict", .bool t.strict), (.text "extra", .text "ignore"),
    (.text "frozen", .bool true)]

/-- What is read at a name from the fields of a record of the type. -/
def read (t : RecordType) (record : List (String × Value)) (name : String) : Except Raised Value :=
  if name = configurationName then .ok t.configuration
  else if name = surplusName then .ok .none
  else if name = givenName then .ok (.list (record.map fun f => .text f.1))
  else
    match if isPrivateName name then t.private? name else record.lookup name with
    | some v => .ok v
    | none => .error ⟨"AttributeError", s!"{t.name} has no attribute {name}"⟩

end RecordType

/-- The fields of a record with what is read at their names. -/
def Record.seen (record : List (String × Value)) : List (String × Value) :=
  record.map fun f => if f.1 = RecordType.surplusName then (f.1, .none) else f

/-! ### Mappings -/

/-- The step to an entry of a mapping, by its key. -/
def Value.keyStep : Value → Step
  | .text s => .name s
  | v =>
      match v with
      | .bool b => .index (if b then 1 else 0)
      | .int n => if fitsWord n then .index n else .name v.shown
      | v => .name v.shown

/-- A key of a mapping as a text. -/
def checkKey (k : Value) : Checked Value :=
  Checked.inside k.keyStep (Checked.inside (.name "[key]") ((checkText false k).map .text))

/-- A value as a mapping from texts. -/
def checkMapping (v : Value) : Checked Value :=
  match v with
  | .dict entries =>
      (all (entries.map fun e => (checkKey e.1).map fun k => (k, e.2))).map fun es =>
        .dict (Entries.ofList es)
  | _ => fail .dictType

/-- Record types as a library of records. -/
@[reducible]
def RecordType.library : RecordLibrary where
  Field := FieldSpec
  Model := RecordType
  ofType t nullable := ⟨t, nullable, none⟩
  Admits := FieldSpec.Admits
  default? := FieldSpec.default?
  isKept name := keptNames.contains name
  create := create
  name := RecordType.name
  fieldNames t := t.fields.map (·.1)
  validate := validate
  read := read
  mapping v := (checkMapping v).mapError (failure "dict[str,any]")

end SqlContract
