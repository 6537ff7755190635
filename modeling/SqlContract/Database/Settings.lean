/-
Settings of a connection.

* `databaseUri` — the address of a database, from parts that may be absent;
* `ConnectionSettings` — the settings, with `uri` and `conninfo`, the two forms drivers take;
* `ConnectionSettings.ofValue`, `ofEnvironment` — settings from a value and from an environment;
* `ConnectionSettings.request` — what is asked of a driver that connects.
-/

import SqlContract.Database.Access
import SqlContract.Validation.Shape

set_option autoImplicit false
set_option relaxedAutoImplicit false

namespace SqlContract

/-- The driver that is named in an address, unless another is asked for. -/
def defaultDriver : String := "postgresql+psycopg"

/-- The host of a database, unless another is asked for. -/
def defaultHost : String := "localhost"

/-- The port of a database, unless another is asked for. -/
def defaultPort : Int := 5432

/-- The name of a database, unless another is asked for. -/
def defaultDatabase : String := "postgres"

/-- The parts of the address of a database.  Absent parts but the first two have defaults. -/
structure AddressParts where
  username : Value
  password : Value
  driver : Value := .none
  host : Value := .none
  port : Value := .none
  database : Value := .none
  deriving Repr

/-- A value as a part of a text: a text as it is, and any other value as messages show it. -/
def Value.asPart : Value → String
  | .text s => s
  | v => v.shown

/-- A value as a part of a text, or a default where it is absent. -/
def Value.asPartOr (default : String) : Value → String
  | .none => default
  | v => v.asPart

/-- The address of a database.  Its parts are written as they are, without escapes. -/
def databaseUri (p : AddressParts) : String :=
  p.driver.asPartOr defaultDriver ++ "://" ++ p.username.asPart ++ ":" ++ p.password.asPart ++ "@" ++
    p.host.asPartOr defaultHost ++ ":" ++ p.port.asPartOr (toString defaultPort) ++ "/" ++
    p.database.asPartOr defaultDatabase

/-- The settings of a connection. -/
structure ConnectionSettings where
  username : String
  password : String
  host : String := defaultHost
  port : Int := defaultPort
  database : String := defaultDatabase
  driver : String := defaultDriver
  deriving DecidableEq, Repr

/-- What is asked of a driver that connects. -/
structure ConnectionRequest where
  conninfo : String
  autocommit : Bool
  deriving DecidableEq, Repr

namespace ConnectionSettings

open Checked in
/-- Settings from a value. -/
def ofValue : Value → Checked ConnectionSettings :=
  checkShape fun es =>
    let read := both ConnectionSettings.mk (required es "username" (checkText false))
      (required es "password" (checkText false))
    let read := seq read (defaulted es "host" defaultHost (checkText false))
    let read := seq read (defaulted es "port" defaultPort (checkInt false))
    let read := seq read (defaulted es "database" defaultDatabase (checkText false))
    seq read (defaulted es "driver" defaultDriver (checkText false))

/-- The lead of the names of environment variables, unless another is asked for. -/
def defaultLead : String := "TYPEDSQL_PG_"

/-- The settings that an environment may give. -/
def environmentKeys : List String :=
  ["username", "password", "host", "port", "database"]

/-- Settings from the variables of an environment: each is named by a lead and the setting in upper
case. -/
def ofEnvironment (lead : String) (env : List (String × String)) : Checked ConnectionSettings :=
  ofValue <| .dict <| environmentKeys.filterMap fun key =>
    (env.lookup (lead ++ upperCase key)).map fun s => (.text key, .text s)

/-- The address of the database. -/
def uri (s : ConnectionSettings) : String :=
  databaseUri
    ⟨.text s.username, .text s.password, .text s.driver, .text s.host, .int s.port, .text s.database⟩

/-- The settings as words that the remote engine's driver takes. -/
def conninfo (s : ConnectionSettings) : String :=
  s!"host={s.host} port={s.port} user={s.username} password={s.password} dbname={s.database}"

/-- What is asked of the driver for a connection. -/
def request (s : ConnectionSettings) (autocommit : Bool) : ConnectionRequest :=
  ⟨s.conninfo, autocommit⟩

/-- The outcome of a request that the driver grants or refuses. -/
def connect (accepted : Bool) : Except AccessError Unit :=
  if accepted then .ok () else .error .unreachable

end ConnectionSettings

/-- What an engine is created for: an address, or settings that give one. -/
inductive EngineTarget
  | address (uri : String)
  | settings (s : ConnectionSettings)
  deriving DecidableEq, Repr

/-- The address of a target. -/
def EngineTarget.uri : EngineTarget → String
  | .address uri => uri
  | .settings s => s.uri

end SqlContract
