import HotelBooking.Config.Folder
import HotelBooking.Config.Layer
import HotelBooking.Gateway.Operations

/-!
# The settings of the platform

Where the gateway and the services listen, how the gateway reaches the services and works,
and where the services keep their rows. Settings are read from one text or from files and
the environment in layers. A group of settings is a table, or a list of them in the order
given here; in a list only what has a default may be missing, and only at the end.
-/

namespace HotelBooking

/-- Where a server listens. -/
structure Address where
  host : String
  number : UInt16
  deriving DecidableEq, Inhabited

def Address.text (a : Address) : String :=
  a.host ++ ":" ++ Decimal.ofNat a.number.toNat

/-- How the gateway reaches the services. -/
structure ServiceUrls where
  reservation : String
  payment : String
  loyalty : String
  /-- After how many milliseconds a call is given up. -/
  timeout : Option UInt64
  deriving DecidableEq, Inhabited

structure GatewaySettings where
  address : Address
  fetchConcurrency : UInt64
  compensateFailedSagas : Bool
  services : ServiceUrls
  deriving DecidableEq, Inhabited

/-- At least one lookup is in flight. -/
def GatewaySettings.options (g : GatewaySettings) : GatewayOptions :=
  { fetchConcurrency := max g.fetchConcurrency.toNat 1
    compensateFailedSagas := g.compensateFailedSagas }

structure ServiceSettings where
  address : Address
  /-- Without a database the rows are kept in memory. -/
  database : Option String
  maxConnections : UInt32
  /-- Whether the tables are set up at the start. -/
  setsUpTables : Bool
  deriving DecidableEq, Inhabited

structure Settings where
  gateway : GatewaySettings
  reservation : ServiceSettings
  payment : ServiceSettings
  loyalty : ServiceSettings
  deriving DecidableEq, Inhabited

namespace Config

/-! ## Groups of settings -/

variable {α : Type}

/-- A member of a group, absent when it is not given. -/
def member (group : Value) (i : Nat) (name : String) : Option (Option Value) :=
  match group with
  | .table es => some (es.lookup name)
  | .list vs => some vs[i]?
  | _ => none

def required (group : Value) (i : Nat) (name : String) (read : Value → Option α) :
    Option α := do
  read (← (← member group i name))

def defaulted (group : Value) (i : Nat) (name : String) (read : Value → Option α) (a : α) :
    Option α := do
  match ← member group i name with
  | some v => read v
  | none => return a

/-- A member without which a table does. -/
def voluntary (group : Value) (i : Nat) (name : String) (read : Value → Option α) :
    Option (Option α) := do
  match ← member group i name, group with
  | some .null, _ => return none
  | some v, _ => return some (← read v)
  | none, .table _ => return none
  | none, _ => failure

def uint16? (v : Value) : Option UInt16 :=
  (v.nat? (UInt16.size - 1)).map UInt16.ofNat

def uint32? (v : Value) : Option UInt32 :=
  (v.nat? (UInt32.size - 1)).map UInt32.ofNat

def uint64? (v : Value) : Option UInt64 :=
  (v.nat? (UInt64.size - 1)).map UInt64.ofNat

def address? (group : Value) : Option Address := do
  let host ← required group 0 "host" Value.text?
  let number ← required group 1 "port" uint16?
  return { host, number }

def serviceUrls? (group : Value) : Option ServiceUrls := do
  let reservation ← required group 0 "reservation_url" Value.text?
  let payment ← required group 1 "payment_url" Value.text?
  let loyalty ← required group 2 "loyalty_url" Value.text?
  let timeout ← voluntary group 3 "timeout_ms" uint64?
  return { reservation, payment, loyalty, timeout }

def gateway? (group : Value) : Option GatewaySettings := do
  let address ← address? group
  let fetchConcurrency ← defaulted group 2 "fetch_concurrency" uint64? 1
  let compensateFailedSagas ← defaulted group 3 "compensate_failed_sagas" Value.bool? false
  let services ← required group 4 "upstream" serviceUrls?
  return { address, fetchConcurrency, compensateFailedSagas, services }

def service? (group : Value) : Option ServiceSettings := do
  let address ← address? group
  let database ← voluntary group 2 "database_url" Value.text?
  let maxConnections ← defaulted group 3 "max_connections" uint32? 5
  let setsUpTables ← defaulted group 4 "run_migrations" Value.bool? true
  return { address, database, maxConnections, setsUpTables }

end Config

namespace Settings

open Config

def ofValue? (v : Value) : Option Settings := do
  let gateway ← required v 0 "gateway" gateway?
  let reservation ← required v 1 "reservation" service?
  let payment ← required v 2 "payment" service?
  let loyalty ← required v 3 "loyalty" service?
  return { gateway, reservation, payment, loyalty }

/-- The settings that a text gives on its own. -/
def ofToml? (s : String) : Option Settings := do
  let v ← Toml.read? s
  ofValue? (Value.overlay v.entries (.table []))

/-- The table that the text of a file describes. -/
def ofFile? (text : String) : Option Value :=
  Toml.read? (String.ofList (Text.unmarked text.toList))

/--
The settings of the default file, the file of the mode that the program runs in, the local
file and the environment, each layer over the ones before. Only the first file has to be
there, but one that is there has to be readable.
-/
def load? (folder : Folder) (environment : List (String × String)) : Option Settings := do
  let mode := (environment.lookup "RUN_MODE").getD "development"
  let first ← folder.find? "default"
  let further := [folder.find? mode, folder.find? "local"].filterMap id
  let layers ← (first :: further).mapM ofFile?
  let v := layers.foldl (fun base v => Value.overlay v.entries base) (.table [])
  ofValue? (Value.overlay (ofEnvironment environment) v)

end Settings

end HotelBooking
