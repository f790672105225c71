import SmartHome.CommandTranslation
import SmartHome.Library.QuotedLiterals
import SmartHome.RowColumns
import SmartHome.SameDevices

/-!
# Renaming

The two statements that write a name, as the texts that `sprintf` makes of them: the
name stands between quotes as it is, and both functions return zero whatever becomes of
the statement. What SQLite does with a text is a parameter here. The gateway's own name
lies in a table of its own, and the start of the program reads both tables.
-/

namespace SmartHome.Renames

open SmartHome.Library.CTypes
open SmartHome.Library.Decimal
open SmartHome.Library.Mirroring
open SmartHome.Library.QuotedLiterals
open SmartHome.Library.Runs
open SmartHome.Library.Tables
open SmartHome.Bytebuffer
open SmartHome.Registry
open SmartHome.Effects
open SmartHome.Encode
open SmartHome.Receive
open SmartHome.EventRecvmsg
open SmartHome.CommandTranslation
open SmartHome.EndpointBlob
open SmartHome.Sqlitedb
open SmartHome.BlobUpdates
open SmartHome.StepCases
open SmartHome.RowColumns
open SmartHome.SameDevices

set_option autoImplicit false

def sqlText (text : String) : List UInt8 := text.toList.map fun c => UInt8.ofNat c.toNat

def longLong (ieee : UInt64) : List UInt8 :=
  (printDecimal ieee.toInt64.toInt).map fun c => UInt8.ofNat c.toNat

def sqlUpdateDevicename (name : List UInt8) (ieee : UInt64) : List UInt8 :=
  sqlText "update device set name='" ++
    (name ++ (sqlText "' where ieee='" ++ (longLong ieee ++ sqlText "'")))

def sqlUpdateGatewayname (name : List UInt8) (mac : UInt64) : List UInt8 :=
  sqlText "update gateway set name='" ++
    (name ++ (sqlText "' where mac='" ++ (longLong mac ++ sqlText "'")))

/-- The gateway's table has a name for each id; a column that is `NULL` is `none`. -/
structure Database where
  gateways : KeyedTable Int (Option (List UInt8))
  devices : DeviceTable

def Database.nameGateway (database : Database) (mac : UInt64) (name : List UInt8) : Database :=
  { database with gateways := database.gateways.update (textKey mac) fun _ => some name }

def Database.nameDevice (database : Database) (ieee : UInt64) (name : List UInt8) : Database :=
  { database with
    devices := database.devices.update (textKey ieee) fun row => { row with name := some name } }

/-- The texts that SQLite can parse, and what `sqlite3_exec` does with a text. -/
structure Sqlite where
  parses : List UInt8 → Prop
  exec : List UInt8 → Database → Database

/-- A text that does not parse has no effect; an update whose literal ends where it should writes
what the literal says. The text itself ends at a NUL. -/
structure Documented (sqlite : Sqlite) : Prop where
  unparsed : ∀ text database, ¬sqlite.parses text → sqlite.exec text database = database
  devicename : ∀ {name value} ieee database, 0 ∉ name → literalValue quote name = some value →
    sqlite.exec (sqlUpdateDevicename name ieee) database = database.nameDevice ieee value
  gatewayname : ∀ {name value} mac database, 0 ∉ name → literalValue quote name = some value →
    sqlite.exec (sqlUpdateGatewayname name mac) database = database.nameGateway mac value

/-- The result does not depend on what `sqlite3_exec` returns. -/
def sqlitedbUpdateDevicename (sqlite : Sqlite) (ieee : UInt64) (name : List UInt8)
    (database : Database) : UInt8 × Database :=
  (0, sqlite.exec (sqlUpdateDevicename name ieee) database)

def sqlitedbUpdateGatewayname (sqlite : Sqlite) (mac : UInt64) (name : List UInt8)
    (database : Database) : UInt8 × Database :=
  (0, sqlite.exec (sqlUpdateGatewayname name mac) database)

/-- A name column as both loads read it. -/
def nameColumn (name : Option (List UInt8)) : CString maxnamelen := sqlite3Gettext 255 name

def sqlitedbLoadGatewayName (database : Database) (mac : UInt64) : Option (CString maxnamelen) :=
  (database.gateways.lookup (textKey mac)).map nameColumn

/-- "网关" -/
def unnamedGateway : CString maxnamelen :=
  ⟨[0xe7, 0xbd, 0x91, 0xe5, 0x85, 0xb3], by decide, by decide⟩

def sqlitedbAddGateway (mac : UInt64) (name : List UInt8) (database : Database) : Database :=
  { database with gateways := database.gateways.insert (textKey mac) (some name) }

def gatewayInit (gatewayid : UInt64) (gatewayname : CString maxnamelen)
    (boxversion protocolversion : UInt8) : Gateway where
  gatewayid
  gatewayname
  boxversion
  protocolversion
  devices := []

/-- What `main` does with the database before anything else runs. -/
def mainLoad (mac : UInt64) (database : Database) : Gateway × Database :=
  match sqlitedbLoadGatewayName database mac with
  | some name => (sqlitedbLoadDevice database.devices (gatewayInit mac name 1 1), database)
  | none =>
      let database := sqlitedbAddGateway mac unnamedGateway.text database
      (sqlitedbLoadDevice database.devices (gatewayInit mac unnamedGateway 1 1), database)

structure Stored where
  state : MainState
  database : Database

def Stored.restarted (s : Stored) : Gateway :=
  (mainLoad s.state.gateway.gatewayid s.database).1

def databaseHost (sqlite : Sqlite) (database : Database) (host : Host) : Host :=
  { host with
    sqlitedbUpdateGatewayname := fun mac name =>
      (sqlitedbUpdateGatewayname sqlite mac name database).1
    sqlitedbUpdateDevicename := fun ieee name =>
      (sqlitedbUpdateDevicename sqlite ieee name database).1 }

/-- All but the two calls for names work on the device table. -/
def runStatement (sqlite : Sqlite) (gw : Gateway) (database : Database) : DatabaseCall → Database
  | .updateGatewayname mac name => (sqlitedbUpdateGatewayname sqlite mac name database).2
  | .updateDevicename ieee name => (sqlitedbUpdateDevicename sqlite ieee name database).2
  | call => { database with devices := runCall gw database.devices call }

def setNameFrame (serialnum : UInt32) (ieee : UInt64) (name : CString maxnamelen) : List UInt8 :=
  encodeFrame deviceSetName
    (bytebufferWritedword serialnum ++ (bytebufferWritequadword ieee ++ writeName name))

def Stored.received (sqlite : Sqlite) (host : Host) (fd : Int) (frame : List UInt8) (s : Stored) :
    Stored :=
  let state := eventSwitch (databaseHost sqlite s.database host) fd deviceSetName
    (UInt32.ofNat frame.length) (localBuffer frame) s.state
  ⟨state, (databaseCalls (newEffects s.state state)).foldl (runStatement sqlite state.gateway)
    s.database⟩

/-- The result byte of a feedback frame, behind serial number and address. -/
def feedbackResult (frame : List UInt8) : Option UInt8 := frame[17]?

/-- The name in memory under an address, the gateway's own address before the devices'. -/
def nameOf (gw : Gateway) (ieee : UInt64) : Option (CString maxnamelen) :=
  if gw.gatewayid = ieee then some gw.gatewayname
  else (gatewayGetdevice gw ieee).map (·.devicename)

/-- The gateway has a row, each device has one, and a key is the number of an address. -/
structure Running (s : Stored) : Prop where
  gateway : (s.database.gateways.lookup (bindKey s.state.gateway.gatewayid)).isSome = true
  devices : ∀ ieee, (gatewayGetdevice s.state.gateway ieee).isSome = true →
    (s.database.devices.lookup (bindKey ieee)).isSome = true
  keys : ∀ key ∈ s.database.devices.keys, ∃ ieee, key = bindKey ieee

theorem main_load_gateway_row (mac : UInt64) (database : Database) :
    ((mainLoad mac database).2.gateways.lookup (bindKey mac)).isSome = true := by
  rw [mainLoad, sqlitedbLoadGatewayName, text_key_eq]
  cases found : database.gateways.lookup (bindKey mac) with
  | none =>
      have inserted := lookup_insert (some unnamedGateway.text) found (bindKey mac)
      rw [if_pos rfl] at inserted
      change ((database.gateways.insert (textKey mac) _).lookup (bindKey mac)).isSome = true
      rw [text_key_eq, inserted]
      rfl
  | some name =>
      change (database.gateways.lookup (bindKey mac)).isSome = true
      rw [found]
      rfl

/-- Registry and device table stay in step in every run without quotes in its statements, and none but
the two of this module touches the gateway's row. -/
theorem reachable_running {allowed : System.GatewayState → System.Event → Prop}
    {s : System.GatewayState}
    (reachable : Reachable System.step
      (fun s event => allowed s event ∧ System.QuoteFree s.gateway event) System.Fresh s)
    (loginTime : Int) (effects : List Effect)
    {gateways : KeyedTable Int (Option (List UInt8))}
    (gateway : (gateways.lookup (bindKey s.gateway.gatewayid)).isSome = true) :
    Running ⟨⟨s.gateway, loginTime, effects⟩, ⟨gateways, s.table⟩⟩ := by
  have mirrored := reachable_mirrors reachable
  refine ⟨gateway, ?_, ?_⟩
  · intro ieee found
    rw [← find_device_key] at found
    rw [← Option.ne_none_iff_isSome] at found ⊢
    exact fun missing => found ((mirrored.absent_iff _).mpr missing)
  · intro key member
    have inMemory := (mirrored.mem_keys_iff key).mpr member
    rcases List.mem_map.mp inMemory with ⟨d, _, same⟩
    exact ⟨d.ieeeaddr, same.symm⟩

section Load

variable {database : Database} {ieee : UInt64}

theorem find_load_row {rows : List (Int × DeviceRow)}
    (keys : ∀ row ∈ rows, ∃ ieee, row.1 = bindKey ieee) :
    (rows.map loadRow).find? (·.ieeeaddr = ieee) =
      (lookupRow (bindKey ieee) rows).map fun row => loadRow (bindKey ieee, row) := by
  induction rows with
  | nil => rfl
  | cons row rows induction =>
      rcases List.forall_mem_cons.mp keys with ⟨⟨other, key⟩, later⟩
      have address : (loadRow row).ieeeaddr = other := by
        rw [load_row_ieeeaddr, key, of_int_bind_key]
      rw [List.map_cons, lookupRow, key]
      by_cases here : other = ieee
      · rw [if_pos (bind_key_inj.mpr here), List.find?_cons_of_pos]
        · rw [Option.map_some, ← here, ← key]
        · exact decide_eq_true (address.trans here)
      · rw [if_neg (fun same => here (bind_key_inj.mp same)), List.find?_cons_of_neg]
        · exact induction later
        · rw [address]
          exact fun same => here (of_decide_eq_true same)

/-- Whatever name is found, the devices are those of the rows. -/
theorem main_load_eq (mac : UInt64) (database : Database) :
    ∃ name, (mainLoad mac database).1 =
      { gatewayInit mac name 1 1 with devices := database.devices.rows.map loadRow } := by
  unfold mainLoad
  split
  · exact ⟨_, sqlitedb_load_device_eq _ _⟩
  · exact ⟨_, sqlitedb_load_device_eq _ _⟩

theorem main_load_devices (mac : UInt64) (database : Database) :
    (mainLoad mac database).1.devices = database.devices.rows.map loadRow := by
  rcases main_load_eq mac database with ⟨name, loaded⟩
  rw [loaded]

theorem main_load_gatewayid (mac : UInt64) (database : Database) :
    (mainLoad mac database).1.gatewayid = mac := by
  rcases main_load_eq mac database with ⟨name, loaded⟩
  rw [loaded]
  rfl

theorem main_load_gatewayname {mac : UInt64} {name : Option (List UInt8)}
    (found : database.gateways.lookup (bindKey mac) = some name) :
    (mainLoad mac database).1.gatewayname = nameColumn name := by
  have loaded : sqlitedbLoadGatewayName database mac = some (nameColumn name) := by
    rw [sqlitedbLoadGatewayName, text_key_eq, found]
    rfl
  rw [mainLoad, loaded]
  dsimp only
  rw [sqlitedb_load_device_eq]
  rfl

theorem loaded_gateway_name {mac : UInt64} {name : Option (List UInt8)}
    (found : database.gateways.lookup (bindKey mac) = some name) :
    nameOf (mainLoad mac database).1 mac = some (nameColumn name) := by
  rw [nameOf, if_pos (main_load_gatewayid mac database), main_load_gatewayname found]

theorem loaded_device_name {mac : UInt64} (other : mac ≠ ieee)
    (keys : ∀ key ∈ database.devices.keys, ∃ ieee, key = bindKey ieee) :
    nameOf (mainLoad mac database).1 ieee =
      (database.devices.lookup (bindKey ieee)).map fun row => nameColumn row.name := by
  have rowKeys : ∀ row ∈ database.devices.rows, ∃ ieee, row.1 = bindKey ieee := by
    intro row member
    exact keys row.1 (List.mem_map_of_mem member)
  have named : ∀ row, (loadRow (bindKey ieee, row)).devicename = nameColumn row.name := by
    intro row
    exact congrArg Columns.devicename (load_row_columns (bindKey ieee) row).1
  rw [nameOf, main_load_gatewayid, if_neg other, gatewayGetdevice, main_load_devices,
    find_load_row rowKeys, Option.map_map, KeyedTable.lookup]
  congr 1
  funext row
  exact named row

end Load

end SmartHome.Renames
