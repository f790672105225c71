import SmartHome.Renames

/-!
# Which renamings last

The answer to a request to set a name always says that it worked. The name is kept, in
memory and over a restart, if somebody has the address and the name has no quote; in a
name with quotes in pairs each pair is stored as one quote, and a text that SQLite cannot
parse stores nothing.
-/

namespace SmartHome.DurableRenames

open SmartHome.Library.Bytes
open SmartHome.Library.CTypes
open SmartHome.Library.Decimal
open SmartHome.Library.MemoryCursor
open SmartHome.Library.QuotedLiterals
open SmartHome.Library.Runs
open SmartHome.Library.Tables
open SmartHome.Bytebuffer
open SmartHome.Registry
open SmartHome.PipeMessages
open SmartHome.Effects
open SmartHome.Encode
open SmartHome.Parse
open SmartHome.Receive
open SmartHome.EventRecvmsg
open SmartHome.CommandTranslation
open SmartHome.Sqlitedb
open SmartHome.RowColumns
open SmartHome.SameDevices
open SmartHome.Renames

set_option autoImplicit false

def Known (gw : Gateway) (ieee : UInt64) : Prop :=
  gw.gatewayid = ieee ∨ (gatewayGetdevice gw ieee).isSome = true

/-- The address has the name in memory and after a restart, and no other row has changed. -/
structure Renamed (before after : Stored) (ieee : UInt64) (name : CString maxnamelen) : Prop where
  known : Known before.state.gateway ieee
  memory : nameOf after.state.gateway ieee = some name
  restart : nameOf after.restarted ieee = some name
  gateways : ∀ key, (before.state.gateway.gatewayid = ieee → key ≠ bindKey ieee) →
    after.database.gateways.lookup key = before.database.gateways.lookup key
  devices : ∀ key, (before.state.gateway.gatewayid ≠ ieee → key ≠ bindKey ieee) →
    after.database.devices.lookup key = before.database.devices.lookup key

def ReportsSuccess (before after : Stored) : Prop :=
  ∃ frame, .broadcast frame ∈ newEffects before.state after.state ∧ feedbackResult frame = some 0

/-- A request that is answered with success has been carried out for good. -/
def Durable (before after : Stored) (ieee : UInt64) (name : CString maxnamelen) : Prop :=
  ReportsSuccess before after → Renamed before after ieee name

theorem cstring_ext {size : Nat} {string other : CString size} (same : string.text = other.text) :
    string = other := by
  cases string
  cases other
  cases same
  rfl

section Parsing

variable (stack : Vector UInt8 256) (name : CString maxnamelen)

theorem namelen_toNat : (UInt8.ofNat name.strlen).toNat = name.text.length := by
  have fits : name.text.length < 256 := name.fits
  rw [CString.strlen, UInt8.toNat_ofNat', Nat.mod_eq_of_lt fits]

theorem name_buffer_get (namelen : UInt8) (bytes : List UInt8) {index : Nat}
    (inside : index < 256) :
    (nameBuffer stack namelen bytes)[index] =
      if index < namelen.toNat then bytes.getD index 0
      else if index = namelen.toNat then 0
      else stack.get ⟨index, inside⟩ := by
  rw [nameBuffer, Vector.getElem_ofFn]

theorem name_buffer_text :
    upToNul (nameBuffer stack (UInt8.ofNat name.strlen) name.text).toList = name.text := by
  have length := namelen_toNat name
  have fits : name.text.length < 256 := name.fits
  apply up_to_nul_eq
  · apply List.ext_getElem
    · rw [List.length_take, Vector.length_toList]
      omega
    · intro index inTake inName
      have inside : index < 256 := inName.trans fits
      rw [List.getElem_take, Vector.getElem_toList, name_buffer_get stack _ _ inside, length,
        if_pos inName, List.getD_eq_getElem _ _ inName]
  · rw [Vector.getElem?_toList, Vector.getElem?_eq_getElem fits, name_buffer_get stack _ _ fits,
      length, if_neg (lt_irrefl _), if_pos rfl]
  · exact name.nonul

theorem parse_set_device_name {memory : Memory} {serialnum : UInt32} {ieee : UInt64}
    (held : Holds memory 5
      (bytebufferWritedword serialnum ++ (bytebufferWritequadword ieee ++ writeName name))) :
    ((protocolParseSetDeviceName stack).value memory).ieee = ieee ∧
      ((protocolParseSetDeviceName stack).value memory).text.text = name.text := by
  rw [holds_append, holds_append, writeName, holds_append] at held
  simp only [bytebuffer_writedword_length, bytebuffer_writequadword_length,
    bytebuffer_writebyte_length] at held
  rcases held with ⟨_, ieeeHeld, lengthHeld, nameHeld⟩
  have lengthRead : memory 17 = UInt8.ofNat name.strlen := lengthHeld.1
  have whole : bytebufferWritebytes name.text (UInt8.ofNat name.strlen).toNat = name.text := by
    rw [namelen_toNat, bytebufferWritebytes, List.take_length]
  rw [whole] at nameHeld
  have nameRead : readBytes memory 18 (memory 17).toNat = name.text := by
    rw [lengthRead, namelen_toNat]
    exact nameHeld.read
  constructor
  · change bytebufferGetquadword (readBytes memory 9 8) = ieee
    exact getquadword_held ieeeHeld
  · have array : ((protocolParseSetDeviceName stack).value memory).name =
        nameBuffer stack (memory 17) (readBytes memory 18 (memory 17).toNat) := rfl
    have seen : ∀ deviceName : SetDeviceName,
        deviceName.text.text = upToNul deviceName.name.toList := fun _ => rfl
    rw [seen, array, nameRead, lengthRead, name_buffer_text]

theorem encode_frame_get (id : UInt16) (front later : List UInt8) (byte : UInt8) :
    (encodeFrame id (front ++ byte :: later))[front.length + 5]? = some byte := by
  rw [encode_frame_eq, closeFrame, List.append_assoc, List.append_assoc,
    List.getElem?_append_right (by simp), header_length, Nat.add_sub_cancel, List.append_assoc,
    List.getElem?_append_right (Nat.le_refl _), Nat.sub_self]
  rfl

theorem feedback_result (deviceName : SetDeviceName) (result : UInt8) :
    feedbackResult (protocolEncodeSetNameFeedback deviceName result) = some result := by
  have front : (bytebufferWritedword deviceName.serialnum ++
      bytebufferWritequadword deviceName.ieee).length = 12 := by simp
  have cell := encode_frame_get deviceSetNameFeedback
    (bytebufferWritedword deviceName.serialnum ++ bytebufferWritequadword deviceName.ieee)
    (bytebufferWritebyte deviceName.namelen ++
      bytebufferWritebytes deviceName.name.toList deviceName.namelen.toNat) result
  rw [front] at cell
  rw [feedbackResult, protocolEncodeSetNameFeedback, List.append_assoc, List.append_assoc]
  exact cell

end Parsing

def withName (gw : Gateway) (ieee : UInt64) (name : CString maxnamelen) : Gateway :=
  if gw.gatewayid = ieee then { gw with gatewayname := name }
  else modifyDevice gw ieee fun d => { d with devicename := name }

def nameStatement (gw : Gateway) (ieee : UInt64) (name : List UInt8) : List UInt8 :=
  if gw.gatewayid = ieee then sqlUpdateGatewayname name ieee else sqlUpdateDevicename name ieee

theorem with_name_gatewayid (gw : Gateway) (ieee : UInt64) (name : CString maxnamelen) :
    (withName gw ieee name).gatewayid = gw.gatewayid := by
  unfold withName
  split_ifs
  · rfl
  · rfl

theorem name_of_with_name {gw : Gateway} {ieee : UInt64} (known : Known gw ieee)
    (name : CString maxnamelen) : nameOf (withName gw ieee name) ieee = some name := by
  rw [nameOf, with_name_gatewayid]
  split_ifs with own
  · rw [withName, if_pos own]
  · rcases known with same | found
    · exact absurd same own
    · rcases Option.isSome_iff_exists.mp found with ⟨d, here⟩
      have kept : ∀ d : Device, ({ d with devicename := name } : Device).ieeeaddr = d.ieeeaddr :=
        fun _ => rfl
      rw [withName, if_neg own, gateway_getdevice_modify _ _ _ kept, here]
      rfl

section Handling

variable (sqlite : Sqlite) (host : Host) (fd : Int) (s : Stored) (serialnum : UInt32) (ieee : UInt64)
  (name : CString maxnamelen)

/-- What a request does: the name in memory, the statement in the database, and a feedback that
reports success in any case. -/
structure Handled (s after : Stored) : Prop where
  gateway : after.state.gateway = withName s.state.gateway ieee name
  database : after.database =
    sqlite.exec (nameStatement s.state.gateway ieee name.text) s.database
  reports : ReportsSuccess s after

def afterHandler (state : MainState) : Stored :=
  ⟨state, (databaseCalls (newEffects s.state state)).foldl (runStatement sqlite state.gateway)
    s.database⟩

theorem handled_act {gateway : Gateway} {call : DatabaseCall} {deviceName : SetDeviceName}
    (named : gateway = withName s.state.gateway ieee name)
    (executed : runStatement sqlite gateway s.database call =
      sqlite.exec (nameStatement s.state.gateway ieee name.text) s.database) :
    Handled sqlite ieee name s
      (afterHandler sqlite s ((s.state.withGateway gateway).act
        [.database call, .broadcast (protocolEncodeSetNameFeedback deviceName 0)])) := by
  have effects : newEffects s.state ((s.state.withGateway gateway).act
      [.database call, .broadcast (protocolEncodeSetNameFeedback deviceName 0)]) =
      [.database call, .broadcast (protocolEncodeSetNameFeedback deviceName 0)] := List.drop_left
  refine ⟨named, ?_, _, ?_, feedback_result deviceName 0⟩
  · rw [afterHandler, effects]
    exact executed
  · rw [afterHandler, effects]
    exact List.mem_cons_of_mem _ List.mem_cons_self

theorem handle_set_device_name_eq (deviceName : SetDeviceName) :
    Handled sqlite deviceName.ieee deviceName.text s
      (afterHandler sqlite s
        (handleSetDeviceName (databaseHost sqlite s.database host) deviceName s.state)) := by
  by_cases own : s.state.gateway.gatewayid = deviceName.ieee
  · rw [handleSetDeviceName, if_pos own]
    apply handled_act
    · rw [withName, if_pos own]
      rfl
    · rw [nameStatement, if_pos own]
      rfl
  · rw [handleSetDeviceName, if_neg own]
    apply handled_act
    · rw [withName, if_neg own]
      rfl
    · rw [nameStatement, if_neg own]
      rfl

theorem received_eq :
    Handled sqlite ieee name s
      (s.received sqlite host fd (setNameFrame serialnum ieee name)) := by
  have fields := parse_set_device_name host.nameStack name
    (frame_fields_held (databaseHost sqlite s.database host) deviceSetName
      (bytebufferWritedword serialnum ++ (bytebufferWritequadword ieee ++ writeName name)))
  rw [← setNameFrame] at fields
  have handled := handle_set_device_name_eq sqlite host s
    ((protocolParseSetDeviceName host.nameStack).value
      (bufferMemory (databaseHost sqlite s.database host)
        (localBuffer (setNameFrame serialnum ieee name))))
  rw [fields.1, cstring_ext fields.2] at handled
  exact handled

end Handling

def storedName (gw : Gateway) (ieee : UInt64) (value : List UInt8) (database : Database) :
    Database :=
  if gw.gatewayid = ieee then database.nameGateway ieee value else database.nameDevice ieee value

section Rows

variable {s : Stored} {ieee : UInt64} {value : List UInt8}

theorem stored_name_gateways (key : Int)
    (other : s.state.gateway.gatewayid = ieee → key ≠ bindKey ieee) :
    (storedName s.state.gateway ieee value s.database).gateways.lookup key =
      s.database.gateways.lookup key := by
  unfold storedName
  split_ifs with own
  · rw [Database.nameGateway, lookup_update, text_key_eq, if_neg (other own)]
  · rfl

theorem stored_name_devices (key : Int)
    (other : s.state.gateway.gatewayid ≠ ieee → key ≠ bindKey ieee) :
    (storedName s.state.gateway ieee value s.database).devices.lookup key =
      s.database.devices.lookup key := by
  unfold storedName
  split_ifs with own
  · rfl
  · rw [Database.nameDevice, lookup_update, text_key_eq, if_neg (other own)]

/-- A start reads the value back. -/
theorem stored_name_loaded (running : Running s) (known : Known s.state.gateway ieee) :
    nameOf (mainLoad s.state.gateway.gatewayid
      (storedName s.state.gateway ieee value s.database)).1 ieee =
        some (nameColumn (some value)) := by
  unfold storedName
  split_ifs with own
  · have row := running.gateway
    rcases Option.isSome_iff_exists.mp row with ⟨old, found⟩
    rw [own] at found ⊢
    apply loaded_gateway_name
    rw [Database.nameGateway, text_key_eq, lookup_update, if_pos rfl, found]
    rfl
  · have device : (gatewayGetdevice s.state.gateway ieee).isSome = true :=
      known.resolve_left own
    rcases Option.isSome_iff_exists.mp (running.devices ieee device) with ⟨row, found⟩
    rw [loaded_device_name own]
    · rw [Database.nameDevice, text_key_eq, lookup_update, if_pos rfl, found]
      rfl
    · rw [Database.nameDevice, keys_update]
      exact running.keys

end Rows

theorem name_column_eq_iff {value : List UInt8} {name : CString maxnamelen} (nonul : 0 ∉ value)
    (fits : value.length ≤ 255) :
    nameColumn (some value) = name ↔ value = name.text := by
  have whole : nameColumn (some value) = ⟨value, nonul, Nat.lt_succ_of_le fits⟩ :=
    gettext_text ⟨value, nonul, Nat.lt_succ_of_le fits⟩
  rw [whole]
  constructor
  · intro same
    rw [← same]
  · intro same
    exact cstring_ext same

section Durability

variable {sqlite : Sqlite} {s : Stored} {ieee : UInt64} {name : CString maxnamelen}

theorem documented_literal (documented : Documented sqlite) {value : List UInt8}
    (meant : literalValue quote name.text = some value) (gw : Gateway) (database : Database) :
    sqlite.exec (nameStatement gw ieee name.text) database = storedName gw ieee value database := by
  unfold nameStatement storedName
  split_ifs
  · exact documented.gatewayname ieee database name.nonul meant
  · exact documented.devicename ieee database name.nonul meant

theorem Handled.restarted {after : Stored} (handled : Handled sqlite ieee name s after) :
    after.restarted = (mainLoad s.state.gateway.gatewayid after.database).1 := by
  rw [Stored.restarted, handled.gateway, with_name_gatewayid]

theorem literal_durable_iff (documented : Documented sqlite) (running : Running s)
    {after : Stored} (handled : Handled sqlite ieee name s after) {value : List UInt8}
    (meant : literalValue quote name.text = some value) :
    Durable s after ieee name ↔ Known s.state.gateway ieee ∧ quote ∉ name.text := by
  have database := handled.database.trans (documented_literal documented meant _ _)
  have nonul : (0 : UInt8) ∉ value := literal_value_subset meant (by decide) name.nonul
  have fits : value.length ≤ 255 :=
    (literal_value_length_le meant).trans (Nat.le_of_lt_succ name.fits)
  have restart : Known s.state.gateway ieee →
      (nameOf after.restarted ieee = some name ↔ quote ∉ name.text) := by
    intro known
    rw [handled.restarted, database, stored_name_loaded running known, Option.some.injEq,
      name_column_eq_iff nonul fits, literal_value_eq_iff meant]
  constructor
  · intro durable
    have renamed := durable handled.reports
    exact ⟨renamed.known, (restart renamed.known).mp renamed.restart⟩
  · rintro ⟨known, plain⟩ _
    refine ⟨known, ?_, (restart known).mpr plain, ?_, ?_⟩
    · rw [handled.gateway, name_of_with_name known]
    · intro key other
      rw [database, stored_name_gateways key other]
    · intro key other
      rw [database, stored_name_devices key other]

theorem unparsed_durable_iff (documented : Documented sqlite)
    {after : Stored} (handled : Handled sqlite ieee name s after)
    (unparsed : ¬sqlite.parses (nameStatement s.state.gateway ieee name.text)) :
    Durable s after ieee name ↔
      Known s.state.gateway ieee ∧ nameOf s.restarted ieee = some name := by
  have database : after.database = s.database :=
    handled.database.trans (documented.unparsed _ _ unparsed)
  have restart : after.restarted = s.restarted := by
    rw [handled.restarted, database, Stored.restarted]
  constructor
  · intro durable
    have renamed := durable handled.reports
    exact ⟨renamed.known, restart ▸ renamed.restart⟩
  · rintro ⟨known, same⟩ _
    refine ⟨known, ?_, restart ▸ same, ?_, ?_⟩
    · rw [handled.gateway, name_of_with_name known]
    · intro key _
      rw [database]
    · intro key _
      rw [database]

end Durability

/-- A renaming lasts only if somebody has the address. It does last if the name has no quote, and
not if its quotes come in pairs; a text that does not parse must have been the name before. -/
theorem durable_rename_iff {sqlite : Sqlite} (documented : Documented sqlite) (host : Host)
    (fd : Int)
    {s : Stored} (running : Running s) (serialnum : UInt32) (ieee : UInt64)
    (name : CString maxnamelen) :
    let after := s.received sqlite host fd (setNameFrame serialnum ieee name)
    (Durable s after ieee name → Known s.state.gateway ieee) ∧
      (quote ∉ name.text → (Durable s after ieee name ↔ Known s.state.gateway ieee)) ∧
      (∀ value, literalValue quote name.text = some value →
        (Durable s after ieee name ↔ Known s.state.gateway ieee ∧ quote ∉ name.text)) ∧
      (¬sqlite.parses (nameStatement s.state.gateway ieee name.text) →
        (Durable s after ieee name ↔
          Known s.state.gateway ieee ∧ nameOf s.restarted ieee = some name)) := by
  intro after
  have handled : Handled sqlite ieee name s after := received_eq sqlite host fd s serialnum ieee name
  refine ⟨?_, ?_, ?_, ?_⟩
  · intro durable
    exact (durable handled.reports).known
  · intro plain
    have whole := literal_durable_iff documented running handled (literal_value_plain plain)
    rw [whole, and_iff_left plain]
  · intro value meant
    exact literal_durable_iff documented running handled meant
  · intro unparsed
    exact unparsed_durable_iff documented handled unparsed

section Updates

def readUpdate (front middle text : List UInt8) : Option (List UInt8 × Int) :=
  ((front.isPrefixOf? text).bind (readLiteral quote)).bind fun name =>
    ((middle.isPrefixOf? name.2).bind (readLiteral quote)).bind fun key =>
      if key.2 = [] then some (name.1, readDecimal (key.1.map fun byte => Char.ofNat byte.toNat))
      else none

def readDeviceUpdate (text : List UInt8) : Option (List UInt8 × Int) :=
  readUpdate (sqlText "update device set name='") (sqlText " where ieee='") text

def readGatewayUpdate (text : List UInt8) : Option (List UInt8 × Int) :=
  readUpdate (sqlText "update gateway set name='") (sqlText " where mac='") text

/-- As much of SQLite as the two statements need. -/
def updates : Sqlite where
  parses text := (readDeviceUpdate text).isSome = true ∨ (readGatewayUpdate text).isSome = true
  exec text database :=
    match readDeviceUpdate text, readGatewayUpdate text with
    | some (value, key), _ =>
        { database with
          devices := database.devices.update key fun row => { row with name := some value } }
    | none, some (value, key) =>
        { database with gateways := database.gateways.update key fun _ => some value }
    | none, none => database

theorem prefix_of_append {Symbol : Type*} [DecidableEq Symbol] (front rest : List Symbol) :
    front.isPrefixOf? (front ++ rest) = some rest := by
  induction front with
  | nil => rfl
  | cons symbol front induction =>
      rw [List.cons_append, List.isPrefixOf?, if_pos (beq_self_eq_true symbol), induction]

theorem long_long_chars (ieee : UInt64) :
    (longLong ieee).map (fun byte => Char.ofNat byte.toNat) = printDecimal ieee.toInt64.toInt := by
  rw [longLong, List.map_map]
  have kept : ∀ c ∈ printDecimal ieee.toInt64.toInt,
      Char.ofNat (UInt8.ofNat c.toNat).toNat = c := by
    intro c inside
    have range := print_decimal_char inside
    rw [UInt8.toNat_ofNat', Nat.mod_eq_of_lt (by omega), Char.ofNat_toNat]
  exact (List.map_congr_left kept).trans (List.map_id _)

theorem quote_not_mem_long_long (ieee : UInt64) : quote ∉ longLong ieee := by
  intro member
  rcases List.mem_map.mp member with ⟨c, inside, same⟩
  have range := print_decimal_char inside
  have number := congrArg UInt8.toNat same
  rw [UInt8.toNat_ofNat', Nat.mod_eq_of_lt (by omega)] at number
  have quoteNumber : quote.toNat = 39 := rfl
  omega

theorem read_update_eq {front middle name value : List UInt8} (ieee : UInt64)
    (meant : literalValue quote name = some value) (space : middle.head? = some 0x20) :
    readUpdate front middle (front ++ (name ++ (quote :: middle ++ (longLong ieee ++ [quote])))) =
      some (value, bindKey ieee) := by
  have behind : ∀ symbol ∈ (middle ++ (longLong ieee ++ [quote])).head?, symbol ≠ quote := by
    intro symbol first
    rw [List.head?_append, space, Option.some_or, Option.mem_some_iff] at first
    exact first ▸ by decide
  have name_ := read_literal_append behind (literal_value_eq_some.mp meant)
  have key : readLiteral quote (longLong ieee ++ [quote]) = some (longLong ieee, []) := by
    apply literal_value_eq_some.mp
    exact literal_value_plain (quote_not_mem_long_long ieee)
  have layout : name ++ (quote :: middle ++ (longLong ieee ++ [quote])) =
      name ++ [quote] ++ (middle ++ (longLong ieee ++ [quote])) := by
    simp
  rw [readUpdate, prefix_of_append, layout, Option.bind_some, name_, Option.bind_some,
    prefix_of_append, Option.bind_some, key, Option.bind_some, if_pos rfl, long_long_chars,
    read_print_decimal]
  rfl

theorem updates_documented : Documented updates := by
  constructor
  · intro text database unparsed
    rcases not_or.mp unparsed with ⟨noDevice, noGateway⟩
    rw [Bool.not_eq_true, Option.isSome_eq_false_iff, Option.isNone_iff_eq_none] at noDevice noGateway
    simp only [updates, noDevice, noGateway]
  · intro name value ieee database _ meant
    have read : readDeviceUpdate (sqlUpdateDevicename name ieee) = some (value, bindKey ieee) :=
      read_update_eq ieee meant rfl
    simp only [updates, read, Database.nameDevice, text_key_eq]
  · intro name value mac database _ meant
    have read : readGatewayUpdate (sqlUpdateGatewayname name mac) = some (value, bindKey mac) :=
      read_update_eq mac meant rfl
    have other : readDeviceUpdate (sqlUpdateGatewayname name mac) = none := rfl
    simp only [updates, read, other, Database.nameGateway, text_key_eq]

end Updates

/-- "lamp" and "it''s" -/
def lamp : CString maxnamelen := ⟨[0x6C, 0x61, 0x6D, 0x70], by decide, by decide⟩

def its : CString maxnamelen := ⟨[0x69, 0x74, 0x27, 0x27, 0x73], by decide, by decide⟩

/-- A device that has just joined is renamed for good. -/
theorem durable_rename_iff_lamp :
    ∃ s : Stored, Known s.state.gateway 0x00137A00000156D3 ∧
      Durable s (s.received updates quietHost 5 (setNameFrame 1 0x00137A00000156D3 lamp))
        0x00137A00000156D3 lamp := by
  have fresh : System.Fresh ⟨{ twoContacts with devices := [] }, .empty⟩ := ⟨rfl, rfl⟩
  have announced : MembershipEvent (.input (.announce ⟨1, 1, 0x00137A00000156D3⟩)) := trivial
  obtain ⟨joined, reachable, present⟩ : ∃ joined : System.GatewayState,
      Reachable System.step
          (fun s event => MembershipEvent event ∧ System.QuoteFree s.gateway event) System.Fresh
          joined ∧
        (gatewayGetdevice joined.gateway 0x00137A00000156D3).isSome = true :=
    ⟨_, .step (.start fresh) ⟨announced, by decide +kernel⟩ rfl, rfl⟩
  have row := main_load_gateway_row joined.gateway.gatewayid ⟨.empty, .empty⟩
  have running := reachable_running reachable 0 [] row
  have renamed := durable_rename_iff updates_documented quietHost 5 running 1 0x00137A00000156D3 lamp
  exact ⟨_, .inr present, (renamed.2.1 (by decide)).mpr (.inr present)⟩

def lonely : Stored where
  state := stateOf { twoContacts with devices := [] }
  database :=
    { gateways := KeyedTable.empty.insert (bindKey twoContacts.gatewayid) (some lamp.text)
      devices := .empty }

theorem lonely_running : Running lonely := by
  refine ⟨rfl, ?_, ?_⟩
  · intro ieee found
    cases found
  · intro key member
    cases member

/-- The name of an unknown device, and a name of the gateway with a pair of quotes, are reported as
set and are lost. -/
theorem renamings_lost :
    ∃ s : Stored, Running s ∧
      ¬Durable s (s.received updates quietHost 5 (setNameFrame 1 7 lamp)) 7 lamp ∧
      ¬Durable s (s.received updates quietHost 5 (setNameFrame 1 s.state.gateway.gatewayid its))
        s.state.gateway.gatewayid its := by
  refine ⟨lonely, lonely_running, ?_, ?_⟩
  · intro durable
    have handled := received_eq updates quietHost 5 lonely 1 7 lamp
    rcases (durable handled.reports).known with own | device
    · exact absurd own (by decide)
    · cases device
  · intro durable
    have handled := received_eq updates quietHost 5 lonely 1 lonely.state.gateway.gatewayid its
    have meant : literalValue quote its.text = some [0x69, 0x74, 0x27, 0x73] := by decide
    have plain := (literal_durable_iff updates_documented lonely_running handled meant).mp durable
    exact plain.2 (by decide)

end SmartHome.DurableRenames
