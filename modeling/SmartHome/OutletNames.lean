import SmartHome.BasicAttributes

/-!
# Names of outlets

An outlet that has no name gets one by its model when it reports its basic attributes.
The model text comes from the device and is cut by `strtok_r`; the first endpoint is taken from a
list that discovery may not have filled yet; and the name is copied over the old bytes of the
name array without its NUL. `NamesOutlet` is what the naming is to do, `Nameable` says when it does.
-/

namespace SmartHome.OutletNames

open SmartHome.Library.Bytes
open SmartHome.Library.CTypes
open SmartHome.Library.Decimal
open SmartHome.Registry
open SmartHome.Effects
open SmartHome.EventRecvznp
open SmartHome.DeviceNames
open SmartHome.BasicAttributes
open SmartHome.Library.Tokens (strtokLoop stringAt strtok_calls tokens)

set_option autoImplicit false

/-- The array `sa` that the model identifier is copied into. -/
def modelCopy (d : Device) : List UInt8 :=
  (d.modelidentifier.text ++ List.replicate (33 - d.modelidentifier.strlen) 0).set 32 0

/-- `substrp[1]` after the two calls of `strtok_r`, if there is such a token. -/
def secondToken (d : Device) : Option (List UInt8) :=
  let (substrp, scan) := strtokLoop dash 2 ⟨modelCopy d, 0⟩
  substrp[1]?.map (stringAt scan.buffer)

/-- What `list_entry(d->eplisthead.next, struct endpoint, list)` points to. -/
inductive ListEntry
  | head
  | endpoint (ep : Endpoint)

def firstEntry (d : Device) : ListEntry :=
  match d.eplist with
  | [] => .head
  | ep :: _ => .endpoint ep

def isZ809 (d : Device) : Bool := sameCaseless d.modelidentifier.text z809 4

def startsWithF (d : Device) : Bool := d.modelidentifier.text.head? = some 0x46

def ruleName (d : Device) : List UInt8 :=
  if isZ809 d then utf8Table .socket
  else if startsWithF d then
    match tokens dash d.modelidentifier.text with
    | _ :: second :: _ => if sameCaseless second skt 3 then utf8Table .socket else []
    | _ => []
  else
    (printDecimal d.activeep.activeEPCount.toNat).map (UInt8.ofNat ·.toNat) ++ utf8Table .switch

def RuleFollowed (ep : Endpoint) (d : Device) (outcome : DeviceOutcome) : Prop :=
  if ep.deviceID = zclHaDeviceidMainsPowerOutlet then
    outcome.device.devicename.text = ruleName d ∧
      outcome.device = { d with devicename := outcome.device.devicename } ∧
        outcome.effects = [.database (.updateDevicename d.ieeeaddr (ruleName d))]
  else outcome = .done d

/-- What is to hold of a call: the entry it reads is an endpoint, every token it uses is there, and
the name is the one of the rules. -/
structure NamesOutlet (stale : List UInt8) (headDeviceID : UInt16) (d : Device) : Prop where
  entry : firstEntry d ≠ .head
  returns : handleOutletDevicename stale headDeviceID d ≠ none
  named : ∀ ep ∈ d.eplist.head?, ∀ outcome ∈ handleOutletDevicename stale headDeviceID d,
    RuleFollowed ep d outcome

def HasToken (d : Device) : Prop :=
  isZ809 d ∨ ¬ startsWithF d ∨ 2 ≤ (tokens dash d.modelidentifier.text).length

/-- There is a first endpoint, and if it is an outlet, the model has its token and the name array
has a NUL where the name ends. -/
def Nameable (stale : List UInt8) (d : Device) : Prop :=
  ∃ ep ∈ d.eplist.head?, ep.deviceID = zclHaDeviceidMainsPowerOutlet →
    HasToken d ∧ (nameArray d stale).getD (ruleName d).length 0 = 0

theorem model_copy_eq (d : Device) :
    ∃ rest, modelCopy d = d.modelidentifier.text ++ 0 :: rest := by
  have fits := d.modelidentifier.fits
  have zeros : List.replicate (33 - d.modelidentifier.strlen) (0 : UInt8) =
      0 :: List.replicate (32 - d.modelidentifier.text.length) 0 := by
    rw [← List.replicate_succ, CString.strlen]
    congr 1
    omega
  have kept : (0 :: List.replicate (32 - d.modelidentifier.text.length) (0 : UInt8)).set
      (32 - d.modelidentifier.text.length) 0 =
        0 :: List.replicate (32 - d.modelidentifier.text.length) 0 := by
    rw [← List.replicate_succ]
    exact List.set_replicate_self
  refine ⟨List.replicate (32 - d.modelidentifier.text.length) 0, ?_⟩
  rw [modelCopy, zeros, List.set_append_right _ _ (Nat.le_of_lt_succ fits), kept]

/-- The calls of `strtok_r` find the second token of the model text. -/
theorem second_token_eq (d : Device) :
    secondToken d = (tokens dash d.modelidentifier.text)[1]? := by
  have nonzero : dash ≠ 0 := by decide
  have nonul := d.modelidentifier.nonul
  rcases model_copy_eq d with ⟨rest, copy⟩
  rcases strtok_calls nonzero 2 rest nonul with ⟨buffer, strings, _⟩
  unfold secondToken
  rw [copy]
  generalize strtokLoop dash 2 ⟨d.modelidentifier.text ++ 0 :: rest, 0⟩ = calls at buffer strings ⊢
  rcases calls with ⟨substrp, scan⟩
  dsimp only at buffer strings ⊢
  rw [buffer, ← List.getElem?_map, strings, List.getElem?_take_of_lt (by decide)]

theorem outlet_name_eq (d : Device) :
    outletName d =
      if isZ809 d then some (utf8Table .socket)
      else if startsWithF d then
        (secondToken d).map fun second =>
          if sameCaseless second skt 3 then utf8Table .socket else []
      else some ((printDecimal d.activeep.activeEPCount.toNat).map (UInt8.ofNat ·.toNat) ++
        utf8Table .switch) := by
  rw [second_token_eq, outletName]
  unfold isZ809 startsWithF
  simp only [decide_eq_true_eq]
  split_ifs
  · rfl
  · match tokens dash d.modelidentifier.text with
    | [] | [_] | _ :: _ :: _ => rfl
  · rfl

theorem outlet_name_some {d : Device} (token : HasToken d) : outletName d = some (ruleName d) := by
  rw [outlet_name_eq, second_token_eq, ruleName]
  split_ifs with special starts
  · rfl
  · rcases token with yes | no | two
    · exact absurd yes special
    · exact absurd starts no
    · match pieces : tokens dash d.modelidentifier.text with
      | [] | [_] =>
          rw [pieces] at two
          exact absurd two (by simp)
      | _ :: _ :: _ => rfl
  · rfl

theorem outlet_name_none {d : Device} (missing : ¬ HasToken d) : outletName d = none := by
  unfold HasToken at missing
  push Not at missing
  rcases missing with ⟨other, starts, few⟩
  rw [outlet_name_eq, second_token_eq, if_neg other, if_pos starts,
    List.getElem?_eq_none (Nat.le_of_lt_succ few)]
  rfl

theorem rule_name_plain (d : Device) : (0 : UInt8) ∉ ruleName d ∧ (ruleName d).length < 255 := by
  have socket : (0 : UInt8) ∉ utf8Table .socket ∧ (utf8Table .socket).length < 255 := by decide
  have empty : (0 : UInt8) ∉ ([] : List UInt8) ∧ ([] : List UInt8).length < 255 := by decide
  have switch : (0 : UInt8) ∉ utf8Table .switch ∧ (utf8Table .switch).length = 9 := by decide
  unfold ruleName
  split_ifs
  · exact socket
  · split
    · split_ifs
      · exact socket
      · exact empty
    · exact empty
  · constructor
    · intro member
      rcases List.mem_append.mp member with digit | inside
      · rcases List.mem_map.mp digit with ⟨c, printed, zero⟩
        have bounds := print_decimal_char printed
        have value := congrArg UInt8.toNat zero
        rw [UInt8.toNat_ofNat', UInt8.toNat_zero] at value
        omega
      · exact switch.1 inside
    · have digits : ∀ count : UInt8, (printDecimal count.toNat).length ≤ 3 := by
        apply forall_uint8
        decide +kernel
      have three := digits d.activeep.activeEPCount
      rw [List.length_append, List.length_map, switch.2]
      omega

theorem overwrite_name_text_iff {name : List UInt8} (nonul : (0 : UInt8) ∉ name)
    (short : name.length < 255) (array : List UInt8) :
    (arrayName (overwriteName name array)).text = name ↔ array.getD name.length 0 = 0 := by
  have text : (arrayName (overwriteName name array)).text =
      name ++ upToNul ((array.drop name.length).take (255 - name.length)) := by
    have whole : (overwriteName name array).take 255 =
        name ++ (array.drop name.length).take (255 - name.length) := by
      rw [overwriteName, List.take_append, List.take_of_length_le (Nat.le_of_lt short)]
    change upToNul ((overwriteName name array).take 255) = _
    rw [whole, upToNul, List.takeWhile_append_of_pos]
    · rfl
    · exact fun byte member => decide_eq_true fun zero => nonul (zero ▸ member)
  have room : 255 - name.length = (254 - name.length) + 1 := by omega
  rw [text, List.append_right_eq_self, room, List.getD_eq_getElem?_getD, ← List.head?_drop]
  cases array.drop name.length with
  | nil => exact iff_of_true rfl rfl
  | cons byte rest =>
      rw [List.take_succ_cons, upToNul, List.takeWhile_cons, List.head?_cons, Option.getD_some]
      by_cases zero : byte = 0
      · rw [if_neg (by simpa using zero)]
        exact iff_of_true rfl zero
      · rw [if_pos (by simpa using zero)]
        exact iff_of_false (List.cons_ne_nil byte _) zero

theorem handle_outlet_devicename_first {d : Device} {ep : Endpoint}
    (first : d.eplist.head? = some ep) (stale : List UInt8) (headDeviceID : UInt16) :
    handleOutletDevicename stale headDeviceID d =
      if ep.deviceID = zclHaDeviceidMainsPowerOutlet then
        (outletName d).map fun name => storeDevicename (overwriteName name (nameArray d stale)) d
      else some (.done d) := by
  unfold handleOutletDevicename
  rw [first]
  rfl

theorem first_entry_ne_head_iff (d : Device) :
    firstEntry d ≠ .head ↔ ∃ ep, d.eplist.head? = some ep := by
  unfold firstEntry
  cases d.eplist with
  | nil => exact iff_of_false (fun other => other rfl) (fun ⟨_, first⟩ => by cases first)
  | cons ep eps => exact iff_of_true (fun same => by cases same) ⟨ep, rfl⟩

/-- The naming does what its rules say just if there is a first endpoint and, for an outlet, its
model has the token asked for and nothing is left of an older name behind the new one. -/
theorem outlet_naming_iff (stale : List UInt8) (headDeviceID : UInt16) (d : Device) :
    NamesOutlet stale headDeviceID d ↔ Nameable stale d := by
  rcases rule_name_plain d with ⟨nonul, short⟩
  have ends := overwrite_name_text_iff nonul short (nameArray d stale)
  constructor
  · intro right
    rcases (first_entry_ne_head_iff d).mp right.entry with ⟨ep, first⟩
    refine ⟨ep, first, fun outlet => ?_⟩
    have call := handle_outlet_devicename_first first stale headDeviceID
    rw [if_pos outlet] at call
    have token : HasToken d := by
      by_contra missing
      rw [outlet_name_none missing] at call
      exact right.returns call
    rw [outlet_name_some token] at call
    have followed := right.named ep first _ call
    rw [RuleFollowed, if_pos outlet] at followed
    exact ⟨token, ends.mp followed.1⟩
  · rintro ⟨ep, first, named⟩
    have entry := (first_entry_ne_head_iff d).mpr ⟨ep, first⟩
    have call := handle_outlet_devicename_first first stale headDeviceID
    by_cases outlet : ep.deviceID = zclHaDeviceidMainsPowerOutlet
    · rcases named outlet with ⟨token, nul⟩
      have text := ends.mpr nul
      rw [if_pos outlet, outlet_name_some token] at call
      refine ⟨entry, by rw [call]; exact Option.some_ne_none _, ?_⟩
      intro ep' first' outcome result
      rw [first] at first'
      cases first'
      rw [call] at result
      cases result
      rw [RuleFollowed, if_pos outlet]
      exact ⟨text, rfl, congrArg
        (fun name => [Effect.database (.updateDevicename d.ieeeaddr name)]) text⟩
    · rw [if_neg outlet] at call
      refine ⟨entry, by rw [call]; exact Option.some_ne_none _, ?_⟩
      intro ep' first' outcome result
      rw [first] at first'
      cases first'
      rw [call] at result
      cases result
      rw [RuleFollowed, if_neg outlet]

def outlet (model : CString 33) : Device :=
  { deviceCreate 0x00137A00000156D3 0x2F1A with
    modelidentifier := model
    eplist := [{ contactEndpoint with
      simpledesc := { contactEndpoint.simpledesc with
        simpledesc := { contactEndpoint.simpledesc.simpledesc with
          deviceID := zclHaDeviceidMainsPowerOutlet } } }] }

/-- "FB56" -/
def fb56 : CString 33 := ⟨[0x46, 0x42, 0x35, 0x36], by decide, by decide⟩

/-- A device that has only been announced, a model with one token, and an array in which an older
name was cut to nothing. -/
theorem outlets_misnamed :
    (∀ stale headDeviceID,
      ¬ NamesOutlet stale headDeviceID (deviceCreate 0x00137A00000156D3 0x2F1A)) ∧
    (∀ stale headDeviceID, ¬ NamesOutlet stale headDeviceID (outlet fb56)) ∧
      ∀ headDeviceID, ¬ NamesOutlet (List.replicate 255 0x41) headDeviceID (outlet noText) := by
  refine ⟨fun stale headDeviceID right => right.entry rfl, fun stale headDeviceID right => ?_,
    fun headDeviceID right => ?_⟩
  · have unnamed : outletName (outlet fb56) = none := by decide +kernel
    have call : handleOutletDevicename stale headDeviceID (outlet fb56) =
        (outletName (outlet fb56)).map fun name =>
          storeDevicename (overwriteName name (nameArray (outlet fb56) stale)) (outlet fb56) := rfl
    rw [unnamed] at call
    exact right.returns call
  · have first : (outlet noText).eplist.head? = some _ := rfl
    have token : HasToken (outlet noText) := .inr (.inl (by decide))
    have call := handle_outlet_devicename_first first (List.replicate 255 0x41) headDeviceID
    rw [outlet_name_some token] at call
    have followed := right.named _ first _ call
    rcases rule_name_plain (outlet noText) with ⟨nonul, short⟩
    have nul := (overwrite_name_text_iff nonul short _).mp followed.1
    exact absurd nul (by decide +kernel)

end SmartHome.OutletNames
