import SmartHome.EventRecvznp

/-!
# Re-delivered zone alarms

Runs of deliveries to one endpoint: the device's new notifications, numbered one
after another modulo 256, re-deliveries of earlier ones, and leave indications. The
stored number is a `char`, so the order `seq_after` tests breaks where the `char`
range wraps, and the reset value 0 is itself a transaction number.
-/

namespace SmartHome.ZoneReplay

open SmartHome.Library.CTypes
open SmartHome.Registry
open SmartHome.PipeMessages
open SmartHome.Effects
open SmartHome.Encode
open SmartHome.EventRecvznp

set_option autoImplicit false

/-- A delivery; `content` is the notification but for its addressing and its number. -/
inductive Delivery
  | fresh (clock : Clock) (content : Zclzonechangenotification)
  | again (age : Nat) (clock : Clock) (content : Zclzonechangenotification)
  | leave

/-- The endpoint the deliveries are for, and the number of the device's first notification. -/
structure Sender where
  ieee : UInt64
  endpoint : UInt8
  start : UInt8

def Sender.number (sender : Sender) (index : Nat) : UInt8 := sender.start + UInt8.ofNat index

def Sender.notification (sender : Sender) (index : Nat) (content : Zclzonechangenotification) :
    Zclzonechangenotification :=
  { content with
    ieeeaddr := sender.ieee, endpoint := sender.endpoint, transNum := sender.number index }

/-- What is delivered again has been delivered, at most 64 numbers ago; `count` new notifications
came before. -/
def Allowed : Nat → List Delivery → Prop
  | _, [] => True
  | count, .fresh _ _ :: deliveries => Allowed (count + 1) deliveries
  | count, .again age _ _ :: deliveries => age < count ∧ age ≤ 64 ∧ Allowed count deliveries
  | count, .leave :: deliveries => Allowed count deliveries

def storedNumber (gw : Gateway) (sender : Sender) : Option UInt8 :=
  (gatewayGetEndpoint gw sender.ieee sender.endpoint).map (·.simpledesc.zclTransnum)

/-- The number is stored in memory and in the database, and an armed endpoint's alarm goes out. -/
structure Accepted (clock : Clock) (gw : Gateway) (req : Zclzonechangenotification)
    (outcome : Outcome) : Prop where
  stored : (gatewayGetEndpoint outcome.gateway req.ieeeaddr req.endpoint).map
    (·.simpledesc.zclTransnum) = some req.transNum
  saved : .database (.updateDeviceSeq req.ieeeaddr req.endpoint req.transNum) ∈ outcome.effects
  alarm : ∀ ep, gatewayGetEndpoint gw req.ieeeaddr req.endpoint = some ep →
    endpointCheckArm ep clock.hour clock.minute = true → isHeartbeat req = false →
    ∃ frame, protocolEncodeAlarm gw req clock.ctime = some frame ∧
      .broadcast frame ∈ outcome.effects

structure Rejected (gw : Gateway) (outcome : Outcome) : Prop where
  unchanged : outcome.gateway = gw
  silent : outcome.effects = []

/-- Every new notification is accepted and every re-delivery rejected. -/
def Correct (sign : CharSign) (sender : Sender) : Nat → Gateway → List Delivery → Prop
  | _, _, [] => True
  | count, gw, .fresh clock content :: deliveries =>
      let req := sender.notification count content
      let outcome := zoneChangeNotification sign clock gw req
      Accepted clock gw req outcome ∧
        Correct sign sender (count + 1) outcome.gateway deliveries
  | count, gw, .again age clock content :: deliveries =>
      let req := sender.notification (count - 1 - age) content
      let outcome := zoneChangeNotification sign clock gw req
      Rejected gw outcome ∧ Correct sign sender count outcome.gateway deliveries
  | count, gw, .leave :: deliveries =>
      Correct sign sender count (mtZdoLeaveIndCb gw sender.ieee).gateway deliveries

/-- Against the reset value 0: the numbers that are, as `char`s, in `-64..0` look old. -/
def LooksOld (sign : CharSign) (number : UInt8) : Prop :=
  -64 ≤ charInt sign number ∧ charInt sign number ≤ 0

instance (sign : CharSign) (number : UInt8) : Decidable (LooksOld sign number) :=
  inferInstanceAs (Decidable (_ ∧ _))

/-- The condition on the deliveries alone. `anchored` says that a new notification came since the
last reset: until then its number must not look old and a re-delivered one must; after it a
re-delivered number must not be greater, as a `char`, than the newest. -/
def WithoutWrap (sign : CharSign) (sender : Sender) : Nat → Bool → List Delivery → Prop
  | _, _, [] => True
  | count, anchored, .fresh _ _ :: deliveries =>
      (anchored = false → ¬LooksOld sign (sender.number count)) ∧
        WithoutWrap sign sender (count + 1) true deliveries
  | count, anchored, .again age _ _ :: deliveries =>
      (anchored = false → LooksOld sign (sender.number (count - 1 - age))) ∧
        (anchored = true → charInt sign (sender.number (count - 1 - age)) ≤
          charInt sign (sender.number (count - 1))) ∧
        WithoutWrap sign sender count anchored deliveries
  | count, _, .leave :: deliveries => WithoutWrap sign sender count false deliveries

structure Registered (gw : Gateway) (sender : Sender) : Prop where
  device : isDeviceDeleted gw sender.ieee = false
  endpoint : (gatewayGetEndpoint gw sender.ieee sender.endpoint).isSome = true

theorem seq_after_zero (sign : CharSign) (number : UInt8) :
    seqAfter sign number 0 = true ↔ ¬LooksOld sign number := by
  have zero : charInt sign 0 = 0 := by cases sign <;> rfl
  rw [seqAfter, decide_eq_true_eq, LooksOld, zero]
  omega

theorem seq_after_next (sign : CharSign) (number : UInt8) :
    seqAfter sign (number + 1) number = true := by
  have sum : (number + 1).toNat = (number.toNat + 1) % 256 := UInt8.toNat_add number 1
  have low := char_int_emod sign number
  have high := char_int_emod sign (number + 1)
  obtain ⟨lowest, bounds⟩ := char_int_bounds sign
  have lowBound := bounds number
  have highBound := bounds (number + 1)
  rw [seqAfter, decide_eq_true_eq]
  omega

/-- Among the last 65 numbers, the order of the `char`s decides. -/
theorem seq_after_earlier (sign : CharSign) (number : UInt8) (age : Nat) (recent : age ≤ 64) :
    seqAfter sign number (number + UInt8.ofNat age) = false ↔
      charInt sign number ≤ charInt sign (number + UInt8.ofNat age) := by
  have sum : (number + UInt8.ofNat age).toNat = (number.toNat + age) % 256 := by
    rw [UInt8.toNat_add, UInt8.toNat_ofNat', Nat.add_mod_mod]
  have low := char_int_emod sign number
  have high := char_int_emod sign (number + UInt8.ofNat age)
  obtain ⟨lowest, bounds⟩ := char_int_bounds sign
  have lowBound := bounds number
  have highBound := bounds (number + UInt8.ofNat age)
  rw [seqAfter, decide_eq_false_iff_not]
  omega

theorem zone_change_notification_eq {gw : Gateway} {sender : Sender}
    (registered : Registered gw sender) (sign : CharSign) (clock : Clock)
    {req : Zclzonechangenotification} (ieee : req.ieeeaddr = sender.ieee)
    (endpoint : req.endpoint = sender.endpoint) :
    ∃ ep, gatewayGetEndpoint gw sender.ieee sender.endpoint = some ep ∧
      zoneChangeNotification sign clock gw req =
        if seqAfter sign req.transNum ep.simpledesc.zclTransnum then
          ⟨modifyDevice gw req.ieeeaddr (modifyEndpoint · req.endpoint
              (setTransnum · req.transNum)),
            alarmEffects clock gw ep req ++
              [.database (.updateDeviceSeq req.ieeeaddr req.endpoint req.transNum)]⟩
        else ⟨gw, []⟩ := by
  obtain ⟨ep, found⟩ := Option.isSome_iff_exists.mp registered.endpoint
  obtain ⟨d, device, kept⟩ := (is_device_deleted_eq_false gw sender.ieee).mp registered.device
  refine ⟨ep, found, ?_⟩
  rw [← ieee, ← endpoint] at found
  rw [← ieee] at device
  simp only [zoneChangeNotification, device, kept, found, Bool.false_eq_true, if_false]

theorem set_transnum_registered {gw : Gateway} {sender : Sender}
    (registered : Registered gw sender) (transNum : UInt8) :
    let after := modifyDevice gw sender.ieee
      (modifyEndpoint · sender.endpoint (setTransnum · transNum))
    Registered after sender ∧ storedNumber after sender = some transNum := by
  intro after
  obtain ⟨ep, found⟩ := Option.isSome_iff_exists.mp registered.endpoint
  obtain ⟨d, device, kept⟩ := (is_device_deleted_eq_false gw sender.ieee).mp registered.device
  have endpointAfter : gatewayGetEndpoint after sender.ieee sender.endpoint =
      some (setTransnum ep transNum) := by
    have modified := set_transnum_find gw sender.ieee sender.endpoint transNum
    rw [found] at modified
    exact modified
  have deviceAfter : gatewayGetdevice after sender.ieee =
      some (modifyEndpoint d sender.endpoint (setTransnum · transNum)) := by
    have modified := gateway_getdevice_modify gw sender.ieee
      (modifyEndpoint · sender.endpoint (setTransnum · transNum)) fun _ => rfl
    rw [device] at modified
    exact modified
  refine ⟨⟨?_, ?_⟩, ?_⟩
  · rw [is_device_deleted_eq_false]
    exact ⟨_, deviceAfter, kept⟩
  · rw [endpointAfter]
    rfl
  · rw [storedNumber, endpointAfter]
    rfl

theorem alarm_sent (clock : Clock) {gw : Gateway} {req : Zclzonechangenotification} {ep : Endpoint}
    (found : gatewayGetEndpoint gw req.ieeeaddr req.endpoint = some ep)
    (armed : endpointCheckArm ep clock.hour clock.minute = true) (alive : isHeartbeat req = false) :
    ∃ frame, protocolEncodeAlarm gw req clock.ctime = some frame ∧
      .broadcast frame ∈ alarmEffects clock gw ep req := by
  have present : (gatewayGetEndpoint gw req.ieeeaddr req.endpoint).isSome = true := by
    rw [found]
    rfl
  obtain ⟨frame, encoded⟩ :=
    Option.isSome_iff_exists.mp (protocol_encode_alarm_isSome gw req clock.ctime present)
  have sends : endpointCheckArm ep clock.hour clock.minute = true ∧ ¬isHeartbeat req = true :=
    ⟨armed, Bool.eq_false_iff.mp alive⟩
  refine ⟨frame, encoded, ?_⟩
  rw [alarmEffects, if_pos sends, encoded]
  apply List.mem_append_right
  exact List.mem_singleton_self _

/-- What a notification does is decided by `seq_after` on the stored number. -/
theorem zone_change_notification_spec {gw : Gateway} {sender : Sender}
    (registered : Registered gw sender) {stored : UInt8}
    (number : storedNumber gw sender = some stored) (sign : CharSign) (clock : Clock)
    (index : Nat) (content : Zclzonechangenotification) :
    let req := sender.notification index content
    let outcome := zoneChangeNotification sign clock gw req
    (seqAfter sign req.transNum stored = true → Accepted clock gw req outcome ∧
        Registered outcome.gateway sender ∧
        storedNumber outcome.gateway sender = some req.transNum) ∧
      (seqAfter sign req.transNum stored = false → outcome = ⟨gw, []⟩) := by
  intro req outcome
  have fromIeee : req.ieeeaddr = sender.ieee := rfl
  have fromEndpoint : req.endpoint = sender.endpoint := rfl
  obtain ⟨ep, found, result⟩ :=
    zone_change_notification_eq registered sign clock fromIeee fromEndpoint
  have storedValue : ep.simpledesc.zclTransnum = stored := by
    rw [storedNumber, found] at number
    exact Option.some.inj number
  rw [storedValue] at result
  constructor
  · intro newer
    rw [if_pos newer] at result
    have updated : outcome = _ := result
    obtain ⟨stays, storedAfter⟩ := set_transnum_registered registered req.transNum
    rw [updated]
    refine ⟨⟨storedAfter, ?_, ?_⟩, stays, storedAfter⟩
    · apply List.mem_append_right
      exact List.mem_singleton_self _
    · intro other otherFound armed alive
      have same : other = ep := Option.some.inj (otherFound.symm.trans found)
      subst same
      obtain ⟨frame, encoded, sent⟩ := alarm_sent clock otherFound armed alive
      exact ⟨frame, encoded, List.mem_append_left _ sent⟩
  · intro old
    rw [old, if_neg (by decide)] at result
    exact result

theorem accepted_iff {gw : Gateway} {sender : Sender} (registered : Registered gw sender)
    {stored : UInt8} (number : storedNumber gw sender = some stored) (sign : CharSign)
    (clock : Clock) (index : Nat) (content : Zclzonechangenotification) :
    Accepted clock gw (sender.notification index content)
        (zoneChangeNotification sign clock gw (sender.notification index content)) ↔
      seqAfter sign (sender.number index) stored = true := by
  obtain ⟨newer, old⟩ := zone_change_notification_spec registered number sign clock index content
  constructor
  · intro accepted
    by_contra rejected
    have saved := accepted.saved
    rw [old (Bool.eq_false_of_not_eq_true rejected)] at saved
    contradiction
  · intro positive
    exact (newer positive).1

theorem rejected_iff {gw : Gateway} {sender : Sender} (registered : Registered gw sender)
    {stored : UInt8} (number : storedNumber gw sender = some stored) (sign : CharSign)
    (clock : Clock) (index : Nat) (content : Zclzonechangenotification) :
    Rejected gw (zoneChangeNotification sign clock gw (sender.notification index content)) ↔
      seqAfter sign (sender.number index) stored = false := by
  obtain ⟨newer, old⟩ := zone_change_notification_spec registered number sign clock index content
  constructor
  · intro rejected
    by_contra accepted
    have saved := (newer (Bool.eq_true_of_not_eq_false accepted)).1.saved
    rw [rejected.silent] at saved
    contradiction
  · intro negative
    rw [old negative]
    exact ⟨rfl, rfl⟩

theorem Sender.number_add (sender : Sender) (index age : Nat) :
    sender.number (index + age) = sender.number index + UInt8.ofNat age := by
  rw [number, number, UInt8.ofNat_add, UInt8.add_assoc]

theorem leave_spec {gw : Gateway} {sender : Sender} (registered : Registered gw sender) :
    Registered (mtZdoLeaveIndCb gw sender.ieee).gateway sender ∧
      storedNumber (mtZdoLeaveIndCb gw sender.ieee).gateway sender = some 0 := by
  obtain ⟨d, device, kept⟩ := (is_device_deleted_eq_false gw sender.ieee).mp registered.device
  obtain ⟨ep, found⟩ := Option.isSome_iff_exists.mp registered.endpoint
  have endpoint : deviceGetEndpoint d sender.endpoint = some ep :=
    (gateway_get_endpoint_eq device sender.endpoint).symm.trans found
  have left : gatewayGetdevice (mtZdoLeaveIndCb gw sender.ieee).gateway sender.ieee =
      some (leaveDevice d) := by
    rw [mtZdoLeaveIndCb, device]
    exact (gateway_getdevice_modify gw sender.ieee leaveDevice fun _ => rfl).trans
      (by rw [device]; rfl)
  have after : gatewayGetEndpoint (mtZdoLeaveIndCb gw sender.ieee).gateway sender.ieee
      sender.endpoint = some (setTransnum ep 0) := by
    have sameNumbers : (fun x : Endpoint => decide (x.number = sender.endpoint)) ∘
        (setTransnum · 0) = fun x => decide (x.number = sender.endpoint) := by
      funext x
      rfl
    rw [deviceGetEndpoint] at endpoint
    rw [gatewayGetEndpoint, left, Option.bind_some, deviceGetEndpoint, leaveDevice, List.find?_map,
      sameNumbers, endpoint]
    rfl
  refine ⟨⟨(is_device_deleted_eq_false _ _).mpr ⟨leaveDevice d, left, ?_⟩, by rw [after]; rfl⟩, ?_⟩
  · rw [leave_device_app_del]
    exact kept
  · rw [storedNumber, after]
    rfl

/-- What is stored: the newest accepted number, or 0 when there is none since the last reset. -/
def expected (sender : Sender) (count : Nat) (anchored : Bool) : UInt8 :=
  if anchored then sender.number (count - 1) else 0

/-- Whether the next new notification passes depends only on its number and the last reset. -/
theorem next_newer_iff (sign : CharSign) (sender : Sender) (count : Nat) (anchored : Bool)
    (started : anchored = true → 0 < count) :
    seqAfter sign (sender.number count) (expected sender count anchored) = true ↔
      (anchored = false → ¬LooksOld sign (sender.number count)) := by
  cases anchored with
  | false => simpa [expected] using seq_after_zero sign (sender.number count)
  | true =>
      have next : sender.number count = sender.number (count - 1) + 1 := by
        have positive := started rfl
        have split : count = count - 1 + 1 := by omega
        rw [split, sender.number_add]
        rfl
      simp [expected, next, seq_after_next]

theorem earlier_older_iff (sign : CharSign) (sender : Sender) (count age : Nat) (anchored : Bool)
    (delivered : age < count) (recent : age ≤ 64) :
    seqAfter sign (sender.number (count - 1 - age)) (expected sender count anchored) = false ↔
      (anchored = false → LooksOld sign (sender.number (count - 1 - age))) ∧
        (anchored = true → charInt sign (sender.number (count - 1 - age)) ≤
          charInt sign (sender.number (count - 1))) := by
  cases anchored with
  | false =>
      have zero := seq_after_zero sign (sender.number (count - 1 - age))
      simpa [expected] using (not_congr zero).trans not_not
  | true =>
      have newest : sender.number (count - 1) =
          sender.number (count - 1 - age) + UInt8.ofNat age := by
        have back : count - 1 - age + age = count - 1 := by omega
        rw [← sender.number_add, back]
      simpa [expected, newest] using
        seq_after_earlier sign (sender.number (count - 1 - age)) age recent

theorem correct_iff_without_wrap (sign : CharSign) (sender : Sender) (deliveries : List Delivery)
    {gw : Gateway} (registered : Registered gw sender) {count : Nat} {anchored : Bool}
    (started : anchored = true → 0 < count)
    (number : storedNumber gw sender = some (expected sender count anchored))
    (allowed : Allowed count deliveries) :
    Correct sign sender count gw deliveries ↔
      WithoutWrap sign sender count anchored deliveries := by
  induction deliveries generalizing gw count anchored with
  | nil => exact Iff.rfl
  | cons delivery deliveries induction =>
      cases delivery with
      | fresh clock content =>
          have accepted := accepted_iff registered number sign clock count content
          rw [Correct, WithoutWrap, accepted, next_newer_iff sign sender count anchored started]
          apply and_congr_right
          intro condition
          have newer := (next_newer_iff sign sender count anchored started).mpr condition
          obtain ⟨-, registeredAfter, storedAfter⟩ := (zone_change_notification_spec registered
            number sign clock count content).1 newer
          exact induction registeredAfter (fun _ => Nat.succ_pos count) storedAfter allowed
      | again age clock content =>
          rcases allowed with ⟨delivered, recent, allowedLater⟩
          have rejected := rejected_iff registered number sign clock (count - 1 - age) content
          rw [Correct, WithoutWrap, rejected, ← and_assoc,
            earlier_older_iff sign sender count age anchored delivered recent]
          apply and_congr_right
          intro condition
          have older :=
            (earlier_older_iff sign sender count age anchored delivered recent).mpr condition
          have unchanged := (zone_change_notification_spec registered number sign clock
            (count - 1 - age) content).2 older
          simp only [unchanged]
          exact induction registered started number allowedLater
      | leave =>
          obtain ⟨registeredAfter, storedAfter⟩ := leave_spec registered
          exact induction registeredAfter (fun contradictory => absurd contradictory (by decide))
            storedAfter allowed

/-- From the initial number 0, a run is handled as it should be exactly when no number in it wraps
the `char` range against the number it is compared with. -/
theorem zone_replay_iff (sign : CharSign) (sender : Sender) {gw : Gateway}
    (registered : Registered gw sender) (initial : storedNumber gw sender = some 0)
    (deliveries : List Delivery) (allowed : Allowed 0 deliveries) :
    Correct sign sender 0 gw deliveries ↔ WithoutWrap sign sender 0 false deliveries :=
  correct_iff_without_wrap sign sender deliveries registered
    (fun contradictory => absurd contradictory (by decide)) initial allowed

def contactSender (start : UInt8) : Sender := ⟨0x00137A00000156D3, 2, start⟩

theorem contact_sender_registered (start : UInt8) : Registered twoContacts (contactSender start) :=
  ⟨rfl, rfl⟩

def noon : Clock := ⟨12, 0, 1500000000⟩

def doorOpened : Zclzonechangenotification := ⟨0, 0x0500, 0, 0, 1, 0, 0⟩

theorem zone_replay_iff_door_opened :
    Correct .unsigned (contactSender 1) 0 twoContacts
        [.fresh noon doorOpened, .again 0 noon doorOpened, .fresh noon doorOpened] ↔
      WithoutWrap .unsigned (contactSender 1) 0 false
        [.fresh noon doorOpened, .again 0 noon doorOpened, .fresh noon doorOpened] :=
  zone_replay_iff .unsigned (contactSender 1) (contact_sender_registered 1) rfl _
    ⟨by decide, by decide, trivial⟩

/-- A first alarm with number 0 is missed, and an alarm that is delivered again after the `char`
range has wrapped is raised a second time, for either signedness. -/
theorem zone_replay_fails_at_wrap :
    ¬Correct .unsigned (contactSender 0) 0 twoContacts [.fresh noon doorOpened] ∧
      ¬Correct .signed (contactSender 0) 0 twoContacts [.fresh noon doorOpened] ∧
      ¬Correct .unsigned (contactSender 255) 0 twoContacts
        [.fresh noon doorOpened, .fresh noon doorOpened, .again 1 noon doorOpened] ∧
      ¬Correct .signed (contactSender 127) 0 twoContacts
        [.fresh noon doorOpened, .fresh noon doorOpened, .again 1 noon doorOpened] := by
  refine ⟨?_, ?_, ?_, ?_⟩
  all_goals
    rw [@correct_iff_without_wrap _ _ _ _ (contact_sender_registered _) _ false
      (fun contradictory => absurd contradictory (by decide)) rfl (by simp [Allowed])]
  · intro sound
    exact sound.1 rfl (by decide)
  · intro sound
    exact sound.1 rfl (by decide)
  · intro sound
    exact absurd (sound.2.2.2.1 rfl) (by decide)
  · intro sound
    exact absurd (sound.2.2.2.1 rfl) (by decide)

end SmartHome.ZoneReplay
