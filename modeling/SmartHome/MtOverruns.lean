import SmartHome.MtMessages

/-!
# Counts beyond the arrays

Lists in messages of the network processor say how long they are, and `mtProcess` believes
them. Here is every list with its count and its array, for all kinds of messages in all
subsystems, and for each message exactly when processing it stores behind the end of an
array.
-/

namespace SmartHome.MtOverruns

open SmartHome.Library.Bytes
open SmartHome.Library.ByteCursors
open SmartHome.Bytebuffer
open SmartHome.Registry
open SmartHome.ZdoCallbacks
open SmartHome.Rpc
open SmartHome.RpcStream
open SmartHome.Mt
open SmartHome.MtMessages

set_option autoImplicit false

/-- A list in the messages of one kind, and how many elements its array takes. -/
structure CountedList where
  cmd1 : UInt8
  /-- The list is looked for in messages of this length and above. -/
  shortest : Nat
  count : Memory → Nat
  capacity : Nat

def byteAt (place : Nat) (rpcBuff : Memory) : Nat := (rpcBuff place).toNat

def uint16At (place : Nat) (rpcBuff : Memory) : Nat :=
  (buildUint16 (rpcBuff place) (rpcBuff (place + 1))).toNat

def byteBehind (place : Nat) (rpcBuff : Memory) : Nat :=
  byteAt (place + 1 + 2 * byteAt place rpcBuff) rpcBuff

def zdoLists : List CountedList :=
  [⟨mtZdoNwkAddrRsp, 14, byteAt 14, 70⟩,
    ⟨mtZdoIeeeAddrRsp, 14, byteAt 14, 70⟩,
    ⟨mtZdoSimpleDescRsp, 7, byteAt 14, 16⟩,
    ⟨mtZdoSimpleDescRsp, 7, byteBehind 14, 16⟩,
    ⟨mtZdoActiveEpRsp, 7, byteAt 7, 77⟩,
    ⟨mtZdoMatchDescRsp, 7, byteAt 7, 77⟩,
    ⟨mtZdoComplexDescRsp, 7, byteAt 7, 77⟩,
    ⟨mtZdoUserDescRsp, 7, byteAt 7, 77⟩,
    ⟨mtZdoMgmtNwkDiscRsp, 7, byteAt 7, 72⟩,
    ⟨mtZdoMgmtLqiRsp, 7, byteAt 7, 66⟩,
    ⟨mtZdoMgmtRtgRsp, 7, byteAt 7, 75⟩,
    ⟨mtZdoMgmtBindRsp, 7, byteAt 7, 75⟩,
    ⟨mtZdoMatchDescRspSent, 0, byteAt 4, 16⟩,
    ⟨mtZdoMatchDescRspSent, 0, byteBehind 4, 16⟩,
    ⟨mtZdoBeaconNotifyInd, 2, byteAt 2, 21⟩]

def afLists : List CountedList :=
  [⟨mtAfIncomingMsg, 18, byteAt 18, 99⟩,
    ⟨mtAfIncomingMsgExt, 0, byteAt 27, 99⟩]

def sapiLists : List CountedList := [⟨mtSapiReceiveDataInd, 7, uint16At 6, 84⟩]

def afResponseLists : List CountedList := [⟨mtAfDataRetrieve, 3, byteAt 3, 248⟩]

def sysResponseLists : List CountedList :=
  [⟨mtSysRamRead, 3, byteAt 3, 128⟩,
    ⟨mtSysOsalNvRead, 3, byteAt 3, 248⟩]

def sapiResponseLists : List CountedList := [⟨mtSapiReadConfiguration, 4, byteAt 4, 128⟩]

def countedLists (cmd0 : UInt8) : List CountedList :=
  let subsystem := cmd0 &&& mtRpcSubsystemMask
  let response := cmd0 &&& mtRpcCmdTypeMask = mtRpcCmdSrsp
  if subsystem = mtRpcSysZdo then if response then [] else zdoLists
  else if subsystem = mtRpcSysSys then if response then sysResponseLists else []
  else if subsystem = mtRpcSysAf then if response then afResponseLists else afLists
  else if subsystem = mtRpcSysSapi then if response then sapiResponseLists else sapiLists
  else []

def CountedList.Overruns (list : CountedList) (rpcBuff : Memory) (rpcLen : UInt8) : Prop :=
  list.shortest ≤ rpcLen.toNat ∧ list.capacity < list.count rpcBuff

def ofKind (lists : List CountedList) (cmd1 : UInt8) : List CountedList :=
  lists.filter fun list => list.cmd1 = cmd1

def Overruns (lists : List CountedList) (cmd1 : UInt8) (rpcBuff : Memory) (rpcLen : UInt8) : Prop :=
  ∃ list ∈ ofKind lists cmd1, list.Overruns rpcBuff rpcLen

section Readers

variable {Result : Type} {rpcBuff : Memory} {rpcLen : UInt8}

theorem run_bind_uint16 {β : Type} (next : UInt16 → Reader β) (buffer : Memory) (index : UInt8) :
    (readUint16 >>= next) buffer index =
      next (buildUint16 (buffer index.toNat) (buffer (index.toNat + 1))) buffer (index + 2) := rfl

theorem takes_uint16 : Takes readUint16 2 := fun buffer index =>
  ⟨buildUint16 (buffer index.toNat) (buffer (index.toNat + 1)), rfl⟩

theorem takes_uint32 : Takes readUint32 4 := (takes_or_bytes 0 4 0).map UInt32.ofNat

theorem takes_uint64 : Takes readUint64 8 := (takes_or_bytes 0 8 0).map UInt64.ofNat

theorem called_none {Record : Type} {make : Record → Callback} {reader : Reader Record} :
    called make reader rpcBuff 2 = none ↔ reader rpcBuff 2 = none := bind_pure_none

theorem printed_none {reader : Reader Unit} :
    printed reader rpcBuff 2 = none ↔ reader rpcBuff 2 = none := bind_pure_none

theorem guarded_none {reader : Reader Unit} {beyond : UInt8} {index : UInt8} {shortest : Nat}
    (next : beyond.toNat + 1 = shortest) {capacity count : Nat}
    (fails : reader rpcBuff index = none ↔ capacity < count) :
    (if rpcLen > beyond then reader else pure ()) rpcBuff index = none ↔
      shortest ≤ rpcLen.toNat ∧ capacity < count := by
  rw [← next, Nat.succ_le_iff, ← UInt8.lt_iff_toNat_lt, ← fails]
  by_cases long : rpcLen > beyond
  · rw [if_pos long]
    exact (and_iff_right long).symm
  · rw [if_neg long, run_pure]
    exact iff_of_false (Option.some_ne_none _) fun found => long found.1

theorem list_message_none (cmd1 : UInt8) {fields shortest place : Nat} {beyond : UInt8}
    (next : beyond.toNat + 1 = shortest) (behind : (2 + UInt8.ofNat fields).toNat = place)
    (width capacity : Nat) :
    listMessage fields beyond width capacity rpcLen rpcBuff 2 = none ↔
      CountedList.Overruns ⟨cmd1, shortest, byteAt place, capacity⟩ rpcBuff rpcLen := by
  rw [listMessage, run_bind_skip, run_bind_byte, behind]
  exact guarded_none next (fill_unused_none _ _ _ _ _)

theorem two_lists_none {First Second : Type} {first : Reader First}
    {second : First → UInt8 → Reader Second} {capacity place : Nat} {index : UInt8}
    (here : index.toNat = place + 1) (near : place + 1 + 2 * capacity < 256)
    (fills : byteAt place rpcBuff ≤ capacity → ∃ value,
      first rpcBuff index = some (value, index + UInt8.ofNat (byteAt place rpcBuff * 2)))
    (fails : capacity < byteAt place rpcBuff → first rpcBuff index = none)
    (later : ∀ value more behind, second value more rpcBuff behind = none ↔
      capacity < more.toNat) :
    (first >>= fun value => readByte >>= second value) rpcBuff index = none ↔
      capacity < byteAt place rpcBuff ∨ capacity < byteBehind place rpcBuff := by
  rw [run_bind]
  by_cases room : byteAt place rpcBuff ≤ capacity
  · have behind : (index + UInt8.ofNat (byteAt place rpcBuff * 2)).toNat =
        place + 1 + 2 * byteAt place rpcBuff := by
      rw [index_behind (by omega), here, Nat.mul_comm]
    rcases fills room with ⟨value, filled⟩
    rw [filled, Option.bind_some, run_bind_byte, behind, later, or_iff_right (Nat.not_lt.mpr room)]
    exact Iff.rfl
  · rw [fails (Nat.not_le.mp room)]
    exact iff_of_true rfl (.inl (Nat.not_le.mp room))

theorem fill_unused_some {width capacity count : Nat} (room : count ≤ capacity) (buffer : Memory)
    (index : UInt8) :
    fillUnused width capacity count buffer index =
      some ((), index + UInt8.ofNat (count * width)) := by
  rcases fill_array_some (takes_skip width) buffer index (by omega : 0 + count ≤ capacity)
    (Vector.replicate capacity ()) with ⟨filled, done⟩
  rw [fillUnused, run_bind, done, Option.bind_some, run_pure]

theorem match_desc_rsp_sent_none :
    processMatchDescRspSent rpcBuff 2 = none ↔
      16 < byteAt 4 rpcBuff ∨ 16 < byteBehind 4 rpcBuff := by
  rw [processMatchDescRspSent, run_bind_skip, run_bind_byte]
  apply two_lists_none (by rfl) (by decide)
  · intro room
    exact ⟨(), fill_unused_some room _ _⟩
  · intro many
    exact (fill_unused_none _ _ _ _ _).mpr many
  · intro value more behind
    exact fill_unused_none _ _ _ _ _

theorem simple_desc_rsp_none (rsp : SimpleDescRspFormat) :
    processSimpleDescRsp rsp rpcLen rpcBuff 2 = none ↔
      7 ≤ rpcLen.toNat ∧ (16 < byteAt 14 rpcBuff ∨ 16 < byteBehind 14 rpcBuff) := by
  simp only [processSimpleDescRsp, run_bind_byte, run_bind_uint16]
  by_cases long : rpcLen > 6
  · have length : 7 ≤ rpcLen.toNat := UInt8.lt_iff_toNat_lt.mp long
    rw [if_pos long, and_iff_right length]
    simp only [run_bind_byte, run_bind_uint16]
    apply two_lists_none (by rfl) (by decide)
    · intro room
      exact fill_array_some takes_uint16 _ _ (by rwa [Nat.zero_add]) _
    · intro many
      exact (fill_array_none takes_uint16 _ _ (Nat.zero_le 16) _).mpr (by rwa [Nat.zero_add])
    · intro value more behind
      rw [bind_pure_none, fill_array_none takes_uint16 _ _ (Nat.zero_le 16), Nat.zero_add]
  · have length : ¬7 ≤ rpcLen.toNat := fun above => long (UInt8.lt_iff_toNat_lt.mpr above)
    rw [if_neg long, run_pure]
    exact iff_of_false (Option.some_ne_none _) fun found => length found.1

theorem active_ep_rsp_none (rsp : ActiveEpRspFormat) :
    processActiveEpRsp rsp rpcLen rpcBuff 2 = none ↔
      7 ≤ rpcLen.toNat ∧ 77 < byteAt 7 rpcBuff := by
  simp only [processActiveEpRsp, run_bind_byte, run_bind_uint16]
  by_cases long : rpcLen > 6
  · have length : 7 ≤ rpcLen.toNat := UInt8.lt_iff_toNat_lt.mp long
    rw [if_pos long, and_iff_right length, bind_pure_none,
      fill_array_none takes_byte _ _ (Nat.zero_le 77), Nat.zero_add]
    exact Iff.rfl
  · have length : ¬7 ≤ rpcLen.toNat := fun above => long (UInt8.lt_iff_toNat_lt.mpr above)
    rw [if_neg long, run_pure]
    exact iff_of_false (Option.some_ne_none _) fun found => length found.1

theorem incoming_msg_none (rsp : IncomingMsgFormat) :
    processIncomingMsg rsp rpcLen rpcBuff 2 = none ↔
      18 ≤ rpcLen.toNat ∧ 99 < byteAt 18 rpcBuff := by
  rcases takes_uint32 rpcBuff (2 + 2 + 2 + 2 + 1 + 1 + 1 + 1 + 1) with ⟨timeStamp, taken⟩
  simp only [processIncomingMsg, run_bind_byte, run_bind_uint16]
  rw [run_bind, taken, Option.bind_some]
  simp only [run_bind_byte]
  by_cases long : rpcLen > 17
  · have length : 18 ≤ rpcLen.toNat := UInt8.lt_iff_toNat_lt.mp long
    rw [if_pos long, and_iff_right length, bind_pure_none,
      fill_array_none takes_byte _ _ (Nat.zero_le 99), Nat.zero_add]
    exact Iff.rfl
  · have length : ¬18 ≤ rpcLen.toNat := fun above => long (UInt8.lt_iff_toNat_lt.mpr above)
    rw [if_neg long, run_pure]
    exact iff_of_false (Option.some_ne_none _) fun found => length found.1

theorem incoming_msg_ext_none :
    processIncomingMsgExt rpcBuff 2 = none ↔ 99 < byteAt 27 rpcBuff := by
  rw [processIncomingMsgExt, run_bind_skip, run_bind_byte]
  exact fill_unused_none _ _ _ _ _

theorem receive_data_ind_none :
    processReceiveDataInd rpcLen rpcBuff 2 = none ↔
      7 ≤ rpcLen.toNat ∧ 84 < uint16At 6 rpcBuff := by
  rw [processReceiveDataInd, run_bind_skip, run_bind_uint16]
  exact guarded_none (by rfl) (fill_unused_none _ _ _ _ _)

theorem src_rtg_ind_some : processSrcRtgInd rpcBuff 2 ≠ none := by
  rw [processSrcRtgInd, run_bind_skip, run_bind_byte, Ne, fill_unused_none]
  exact Nat.not_lt.mpr (Nat.le_of_lt_succ (UInt8.toNat_lt _))

theorem end_device_annce_ind_some : processEndDeviceAnnceInd rpcBuff 2 ≠ none := by
  rcases takes_uint64 rpcBuff (2 + 2 + 2) with ⟨ieeeAddr, taken⟩
  simp only [processEndDeviceAnnceInd, run_bind_uint16]
  rw [run_bind, taken]
  exact Option.some_ne_none _

theorem leave_ind_some : processLeaveInd rpcBuff 2 ≠ none := by
  rcases takes_uint64 rpcBuff (2 + 2) with ⟨extAddr, taken⟩
  simp only [processLeaveInd, run_bind_uint16]
  rw [run_bind, taken]
  exact Option.some_ne_none _

end Readers

section Tables

variable {Result : Type} {lists : List CountedList} {cmd1 : UInt8} {rpcBuff : Memory}
  {rpcLen : UInt8}

theorem plain_case (absent : ofKind lists cmd1 = []) {outcome : Option Result}
    (fine : outcome ≠ none) : outcome = none ↔ Overruns lists cmd1 rpcBuff rpcLen := by
  refine iff_of_false fine ?_
  rw [Overruns, absent]
  intro overruns
  rcases overruns with ⟨list, member, _⟩
  cases member

theorem list_case {list : CountedList} (only : ofKind lists cmd1 = [list])
    {outcome : Option Result} (fails : outcome = none ↔ list.Overruns rpcBuff rpcLen) :
    outcome = none ↔ Overruns lists cmd1 rpcBuff rpcLen := by
  rw [Overruns, only, fails]
  simp only [List.mem_singleton, exists_eq_left]

theorem two_lists_case {first second : CountedList} (only : ofKind lists cmd1 = [first, second])
    {outcome : Option Result}
    (fails : outcome = none ↔ first.Overruns rpcBuff rpcLen ∨ second.Overruns rpcBuff rpcLen) :
    outcome = none ↔ Overruns lists cmd1 rpcBuff rpcLen := by
  rw [Overruns, only, fails]
  simp only [List.mem_cons, List.not_mem_nil, or_false, exists_eq_or_imp, exists_eq_left]

def Agree (cases : Cases Result) (lists : List CountedList) (rpcBuff : Memory) (rpcLen : UInt8) :
    Prop :=
  ∀ case ∈ cases, case.2 rpcBuff 2 = none ↔ Overruns lists case.1 rpcBuff rpcLen

def Fails (cases : Cases Result) (cmd1 : UInt8) (rpcBuff : Memory) : Prop :=
  ∃ reader, cases.lookup cmd1 = some reader ∧ reader rpcBuff 2 = none

theorem fails_iff {cases : Cases Result} (agree : Agree cases lists rpcBuff rpcLen)
    (known : ∀ list ∈ lists, list.cmd1 ∈ cases.map Prod.fst) :
    Fails cases cmd1 rpcBuff ↔ Overruns lists cmd1 rpcBuff rpcLen := by
  cases found : cases.lookup cmd1 with
  | none =>
      have absent : ofKind lists cmd1 = [] := by
        rw [List.lookup_eq_none_iff] at found
        rw [ofKind, List.filter_eq_nil_iff]
        intro list member same
        rw [decide_eq_true_iff] at same
        rcases List.mem_map.mp (known list member) with ⟨case, inside, key⟩
        have differs := found case inside
        rw [key, same, bne_self_eq_false] at differs
        cases differs
      rw [Fails, found, Overruns, absent]
      refine iff_of_false ?_ ?_
      · intro fails
        rcases fails with ⟨reader, same, _⟩
        cases same
      · intro overruns
        rcases overruns with ⟨list, member, _⟩
        cases member
  | some reader =>
      rcases List.lookup_eq_some_iff.mp found with ⟨before, behind, split, _⟩
      have inside : (cmd1, reader) ∈ cases := by
        rw [split]
        exact List.mem_append_right before List.mem_cons_self
      rw [← agree _ inside, Fails, found]
      constructor
      · intro failing
        rcases failing with ⟨other, same, fails⟩
        rw [Option.some.injEq] at same
        exact same ▸ fails
      · intro fails
        exact ⟨reader, rfl, fails⟩

theorem zdo_responses_agree : Agree zdoResponses [] rpcBuff rpcLen := by
  simp only [Agree, zdoResponses, List.forall_mem_singleton]
  exact plain_case rfl (Option.some_ne_none _)

theorem zdo_cases_agree (stack : Stack) :
    Agree (zdoCases stack rpcLen) zdoLists rpcBuff rpcLen := by
  simp only [Agree, zdoCases, List.forall_mem_cons, called_none, printed_none]
  refine ⟨plain_case rfl (Option.some_ne_none _),
    list_case rfl (list_message_none _ rfl rfl _ _),
    list_case rfl (list_message_none _ rfl rfl _ _),
    plain_case rfl (Option.some_ne_none _),
    plain_case rfl (Option.some_ne_none _),
    two_lists_case rfl ?_,
    list_case rfl (active_ep_rsp_none _),
    list_case rfl (list_message_none _ rfl rfl _ _),
    list_case rfl (list_message_none _ rfl rfl _ _),
    list_case rfl (list_message_none _ rfl rfl _ _),
    plain_case rfl (Option.some_ne_none _),
    plain_case rfl (Option.some_ne_none _),
    plain_case rfl (Option.some_ne_none _),
    plain_case rfl (Option.some_ne_none _),
    plain_case rfl (Option.some_ne_none _),
    list_case rfl (list_message_none _ rfl rfl _ _),
    list_case rfl (list_message_none _ rfl rfl _ _),
    list_case rfl (list_message_none _ rfl rfl _ _),
    list_case rfl (list_message_none _ rfl rfl _ _),
    plain_case rfl (Option.some_ne_none _),
    plain_case rfl (Option.some_ne_none _),
    plain_case rfl (Option.some_ne_none _),
    plain_case rfl end_device_annce_ind_some,
    two_lists_case rfl ?_,
    plain_case rfl (Option.some_ne_none _),
    plain_case rfl src_rtg_ind_some,
    list_case rfl (list_message_none _ rfl rfl _ _),
    plain_case rfl (Option.some_ne_none _),
    plain_case rfl (Option.some_ne_none _),
    plain_case rfl leave_ind_some,
    plain_case rfl (Option.some_ne_none _), ?_⟩
  · rw [simple_desc_rsp_none, and_or_left]
    exact Iff.rfl
  · rw [match_desc_rsp_sent_none]
    simp only [CountedList.Overruns, Nat.zero_le, true_and]
  · intro case member
    cases member

theorem af_responses_agree : Agree (afResponses rpcLen) afResponseLists rpcBuff rpcLen := by
  simp only [Agree, afResponses, List.forall_mem_singleton]
  exact list_case rfl (list_message_none _ rfl rfl _ _)

theorem af_cases_agree (stack : Stack) :
    Agree (afCases stack rpcLen) afLists rpcBuff rpcLen := by
  simp only [Agree, afCases, List.forall_mem_cons, called_none, printed_none]
  refine ⟨plain_case rfl (Option.some_ne_none _),
    list_case rfl (incoming_msg_none _),
    list_case rfl ?_,
    plain_case rfl (Option.some_ne_none _), ?_⟩
  · rw [incoming_msg_ext_none]
    simp only [CountedList.Overruns, Nat.zero_le, true_and]
  · intro case member
    cases member

theorem sys_responses_agree : Agree (sysResponses rpcLen) sysResponseLists rpcBuff rpcLen := by
  simp only [Agree, sysResponses, List.forall_mem_cons]
  refine ⟨plain_case rfl (Option.some_ne_none _),
    plain_case rfl (Option.some_ne_none _),
    list_case rfl (list_message_none _ rfl rfl _ _),
    plain_case rfl (Option.some_ne_none _),
    list_case rfl (list_message_none _ rfl rfl _ _),
    plain_case rfl (Option.some_ne_none _),
    plain_case rfl (Option.some_ne_none _),
    plain_case rfl (Option.some_ne_none _),
    plain_case rfl (Option.some_ne_none _),
    plain_case rfl (Option.some_ne_none _),
    plain_case rfl (Option.some_ne_none _),
    plain_case rfl (Option.some_ne_none _), ?_⟩
  intro case member
  cases member

theorem sys_cases_agree : Agree sysCases [] rpcBuff rpcLen := by
  simp only [Agree, sysCases, List.forall_mem_cons, printed_none]
  refine ⟨plain_case rfl (Option.some_ne_none _), plain_case rfl (Option.some_ne_none _), ?_⟩
  intro case member
  cases member

theorem sapi_responses_agree : Agree (sapiResponses rpcLen) sapiResponseLists rpcBuff rpcLen := by
  simp only [Agree, sapiResponses, List.forall_mem_cons]
  refine ⟨list_case rfl (list_message_none _ rfl rfl _ _),
    plain_case rfl (Option.some_ne_none _), ?_⟩
  intro case member
  cases member

theorem sapi_cases_agree : Agree (sapiCases rpcLen) sapiLists rpcBuff rpcLen := by
  simp only [Agree, sapiCases, List.forall_mem_cons, printed_none]
  refine ⟨plain_case rfl (Option.some_ne_none _),
    plain_case rfl (Option.some_ne_none _),
    list_case rfl receive_data_ind_none,
    plain_case rfl (Option.some_ne_none _),
    plain_case rfl (Option.some_ne_none _),
    plain_case rfl (Option.some_ne_none _), ?_⟩
  intro case member
  cases member

theorem process_srsp_none (responses : Cases Unit) :
    processSrsp responses rpcBuff rpcLen = none ↔ Fails responses (rpcBuff 1) rpcBuff := by
  rw [processSrsp, Fails]
  cases responses.lookup (rpcBuff 1) with
  | none =>
      refine iff_of_false (Option.some_ne_none _) ?_
      intro fails
      rcases fails with ⟨reader, same, _⟩
      cases same
  | some reader => simp only [Option.map_eq_none_iff, Option.some.injEq, exists_eq_left']

theorem subsystem_process_none {responses : Cases Unit} {cases : Cases (Option Callback)}
    {responseLists : List CountedList} (responsesAgree : Agree responses responseLists rpcBuff rpcLen)
    (responsesKnown : ∀ list ∈ responseLists, list.cmd1 ∈ responses.map Prod.fst)
    (casesAgree : Agree cases lists rpcBuff rpcLen)
    (casesKnown : ∀ list ∈ lists, list.cmd1 ∈ cases.map Prod.fst) :
    subsystemProcess responses cases rpcBuff rpcLen = none ↔
      Overruns (if rpcBuff 0 &&& mtRpcCmdTypeMask = mtRpcCmdSrsp then responseLists else lists)
        (rpcBuff 1) rpcBuff rpcLen := by
  rw [subsystemProcess]
  by_cases response : rpcBuff 0 &&& mtRpcCmdTypeMask = mtRpcCmdSrsp
  · rw [if_pos response, if_pos response, process_srsp_none,
      fails_iff responsesAgree responsesKnown]
  · rw [if_neg response, if_neg response, ← fails_iff casesAgree casesKnown, Fails]
    cases cases.lookup (rpcBuff 1) with
    | none =>
        refine iff_of_false (Option.some_ne_none _) ?_
        intro fails
        rcases fails with ⟨reader, same, _⟩
        cases same
    | some reader => simp only [Option.map_eq_none_iff, Option.some.injEq, exists_eq_left']

end Tables

/-- Processing a message stores behind the end of an array exactly if the message is of a kind with a
list and that list is longer than its array. -/
theorem mt_process_overruns_iff (stack : Stack) (rpcBuff : Memory) (rpcLen : UInt8) :
    mtProcess stack rpcBuff rpcLen = none ↔
      Overruns (countedLists (rpcBuff 0)) (rpcBuff 1) rpcBuff rpcLen := by
  simp only [mtProcess, countedLists]
  by_cases zdo : rpcBuff 0 &&& mtRpcSubsystemMask = mtRpcSysZdo
  · rw [if_pos zdo, if_pos zdo, zdoProcess]
    exact subsystem_process_none zdo_responses_agree (by simp) (zdo_cases_agree stack)
      (by simp [zdoLists, zdoCases])
  by_cases sys : rpcBuff 0 &&& mtRpcSubsystemMask = mtRpcSysSys
  · rw [if_neg zdo, if_neg zdo, if_pos sys, if_pos sys, sysProcess]
    exact subsystem_process_none sys_responses_agree (by simp [sysResponseLists, sysResponses])
      sys_cases_agree (by simp)
  by_cases af : rpcBuff 0 &&& mtRpcSubsystemMask = mtRpcSysAf
  · rw [if_neg zdo, if_neg zdo, if_neg sys, if_neg sys, if_pos af, if_pos af, afProcess]
    exact subsystem_process_none af_responses_agree (by simp [afResponseLists, afResponses])
      (af_cases_agree stack) (by simp [afLists, afCases])
  by_cases sapi : rpcBuff 0 &&& mtRpcSubsystemMask = mtRpcSysSapi
  · rw [if_neg zdo, if_neg zdo, if_neg sys, if_neg sys, if_neg af, if_neg af, if_pos sapi,
      if_pos sapi, sapiProcess]
    exact subsystem_process_none sapi_responses_agree
      (by simp [sapiResponseLists, sapiResponses]) sapi_cases_agree (by simp [sapiLists, sapiCases])
  · rw [if_neg zdo, if_neg zdo, if_neg sys, if_neg sys, if_neg af, if_neg af, if_neg sapi,
      if_neg sapi]
    exact plain_case rfl (Option.some_ne_none _)

/-- A simple descriptor response without a descriptor, as it answers a request that failed. -/
def headless (srcAddr : UInt16) (status : UInt8) (nwkAddr : UInt16) (len : UInt8) : List UInt8 :=
  uint16Bytes srcAddr ++ [status] ++ uint16Bytes nwkAddr ++ [len]

/-- Such a response is not told from one with a descriptor, since `rpcLen` counts the command bytes
and the checksum too: what the buffer held before decides whether the arrays are run over. -/
theorem headless_overruns_iff (stack : Stack) (rpcFrame : Memory) (srcAddr : UInt16) (status : UInt8)
    (nwkAddr : UInt16) (len : UInt8) :
    processMqClientMsg stack rpcFrame
        (messageOf (mtRpcCmdAreq ||| mtRpcSysZdo) mtZdoSimpleDescRsp
          (headless srcAddr status nwkAddr len)) = none ↔
      16 < byteAt 14 rpcFrame ∨ 16 < byteBehind 14 rpcFrame := by
  have size : (messageOf (mtRpcCmdAreq ||| mtRpcSysZdo) mtZdoSimpleDescRsp
      (headless srcAddr status nwkAddr len)).length = 9 := rfl
  have holds := holds_stored rpcFrame 0 (messageOf (mtRpcCmdAreq ||| mtRpcSysZdo)
    mtZdoSimpleDescRsp (headless srcAddr status nwkAddr len))
  have behind (place : Nat) (later : 9 ≤ place) : byteAt place (stored rpcFrame 0 (messageOf
      (mtRpcCmdAreq ||| mtRpcSysZdo) mtZdoSimpleDescRsp (headless srcAddr status nwkAddr len))) =
      byteAt place rpcFrame := by
    rw [byteAt, stored, if_neg (by rw [size]; omega), byteAt]
  have first := holds.1
  have second := holds.2.1
  rw [Nat.zero_add] at second
  have lists : countedLists (mtRpcCmdAreq ||| mtRpcSysZdo) = zdoLists := rfl
  have only : ofKind zdoLists mtZdoSimpleDescRsp =
      [⟨mtZdoSimpleDescRsp, 7, byteAt 14, 16⟩, ⟨mtZdoSimpleDescRsp, 7, byteBehind 14, 16⟩] := rfl
  have long : 7 ≤ (UInt8.ofNat 9).toNat := by decide
  rw [processMqClientMsg, mt_process_overruns_iff, first, second, lists, Overruns, only, size]
  simp only [List.mem_cons, List.not_mem_nil, or_false, exists_eq_or_imp, exists_eq_left,
    CountedList.Overruns, long, true_and, byteBehind, behind 14 (by decide),
    behind _ (show 9 ≤ 14 + 1 + 2 * byteAt 14 rpcFrame by omega)]

end SmartHome.MtOverruns
