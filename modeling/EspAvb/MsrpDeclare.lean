import EspAvb.MsrpTable

/-!
# Local declarations and withdrawals

`mrp.c` §6b. A changed Talker Advertise value is withdrawn at once and quarantined before the new
one goes out. What a call does to its entry is a function on the entry, so that each `mrp_declare_*`
writes one slot.
-/

namespace EspAvb

variable {cfg : Config}

def intTo3pe (value1 value2 value3 : Nat) : UInt8 := UInt8.ofNat (value1 * 36 + value2 * 6 + value3)

def threePeToInt (value : UInt8) : Nat × Nat × Nat :=
  (value.toNat / 36, value.toNat % 36 / 6, value.toNat % 6)

def mrpAttrEventNew : Nat := 0
def mrpAttrEventLv : Nat := 5

/-- AVB Lite carries talkers and listeners in CVU messages and no domains at all. -/
def mrpSendAttr (s : AvbState cfg) (p : cfg.Port) (cvuDest : Option EthAddr) (msg : MsrpMessage) :
    AvbState cfg :=
  if cfg.atdecc ∧ s.avbLite then
    match msg with
    | .domain _ _ => s
    | _ => s.addLog (.sent p s.nowUs (.cvu cvuDest) msg)
  else s.addLog (.sent p s.nowUs .mrpdu msg)

/-- A local event that leaves the Applicant newly due to send makes its first send due at once. -/
def mrpLiteNoteLocal (nowUs : Nat) (sm : MrpSm) (before : MrpApplicantState) (nextTxUs : Nat) :
    Nat :=
  if sm.applicant ≠ before ∧ mrpApplicantWillSend sm.applicant then nowUs else nextTxUs

/-- Priority 0 and the MAC address in AVB Lite, else the EUI-64 form. -/
def mrpOwnFailureBridgeId (s : AvbState cfg) : Octets 8 :=
  let mac := cfg.internalMacAddr.bytes
  if s.avbLite then .read 8 (0 :: 0 :: mac)
  else .read 8 (mac.take 3 ++ 0xff :: 0xfe :: mac.drop 3)

def avbLitePcp : BitVec 3 := 5

def mrpBuildTalkerInfo (s : AvbState cfg) (streamId : UniqueId) (streamDestAddr : EthAddr)
    (vlanId : Octets 2) (maxFrameSize maxIntervalFrames : Nat) (classB : Bool) : TalkerAdvInfo :=
  let index : Fin 2 := if classB ∧ 1 < cfg.msrpMappingsCount then 1 else 0
  { streamId
    streamDestAddr
    vlanId
    tspecMaxFrameSize := .ofNat 2 maxFrameSize
    tspecMaxFrameInterval := .ofNat 2 (if maxIntervalFrames = 0 then 1 else maxIntervalFrames)
    reserved := 0
    rank := 1
    priority := if s.avbLite then avbLitePcp else cfg.msrpMappingPriority index
    accumulatedLatency := .ofNat 4 15000 }

/-! ### Talker Advertise -/

/-- The Lv of the value an entry still declares. -/
def mrpTxTalkerValueLeave (s : AvbState cfg) (p : cfg.Port) (e : MsrpTalkerEntry cfg) :
    AvbState cfg :=
  mrpSendAttr s p none
    (.talker e.attrType false { e.wire with event := intTo3pe mrpAttrEventLv 0 0 })

/-- How long a bridge or an end station keeps a changed value back. -/
def Config.valueChangeHoldoffUs (cfg : Config) : Nat :=
  if cfg.roleBridge then 1500 * 1000 else 32 * 1000 * 1000

def msrpValueShrinkHoldoffUs : Nat := 1500 * 1000

def msrpValueChangeLeavealls : UInt32 := 2

/-- Same stream, destination, VLAN and class, no larger frame or interval count. -/
def mrpTalkerValueShrinks (oldInfo newInfo : TalkerAdvInfo) : Bool :=
  { oldInfo with tspecMaxFrameSize := .zero 2, tspecMaxFrameInterval := .zero 2 }
      = { newInfo with tspecMaxFrameSize := .zero 2, tspecMaxFrameInterval := .zero 2 }
    ∧ newInfo.tspecMaxFrameSize.toNat ≤ oldInfo.tspecMaxFrameSize.toNat
    ∧ newInfo.tspecMaxFrameInterval.toNat ≤ oldInfo.tspecMaxFrameInterval.toNat

/-- An end station may end the hold-off early, on the second Talker LeaveAll and a LeaveTime. -/
def mrpValueChangeHoldoffOver (s : AvbState cfg) (p : cfg.Port) (e : MsrpTalkerEntry cfg)
    (nowUs : Nat) : Bool :=
  e.redeclareAfterUs ≤ nowUs
    ∨ (cfg.roleBridge = false
      ∧ msrpValueChangeLeavealls ≤ s.talkerLeaveallCount p - e.holdoffLeaveallBase
      ∧ mrpLeaveTimerUs ≤ nowUs - s.talkerLeaveallUs p)

/-- The value a declaration would put on the wire. The latency is the stored one: MAP patches it
after every declare, and a difference in it alone is no change. -/
def mrpTalkerCandidate (s : AvbState cfg) (e : MsrpTalkerEntry cfg) (streamId : UniqueId)
    (streamDestAddr : EthAddr) (vlanId : Octets 2) (maxFrameSize maxIntervalFrames : Nat)
    (classB : Bool) : MsrpTalkerMessage :=
  { MsrpTalkerMessage.zero with
    info :=
      { mrpBuildTalkerInfo s streamId streamDestAddr vlanId maxFrameSize maxIntervalFrames classB
          with accumulatedLatency := e.wire.info.accumulatedLatency } }

/-- Whether a different value is a mid-life change: a fresh slot has a zero destination. -/
def mrpTalkerDeclaredBefore (e : MsrpTalkerEntry cfg) : Bool :=
  e.wire.info.streamDestAddr ≠ .zero 6

/-- The entry once its value has been compared with the candidate: as it was, or with the new value
in fresh state machines and, where it was declared before, a hold-off running. -/
def mrpTalkerTakeValue (s : AvbState cfg) (p : cfg.Port) (e : MsrpTalkerEntry cfg)
    (fresh : MsrpTalkerMessage) : MsrpTalkerEntry cfg :=
  if e.wire.info = fresh.info then e
  else if s.avbLite then
    { e with
      sm := mrpSmResetForNewValue
      redeclareAfterUs := 0
      declareHeld := false
      wire := fresh
      liteNextTxUs := s.nowUs }
  else if mrpTalkerDeclaredBefore e then
    let holdoffUs :=
      if mrpTalkerValueShrinks e.wire.info fresh.info then msrpValueShrinkHoldoffUs
      else cfg.valueChangeHoldoffUs
    { e with
      withdrawnUs := s.nowUs
      redeclareAfterUs := s.nowUs + holdoffUs
      holdoffLeaveallBase := s.talkerLeaveallCount p
      sm := mrpSmResetForNewValue
      wire := fresh }
  else { e with sm := mrpSmResetForNewValue, wire := fresh }

/-- What the comparison sends: the old value's Lv, twice, when a declared value changed. -/
def mrpTalkerLeaveOldValue (s : AvbState cfg) (p : cfg.Port) (e : MsrpTalkerEntry cfg)
    (fresh : MsrpTalkerMessage) : AvbState cfg :=
  if e.wire.info = fresh.info then s
  else if s.avbLite = false ∧ mrpTalkerDeclaredBefore e then
    (mrpTxTalkerValueLeave (mrpTxTalkerValueLeave s p e) p e).addLog (.valueReset p e)
  else s.addLog (.valueReset p e)

def mrpTalkerEndHoldoff (e : MsrpTalkerEntry cfg) : MsrpTalkerEntry cfg :=
  { e with redeclareAfterUs := 0, declareHeld := false }

/-- The Applicant's New! or Join!, and in AVB Lite its send schedule. -/
def mrpTalkerStepDeclare (nowUs : Nat) (before : MrpApplicantState) (e : MsrpTalkerEntry cfg) :
    MsrpTalkerEntry cfg :=
  let sm := mrpApplicantStep e.sm (mrpDeclareEvent e.sm)
  { e with sm, liteNextTxUs := mrpLiteNoteLocal nowUs sm before e.liteNextTxUs }

/-- The declaration itself, held where a hold-off is not over. -/
def mrpTalkerDeclare (s : AvbState cfg) (p : cfg.Port) (before : MrpApplicantState)
    (fresh : MsrpTalkerMessage) (e : MsrpTalkerEntry cfg) : MsrpTalkerEntry cfg :=
  if e.redeclareAfterUs ≠ 0 then
    if mrpValueChangeHoldoffOver s p e s.nowUs then
      mrpTalkerStepDeclare s.nowUs before { mrpTalkerEndHoldoff e with wire := fresh }
    else { e with declareHeld := true }
  else mrpTalkerStepDeclare s.nowUs before { e with wire := fresh }

def mrpDeclareTalkerAdvertise (s : AvbState cfg) (p : cfg.Port) (streamId : UniqueId)
    (streamDestAddr : EthAddr) (vlanId : Octets 2) (maxFrameSize maxIntervalFrames : Nat)
    (classB : Bool) : AvbState cfg :=
  match msrpTalkerFindOrInsert s p streamId .talkerAdvertise with
  | none => s
  | some (i, s) =>
      match s.talkers p i with
      | none => s
      | some e =>
          let e := { e with locallyOriginated := true }
          let fresh := mrpTalkerCandidate s e streamId streamDestAddr vlanId maxFrameSize
            maxIntervalFrames classB
          let before := e.sm.applicant
          (mrpTalkerLeaveOldValue s p e fresh).setTalker p i
            (some (mrpTalkerDeclare s p before fresh (mrpTalkerTakeValue s p e fresh)))

/-- One slot's turn in `mrp_talker_release_held`. -/
def mrpTalkerReleaseEntry (s : AvbState cfg) (p : cfg.Port) (e : MsrpTalkerEntry cfg) :
    MsrpTalkerEntry cfg :=
  if e.declareHeld ∧ e.redeclareAfterUs ≠ 0 ∧ mrpValueChangeHoldoffOver s p e s.nowUs then
    mrpTalkerStepDeclare s.nowUs e.sm.applicant (mrpTalkerEndHoldoff e)
  else e

def mrpTalkerReleaseHeld (s : AvbState cfg) (p : cfg.Port) : AvbState cfg :=
  { s with
    talkers := Function.update s.talkers p fun i =>
      (s.talkers p i).map (mrpTalkerReleaseEntry s p) }

/-- Whether declaring the value would withdraw the declared one and wait two LeaveAll periods. -/
def mrpTalkerAdvertiseChangeWaits (s : AvbState cfg) (p : cfg.Port) (streamId : UniqueId)
    (streamDestAddr : EthAddr) (vlanId : Octets 2) (maxFrameSize maxIntervalFrames : Nat)
    (classB : Bool) : Bool :=
  match talkerAt s p streamId .talkerAdvertise with
  | none => false
  | some e =>
      if e.redeclareAfterUs ≠ 0 ∨ !mrpTalkerDeclaredBefore e then false
      else
        let fresh := mrpTalkerCandidate s e streamId streamDestAddr vlanId maxFrameSize
          maxIntervalFrames classB
        e.wire.info ≠ fresh.info ∧ !mrpTalkerValueShrinks e.wire.info fresh.info

/-- Both entries of a stream are given up, when neither holds any state. -/
def mrpTalkerForget (s : AvbState cfg) (p : cfg.Port) (streamId : UniqueId) : AvbState cfg × Bool :=
  let advertise := msrpTalkerFind s p streamId .talkerAdvertise
  let failed := msrpTalkerFind s p streamId .talkerFailed
  let idle (ref : Option (TalkerRef cfg)) : Bool :=
    ((ref.bind (s.talkers p)).map fun e => mrpSmIdle e.sm).getD true
  if idle advertise ∧ idle failed then
    let drop (s : AvbState cfg) (ref : Option (TalkerRef cfg)) : AvbState cfg :=
      match ref with
      | some i => s.setTalker p i none
      | none => s
    (drop (drop s advertise) failed, true)
  else (s, false)

/-! ### Talker Failed -/

/-- `srcBridgeId` is the upstream bridge's when a failure is passed on, none for our own. -/
def mrpDeclareTalkerFailed (s : AvbState cfg) (p : cfg.Port) (streamId : UniqueId)
    (streamDestAddr : EthAddr) (vlanId : Octets 2) (maxFrameSize maxIntervalFrames : Nat)
    (failureCode : UInt8) (classB : Bool) (srcBridgeId : Option (Octets 8)) : AvbState cfg :=
  match msrpTalkerFindOrInsert s p streamId .talkerFailed with
  | none => s
  | some (i, s) =>
      s.modifyTalker p i fun e =>
        mrpTalkerStepDeclare s.nowUs e.sm.applicant
          { e with
            locallyOriginated := true
            wire :=
              { info := mrpBuildTalkerInfo s streamId streamDestAddr vlanId maxFrameSize
                  maxIntervalFrames classB
                failureBridgeId := srcBridgeId.getD (mrpOwnFailureBridgeId s)
                failureCode
                event := 0 } }

/-- The latency MAP aggregates, written over the declared one. -/
def mrpPatchEgressAccumulatedLatency (s : AvbState cfg) (p : cfg.Port) (streamId : UniqueId)
    (attrType : MsrpAttrType) (totalNs : Nat) : AvbState cfg :=
  match msrpTalkerFind s p streamId attrType with
  | none => s
  | some i =>
      s.modifyTalker p i fun e =>
        { e with
          wire := { e.wire with
            info := { e.wire.info with accumulatedLatency := .ofNat 4 totalNs } } }

/-! ### Listeners and domains -/

/-- A changed declaration type goes out as New. -/
def mrpListenerDeclareEvent (s : AvbState cfg) (decl : MsrpListenerEvent) (e : MsrpListenerEntry) :
    MrpEvent :=
  if s.avbLite = false ∧ e.declEvent ≠ decl ∧ mrpDeclareEvent e.sm = .join then .new
  else mrpDeclareEvent e.sm

/-- In AVB Lite a changed declaration type goes out at once, and again JoinTime later. -/
def mrpListenerDeclare (s : AvbState cfg) (decl : MsrpListenerEvent) (e : MsrpListenerEntry) :
    MsrpListenerEntry :=
  let sm := mrpApplicantStep e.sm (mrpListenerDeclareEvent s decl e)
  if s.avbLite ∧ e.declEvent ≠ decl
      ∧ (sm.applicant = .QA ∨ sm.applicant = .AA ∨ sm.applicant = .AP ∨ sm.applicant = .QP) then
    let sm := { sm with applicant := .VP }
    { e with
      declEvent := decl, sm, liteNextTxUs := mrpLiteNoteLocal s.nowUs sm .QA e.liteNextTxUs }
  else if s.avbLite ∧ e.declEvent ≠ decl ∧ sm.applicant = .AN then
    let sm := { sm with applicant := .VN }
    { e with
      declEvent := decl, sm, liteNextTxUs := mrpLiteNoteLocal s.nowUs sm e.sm.applicant s.nowUs }
  else
    { e with
      declEvent := decl, sm
      liteNextTxUs := mrpLiteNoteLocal s.nowUs sm e.sm.applicant e.liteNextTxUs }

def mrpDeclareListener (s : AvbState cfg) (p : cfg.Port) (streamId : UniqueId)
    (decl : MsrpListenerEvent) : AvbState cfg :=
  match msrpListenerFindOrInsert s p streamId with
  | none => s
  | some (i, s) => s.modifyListener p i (mrpListenerDeclare s decl)

def mrpDeclareDomain (s : AvbState cfg) (p : cfg.Port) (srClassId srClassPriority : UInt8)
    (srClassVid : Octets 2) : AvbState cfg :=
  match msrpDomainFindOrInsert s p srClassId with
  | none => s
  | some (i, s) =>
      s.modifyDomain p i fun e =>
        { wire := { e.wire with srClassId, srClassPriority, srClassVid }
          sm := mrpApplicantStep e.sm (mrpDeclareEvent e.sm) }

/-! ### Withdrawals -/

def mrpTalkerWithdraw (s : AvbState cfg) (e : MsrpTalkerEntry cfg) : MsrpTalkerEntry cfg :=
  let sm := mrpWithdrawStep s.mrpLite e.sm
  { e with sm, liteNextTxUs := mrpLiteNoteLocal s.nowUs sm e.sm.applicant e.liteNextTxUs }

def mrpWithdrawTalkerType (s : AvbState cfg) (p : cfg.Port) (streamId : UniqueId)
    (attrType : MsrpAttrType) (f : MsrpTalkerEntry cfg → MsrpTalkerEntry cfg) : AvbState cfg :=
  match msrpTalkerFind s p streamId attrType with
  | none => s
  | some i =>
      match s.talkers p i with
      | none => s
      | some e => (s.addLog (.withdrawn p e.sm)).setTalker p i (some (f e))

/-- Both forms of a stream's declaration; a held Advertise is cancelled too. -/
def mrpWithdrawTalker (s : AvbState cfg) (p : cfg.Port) (streamId : UniqueId) : AvbState cfg :=
  let s := mrpWithdrawTalkerType s p streamId .talkerAdvertise fun e =>
    mrpTalkerWithdraw s { e with declareHeld := false }
  mrpWithdrawTalkerType s p streamId .talkerFailed (mrpTalkerWithdraw s)

def mrpListenerWithdraw (s : AvbState cfg) (e : MsrpListenerEntry) : MsrpListenerEntry :=
  let sm := mrpWithdrawStep s.mrpLite e.sm
  { e with sm, liteNextTxUs := mrpLiteNoteLocal s.nowUs sm e.sm.applicant e.liteNextTxUs }

def mrpWithdrawListener (s : AvbState cfg) (p : cfg.Port) (streamId : UniqueId) : AvbState cfg :=
  match msrpListenerFind s p streamId with
  | none => s
  | some i =>
      match s.listeners p i with
      | none => s
      | some e =>
          (s.addLog (.withdrawn p e.sm)).setListener p i (some (mrpListenerWithdraw s e))

end EspAvb
