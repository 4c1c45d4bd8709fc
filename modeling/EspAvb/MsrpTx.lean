import EspAvb.MsrpRx

/-!
# Transmitting MSRP and the timers

`mrp.c` §6c, §6d and the timer loops: what a JoinTimer, a PeriodicTimer, a LeaveAllTimer and the
LeaveTimers do to a port's tables, and the AVB Lite send schedule. MVRP and the AVB Lite refusals
have tables of their own, which none of these reads.
-/

namespace EspAvb

variable {cfg : Config}

/-! ### The MRPDU of one declaration -/

def octetsOf16 (k : Nat) : List UInt8 := (Octets.ofNat 2 k).bytes

/-- The bit fields share one octet: priority, rank and reserved from the top. -/
def talkerAdvInfoBytes (info : TalkerAdvInfo) : List UInt8 :=
  info.streamId.bytes ++ info.streamDestAddr.bytes ++ info.vlanId.bytes
    ++ info.tspecMaxFrameSize.bytes ++ info.tspecMaxFrameInterval.bytes
    ++ [UInt8.ofNat (info.priority.toNat * 32 + info.rank.toNat * 16 + info.reserved.toNat)]
    ++ info.accumulatedLatency.bytes

/-- FirstValue and events, as they follow the vector header. -/
def MsrpMessage.attrBytes : MsrpMessage → List UInt8
  | .talker .talkerAdvertise _ wire => talkerAdvInfoBytes wire.info ++ [wire.event]
  | .talker _ _ wire =>
      talkerAdvInfoBytes wire.info ++ wire.failureBridgeId.bytes ++ [wire.failureCode, wire.event]
  | .listener _ wire =>
      wire.streamId.bytes ++ [wire.event, UInt8.ofNat (wire.declaration.code * 64)]
  | .domain _ wire =>
      [wire.srClassId, wire.srClassPriority] ++ wire.srClassVid.bytes ++ [wire.event]

/-- A talker message that is not an Advertise goes out as Failed. -/
def MsrpMessage.attrType : MsrpMessage → MsrpAttrType
  | .talker .talkerAdvertise _ _ => .talkerAdvertise
  | .talker _ _ _ => .talkerFailed
  | .listener _ _ => .listener
  | .domain _ _ => .domain

def MsrpMessage.leaveAll : MsrpMessage → Bool
  | .talker _ leaveAll _ => leaveAll
  | .listener leaveAll _ => leaveAll
  | .domain leaveAll _ => leaveAll

/-- `attr_list_len` counts the vector header, the attribute and the EndMark. -/
def msrpAttrListLen : MsrpAttrType → Nat
  | .talkerAdvertise => 30
  | .talkerFailed => 39
  | .listener => 14
  | .domain => 9

/-- The MRPDU `mrp_send_attr` builds: one message with one vector of one value. -/
def MsrpMessage.mrpdu (msg : MsrpMessage) : List UInt8 :=
  [0, UInt8.ofNat msg.attrType.code, UInt8.ofNat (msrpFirstValueLen msg.attrType)]
    ++ octetsOf16 (msrpAttrListLen msg.attrType)
    ++ [if msg.leaveAll then 0x20 else 0, 1] ++ msg.attrBytes ++ [0, 0, 0, 0]

/-! ### JoinTimer -/

/-- The flush in progress: which attribute types still owe their LeaveAll. -/
structure FlushPass (cfg : Config) where
  state : AvbState cfg
  leaveallTypes : List MsrpAttrType

def allAttrTypes : List MsrpAttrType := [.talkerAdvertise, .talkerFailed, .listener, .domain]

/-- The listener's talker, for the CVU message of AVB Lite. -/
def listenerCvuDest (s : AvbState cfg) (p : cfg.Port) (streamId : UniqueId) : Option EthAddr :=
  let mac (attrType : MsrpAttrType) : Option EthAddr :=
    (talkerAt s p streamId attrType).bind fun t =>
      if t.srcMac = .zero 6 then none else some t.srcMac
  (mac .talkerAdvertise).or (mac .talkerFailed)

def mrpTxFlushTalker (s : AvbState cfg) (p : cfg.Port) (e : MsrpTalkerEntry cfg) (leaveAll : Bool)
    (pe : Nat) : AvbState cfg :=
  mrpSendAttr s p none (.talker e.attrType leaveAll { e.wire with event := intTo3pe pe 0 0 })

def mrpTxFlushListener (s : AvbState cfg) (p : cfg.Port) (e : MsrpListenerEntry) (leaveAll : Bool)
    (pe : Nat) : AvbState cfg :=
  mrpSendAttr s p (listenerCvuDest s p e.wire.streamId)
    (.listener leaveAll
      { e.wire with event := intTo3pe pe 0 0, declaration := e.declEvent })

def mrpTxFlushDomain (s : AvbState cfg) (p : cfg.Port) (e : MsrpDomainEntry) (leaveAll : Bool)
    (pe : Nat) : AvbState cfg :=
  mrpSendAttr s p none (.domain leaveAll { e.wire with event := intTo3pe pe 0 0 })

def mrpTxFlushTalkerSlot (p : cfg.Port) (txEv : MrpEvent) (pass : FlushPass cfg)
    (i : TalkerRef cfg) : FlushPass cfg :=
  match pass.state.talkers p i with
  | none => pass
  | some e =>
      let (sm, pe) := mrpFlushSm e.sm txEv
      let s := pass.state.setTalker p i (some { e with sm })
      match pe with
      | none => { pass with state := s }
      | some pe =>
          { state := mrpTxFlushTalker s p e (e.attrType ∈ pass.leaveallTypes) pe
            leaveallTypes := pass.leaveallTypes.filter (· ≠ e.attrType) }

def mrpTxFlushListenerSlot (p : cfg.Port) (txEv : MrpEvent) (pass : FlushPass cfg)
    (i : ListenerRef cfg) : FlushPass cfg :=
  match pass.state.listeners p i with
  | none => pass
  | some e =>
      let (sm, pe) := mrpFlushSm e.sm txEv
      let s := pass.state.setListener p i (some { e with sm })
      match pe with
      | none => { pass with state := s }
      | some pe =>
          { state := mrpTxFlushListener s p e (.listener ∈ pass.leaveallTypes) pe
            leaveallTypes := pass.leaveallTypes.filter (· ≠ .listener) }

def mrpTxFlushDomainSlot (p : cfg.Port) (txEv : MrpEvent) (pass : FlushPass cfg)
    (i : DomainRef) : FlushPass cfg :=
  match pass.state.domains p i with
  | none => pass
  | some e =>
      let (sm, pe) := mrpFlushSm e.sm txEv
      let s := pass.state.setDomain p i (some { e with sm })
      match pe with
      | none => { pass with state := s }
      | some pe =>
          { state := mrpTxFlushDomain s p e (.domain ∈ pass.leaveallTypes) pe
            leaveallTypes := pass.leaveallTypes.filter (· ≠ .domain) }

/-- AVB Lite sends talker and listener declarations from `mrpLiteFlush` instead. -/
def mrpTxFlushPort (s : AvbState cfg) (p : cfg.Port) : AvbState cfg :=
  let leaveall := s.mrpLeaveallTxPending p
  let txEv : MrpEvent := if leaveall then .txLA else .tx
  let pass : FlushPass cfg :=
    { state := s, leaveallTypes := if leaveall then allAttrTypes else [] }
  let pass :=
    if s.avbLite then pass
    else
      let pass := (List.finRange cfg.talkerTableSize).foldl (mrpTxFlushTalkerSlot p txEv) pass
      (List.finRange cfg.listenerTableSize).foldl (mrpTxFlushListenerSlot p txEv) pass
  let pass := (List.finRange msrpDomainTableSize).foldl (mrpTxFlushDomainSlot p txEv) pass
  { pass.state with
    mrpLeaveallTxPending := Function.update pass.state.mrpLeaveallTxPending p false }

/-! ### AVB Lite send schedule -/

def mrpLiteJoinTimeUs : Nat := 200 * 1000

/-- Fires tx! on an entry whose send is due: the entry's new state, its next send, what it sends. -/
def mrpLiteEntryDue (sm : MrpSm) (nextTxUs nowUs : Nat) : MrpSm × Nat × Option Nat :=
  if mrpApplicantWillSend sm.applicant = false ∨ nowUs < nextTxUs then
    ({ sm with pendingTx := .none }, nextTxUs, none)
  else
    let (sm, pe) := mrpFlushSm sm .tx
    (sm, nowUs + mrpLiteJoinTimeUs, pe)

def mrpLiteFlushTalkerSlot (p : cfg.Port) (s : AvbState cfg) (i : TalkerRef cfg) : AvbState cfg :=
  match s.talkers p i with
  | none => s
  | some e =>
      let (sm, liteNextTxUs, pe) := mrpLiteEntryDue e.sm e.liteNextTxUs s.nowUs
      let s := s.setTalker p i (some { e with sm, liteNextTxUs })
      match pe with
      | none => s
      | some pe => mrpTxFlushTalker s p e false pe

def mrpLiteFlushListenerSlot (p : cfg.Port) (s : AvbState cfg) (i : ListenerRef cfg) :
    AvbState cfg :=
  match s.listeners p i with
  | none => s
  | some e =>
      let (sm, liteNextTxUs, pe) := mrpLiteEntryDue e.sm e.liteNextTxUs s.nowUs
      let s := s.setListener p i (some { e with sm, liteNextTxUs })
      match pe with
      | none => s
      | some pe => mrpTxFlushListener s p e false pe

def mrpLiteFlush (s : AvbState cfg) (p : cfg.Port) : AvbState cfg :=
  let s := (List.finRange cfg.talkerTableSize).foldl (mrpLiteFlushTalkerSlot p) s
  (List.finRange cfg.listenerTableSize).foldl (mrpLiteFlushListenerSlot p) s

/-- Only the Applicant steps, as after a LeaveAll; registrations stay as they are. -/
def mrpLiteRedeclareSm (sm : MrpSm) (nextTxUs nowUs : Nat) : MrpSm × Nat :=
  if mrpApplicantDeclaring sm.applicant = false then (sm, nextTxUs)
  else
    let stepped := mrpApplicantStep sm .rLA
    (stepped, mrpLiteNoteLocal nowUs stepped sm.applicant nextTxUs)

def mrpLiteRedeclareAll (s : AvbState cfg) (p : cfg.Port) : AvbState cfg :=
  { s with
    talkers := Function.update s.talkers p fun i => (s.talkers p i).map fun e =>
      if e.locallyOriginated then
        let (sm, liteNextTxUs) := mrpLiteRedeclareSm e.sm e.liteNextTxUs s.nowUs
        { e with sm, liteNextTxUs }
      else e
    listeners := Function.update s.listeners p fun i => (s.listeners p i).map fun e =>
      let (sm, liteNextTxUs) := mrpLiteRedeclareSm e.sm e.liteNextTxUs s.nowUs
      { e with sm, liteNextTxUs } }

/-! ### PeriodicTimer and LeaveAllTimer -/

def mrpPortDispatchPeriodic (s : AvbState cfg) (p : cfg.Port) : AvbState cfg :=
  { s with
    talkers := Function.update s.talkers p fun i => (s.talkers p i).map fun e =>
      { e with sm := mrpApplicantStep e.sm .periodic }
    listeners := Function.update s.listeners p fun i => (s.listeners p i).map fun e =>
      { e with sm := mrpApplicantStep e.sm .periodic }
    domains := Function.update s.domains p fun i => (s.domains p i).map fun e =>
      { e with sm := mrpApplicantStep e.sm .periodic } }

def mrpStationSelfLeaveUs : Nat := 10 * 1000 * 1000

/-- A station's own LeaveAll reaches its Registrars too, with a LeaveTime of its own. -/
def mrpSelfLeaveSm (nowUs : Nat) (sm : MrpSm) : MrpSm :=
  if sm.registrar = .IN then
    { mrpRegistrarStep nowUs sm .rLA with leaveTimerUs := nowUs + mrpStationSelfLeaveUs }
  else sm

def mrpStationSelfLeaveall (s : AvbState cfg) (p : cfg.Port) : AvbState cfg :=
  { s with
    talkers := Function.update s.talkers p fun i => (s.talkers p i).map fun e =>
      { e with sm := mrpSelfLeaveSm s.nowUs e.sm }
    listeners := Function.update s.listeners p fun i => (s.listeners p i).map fun e =>
      { e with sm := mrpSelfLeaveSm s.nowUs e.sm }
    domains := Function.update s.domains p fun i => (s.domains p i).map fun e =>
      { e with sm := mrpSelfLeaveSm s.nowUs e.sm } }

/-- The LeaveAllTimer's branch of `mrp_port_tick`. An access point without stations, `apEmpty`, lets
the burst go. -/
def mrpLeaveallTimer (s : AvbState cfg) (p : cfg.Port) (apEmpty : Bool) : AvbState cfg :=
  let port := cfg.port p
  if cfg.roleBridge ∧ port.medium = .wifiFtm ∧ port.wifiMode = .ap ∧ apEmpty then s
  else if s.avbLite then mrpLiteRedeclareAll s p
  else
    let s := { s with mrpLeaveallTxPending := Function.update s.mrpLeaveallTxPending p true }
    if port.medium = .wifiFtm ∧ port.wifiMode = .sta then mrpStationSelfLeaveall s p else s

/-! ### LeaveTimers -/

/-- The edge a LeaveTimer's expiry is passed on as: LV running out counts as deregistered. -/
def mrpLeaveTimerTransition (before after : MrpRegistrarState) : MrpRegTransition :=
  if before = .LV ∧ after = .MT then .deregister else mrpRegTransition before after

def mrpLeaveTimerDue (sm : MrpSm) (nowUs : Nat) : Bool :=
  sm.leaveTimerUs ≠ 0 ∧ sm.leaveTimerUs ≤ nowUs

def mrpLeaveTimerTalker (p : cfg.Port) (s : AvbState cfg) (i : TalkerRef cfg) : AvbState cfg :=
  match s.talkers p i with
  | none => s
  | some e =>
      if mrpLeaveTimerDue e.sm s.nowUs then
        let sm := mrpSmStep s.nowUs e.sm .leaveTimer
        let s := s.setTalker p i (some { e with sm })
        let tr := mrpLeaveTimerTransition e.sm.registrar sm.registrar
        if tr = .none then s
        else mrpOnTalkerRegistrarChange (s.addLog (.unregistered p e.sm)) p e.attrType e.wire tr
      else s

def mrpLeaveTimerListener (p : cfg.Port) (s : AvbState cfg) (i : ListenerRef cfg) : AvbState cfg :=
  match s.listeners p i with
  | none => s
  | some e =>
      if mrpLeaveTimerDue e.sm s.nowUs then
        let sm := mrpSmStep s.nowUs e.sm .leaveTimer
        let s := s.setListener p i (some { e with sm })
        let tr := mrpLeaveTimerTransition e.sm.registrar sm.registrar
        if tr = .none then s
        else
          mrpOnListenerRegistrarChange (s.addLog (.unregistered p e.sm)) p e.wire.streamId tr true
      else s

def mrpLeaveTimerDomain (p : cfg.Port) (s : AvbState cfg) (i : DomainRef) : AvbState cfg :=
  match s.domains p i with
  | none => s
  | some e =>
      if mrpLeaveTimerDue e.sm s.nowUs then
        let sm := mrpSmStep s.nowUs e.sm .leaveTimer
        let s := s.setDomain p i (some { e with sm })
        mrpOnDomainRegistrarChange s p e.wire (mrpRegTransition e.sm.registrar sm.registrar)
      else s

def mrpCvuIdleTimeoutUs : Nat := 16 * 1000 * 1000

/-- AVB Lite: with no LeaveAll, a registration not refreshed for too long is dropped. -/
def mrpCvuIdle (sm : MrpSm) (lastRefreshUs nowUs : Nat) : Bool :=
  sm.registrar = .IN ∧ lastRefreshUs ≠ 0 ∧ mrpCvuIdleTimeoutUs < nowUs - lastRefreshUs

def mrpIdleTimeoutTalker (p : cfg.Port) (s : AvbState cfg) (i : TalkerRef cfg) : AvbState cfg :=
  match s.talkers p i with
  | none => s
  | some e =>
      if mrpCvuIdle e.sm e.lastRefreshUs s.nowUs then
        let s := s.setTalker p i (some { e with sm := { e.sm with registrar := .MT } })
        mrpOnTalkerRegistrarChange (s.addLog (.unregistered p e.sm)) p e.attrType e.wire .deregister
      else s

def mrpIdleTimeoutListener (p : cfg.Port) (s : AvbState cfg) (i : ListenerRef cfg) :
    AvbState cfg :=
  match s.listeners p i with
  | none => s
  | some e =>
      if mrpCvuIdle e.sm e.lastRefreshUs s.nowUs then
        let s := s.setListener p i (some { e with sm := { e.sm with registrar := .MT } })
        mrpOnListenerRegistrarChange (s.addLog (.unregistered p e.sm)) p e.wire.streamId .deregister
          true
      else s

def mrpPortDispatchLeaveTimers (s : AvbState cfg) (p : cfg.Port) : AvbState cfg :=
  let s := (List.finRange cfg.talkerTableSize).foldl (mrpLeaveTimerTalker p) s
  let s :=
    if s.avbLite then
      let s := (List.finRange cfg.talkerTableSize).foldl (mrpIdleTimeoutTalker p) s
      (List.finRange cfg.listenerTableSize).foldl (mrpIdleTimeoutListener p) s
    else s
  let s := (List.finRange cfg.listenerTableSize).foldl (mrpLeaveTimerListener p) s
  (List.finRange msrpDomainTableSize).foldl (mrpLeaveTimerDomain p) s

end EspAvb
