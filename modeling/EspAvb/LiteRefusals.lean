import EspAvb.Lib.Machine
import EspAvb.MsrpTx
import EspAvb.Talker

/-!
# The refusals of AVB Lite

`mrp.c` §6d, `s_lite_refusals`: a talker refuses one listener with a Talker Failed sent to that
listener alone. A pass of the transport hands `mrp_lite_sync_refusals` the listeners a stream
refuses now; the sends go out from `mrp_lite_flush` on each entry's own schedule.
-/

namespace EspAvb

variable {cfg : Config}

def msrpLiteRefusalTableSize : Nat := avbMaxNumOutputStreams * avbMaxNumConnectedListeners

/-- `msrp_lite_refusal_entry_t`; `wire` has the Talker Failed form. -/
structure MsrpLiteRefusalEntry where
  listenerMac : EthAddr
  wire : MsrpTalkerMessage
  sm : MrpSm
  liteNextTxUs : Nat
  deriving DecidableEq, Repr

def MsrpLiteRefusalEntry.key (e : MsrpLiteRefusalEntry) : UniqueId × EthAddr :=
  (e.wire.info.streamId, e.listenerMac)

abbrev RefusalTable := SlotTable MsrpLiteRefusalEntry msrpLiteRefusalTableSize

/-- What the transport passes to `mrp_lite_sync_refusals`. The rows of `connected_listeners` it takes
the refused listeners from have distinct addresses. -/
structure RefusalCall where
  streamId : UniqueId
  refused : List (EthAddr × UInt8)
  distinct : (refused.map Prod.fst).Nodup
  declaredDa : EthAddr
  vlanId : Octets 2
  maxFrameSize : Nat
  maxIntervalFrames : Nat
  classB : Bool

def RefusalCall.macs (call : RefusalCall) : List EthAddr := call.refused.map Prod.fst

def mrpLiteRefusalFind (t : RefusalTable) (streamId : UniqueId) (listenerMac : EthAddr) :
    Option (Fin msrpLiteRefusalTableSize) :=
  t.find fun e => e.key = (streamId, listenerMac)

/-! ### `mrp_lite_sync_refusals` -/

def mrpLiteRefusalWithdraw (s : AvbState cfg) (e : MsrpLiteRefusalEntry) : MsrpLiteRefusalEntry :=
  let sm := mrpWithdrawStep s.mrpLite e.sm
  { e with sm, liteNextTxUs := mrpLiteNoteLocal s.nowUs sm e.sm.applicant e.liteNextTxUs }

/-- The first scan's turn on one entry: a refusal no longer wanted is withdrawn. -/
def mrpLiteRefusalKeep (s : AvbState cfg) (call : RefusalCall) (e : MsrpLiteRefusalEntry) :
    MsrpLiteRefusalEntry :=
  if e.wire.info.streamId = call.streamId ∧ e.listenerMac ∉ call.macs
      ∧ mrpApplicantDeclaring e.sm.applicant then
    mrpLiteRefusalWithdraw s e
  else e

def mrpLiteRefusalCandidate (s : AvbState cfg) (call : RefusalCall) (failureCode : UInt8) :
    MsrpTalkerMessage :=
  { info := mrpBuildTalkerInfo s call.streamId call.declaredDa call.vlanId call.maxFrameSize
      call.maxIntervalFrames call.classB
    failureBridgeId := mrpOwnFailureBridgeId s
    failureCode
    event := 0 }

def mrpLiteRefusalDeclare (nowUs : Nat) (e : MsrpLiteRefusalEntry) : MsrpLiteRefusalEntry :=
  let sm := mrpApplicantStep e.sm (mrpDeclareEvent e.sm)
  { e with
    sm
    liteNextTxUs :=
      if sm.applicant ≠ e.sm.applicant ∨ sm.applicant = .VN then nowUs else e.liteNextTxUs }

/-- The second scan's turn on an entry found: changed, withdrawn before, or as it should be. -/
def mrpLiteRefusalRenew (nowUs : Nat) (candidate : MsrpTalkerMessage) (e : MsrpLiteRefusalEntry) :
    MsrpLiteRefusalEntry :=
  if e.wire.info ≠ candidate.info ∨ e.wire.failureCode ≠ candidate.failureCode then
    mrpLiteRefusalDeclare nowUs { e with sm := mrpSmResetForNewValue, wire := candidate }
  else if mrpApplicantDeclaring e.sm.applicant then e
  else mrpLiteRefusalDeclare nowUs e

/-- With no slot free the listener keeps hearing Advertise. -/
def mrpLiteRefuse (s : AvbState cfg) (call : RefusalCall) (t : RefusalTable)
    (refused : EthAddr × UInt8) : RefusalTable :=
  let candidate := mrpLiteRefusalCandidate s call refused.2
  match mrpLiteRefusalFind t call.streamId refused.1 with
  | some i =>
      match t i with
      | none => t
      | some e => t.set i (some (mrpLiteRefusalRenew s.nowUs candidate e))
  | none =>
      match t.free with
      | none => t
      | some i =>
          t.set i (some (mrpLiteRefusalDeclare s.nowUs
            { listenerMac := refused.1, wire := candidate, sm := .fresh, liteNextTxUs := 0 }))

def mrpLiteSyncRefusals (s : AvbState cfg) (call : RefusalCall) (t : RefusalTable) : RefusalTable :=
  call.refused.foldl (mrpLiteRefuse s call) fun i => (t i).map (mrpLiteRefusalKeep s call)

/-! ### Sending -/

/-- A Talker Failed as `mrp_send_attr` gets it for one listener. -/
structure RefusalSend where
  dest : EthAddr
  atUs : Nat
  wire : MsrpTalkerMessage
  deriving DecidableEq, Repr

def RefusalSend.key (m : RefusalSend) : UniqueId × EthAddr := (m.wire.info.streamId, m.dest)

def RefusalSend.isLv (m : RefusalSend) : Bool := m.wire.event = intTo3pe mrpAttrEventLv 0 0

def mrpTxFlushRefusal (nowUs : Nat) (e : MsrpLiteRefusalEntry) (pe : Nat) : RefusalSend :=
  { dest := e.listenerMac, atUs := nowUs, wire := { e.wire with event := intTo3pe pe 0 0 } }

/-- One slot's turn in `mrp_lite_flush`: once withdrawn and its Lv sent the refusal is gone. -/
def mrpLiteFlushRefusal (nowUs : Nat) (e : MsrpLiteRefusalEntry) :
    Option MsrpLiteRefusalEntry × Option RefusalSend :=
  let (sm, liteNextTxUs, pe) := mrpLiteEntryDue e.sm e.liteNextTxUs nowUs
  (if mrpApplicantDeclaring sm.applicant = false ∧ sm.applicant ≠ .LA then none
    else some { e with sm, liteNextTxUs },
    pe.map (mrpTxFlushRefusal nowUs e))

def mrpLiteFlushRefusals (nowUs : Nat) (t : RefusalTable) : RefusalTable × List RefusalSend :=
  (fun i => (t i).bind fun e => (mrpLiteFlushRefusal nowUs e).1,
    (List.finRange msrpLiteRefusalTableSize).filterMap fun i =>
      (t i).bind fun e => (mrpLiteFlushRefusal nowUs e).2)

def mrpLiteRedeclareRefusals (nowUs : Nat) (t : RefusalTable) : RefusalTable := fun i =>
  (t i).map fun e =>
    let (sm, liteNextTxUs) := mrpLiteRedeclareSm e.sm e.liteNextTxUs nowUs
    { e with sm, liteNextTxUs }

/-! ### The table over a run -/

/-- `lite` is `s_mrp_lite`, which `avb.c` keeps equal to `avb_lite`; `sent` is every refusal that went
out, newest last. -/
structure RefusalState where
  nowUs : Nat
  lite : Bool
  refusals : RefusalTable
  sent : List RefusalSend

def RefusalState.init : RefusalState :=
  { nowUs := 0, lite := false, refusals := fun _ => none, sent := [] }

/-- The rest of the state, at the clock and in the mode of the table. -/
def RefusalState.at (st : RefusalState) (s : AvbState cfg) : AvbState cfg :=
  { s with nowUs := st.nowUs, avbLite := st.lite, mrpLite := st.lite }

/-- `transport` is the switch of `avb_update_avb_lite_from_ptp`; `flush` and `leaveAllTimer` are
port 0's parts of `mrp_port_tick`. -/
inductive RefusalEvent (cfg : Config) where
  | elapse (us : Nat)
  | transport (lite : Bool)
  | sync (s : AvbState cfg) (call : RefusalCall)
  | flush
  | leaveAllTimer

def refusalFlush (st : RefusalState) : RefusalState :=
  let (refusals, sent) := mrpLiteFlushRefusals st.nowUs st.refusals
  { st with refusals, sent := st.sent ++ sent }

/-- Outside AVB Lite none of the three callers gets to the table. -/
def refusalStep (st : RefusalState) : RefusalEvent cfg → RefusalState
  | .elapse us => { st with nowUs := st.nowUs + us }
  | .transport lite =>
      if lite = st.lite then st
      else if lite then
        { st with lite, refusals := mrpLiteRedeclareRefusals st.nowUs st.refusals }
      else { st with lite, refusals := fun _ => none }
  | .sync s call =>
      if st.lite then { st with refusals := mrpLiteSyncRefusals (st.at s) call st.refusals } else st
  | .flush => if st.lite then refusalFlush st else st
  | .leaveAllTimer =>
      if st.lite then { st with refusals := mrpLiteRedeclareRefusals st.nowUs st.refusals } else st

/-! ### Small facts about one entry -/

@[simp]
theorem mrpLiteRefusalWithdraw_key (s : AvbState cfg) (e : MsrpLiteRefusalEntry) :
    (mrpLiteRefusalWithdraw s e).key = e.key := rfl

@[simp]
theorem mrpLiteRefusalKeep_key (s : AvbState cfg) (call : RefusalCall) (e : MsrpLiteRefusalEntry) :
    (mrpLiteRefusalKeep s call e).key = e.key := by
  unfold mrpLiteRefusalKeep
  split <;> rfl

@[simp]
theorem mrpLiteRefusalDeclare_wire (nowUs : Nat) (e : MsrpLiteRefusalEntry) :
    (mrpLiteRefusalDeclare nowUs e).wire = e.wire := rfl

@[simp]
theorem mrpLiteRefusalDeclare_key (nowUs : Nat) (e : MsrpLiteRefusalEntry) :
    (mrpLiteRefusalDeclare nowUs e).key = e.key := rfl

@[simp]
theorem mrpTxFlushRefusal_key (nowUs : Nat) (e : MsrpLiteRefusalEntry) (pe : Nat) :
    (mrpTxFlushRefusal nowUs e pe).key = e.key := rfl

@[simp]
theorem mrpLiteRefusalCandidate_streamId (s : AvbState cfg) (call : RefusalCall)
    (failureCode : UInt8) :
    (mrpLiteRefusalCandidate s call failureCode).info.streamId = call.streamId := rfl

theorem mrpLiteRefusalRenew_key {nowUs : Nat} {candidate : MsrpTalkerMessage}
    {e : MsrpLiteRefusalEntry} (h : candidate.info.streamId = e.wire.info.streamId) :
    (mrpLiteRefusalRenew nowUs candidate e).key = e.key := by
  unfold mrpLiteRefusalRenew
  split
  · simp [MsrpLiteRefusalEntry.key, mrpLiteRefusalDeclare, h]
  · split <;> rfl

end EspAvb
