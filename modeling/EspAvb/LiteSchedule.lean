import EspAvb.Lib.Machine
import EspAvb.MsrpTx

/-!
# The schedule of an AVB Lite declaration

`mrp.c` §6b and §6d: one entry of `s_msrp_talkers` or `s_msrp_listeners` in AVB Lite, from the calls
that declare and withdraw it to the sends of `mrp_lite_flush`. The calls step the Applicant and set
the entry's next send; where the Applicant is left to its own the send may be late, or not come.
-/

namespace EspAvb

variable {cfg : Config}

inductive LiteEntry (cfg : Config) where
  | talker (e : MsrpTalkerEntry cfg)
  | listener (e : MsrpListenerEntry)

/-- A declare call for the stream of the entry. -/
inductive LiteDeclare where
  | advertise (streamDestAddr : EthAddr) (vlanId : Octets 2)
      (maxFrameSize maxIntervalFrames : Nat) (classB : Bool)
  | failed (streamDestAddr : EthAddr) (vlanId : Octets 2) (maxFrameSize maxIntervalFrames : Nat)
      (failureCode : UInt8) (classB : Bool) (srcBridgeId : Option (Octets 8))
  | listener (decl : MsrpListenerEvent)

namespace LiteEntry

def sm : LiteEntry cfg → MrpSm
  | talker e => e.sm
  | listener e => e.sm

def applicant (entry : LiteEntry cfg) : MrpApplicantState := entry.sm.applicant

def nextTxUs : LiteEntry cfg → Nat
  | talker e => e.liteNextTxUs
  | listener e => e.liteNextTxUs

/-- What a flush has `mrp_tx_flush_talker` or `mrp_tx_flush_listener` hand to `mrp_send_attr`. -/
def message (pe : Nat) : LiteEntry cfg → MsrpMessage
  | talker e => .talker e.attrType false { e.wire with event := intTo3pe pe 0 0 }
  | listener e =>
      .listener false { e.wire with event := intTo3pe pe 0 0, declaration := e.declEvent }

/-! ### Calls -/

def talkerWire (s : AvbState cfg) (e : MsrpTalkerEntry cfg) : LiteDeclare → MsrpTalkerMessage
  | .advertise streamDestAddr vlanId maxFrameSize maxIntervalFrames classB =>
      mrpTalkerCandidate s e e.wire.info.streamId streamDestAddr vlanId maxFrameSize
        maxIntervalFrames classB
  | .failed streamDestAddr vlanId maxFrameSize maxIntervalFrames failureCode classB srcBridgeId =>
      { info := mrpBuildTalkerInfo s e.wire.info.streamId streamDestAddr vlanId maxFrameSize
          maxIntervalFrames classB
        failureBridgeId := srcBridgeId.getD (mrpOwnFailureBridgeId s)
        failureCode
        event := 0 }
  | .listener _ => e.wire

/-- `mrp_declare_talker_advertise` from where the entry is found. -/
def declareAdvertise (s : AvbState cfg) (p : cfg.Port) (e : MsrpTalkerEntry cfg)
    (call : LiteDeclare) : MsrpTalkerEntry cfg :=
  let e := { e with locallyOriginated := true }
  let fresh := talkerWire s e call
  mrpTalkerDeclare s p e.sm.applicant fresh (mrpTalkerTakeValue s p e fresh)

/-- `mrp_declare_talker_failed` from where the entry is found. -/
def declareFailed (s : AvbState cfg) (e : MsrpTalkerEntry cfg) (call : LiteDeclare) :
    MsrpTalkerEntry cfg :=
  mrpTalkerStepDeclare s.nowUs e.sm.applicant
    { e with locallyOriginated := true, wire := talkerWire s e call }

/-- A call finds the entry of its own attribute type only. -/
def declare (s : AvbState cfg) (p : cfg.Port) : LiteEntry cfg → LiteDeclare → LiteEntry cfg
  | talker e, .advertise da vlan mfs mfi classB =>
      if e.attrType = .talkerAdvertise then
        talker (declareAdvertise s p e (.advertise da vlan mfs mfi classB))
      else talker e
  | talker e, .failed da vlan mfs mfi code classB srcBridgeId =>
      if e.attrType = .talkerFailed then
        talker (declareFailed s e (.failed da vlan mfs mfi code classB srcBridgeId))
      else talker e
  | listener e, .listener decl => listener (mrpListenerDeclare s decl e)
  | entry, _ => entry

def withdraw (s : AvbState cfg) : LiteEntry cfg → LiteEntry cfg
  | talker e =>
      talker (mrpTalkerWithdraw s
        (if e.attrType = .talkerAdvertise then { e with declareHeld := false } else e))
  | listener e => listener (mrpListenerWithdraw s e)

/-! ### Timers and peers -/

def schedule (sm : MrpSm) (liteNextTxUs : Nat) : LiteEntry cfg → LiteEntry cfg
  | talker e => talker { e with sm, liteNextTxUs }
  | listener e => listener { e with sm, liteNextTxUs }

/-- The entry's turn in `mrp_lite_flush`. -/
def flush (nowUs : Nat) (entry : LiteEntry cfg) : LiteEntry cfg × Option MsrpMessage :=
  let (sm, liteNextTxUs, pe) := mrpLiteEntryDue entry.sm entry.nextTxUs nowUs
  (entry.schedule sm liteNextTxUs, pe.map fun pe => entry.message pe)

def originated : LiteEntry cfg → Bool
  | talker e => e.locallyOriginated
  | listener _ => true

/-- The entry's turn in `mrp_lite_redeclare_all`. -/
def redeclare (nowUs : Nat) (entry : LiteEntry cfg) : LiteEntry cfg :=
  if entry.originated then
    let (sm, liteNextTxUs) := mrpLiteRedeclareSm entry.sm entry.nextTxUs nowUs
    entry.schedule sm liteNextTxUs
  else entry

/-- The event an attribute of a peer has for this entry. -/
def hears : LiteEntry cfg → MsrpMessage → Option MrpEvent
  | talker e, .talker attrType _ wire =>
      if attrType = e.attrType ∧ wire.info.streamId = e.wire.info.streamId then
        some (firstEvent wire.event)
      else none
  | listener e, .listener _ wire =>
      if wire.streamId = e.wire.streamId then some (firstEvent wire.event) else none
  | _, _ => none

def receive (nowUs : Nat) (srcAddr : Option EthAddr) : LiteEntry cfg → MsrpMessage → LiteEntry cfg
  | talker e, .talker _ _ wire => talker (msrpTalkerReceive nowUs wire srcAddr e)
  | listener e, .listener _ wire => listener (msrpListenerReceive nowUs wire srcAddr e)
  | entry, _ => entry

end LiteEntry

/-! ### What a declaration says -/

/-- Value and declaration type: what of a message is not its event. An Advertise has no failure. -/
def MsrpMessage.plain : MsrpMessage → MsrpMessage
  | .talker .talkerAdvertise _ wire =>
      .talker .talkerAdvertise false { MsrpTalkerMessage.zero with info := wire.info }
  | .talker attrType _ wire => .talker attrType false { wire with event := 0 }
  | .listener _ wire => .listener false { wire with event := 0 }
  | .domain _ wire => .domain false { wire with event := 0 }

def MsrpMessage.event : MsrpMessage → UInt8
  | .talker _ _ wire => wire.event
  | .listener _ wire => wire.event
  | .domain _ wire => wire.event

def MsrpMessage.isLv (msg : MsrpMessage) : Bool := msg.event = intTo3pe mrpAttrEventLv 0 0

namespace LiteEntry

def value (entry : LiteEntry cfg) : MsrpMessage := (entry.message 0).plain

/-- What a call asks the entry to declare, when it finds it. -/
def asked (s : AvbState cfg) : LiteEntry cfg → LiteDeclare → Option MsrpMessage
  | talker e, .advertise da vlan mfs mfi classB =>
      if e.attrType = .talkerAdvertise then
        some (MsrpMessage.talker .talkerAdvertise false
          (talkerWire s e (.advertise da vlan mfs mfi classB))).plain
      else none
  | talker e, .failed da vlan mfs mfi code classB srcBridgeId =>
      if e.attrType = .talkerFailed then
        some (MsrpMessage.talker .talkerFailed false
          (talkerWire s e (.failed da vlan mfs mfi code classB srcBridgeId))).plain
      else none
  | listener e, .listener decl =>
      some (.listener false { e.wire with event := 0, declaration := decl })
  | _, _ => none

def declaring (entry : LiteEntry cfg) : Bool := mrpApplicantDeclaring entry.applicant

end LiteEntry

/-! ### Runs of an entry -/

structure LiteSend where
  atUs : Nat
  msg : MsrpMessage
  deriving DecidableEq, Repr

/-- What a new or changed declaration has still to get: both of its sends, or the one that comes
JoinTime or later behind the first. -/
inductive LiteOwes where
  | nothing
  | both
  | again (firstUs : Nat)
  deriving DecidableEq, Repr

/-- `sent` is newest last. `owes` is for the proofs, no step reads it. -/
structure LiteRun (cfg : Config) where
  nowUs : Nat
  entry : LiteEntry cfg
  sent : List LiteSend
  owes : LiteOwes

/-- The rest of the state in AVB Lite, at the clock of the entry. -/
def LiteRun.at (st : LiteRun cfg) (s : AvbState cfg) : AvbState cfg :=
  { s with nowUs := st.nowUs, avbLite := true, mrpLite := true }

inductive LiteEntryEvent (cfg : Config) where
  | elapse (us : Nat)
  | declare (s : AvbState cfg) (p : cfg.Port) (call : LiteDeclare)
  | withdraw (s : AvbState cfg)
  | redeclareAll
  | peer (msg : MsrpMessage) (srcAddr : Option EthAddr)
  | flush

namespace LiteRun

/-- The call declares what was not declared, or another value or declaration type. -/
def newOrChanged (st : LiteRun cfg) (s : AvbState cfg) (call : LiteDeclare) : Bool :=
  match st.entry.asked (st.at s) call with
  | none => false
  | some value => !st.entry.declaring || st.entry.value != value

def owesAfter (owes : LiteOwes) (nowUs : Nat) : LiteOwes :=
  match owes with
  | .nothing => .nothing
  | .both => .again nowUs
  | .again firstUs => if firstUs + mrpLiteJoinTimeUs ≤ nowUs then .nothing else .again firstUs

def flush (st : LiteRun cfg) : LiteRun cfg :=
  let (entry, msg) := st.entry.flush st.nowUs
  match msg with
  | none => { st with entry }
  | some msg =>
      { st with
        entry
        sent := st.sent ++ [⟨st.nowUs, msg⟩]
        owes := owesAfter st.owes st.nowUs }

def step (st : LiteRun cfg) : LiteEntryEvent cfg → LiteRun cfg
  | .elapse us => { st with nowUs := st.nowUs + us }
  | .declare s p call =>
      { st with
        entry := st.entry.declare (st.at s) p call
        owes := if st.newOrChanged s call then .both else st.owes }
  | .withdraw s => { st with entry := st.entry.withdraw (st.at s), owes := .nothing }
  | .redeclareAll => { st with entry := st.entry.redeclare st.nowUs }
  | .peer msg srcAddr =>
      if (st.entry.hears msg).isSome then
        { st with entry := st.entry.receive st.nowUs srcAddr msg }
      else st
  | .flush => st.flush

/-- An entry as AVB Lite finds it. -/
def start (nowUs : Nat) (entry : LiteEntry cfg) : LiteRun cfg := ⟨nowUs, entry, [], .nothing⟩

/-- A declaration has been sent since the last Lv. -/
def out (st : LiteRun cfg) : Bool :=
  match st.sent.getLast? with
  | none => false
  | some last => !last.msg.isLv

end LiteRun

end EspAvb
