import EspAvb.MsrpRx

/-!
# MVRP

`mrp.c` §7: a small table of VLANs for each port, driven by the same state machines as MSRP, and the
propagation of a VLAN registered on one bridged port to the others. A received MVRP MRPDU is read at
the fixed offsets of `mvrp_vlan_id_message_s`.
-/

namespace EspAvb

def mvrpVlanTableSize : Nat := 4

abbrev VlanId := Octets 2

/-- `mvrp_vlan_entry_t` -/
structure MvrpVlanEntry where
  vlanId : VlanId
  sm : MrpSm
  deriving DecidableEq, Repr

variable {cfg : Config}

/-- The VLAN tables of all ports, and whether a port's JoinTimer has been asked for. -/
structure MvrpState (cfg : Config) where
  nowUs : Nat
  vlans : cfg.Port → SlotTable MvrpVlanEntry mvrpVlanTableSize
  joinTimer : cfg.Port → Bool

def vlanIs (vlanId : VlanId) (e : MvrpVlanEntry) : Bool := e.vlanId = vlanId

namespace MvrpState

def setVlan (s : MvrpState cfg) (p : cfg.Port) (i : Fin mvrpVlanTableSize) (e : MvrpVlanEntry) :
    MvrpState cfg :=
  { s with vlans := Function.update s.vlans p ((s.vlans p).set i (some e)) }

def mrpPortArmJoinTimer (s : MvrpState cfg) (p : cfg.Port) : MvrpState cfg :=
  { s with joinTimer := Function.update s.joinTimer p true }

/-- The slot of the VLAN and its entry, inserted where the table has room for it. -/
def mvrpVlanFindOrInsert (s : MvrpState cfg) (p : cfg.Port) (vlanId : VlanId) :
    Option (Fin mvrpVlanTableSize × MvrpVlanEntry) :=
  ((s.vlans p).findOrInsert (vlanIs vlanId) (fun _ => false) { vlanId, sm := .fresh }).bind
    fun (i, t) => (t i).map fun e => (i, e)

def mrpDeclareVlan (s : MvrpState cfg) (p : cfg.Port) (vlanId : VlanId) : MvrpState cfg :=
  match s.mvrpVlanFindOrInsert p vlanId with
  | none => s
  | some (i, e) =>
      (s.setVlan p i { e with sm := mrpApplicantStep e.sm (mrpDeclareEvent e.sm) }).mrpPortArmJoinTimer p

def mrpWithdrawVlan (s : MvrpState cfg) (p : cfg.Port) (vlanId : VlanId) : MvrpState cfg :=
  match (s.vlans p).find (vlanIs vlanId) with
  | none => s
  | some i =>
      match s.vlans p i with
      | none => s
      | some e => (s.setVlan p i { e with sm := mrpApplicantStep e.sm .lv }).mrpPortArmJoinTimer p

/-- `mvrp_dispatch_leaveall` -/
def mvrpDispatchLeaveall (s : MvrpState cfg) (p : cfg.Port) : MvrpState cfg :=
  { s with vlans := Function.update s.vlans p fun i =>
      (s.vlans p i).map fun e => { e with sm := mrpSmStep s.nowUs e.sm .rLA } }

/-- The other bridged ports declare what was registered on one, and withdraw what no longer is. -/
def mrpOnVlanRegistrarChange (s : MvrpState cfg) (p : cfg.Port) (vlanId : VlanId)
    (tr : MrpRegTransition) : MvrpState cfg :=
  if cfg.roleBridge ∧ cfg.bridged p then
    (List.finRange cfg.numPorts).foldl (fun s y =>
      if y = p ∨ cfg.bridged y = false then s
      else if tr = .register then s.mrpDeclareVlan y vlanId
      else s.mrpWithdrawVlan y vlanId) s
  else s

end MvrpState

/-! ### The received message -/

def mvrpAttrTypeVlanIdentifier : Nat := 1

/-- What `mrp_rx_mvrp` reads of an MRPDU: `attr_type`, the two octets of the vector header,
`vlan_id`, and the first octet of `attr_event`. -/
structure MvrpVlanIdMessage where
  attrType : Nat
  vecHead : Nat
  vlanId : VlanId
  attrEvent : UInt8
  deriving DecidableEq, Repr

def MvrpVlanIdMessage.read (pdu : List UInt8) : MvrpVlanIdMessage :=
  { attrType := octetAt pdu 1
    vecHead := octetAt pdu 3 * 256 + octetAt pdu 4
    vlanId := Octets.read 2 (pdu.drop 5)
    attrEvent := pdu.getD 7 0 }

/-- `vechead_leaveall`: the three bits above NumberOfValues. -/
def MvrpVlanIdMessage.leaveallField (msg : MvrpVlanIdMessage) : Nat := msg.vecHead / 0x2000 % 8

def MvrpVlanIdMessage.numVals (msg : MvrpVlanIdMessage) : Nat := msg.vecHead % 0x2000

/-- A call of `mrp_sm_step`: the slot and the event. -/
abbrev MvrpSmCall := Fin mvrpVlanTableSize × MrpEvent

/-- The valid slots of a port, each with the event that a LeaveAll is to it. -/
def MvrpState.leaveallCalls (s : MvrpState cfg) (p : cfg.Port) : List MvrpSmCall :=
  ((List.finRange mvrpVlanTableSize).filter fun i => (s.vlans p i).isSome).map fun i => (i, .rLA)

/-- `mrp_rx_mvrp`, with the state machines it steps. -/
def mrpRxMvrp (s : MvrpState cfg) (p : cfg.Port) (msg : MvrpVlanIdMessage) :
    MvrpState cfg × List MvrpSmCall :=
  if msg.attrType ≠ mvrpAttrTypeVlanIdentifier then (s, [])
  else
    let calls := if msg.leaveallField ≠ 0 then s.leaveallCalls p else []
    let s := if msg.leaveallField ≠ 0 then s.mvrpDispatchLeaveall p else s
    match s.mvrpVlanFindOrInsert p msg.vlanId with
    | none => (s, calls)
    | some (i, e) =>
        let ev := mrp3peToEvent (threePeToInt msg.attrEvent).1
        let after := { e with sm := mrpSmStep s.nowUs e.sm ev }
        let tr := mrpRegTransition e.sm.registrar after.sm.registrar
        let s := s.setVlan p i after
        (if tr = .none then s else s.mrpOnVlanRegistrarChange p msg.vlanId tr, calls ++ [(i, ev)])

/-! ### Timers and runs -/

namespace MvrpState

/-- Every VLAN of a port, each state machine through `f`. -/
def mapSm (s : MvrpState cfg) (p : cfg.Port) (f : MrpSm → MrpSm) : MvrpState cfg :=
  { s with vlans := Function.update s.vlans p fun i =>
      (s.vlans p i).map fun e => { e with sm := f e.sm } }

/-- The VLANs' part of `mrp_port_dispatch_leave_timers`. -/
def mrpPortDispatchLeaveTimers (s : MvrpState cfg) (p : cfg.Port) : MvrpState cfg :=
  s.mapSm p fun sm =>
    if sm.leaveTimerUs ≠ 0 ∧ sm.leaveTimerUs ≤ s.nowUs then mrpSmStep s.nowUs sm .leaveTimer else sm

/-- The VLANs' part of `mrp_port_dispatch_periodic`. -/
def mrpPortDispatchPeriodic (s : MvrpState cfg) (p : cfg.Port) : MvrpState cfg :=
  s.mapSm p fun sm => mrpApplicantStep sm .periodic

/-- `mrp_tx_flush_mvrp`, without the frames. -/
def mrpTxFlushMvrp (s : MvrpState cfg) (p : cfg.Port) (txEv : MrpEvent) : MvrpState cfg :=
  s.mapSm p fun sm => (mrpFlushSm sm txEv).1

/-- Bring-up: no VLAN on any port. -/
def init (cfg : Config) : MvrpState cfg :=
  { nowUs := 0, vlans := fun _ _ => none, joinTimer := fun _ => false }

end MvrpState

inductive MvrpEvent (cfg : Config) where
  | elapse (dtUs : Nat)
  | receive (p : cfg.Port) (msg : MvrpVlanIdMessage)
  | declare (p : cfg.Port) (vlanId : VlanId)
  | withdraw (p : cfg.Port) (vlanId : VlanId)
  | leaveTimers (p : cfg.Port)
  | periodicTimer (p : cfg.Port)
  | joinTimer (p : cfg.Port) (txEv : MrpEvent)

def mvrpStep (s : MvrpState cfg) : MvrpEvent cfg → MvrpState cfg
  | .elapse dtUs => { s with nowUs := s.nowUs + dtUs }
  | .receive p msg => (mrpRxMvrp s p msg).1
  | .declare p vlanId => s.mrpDeclareVlan p vlanId
  | .withdraw p vlanId => s.mrpWithdrawVlan p vlanId
  | .leaveTimers p => s.mrpPortDispatchLeaveTimers p
  | .periodicTimer p => s.mrpPortDispatchPeriodic p
  | .joinTimer p txEv => s.mrpTxFlushMvrp p txEv

end EspAvb
