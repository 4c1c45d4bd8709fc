import EspAvb.Lib.Machine
import EspAvb.MsrpTx

/-!
# The MSRP participant as a machine

Everything that happens to the tables, one event at a time: a received attribute, a call from the
rest of the firmware, a timer. Timers may fire in any order and at any time; when they are armed is
not part of the state. A received MRPDU is a run of `receive` events.
-/

namespace EspAvb

variable {cfg : Config}

inductive AvbEvent (cfg : Config) where
  | elapse (dtUs : Nat)
  | receive (p : cfg.Port) (srcAddr : Option EthAddr) (d : MsrpDispatch)
  | joinTimer (p : cfg.Port)
  | periodicTimer (p : cfg.Port)
  | leaveallTimer (p : cfg.Port) (apEmpty : Bool)
  | leaveTimers (p : cfg.Port)
  | releaseHeld (p : cfg.Port)
  | liteFlush (p : cfg.Port)
  | declareTalkerAdvertise (p : cfg.Port) (streamId : UniqueId) (streamDestAddr : EthAddr)
      (vlanId : Octets 2) (maxFrameSize maxIntervalFrames : Nat) (classB : Bool)
  | declareTalkerFailed (p : cfg.Port) (streamId : UniqueId) (streamDestAddr : EthAddr)
      (vlanId : Octets 2) (maxFrameSize maxIntervalFrames : Nat) (failureCode : UInt8)
      (classB : Bool) (srcBridgeId : Option (Octets 8))
  | declareListener (p : cfg.Port) (streamId : UniqueId) (decl : MsrpListenerEvent)
  | declareDomain (p : cfg.Port) (srClassId srClassPriority : UInt8) (srClassVid : Octets 2)
  | withdrawTalker (p : cfg.Port) (streamId : UniqueId)
  | withdrawListener (p : cfg.Port) (streamId : UniqueId)
  | setTalkerLatency (p : cfg.Port) (streamId : UniqueId)
  | forgetTalker (p : cfg.Port) (streamId : UniqueId)
  | bindInputStream (i : Fin avbMaxNumInputStreams) (stream : AvbListenerStream)
  | setAvbLite (lite : Bool)

/-- The latency of a talker's own declaration: the Wi-Fi hop's estimate, or a wired port's. -/
def mrpSetTalkerLatency (s : AvbState cfg) (p : cfg.Port) (streamId : UniqueId) : AvbState cfg :=
  mrpPatchEgressAccumulatedLatency s p streamId .talkerAdvertise
    (if cfg.wifi p then (avbPortForwardingLatencyNs (cfg.port p)).toNat else 15000)

/-- `avb_lite` follows the PTP profile; entering AVB Lite declares everything on port 0 anew. -/
def avbSetLite (s : AvbState cfg) (lite : Bool) : AvbState cfg :=
  let s := { s with avbLite := lite, mrpLite := lite }
  match lite, cfg.port0 with
  | true, some p => mrpLiteRedeclareAll s p
  | _, _ => s

def avbStep (s : AvbState cfg) : AvbEvent cfg → AvbState cfg
  | .elapse dtUs => { s with nowUs := s.nowUs + dtUs }
  | .receive p srcAddr d =>
      -- the walk hands on no LeaveAll in AVB Lite
      if s.avbLite ∧ d.isValue = false then s else msrpDispatch p srcAddr s d
  | .joinTimer p => mrpTxFlushPort s p
  | .periodicTimer p => if s.avbLite then s else mrpPortDispatchPeriodic s p
  | .leaveallTimer p apEmpty => mrpLeaveallTimer s p apEmpty
  | .leaveTimers p => mrpPortDispatchLeaveTimers s p
  | .releaseHeld p => mrpTalkerReleaseHeld s p
  | .liteFlush p => if s.avbLite then mrpLiteFlush s p else s
  | .declareTalkerAdvertise p streamId da vlanId mfs mfi classB =>
      mrpDeclareTalkerAdvertise s p streamId da vlanId mfs mfi classB
  | .declareTalkerFailed p streamId da vlanId mfs mfi code classB srcBridgeId =>
      mrpDeclareTalkerFailed s p streamId da vlanId mfs mfi code classB srcBridgeId
  | .declareListener p streamId decl => mrpDeclareListener s p streamId decl
  | .declareDomain p classId priority vid => mrpDeclareDomain s p classId priority vid
  | .withdrawTalker p streamId => mrpWithdrawTalker s p streamId
  | .withdrawListener p streamId => mrpWithdrawListener s p streamId
  | .setTalkerLatency p streamId => mrpSetTalkerLatency s p streamId
  | .forgetTalker p streamId => (mrpTalkerForget s p streamId).1
  | .bindInputStream i stream =>
      { s with inputStreams := Function.update s.inputStreams i stream }
  | .setAvbLite lite => avbSetLite s lite

/-- A run from bring-up, outside AVB Lite or in it. -/
def avbRun (lite : Bool) (events : List (AvbEvent cfg)) : AvbState cfg :=
  Machine.run avbStep (.init cfg lite) events

/-- A bridge of gigabit Ethernet ports, with the default SR class priorities. -/
def wiredBridge (numPorts : Nat) : Config :=
  { numPorts
    roleBridge := true
    atdecc := false
    wifiUnicastStreams := false
    wifiDeliverableFrames := 6000
    allowClassAOverWifi := false
    port := fun _ =>
      { medium := .ethHwts, type := .bridged, wifiMode := .none, linkSpeedMbps := 1000 }
    internalMacAddr := .ofNat 6 0x020000000001
    msrpMappingPriority := fun i => if i = ⟨0, Nat.two_pos⟩ then 3 else 2
    msrpMappingsCount := 2 }

/-- An end station with one gigabit Ethernet port. -/
def wiredEndpoint : Config :=
  { wiredBridge 1 with
    roleBridge := false
    port := fun _ =>
      { medium := .ethHwts, type := .primary, wifiMode := .none, linkSpeedMbps := 1000 } }

/-- A received Talker Advertise of one value, joining. -/
def talkerValue (streamId : UniqueId) (priority : BitVec 3) (mfs mfi : Nat) : MsrpDispatch :=
  .talker .talkerAdvertise
    { MsrpTalkerMessage.zero with
      info :=
        { TalkerAdvInfo.zero with
          streamId
          streamDestAddr := .ofNat 6 0x91e0f0000001
          tspecMaxFrameSize := .ofNat 2 mfs
          tspecMaxFrameInterval := .ofNat 2 mfi
          priority }
      event := intTo3pe 1 0 0 }

/-- A received Listener attribute of one value. -/
def listenerValue (streamId : UniqueId) (event : Nat) (declaration : MsrpListenerEvent) :
    MsrpDispatch :=
  .listener { streamId, event := intTo3pe event 0 0, declaration }

end EspAvb
