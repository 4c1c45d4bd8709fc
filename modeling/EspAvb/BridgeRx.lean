import EspAvb.Lib.LeaseTable
import EspAvb.Acmp
import EspAvb.MsrpWifi
import EspAvb.StationPacer
import EspAvb.WifiBundle

/-!
# The bridge's receive path

`avbnet.c`, `avb_unified_rx_cb_inner` in a bridge, with `avb_bridge_classify` of `avbbridge.c`. The
EMAC's receive task and the Wi-Fi receive worker each bring one frame at a time to it; the frames of
the Wi-Fi side are those that the unpacking hands on. A frame is one step, except that one offered to
the station pacers stays in the worker's hand while these take their own steps. What the MRP side
declares may change between any two steps.

The counters, the way of a PTP frame to the gPTP daemon and the bundler behind `wifi_bundle_add` are
left out.
-/

namespace EspAvb

def ethHeaderLen : Nat := 14
def etherTypePtp : Nat := 0x88f7
def etherTypeAvtp : Nat := 0x22f0
def etherTypeMsrp : Nat := 0x22ea
def etherTypeMvrp : Nat := 0x88f5
def etherTypeVlan : Nat := 0x8100

def Buf.etherType (frame : Buf) : Nat := octetAt frame 12 * 256 + octetAt frame 13

/-- PCP, where the frame has a tag. -/
def Buf.vlanPcp (frame : Buf) : Nat :=
  if frame.etherType = etherTypeVlan ∧ 16 ≤ frame.length then octetAt frame 14 / 32 else 0

/-- The first octet of a group address is odd. -/
def Buf.isGroup (frame : Buf) : Bool := octetAt frame 0 % 2 = 1

def Buf.readdress (frame : Buf) (da : EthAddr) : Buf := da.bytes ++ frame.drop 6

/-- A priority-tagged PTP frame loses its tag. -/
def untagPtp (frame : Buf) : Buf :=
  if frame.etherType = etherTypeVlan ∧ ethHeaderLen + 4 ≤ frame.length ∧ octetAt frame 16 = 0x88 ∧
      octetAt frame 17 = 0xf7 then
    frame.take 12 ++ frame.drop 16
  else frame

/-! ### Classification -/

inductive BridgeVerdict where
  | drop | terminate | bridge
  deriving DecidableEq, Repr

structure BridgeDisposition where
  verdict : BridgeVerdict
  egressPort : Nat
  srClass : AvbSrClass
  shaped : Bool
  deriving DecidableEq, Repr

def avbBridgeClassify (cfg : Config) (ingressPort etherType vlanPcp : Nat) : BridgeDisposition :=
  let d : BridgeDisposition :=
    { verdict := .drop, egressPort := if ingressPort = 0 then 1 else 0, srClass := .classA,
      shaped := false }
  if etherType = etherTypePtp ∨ etherType = etherTypeMsrp ∨ etherType = etherTypeMvrp then
    { d with verdict := .terminate }
  else if etherType = etherTypeAvtp then { d with verdict := .bridge }
  else if etherType = etherTypeVlan then
    if vlanPcp = (cfg.msrpMappingPriority ⟨0, Nat.two_pos⟩).toNat then
      if d.egressPort = 1 ∧ ¬cfg.allowClassAOverWifi then d
      else { d with verdict := .bridge, shaped := true }
    else if vlanPcp = (cfg.msrpMappingPriority ⟨1, Nat.one_lt_two⟩).toNat then
      { d with verdict := .bridge, srClass := .classB, shaped := true }
    else { d with verdict := .bridge }
  else { d with verdict := .bridge }

/-! ### The stations' entities -/

abbrev avbWifiEntityTableSize : Nat := 16

def avtpSubtypeAdp : Nat := 0xfa
def avtpSubtypeAcmp : Nat := 0xfc
def adpMsgTypeEntityAvailable : Nat := 0
def adpMsgTypeEntityDeparting : Nat := 1
/-- `sizeof(acmp_message_s)` -/
def acmpMessageLen : Nat := 56

abbrev WifiEntities := Fin avbWifiEntityTableSize → LeaseTable.Lease UniqueId EthAddr

/-- What an ADP frame announces: which station runs the entity and until when, or that the entity
leaves. `valid_time` counts 2 s units. -/
def adpNotice? (nowUs : Nat) (frame : Buf) : Option (LeaseTable.Notice UniqueId EthAddr) :=
  let msgType := octetAt frame 15 % 16
  let entityId := Octets.read 8 (frame.drop 18)
  if frame.length < ethHeaderLen + 12 then none
  else if msgType ≠ adpMsgTypeEntityAvailable ∧ msgType ≠ adpMsgTypeEntityDeparting then none
  else if entityId = .zero 8 then none
  else if msgType = adpMsgTypeEntityDeparting then some ⟨entityId, none⟩
  else some ⟨entityId, some (Octets.read 6 (frame.drop 6), nowUs + octetAt frame 16 / 8 * 2000000)⟩

def avbWifiEntityLearn (entities : WifiEntities) (nowUs : Nat) (frame : Buf) : WifiEntities :=
  match adpNotice? nowUs frame with
  | some notice => LeaseTable.note entities notice
  | none => entities

def avbWifiEntityStation (entities : WifiEntities) (nowUs : Nat) (entityId : UniqueId) :
    Option EthAddr := LeaseTable.read? entities nowUs entityId

/-- The talker of a command to a talker; the listener of a command to a listener or of a talker's
response; the controller of any other response. -/
def acmpTargetEntityId (frame : Buf) : Option UniqueId :=
  let msgType := octetAt frame 15 % 16
  let toTalker : List AcmpMsgType :=
    [.connectTxCommand, .disconnectTxCommand, .getTxStateCommand, .getTxConnectionCommand]
  let toListener : List AcmpMsgType :=
    [.connectRxCommand, .disconnectRxCommand, .getRxStateCommand, .connectTxResponse,
      .disconnectTxResponse]
  let toController : List AcmpMsgType :=
    [.getTxStateResponse, .connectRxResponse, .disconnectRxResponse, .getRxStateResponse,
      .getTxConnectionResponse]
  if msgType ∈ toTalker.map AcmpMsgType.code then some (Octets.read 8 (frame.drop 34))
  else if msgType ∈ toListener.map AcmpMsgType.code then some (Octets.read 8 (frame.drop 42))
  else if msgType ∈ toController.map AcmpMsgType.code then some (Octets.read 8 (frame.drop 26))
  else none

/-! ### The receive path -/

inductive CtrlProtocol where
  | avtp | msrp | mvrp
  deriving DecidableEq, Repr

/-- `ctrl_rx_pkt_t` -/
structure CtrlRxPkt where
  protocolIdx : CtrlProtocol
  ingressPort : Nat
  srcAddr : EthAddr
  data : List UInt8
  deriving DecidableEq

def ctrlRxQueueDepth : Nat := 16

/-- What is given to the Wi-Fi driver, or to the bundler in front of it. -/
inductive WifiTx where
  | frame (octets : Buf)
  | copy (octets : Buf)
  | bundled (octets : Buf)
  deriving DecidableEq

/-- `fromEth` and `fromWifi` are the frames received so far, those of the Wi-Fi side with their times;
`toEth` and `toWifi` what was given to the drivers. `hand` is the frame that the worker offers to the
station pacers. -/
structure BridgeRx (cfg : Config) where
  mrp : AvbState cfg
  pacers : StationPacers
  entities : WifiEntities
  ctrlRx : List CtrlRxPkt
  hand : Option Buf
  fromEth : List Buf
  fromWifi : List (Nat × Buf)
  toEth : List Buf
  toWifi : List WifiTx

def Config.ethPort (cfg : Config) : Option cfg.Port := Fin.find? fun p => !cfg.wifi p

def ForwardPc.isIdle : ForwardPc → Bool
  | .idle => true
  | _ => false

def ForwardPc.looksUp : ForwardPc → Bool
  | .lookup _ => true
  | _ => false

namespace BridgeRx

variable {cfg : Config}

def init (cfg : Config) (lite : Bool) : BridgeRx cfg :=
  { mrp := .init cfg lite, pacers := .init, entities := fun _ => ⟨.zero 8, .zero 6, 0⟩, ctrlRx := [],
    hand := none, fromEth := [], fromWifi := [], toEth := [], toWifi := [] }

def nowUs (s : BridgeRx cfg) : Nat := s.pacers.clockUs

def avbBridgeForward (s : BridgeRx cfg) (egressPort : Nat) (frame : Buf) : BridgeRx cfg :=
  if h : egressPort < cfg.numPorts then
    match (cfg.port ⟨egressPort, h⟩).medium with
    | .ethHwts => { s with toEth := s.toEth ++ [frame] }
    | .wifiFtm => { s with toWifi := s.toWifi ++ [.frame frame] }
  else s

def onWifi (cfg : Config) (port : Nat) : Bool := cfg.wifiPort.map Fin.val = some port

/-- Learns from ADP that came in on the Wi-Fi port, and copies ACMP that went out on it to its
station. -/
def avbBridgeWifiControl (s : BridgeRx cfg) (ingressPort egressPort : Nat) (frame : Buf) :
    BridgeRx cfg :=
  if frame.length ≤ ethHeaderLen then s
  else if octetAt frame ethHeaderLen = avtpSubtypeAdp ∧ onWifi cfg ingressPort then
    { s with entities := avbWifiEntityLearn s.entities s.nowUs frame }
  else if octetAt frame ethHeaderLen ≠ avtpSubtypeAcmp ∨ !onWifi cfg egressPort ∨
      frame.length < ethHeaderLen + acmpMessageLen ∨ !frame.isGroup then s
  else
    match (acmpTargetEntityId frame).bind (avbWifiEntityStation s.entities s.nowUs) with
    | some station => { s with toWifi := s.toWifi ++ [.copy (frame.readdress station)] }
    | none => s

/-- The queue of the main loop takes no more than it has room for. -/
def ctrlSend (s : BridgeRx cfg) (pkt : CtrlRxPkt) : BridgeRx cfg :=
  if s.ctrlRx.length < ctrlRxQueueDepth then { s with ctrlRx := s.ctrlRx ++ [pkt] } else s

/-- An MSRP or MVRP frame goes to the main loop. -/
def control (s : BridgeRx cfg) (fromWifi : Bool) (frame : Buf) : BridgeRx cfg :=
  let ingress := if fromWifi then cfg.wifiPort else cfg.ethPort
  let protocol : Option CtrlProtocol :=
    if frame.etherType = etherTypeMsrp then some .msrp
    else if frame.etherType = etherTypeMvrp then some .mvrp
    else none
  match protocol, ingress with
  | some protocolIdx, some p =>
      s.ctrlSend
        { protocolIdx, ingressPort := p.val, srcAddr := Octets.read 6 (frame.drop 6),
          data := (frame.drop ethHeaderLen).take avbMaxMsgLen }
  | _, _ => s

/-- Stream frames from the EMAC take the short way. They leave the last entries of the hosted queue
to control frames (`room`); `bundled` is whether the bundler takes a re-addressed frame. -/
def emacStream (s : BridgeRx cfg) (frame : Buf) (room bundled : Bool) : BridgeRx cfg :=
  if ¬cfg.allowClassAOverWifi ∧
      octetAt frame 14 / 32 = (cfg.msrpMappingPriority ⟨0, Nat.two_pos⟩).toNat then s
  else
    let ucastDa :=
      if cfg.wifiUnicastStreams then msrpWifiUcastLookupDa s.mrp (Octets.read 6 frame) else none
    let frame := (ucastDa.map frame.readdress).getD frame
    if ucastDa.isSome ∧ bundled then { s with toWifi := s.toWifi ++ [.bundled frame] }
    else if room then { s with toWifi := s.toWifi ++ [.frame frame] }
    else s

/-- A wireless talker's stream frame gets back the destination that its talker advertised. -/
def restore (s : BridgeRx cfg) (d : BridgeDisposition) (fromWifi : Bool) (frame : Buf) : Buf :=
  if cfg.wifiUnicastStreams ∧ d.verdict = .bridge ∧ fromWifi ∧ frame.etherType = etherTypeVlan ∧
      30 ≤ frame.length ∧ octetAt frame 16 = 0x22 ∧ octetAt frame 17 = 0xf0 ∧ !frame.isGroup then
    ((msrpWifiUcastLookupStream s.mrp (Octets.read 8 (frame.drop 22))).map frame.readdress).getD frame
  else frame

/-- MaxIntervalFrames of the stream, where its Talker Advertise is registered on the Wi-Fi port. -/
def stationTspec (s : BridgeRx cfg) (frame : Buf) : Option Nat :=
  (cfg.wifiPort.bind fun w =>
    mrpTalkerAdvertiseTspec s.mrp w (Octets.read 8 (frame.drop 22))).map Prod.snd

def egressEth (cfg : Config) (port : Nat) : Bool :=
  if h : port < cfg.numPorts then !cfg.wifi ⟨port, h⟩ else false

/-- The frame is offered to its stream's pacer; `up` is whether the pacers can be set up. -/
def offer (s : BridgeRx cfg) (egressPort : Nat) (frame : Buf) (up : Bool) : BridgeRx cfg :=
  let pacers := s.pacers.arrive frame egressPort (s.stationTspec frame) up
  let s := { s with pacers }
  if pacers.forward.isIdle then s.avbBridgeForward egressPort frame else { s with hand := some frame }

def dispatch (s : BridgeRx cfg) (fromWifi : Bool) (frame : Buf) (up : Bool) : BridgeRx cfg :=
  let ingressPort := if fromWifi then 1 else 0
  let d := avbBridgeClassify cfg ingressPort frame.etherType frame.vlanPcp
  let frame := s.restore d fromWifi frame
  match d.verdict with
  | .drop => s
  | .bridge =>
      if fromWifi ∧ frame.etherType = etherTypeVlan ∧ egressEth cfg d.egressPort then
        s.offer d.egressPort frame up
      else
        let s := s.avbBridgeForward d.egressPort frame
        if frame.etherType = etherTypeAvtp then s.avbBridgeWifiControl ingressPort d.egressPort frame
        else s
  | .terminate => s.control fromWifi frame

def receive (s : BridgeRx cfg) (fromWifi : Bool) (frame : Buf) (room bundled up : Bool) :
    BridgeRx cfg :=
  if frame.length < ethHeaderLen then s
  else
    let frame := untagPtp frame
    if fromWifi = false ∧ frame.etherType = etherTypeVlan ∧ 16 ≤ frame.length then
      s.emacStream frame room bundled
    else s.dispatch fromWifi frame up

/-- The worker takes its next frame once the last is out of its hand. -/
def idle (s : BridgeRx cfg) : Bool := s.hand.isNone && s.pacers.forward.isIdle

/-- A step of the pacers, with what they transmit. When the worker comes back from them, it forwards
a frame they did not take. -/
def pacer (s : BridgeRx cfg) (e : PacerEvent) : BridgeRx cfg :=
  let pacers := pacerStep s.pacers e
  let refused := s.pacers.forward.looksUp && pacers.forward.isIdle
  let s' := (pacers.transmitted.drop s.pacers.transmitted.length).foldl
    (fun s paced => s.avbBridgeForward paced.egressPort paced.octets) { s with pacers }
  match s.hand with
  | none => s'
  | some frame =>
      if pacers.forward.isIdle then
        let s' := { s' with hand := none }
        if refused then s'.avbBridgeForward 0 frame else s'
      else s'

end BridgeRx

inductive BridgeEvent (cfg : Config) where
  /-- The MRP side has moved on. -/
  | mrp (next : AvbState cfg)
  | emac (frame : Buf) (room bundled : Bool)
  | wifi (frame : Buf) (up : Bool)
  | pass (us : Nat)
  | forward (ok : Bool)
  | task (armed : Bool)
  | alarm
  /-- The main loop takes a packet. -/
  | recvCtrl

open BridgeRx in
def bridgeStep {cfg : Config} (s : BridgeRx cfg) : BridgeEvent cfg → BridgeRx cfg
  | .mrp next => { s with mrp := next }
  | .emac frame room bundled =>
      { s with fromEth := s.fromEth ++ [frame] }.receive false frame room bundled false
  | .wifi frame up =>
      if s.idle then
        { s with fromWifi := s.fromWifi ++ [(s.nowUs, frame)] }.receive true frame true false up
      else s
  | .pass us => s.pacer (.pass us)
  | .forward ok => s.pacer (.forward ok)
  | .task armed => s.pacer (.task armed)
  | .alarm => s.pacer .alarm
  | .recvCtrl => { s with ctrlRx := s.ctrlRx.tail }

end EspAvb
