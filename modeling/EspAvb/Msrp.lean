import EspAvb.Lib.Octets
import EspAvb.Lib.SlotTable
import EspAvb.Mrp

/-!
# MSRP attributes, their tables and the state they live in

`mrp.h` wire types and `mrp.c` §6: one table of talker, listener and domain entries for each port,
and the state `mrp.c` keeps beside them. What the build and the bring-up fix is in `Config`. The
message headers are left out of the wire types: every sender writes the header anew.
-/

namespace EspAvb

/-! ### Wire types -/

inductive MsrpAttrType where
  | talkerAdvertise | talkerFailed | listener | domain
  deriving DecidableEq, Repr

def MsrpAttrType.code : MsrpAttrType → Nat
  | .talkerAdvertise => 1
  | .talkerFailed => 2
  | .listener => 3
  | .domain => 4

inductive MsrpListenerEvent where
  | ignore | askingFailed | ready | readyFailed
  deriving DecidableEq, Repr

def MsrpListenerEvent.code : MsrpListenerEvent → Nat
  | .ignore => 0
  | .askingFailed => 1
  | .ready => 2
  | .readyFailed => 3

/-- The two bits of a listener declaration. -/
def MsrpListenerEvent.ofCode : Nat → MsrpListenerEvent
  | 1 => .askingFailed
  | 2 => .ready
  | 3 => .readyFailed
  | _ => .ignore

abbrev UniqueId := Octets 8
abbrev EthAddr := Octets 6

/-- `talker_adv_info_s`. -/
structure TalkerAdvInfo where
  streamId : UniqueId
  streamDestAddr : EthAddr
  vlanId : Octets 2
  tspecMaxFrameSize : Octets 2
  tspecMaxFrameInterval : Octets 2
  reserved : BitVec 4
  rank : BitVec 1
  priority : BitVec 3
  accumulatedLatency : Octets 4
  deriving DecidableEq, Repr

def TalkerAdvInfo.zero : TalkerAdvInfo :=
  { streamId := .zero 8, streamDestAddr := .zero 6, vlanId := .zero 2, tspecMaxFrameSize := .zero 2,
    tspecMaxFrameInterval := .zero 2, reserved := 0, rank := 0, priority := 0,
    accumulatedLatency := .zero 4 }

/-- `msrp_talker_message_u`; the failure fields are those of its Talker Failed form. `event` is the
first octet of `event_data`. -/
structure MsrpTalkerMessage where
  info : TalkerAdvInfo
  failureBridgeId : Octets 8
  failureCode : UInt8
  event : UInt8
  deriving DecidableEq, Repr

def MsrpTalkerMessage.zero : MsrpTalkerMessage :=
  { info := .zero, failureBridgeId := .zero 8, failureCode := 0, event := 0 }

/-- `msrp_listener_message_s`: `event` is `event_decl_data[0]`, `declaration` the first two bits of
`event_decl_data[1]`. -/
structure MsrpListenerMessage where
  streamId : UniqueId
  event : UInt8
  declaration : MsrpListenerEvent
  deriving DecidableEq, Repr

structure MsrpDomainMessage where
  srClassId : UInt8
  srClassPriority : UInt8
  srClassVid : Octets 2
  event : UInt8
  deriving DecidableEq, Repr

def noFailure : UInt8 := 0
def insufficientBandwidth : UInt8 := 1
def insufficientBandwidthForTrafficClass : UInt8 := 3

/-! ### What the build and the bring-up fix -/

inductive AvbPortMedium where
  | ethHwts | wifiFtm
  deriving DecidableEq, Repr

inductive AvbPortType where
  | primary | failover | bridged
  deriving DecidableEq, Repr

inductive AvbPortWifiMode where
  | sta | ap | none
  deriving DecidableEq, Repr

/-- The fields of `avb_port_s` that `mrp.c` reads and never writes. -/
structure AvbPort where
  medium : AvbPortMedium
  type : AvbPortType
  wifiMode : AvbPortWifiMode
  linkSpeedMbps : UInt32
  deriving DecidableEq, Repr

inductive AvbSrClass where
  | classA | classB
  deriving DecidableEq, Repr

/-- Build options, port set-up and SR class mappings. `internalMacAddr` is port 0's. -/
structure Config where
  numPorts : Nat
  roleBridge : Bool
  atdecc : Bool
  wifiUnicastStreams : Bool
  wifiDeliverableFrames : UInt32
  allowClassAOverWifi : Bool
  port : Fin numPorts → AvbPort
  internalMacAddr : EthAddr
  msrpMappingPriority : Fin 2 → BitVec 3
  msrpMappingsCount : Nat

abbrev Config.Port (cfg : Config) := Fin cfg.numPorts

/-- A bridge holds every stream on each port; an end station what its port hears. -/
def Config.talkerTableSize (cfg : Config) : Nat := if cfg.roleBridge then 20 else 32

/-- A bridge's is `AVB_MAX_NUM_LISTENERS + AVB_MAX_NUM_INPUT_STREAMS`. -/
def Config.listenerTableSize (cfg : Config) : Nat := if cfg.roleBridge then 10 + 2 else 32

def msrpDomainTableSize : Nat := 2

def Config.bridged (cfg : Config) (p : cfg.Port) : Bool := (cfg.port p).type = .bridged

def Config.wifi (cfg : Config) (p : cfg.Port) : Bool := (cfg.port p).medium = .wifiFtm

/-! ### Table entries -/

/-- `msrp_talker_entry_t`, less what only the log reads. `admittedTspec` is for the proofs: the
class, MaxFrameSize and MaxIntervalFrames with which the stream was last admitted toward a port. -/
structure MsrpTalkerEntry (cfg : Config) where
  attrType : MsrpAttrType
  wire : MsrpTalkerMessage
  sm : MrpSm
  lastPropagatedPriority : BitVec 3
  lastPropagatedMfs : Nat
  lastPropagatedMfi : Nat
  admittedBps : cfg.Port → UInt32
  admittedClass : cfg.Port → AvbSrClass
  redeclareAfterUs : Nat
  holdoffLeaveallBase : UInt32
  withdrawnUs : Nat
  declareHeld : Bool
  lastRefreshUs : Nat
  liteNextTxUs : Nat
  srcMac : EthAddr
  locallyOriginated : Bool
  admittedTspec : cfg.Port → Option (AvbSrClass × Nat × Nat)

structure MsrpListenerEntry where
  wire : MsrpListenerMessage
  declEvent : MsrpListenerEvent
  peerDecl : MsrpListenerEvent
  peerMac : EthAddr
  sm : MrpSm
  lastRefreshUs : Nat
  liteNextTxUs : Nat
  deriving DecidableEq, Repr

structure MsrpDomainEntry where
  wire : MsrpDomainMessage
  sm : MrpSm
  deriving DecidableEq, Repr

/-- A zeroed slot with its key: what `msrp_talker_find_or_insert` hands out. -/
def MsrpTalkerEntry.fresh {cfg : Config} (streamId : UniqueId) (attrType : MsrpAttrType) :
    MsrpTalkerEntry cfg :=
  { attrType
    wire := { MsrpTalkerMessage.zero with info := { TalkerAdvInfo.zero with streamId } }
    sm := .fresh
    lastPropagatedPriority := 0
    lastPropagatedMfs := 0
    lastPropagatedMfi := 0
    admittedBps := fun _ => 0
    admittedClass := fun _ => .classA
    redeclareAfterUs := 0
    holdoffLeaveallBase := 0
    withdrawnUs := 0
    declareHeld := false
    lastRefreshUs := 0
    liteNextTxUs := 0
    srcMac := .zero 6
    locallyOriginated := false
    admittedTspec := fun _ => none }

def MsrpListenerEntry.fresh (streamId : UniqueId) : MsrpListenerEntry :=
  { wire := { streamId, event := 0, declaration := .ignore }
    declEvent := .ignore
    peerDecl := .ignore
    peerMac := .zero 6
    sm := .fresh
    lastRefreshUs := 0
    liteNextTxUs := 0 }

def MsrpDomainEntry.fresh (srClassId : UInt8) : MsrpDomainEntry :=
  { wire := { srClassId, srClassPriority := 0, srClassVid := .zero 2, event := 0 }, sm := .fresh }

/-- The key of a talker entry: Advertise and Failed of one stream are two attributes. -/
def MsrpTalkerEntry.key {cfg : Config} (e : MsrpTalkerEntry cfg) : UniqueId × MsrpAttrType :=
  (e.wire.info.streamId, e.attrType)

def MsrpListenerEntry.key (e : MsrpListenerEntry) : UniqueId := e.wire.streamId

def MsrpDomainEntry.key (e : MsrpDomainEntry) : UInt8 := e.wire.srClassId

/-! ### The state -/

/-- `avb_admission_class_s`. -/
structure AvbAdmissionClass where
  linkRateBps : UInt32
  admittedBps : UInt32
  capBps : UInt32
  deriving DecidableEq, Repr

/-- `avb_wifi_admission_t`. -/
structure AvbWifiAdmission where
  wanted : Bool
  refused : Bool
  refusalDeclared : Bool
  streamId : UniqueId
  framesPerS : UInt32
  bps : UInt32
  deriving DecidableEq, Repr

/-- `avb_wifi_ucast_entry_t`: a group address, and the station its frames go to. -/
structure AvbWifiUcastEntry where
  da : EthAddr
  sta : EthAddr
  streamId : UniqueId
  deriving DecidableEq, Repr

/-- `avb_wifi_restore_entry_t`. -/
structure AvbWifiRestoreEntry where
  streamId : UniqueId
  da : EthAddr
  deriving DecidableEq, Repr

/-- The fields of `avb_listener_stream_s` that the MSRP callbacks read and write. -/
structure AvbListenerStream where
  streamId : UniqueId
  connected : Bool
  classB : Bool
  msrpAccumulatedLatency : Octets 4
  msrpFailureCode : UInt8
  deriving DecidableEq, Repr

/-- One declaration as it is handed to `mrp_send_attr`. -/
inductive MsrpMessage where
  | talker (attrType : MsrpAttrType) (leaveAll : Bool) (wire : MsrpTalkerMessage)
  | listener (leaveAll : Bool) (wire : MsrpListenerMessage)
  | domain (leaveAll : Bool) (wire : MsrpDomainMessage)
  deriving DecidableEq, Repr

/-- An MRPDU outside AVB Lite; in AVB Lite a CVU message, to one station or to all. -/
inductive MsrpCarrier where
  | mrpdu
  | cvu (dest : Option EthAddr)
  deriving DecidableEq, Repr

/-- What the module did, newest first, with the state each decision was taken in. Nothing reads it.
-/
inductive MsrpLog (cfg : Config) where
  | sent (port : cfg.Port) (atUs : Nat) (carrier : MsrpCarrier) (msg : MsrpMessage)
  | valueReset (port : cfg.Port) (entry : MsrpTalkerEntry cfg)
  | admitted (port : cfg.Port) (info : TalkerAdvInfo) (before : AvbSrClass → AvbAdmissionClass)
  | withdrawn (port : cfg.Port) (sm : MrpSm)
  | peerLeft (port : cfg.Port) (sm : MrpSm)
  | unregistered (port : cfg.Port) (sm : MrpSm)

def avbMaxNumInputStreams : Nat := 2

/-- The statics of `mrp.c` and the fields of `avb_state_s` it writes. A slot that holds `none` is one
whose `valid` is false. -/
structure AvbState (cfg : Config) where
  nowUs : Nat
  avbLite : Bool
  mrpLite : Bool
  mrpLeaveallTxPending : cfg.Port → Bool
  talkers : cfg.Port → SlotTable (MsrpTalkerEntry cfg) cfg.talkerTableSize
  listeners : cfg.Port → SlotTable MsrpListenerEntry cfg.listenerTableSize
  domains : cfg.Port → SlotTable MsrpDomainEntry msrpDomainTableSize
  talkerLeaveallCount : cfg.Port → UInt32
  talkerLeaveallUs : cfg.Port → Nat
  admission : cfg.Port → AvbSrClass → AvbAdmissionClass
  wifiAdmissionPort : Option cfg.Port
  wifiAdmission : SlotTable AvbWifiAdmission cfg.listenerTableSize
  wifiFramesCommitted : UInt32
  ucast : SlotTable AvbWifiUcastEntry cfg.listenerTableSize
  ucastIdx : UInt8 → Option (Fin cfg.listenerTableSize)
  restoreTbl : SlotTable AvbWifiRestoreEntry cfg.talkerTableSize
  inputStreams : Fin avbMaxNumInputStreams → AvbListenerStream
  numInputStreams : Nat
  log : List (MsrpLog cfg)

/-- `avb_srp_admission_init` for one class of a port: three quarters of the link. -/
def avbSrpAdmissionInit (linkSpeedMbps : UInt32) : AvbAdmissionClass :=
  let linkRate := linkSpeedMbps * 1000000
  { linkRateBps := linkRate, admittedBps := 0, capBps := linkRate * 3 / 4 }

def AvbListenerStream.zero : AvbListenerStream :=
  { streamId := .zero 8, connected := false, classB := false, msrpAccumulatedLatency := .zero 4,
    msrpFailureCode := 0 }

/-- After bring-up: empty tables, and no Wi-Fi admission made yet. -/
def AvbState.init (cfg : Config) (lite : Bool) : AvbState cfg :=
  { nowUs := 0
    avbLite := lite
    mrpLite := lite
    mrpLeaveallTxPending := fun _ => false
    talkers := fun _ _ => none
    listeners := fun _ _ => none
    domains := fun _ _ => none
    talkerLeaveallCount := fun _ => 0
    talkerLeaveallUs := fun _ => 0
    admission := fun p _ => avbSrpAdmissionInit (cfg.port p).linkSpeedMbps
    wifiAdmissionPort := none
    wifiAdmission := fun _ => none
    wifiFramesCommitted := 0
    ucast := fun _ => none
    ucastIdx := fun _ => none
    restoreTbl := fun _ => none
    inputStreams := fun _ => .zero
    numInputStreams := avbMaxNumInputStreams
    log := [] }

end EspAvb
