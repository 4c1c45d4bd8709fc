import EspAvb.Acmp
import EspAvb.Lib.WalkBack
import EspAvb.Mrp

/-!
# The talker's listener rows

`avb_talker_stream_s` and what edits its `connected_listeners`: the talker side of
`mrp_on_listener_registrar_change` (`mrp.c`), ACMP CONNECT_TX and DISCONNECT_TX (`atdecc.c`), and
the move of a grown stream to a new stream ID (`avb.c`). A row merges what MSRP knows of a listener
by its MAC with what ACMP knows of it by its identity.
-/

namespace EspAvb

def avbMaxNumOutputStreams : Nat := 2
def avbMaxNumConnectedListeners : Nat := 10
def avbStreamIdGenerations : Nat := 4
def avbStreamIdReuseUs : Nat := 32 * 1000 * 1000
def msrpAskingFailedHolddownUs : Nat := 10 * 1000 * 1000

/-- A row of `connected_listeners`. A time or a `liteOrder` of zero is none. -/
structure TalkerListener where
  macAddr : EthAddr
  identityId : UniqueId
  identityUid : UInt16
  msrpReady : Bool
  /-- `msrpReady` was set by a Ready from the wire. -/
  msrpReadyLive : Bool
  askingFailedSinceUs : Nat
  acmpConnected : Bool
  askingFailed : Bool
  lastSeenUs : Nat
  liteOrder : UInt32
  liteRefused : Bool
  liteAdmitted : Bool
  liteHoldUntilUs : Nat
  deriving DecidableEq, Repr

def TalkerListener.zero : TalkerListener :=
  { macAddr := .zero 6, identityId := .zero 8, identityUid := 0, msrpReady := false
    msrpReadyLive := false, askingFailedSinceUs := 0, acmpConnected := false, askingFailed := false
    lastSeenUs := 0, liteOrder := 0, liteRefused := false, liteAdmitted := false
    liteHoldUntilUs := 0 }

/-- The rows in use, `connection_count` of them. -/
structure ListenerRows where
  rows : List TalkerListener
  length_le : rows.length ≤ avbMaxNumConnectedListeners
  deriving DecidableEq, Repr

namespace ListenerRows

def empty : ListenerRows := ⟨[], Nat.zero_le _⟩

def modify (t : ListenerRows) (i : Nat) (f : TalkerListener → TalkerListener) : ListenerRows :=
  ⟨t.rows.modify i f, by simpa using t.length_le⟩

/-- `avb_remove_talker_listener_by_index` -/
def remove (t : ListenerRows) (i : Nat) : ListenerRows :=
  ⟨t.rows.eraseIdx i, (List.length_eraseIdx_le t.rows i).trans t.length_le⟩

/-- A row behind the last; a full table has no room for it. -/
def add (t : ListenerRows) (row : TalkerListener) : Option ListenerRows :=
  if h : t.rows.length < avbMaxNumConnectedListeners then
    some ⟨t.rows ++ [row], by simpa using h⟩
  else none

/-- A loop over the rows from the last to the first that changes or removes each. -/
def walkBack (t : ListenerRows) (f : TalkerListener → Option TalkerListener) : ListenerRows :=
  ⟨WalkBack.walk f t.rows.length t.rows, (WalkBack.length_walk_le f t.rows).trans t.length_le⟩

/-- `any_listener_ready` -/
def anyReady (t : ListenerRows) : Bool := t.rows.any (·.msrpReady)

/-- `any_listener_acmp_connected` -/
def anyAcmpConnected (t : ListenerRows) : Bool := t.rows.any (·.acmpConnected)

end ListenerRows

/-- `avb_talker_stream_s`. `txDa` is the published `tx_da`; empty, it means the stream's own
destination. -/
structure AvbTalkerStream where
  streamId : UniqueId
  streamIdGen : Nat
  streamIdRetiredUs : Nat → Nat
  streamDestAddr : EthAddr
  streamFormat : Octets 8
  classB : Bool
  vlanId : UInt16
  listeners : ListenerRows
  streaming : Bool
  /-- The maximum transit time. -/
  presentationTimeOffsetNs : UInt32
  txDa : List EthAddr
  liteDeclaredMulticast : Bool
  liteTxMulticast : Bool
  liteMulticastAdmitted : Bool
  liteMulticastTxAtUs : Nat
  liteStartRetryUs : Nat

structure TalkerConfig where
  talker : Bool
  entityId : UniqueId
  milanCompliant : Bool
  numOutputStreams : Nat
  port0Medium : AvbPortMedium
  /-- `CONFIG_ESP_AVB_TALKER_NEW_STREAM_ID_ON_GROW` -/
  newStreamIdOnGrow : Bool
  numOutputStreams_le : numOutputStreams ≤ avbMaxNumOutputStreams

inductive TalkerEffect where
  | acmp (message : AcmpMessage)
  | persistOutputStream (index : UInt16)
  | declareTalker (streamId : UniqueId) (destAddr : EthAddr)
  | withdrawTalker (streamId : UniqueId)
  | testToneOff
  deriving DecidableEq, Repr

structure TalkerState where
  outputStreams : Fin avbMaxNumOutputStreams → AvbTalkerStream
  avbLite : Bool
  ctrlTestTone : Bool
  effects : List TalkerEffect

/-- What a call reads of the device around it. -/
structure TalkerEnv where
  nowUs : Nat
  netSend : AcmpMessage → Bool
  /-- The discovered listener entities, `state->listeners`, in order. -/
  listeners : List (EthAddr × UniqueId)
  /-- The VLAN of each entry of `msrp_mappings`, Class A first. -/
  msrpMappings : List UInt16
  /-- Memory and tasks for a stream-out are there. -/
  streamOutStarts : Bool
  /-- `mrp_talker_advertise_change_waits` -/
  advertiseChangeWaits : AvbTalkerStream → Bool
  /-- `mrp_talker_forget` -/
  talkerForget : UniqueId → Bool

namespace TalkerState

def setStream (s : TalkerState) (u : Fin avbMaxNumOutputStreams) (stream : AvbTalkerStream) :
    TalkerState :=
  { s with outputStreams := Function.update s.outputStreams u stream }

def setListeners (s : TalkerState) (u : Fin avbMaxNumOutputStreams) (t : ListenerRows) :
    TalkerState :=
  s.setStream u { s.outputStreams u with listeners := t }

def effect (s : TalkerState) (e : TalkerEffect) : TalkerState :=
  { s with effects := s.effects ++ [e] }

end TalkerState

/-! ### The stream format -/

def avtpSubtypeAaf : Nat := 0x02
def avtpSubtypeCrf : Nat := 0x04

def formatOctet (fmt : Octets 8) (i : Nat) : Nat := (fmt.bytes.getD i 0).toNat

def formatSubtype (fmt : Octets 8) : Nat := formatOctet fmt 0 % 128

/-- `aaf_code_to_sample_rate` -/
def aafCodeToSampleRate : Nat → Nat
  | 1 => 8000
  | 2 => 16000
  | 3 => 32000
  | 4 => 44100
  | 5 => 48000
  | 6 => 88200
  | 7 => 96000
  | 8 => 176400
  | 9 => 192000
  | 10 => 24000
  | _ => 48000

/-- `avb_output_format_class`: whether an AAF format's frame interval is that of Class B. -/
def avbOutputFormatClass (fmt : Octets 8) : Option Bool :=
  if formatSubtype fmt ≠ avtpSubtypeAaf then none
  else
    let sampleRate := aafCodeToSampleRate (formatOctet fmt 1 % 16)
    let samplesPerFrame := formatOctet fmt 5 % 64 * 16 + formatOctet fmt 6 / 16
    if sampleRate = 0 ∨ samplesPerFrame = 0 then none
    else
      let intervalUs := samplesPerFrame * 1000000 / sampleRate
      if intervalUs ≠ 125 ∧ intervalUs ≠ 250 then none else some (intervalUs = 250)

section

variable (cfg : TalkerConfig) (env : TalkerEnv)

/-! ### Starting and stopping -/

/-- `avb_start_stream_out`. Without an address from MAAP the start is deferred. -/
def avbStartStreamOut (s : TalkerState) (u : Fin avbMaxNumOutputStreams) : TalkerState :=
  let stream := s.outputStreams u
  if stream.streaming || stream.streamDestAddr == .zero 6 || !env.streamOutStarts then s
  else s.setStream u { stream with streaming := true }

/-- `avb_talker_audio_streaming` -/
def avbTalkerAudioStreaming (s : TalkerState) : Bool :=
  (List.finRange avbMaxNumOutputStreams).any fun u =>
    u.val < cfg.numOutputStreams && (s.outputStreams u).streaming &&
      formatSubtype (s.outputStreams u).streamFormat != avtpSubtypeCrf

/-- `avb_stop_stream_out`. The test tone goes with the last audio stream. -/
def avbStopStreamOut (s : TalkerState) (u : Fin avbMaxNumOutputStreams) : TalkerState :=
  let s := s.setStream u { s.outputStreams u with streaming := false }
  if s.ctrlTestTone && !avbTalkerAudioStreaming cfg s then
    TalkerState.effect { s with ctrlTestTone := false } .testToneOff
  else s

/-- The stop condition of the MSRP paths. -/
def shouldStop (t : ListenerRows) : Bool :=
  !t.anyReady || !cfg.milanCompliant && !t.anyAcmpConnected

def stopIf (s : TalkerState) (u : Fin avbMaxNumOutputStreams) (c : Bool) : TalkerState :=
  if c && (s.outputStreams u).streaming then avbStopStreamOut cfg s u else s

/-! ### Rows by MAC and by identity -/

/-- `find_connected_listener` -/
def findConnectedListener (t : ListenerRows) (macAddr : EthAddr) : Option Nat :=
  t.rows.findIdx? (·.macAddr == macAddr)

/-- `find_connected_listener_by_entity` -/
def findConnectedListenerByEntity (t : ListenerRows) (entityId : UniqueId) : Option Nat :=
  if entityId = .zero 8 then none else t.rows.findIdx? (·.identityId == entityId)

/-- `find_or_add_msrp_listener`: the row of the MAC, else the ACMP row of an entity at that MAC, else
a new row, which is named when one listener entity alone is known there. -/
def findOrAddMsrpListener (t : ListenerRows) (macAddr : EthAddr) : Option (Nat × ListenerRows) :=
  match findConnectedListener t macAddr with
  | some i => some (i, t)
  | none =>
      let entities := (env.listeners.filter (·.1 == macAddr)).map (·.2)
      match entities.findSome? (findConnectedListenerByEntity t) with
      | some i => some (i, t.modify i fun row => { row with macAddr })
      | none =>
          let identityId :=
            match entities with
            | [entityId] => entityId
            | _ => .zero 8
          (t.add { TalkerListener.zero with macAddr, identityId }).map fun t' => (t.rows.length, t')

/-- `find_talker_listener_by_identity` -/
def findTalkerListenerByIdentity (t : ListenerRows) (entityId : UniqueId) (uid : UInt16) :
    Option Nat :=
  t.rows.findIdx? fun row => row.identityId == entityId && row.identityUid == uid

/-- `find_talker_listener_by_entity` -/
def findTalkerListenerByEntity (t : ListenerRows) (entityId : UniqueId) : Option Nat :=
  t.rows.findIdx? (·.identityId == entityId)

/-- The only row that is ready and waits for its ACMP half. -/
def solePending (t : ListenerRows) : Option Nat :=
  let pending := fun row : TalkerListener => !row.acmpConnected && row.msrpReady
  if t.rows.countP pending = 1 then t.rows.findIdx? pending else none

/-- `find_or_add_talker_listener_by_identity`: the row of the identity, else a row of its entity
without ACMP, else the sole pending row, else a new row. -/
def findOrAddTalkerListenerByIdentity (t : ListenerRows) (entityId : UniqueId) (uid : UInt16) :
    Option (Nat × ListenerRows) :=
  match findTalkerListenerByIdentity t entityId uid with
  | some i => some (i, t)
  | none =>
      let ofEntity := (findTalkerListenerByEntity t entityId).filter fun i =>
        (t.rows[i]?).any (!·.acmpConnected)
      match ofEntity with
      | some i => some (i, t.modify i fun row => { row with identityUid := uid })
      | none =>
          match solePending t with
          | some i =>
              some (i, t.modify i fun row => { row with identityId := entityId, identityUid := uid })
          | none =>
              (t.add { TalkerListener.zero with identityId := entityId, identityUid := uid }).map
                fun t' => (t.rows.length, t')

/-! ### Listener declarations -/

/-- The age-out of a registration: readiness goes, and so do rows that never completed ACMP. -/
def ageOutRow (row : TalkerListener) : Option TalkerListener :=
  if row.acmpConnected then some { row with msrpReady := false, askingFailed := false } else none

def listenerLeave (s : TalkerState) (u : Fin avbMaxNumOutputStreams) (srcAddr : EthAddr) :
    TalkerState :=
  let t := (s.outputStreams u).listeners
  match findConnectedListener t srcAddr with
  | none => s
  | some i =>
      let cleared := t.modify i fun row => { row with msrpReady := false, askingFailed := false }
      let t := if (cleared.rows[i]?).any (·.acmpConnected) then cleared else cleared.remove i
      stopIf cfg (s.setListeners u t) u (shouldStop cfg t && !s.avbLite)

def listenerReady (s : TalkerState) (u : Fin avbMaxNumOutputStreams) (srcAddr : EthAddr)
    (readyFailed : Bool) : TalkerState :=
  match findOrAddMsrpListener env (s.outputStreams u).listeners srcAddr with
  | none => s
  | some (i, t) =>
      let t := t.modify i fun row =>
        { row with
          lastSeenUs := env.nowUs, msrpReady := true, msrpReadyLive := true
          askingFailedSinceUs := 0, askingFailed := readyFailed }
      let s := s.setListeners u t
      let shouldStart := cfg.milanCompliant || (t.rows[i]?).any (·.acmpConnected)
      if shouldStart && !(s.outputStreams u).streaming && !s.avbLite then avbStartStreamOut env s u
      else s

/-- Live readiness that Asking Failed has outlasted. -/
def TalkerListener.heldDown (nowUs : Nat) (row : TalkerListener) : Bool :=
  row.msrpReadyLive && row.askingFailedSinceUs != 0 &&
    msrpAskingFailedHolddownUs < nowUs - row.askingFailedSinceUs

def askingFailedRow (nowUs : Nat) (row : TalkerListener) : TalkerListener :=
  let row := { row with lastSeenUs := nowUs, askingFailed := true }
  if row.heldDown nowUs then
    { row with msrpReady := false, msrpReadyLive := false, askingFailedSinceUs := 0 }
  else if row.msrpReadyLive && row.askingFailedSinceUs == 0 then
    { row with askingFailedSinceUs := nowUs }
  else row

def listenerAskingFailed (s : TalkerState) (u : Fin avbMaxNumOutputStreams) (srcAddr : EthAddr) :
    TalkerState :=
  match findOrAddMsrpListener env (s.outputStreams u).listeners srcAddr with
  | none => s
  | some (i, t) =>
      let heldDown := (t.rows[i]?).any (·.heldDown env.nowUs)
      let t := t.modify i (askingFailedRow env.nowUs)
      stopIf cfg (s.setListeners u t) u (heldDown && shouldStop cfg t && !s.avbLite)

/-- The registration of a stream's listeners has aged out. In AVB Lite rows age one by one. -/
def listenerAgeOut (s : TalkerState) (u : Fin avbMaxNumOutputStreams) : TalkerState :=
  if s.avbLite then s
  else
    let t := (s.outputStreams u).listeners.walkBack ageOutRow
    stopIf cfg (s.setListeners u t) u (shouldStop cfg t)

def talkerStreamOf (s : TalkerState) (streamId : UniqueId) : Option (Fin avbMaxNumOutputStreams) :=
  (List.finRange avbMaxNumOutputStreams).find? fun u =>
    u.val < cfg.numOutputStreams && (s.outputStreams u).streamId == streamId

/-- A Listener declaration from the wire, with its attribute event. -/
def listenerDeclaration (s : TalkerState) (u : Fin avbMaxNumOutputStreams) (srcAddr : EthAddr)
    (leaving : Bool) (decl : MsrpListenerEvent) : TalkerState :=
  if leaving then if s.avbLite then listenerLeave cfg s u srcAddr else s
  else
    match decl with
    | .ready => listenerReady cfg env s u srcAddr false
    | .readyFailed => listenerReady cfg env s u srcAddr true
    | .askingFailed => listenerAskingFailed cfg env s u srcAddr
    | .ignore => s

/-- The talker side of `mrp_on_listener_registrar_change`. Timers have no source address. -/
def mrpOnListenerRegistrarChangeTalker (s : TalkerState) (streamId : UniqueId) (leaving : Bool)
    (decl : MsrpListenerEvent) (tr : MrpRegTransition) (srcAddr : Option EthAddr) : TalkerState :=
  match talkerStreamOf cfg s streamId with
  | none => s
  | some u =>
      match srcAddr with
      | none => if tr = .deregister then listenerAgeOut cfg s u else s
      | some srcAddr => listenerDeclaration cfg env s u srcAddr leaving decl

/-! ### Declaring an output stream -/

/-- `avb_declared_dest_addr` -/
def avbDeclaredDestAddr (lite : Bool) (stream : AvbTalkerStream) : EthAddr :=
  if lite && !stream.liteDeclaredMulticast then .zero 6 else stream.streamDestAddr

/-- `stream_id_set_generation`: the top two bits of the last octet. -/
def streamIdSetGeneration (streamId : UniqueId) (gen : Nat) : UniqueId :=
  ⟨streamId.bytes.set 7 (streamId.bytes.getD 7 0 &&& 0x3f ||| UInt8.ofNat (gen * 64)), by
    simpa using streamId.length_eq⟩

/-- The next generation that left the wire long enough ago and that no bridge still reflects. -/
def nextStreamIdGen (stream : AvbTalkerStream) : Option Nat :=
  ((List.range avbStreamIdGenerations).drop 1).findSome? fun step =>
    let gen := (stream.streamIdGen + step) % avbStreamIdGenerations
    if env.nowUs - stream.streamIdRetiredUs gen < avbStreamIdReuseUs then none
    else if env.talkerForget (streamIdSetGeneration stream.streamId gen) then some gen
    else none

/-- Readiness was declared for the old ID: ACMP rows lose it, the others go. -/
def renewRow (row : TalkerListener) : Option TalkerListener :=
  if row.acmpConnected then
    some { row with
      msrpReady := false, msrpReadyLive := false, askingFailed := false, askingFailedSinceUs := 0 }
  else none

def heldByOther (t : ListenerRows) (exceptListener : Option Nat) : Bool :=
  t.rows.zipIdx.any fun (row, i) => row.acmpConnected && some i != exceptListener

/-- `avb_output_stream_renew_id` -/
def avbOutputStreamRenewId (s : TalkerState) (u : Fin avbMaxNumOutputStreams)
    (exceptListener : Option Nat) : TalkerState :=
  let stream := s.outputStreams u
  if stream.streaming || heldByOther stream.listeners exceptListener then s
  else
    match nextStreamIdGen env stream with
    | none => s
    | some gen =>
        (s.effect (.withdrawTalker stream.streamId)).setStream u
          { stream with
            streamId := streamIdSetGeneration stream.streamId gen
            streamIdGen := gen
            streamIdRetiredUs :=
              Function.update stream.streamIdRetiredUs stream.streamIdGen env.nowUs
            listeners := stream.listeners.walkBack renewRow }

/-- `avb_declare_output_stream` -/
def avbDeclareOutputStream (s : TalkerState) (u : Fin avbMaxNumOutputStreams)
    (exceptListener : Option Nat) : TalkerState :=
  let s :=
    if cfg.newStreamIdOnGrow && !s.avbLite && env.advertiseChangeWaits (s.outputStreams u) then
      avbOutputStreamRenewId env s u exceptListener
    else s
  s.effect (.declareTalker (s.outputStreams u).streamId
    (avbDeclaredDestAddr s.avbLite (s.outputStreams u)))

/-- `avb_output_stream_declare_now`. Outside AVB Lite nothing is declared before MAAP has an
address. -/
def avbOutputStreamDeclareNow (s : TalkerState) (u : Fin avbMaxNumOutputStreams)
    (exceptListener : Option Nat) : TalkerState :=
  if !cfg.talker || !s.avbLite && (s.outputStreams u).streamDestAddr == .zero 6 then s
  else avbDeclareOutputStream cfg env s u exceptListener

/-! ### CONNECT_TX and DISCONNECT_TX -/

def outputSlot (index : UInt16) : Option (Fin avbMaxNumOutputStreams) :=
  if h : index.toNat < avbMaxNumOutputStreams then some ⟨index.toNat, h⟩ else none

/-- The output stream a uid names, `avb_valid_talker_listener_uid`. -/
def talkerUid (uid : UInt16) : Option (Fin avbMaxNumOutputStreams) :=
  (outputSlot uid).filter fun u => u.val < cfg.numOutputStreams

def talkerAcmpResponse (s : TalkerState) (msgType : AcmpMsgType) (response : AcmpMessage)
    (status : AcmpStatus) : TalkerState :=
  let response : AcmpMessage := { response with msgType, status }
  if env.netSend response then s.effect (.acmp response) else s

/-- The class a CONNECT_TX gives the stream: its format's, Class B behind Wi-Fi, and the stream's own
while another listener holds it. -/
def connectTxClass (stream : AvbTalkerStream) (listenerIdx : Option Nat) (flags : UInt16) : Bool :=
  let asked : Bool := flags &&& 1 != 0
  let formatClassB := (avbOutputFormatClass stream.streamFormat).getD asked
  let reqClassB := formatClassB || cfg.port0Medium == .wifiFtm
  if heldByOther stream.listeners listenerIdx then stream.classB else reqClassB

/-- The stream changes class with the only listener it has. -/
def connectTxSetClass (s : TalkerState) (u : Fin avbMaxNumOutputStreams) (index : UInt16)
    (listenerIdx : Nat) (classB : Bool) : TalkerState :=
  let stream := s.outputStreams u
  if stream.classB = classB then s
  else
    let vlanId := (env.msrpMappings[if classB then 1 else 0]?).getD stream.vlanId
    let s := (s.setStream u { stream with classB, vlanId }).effect (.persistOutputStream index)
    avbOutputStreamDeclareNow cfg env s u (some listenerIdx)

/-- A row is found or made for the listener; `none` is a full table. -/
def acmpConnectTx (s : TalkerState) (u : Fin avbMaxNumOutputStreams) (msg : AcmpMessage) :
    Option TalkerState :=
  let stream := s.outputStreams u
  let known := findTalkerListenerByIdentity stream.listeners msg.listenerEntityId msg.listenerUid
  let classB := connectTxClass cfg stream known msg.flags
  match findOrAddTalkerListenerByIdentity stream.listeners msg.listenerEntityId msg.listenerUid with
  | none => none
  | some (i, t) =>
      let t := t.modify i fun row =>
        { row with acmpConnected := true, askingFailed := false, lastSeenUs := env.nowUs }
      let s := connectTxSetClass cfg env (s.setListeners u t) u msg.talkerUid i classB
      let stream := s.outputStreams u
      let ready := (stream.listeners.rows[i]?).any (·.msrpReady)
      some (if ready && !stream.streaming && !s.avbLite then avbStartStreamOut env s u else s)

/-- The row a DISCONNECT_TX names: of the identity, else of the entity. -/
def disconnectTxRow (t : ListenerRows) (msg : AcmpMessage) : Option Nat :=
  (findTalkerListenerByIdentity t msg.listenerEntityId msg.listenerUid).or
    (findTalkerListenerByEntity t msg.listenerEntityId)

def disconnectTxRows (t : ListenerRows) (msg : AcmpMessage) : ListenerRows :=
  match disconnectTxRow t msg with
  | some i => t.remove i
  | none => t

def acmpDisconnectTx (s : TalkerState) (u : Fin avbMaxNumOutputStreams) (msg : AcmpMessage) :
    TalkerState :=
  let t := disconnectTxRows (s.outputStreams u).listeners msg
  stopIf cfg (s.setListeners u t) u t.rows.isEmpty

/-- The answer to an accepted command. -/
def connectTxAnswer (stream : AvbTalkerStream) (msg : AcmpMessage) : AcmpMessage :=
  { msg with
    streamId := stream.streamId
    streamDestAddr := stream.streamDestAddr
    streamVlanId := stream.vlanId
    connectionCount := UInt16.ofNat (stream.listeners.rows.countP (·.acmpConnected))
    flags := if stream.classB then msg.flags ||| 1 else msg.flags &&& 0xfffe }

/-- `avb_process_acmp_connect_tx_command` -/
def avbProcessAcmpConnectTxCommand (holders : EntityHolders) (s : TalkerState) (msg : AcmpMessage)
    (disconnect : Bool) : TalkerState :=
  let rspType : AcmpMsgType := if disconnect then .disconnectTxResponse else .connectTxResponse
  match talkerUid cfg msg.talkerUid with
  | none => talkerAcmpResponse env s rspType msg .talkerUnknownId
  | some u =>
      if avbAcquiredOrLockedByOther holders msg.controllerEntityId then
        talkerAcmpResponse env s rspType msg .controllerNotAuthorized
      else
        match if disconnect then some (acmpDisconnectTx cfg s u msg)
          else acmpConnectTx cfg env s u msg with
        | none => talkerAcmpResponse env s rspType msg .talkerExclusive
        | some s =>
            talkerAcmpResponse env s rspType (connectTxAnswer (s.outputStreams u) msg) .success

/-- `avb_process_acmp`, the messages that concern the talker. -/
def avbProcessAcmpTalker (holders : EntityHolders) (s : TalkerState) (msg : AcmpMessage) :
    TalkerState :=
  if msg.talkerEntityId ≠ cfg.entityId then s
  else
    match msg.msgType with
    | .connectTxCommand => avbProcessAcmpConnectTxCommand cfg env holders s msg false
    | .disconnectTxCommand => avbProcessAcmpConnectTxCommand cfg env holders s msg true
    | _ => s

end

/-! ### Runs -/

/-- What edits the rows outside AVB Lite. The locks of the moment come with an ACMP message. -/
inductive TalkerEvent where
  | acmp (env : TalkerEnv) (holders : EntityHolders) (msg : AcmpMessage)
  | listener (env : TalkerEnv) (streamId : UniqueId) (leaving : Bool) (decl : MsrpListenerEvent)
      (tr : MrpRegTransition) (srcAddr : Option EthAddr)
  | destAddr (u : Fin avbMaxNumOutputStreams) (addr : EthAddr)

def talkerStep (cfg : TalkerConfig) (s : TalkerState) : TalkerEvent → TalkerState
  | .acmp env holders msg => avbProcessAcmpTalker cfg env holders s msg
  | .listener env streamId leaving decl tr srcAddr =>
      mrpOnListenerRegistrarChangeTalker cfg env s streamId leaving decl tr srcAddr
  | .destAddr u addr => s.setStream u { s.outputStreams u with streamDestAddr := addr }

/-- A plain AVB end station with one stream output. -/
def plainTalker : TalkerConfig :=
  { talker := true
    entityId := .ofNat 8 0x020000fffe000001
    milanCompliant := false
    numOutputStreams := 1
    port0Medium := .ethHwts
    newStreamIdOnGrow := true
    numOutputStreams_le := by decide }

/-- After bring-up, before any listener. -/
def AvbTalkerStream.blank (streamId : UniqueId) : AvbTalkerStream :=
  { streamId, streamIdGen := 0, streamIdRetiredUs := fun _ => 0, streamDestAddr := .zero 6
    streamFormat := .zero 8, classB := false, vlanId := 2, listeners := .empty, streaming := false
    presentationTimeOffsetNs := 0, txDa := [], liteDeclaredMulticast := false, liteTxMulticast := false
    liteMulticastAdmitted := false, liteMulticastTxAtUs := 0, liteStartRetryUs := 0 }

def TalkerState.blank (lite : Bool) : TalkerState :=
  { outputStreams := fun u => .blank (.ofNat 8 (0x0200000000010000 + u.val)), avbLite := lite
    ctrlTestTone := false, effects := [] }

/-- Every frame leaves, every task starts, and no listener entity is discovered. -/
def TalkerEnv.at (us : Nat) : TalkerEnv :=
  { nowUs := us, netSend := fun _ => true, listeners := [], msrpMappings := [2, 3]
    streamOutStarts := true, advertiseChangeWaits := fun _ => false, talkerForget := fun _ => true }

/-- A command to the local output 0 from the listener `listenerId`. -/
def talkerMsg (msgType : AcmpMsgType) (listenerId : UniqueId) : AcmpMessage :=
  { AcmpMessage.zero with
    msgType
    controllerEntityId := .ofNat 8 0xc0
    talkerEntityId := plainTalker.entityId
    listenerEntityId := listenerId }

end EspAvb
