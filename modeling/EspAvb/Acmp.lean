import EspAvb.Lib.Machine
import EspAvb.Msrp

/-!
# The ACMP listener

`atdecc.c`: how a stream input is bound to a talker, probed for, connected by the talker's response
and given up on. A controller binds it with ACMP CONNECT_RX or the Milan vendor-unique BIND_STREAM;
both update the binding on one path and send the talker a CONNECT_TX. Commands that wait for a
response are in flight until it comes or their timeout expires.

The answers of code outside these functions (a frame that leaves, a discovered entity, a stream task
that starts) are arguments of a call, and so are the clocks.
-/

namespace EspAvb

inductive AcmpMsgType where
  | connectTxCommand | connectTxResponse
  | disconnectTxCommand | disconnectTxResponse
  | getTxStateCommand | getTxStateResponse
  | connectRxCommand | connectRxResponse
  | disconnectRxCommand | disconnectRxResponse
  | getRxStateCommand | getRxStateResponse
  | getTxConnectionCommand | getTxConnectionResponse
  deriving DecidableEq, Repr

/-- The wire value. A response's is its command's plus one. -/
def AcmpMsgType.code (t : AcmpMsgType) : Nat := t.ctorIdx

inductive AcmpStatus where
  | success | listenerUnknownId | talkerUnknownId | talkerDestMacFail | talkerNoStreamIndex
  | talkerNoBandwidth | talkerExclusive | listenerTalkerTimeout | listenerExclusive
  | stateUnavailable | notConnected | noSuchConnection | couldNotSendMessage | talkerMisbehaving
  | listenerMisbehaving | reserved | controllerNotAuthorized | incompatableRequest
  | listenerInvalidConnection | listenerCanOnlyListenOnce | notSupported
  deriving DecidableEq, Repr

structure AcmpMessage where
  msgType : AcmpMsgType
  status : AcmpStatus
  streamId : UniqueId
  controllerEntityId : UniqueId
  talkerEntityId : UniqueId
  listenerEntityId : UniqueId
  talkerUid : UInt16
  listenerUid : UInt16
  streamDestAddr : EthAddr
  connectionCount : UInt16
  seqId : UInt16
  flags : UInt16
  streamVlanId : UInt16
  deriving DecidableEq, Repr

def AcmpMessage.zero : AcmpMessage :=
  { msgType := .connectTxCommand, status := .success, streamId := .zero 8
    controllerEntityId := .zero 8, talkerEntityId := .zero 8, listenerEntityId := .zero 8
    talkerUid := 0, listenerUid := 0, streamDestAddr := .zero 6, connectionCount := 0, seqId := 0
    flags := 0, streamVlanId := 0 }

/-- The identity by which a response is matched to a command in flight. -/
def AcmpMessage.party (msg : AcmpMessage) : UInt16 × UInt16 × UniqueId × UniqueId × UniqueId :=
  (msg.talkerUid, msg.listenerUid, msg.talkerEntityId, msg.listenerEntityId, msg.controllerEntityId)

/-- `avb_listener_stream_s`: a stream input, with the fields the MSRP callbacks share. -/
structure AcmpListenerStream extends AvbListenerStream where
  talkerId : UniqueId
  talkerUid : UInt16
  controllerId : UniqueId
  streamDestAddr : EthAddr
  streamingWait : Bool
  vlanId : UInt16
  streamFormat : Octets 8
  pendingConnection : Bool
  lastFastConnectAttemptMs : Nat
  provisional : Bool
  demoteRefUs : Nat
  deriving DecidableEq, Repr

def AcmpListenerStream.zero : AcmpListenerStream :=
  { AvbListenerStream.zero with
    talkerId := .zero 8, talkerUid := 0, controllerId := .zero 8, streamDestAddr := .zero 6
    streamingWait := false, vlanId := 0, streamFormat := .zero 8, pendingConnection := false
    lastFastConnectAttemptMs := 0, provisional := false, demoteRefUs := 0 }

/-- `memset` of a stream, keeping its descriptor configuration. -/
def AcmpListenerStream.cleared (stream : AcmpListenerStream) : AcmpListenerStream :=
  { AcmpListenerStream.zero with streamFormat := stream.streamFormat, vlanId := stream.vlanId }

def AcmpListenerStream.hasBinding (stream : AcmpListenerStream) : Bool :=
  stream.connected || stream.pendingConnection

def AcmpListenerStream.sameTalker (stream : AcmpListenerStream) (msg : AcmpMessage) : Bool :=
  stream.talkerId == msg.talkerEntityId && stream.talkerUid == msg.talkerUid

/-- `atdecc_inflight_command_s`. Only ACMP commands are ever added. -/
structure InflightCommand where
  timeoutMs : Nat
  retried : Bool
  acmpSeqId : UInt16
  command : AcmpMessage
  inbound : Bool
  deriving DecidableEq, Repr

def avbMaxNumInflightCommands : Nat := 20
def avbFastConnectRetryMsec : Nat := 4000

structure AcmpConfig where
  entityId : UniqueId
  numInputStreams : Nat
  crfInputIndex : UInt16
  port0Medium : AvbPortMedium
  /-- The configured VLAN of Class A (`false`) and Class B (`true`). -/
  classVlan : Bool → UInt16
  numInputStreams_le : numInputStreams ≤ avbMaxNumInputStreams

/-- Who has acquired and who has locked the entity. -/
structure EntityHolders where
  acquired : Bool
  acquiredBy : UniqueId
  locked : Bool
  lockedBy : UniqueId
  lockExpiresUs : Nat
  deriving DecidableEq, Repr

/-- What the journal keeps of a stream input, `avb_persist_fill_input_stream_record`. -/
structure InputStreamRecord where
  talkerId : UniqueId
  talkerUid : UInt16
  controllerId : UniqueId
  streamFormat : Octets 8
  connected : Bool
  streamingWait : Bool
  classB : Bool
  deriving DecidableEq, Repr

inductive AecpStatus where
  | success | notImplemented | noSuchDescriptor | entityLocked | entityAcquired | notAuthenticated
  | authenticationDisabled | badArguments | noResources | inProgress | entityMisbehaving
  | notSupported | streamIsRunning
  deriving DecidableEq, Repr

/-- What the listener does to the rest of the device, in order. `acmp` is a frame that left. -/
inductive AcmpEffect where
  | acmp (message : AcmpMessage)
  | mvuResponse (status : AecpStatus)
  | unsolNotify
  | declareListener (streamId : UniqueId)
  | withdrawListener (streamId : UniqueId)
  | persistInputStream (index : UInt16) (record : InputStreamRecord)
  deriving DecidableEq, Repr

structure AcmpState where
  inputStreams : Fin avbMaxNumInputStreams → AcmpListenerStream
  inflight : List InflightCommand
  acmpSeqId : UInt16
  holders : EntityHolders
  streamInActive : Bool
  crfRxActive : Bool
  effects : List AcmpEffect
  /-- The indices with which `input_streams` was accessed past its end. -/
  strayAccesses : List UInt16

/-- What a call reads of the device around it. -/
structure AcmpEnv where
  timeOfDayMs : Nat
  monotonicMs : Nat
  /-- `avb_net_send` accepts the frame. -/
  netSend : AcmpMessage → Bool
  /-- `avb_find_entity_by_id` knows the talker. -/
  discovered : UniqueId → Bool
  /-- Memory and tasks for a stream-in are there. -/
  streamInStarts : Bool

namespace AcmpState

def setStream (s : AcmpState) (u : Fin avbMaxNumInputStreams) (stream : AcmpListenerStream) :
    AcmpState :=
  { s with inputStreams := Function.update s.inputStreams u stream }

def effect (s : AcmpState) (e : AcmpEffect) : AcmpState := { s with effects := s.effects ++ [e] }

def effectIf (s : AcmpState) (c : Bool) (e : AcmpEffect) : AcmpState := if c then s.effect e else s

end AcmpState

/-- The element of `input_streams` an index reaches, if it is inside the array. -/
def inputSlot (index : UInt16) : Option (Fin avbMaxNumInputStreams) :=
  if h : index.toNat < avbMaxNumInputStreams then some ⟨index.toNat, h⟩ else none

section

variable (cfg : AcmpConfig) (env : AcmpEnv)

def avbValidListenerUid (uid : UInt16) : Bool := uid.toNat < cfg.numInputStreams

def avbAcquiredOrLockedByOther (h : EntityHolders) (entityId : UniqueId) : Bool :=
  (h.acquired && h.acquiredBy != entityId) || (h.locked && h.lockedBy != entityId)

/-! ### Commands in flight -/

/-- `avb_get_acmp_timeout_ms` -/
def avbGetAcmpTimeoutMs : AcmpMsgType → Nat
  | .connectTxCommand => 3500
  | .disconnectTxCommand => 200
  | .getTxStateCommand => 200
  | .connectRxCommand => 4500
  | .disconnectRxCommand => 500
  | .getRxStateCommand => 200
  | .getTxConnectionCommand => 200
  | _ => 250

def InflightCommand.carries (seqId : UInt16) (inbound : Bool) (c : InflightCommand) : Bool :=
  c.acmpSeqId == seqId && c.inbound == inbound

/-- The match of `avb_find_inflight_command_by_data`, against a message of type code `msgCode`. -/
def InflightCommand.matchesData (msgCode : Nat) (data : AcmpMessage) (inbound : Bool)
    (c : InflightCommand) : Bool :=
  c.inbound == inbound && c.command.msgType.code + 1 == msgCode && c.command.party == data.party

def avbFindInflightCommand (s : AcmpState) (seqId : UInt16) (inbound : Bool) : Option Nat :=
  s.inflight.findIdx? (·.carries seqId inbound)

def avbFindInflightCommandByData (s : AcmpState) (msgCode : Nat) (data : AcmpMessage)
    (inbound : Bool) : Option InflightCommand :=
  s.inflight.find? (·.matchesData msgCode data inbound)

/-- The first entry with the sequence ID goes; those behind it move up. -/
def avbRemoveInflightCommand (s : AcmpState) (seqId : UInt16) (inbound : Bool) : AcmpState :=
  { s with inflight := s.inflight.eraseP (·.carries seqId inbound) }

/-- A full list refuses the command, and one already in the list keeps its entry. -/
def avbAddInflightCommand (s : AcmpState) (command : AcmpMessage) (inbound : Bool) : AcmpState :=
  if avbMaxNumInflightCommands ≤ s.inflight.length then s
  else if (avbFindInflightCommandByData s (command.msgType.code + 1) command inbound).isSome then s
  else
    { s with inflight := s.inflight ++
      [{ timeoutMs := env.timeOfDayMs + avbGetAcmpTimeoutMs command.msgType, retried := false
         acmpSeqId := command.seqId, command, inbound }] }

/-! ### Sending -/

/-- `avb_send_acmp_command`: the result of the send and the state after it. A command is tracked
whether or not its frame left. -/
def avbSendAcmpCommand (s : AcmpState) (msgType : AcmpMsgType) (command : AcmpMessage)
    (trackInflight : Bool) : Bool × AcmpState :=
  let seqId := s.acmpSeqId + 1
  let command : AcmpMessage := { command with msgType, status := .success, seqId }
  let s : AcmpState := { s with acmpSeqId := seqId }
  let sent := env.netSend command
  let s := s.effectIf sent (.acmp command)
  (sent, if trackInflight then avbAddInflightCommand env s command false else s)

def avbSendAcmpResponse (s : AcmpState) (msgType : AcmpMsgType) (response : AcmpMessage)
    (status : AcmpStatus) : AcmpState :=
  let response : AcmpMessage := { response with msgType, status }
  s.effectIf (env.netSend response) (.acmp response)

/-- Behind a Wi-Fi hop a listener asks for Class B, the 0x0001 flag. -/
def listenerConnectFlags (flags : UInt16) : UInt16 := if cfg.port0Medium = .wifiFtm then flags ||| 1 else flags

def avbSendListenerTalkerCommand (s : AcmpState) (msg : AcmpMessage) (disconnect mvuBind : Bool) :
    Bool × AcmpState :=
  if disconnect then avbSendAcmpCommand env s .disconnectTxCommand msg (!mvuBind && !disconnect)
  else
    avbSendAcmpCommand env s .connectTxCommand
      { msg with flags := listenerConnectFlags cfg msg.flags } (!mvuBind && !disconnect)

/-! ### The stream task and the journal -/

/-- `avb_start_stream_in`, the CRF input's own context or the one audio task. -/
def avbStartStreamIn (s : AcmpState) (u : Fin avbMaxNumInputStreams) : AcmpState :=
  if u.val = cfg.crfInputIndex.toNat then
    if s.crfRxActive || !env.streamInStarts then s
    else { s.setStream u { s.inputStreams u with connected := true } with crfRxActive := true }
  else
    if s.streamInActive || !env.streamInStarts then s
    else { s.setStream u { s.inputStreams u with connected := true } with streamInActive := true }

/-- `avb_stop_stream_in`. Only the CRF input's clears `connected` itself. -/
def avbStopStreamIn (s : AcmpState) (u : Fin avbMaxNumInputStreams) : AcmpState :=
  if u.val = cfg.crfInputIndex.toNat then
    if s.crfRxActive then
      { s.setStream u { s.inputStreams u with connected := false } with crfRxActive := false }
    else s
  else { s with streamInActive := false }

/-- `avb_persist_fill_input_stream_record`: all zero past the configured inputs. -/
def inputStreamRecord (s : AcmpState) (index : UInt16) : InputStreamRecord :=
  let stream :=
    match inputSlot index with
    | some u => if u.val < cfg.numInputStreams then s.inputStreams u else .zero
    | none => .zero
  { talkerId := stream.talkerId, talkerUid := stream.talkerUid, controllerId := stream.controllerId
    streamFormat := stream.streamFormat, connected := stream.connected
    streamingWait := stream.streamingWait, classB := stream.classB }

def avbPersistAppendInputStream (s : AcmpState) (index : UInt16) : AcmpState :=
  s.effect (.persistInputStream index (inputStreamRecord cfg s index))

/-! ### Connecting and disconnecting -/

/-- `avb_connect_listener`: identity and parameters from whatever response it is given. -/
def avbConnectListener (s : AcmpState) (response : AcmpMessage) (u : Fin avbMaxNumInputStreams) :
    AcmpStatus × AcmpState :=
  if response.streamId = .zero 8 then (.talkerMisbehaving, s)
  else
    let classB : Bool := response.flags &&& 1 != 0
    (.success,
      (s.setStream u
        { s.inputStreams u with
          talkerId := response.talkerEntityId
          talkerUid := response.talkerUid
          controllerId := response.controllerEntityId
          streamId := response.streamId
          streamDestAddr := response.streamDestAddr
          classB
          vlanId := if response.streamVlanId = 0 then cfg.classVlan classB else response.streamVlanId
          connected := true
          provisional := false }).effect (.declareListener response.streamId))

def avbDisconnectListener (s : AcmpState) (u : Fin avbMaxNumInputStreams) : AcmpState :=
  let stopped := avbStopStreamIn cfg s u
  (stopped.setStream u (stopped.inputStreams u).cleared).effect
    (.withdrawListener (stopped.inputStreams u).streamId)

/-! ### The binding commands -/

/-- The checks common to CONNECT_RX, DISCONNECT_RX, BIND_STREAM and UNBIND_STREAM, in order. -/
def acmpRxRefusal (s : AcmpState) (msg : AcmpMessage) (disconnect : Bool) : Option AcmpStatus :=
  match inputSlot msg.listenerUid with
  | none => some .listenerUnknownId
  | some u =>
      if avbValidListenerUid cfg msg.listenerUid = false then some .listenerUnknownId
      else if avbAcquiredOrLockedByOther s.holders msg.controllerEntityId then
        some .controllerNotAuthorized
      else if (s.inputStreams u).hasBinding && !(s.inputStreams u).sameTalker msg then
        some (if disconnect then .notConnected else .listenerExclusive)
      else none

/-- What an accepted command does to the stream it names. -/
def acmpRxUpdate (s : AcmpState) (msg : AcmpMessage) (disconnect : Bool) : AcmpState :=
  match inputSlot msg.listenerUid with
  | none => s
  | some u =>
      if disconnect then
        if (s.inputStreams u).hasBinding then avbDisconnectListener cfg s u
        else s.setStream u (s.inputStreams u).cleared
      else
        s.setStream u
          { s.inputStreams u with
            talkerId := msg.talkerEntityId
            talkerUid := msg.talkerUid
            controllerId := msg.controllerEntityId
            pendingConnection := true }

/-- The talker is sent its command, the controller its answer, and the binding is journaled. -/
def acmpRxAnswer (s : AcmpState) (msg : AcmpMessage) (disconnect : Bool) : AcmpState :=
  let (sent, s) := avbSendListenerTalkerCommand cfg env s msg disconnect false
  let rspType : AcmpMsgType := if disconnect then .disconnectRxResponse else .connectRxResponse
  let s := avbSendAcmpResponse env s rspType msg (if sent then .success else .listenerMisbehaving)
  avbPersistAppendInputStream cfg s msg.listenerUid

/-- `avb_process_acmp_connect_rx_command`: whether it was accepted, and the state. -/
def avbProcessAcmpConnectRxCommand (s : AcmpState) (msg : AcmpMessage) (disconnect mvuBind : Bool) :
    Bool × AcmpState :=
  match acmpRxRefusal cfg s msg disconnect with
  | some status =>
      let rspType : AcmpMsgType := if disconnect then .disconnectRxResponse else .connectRxResponse
      (false, if mvuBind then s else avbSendAcmpResponse env s rspType msg status)
  | none =>
      let s := acmpRxUpdate cfg s msg disconnect
      (true, if mvuBind then s else acmpRxAnswer cfg env s msg disconnect)

def aemDescTypeStreamInput : UInt16 := 0x0005

structure MvuUnbindStream where
  controllerEntityId : UniqueId
  descriptorType : UInt16
  descriptorIndex : UInt16
  deriving DecidableEq, Repr

structure MvuBindStream extends MvuUnbindStream where
  flags : UInt16
  talkerEntityId : UniqueId
  talkerStreamIndex : UInt16
  deriving DecidableEq, Repr

/-- The ACMP message a BIND_STREAM or UNBIND_STREAM is carried out as. -/
def mvuSynth (cmd : MvuUnbindStream) (talkerId : UniqueId) (talkerUid : UInt16) : AcmpMessage :=
  { AcmpMessage.zero with
    talkerEntityId := talkerId
    talkerUid
    listenerEntityId := cfg.entityId
    listenerUid := cmd.descriptorIndex
    controllerEntityId := cmd.controllerEntityId }

/-- The shared path, then the response; the talker is told best effort, and the stream is journaled
whatever the outcome. -/
def mvuBindVia (s : AcmpState) (synth : AcmpMessage) (unbind : Bool) (notify : AcmpState → Bool) :
    AcmpState :=
  let (accepted, s) := avbProcessAcmpConnectRxCommand cfg env s synth unbind true
  let s :=
    if accepted then
      let s := (avbSendListenerTalkerCommand cfg env (s.effect (.mvuResponse .success)) synth unbind
        true).2
      s.effectIf (notify s) .unsolNotify
    else s.effect (.mvuResponse .badArguments)
  avbPersistAppendInputStream cfg s synth.listenerUid

def mvuNoSuchInput (cmd : MvuUnbindStream) : Bool :=
  cmd.descriptorType != aemDescTypeStreamInput || !avbValidListenerUid cfg cmd.descriptorIndex

/-- UNBIND_STREAM: the current binding is disconnected. -/
def avbProcessAecpCmdMvuUnbindStream (s : AcmpState) (cmd : MvuUnbindStream) : AcmpState :=
  match inputSlot cmd.descriptorIndex with
  | none => s.effect (.mvuResponse .noSuchDescriptor)
  | some u =>
      if mvuNoSuchInput cfg cmd then s.effect (.mvuResponse .noSuchDescriptor)
      else
        let stream := s.inputStreams u
        mvuBindVia cfg env s (mvuSynth cfg cmd stream.talkerId stream.talkerUid) true
          fun _ => stream.talkerId != .zero 8

/-- BIND_STREAM: `streaming_wait` is written first, from the flag 0x0001. -/
def avbProcessAecpCmdMvuBindStream (s : AcmpState) (cmd : MvuBindStream) : AcmpState :=
  match inputSlot cmd.descriptorIndex with
  | none => s.effect (.mvuResponse .noSuchDescriptor)
  | some u =>
      if mvuNoSuchInput cfg cmd.toMvuUnbindStream then s.effect (.mvuResponse .noSuchDescriptor)
      else
        let stream := s.inputStreams u
        let streamingWait : Bool := cmd.flags &&& 1 != 0
        let synth := mvuSynth cfg cmd.toMvuUnbindStream cmd.talkerEntityId cmd.talkerStreamIndex
        mvuBindVia cfg env (s.setStream u { stream with streamingWait }) synth false
          fun _ => !stream.sameTalker synth || stream.streamingWait != streamingWait

/-! ### The talker's response -/

/-- A CONNECT_TX response settles its stream: whether a stream-in is to start, and the state. -/
def connectTxSettle (s : AcmpState) (response : AcmpMessage) (u : Fin avbMaxNumInputStreams) :
    Bool × AcmpState :=
  let before := s.inputStreams u
  let (status, s) :=
    if response.status = .success then avbConnectListener cfg s response u else (response.status, s)
  let connects : Bool := response.status = .success ∧ status = .success
  -- a provisional guess at the stream ID was wrong: the stream-in is restarted on the right one
  let restart :=
    connects && before.connected && before.provisional &&
      before.streamId != (s.inputStreams u).streamId
  let s := if restart then avbStopStreamIn cfg s u else s
  (connects && !before.connected || restart,
    s.setStream u { s.inputStreams u with pendingConnection := false })

/-- The entries a response ends: the controller's command it answers at last, found by its data, and
the command to the talker, found by its sequence ID. -/
def inflightAnswered (s : AcmpState) (response : AcmpMessage) (disconnect : Bool) : AcmpState :=
  let rspType : AcmpMsgType := if disconnect then .disconnectRxResponse else .connectRxResponse
  let inboundEntry := avbFindInflightCommandByData s rspType.code response true
  let s := avbRemoveInflightCommand s response.seqId false
  match inboundEntry with
  | some c => avbRemoveInflightCommand s c.acmpSeqId true
  | none => s

/-- `avb_process_acmp_connect_tx_response`. An unknown listener uid ends a DISCONNECT_TX response
only; a CONNECT_TX response goes on to the stream the uid indexes. -/
def avbProcessAcmpConnectTxResponse (s : AcmpState) (response : AcmpMessage) (disconnect : Bool) :
    AcmpState :=
  if disconnect then
    if avbValidListenerUid cfg response.listenerUid then inflightAnswered s response true else s
  else
    match inputSlot response.listenerUid with
    | none =>
        inflightAnswered { s with strayAccesses := s.strayAccesses ++ [response.listenerUid] }
          response false
    | some u =>
        let (start, s) := connectTxSettle cfg s response u
        let s := inflightAnswered s response false
        if start then avbStartStreamIn cfg env s u else s

/-- `avb_process_acmp`, the messages that concern the listener. -/
def avbProcessAcmp (s : AcmpState) (msg : AcmpMessage) : AcmpState :=
  if msg.listenerEntityId ≠ cfg.entityId then s
  else
    match msg.msgType with
    | .connectRxCommand => (avbProcessAcmpConnectRxCommand cfg env s msg false false).2
    | .disconnectRxCommand => (avbProcessAcmpConnectRxCommand cfg env s msg true false).2
    | .connectTxResponse => avbProcessAcmpConnectTxResponse cfg env s msg false
    | .disconnectTxResponse => avbProcessAcmpConnectTxResponse cfg env s msg true
    | _ => s

/-! ### Timeouts and fast connect -/

def acmpRxResponseForTxCommand : AcmpMsgType → Option AcmpMsgType
  | .connectTxCommand => some .connectRxResponse
  | .disconnectTxCommand => some .disconnectRxResponse
  | _ => none

def clearPending (s : AcmpState) (listenerUid : UInt16) : AcmpState :=
  match inputSlot listenerUid with
  | none => s
  | some u =>
      if avbValidListenerUid cfg listenerUid then
        s.setStream u { s.inputStreams u with pendingConnection := false }
      else s

/-- What an expired command to the talker does before its own entry goes. -/
def inflightExpired (s : AcmpState) (c : InflightCommand) : AcmpState :=
  if c.inbound then s
  else
    let s := if c.command.msgType = .connectTxCommand then clearPending cfg s c.command.listenerUid else s
    match acmpRxResponseForTxCommand c.command.msgType with
    | none => s
    | some rspType =>
        match avbFindInflightCommandByData s rspType.code c.command true with
        | none => s
        | some rx =>
            avbRemoveInflightCommand
              (avbSendAcmpResponse env s rspType { c.command with seqId := rx.acmpSeqId }
                .listenerTalkerTimeout) rx.acmpSeqId true

/-- The loop of `avb_process_inflight_timeouts` from index `i`; each round passes an entry or
removes one. -/
def inflightTimeoutsFrom : Nat → Nat → AcmpState → AcmpState
  | 0, _, s => s
  | rounds + 1, i, s =>
      match s.inflight[i]? with
      | none => s
      | some c =>
          if env.timeOfDayMs < c.timeoutMs then inflightTimeoutsFrom rounds (i + 1) s
          else
            inflightTimeoutsFrom rounds i
              (avbRemoveInflightCommand (inflightExpired cfg env s c) c.acmpSeqId c.inbound)

def avbProcessInflightTimeouts (s : AcmpState) : AcmpState :=
  inflightTimeoutsFrom cfg env s.inflight.length 0 s

/-- Bound, not connected for good, and not waiting for a response. -/
def AcmpListenerStream.probes (stream : AcmpListenerStream) : Bool :=
  stream.talkerId != .zero 8 && !(stream.connected && !stream.provisional) &&
    !stream.pendingConnection

def fastConnectCommand (stream : AcmpListenerStream) (u : Fin avbMaxNumInputStreams) :
    AcmpMessage :=
  { AcmpMessage.zero with
    talkerEntityId := stream.talkerId
    talkerUid := stream.talkerUid
    listenerEntityId := cfg.entityId
    listenerUid := UInt16.ofNat u.val
    controllerEntityId := stream.controllerId
    flags := listenerConnectFlags cfg (if stream.classB then 1 else 0) }

def avbFastConnectListener (s : AcmpState) (u : Fin avbMaxNumInputStreams) : AcmpState :=
  let stream := s.inputStreams u
  if !stream.probes || !env.discovered stream.talkerId then s
  else
    let (sent, s) :=
      avbSendAcmpCommand env s .connectTxCommand (fastConnectCommand cfg stream u) true
    if sent then s.setStream u { s.inputStreams u with pendingConnection := true } else s

/-- One stream's turn in `avb_periodic_fast_connect`. -/
def fastConnectTurn (s : AcmpState) (u : Fin avbMaxNumInputStreams) : AcmpState :=
  let stream := s.inputStreams u
  if cfg.numInputStreams ≤ u.val || !stream.probes then s
  else if 1000 ≤ stream.lastFastConnectAttemptMs ∧
      env.monotonicMs < stream.lastFastConnectAttemptMs + avbFastConnectRetryMsec then s
  else
    avbFastConnectListener cfg env
      (s.setStream u { stream with lastFastConnectAttemptMs := env.monotonicMs }) u

def avbPeriodicFastConnect (s : AcmpState) : AcmpState :=
  (List.finRange avbMaxNumInputStreams).foldl (fastConnectTurn cfg env) s

/-- A connected stream whose talker departs, or that shows no life for 10 s, probes again. -/
def demoteStream (s : AcmpState) (u : Fin avbMaxNumInputStreams) : AcmpState :=
  if (s.inputStreams u).connected && !(s.inputStreams u).provisional then
    s.setStream u { s.inputStreams u with provisional := true, demoteRefUs := 0 }
  else s

end

/-! ### Runs -/

/-- What reaches the listener, in the order the network and the clocks choose. Locks and
acquisitions come and go between any two events. -/
inductive AcmpEvent where
  | acmp (env : AcmpEnv) (msg : AcmpMessage)
  | bindStream (env : AcmpEnv) (cmd : MvuBindStream)
  | unbindStream (env : AcmpEnv) (cmd : MvuUnbindStream)
  | inflightTimeouts (env : AcmpEnv)
  | fastConnect (env : AcmpEnv) (u : Fin avbMaxNumInputStreams)
  | demote (u : Fin avbMaxNumInputStreams)
  | holders (holders : EntityHolders)

/-- After bring-up: nothing is in flight, and a stream that already plays, provisionally, is an input
with a saved binding. -/
structure AcmpState.AtBoot (cfg : AcmpConfig) (s : AcmpState) : Prop where
  inflight : s.inflight = []
  pending : ∀ u, (s.inputStreams u).pendingConnection = false
  connected : ∀ u, (s.inputStreams u).connected →
    u.val < cfg.numInputStreams ∧ (s.inputStreams u).talkerId ≠ .zero 8

def acmpStep (cfg : AcmpConfig) (s : AcmpState) : AcmpEvent → AcmpState
  | .acmp env msg => avbProcessAcmp cfg env s msg
  | .bindStream env cmd => avbProcessAecpCmdMvuBindStream cfg env s cmd
  | .unbindStream env cmd => avbProcessAecpCmdMvuUnbindStream cfg env s cmd
  | .inflightTimeouts env => avbProcessInflightTimeouts cfg env s
  | .fastConnect env u => fastConnectTurn cfg env s u
  | .demote u => demoteStream s u
  | .holders holders => { s with holders }

/-- An end station with two stream inputs, the second one for the media clock. -/
def twoInputs : AcmpConfig :=
  { entityId := .ofNat 8 0x020000fffe000001
    numInputStreams := 2
    crfInputIndex := 1
    port0Medium := .ethHwts
    classVlan := fun _ => 2
    numInputStreams_le := Nat.le_refl 2 }

def EntityHolders.none : EntityHolders :=
  { acquired := false, acquiredBy := .zero 8, locked := false, lockedBy := .zero 8
    lockExpiresUs := 0 }

/-- After bring-up with nothing saved. -/
def AcmpState.blank : AcmpState :=
  { inputStreams := fun _ => .zero
    inflight := []
    acmpSeqId := 0
    holders := .none
    streamInActive := false
    crfRxActive := false
    effects := []
    strayAccesses := [] }

theorem AcmpState.blank_atBoot (cfg : AcmpConfig) : AcmpState.blank.AtBoot cfg where
  inflight := rfl
  pending _ := rfl
  connected u h := by cases h

/-- Every frame leaves, every talker is discovered and stream-ins start. -/
def AcmpEnv.at (ms : Nat) : AcmpEnv :=
  { timeOfDayMs := ms, monotonicMs := ms, netSend := fun _ => true, discovered := fun _ => true
    streamInStarts := true }

/-- A message between a talker's output 0 and the local input `listenerUid`. -/
def acmpMsg (msgType : AcmpMsgType) (talkerId : UniqueId) (listenerUid seqId : UInt16) :
    AcmpMessage :=
  { AcmpMessage.zero with
    msgType
    streamId := talkerId
    controllerEntityId := .ofNat 8 0xc0
    talkerEntityId := talkerId
    listenerEntityId := twoInputs.entityId
    listenerUid
    seqId }

end EspAvb
