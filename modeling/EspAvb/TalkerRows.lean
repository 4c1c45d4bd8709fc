import EspAvb.Lib.PackedArray
import EspAvb.Talker

/-!
# The array behind the listener rows

`connected_listeners` is an array of ten rows with `connection_count` beside it. What `avb.c`, `mrp.c`
and `atdecc.c` do to it row by row: a new row writes two fields and takes the others as they are,
a removal closes the gap and blanks the last row in use.
-/

namespace EspAvb

/-- `connected_listeners` and `connection_count`. -/
structure ConnectedListeners where
  slots : List TalkerListener
  connectionCount : Nat
  length_eq : slots.length = avbMaxNumConnectedListeners
  deriving DecidableEq

/-- The row of an accepted CONNECT_TX. -/
def acmpConnectedRow (nowUs : Nat) (row : TalkerListener) : TalkerListener :=
  { row with acmpConnected := true, askingFailed := false, lastSeenUs := nowUs }

namespace ConnectedListeners

variable (c : ConnectedListeners)

def empty : ConnectedListeners :=
  { slots := List.replicate avbMaxNumConnectedListeners .zero, connectionCount := 0
    length_eq := List.length_replicate }

def row (i : Nat) : TalkerListener := c.slots.getD i .zero

/-- The rows that a loop up to `connection_count` visits. -/
def inUse : List TalkerListener := c.slots.take c.connectionCount

/-- `connection_count`, clamped to the array. -/
def count : Nat := min c.connectionCount avbMaxNumConnectedListeners

def modify (i : Nat) (f : TalkerListener → TalkerListener) : ConnectedListeners :=
  { c with slots := c.slots.modify i f, length_eq := by simpa using c.length_eq }

/-- The row behind those in use is written and counted. -/
def claim (f : TalkerListener → TalkerListener) : Option (Nat × ConnectedListeners) :=
  if avbMaxNumConnectedListeners ≤ c.connectionCount then none
  else
    some (c.connectionCount,
      { c.modify c.connectionCount f with connectionCount := c.connectionCount + 1 })

/-- `avb_remove_talker_listener_by_index` -/
def remove (idx : Nat) : ConnectedListeners :=
  if c.count ≤ idx then c
  else
    { slots := (PackedArray.shiftDown .zero idx (c.count - 1 - idx) c.slots).set (c.count - 1) .zero
      connectionCount := c.count - 1
      length_eq := by simpa [PackedArray.length_shiftDown] using c.length_eq }

/-! ### `mrp.c` -/

/-- `find_connected_listener_by_entity` -/
def findConnectedListenerByEntity (entityId : UniqueId) : Option Nat :=
  if entityId = .zero 8 then none else c.inUse.findIdx? (·.identityId == entityId)

/-- `add_connected_listener` -/
def addConnectedListener (macAddr : EthAddr) : Option (Nat × ConnectedListeners) :=
  c.claim fun row => { row with macAddr }

/-- `find_or_add_msrp_listener` -/
def findOrAddMsrpListener (env : TalkerEnv) (macAddr : EthAddr) :
    Option (Nat × ConnectedListeners) :=
  match c.inUse.findIdx? (·.macAddr == macAddr) with
  | some i => some (i, c)
  | none =>
      let entities := (env.listeners.filter (·.1 == macAddr)).map (·.2)
      match entities.findSome? c.findConnectedListenerByEntity with
      | some i => some (i, c.modify i fun row => { row with macAddr })
      | none =>
          (c.addConnectedListener macAddr).map fun (i, c) =>
            match entities with
            | [entityId] =>
                (i, c.modify i fun row => { row with identityId := entityId, identityUid := 0 })
            | _ => (i, c)

/-- The rows of a Listener Ready or Ready Failed. -/
def ready (env : TalkerEnv) (srcAddr : EthAddr) (readyFailed : Bool) : ConnectedListeners :=
  match c.findOrAddMsrpListener env srcAddr with
  | none => c
  | some (i, c) =>
      c.modify i fun row =>
        { row with
          lastSeenUs := env.nowUs, msrpReady := true, msrpReadyLive := true
          askingFailedSinceUs := 0, askingFailed := readyFailed }

/-- The rows of a Listener Asking Failed. -/
def askingFailed (env : TalkerEnv) (srcAddr : EthAddr) : ConnectedListeners :=
  match c.findOrAddMsrpListener env srcAddr with
  | none => c
  | some (i, c) => c.modify i (askingFailedRow env.nowUs)

/-- A row whose readiness is gone goes with it unless ACMP holds it. -/
def dropReadiness (i : Nat) : ConnectedListeners :=
  let c := c.modify i fun row => { row with msrpReady := false, askingFailed := false }
  if (c.row i).acmpConnected then c else c.remove i

/-- The rows of a leaving listener, in AVB Lite. -/
def leave (srcAddr : EthAddr) : ConnectedListeners :=
  match c.inUse.findIdx? (·.macAddr == srcAddr) with
  | none => c
  | some i => c.dropReadiness i

/-- The rows of an aged-out registration. -/
def ageOut : ConnectedListeners := PackedArray.walkDown (fun i c => c.dropReadiness i) c.count c

/-- The rows of a stream that `avb_output_stream_renew_id` moves. -/
def renew : ConnectedListeners :=
  PackedArray.walkDown
    (fun i c =>
      if (c.row i).acmpConnected then
        c.modify i fun row =>
          { row with
            msrpReady := false, msrpReadyLive := false, askingFailed := false
            askingFailedSinceUs := 0 }
      else c.remove i)
    c.count c

/-! ### `atdecc.c` -/

/-- `find_talker_listener_by_identity` -/
def findTalkerListenerByIdentity (entityId : UniqueId) (uid : UInt16) : Option Nat :=
  c.inUse.findIdx? fun row => row.identityId == entityId && row.identityUid == uid

/-- `find_talker_listener_by_entity` -/
def findTalkerListenerByEntity (entityId : UniqueId) : Option Nat :=
  c.inUse.findIdx? (·.identityId == entityId)

/-- The only row that is ready and waits for its ACMP half. -/
def solePending : Option Nat :=
  let pending := fun row : TalkerListener => !row.acmpConnected && row.msrpReady
  if c.inUse.countP pending = 1 then c.inUse.findIdx? pending else none

/-- `find_or_add_talker_listener_by_identity` -/
def findOrAddTalkerListenerByIdentity (entityId : UniqueId) (uid : UInt16) :
    Option (Nat × ConnectedListeners) :=
  match c.findTalkerListenerByIdentity entityId uid with
  | some i => some (i, c)
  | none =>
      match (c.findTalkerListenerByEntity entityId).filter fun i => !(c.row i).acmpConnected with
      | some i => some (i, c.modify i fun row => { row with identityUid := uid })
      | none =>
          match c.solePending with
          | some i =>
              some (i, c.modify i fun row => { row with identityId := entityId, identityUid := uid })
          | none => c.claim fun row => { row with identityId := entityId, identityUid := uid }

/-- The rows of a CONNECT_TX. -/
def connectTx (env : TalkerEnv) (msg : AcmpMessage) : Option (Nat × ConnectedListeners) :=
  (c.findOrAddTalkerListenerByIdentity msg.listenerEntityId msg.listenerUid).map fun (i, c) =>
    (i, c.modify i (acmpConnectedRow env.nowUs))

/-- The rows of a DISCONNECT_TX. -/
def disconnectTx (msg : AcmpMessage) : ConnectedListeners :=
  match (c.findTalkerListenerByIdentity msg.listenerEntityId msg.listenerUid).or
      (c.findTalkerListenerByEntity msg.listenerEntityId) with
  | some i => c.remove i
  | none => c

end ConnectedListeners

/-! ### Runs -/

section

variable (cfg : TalkerConfig) (env : TalkerEnv) (s : TalkerState) (u : Fin avbMaxNumOutputStreams)
variable (c : ConnectedListeners)

/-- Whether `avb_output_stream_declare_now` moves the stream to a new ID. -/
def declareNowRenews (exceptListener : Option Nat) : Bool :=
  let stream := s.outputStreams u
  cfg.talker && !s.avbLite && stream.streamDestAddr != .zero 6 && cfg.newStreamIdOnGrow &&
    env.advertiseChangeWaits stream && !stream.streaming &&
    !heldByOther stream.listeners exceptListener && (nextStreamIdGen env stream).isSome

/-- Whether the class a CONNECT_TX sets moves the stream to a new ID. -/
def connectTxRenews (listenerIdx : Nat) (classB : Bool) : Bool :=
  let stream := s.outputStreams u
  let vlanId := (env.msrpMappings[if classB then 1 else 0]?).getD stream.vlanId
  stream.classB != classB &&
    declareNowRenews cfg env (s.setStream u { stream with classB, vlanId }) u (some listenerIdx)

/-- The array after an accepted CONNECT_TX. -/
def connectTxArray (msg : AcmpMessage) : ConnectedListeners :=
  let stream := s.outputStreams u
  let known := findTalkerListenerByIdentity stream.listeners msg.listenerEntityId msg.listenerUid
  match c.connectTx env msg,
      findOrAddTalkerListenerByIdentity stream.listeners msg.listenerEntityId msg.listenerUid with
  | some (i, c), some (_, t) =>
      let t := t.modify i (acmpConnectedRow env.nowUs)
      if connectTxRenews cfg env (s.setListeners u t) u i (connectTxClass cfg stream known msg.flags)
      then c.renew else c
  | _, _ => c

/-- The array after a Listener declaration or the end of its registration. -/
def listenerArray (leaving : Bool) (decl : MsrpListenerEvent) (tr : MrpRegTransition)
    (srcAddr : Option EthAddr) : ConnectedListeners :=
  match srcAddr with
  | none => if tr = .deregister && !s.avbLite then c.ageOut else c
  | some srcAddr =>
      if leaving then if s.avbLite then c.leave srcAddr else c
      else
        match decl with
        | .ready => c.ready env srcAddr false
        | .readyFailed => c.ready env srcAddr true
        | .askingFailed => c.askingFailed env srcAddr
        | .ignore => c

end

/-- A command that the entity takes for its output stream `u`. -/
def reachesOutput (cfg : TalkerConfig) (holders : EntityHolders) (msg : AcmpMessage)
    (u : Fin avbMaxNumOutputStreams) : Bool :=
  msg.talkerEntityId == cfg.entityId && talkerUid cfg msg.talkerUid == some u &&
    !avbAcquiredOrLockedByOther holders msg.controllerEntityId

/-- The array of stream `u` after an event that finds the talker in `s`. -/
def arrayStep (cfg : TalkerConfig) (s : TalkerState) (u : Fin avbMaxNumOutputStreams)
    (c : ConnectedListeners) : TalkerEvent → ConnectedListeners
  | .acmp env holders msg =>
      if reachesOutput cfg holders msg u then
        match msg.msgType with
        | .connectTxCommand => connectTxArray cfg env s u c msg
        | .disconnectTxCommand => c.disconnectTx msg
        | _ => c
      else c
  | .listener env streamId leaving decl tr srcAddr =>
      if talkerStreamOf cfg s streamId = some u then listenerArray env s c leaving decl tr srcAddr
      else c
  | .destAddr _ _ => c

/-- The talker and the arrays its rows are in. -/
structure TalkerArrays where
  talker : TalkerState
  arrays : Fin avbMaxNumOutputStreams → ConnectedListeners

def talkerArraysStep (cfg : TalkerConfig) (s : TalkerArrays) (e : TalkerEvent) : TalkerArrays :=
  { talker := talkerStep cfg s.talker e
    arrays := fun u => arrayStep cfg s.talker u (s.arrays u) e }

end EspAvb
