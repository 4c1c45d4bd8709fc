import EspAvb.Aecp

/-!
# Stream IDs over a run

An output stream that grows its reservation moves to another generation of its stream ID
(`avb_output_stream_renew_id` in `avb.c`). A run of the entity with the periodic declarations between
its events is logged here, each declaration and withdrawal with the time of the event it came from.
-/

namespace EspAvb

/-- `stream_id_from_mac` -/
def streamIdFromMac (macAddr : EthAddr) (uid : Nat) : UniqueId :=
  Octets.read 8 (macAddr.bytes ++ List.replicate 2 (UInt8.ofNat uid))

/-- The stream IDs of `avb_initialize_state`, in a state that is otherwise arbitrary. -/
def avbInitializeStreamIds (macAddr : EthAddr) (s : EntityState) : EntityState :=
  { s with
    talker := { s.talker with
      outputStreams := fun u =>
        { s.talker.outputStreams u with
          streamId := streamIdFromMac macAddr u.val
          streamIdGen := 0
          streamIdRetiredUs := fun _ => 0 } } }

/-- What reaches the entity, the periodic declaration of an output stream, and whatever else happens to
the talker, which leaves its stream IDs alone and declares nothing. -/
inductive RenewalEvent where
  | entity (e : EntityEvent)
  | tick (env : EntityEnv) (u : Fin avbMaxNumOutputStreams)
  | other (t : TalkerState)

/-- `esp_timer_get_time` at an event; some read no clock. -/
def EntityEvent.nowUs (clock : Nat) : EntityEvent → Nat
  | .aecp env _ | .acmp env _ | .inflightTimeouts env | .fastConnect env _
  | .mrpListener env .. | .lockTick env => env.talker.nowUs
  | .demote _ | .destAddr .. => clock

def RenewalEvent.nowUs (clock : Nat) : RenewalEvent → Nat
  | .entity e => e.nowUs clock
  | .tick env _ => env.talker.nowUs
  | .other _ => clock

/-- The stream IDs of one talker in another. -/
def TalkerState.keepIds (t t' : TalkerState) : TalkerState :=
  { t' with
    effects := t.effects
    outputStreams := fun u =>
      { t'.outputStreams u with
        streamId := (t.outputStreams u).streamId
        streamIdGen := (t.outputStreams u).streamIdGen
        streamIdRetiredUs := (t.outputStreams u).streamIdRetiredUs } }

variable (cfg : EntityConfig)

def renewalEntityStep (s : EntityState) : RenewalEvent → EntityState
  | .entity e => entityStep cfg s e
  | .tick env u =>
      { s with talker := avbDeclareOutputStream cfg.talker env.talker s.talker u none }
  | .other t => { s with talker := s.talker.keepIds t }

/-- The entity, the time of the last event, and what the talker did, with its times. -/
structure RenewalRun where
  entity : EntityState
  clock : Nat
  log : List (Nat × TalkerEffect)

def renewalStep (run : RenewalRun) (ev : RenewalEvent) : RenewalRun :=
  let entity := renewalEntityStep cfg run.entity ev
  let nowUs := ev.nowUs run.clock
  { entity
    clock := nowUs
    log := run.log ++
      (entity.talker.effects.drop run.entity.talker.effects.length).map fun e => (nowUs, e) }

def renewalStart (macAddr : EthAddr) (clock : Nat) (s : EntityState) : RenewalRun :=
  { entity := avbInitializeStreamIds macAddr s, clock, log := [] }

/-- The listener that a CONNECT_TX connects. -/
def RenewalEvent.connecting : RenewalEvent → Option (UniqueId × UInt16)
  | .entity (.acmp _ msg) =>
      if msg.msgType = .connectTxCommand then some (msg.listenerEntityId, msg.listenerUid) else none
  | _ => none

/-- A stream moves to another stream ID. It does not run, no listener but the connecting one holds it,
and its rows after are those ACMP connected, none of them ready. -/
structure StreamRenewed (who : Option (UniqueId × UInt16)) (before after : AvbTalkerStream) :
    Prop where
  idle : before.streaming = false
  held : ∀ row ∈ before.listeners.rows, row.acmpConnected = true →
    who = some (row.identityId, row.identityUid)
  kept : ∀ row ∈ before.listeners.rows, row.acmpConnected = true →
    ∃ row' ∈ after.listeners.rows,
      row'.identityId = row.identityId ∧ row'.identityUid = row.identityUid
  connected : ∀ row ∈ after.listeners.rows, row.acmpConnected = true ∧ row.msrpReady = false ∧
    who = some (row.identityId, row.identityUid)
  connects : ∀ id, who = some id → ∃ row ∈ after.listeners.rows,
    (row.identityId, row.identityUid) = id

/-- The declaration of a withdrawn stream ID comes the reuse time after. -/
def SpacedReuse (earlier later : Nat × TalkerEffect) : Prop :=
  ∀ streamId destAddr, earlier.2 = .withdrawTalker streamId →
    later.2 = .declareTalker streamId destAddr → earlier.1 + avbStreamIdReuseUs ≤ later.1

end EspAvb
