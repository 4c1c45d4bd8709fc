import EspAvb.Acmp
import EspAvb.Lib.Roster

/-!
# ADP discovery

`avb_process_adp` in `atdecc.c`: the tables of the talkers, listeners and controllers that announce
themselves, keyed by entity ID, and what a departing talker does to the streams bound to it.
-/

namespace EspAvb

inductive AvbEntityType where
  | talker | listener | controller
  deriving DecidableEq, Repr

/-- `avb_talker_s`, `avb_listener_s` and `avb_controller_s`: the fields that ADP fills. -/
structure AvbEntity where
  entityId : UniqueId
  modelId : UniqueId
  macAddr : EthAddr
  deriving DecidableEq, Repr

inductive AdpMsgType where
  | entityAvailable | entityDeparting | entityDiscover
  deriving DecidableEq, Repr

structure AdpMessage where
  msgType : AdpMsgType
  entityId : UniqueId
  modelId : UniqueId
  talkerImplemented : Bool
  audioSource : Bool
  listenerImplemented : Bool
  audioSink : Bool
  controllerImplemented : Bool
  deriving DecidableEq, Repr

def avbMaxNumTalkers : Nat := 10

def avbMaxNumListeners : Nat := 10

def avbMaxNumControllers : Nat := 10

structure AdpConfig extends AcmpConfig where
  listener : Bool
  /-- `CONFIG_ESP_AVB_DISABLE_FAST_CONNECT` is off. -/
  fastConnect : Bool

structure AdpState where
  talkers : List AvbEntity
  listeners : List AvbEntity
  controllers : List AvbEntity
  acmp : AcmpState

def avbFindEntityById (s : AdpState) (entityId : UniqueId) : AvbEntityType → Option AvbEntity
  | .talker => Roster.find? AvbEntity.entityId entityId s.talkers
  | .listener => Roster.find? AvbEntity.entityId entityId s.listeners
  | .controller => Roster.find? AvbEntity.entityId entityId s.controllers

/-- The streams bound to a talker that departs probe again. -/
def adpDemote (cfg : AdpConfig) (talkerId : UniqueId) (s : AcmpState) : AcmpState :=
  (List.finRange avbMaxNumInputStreams).foldl (fun s u =>
    if u.val < cfg.numInputStreams ∧ (s.inputStreams u).talkerId = talkerId then demoteStream s u
    else s) s

/-- `avb_process_adp` -/
def avbProcessAdp (cfg : AdpConfig) (s : AdpState) (msg : AdpMessage) (srcAddr : EthAddr) : AdpState :=
  let entity : AvbEntity :=
    { entityId := msg.entityId, modelId := msg.modelId, macAddr := srcAddr }
  match msg.msgType with
  | .entityDeparting =>
      { s with
        acmp := if cfg.fastConnect && cfg.listener then adpDemote cfg msg.entityId s.acmp else s.acmp
        talkers := Roster.leave AvbEntity.entityId msg.entityId s.talkers
        listeners := Roster.leave AvbEntity.entityId msg.entityId s.listeners }
  | .entityAvailable =>
      { s with
        talkers :=
          if msg.talkerImplemented && msg.audioSource then
            Roster.enter AvbEntity.entityId avbMaxNumTalkers entity s.talkers
          else s.talkers
        listeners :=
          if msg.listenerImplemented && msg.audioSink then
            Roster.enter AvbEntity.entityId avbMaxNumListeners entity s.listeners
          else s.listeners
        controllers :=
          if msg.controllerImplemented then
            Roster.enter AvbEntity.entityId avbMaxNumControllers entity s.controllers
          else s.controllers }
  | .entityDiscover => s

/-- What reaches the entity: an ADP message, or an event of the listener. -/
inductive AdpEvent where
  | adp (msg : AdpMessage) (srcAddr : EthAddr)
  | acmp (event : AcmpEvent)

/-- `avb_find_entity_by_id` for the talkers that the listener asks for. -/
def AcmpEvent.discovering (discovered : UniqueId → Bool) : AcmpEvent → AcmpEvent
  | acmp env msg => acmp { env with discovered } msg
  | bindStream env cmd => bindStream { env with discovered } cmd
  | unbindStream env cmd => unbindStream { env with discovered } cmd
  | inflightTimeouts env => inflightTimeouts { env with discovered }
  | fastConnect env u => fastConnect { env with discovered } u
  | demote u => demote u
  | holders h => holders h

namespace AdpState

def discovered (s : AdpState) (talkerId : UniqueId) : Bool :=
  (avbFindEntityById s talkerId .talker).isSome

def step (cfg : AdpConfig) (s : AdpState) : AdpEvent → AdpState
  | .adp msg srcAddr => avbProcessAdp cfg s msg srcAddr
  | .acmp event => { s with acmp := acmpStep cfg.toAcmpConfig s.acmp (event.discovering s.discovered) }

/-- The state before event `n`, from bring-up. -/
def before (cfg : AdpConfig) (acmp : AcmpState) (events : Nat → AdpEvent) : Nat → AdpState
  | 0 => { talkers := [], listeners := [], controllers := [], acmp }
  | n + 1 => step cfg (before cfg acmp events n) (events n)

def table (s : AdpState) : AvbEntityType → List AvbEntity
  | .talker => s.talkers
  | .listener => s.listeners
  | .controller => s.controllers

end AdpState

end EspAvb
