import EspAvb.Lib.Machine
import EspAvb.Msrp

/-!
# Controllers registered for unsolicited notifications

`atdecc_unsol.c`: the table of registered controllers, the notifications sent to them and the
CONTROLLER_AVAILABLE checks under Milan. A controller is an entity ID at a MAC address. What the
notifications carry is left to their senders; here they are a kind and a length.
-/

namespace EspAvb

def avbMaxUnsolControllers : Nat := 16
/-- `s_frame`, AVB_MAX_MSG_LEN octets. -/
def unsolFrameLen : Nat := 600
def unsolCheckMinUs : Nat := 30 * 1000000
def unsolCheckSpanUs : Nat := 30 * 1000000
def unsolCheckSends : Nat := 2
def unsolReplyWiredUs : Nat := 250000
def unsolReplyWifiUs : Nat := 1000000
def unsolTimeLimitUs : Nat := 300 * 1000000

/-- `avb_unsol_kind_t` -/
inductive UnsolKind where
  | aem | mvu | vendor
  deriving DecidableEq, Repr

abbrev ControllerKey := UniqueId × EthAddr

/-- `avb_unsol_controller_s`. `replyDueUs` is zero while no check is pending. -/
structure UnsolController where
  key : ControllerKey
  seqIds : UnsolKind → UInt16
  timeLimited : Bool
  expiresUs : Nat
  checkDueUs : Nat
  replyDueUs : Nat
  checkSeqId : UInt16
  checksSent : Nat

structure UnsolConfig where
  milanCompliant : Bool
  wifi : Bool

/-- A frame that leaves, or a registration that begins. -/
inductive UnsolEffect where
  | registered (key : ControllerKey)
  | notification (key : ControllerKey) (kind : UnsolKind) (seqId : UInt16)
  | check (key : ControllerKey) (seqId : UInt16)
  deriving DecidableEq, Repr

structure UnsolState where
  controllers : List UnsolController
  aecpSeqId : UInt16
  effects : List UnsolEffect

/-- The clock, and `esp_random` for one call. -/
structure UnsolEnv where
  nowUs : Nat
  random : Nat

def UnsolState.keys (s : UnsolState) : List ControllerKey := s.controllers.map (·.key)

namespace UnsolController

def fresh (key : ControllerKey) : UnsolController :=
  { key, seqIds := fun _ => 0, timeLimited := false, expiresUs := 0, checkDueUs := 0
    replyDueUs := 0, checkSeqId := 0, checksSent := 0 }

/-- `avb_unsol_rearm` -/
def rearm (env : UnsolEnv) (entry : UnsolController) : UnsolController :=
  { entry with
    checkDueUs := env.nowUs + (unsolCheckMinUs + env.random % unsolCheckSpanUs)
    replyDueUs := 0
    checksSent := 0 }

/-- A registration, new or renewed. -/
def renew (env : UnsolEnv) (timeLimited : Bool) (entry : UnsolController) : UnsolController :=
  rearm env { entry with timeLimited, expiresUs := env.nowUs + unsolTimeLimitUs }

/-- `avb_unsol_send_to`: the sequence ID counts whether or not the frame leaves. -/
def sent (kind : UnsolKind) (entry : UnsolController) : UnsolController :=
  { entry with seqIds := Function.update entry.seqIds kind (entry.seqIds kind + 1) }

/-- The check that a CONTROLLER_AVAILABLE response with this sequence ID would answer. -/
def awaits (entityId : UniqueId) (seqId : UInt16) (entry : UnsolController) : Bool :=
  entry.replyDueUs != 0 && entry.checkSeqId == seqId && entry.key.1 == entityId

def lapsed (nowUs : Nat) (entry : UnsolController) : Bool :=
  entry.timeLimited && entry.expiresUs ≤ nowUs

end UnsolController

/-- The entry of a key changed in place. -/
def modifyController (key : ControllerKey) (f : UnsolController → UnsolController) :
    List UnsolController → List UnsolController
  | [] => []
  | entry :: rest => if entry.key = key then f entry :: rest else entry :: modifyController key f rest

section

variable (cfg : UnsolConfig) (env : UnsolEnv)

/-- `avb_unsol_register`. A full table has its controllers checked at once. -/
def avbUnsolRegister (s : UnsolState) (key : ControllerKey) (timeLimited : Bool) : UnsolState :=
  if key ∈ s.keys then
    { s with controllers := modifyController key (.renew env timeLimited) s.controllers }
  else if avbMaxUnsolControllers ≤ s.controllers.length then
    { s with controllers := s.controllers.map fun entry =>
        if entry.replyDueUs = 0 then { entry with checkDueUs := env.nowUs } else entry }
  else
    { s with
      controllers := s.controllers ++ [(UnsolController.fresh key).renew env timeLimited]
      effects := s.effects ++ [.registered key] }

/-- `avb_unsol_deregister` -/
def avbUnsolDeregister (s : UnsolState) (key : ControllerKey) : UnsolState :=
  { s with controllers := s.controllers.eraseP (·.key = key) }

/-- `avb_unsol_heard` -/
def avbUnsolHeard (s : UnsolState) (key : ControllerKey) : UnsolState :=
  { s with controllers := modifyController key (.rearm env) s.controllers }

/-- The first entry that awaits the reply is rearmed. -/
def rearmAwaiting (entityId : UniqueId) (seqId : UInt16) : List UnsolController →
    List UnsolController
  | [] => []
  | entry :: rest =>
      if entry.awaits entityId seqId then entry.rearm env :: rest
      else entry :: rearmAwaiting entityId seqId rest

/-- `avb_unsol_controller_replied` -/
def avbUnsolControllerReplied (s : UnsolState) (entityId : UniqueId) (seqId : UInt16) :
    UnsolState :=
  { s with controllers := rearmAwaiting env entityId seqId s.controllers }

/-- Whom a notification about a command is not sent to: the controller that sent the command. -/
def isRequester (requester : Option (UniqueId × Option EthAddr)) (key : ControllerKey) : Bool :=
  requester.any fun (entityId, mac) => key.1 == entityId && mac.all (key.2 == ·)

/-- The notification loop over the entries. -/
def notifyEntries (kind : UnsolKind) (requester : Option (UniqueId × Option EthAddr)) :
    List UnsolController → List UnsolController × List UnsolEffect
  | [] => ([], [])
  | entry :: rest =>
      let (rest', effects) := notifyEntries kind requester rest
      if isRequester requester entry.key then (entry :: rest', effects)
      else (entry.sent kind :: rest', .notification entry.key kind (entry.seqIds kind) :: effects)

/-- `avb_unsol_notify` -/
def avbUnsolNotify (s : UnsolState) (msgLen : Nat) (kind : UnsolKind)
    (requester : Option (UniqueId × Option EthAddr)) : UnsolState :=
  if unsolFrameLen < msgLen then s
  else
    let (controllers, effects) := notifyEntries kind requester s.controllers
    { s with controllers, effects := s.effects ++ effects }

/-- `avb_unsol_send_check`: a retry keeps the sequence ID of the first send. -/
def avbUnsolSendCheck (aecpSeqId : UInt16) (entry : UnsolController) :
    UnsolController × UInt16 × UnsolEffect :=
  let seqId := if entry.checksSent = 0 then aecpSeqId else entry.checkSeqId
  ({ entry with
      checkSeqId := seqId
      checksSent := entry.checksSent + 1
      replyDueUs := env.nowUs + if cfg.wifi then unsolReplyWifiUs else unsolReplyWiredUs },
    if entry.checksSent = 0 then aecpSeqId + 1 else aecpSeqId,
    .check entry.key seqId)

/-- The unanswered retry. -/
def UnsolController.departed (entry : UnsolController) : Bool :=
  cfg.milanCompliant && entry.replyDueUs != 0 && entry.replyDueUs ≤ env.nowUs &&
    unsolCheckSends ≤ entry.checksSent

/-- A check, or its retry, is to be sent. -/
def UnsolController.checkDue (entry : UnsolController) : Bool :=
  cfg.milanCompliant &&
    if entry.replyDueUs ≠ 0 then entry.replyDueUs ≤ env.nowUs && entry.checksSent < unsolCheckSends
    else entry.checkDueUs ≤ env.nowUs

/-- The loop of `avb_unsol_registrations_tick` over the entries. Whom it removes gets a last
notification, the unsolicited DEREGISTER. -/
def tickEntries (aecpSeqId : UInt16) :
    List UnsolController → List UnsolController × UInt16 × List UnsolEffect
  | [] => ([], aecpSeqId, [])
  | entry :: rest =>
      if entry.lapsed env.nowUs || entry.departed cfg env then
        let (rest', last, effects) := tickEntries aecpSeqId rest
        (rest', last, .notification entry.key .aem (entry.seqIds .aem) :: effects)
      else if entry.checkDue cfg env then
        let (entry', next, effect) := avbUnsolSendCheck cfg env aecpSeqId entry
        let (rest', last, effects) := tickEntries next rest
        (entry' :: rest', last, effect :: effects)
      else
        let (rest', last, effects) := tickEntries aecpSeqId rest
        (entry :: rest', last, effects)

/-- `avb_unsol_registrations_tick` -/
def avbUnsolRegistrationsTick (s : UnsolState) : UnsolState :=
  let (controllers, aecpSeqId, effects) := tickEntries cfg env s.aecpSeqId s.controllers
  { controllers, aecpSeqId, effects := s.effects ++ effects }

end

/-- ACQUIRE_ENTITY registers its controller too. Every valid command is heard. -/
inductive UnsolEvent where
  | register (env : UnsolEnv) (key : ControllerKey) (timeLimited : Bool)
  | deregister (key : ControllerKey)
  | heard (env : UnsolEnv) (key : ControllerKey)
  | replied (env : UnsolEnv) (entityId : UniqueId) (seqId : UInt16)
  | notify (msgLen : Nat) (kind : UnsolKind) (requester : Option (UniqueId × Option EthAddr))
  | tick (env : UnsolEnv)

def unsolStep (cfg : UnsolConfig) (s : UnsolState) : UnsolEvent → UnsolState
  | .register env key timeLimited => avbUnsolRegister env s key timeLimited
  | .deregister key => avbUnsolDeregister s key
  | .heard env key => avbUnsolHeard env s key
  | .replied env entityId seqId => avbUnsolControllerReplied env s entityId seqId
  | .notify msgLen kind requester => avbUnsolNotify s msgLen kind requester
  | .tick env => avbUnsolRegistrationsTick cfg env s

/-- Before any controller, with the sequence ID of AECP commands wherever it is. -/
def UnsolState.blank (aecpSeqId : UInt16) : UnsolState :=
  { controllers := [], aecpSeqId, effects := [] }

end EspAvb
