import EspAvb.Aecp
import EspAvb.Proof.Listener
import EspAvb.Proof.RunState

/-!
# One controller at a time

A controller that has acquired or locked the entity has it to itself: what a controller can set is
left alone by everybody else's commands. The gate before the AEM handlers and the refusals of the
ACMP handlers see to that. The commands about the acquisition and the lock, the media clock
reference and the flag that BIND_STREAM writes first are not behind them.
-/

namespace EspAvb

variable {cfg : EntityConfig} {env : EntityEnv} {s : EntityState}

/-- What a controller can set, and who holds the entity. -/
@[ext]
structure Controllable where
  inputStreams : Fin avbMaxNumInputStreams → AcmpListenerStream
  outputStreams : Fin avbMaxNumOutputStreams → AvbTalkerStream
  sampleRate : Nat
  descriptorNames : AvbName → Octets 64
  ctrlIdentify : UInt8
  ctrlSpeakerVolTenthDb : Int
  ctrlMicGainTenthDb : Int
  ctrlTestTone : Bool
  inputMap : Fin avbInputClusterChannels → UInt16
  activeClockSourceIndex : UInt16
  mcrUserPrio : UInt8
  mcrDomainName : Octets 64
  acquiredBy : Option UniqueId
  lockedBy : Option UniqueId

def EntityHolders.acquirer (h : EntityHolders) : Option UniqueId :=
  if h.acquired then some h.acquiredBy else Option.none

def EntityHolders.locker (h : EntityHolders) : Option UniqueId :=
  if h.locked then some h.lockedBy else Option.none

def controllable (s : EntityState) : Controllable :=
  { inputStreams := s.listener.inputStreams
    outputStreams := s.talker.outputStreams
    sampleRate := s.sampleRate
    descriptorNames := s.descriptorNames
    ctrlIdentify := s.ctrlIdentify
    ctrlSpeakerVolTenthDb := s.ctrlSpeakerVolTenthDb
    ctrlMicGainTenthDb := s.ctrlMicGainTenthDb
    ctrlTestTone := s.talker.ctrlTestTone
    inputMap := s.inputMap
    activeClockSourceIndex := s.activeClockSourceIndex
    mcrUserPrio := s.mcrUserPrio
    mcrDomainName := s.mcrDomainName
    acquiredBy := s.holders.acquirer
    lockedBy := s.holders.locker }

/-- A controller other than `entityId` has acquired the entity, or locked it without the lock having
expired. -/
def HeldByOther (h : EntityHolders) (nowUs : Nat) (entityId : UniqueId) : Prop :=
  ∃ holder ≠ entityId,
    h.acquirer = some holder ∨ h.locker = some holder ∧ nowUs < h.lockExpiresUs

/-- The newest record of an input stream in the journal. -/
def journalRecord (s : EntityState) (index : UInt16) : Option InputStreamRecord :=
  (s.listener.effects.reverse.findSome? fun e =>
    match e with
    | .persistInputStream i record => if i = index then some record else none
    | _ => none).or (s.savedInputs index)

/-- The entity answered a vendor-unique command between the two states. -/
def MvuAnswered (s s' : AcmpState) (status : AecpStatus) : Prop :=
  .mvuResponse status ∈ s'.effects.drop s.effects.length

/-- A BIND_STREAM that is not answered with SUCCESS leaves its stream and the stream's record. -/
def BindRefusedKeeps (s s' : EntityState) (cmd : MvuBindStream) : Prop :=
  ∀ u, inputSlot cmd.descriptorIndex = some u → ∀ status ≠ .success,
    MvuAnswered s.listener s'.listener status →
      s'.listener.inputStreams u = s.listener.inputStreams u ∧
        journalRecord s' cmd.descriptorIndex = journalRecord s cmd.descriptorIndex

def AcmpMsgType.isCommand : AcmpMsgType → Bool
  | .connectTxCommand | .disconnectTxCommand | .getTxStateCommand | .connectRxCommand
  | .disconnectRxCommand | .getRxStateCommand | .getTxConnectionCommand => true
  | _ => false

/-- One step as it should be. -/
def ExclusiveKept (cfg : EntityConfig) (s : EntityState) (e : EntityEvent) : Prop :=
  match e with
  | .aecp env cmd =>
      (HeldByOther s.holders env.talker.nowUs cmd.controllerEntityId →
        controllable (entityStep cfg s e) = controllable s) ∧
        match cmd with
        | .mvuBindStream cmd => BindRefusedKeeps s (entityStep cfg s e) cmd
        | _ => True
  | .acmp env msg =>
      msg.msgType.isCommand → HeldByOther s.holders env.talker.nowUs msg.controllerEntityId →
        controllable (entityStep cfg s e) = controllable s
  | _ => True

/-- An ACQUIRE_ENTITY that is refused, or asks for what is so already. -/
def AcquireIdle (cfg : EntityConfig) (env : EntityEnv) (h : EntityHolders) (entityId : UniqueId)
    (release : Bool) : Prop :=
  cfg.talker.milanCompliant ∨ env.aecpSends = false ∨
    h.acquirer = if release then none else some entityId

/-- A LOCK_ENTITY that is refused, or asks for what is so already. -/
def LockIdle (h : EntityHolders) (entityId : UniqueId) (descriptorType : UInt16) (unlock : Bool) :
    Prop :=
  descriptorType ≠ aemDescTypeEntity ∨ (h.locked ∧ h.lockedBy ≠ entityId) ∨
    h.locker = if unlock then none else some entityId

/-- A media clock reference command that sets nothing new. -/
def McrIdle (s : EntityState) (cmd : MvuMediaClockRefInfo) : Prop :=
  cmd.clockDomainIndex ≠ 0 ∨ cmd.set = false ∨
    (cmd.flags &&& 0x01 != 0 → cmd.userMcrPrio = s.mcrUserPrio) ∧
      (cmd.flags &&& 0x02 != 0 → cmd.mediaClockDomainName = s.mcrDomainName)

/-- A BIND_STREAM that is accepted, names no input, or repeats the input's flag with the journal up
to date. -/
def BindIdle (cfg : EntityConfig) (s : EntityState) (cmd : MvuBindStream) : Prop :=
  ∀ u, inputSlot cmd.descriptorIndex = some u →
    mvuNoSuchInput cfg.acmp cmd.toMvuUnbindStream = false →
    acmpRxRefusal cfg.acmp s.listener
        (mvuSynth cfg.acmp cmd.toMvuUnbindStream cmd.talkerEntityId cmd.talkerStreamIndex) false ≠
      none →
    (s.listener.inputStreams u).streamingWait = (cmd.flags &&& 1 != 0) ∧
      journalRecord s cmd.descriptorIndex =
        some (inputStreamRecord cfg.acmp s.listener cmd.descriptorIndex)

/-- The commands that no gate covers do nothing. -/
def UngatedIdle (cfg : EntityConfig) (s : EntityState) : EntityEvent → Prop
  | .aecp env (.aem entityId (.acquireEntity release _)) =>
      HeldByOther s.holders env.talker.nowUs entityId →
        AcquireIdle cfg env s.holders entityId release
  | .aecp env (.aem entityId (.lockEntity descriptorType unlock)) =>
      HeldByOther s.holders env.talker.nowUs entityId →
        LockIdle s.holders entityId descriptorType unlock
  | .aecp env (.mvuMediaClockRefInfo entityId cmd) =>
      HeldByOther s.holders env.talker.nowUs entityId → McrIdle s cmd
  | .aecp _ (.mvuBindStream cmd) => BindIdle cfg s cmd
  | _ => True

/-! ### What the handlers share -/

@[simp]
theorem controllable_effect (e : AecpEffect) : controllable (s.effect e) = controllable s := rfl

@[simp]
theorem controllable_effectIf (c : Bool) (e : AecpEffect) :
    controllable (s.effectIf c e) = controllable s := by
  cases c <;> rfl

@[simp]
theorem controllable_respond (status : AecpStatus) (value : AemValue) :
    controllable (aecpRespond env s status value) = controllable s := by
  simp [aecpRespond]

theorem HeldByOther.gate {h : EntityHolders} {nowUs : Nat} {entityId : UniqueId}
    (hheld : HeldByOther h nowUs entityId) : avbAcquiredOrLockedByOther h entityId = true := by
  obtain ⟨holder, hne, hholder⟩ := hheld
  unfold EntityHolders.acquirer EntityHolders.locker at hholder
  unfold avbAcquiredOrLockedByOther
  rcases hholder with hacq | ⟨hlock, -⟩
  · split_ifs at hacq with hacquired
    obtain rfl := Option.some.inj hacq
    simp [hacquired, hne]
  · split_ifs at hlock with hlocked
    obtain rfl := Option.some.inj hlock
    simp [hlocked, hne]

/-! ### AEM commands -/

theorem samplingRate_get (descriptorType descriptorIndex : UInt16) (rate : Nat) :
    controllable (avbProcessAecpCmdSamplingRate cfg env s false descriptorType descriptorIndex
      rate) = controllable s := by
  unfold avbProcessAecpCmdSamplingRate
  split_ifs <;> simp_all

theorem maxTransitTime_get (entityId : UniqueId) (descriptorType descriptorIndex : UInt16)
    (ns : Nat) :
    controllable (avbProcessAecpCmdGetMaxTransitTime cfg env s entityId false descriptorType
      descriptorIndex ns) = controllable s := by
  unfold avbProcessAecpCmdGetMaxTransitTime
  split
  · simp
  · dsimp only
    split_ifs <;> simp_all

@[simp]
theorem effect_entityHolders (e : AecpEffect) : (s.effect e).holders = s.holders := rfl

@[simp]
theorem respond_holders (status : AecpStatus) (value : AemValue) :
    (aecpRespond env s status value).holders = s.holders := by
  unfold aecpRespond EntityState.effectIf
  split_ifs <;> rfl

theorem controllable_setHolders_iff {s' : EntityState} (hs : controllable s' = controllable s)
    (h : EntityHolders) :
    controllable (s'.setHolders h) = controllable s ↔
      s.holders.acquirer = h.acquirer ∧ s.holders.locker = h.locker := by
  have hset : controllable (s'.setHolders h) =
      { controllable s' with acquiredBy := h.acquirer, lockedBy := h.locker } := rfl
  rw [hset, hs]
  constructor
  · intro heq
    exact ⟨(congrArg Controllable.acquiredBy heq).symm, (congrArg Controllable.lockedBy heq).symm⟩
  · rintro ⟨hacq, hlock⟩
    rw [← hacq, ← hlock]
    rfl

theorem acquireEntity_iff (entityId : UniqueId) (release : Bool) (ownerId : UniqueId) :
    controllable (avbProcessAecpCmdAcquireEntity cfg env s entityId release ownerId) =
        controllable s ↔ AcquireIdle cfg env s.holders entityId release := by
  unfold avbProcessAecpCmdAcquireEntity AcquireIdle
  cases hmilan : cfg.talker.milanCompliant with
  | true => simp
  | false =>
      cases hsends : env.aecpSends with
      | false => simp
      | true =>
          simp only [Bool.or_self, Bool.not_true, Bool.false_eq_true, if_false, false_or,
            controllable_effectIf, Bool.true_eq_false]
          cases release with
          | true =>
              simp only [if_true]
              rw [controllable_setHolders_iff (controllable_respond _ _), respond_holders]
              exact and_iff_left rfl
          | false =>
              simp only [Bool.false_eq_true, if_false]
              rw [controllable_setHolders_iff (controllable_respond _ _), respond_holders]
              exact and_iff_left rfl

theorem lockEntity_iff (entityId : UniqueId) (descriptorType : UInt16) (unlock : Bool) :
    controllable (avbProcessAecpCmdLockEntity env s entityId descriptorType unlock) =
        controllable s ↔ LockIdle s.holders entityId descriptorType unlock := by
  unfold avbProcessAecpCmdLockEntity LockIdle
  dsimp only
  by_cases htype : descriptorType = aemDescTypeEntity
  · rw [if_neg (not_not_intro htype)]
    by_cases hother : (s.holders.locked && s.holders.lockedBy != entityId) = true
    · rw [if_pos hother]
      simp_all
    · rw [if_neg hother, controllable_effectIf, controllable_respond]
      have hnot : ¬(s.holders.locked = true ∧ s.holders.lockedBy ≠ entityId) := by
        simpa using hother
      rw [or_iff_right (not_not_intro htype), or_iff_right hnot]
      cases unlock with
      | true =>
          simp only [if_true]
          rw [controllable_setHolders_iff rfl]
          exact and_iff_right rfl
      | false =>
          simp only [Bool.false_eq_true, if_false]
          rw [controllable_setHolders_iff rfl]
          exact and_iff_right rfl
  · rw [if_pos htype]
    simp [htype]

theorem controllable_setMcr_iff (prio : UInt8) (name : Octets 64) :
    controllable { s with mcrUserPrio := prio, mcrDomainName := name } = controllable s ↔
      prio = s.mcrUserPrio ∧ name = s.mcrDomainName := by
  constructor
  · intro heq
    exact ⟨congrArg Controllable.mcrUserPrio heq, congrArg Controllable.mcrDomainName heq⟩
  · rintro ⟨rfl, rfl⟩
    rfl

theorem mediaClockRefInfo_iff (cmd : MvuMediaClockRefInfo) :
    controllable (avbProcessAecpCmdMvuMediaClockRefInfo env s cmd) = controllable s ↔
      McrIdle s cmd := by
  unfold avbProcessAecpCmdMvuMediaClockRefInfo McrIdle
  by_cases hdomain : cmd.clockDomainIndex = 0
  · rw [if_neg (not_not_intro hdomain), or_iff_right (not_not_intro hdomain)]
    dsimp only
    rw [controllable_effectIf, controllable_respond, controllable_setMcr_iff]
    cases cmd.set with
    | false => simp
    | true =>
        simp only [Bool.true_and, Bool.true_eq_false, false_or]
        apply and_congr <;> split_ifs with hflag <;> simp [hflag]
  · rw [if_pos hdomain]
    simp [hdomain]

/-! ### ACMP and the binding commands -/

section

variable {cfg : AcmpConfig} {env : AcmpEnv} {s : AcmpState} {msg : AcmpMessage} {disconnect : Bool}

variable (cfg disconnect) in
theorem acmpRxRefusal_of_held
    (hheld : avbAcquiredOrLockedByOther s.holders msg.controllerEntityId = true) :
    acmpRxRefusal cfg s msg disconnect ≠ none := by
  unfold acmpRxRefusal
  split
  · simp
  · split_ifs <;> simp

variable (cfg env) in
theorem rxCommand_of_refused {status : AcmpStatus}
    (hrefused : acmpRxRefusal cfg s msg disconnect = some status) (mvuBind : Bool) :
    let result := avbProcessAcmpConnectRxCommand cfg env s msg disconnect mvuBind
    result.1 = false ∧ result.2.inputStreams = s.inputStreams ∧ result.2.holders = s.holders ∧
      (mvuBind = true → result.2 = s) := by
  unfold avbProcessAcmpConnectRxCommand
  rw [hrefused]
  cases mvuBind <;> simp [avbSendAcmpResponse]

variable (cfg env) in
/-- The listener's half of a command from a controller that is kept out. -/
theorem avbProcessAcmp_of_held (hcmd : msg.msgType.isCommand)
    (hheld : avbAcquiredOrLockedByOther s.holders msg.controllerEntityId = true) :
    (avbProcessAcmp cfg env s msg).inputStreams = s.inputStreams ∧
      (avbProcessAcmp cfg env s msg).holders = s.holders := by
  have hrefused : ∀ disconnect,
      (avbProcessAcmpConnectRxCommand cfg env s msg disconnect false).2.inputStreams =
          s.inputStreams ∧
        (avbProcessAcmpConnectRxCommand cfg env s msg disconnect false).2.holders = s.holders := by
    intro disconnect
    obtain ⟨status, hstatus⟩ := Option.ne_none_iff_exists'.mp
      (acmpRxRefusal_of_held cfg disconnect hheld)
    obtain ⟨-, hinputs, hholders, -⟩ := rxCommand_of_refused cfg env hstatus false
    exact ⟨hinputs, hholders⟩
  unfold avbProcessAcmp
  split_ifs
  · exact ⟨rfl, rfl⟩
  · cases hmsg : msg.msgType with
    | connectRxCommand => exact hrefused false
    | disconnectRxCommand => exact hrefused true
    | connectTxResponse => rw [hmsg] at hcmd; cases hcmd
    | disconnectTxResponse => rw [hmsg] at hcmd; cases hcmd
    | _ => exact ⟨rfl, rfl⟩

/-- A refused binding command is answered and journaled, and that is all. -/
theorem mvuBindVia_of_refused (hrefused : acmpRxRefusal cfg s msg disconnect ≠ none)
    (notify : AcmpState → Bool) :
    mvuBindVia cfg env s msg disconnect notify =
      avbPersistAppendInputStream cfg (s.effect (.mvuResponse .badArguments)) msg.listenerUid := by
  obtain ⟨status, hstatus⟩ := Option.ne_none_iff_exists'.mp hrefused
  obtain ⟨hno, -, -, hsame⟩ := rxCommand_of_refused cfg env hstatus true
  unfold mvuBindVia
  dsimp only
  rw [hno, hsame rfl]
  rfl

/-! ### BIND_STREAM -/

/-- Between two logs, vendor-unique commands were answered with one status only. -/
def AnswersOnly (status : AecpStatus) (before after : List AcmpEffect) : Prop :=
  ∃ tail, after = before ++ tail ∧ ∀ answer, .mvuResponse answer ∈ tail → answer = status

namespace AnswersOnly

variable {status : AecpStatus} {before middle after : List AcmpEffect}

theorem refl : AnswersOnly status before before := ⟨[], by simp⟩

theorem trans (h : AnswersOnly status before middle) (h' : AnswersOnly status middle after) :
    AnswersOnly status before after := by
  obtain ⟨tail, rfl, htail⟩ := h
  obtain ⟨tail', rfl, htail'⟩ := h'
  refine ⟨tail ++ tail', List.append_assoc .., ?_⟩
  intro answer hanswer
  rcases List.mem_append.mp hanswer with hmem | hmem
  · exact htail answer hmem
  · exact htail' answer hmem

theorem effect (e : AcmpEffect) (he : ∀ answer, e = .mvuResponse answer → answer = status) :
    AnswersOnly status s.effects (s.effect e).effects := by
  refine ⟨[e], rfl, ?_⟩
  intro answer hanswer
  exact he answer (List.mem_singleton.mp hanswer).symm

theorem effectIf (c : Bool) (e : AcmpEffect)
    (he : ∀ answer, e = .mvuResponse answer → answer = status) :
    AnswersOnly status s.effects (s.effectIf c e).effects := by
  cases c with
  | false => exact refl
  | true => exact effect e he

end AnswersOnly

theorem avbAddInflightCommand_effects (inbound : Bool) :
    (avbAddInflightCommand env s msg inbound).effects = s.effects := by
  unfold avbAddInflightCommand
  split_ifs <;> rfl

theorem avbSendAcmpCommand_answers (status : AecpStatus) (msgType : AcmpMsgType) (track : Bool) :
    AnswersOnly status s.effects (avbSendAcmpCommand env s msgType msg track).2.effects := by
  unfold avbSendAcmpCommand
  dsimp only
  cases track with
  | false => exact AnswersOnly.effectIf _ _ (by simp)
  | true =>
      simp only [if_true, avbAddInflightCommand_effects]
      exact AnswersOnly.effectIf _ _ (by simp)

theorem avbSendListenerTalkerCommand_answers (status : AecpStatus) (mvuBind : Bool) :
    AnswersOnly status s.effects
      (avbSendListenerTalkerCommand cfg env s msg disconnect mvuBind).2.effects := by
  unfold avbSendListenerTalkerCommand
  split_ifs
  · exact avbSendAcmpCommand_answers _ _ _
  · exact avbSendAcmpCommand_answers _ _ _

variable (cfg s msg) in
theorem acmpRxUpdate_bind_effects :
    (acmpRxUpdate cfg s msg false).effects = s.effects := by
  unfold acmpRxUpdate
  split <;> rfl

/-- An accepted BIND_STREAM is answered with SUCCESS. -/
theorem mvuBindVia_answers (haccept : acmpRxRefusal cfg s msg false = none)
    (notify : AcmpState → Bool) :
    AnswersOnly .success s.effects (mvuBindVia cfg env s msg false notify).effects := by
  unfold mvuBindVia avbProcessAcmpConnectRxCommand avbPersistAppendInputStream
  rw [haccept]
  simp only [if_true]
  rw [← acmpRxUpdate_bind_effects cfg s msg]
  refine AnswersOnly.trans ?_ (AnswersOnly.effect _ (by simp))
  refine AnswersOnly.trans ?_ (AnswersOnly.effectIf _ _ (by simp))
  exact (AnswersOnly.effect _ (by simp)).trans (avbSendListenerTalkerCommand_answers _ _)

variable (cfg env) in
theorem bindStream_none {cmd : MvuBindStream}
    (h : mvuNoSuchInput cfg cmd.toMvuUnbindStream = true ∨ inputSlot cmd.descriptorIndex = none) :
    avbProcessAecpCmdMvuBindStream cfg env s cmd = s.effect (.mvuResponse .noSuchDescriptor) := by
  unfold avbProcessAecpCmdMvuBindStream
  split
  · rfl
  · rename_i u hslot
    rw [hslot] at h
    dsimp only
    rw [if_pos (by simpa using h)]

end

/-- A BIND_STREAM's step of the entity. -/
def bindStep (cfg : EntityConfig) (env : EntityEnv) (s : EntityState) (cmd : MvuBindStream) :
    EntityState :=
  { s with listener := avbProcessAecpCmdMvuBindStream cfg.acmp env.acmp s.listener cmd }

theorem controllable_listener {listener : AcmpState}
    (hinputs : listener.inputStreams = s.listener.inputStreams)
    (hholders : listener.holders = s.listener.holders) :
    controllable { s with listener } = controllable s := by
  unfold controllable EntityState.holders
  rw [hinputs, hholders]

theorem journalRecord_respond (status : AecpStatus) (index : UInt16) :
    journalRecord { s with listener := s.listener.effect (.mvuResponse status) } index =
      journalRecord s index := by
  simp [journalRecord, AcmpState.effect]

/-- What a refused BIND_STREAM of input `u` has done to the listener. -/
def bindRefused (cfg : AcmpConfig) (s : AcmpState) (u : Fin avbMaxNumInputStreams)
    (cmd : MvuBindStream) : AcmpState :=
  let wait : Bool := cmd.flags &&& 1 != 0
  avbPersistAppendInputStream cfg
    ((s.setStream u { s.inputStreams u with streamingWait := wait }).effect
      (.mvuResponse .badArguments)) cmd.descriptorIndex

section

variable {u : Fin avbMaxNumInputStreams} {cmd : MvuBindStream}

theorem bindStep_refused (cfg : EntityConfig) (env : EntityEnv) (s : EntityState)
    (hslot : inputSlot cmd.descriptorIndex = some u)
    (hinput : mvuNoSuchInput cfg.acmp cmd.toMvuUnbindStream = false)
    (hrefused : acmpRxRefusal cfg.acmp s.listener
      (mvuSynth cfg.acmp cmd.toMvuUnbindStream cmd.talkerEntityId cmd.talkerStreamIndex) false ≠
        none) :
    bindStep cfg env s cmd = { s with listener := bindRefused cfg.acmp s.listener u cmd } := by
  obtain ⟨notify, hvia⟩ := bindStream_of_input cfg.acmp env.acmp s.listener hslot hinput
  unfold bindStep
  rw [hvia, mvuBindVia_of_refused (by rwa [acmpRxRefusal_streamingWait])]
  rfl

theorem bindRefused_inputStreams_iff (cfg : AcmpConfig) (s : AcmpState) :
    (bindRefused cfg s u cmd).inputStreams u = s.inputStreams u ↔
      (s.inputStreams u).streamingWait = (cmd.flags &&& 1 != 0) := by
  constructor
  · intro h
    have hwait := congrArg AcmpListenerStream.streamingWait h
    simpa [bindRefused, avbPersistAppendInputStream] using hwait.symm
  · intro h
    simp only [bindRefused, avbPersistAppendInputStream, effect_inputStreams,
      setStream_inputStreams, Function.update_self]
    rw [← h]

/-- With the flag as it was, the refused command has answered and journaled. -/
theorem bindRefused_of_same (cfg : AcmpConfig) (s : AcmpState)
    (h : (s.inputStreams u).streamingWait = (cmd.flags &&& 1 != 0)) :
    bindRefused cfg s u cmd =
      avbPersistAppendInputStream cfg (s.effect (.mvuResponse .badArguments))
        cmd.descriptorIndex := by
  unfold bindRefused
  dsimp only
  rw [← h]
  have hself : s.setStream u
      { s.inputStreams u with streamingWait := (s.inputStreams u).streamingWait } = s := by
    simp [AcmpState.setStream]
  rw [hself]

theorem journalRecord_bindRefused (cfg : EntityConfig) (s : EntityState)
    (h : (s.listener.inputStreams u).streamingWait = (cmd.flags &&& 1 != 0)) :
    journalRecord { s with listener := bindRefused cfg.acmp s.listener u cmd }
        cmd.descriptorIndex =
      some (inputStreamRecord cfg.acmp s.listener cmd.descriptorIndex) := by
  rw [bindRefused_of_same cfg.acmp s.listener h]
  simp only [journalRecord, avbPersistAppendInputStream, AcmpState.effect, List.reverse_append,
    List.reverse_cons, List.reverse_nil, List.nil_append, List.singleton_append,
    List.findSome?_cons, if_true, Option.some_or]
  rfl

theorem bindRefused_answered (cfg : AcmpConfig) (s : AcmpState) :
    MvuAnswered s (bindRefused cfg s u cmd) .badArguments := by
  simp [MvuAnswered, bindRefused, avbPersistAppendInputStream, AcmpState.effect,
    AcmpState.setStream]

/-- A BIND_STREAM that is refused has written its flag and journals its stream. -/
theorem bindStep_refused_iff (hslot : inputSlot cmd.descriptorIndex = some u) :
    BindRefusedKeeps s { s with listener := bindRefused cfg.acmp s.listener u cmd } cmd ↔
      (s.listener.inputStreams u).streamingWait = (cmd.flags &&& 1 != 0) ∧
        journalRecord s cmd.descriptorIndex =
          some (inputStreamRecord cfg.acmp s.listener cmd.descriptorIndex) := by
  constructor
  · intro hkeeps
    obtain ⟨hstream, hrecord⟩ := hkeeps u hslot .badArguments (by decide)
      (bindRefused_answered cfg.acmp s.listener)
    have hwait := (bindRefused_inputStreams_iff cfg.acmp s.listener).mp hstream
    refine ⟨hwait, ?_⟩
    rw [← hrecord]
    exact journalRecord_bindRefused cfg s hwait
  · rintro ⟨hwait, hrecord⟩ v hv status - -
    obtain rfl := Option.some.inj (hslot.symm.trans hv)
    refine ⟨(bindRefused_inputStreams_iff cfg.acmp s.listener).mpr hwait, ?_⟩
    rw [hrecord]
    exact journalRecord_bindRefused cfg s hwait

end

theorem bindRefused_controllable {u : Fin avbMaxNumInputStreams} {cmd : MvuBindStream}
    (h : (s.listener.inputStreams u).streamingWait = (cmd.flags &&& 1 != 0)) :
    controllable { s with listener := bindRefused cfg.acmp s.listener u cmd } =
      controllable s := by
  rw [bindRefused_of_same cfg.acmp s.listener h]
  exact controllable_listener rfl rfl

theorem bindStep_iff (env : EntityEnv) (cmd : MvuBindStream) :
    (HeldByOther s.holders env.talker.nowUs cmd.controllerEntityId →
        controllable (bindStep cfg env s cmd) = controllable s) ∧
        BindRefusedKeeps s (bindStep cfg env s cmd) cmd ↔
      BindIdle cfg s cmd := by
  by_cases hnone : mvuNoSuchInput cfg.acmp cmd.toMvuUnbindStream = true ∨
      inputSlot cmd.descriptorIndex = none
  · have hstep : bindStep cfg env s cmd =
        { s with listener := s.listener.effect (.mvuResponse .noSuchDescriptor) } := by
      unfold bindStep
      rw [bindStream_none cfg.acmp env.acmp hnone]
    rw [hstep]
    refine iff_of_true ⟨fun _ => controllable_listener rfl rfl, ?_⟩ ?_
    · intro u _ status _ _
      exact ⟨rfl, journalRecord_respond _ _⟩
    · intro u hslot hinput
      rcases hnone with hno | hno
      · rw [hinput] at hno
        cases hno
      · rw [hslot] at hno
        cases hno
  · obtain ⟨hinput, hslot⟩ := not_or.mp hnone
    rw [Bool.not_eq_true] at hinput
    obtain ⟨u, hslot⟩ := Option.ne_none_iff_exists'.mp hslot
    set synth := mvuSynth cfg.acmp cmd.toMvuUnbindStream cmd.talkerEntityId cmd.talkerStreamIndex
      with hsynth
    by_cases hrefused : acmpRxRefusal cfg.acmp s.listener synth false = none
    · have haccepted : BindIdle cfg s cmd := fun _ _ _ h => absurd hrefused h
      refine iff_of_true ⟨?_, ?_⟩ haccepted
      · intro hheld
        exact absurd hrefused (acmpRxRefusal_of_held cfg.acmp false (by exact hheld.gate))
      · intro v _ status hstatus hanswered
        obtain ⟨notify, hvia⟩ := bindStream_of_input cfg.acmp env.acmp s.listener hslot hinput
        have hanswers : AnswersOnly .success s.listener.effects
            (bindStep cfg env s cmd).listener.effects := by
          unfold bindStep
          dsimp only
          rw [hvia]
          exact mvuBindVia_answers (by rwa [acmpRxRefusal_streamingWait]) notify
        obtain ⟨tail, heffects, hsuccess⟩ := hanswers
        unfold MvuAnswered at hanswered
        rw [heffects, List.drop_left] at hanswered
        exact absurd (hsuccess status hanswered) hstatus
    · rw [bindStep_refused cfg env s hslot hinput hrefused, bindStep_refused_iff hslot]
      constructor
      · rintro ⟨-, hidle⟩ v hv - -
        obtain rfl := Option.some.inj (hslot.symm.trans hv)
        exact hidle
      · intro hidle
        have hsame := hidle u hslot hinput hrefused
        exact ⟨fun _ => bindRefused_controllable hsame.1, hsame⟩

/-! ### Every event -/

theorem unbindStream_of_held (cfg : AcmpConfig) (env : AcmpEnv) {s : AcmpState}
    (cmd : MvuUnbindStream)
    (hheld : avbAcquiredOrLockedByOther s.holders cmd.controllerEntityId = true) :
    (avbProcessAecpCmdMvuUnbindStream cfg env s cmd).inputStreams = s.inputStreams ∧
      (avbProcessAecpCmdMvuUnbindStream cfg env s cmd).holders = s.holders := by
  unfold avbProcessAecpCmdMvuUnbindStream
  split
  · exact ⟨rfl, rfl⟩
  · split_ifs
    · exact ⟨rfl, rfl⟩
    · dsimp only
      rw [mvuBindVia_of_refused (acmpRxRefusal_of_held cfg true (by exact hheld))]
      exact ⟨rfl, rfl⟩

@[simp]
theorem talkerAcmpResponse_ctrlTestTone (env : TalkerEnv) (s : TalkerState) (msgType : AcmpMsgType)
    (response : AcmpMessage) (status : AcmpStatus) :
    (talkerAcmpResponse env s msgType response status).ctrlTestTone = s.ctrlTestTone := by
  unfold talkerAcmpResponse
  dsimp only
  split_ifs <;> rfl

theorem avbProcessAcmpTalker_of_held (cfg : TalkerConfig) (env : TalkerEnv) (s : TalkerState)
    {holders : EntityHolders} {msg : AcmpMessage}
    (hheld : avbAcquiredOrLockedByOther holders msg.controllerEntityId = true) :
    (avbProcessAcmpTalker cfg env holders s msg).outputStreams = s.outputStreams ∧
      (avbProcessAcmpTalker cfg env holders s msg).ctrlTestTone = s.ctrlTestTone := by
  have hrefused : ∀ disconnect,
      (avbProcessAcmpConnectTxCommand cfg env holders s msg disconnect).outputStreams =
          s.outputStreams ∧
        (avbProcessAcmpConnectTxCommand cfg env holders s msg disconnect).ctrlTestTone =
          s.ctrlTestTone := by
    intro disconnect
    cases hu : talkerUid cfg msg.talkerUid with
    | none => simp [avbProcessAcmpConnectTxCommand, hu]
    | some u => simp [avbProcessAcmpConnectTxCommand, hu, hheld]
  unfold avbProcessAcmpTalker
  split_ifs
  · exact ⟨rfl, rfl⟩
  · split
    · exact hrefused false
    · exact hrefused true
    · exact ⟨rfl, rfl⟩

theorem entityAcmp_of_held {msg : AcmpMessage} (hcmd : msg.msgType.isCommand)
    (hheld : HeldByOther s.holders env.talker.nowUs msg.controllerEntityId) :
    controllable (entityAcmp cfg env s msg) = controllable s := by
  obtain ⟨hinputs, hholders⟩ := avbProcessAcmp_of_held cfg.acmp env.acmp hcmd hheld.gate
  obtain ⟨houtputs, htone⟩ := avbProcessAcmpTalker_of_held cfg.talker env.talker
    s.talker hheld.gate
  unfold controllable entityAcmp
  rw [houtputs, htone]
  unfold EntityState.holders
  rw [hinputs, hholders]

/-- The gate in front of the handlers, and what is left for the commands it lets through. -/
theorem aem_of_held {entityId : UniqueId} (hheld : HeldByOther s.holders env.talker.nowUs entityId)
    (cmd : AemCommand) :
    controllable (avbProcessAecp cfg env s (.aem entityId cmd)) = controllable s ↔
      match cmd with
      | .acquireEntity release _ => AcquireIdle cfg env s.holders entityId release
      | .lockEntity descriptorType unlock => LockIdle s.holders entityId descriptorType unlock
      | _ => True := by
  unfold avbProcessAecp
  dsimp only
  rw [hheld.gate, Bool.and_true]
  by_cases hgate : avbAemCommandChangesState cmd = true
  · rw [if_pos hgate]
    cases cmd with
    | acquireEntity release ownerId => cases hgate
    | lockEntity descriptorType unlock => cases hgate
    | _ => exact iff_true_intro (controllable_respond _ _)
  · rw [if_neg hgate]
    cases cmd with
    | acquireEntity release ownerId => exact acquireEntity_iff entityId release ownerId
    | lockEntity descriptorType unlock => exact lockEntity_iff entityId descriptorType unlock
    | samplingRate isSet descriptorType descriptorIndex rate =>
        cases isSet with
        | true => exact absurd rfl hgate
        | false => exact iff_true_intro (samplingRate_get ..)
    | maxTransitTime isSet descriptorType descriptorIndex ns =>
        cases isSet with
        | true => exact absurd rfl hgate
        | false => exact iff_true_intro (maxTransitTime_get ..)
    | other => exact iff_true_intro rfl
    | _ => exact absurd rfl hgate

theorem exclusiveKept_iff (e : EntityEvent) : ExclusiveKept cfg s e ↔ UngatedIdle cfg s e := by
  cases e with
  | acmp env msg => exact iff_true_intro fun hcmd hheld => entityAcmp_of_held hcmd hheld
  | aecp env cmd =>
      cases cmd with
      | mvuBindStream cmd => exact bindStep_iff env cmd
      | mvuUnbindStream cmd =>
          refine iff_true_intro ⟨fun hheld => ?_, trivial⟩
          obtain ⟨hinputs, hholders⟩ := unbindStream_of_held cfg.acmp env.acmp cmd hheld.gate
          exact controllable_listener hinputs hholders
      | mvuMediaClockRefInfo entityId cmd =>
          simp only [ExclusiveKept, UngatedIdle, and_true]
          exact imp_congr_right fun _ => mediaClockRefInfo_iff cmd
      | aem entityId cmd =>
          simp only [ExclusiveKept, and_true]
          cases cmd with
          | acquireEntity release ownerId => exact imp_congr_right fun hheld => aem_of_held hheld _
          | lockEntity descriptorType unlock =>
              exact imp_congr_right fun hheld => aem_of_held hheld _
          | _ => exact iff_true_intro fun hheld => (aem_of_held hheld _).mpr trivial
  | _ => exact Iff.rfl

/-- **Exclusive access.** From any state, in every run, whoever does not hold the entity leaves what
a controller can set alone, and a refused BIND_STREAM its stream and its record, if and only if the
commands that no gate covers do nothing there. -/
theorem exclusive_access_iff (cfg : EntityConfig) (s : EntityState) (events : List EntityEvent) :
    Machine.RunMeets (ExclusiveKept cfg) (entityStep cfg) s events ↔
      Machine.RunMeets (UngatedIdle cfg) (entityStep cfg) s events := by
  apply Machine.RunMeets.iff_of_invariant fun _ => True
  · intro s e _
    exact exclusiveKept_iff e
  · intros
    trivial
  · trivial

/-- A command that sets the media clock reference priority. -/
def setMcrPrio (entityId : UniqueId) (userMcrPrio : UInt8) : AecpCommand :=
  .mvuMediaClockRefInfo entityId
    { set := true, clockDomainIndex := 0, flags := 1, userMcrPrio
      mediaClockDomainName := .zero 64 }

/-- A BIND_STREAM of input 0 with STREAMING_WAIT. -/
def bindWaiting (controllerEntityId talkerEntityId : UniqueId) : MvuBindStream :=
  { controllerEntityId, descriptorType := aemDescTypeStreamInput, descriptorIndex := 0, flags := 1
    talkerEntityId, talkerStreamIndex := 0 }

/-- While controller 0xa has locked the entity, controller 0xb sets the media clock reference; while
0xa has acquired it, 0xb acquires it; and a BIND_STREAM that is refused, its input being bound to
another talker, has written its flag. -/
theorem outsider_changes_entity :
    ¬Machine.RunMeets (ExclusiveKept plainEntity) (entityStep plainEntity) .blank
        [.aecp (.at 0) (.aem (.ofNat 8 0xa) (.lockEntity aemDescTypeEntity false)),
          .aecp (.at 1) (setMcrPrio (.ofNat 8 0xb) 1)] ∧
      ¬Machine.RunMeets (ExclusiveKept plainEntity) (entityStep plainEntity) .blank
        [.aecp (.at 0) (.aem (.ofNat 8 0xa) (.acquireEntity false (.zero 8))),
          .aecp (.at 1) (.aem (.ofNat 8 0xb) (.acquireEntity false (.zero 8)))] ∧
      ¬Machine.RunMeets (ExclusiveKept plainEntity) (entityStep plainEntity) .blank
        [.acmp (.at 0) (acmpMsg .connectRxCommand (.ofNat 8 0xa) 0 1),
          .aecp (.at 1) (.mvuBindStream (bindWaiting (.ofNat 8 0xc0) (.ofNat 8 0xb)))] := by
  refine ⟨?_, ?_, ?_⟩
  · rintro ⟨-, ⟨hkept, -⟩, -⟩
    have hsame := hkept ⟨.ofNat 8 0xa, by decide, Or.inr ⟨by decide, by decide⟩⟩
    exact absurd (congrArg Controllable.mcrUserPrio hsame) (by decide)
  · rintro ⟨-, ⟨hkept, -⟩, -⟩
    have hsame := hkept ⟨.ofNat 8 0xa, by decide, Or.inl (by decide)⟩
    exact absurd (congrArg Controllable.acquiredBy hsame) (by decide)
  · rintro ⟨-, ⟨-, hkept⟩, -⟩
    obtain ⟨hsame, -⟩ := hkept ⟨0, by decide⟩ (by decide) .badArguments (by decide)
      (by unfold MvuAnswered; decide +kernel)
    exact absurd (congrArg AcmpListenerStream.streamingWait hsame) (by decide +kernel)

end EspAvb
