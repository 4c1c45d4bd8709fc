import EspAvb.Acmp

/-!
# What the listener's functions leave alone

Sending, journaling and the list of commands in flight do not touch a stream; connecting, settling
and binding touch the one stream they are about.
-/

namespace EspAvb

section

variable (cfg : AcmpConfig) (env : AcmpEnv) (s : AcmpState)

/-! ### The state's own updates -/

section

variable (u : Fin avbMaxNumInputStreams) (stream : AcmpListenerStream) (e : AcmpEffect)

@[simp]
theorem setStream_inputStreams :
    (s.setStream u stream).inputStreams = Function.update s.inputStreams u stream := rfl

@[simp]
theorem setStream_inflight : (s.setStream u stream).inflight = s.inflight := rfl

@[simp]
theorem setStream_strayAccesses : (s.setStream u stream).strayAccesses = s.strayAccesses := rfl

@[simp]
theorem setStream_holders : (s.setStream u stream).holders = s.holders := rfl

@[simp]
theorem effect_inputStreams : (s.effect e).inputStreams = s.inputStreams := rfl

@[simp]
theorem effect_inflight : (s.effect e).inflight = s.inflight := rfl

@[simp]
theorem effect_strayAccesses : (s.effect e).strayAccesses = s.strayAccesses := rfl

@[simp]
theorem effect_holders : (s.effect e).holders = s.holders := rfl

variable (c : Bool)

@[simp]
theorem effectIf_inputStreams : (s.effectIf c e).inputStreams = s.inputStreams := by cases c <;> rfl

@[simp]
theorem effectIf_inflight : (s.effectIf c e).inflight = s.inflight := by cases c <;> rfl

@[simp]
theorem effectIf_strayAccesses : (s.effectIf c e).strayAccesses = s.strayAccesses := by
  cases c <;> rfl

@[simp]
theorem effectIf_holders : (s.effectIf c e).holders = s.holders := by cases c <;> rfl

end

/-! ### Sending and tracking -/

section

variable (msg : AcmpMessage) (msgType : AcmpMsgType)

@[simp]
theorem avbSendAcmpResponse_inputStreams (status : AcmpStatus) :
    (avbSendAcmpResponse env s msgType msg status).inputStreams = s.inputStreams := by
  simp [avbSendAcmpResponse]

@[simp]
theorem avbSendAcmpResponse_inflight (status : AcmpStatus) :
    (avbSendAcmpResponse env s msgType msg status).inflight = s.inflight := by
  simp [avbSendAcmpResponse]

@[simp]
theorem avbSendAcmpResponse_strayAccesses (status : AcmpStatus) :
    (avbSendAcmpResponse env s msgType msg status).strayAccesses = s.strayAccesses := by
  simp [avbSendAcmpResponse]

@[simp]
theorem avbAddInflightCommand_inputStreams (inbound : Bool) :
    (avbAddInflightCommand env s msg inbound).inputStreams = s.inputStreams := by
  unfold avbAddInflightCommand
  split_ifs <;> rfl

@[simp]
theorem avbAddInflightCommand_strayAccesses (inbound : Bool) :
    (avbAddInflightCommand env s msg inbound).strayAccesses = s.strayAccesses := by
  unfold avbAddInflightCommand
  split_ifs <;> rfl

@[simp]
theorem avbSendAcmpCommand_inputStreams (track : Bool) :
    (avbSendAcmpCommand env s msgType msg track).2.inputStreams = s.inputStreams := by
  cases track <;> simp [avbSendAcmpCommand]

@[simp]
theorem avbSendAcmpCommand_strayAccesses (track : Bool) :
    (avbSendAcmpCommand env s msgType msg track).2.strayAccesses = s.strayAccesses := by
  cases track <;> simp [avbSendAcmpCommand]

@[simp]
theorem avbSendListenerTalkerCommand_inputStreams (disconnect mvuBind : Bool) :
    (avbSendListenerTalkerCommand cfg env s msg disconnect mvuBind).2.inputStreams =
      s.inputStreams := by
  unfold avbSendListenerTalkerCommand
  split_ifs <;> simp

@[simp]
theorem avbSendListenerTalkerCommand_strayAccesses (disconnect mvuBind : Bool) :
    (avbSendListenerTalkerCommand cfg env s msg disconnect mvuBind).2.strayAccesses =
      s.strayAccesses := by
  unfold avbSendListenerTalkerCommand
  split_ifs <;> simp

@[simp]
theorem acmpRxAnswer_inputStreams (disconnect : Bool) :
    (acmpRxAnswer cfg env s msg disconnect).inputStreams = s.inputStreams := by
  simp [acmpRxAnswer, avbPersistAppendInputStream]

@[simp]
theorem acmpRxAnswer_strayAccesses (disconnect : Bool) :
    (acmpRxAnswer cfg env s msg disconnect).strayAccesses = s.strayAccesses := by
  simp [acmpRxAnswer, avbPersistAppendInputStream]

@[simp]
theorem avbRemoveInflightCommand_inputStreams (seqId : UInt16) (inbound : Bool) :
    (avbRemoveInflightCommand s seqId inbound).inputStreams = s.inputStreams := rfl

@[simp]
theorem avbRemoveInflightCommand_strayAccesses (seqId : UInt16) (inbound : Bool) :
    (avbRemoveInflightCommand s seqId inbound).strayAccesses = s.strayAccesses := rfl

@[simp]
theorem inflightAnswered_inputStreams (disconnect : Bool) :
    (inflightAnswered s msg disconnect).inputStreams = s.inputStreams := by
  unfold inflightAnswered
  dsimp only
  split <;> rfl

@[simp]
theorem inflightAnswered_strayAccesses (disconnect : Bool) :
    (inflightAnswered s msg disconnect).strayAccesses = s.strayAccesses := by
  unfold inflightAnswered
  dsimp only
  split <;> rfl

end

end

/-! ### Starting and stopping the stream task -/

abbrev Binding := UniqueId × UInt16

def AcmpListenerStream.binding (stream : AcmpListenerStream) : Binding :=
  (stream.talkerId, stream.talkerUid)

/-- The talker and the stream output a message names. -/
def AcmpMessage.talker (msg : AcmpMessage) : Binding := (msg.talkerEntityId, msg.talkerUid)

/-- A response `avb_connect_listener` takes. -/
def AcmpMessage.connects (msg : AcmpMessage) : Prop :=
  msg.status = .success ∧ msg.streamId ≠ .zero 8

instance (msg : AcmpMessage) : Decidable msg.connects :=
  inferInstanceAs (Decidable (_ ∧ _))

variable {cfg : AcmpConfig} {env : AcmpEnv} {s : AcmpState} {u v : Fin avbMaxNumInputStreams}

theorem avbStartStreamIn_other (hv : v ≠ u) :
    (avbStartStreamIn cfg env s u).inputStreams v = s.inputStreams v := by
  unfold avbStartStreamIn
  split_ifs <;> simp [hv]

theorem avbStartStreamIn_binding :
    ((avbStartStreamIn cfg env s u).inputStreams v).binding = (s.inputStreams v).binding := by
  by_cases hv : v = u
  · subst hv
    unfold avbStartStreamIn
    split_ifs <;> simp [AcmpListenerStream.binding]
  · rw [avbStartStreamIn_other hv]

theorem avbStartStreamIn_connected (h : (s.inputStreams v).connected) :
    ((avbStartStreamIn cfg env s u).inputStreams v).connected := by
  by_cases hv : v = u
  · subst hv
    unfold avbStartStreamIn
    split_ifs <;> simp [h]
  · rw [avbStartStreamIn_other hv]
    exact h

@[simp]
theorem avbStartStreamIn_strayAccesses :
    (avbStartStreamIn cfg env s u).strayAccesses = s.strayAccesses := by
  unfold avbStartStreamIn
  split_ifs <;> rfl

theorem avbStopStreamIn_other (hv : v ≠ u) :
    (avbStopStreamIn cfg s u).inputStreams v = s.inputStreams v := by
  unfold avbStopStreamIn
  split_ifs <;> simp [hv]

theorem avbStopStreamIn_binding :
    ((avbStopStreamIn cfg s u).inputStreams v).binding = (s.inputStreams v).binding := by
  by_cases hv : v = u
  · subst hv
    unfold avbStopStreamIn
    split_ifs <;> simp [AcmpListenerStream.binding]
  · rw [avbStopStreamIn_other hv]

@[simp]
theorem avbStopStreamIn_strayAccesses :
    (avbStopStreamIn cfg s u).strayAccesses = s.strayAccesses := by
  unfold avbStopStreamIn
  split_ifs <;> rfl

/-! ### A response, by what it does to each stream -/

variable {response : AcmpMessage}

theorem avbConnectListener_of_zero (h : response.streamId = .zero 8) :
    avbConnectListener cfg s response u = (.talkerMisbehaving, s) := if_pos h

theorem avbConnectListener_other (hv : v ≠ u) :
    (avbConnectListener cfg s response u).2.inputStreams v = s.inputStreams v := by
  unfold avbConnectListener
  split_ifs <;> simp [hv]

theorem avbConnectListener_status (h : response.streamId ≠ .zero 8) :
    (avbConnectListener cfg s response u).1 = .success := by
  simp [avbConnectListener, h]

theorem avbConnectListener_binding (h : response.streamId ≠ .zero 8) :
    ((avbConnectListener cfg s response u).2.inputStreams u).binding = response.talker := by
  simp [avbConnectListener, h, AcmpListenerStream.binding, AcmpMessage.talker]

theorem avbConnectListener_connected (h : response.streamId ≠ .zero 8) :
    ((avbConnectListener cfg s response u).2.inputStreams u).connected = true := by
  simp [avbConnectListener, h]

@[simp]
theorem avbConnectListener_strayAccesses :
    (avbConnectListener cfg s response u).2.strayAccesses = s.strayAccesses := by
  unfold avbConnectListener
  split_ifs <;> simp

/-- The stream a response does not connect stops waiting, and nothing else happens. -/
theorem connectTxSettle_of_not_connects (h : ¬response.connects) :
    connectTxSettle cfg s response u =
      (false, s.setStream u { s.inputStreams u with pendingConnection := false }) := by
  by_cases hstatus : response.status = .success
  · have hzero : response.streamId = .zero 8 := by
      by_contra hne
      exact h ⟨hstatus, hne⟩
    simp [connectTxSettle, hstatus, avbConnectListener_of_zero hzero]
  · simp [connectTxSettle, hstatus]

/-- The state a connecting response leaves before a stream-in is started. -/
theorem connectTxSettle_of_connects (h : response.connects) :
    connectTxSettle cfg s response u =
      (let connected := (avbConnectListener cfg s response u).2
       let restart :=
        (s.inputStreams u).connected && (s.inputStreams u).provisional &&
          (s.inputStreams u).streamId != (connected.inputStreams u).streamId
       let s' := if restart then avbStopStreamIn cfg connected u else connected
       (!(s.inputStreams u).connected || restart,
        s'.setStream u { s'.inputStreams u with pendingConnection := false })) := by
  simp [connectTxSettle, h.1, avbConnectListener_status h.2]

theorem connectTxSettle_other (hv : v ≠ u) :
    (connectTxSettle cfg s response u).2.inputStreams v = s.inputStreams v := by
  by_cases h : response.connects
  · rw [connectTxSettle_of_connects h]
    simp only [setStream_inputStreams, Function.update_of_ne hv]
    split_ifs
    · rw [avbStopStreamIn_other hv, avbConnectListener_other hv]
    · rw [avbConnectListener_other hv]
  · rw [connectTxSettle_of_not_connects h]
    simp [hv]

theorem connectTxSettle_binding (h : response.connects) :
    ((connectTxSettle cfg s response u).2.inputStreams u).binding = response.talker := by
  rw [connectTxSettle_of_connects h]
  simp only [setStream_inputStreams, Function.update_self]
  change ((if _ then avbStopStreamIn cfg _ u else _ : AcmpState).inputStreams u).binding = _
  split_ifs
  · rw [avbStopStreamIn_binding, avbConnectListener_binding h.2]
  · rw [avbConnectListener_binding h.2]

theorem connectTxSettle_connected (h : response.connects)
    (hbefore : (s.inputStreams u).connected = false) :
    ((connectTxSettle cfg s response u).2.inputStreams u).connected = true := by
  rw [connectTxSettle_of_connects h]
  simp [hbefore, avbConnectListener_connected h.2]

@[simp]
theorem connectTxSettle_strayAccesses :
    (connectTxSettle cfg s response u).2.strayAccesses = s.strayAccesses := by
  by_cases h : response.connects
  · rw [connectTxSettle_of_connects h]
    simp only [setStream_strayAccesses]
    split_ifs <;> simp
  · rw [connectTxSettle_of_not_connects h]
    rfl

/-- A CONNECT_TX response, in the array's bounds. -/
theorem connectTxResponse_of_slot (hslot : inputSlot response.listenerUid = some u) :
    avbProcessAcmpConnectTxResponse cfg env s response false =
      (let settled := connectTxSettle cfg s response u
       let s' := inflightAnswered settled.2 response false
       if settled.1 then avbStartStreamIn cfg env s' u else s') := by
  unfold avbProcessAcmpConnectTxResponse
  rw [if_neg Bool.false_ne_true, hslot]

theorem connectTxResponse_of_stray (hslot : inputSlot response.listenerUid = none) :
    avbProcessAcmpConnectTxResponse cfg env s response false =
      inflightAnswered { s with strayAccesses := s.strayAccesses ++ [response.listenerUid] }
        response false := by
  unfold avbProcessAcmpConnectTxResponse
  rw [if_neg Bool.false_ne_true, hslot]

theorem connectTxResponse_other (hslot : inputSlot response.listenerUid = some u) (hv : v ≠ u) :
    (avbProcessAcmpConnectTxResponse cfg env s response false).inputStreams v =
      s.inputStreams v := by
  rw [connectTxResponse_of_slot hslot]
  dsimp only
  split_ifs
  · rw [avbStartStreamIn_other hv, inflightAnswered_inputStreams, connectTxSettle_other hv]
  · rw [inflightAnswered_inputStreams, connectTxSettle_other hv]

theorem connectTxResponse_of_not_connects (hslot : inputSlot response.listenerUid = some u)
    (h : ¬response.connects) :
    (avbProcessAcmpConnectTxResponse cfg env s response false).inputStreams =
      Function.update s.inputStreams u { s.inputStreams u with pendingConnection := false } := by
  rw [connectTxResponse_of_slot hslot, connectTxSettle_of_not_connects h]
  simp

theorem connectTxResponse_binding (hslot : inputSlot response.listenerUid = some u)
    (h : response.connects) :
    ((avbProcessAcmpConnectTxResponse cfg env s response false).inputStreams u).binding =
      response.talker := by
  rw [connectTxResponse_of_slot hslot]
  dsimp only
  split_ifs
  · rw [avbStartStreamIn_binding, inflightAnswered_inputStreams, connectTxSettle_binding h]
  · rw [inflightAnswered_inputStreams, connectTxSettle_binding h]

variable (cfg env) in
theorem connectTxResponse_connected (hslot : inputSlot response.listenerUid = some u)
    (h : response.connects) (hbefore : (s.inputStreams u).connected = false) :
    ((avbProcessAcmpConnectTxResponse cfg env s response false).inputStreams u).connected =
      true := by
  rw [connectTxResponse_of_slot hslot]
  dsimp only
  split_ifs
  · apply avbStartStreamIn_connected
    rw [inflightAnswered_inputStreams]
    exact connectTxSettle_connected h hbefore
  · rw [inflightAnswered_inputStreams]
    exact connectTxSettle_connected h hbefore

@[simp]
theorem connectTxResponse_strayAccesses (hslot : inputSlot response.listenerUid = some u) :
    (avbProcessAcmpConnectTxResponse cfg env s response false).strayAccesses =
      s.strayAccesses := by
  rw [connectTxResponse_of_slot hslot]
  dsimp only
  split_ifs <;> simp

theorem disconnectTxResponse_inputStreams :
    (avbProcessAcmpConnectTxResponse cfg env s response true).inputStreams = s.inputStreams := by
  unfold avbProcessAcmpConnectTxResponse
  rw [if_pos rfl]
  split_ifs <;> simp

theorem disconnectTxResponse_strayAccesses :
    (avbProcessAcmpConnectTxResponse cfg env s response true).strayAccesses = s.strayAccesses := by
  unfold avbProcessAcmpConnectTxResponse
  rw [if_pos rfl]
  split_ifs <;> simp

/-! ### The binding commands -/

variable {msg : AcmpMessage} {disconnect : Bool}

theorem acmpRxRefusal_slot (h : acmpRxRefusal cfg s msg disconnect = none) :
    ∃ u, inputSlot msg.listenerUid = some u ∧ u.val < cfg.numInputStreams := by
  unfold acmpRxRefusal at h
  cases hslot : inputSlot msg.listenerUid with
  | none => rw [hslot] at h; cases h
  | some u =>
      rw [hslot] at h
      dsimp only at h
      split_ifs at h with hvalid
      refine ⟨u, rfl, ?_⟩
      have hval : u.val = msg.listenerUid.toNat := by
        unfold inputSlot at hslot
        split_ifs at hslot
        exact (congrArg Fin.val (Option.some.inj hslot)).symm
      simpa [avbValidListenerUid, hval] using hvalid

theorem acmpRxUpdate_other (hslot : inputSlot msg.listenerUid = some u) (hv : v ≠ u) :
    (acmpRxUpdate cfg s msg disconnect).inputStreams v = s.inputStreams v := by
  unfold acmpRxUpdate avbDisconnectListener
  rw [hslot]
  dsimp only
  split_ifs
  · simp [hv, avbStopStreamIn_other hv]
  · simp [hv]
  · simp [hv]

theorem acmpRxUpdate_disconnected (hslot : inputSlot msg.listenerUid = some u) :
    ((acmpRxUpdate cfg s msg true).inputStreams u).connected = false := by
  unfold acmpRxUpdate avbDisconnectListener
  rw [hslot]
  dsimp only
  rw [if_pos rfl]
  split_ifs <;>
    simp [AcmpListenerStream.cleared, AcmpListenerStream.zero, AvbListenerStream.zero]

theorem acmpRxUpdate_bound (hslot : inputSlot msg.listenerUid = some u) :
    ((acmpRxUpdate cfg s msg false).inputStreams u).binding = msg.talker := by
  unfold acmpRxUpdate
  rw [hslot]
  simp [AcmpListenerStream.binding, AcmpMessage.talker]

variable (cfg env s msg disconnect) in
theorem rxCommand_inputStreams (mvuBind : Bool) :
    (avbProcessAcmpConnectRxCommand cfg env s msg disconnect mvuBind).2.inputStreams =
      if acmpRxRefusal cfg s msg disconnect = none then
        (acmpRxUpdate cfg s msg disconnect).inputStreams
      else s.inputStreams := by
  unfold avbProcessAcmpConnectRxCommand
  cases acmpRxRefusal cfg s msg disconnect <;> cases mvuBind <;> simp

theorem mvuBindVia_inputStreams (notify : AcmpState → Bool) :
    (mvuBindVia cfg env s msg disconnect notify).inputStreams =
      if acmpRxRefusal cfg s msg disconnect = none then
        (acmpRxUpdate cfg s msg disconnect).inputStreams
      else s.inputStreams := by
  have hshared := rxCommand_inputStreams cfg env s msg disconnect true
  rw [← hshared]
  unfold mvuBindVia avbPersistAppendInputStream
  dsimp only
  split_ifs <;> simp

/-- A BIND_STREAM writes `streaming_wait` before the checks, and none of them reads it. -/
theorem acmpRxRefusal_streamingWait (wait : Bool) :
    acmpRxRefusal cfg (s.setStream u { s.inputStreams u with streamingWait := wait }) msg disconnect =
      acmpRxRefusal cfg s msg disconnect := by
  unfold acmpRxRefusal
  cases inputSlot msg.listenerUid with
  | none => rfl
  | some v =>
      by_cases hv : v = u
      · subst hv
        simp [AcmpListenerStream.hasBinding, AcmpListenerStream.sameTalker]
      · simp [hv]

variable (cfg env s) in
/-- A BIND_STREAM past the descriptor check, whose `streaming_wait` is written already. -/
theorem bindStream_of_input {cmd : MvuBindStream} (hslot : inputSlot cmd.descriptorIndex = some u)
    (hinput : mvuNoSuchInput cfg cmd.toMvuUnbindStream = false) :
    ∃ notify, avbProcessAecpCmdMvuBindStream cfg env s cmd =
      mvuBindVia cfg env
        (s.setStream u { s.inputStreams u with streamingWait := cmd.flags &&& 1 != 0 })
        (mvuSynth cfg cmd.toMvuUnbindStream cmd.talkerEntityId cmd.talkerStreamIndex) false
        notify := by
  unfold avbProcessAecpCmdMvuBindStream
  rw [hslot]
  dsimp only
  rw [if_neg (by simp [hinput])]
  exact ⟨_, rfl⟩

/-! ### Timeouts and fast connect -/

theorem clearPending_inputStreams (uid : UInt16) (v : Fin avbMaxNumInputStreams) :
    ∃ pending, (clearPending cfg s uid).inputStreams v =
      { s.inputStreams v with pendingConnection := pending } := by
  unfold clearPending
  split
  · exact ⟨_, rfl⟩
  · rename_i u _
    split_ifs
    · by_cases hv : v = u
      · subst hv
        exact ⟨false, by simp⟩
      · exact ⟨(s.inputStreams v).pendingConnection, by simp [hv]⟩
    · exact ⟨_, rfl⟩

variable (cfg env s) in
theorem inflightExpired_inputStreams (c : InflightCommand) (v : Fin avbMaxNumInputStreams) :
    ∃ pending, (inflightExpired cfg env s c).inputStreams v =
      { s.inputStreams v with pendingConnection := pending } := by
  have hsame : ∀ {s' : AcmpState}, s'.inputStreams =
      (if c.command.msgType = .connectTxCommand then clearPending cfg s c.command.listenerUid
        else s).inputStreams →
      ∃ pending, s'.inputStreams v = { s.inputStreams v with pendingConnection := pending } := by
    intro s' h
    rw [h]
    split_ifs
    · exact clearPending_inputStreams c.command.listenerUid v
    · exact ⟨_, rfl⟩
  unfold inflightExpired
  dsimp only
  split_ifs
  · exact ⟨_, rfl⟩
  all_goals
    apply hsame
    split
    · simp_all
    · split <;> simp_all

variable (cfg env) in
/-- A timeout pass changes nothing of a stream but whether it is waiting. -/
theorem inflightTimeoutsFrom_inputStreams (s : AcmpState) (rounds i : Nat)
    (v : Fin avbMaxNumInputStreams) :
    ∃ pending, (inflightTimeoutsFrom cfg env rounds i s).inputStreams v =
      { s.inputStreams v with pendingConnection := pending } := by
  induction rounds generalizing i s with
  | zero => exact ⟨_, rfl⟩
  | succ rounds ih =>
      unfold inflightTimeoutsFrom
      split
      · exact ⟨_, rfl⟩
      · rename_i c _
        split_ifs
        · exact ih s (i + 1)
        · obtain ⟨later, hlater⟩ := ih
            (avbRemoveInflightCommand (inflightExpired cfg env s c) c.acmpSeqId c.inbound) i
          obtain ⟨now, hnow⟩ := inflightExpired_inputStreams cfg env s c v
          refine ⟨later, ?_⟩
          rw [hlater, avbRemoveInflightCommand_inputStreams, hnow]

variable (cfg env s) in
theorem avbFastConnectListener_inputStreams (v : Fin avbMaxNumInputStreams) :
    ∃ pending, (avbFastConnectListener cfg env s u).inputStreams v =
      { s.inputStreams v with pendingConnection := pending } := by
  unfold avbFastConnectListener
  dsimp only
  by_cases hv : v = u
  · subst hv
    split
    · exact ⟨_, rfl⟩
    · split
      · exact ⟨true, by simp⟩
      · exact ⟨(s.inputStreams v).pendingConnection, by simp⟩
  · refine ⟨(s.inputStreams v).pendingConnection, ?_⟩
    split
    · rfl
    · split <;> simp [hv]

variable (cfg env s) in
theorem fastConnectTurn_inputStreams (v : Fin avbMaxNumInputStreams) :
    ∃ attempt pending, (fastConnectTurn cfg env s u).inputStreams v =
      { s.inputStreams v with
        lastFastConnectAttemptMs := attempt, pendingConnection := pending } := by
  unfold fastConnectTurn
  dsimp only
  split
  · exact ⟨_, _, rfl⟩
  · split
    · exact ⟨_, _, rfl⟩
    · obtain ⟨pending, hpending⟩ := avbFastConnectListener_inputStreams cfg env
        (s.setStream u { s.inputStreams u with lastFastConnectAttemptMs := env.monotonicMs }) (u := u) v
      by_cases hv : v = u
      · subst hv
        refine ⟨env.monotonicMs, pending, ?_⟩
        rw [hpending]
        simp
      · refine ⟨(s.inputStreams v).lastFastConnectAttemptMs, pending, ?_⟩
        rw [hpending]
        simp [hv]

/-- A pass of `avb_periodic_fast_connect` is its streams' turns, one event each. -/
theorem avbPeriodicFastConnect_eq_run (cfg : AcmpConfig) (env : AcmpEnv) (s : AcmpState) :
    avbPeriodicFastConnect cfg env s =
      Machine.run (acmpStep cfg) s
        ((List.finRange avbMaxNumInputStreams).map fun u => .fastConnect env u) := by
  unfold avbPeriodicFastConnect Machine.run
  rw [List.foldl_map]
  rfl

end EspAvb
