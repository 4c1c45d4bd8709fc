import EspAvb.Proof.Listener

/-!
# Whose response connects a stream

A monitor keeps what each stream input was last bound to by a controller's accepted command. A
CONNECT_TX response is to touch a stream only if it comes from the talker the stream is bound to.
-/

namespace EspAvb

variable {cfg : AcmpConfig} {env : AcmpEnv} {s : AcmpState} {u : Fin avbMaxNumInputStreams}
variable {msg : AcmpMessage} {disconnect : Bool}

/-! ### The monitor -/

structure BindingMonitor where
  device : AcmpState
  bound : Fin avbMaxNumInputStreams → Option Binding

/-- What a controller's command binds, if it is accepted. -/
def boundAfter (cfg : AcmpConfig) (m : BindingMonitor) (msg : AcmpMessage) (disconnect : Bool) :
    Fin avbMaxNumInputStreams → Option Binding :=
  if acmpRxRefusal cfg m.device msg disconnect = none then
    match inputSlot msg.listenerUid with
    | some u => Function.update m.bound u (if disconnect then none else some msg.talker)
    | none => m.bound
  else m.bound

def boundNext (cfg : AcmpConfig) (m : BindingMonitor) :
    AcmpEvent → Fin avbMaxNumInputStreams → Option Binding
  | .acmp _ msg =>
      if msg.listenerEntityId ≠ cfg.entityId then m.bound
      else
        match msg.msgType with
        | .connectRxCommand => boundAfter cfg m msg false
        | .disconnectRxCommand => boundAfter cfg m msg true
        | _ => m.bound
  | .bindStream _ cmd =>
      if mvuNoSuchInput cfg cmd.toMvuUnbindStream then m.bound
      else
        boundAfter cfg m
          (mvuSynth cfg cmd.toMvuUnbindStream cmd.talkerEntityId cmd.talkerStreamIndex) false
  | .unbindStream _ cmd =>
      match inputSlot cmd.descriptorIndex with
      | none => m.bound
      | some u =>
          if mvuNoSuchInput cfg cmd then m.bound
          else
            boundAfter cfg m
              (mvuSynth cfg cmd (m.device.inputStreams u).talkerId (m.device.inputStreams u).talkerUid)
              true
  | _ => m.bound

def bindingStep (cfg : AcmpConfig) (m : BindingMonitor) (e : AcmpEvent) : BindingMonitor :=
  { device := acmpStep cfg m.device e, bound := boundNext cfg m e }

/-- The saved bindings are the first ones. -/
def BindingMonitor.start (cfg : AcmpConfig) (s : AcmpState) : BindingMonitor :=
  { device := s
    bound := fun u =>
      if u.val < cfg.numInputStreams ∧ (s.inputStreams u).talkerId ≠ .zero 8 then
        some (s.inputStreams u).binding
      else none }

/-- A response touches no stream but one bound to the talker that sent it. -/
def TouchesBoundOnly (cfg : AcmpConfig) (m : BindingMonitor) : AcmpEvent → Prop
  | .acmp env msg =>
      msg.msgType = .connectTxResponse ∨ msg.msgType = .disconnectTxResponse →
        (avbProcessAcmp cfg env m.device msg).strayAccesses = m.device.strayAccesses ∧
          ∀ u, (avbProcessAcmp cfg env m.device msg).inputStreams u ≠ m.device.inputStreams u →
            u.val < cfg.numInputStreams ∧ inputSlot msg.listenerUid = some u ∧
              m.bound u = some msg.talker
  | _ => True

/-- A CONNECT_TX response comes from the talker its local stream input is bound to; or it connects
nothing, and the stream its listener uid indexes is not waiting. -/
def ResponseTimely (cfg : AcmpConfig) (m : BindingMonitor) : AcmpEvent → Prop
  | .acmp _ msg =>
      msg.listenerEntityId = cfg.entityId → msg.msgType = .connectTxResponse →
        ∃ u, inputSlot msg.listenerUid = some u ∧
          (u.val < cfg.numInputStreams ∧ m.bound u = some msg.talker ∨
            ¬msg.connects ∧ (m.device.inputStreams u).pendingConnection = false)
  | _ => True

instance (m : BindingMonitor) (e : AcmpEvent) : Decidable (TouchesBoundOnly cfg m e) :=
  match e with
  | .acmp _ _ => inferInstanceAs (Decidable (_ → _ ∧ ∀ _, _))
  | .bindStream _ _ | .unbindStream _ _ | .inflightTimeouts _ | .fastConnect _ _ | .demote _
  | .holders _ => inferInstanceAs (Decidable True)

/-- What the monitor knows of the device: a bound stream stores its binding, and a stream that is
not bound is not connected. -/
structure BoundAgrees (cfg : AcmpConfig) (m : BindingMonitor) : Prop where
  stored : ∀ u b, m.bound u = some b → (m.device.inputStreams u).binding = b
  inside : ∀ u b, m.bound u = some b → u.val < cfg.numInputStreams
  idle : ∀ u, m.bound u = none → (m.device.inputStreams u).connected = false

variable {m : BindingMonitor}

theorem BoundAgrees.start (hboot : s.AtBoot cfg) : BoundAgrees cfg (.start cfg s) where
  stored := by
    intro u b hb
    unfold BindingMonitor.start at hb ⊢
    dsimp only at hb ⊢
    split_ifs at hb
    exact Option.some.inj hb
  inside := by
    intro u b hb
    unfold BindingMonitor.start at hb
    dsimp only at hb
    split_ifs at hb with h
    exact h.1
  idle := by
    intro u hb
    unfold BindingMonitor.start at hb ⊢
    dsimp only at hb ⊢
    split_ifs at hb with h
    by_contra hconnected
    exact h (hboot.connected u (by simpa using hconnected))

/-- Away from the commands and the responses, streams keep what they are bound to and whether they
are connected. -/
theorem BoundAgrees.of_same (h : BoundAgrees cfg m) {s' : AcmpState}
    (hsame : ∀ u, (s'.inputStreams u).binding = (m.device.inputStreams u).binding ∧
      (s'.inputStreams u).connected = (m.device.inputStreams u).connected) :
    BoundAgrees cfg { device := s', bound := m.bound } where
  stored u b hb := (hsame u).1.trans (h.stored u b hb)
  inside := h.inside
  idle u hb := (hsame u).2.trans (h.idle u hb)

/-- A command, accepted or not. -/
theorem BoundAgrees.command (h : BoundAgrees cfg m) {s' : AcmpState}
    (hstreams : s'.inputStreams =
      if acmpRxRefusal cfg m.device msg disconnect = none then
        (acmpRxUpdate cfg m.device msg disconnect).inputStreams
      else m.device.inputStreams) :
    BoundAgrees cfg { device := s', bound := boundAfter cfg m msg disconnect } := by
  unfold boundAfter
  by_cases hrefusal : acmpRxRefusal cfg m.device msg disconnect = none
  · obtain ⟨u, hslot, hinside⟩ := acmpRxRefusal_slot hrefusal
    rw [if_pos hrefusal] at hstreams
    rw [if_pos hrefusal, hslot]
    have hother : ∀ v, v ≠ u → s'.inputStreams v = m.device.inputStreams v := by
      intro v hv
      rw [hstreams, acmpRxUpdate_other hslot hv]
    refine ⟨?_, ?_, ?_⟩
    · intro v b hb
      by_cases hv : v = u
      · subst hv
        cases disconnect with
        | true => simp at hb
        | false =>
            have hb : msg.talker = b := by simpa using hb
            rw [hstreams, ← hb]
            exact acmpRxUpdate_bound hslot
      · rw [hother v hv]
        exact h.stored v b (by simpa [hv] using hb)
    · intro v b hb
      by_cases hv : v = u
      · subst hv
        exact hinside
      · exact h.inside v b (by simpa [hv] using hb)
    · intro v hb
      by_cases hv : v = u
      · subst hv
        cases disconnect with
        | true =>
            rw [hstreams]
            exact acmpRxUpdate_disconnected hslot
        | false => simp at hb
      · rw [hother v hv]
        exact h.idle v (by simpa [hv] using hb)
  · rw [if_neg hrefusal] at hstreams ⊢
    exact h.of_same fun u => by rw [hstreams]; exact ⟨rfl, rfl⟩

/-! ### The law and its condition -/

/-- For a device that agrees with the monitor, a response touches only its own talker's stream
exactly when it is timely. -/
theorem touchesBoundOnly_iff (h : BoundAgrees cfg m) (e : AcmpEvent) :
    TouchesBoundOnly cfg m e ↔ ResponseTimely cfg m e := by
  cases e with
  | acmp env msg =>
      unfold TouchesBoundOnly ResponseTimely
      by_cases hmine : msg.listenerEntityId = cfg.entityId
      · by_cases hconnect : msg.msgType = .connectTxResponse
        · have hstep : avbProcessAcmp cfg env m.device msg =
              avbProcessAcmpConnectTxResponse cfg env m.device msg false := by
            simp [avbProcessAcmp, hmine, hconnect]
          simp only [hconnect, true_or, forall_const, hmine, hstep]
          cases hslot : inputSlot msg.listenerUid with
          | none =>
              rw [connectTxResponse_of_stray hslot]
              simp
          | some u =>
              simp only [connectTxResponse_strayAccesses hslot, true_and, Option.some.injEq,
                exists_eq_left']
              constructor
              · intro hlaw
                by_cases hconnects : msg.connects
                · refine Or.inl ?_
                  by_contra hnot
                  have hsame :
                      (avbProcessAcmpConnectTxResponse cfg env m.device msg false).inputStreams u =
                        m.device.inputStreams u := by
                    by_contra hne
                    obtain ⟨hinside, -, hbound⟩ := hlaw u hne
                    exact hnot ⟨hinside, hbound⟩
                  have hbinding : (m.device.inputStreams u).binding = msg.talker := by
                    rw [← hsame]
                    exact connectTxResponse_binding hslot hconnects
                  cases hb : m.bound u with
                  | some b =>
                      have hstored := h.stored u b hb
                      exact hnot ⟨h.inside u b hb, by rw [hb, ← hstored, hbinding]⟩
                  | none =>
                      have hidle := h.idle u hb
                      have hnow := connectTxResponse_connected cfg env hslot hconnects hidle
                      rw [hsame, hidle] at hnow
                      exact Bool.false_ne_true hnow
                · by_cases hpending : (m.device.inputStreams u).pendingConnection = false
                  · exact Or.inr ⟨hconnects, hpending⟩
                  · refine Or.inl ?_
                    have hne :
                        (avbProcessAcmpConnectTxResponse cfg env m.device msg false).inputStreams u ≠
                          m.device.inputStreams u := by
                      intro heq
                      apply hpending
                      rw [← heq, connectTxResponse_of_not_connects hslot hconnects]
                      simp
                    obtain ⟨hinside, -, hbound⟩ := hlaw u hne
                    exact ⟨hinside, hbound⟩
              · rintro (⟨hinside, hbound⟩ | ⟨hconnects, hpending⟩) v hne
                · by_cases hv : v = u
                  · subst hv
                    exact ⟨hinside, rfl, hbound⟩
                  · exact absurd (connectTxResponse_other hslot hv) hne
                · exfalso
                  apply hne
                  rw [connectTxResponse_of_not_connects hslot hconnects]
                  have hsame : { m.device.inputStreams u with pendingConnection := false } =
                      m.device.inputStreams u := by
                    rw [← hpending]
                  rw [hsame, Function.update_eq_self]
        · by_cases hdisconnect : msg.msgType = .disconnectTxResponse
          · have hstep : avbProcessAcmp cfg env m.device msg =
                avbProcessAcmpConnectTxResponse cfg env m.device msg true := by
              simp [avbProcessAcmp, hmine, hdisconnect]
            simp [hstep, hdisconnect, disconnectTxResponse_inputStreams,
              disconnectTxResponse_strayAccesses]
          · simp [hconnect, hdisconnect]
      · have hstep : avbProcessAcmp cfg env m.device msg = m.device := if_pos hmine
        simp [hmine, hstep]
  | _ => exact Iff.rfl

/-! ### Runs -/

variable (cfg env s) in
/-- A response leaves a stream's binding, or it is the response's talker from then on. -/
theorem response_binding
    (htype : msg.msgType = .connectTxResponse ∨ msg.msgType = .disconnectTxResponse)
    (v : Fin avbMaxNumInputStreams) :
    ((avbProcessAcmp cfg env s msg).inputStreams v).binding = msg.talker ∨
      ((avbProcessAcmp cfg env s msg).inputStreams v).binding = (s.inputStreams v).binding := by
  by_cases hmine : msg.listenerEntityId = cfg.entityId
  · obtain hconnect | hdisconnect := htype
    · have hstep : avbProcessAcmp cfg env s msg =
          avbProcessAcmpConnectTxResponse cfg env s msg false := by
        simp [avbProcessAcmp, hmine, hconnect]
      rw [hstep]
      cases hslot : inputSlot msg.listenerUid with
      | none =>
          rw [connectTxResponse_of_stray hslot]
          exact Or.inr (by simp)
      | some u =>
          by_cases hv : v = u
          · subst hv
            by_cases hconnects : msg.connects
            · exact Or.inl (connectTxResponse_binding hslot hconnects)
            · refine Or.inr ?_
              rw [connectTxResponse_of_not_connects hslot hconnects, Function.update_self]
              rfl
          · exact Or.inr (by rw [connectTxResponse_other hslot hv])
    · have hstep : avbProcessAcmp cfg env s msg =
          avbProcessAcmpConnectTxResponse cfg env s msg true := by
        simp [avbProcessAcmp, hmine, hdisconnect]
      exact Or.inr (by rw [hstep, disconnectTxResponse_inputStreams])
  · exact Or.inr (by rw [show avbProcessAcmp cfg env s msg = s from if_pos hmine])

/-- A response that touches only its own talker's stream. -/
theorem BoundAgrees.of_response (h : BoundAgrees cfg m)
    (htype : msg.msgType = .connectTxResponse ∨ msg.msgType = .disconnectTxResponse)
    (hlaw : TouchesBoundOnly cfg m (.acmp env msg)) :
    BoundAgrees cfg { device := avbProcessAcmp cfg env m.device msg, bound := m.bound } := by
  obtain ⟨-, htouched⟩ := hlaw htype
  refine ⟨?_, h.inside, ?_⟩
  · intro u b hb
    by_cases hsame : (avbProcessAcmp cfg env m.device msg).inputStreams u = m.device.inputStreams u
    · rw [hsame]
      exact h.stored u b hb
    · obtain ⟨-, -, hbound⟩ := htouched u hsame
      have htalker : msg.talker = b := Option.some.inj (hbound.symm.trans hb)
      obtain hnew | hold := response_binding cfg env m.device htype u
      · exact hnew.trans htalker
      · exact hold.trans (h.stored u b hb)
  · intro u hb
    by_cases hsame : (avbProcessAcmp cfg env m.device msg).inputStreams u = m.device.inputStreams u
    · rw [hsame]
      exact h.idle u hb
    · obtain ⟨-, -, hbound⟩ := htouched u hsame
      rw [hb] at hbound
      cases hbound

theorem boundAfter_streamingWait (wait : Bool) :
    boundAfter cfg
        { device := m.device.setStream u { m.device.inputStreams u with streamingWait := wait }
          bound := m.bound } msg disconnect =
      boundAfter cfg m msg disconnect := by
  unfold boundAfter
  dsimp only
  rw [acmpRxRefusal_streamingWait]

theorem BoundAgrees.of_bindStream (h : BoundAgrees cfg m) (env : AcmpEnv) (cmd : MvuBindStream) :
    BoundAgrees cfg (bindingStep cfg m (.bindStream env cmd)) := by
  have hquiet : ∀ e, BoundAgrees cfg { device := m.device.effect e, bound := m.bound } :=
    fun e => h.of_same fun u => ⟨rfl, rfl⟩
  cases hslot : inputSlot cmd.descriptorIndex with
  | none =>
      have hrefused : boundAfter cfg m (mvuSynth cfg cmd.toMvuUnbindStream cmd.talkerEntityId
          cmd.talkerStreamIndex) false = m.bound := by
        simp [boundAfter, acmpRxRefusal, mvuSynth, hslot]
      simp only [bindingStep, acmpStep, boundNext, avbProcessAecpCmdMvuBindStream, hslot, hrefused,
        ite_self]
      exact hquiet _
  | some u =>
      simp only [bindingStep, acmpStep, boundNext, avbProcessAecpCmdMvuBindStream, hslot]
      split_ifs with hno
      · exact hquiet _
      · have hwait : BoundAgrees cfg
            { device := m.device.setStream u
                { m.device.inputStreams u with streamingWait := cmd.flags &&& 1 != 0 }
              bound := m.bound } := by
          apply h.of_same
          intro v
          by_cases hv : v = u
          · subst hv
            simp [AcmpListenerStream.binding]
          · simp [hv]
        rw [← boundAfter_streamingWait]
        exact hwait.command (mvuBindVia_inputStreams _)

theorem BoundAgrees.of_unbindStream (h : BoundAgrees cfg m) (env : AcmpEnv) (cmd : MvuUnbindStream) :
    BoundAgrees cfg (bindingStep cfg m (.unbindStream env cmd)) := by
  have hquiet : ∀ e, BoundAgrees cfg { device := m.device.effect e, bound := m.bound } :=
    fun e => h.of_same fun u => ⟨rfl, rfl⟩
  cases hslot : inputSlot cmd.descriptorIndex with
  | none =>
      simp only [bindingStep, acmpStep, boundNext, avbProcessAecpCmdMvuUnbindStream, hslot]
      exact hquiet _
  | some u =>
      simp only [bindingStep, acmpStep, boundNext, avbProcessAecpCmdMvuUnbindStream, hslot]
      split_ifs with hno
      · exact hquiet _
      · exact h.command (mvuBindVia_inputStreams _)

/-- What a timely step keeps. -/
theorem BoundAgrees.step (h : BoundAgrees cfg m) {e : AcmpEvent} (htimely : ResponseTimely cfg m e) :
    BoundAgrees cfg (bindingStep cfg m e) := by
  have hlaw := (touchesBoundOnly_iff h e).mpr htimely
  unfold bindingStep
  cases e with
  | acmp env msg =>
      by_cases hmine : msg.listenerEntityId = cfg.entityId
      · cases htype : msg.msgType with
        | connectRxCommand =>
            have hbound : boundNext cfg m (.acmp env msg) = boundAfter cfg m msg false := by
              simp [boundNext, hmine, htype]
            rw [hbound]
            apply h.command
            rw [← rxCommand_inputStreams cfg env m.device msg false false]
            simp [acmpStep, avbProcessAcmp, hmine, htype]
        | disconnectRxCommand =>
            have hbound : boundNext cfg m (.acmp env msg) = boundAfter cfg m msg true := by
              simp [boundNext, hmine, htype]
            rw [hbound]
            apply h.command
            rw [← rxCommand_inputStreams cfg env m.device msg true false]
            simp [acmpStep, avbProcessAcmp, hmine, htype]
        | connectTxResponse =>
            have hbound : boundNext cfg m (.acmp env msg) = m.bound := by
              simp [boundNext, htype]
            rw [hbound]
            exact h.of_response (Or.inl htype) hlaw
        | disconnectTxResponse =>
            have hbound : boundNext cfg m (.acmp env msg) = m.bound := by
              simp [boundNext, htype]
            rw [hbound]
            exact h.of_response (Or.inr htype) hlaw
        | _ => simpa [acmpStep, boundNext, avbProcessAcmp, htype] using h
      · have hstep : avbProcessAcmp cfg env m.device msg = m.device := if_pos hmine
        simpa [acmpStep, boundNext, hmine, hstep] using h
  | bindStream env cmd => exact h.of_bindStream env cmd
  | unbindStream env cmd => exact h.of_unbindStream env cmd
  | inflightTimeouts env =>
      apply h.of_same
      intro u
      obtain ⟨pending, hp⟩ := inflightTimeoutsFrom_inputStreams cfg env m.device
        m.device.inflight.length 0 u
      change ((avbProcessInflightTimeouts cfg env m.device).inputStreams u).binding = _ ∧
        ((avbProcessInflightTimeouts cfg env m.device).inputStreams u).connected = _
      rw [avbProcessInflightTimeouts, hp]
      exact ⟨rfl, rfl⟩
  | fastConnect env u =>
      apply h.of_same
      intro v
      obtain ⟨attempt, pending, hp⟩ := fastConnectTurn_inputStreams cfg env m.device (u := u) v
      change ((fastConnectTurn cfg env m.device u).inputStreams v).binding = _ ∧
        ((fastConnectTurn cfg env m.device u).inputStreams v).connected = _
      rw [hp]
      exact ⟨rfl, rfl⟩
  | demote u =>
      apply h.of_same
      intro v
      change ((demoteStream m.device u).inputStreams v).binding = _ ∧
        ((demoteStream m.device u).inputStreams v).connected = _
      unfold demoteStream
      split_ifs
      · by_cases hv : v = u
        · subst hv
          simp [AcmpListenerStream.binding]
        · simp [hv]
      · exact ⟨rfl, rfl⟩
  | holders holders => exact h.of_same fun u => ⟨rfl, rfl⟩

/-- A run's responses touch no stream but one bound to their talker exactly when each is timely; and
then a connected stream is connected to the talker it was last bound to. -/
theorem responses_touch_bound_iff (cfg : AcmpConfig) (s : AcmpState) (hboot : s.AtBoot cfg)
    (events : List AcmpEvent) :
    (Machine.RunMeets (TouchesBoundOnly cfg) (bindingStep cfg) (.start cfg s) events ↔
        Machine.RunMeets (ResponseTimely cfg) (bindingStep cfg) (.start cfg s) events) ∧
      (Machine.RunMeets (ResponseTimely cfg) (bindingStep cfg) (.start cfg s) events →
        ∀ u, ((Machine.run (bindingStep cfg) (.start cfg s) events).device.inputStreams u).connected →
          (Machine.run (bindingStep cfg) (.start cfg s) events).bound u =
            some ((Machine.run (bindingStep cfg) (.start cfg s) events).device.inputStreams u).binding) := by
  constructor
  · apply Machine.RunMeets.iff_of_invariant (BoundAgrees cfg)
    · intro m e hagrees
      exact touchesBoundOnly_iff hagrees e
    · intro m e htimely hagrees
      exact hagrees.step htimely
    · exact BoundAgrees.start hboot
  · intro htimely u hconnected
    have hagrees : BoundAgrees cfg (Machine.run (bindingStep cfg) (.start cfg s) events) :=
      Machine.RunMeets.invariant (BoundAgrees cfg) (fun m e hq hinv => hinv.step hq) htimely
        (BoundAgrees.start hboot)
    cases hbound : (Machine.run (bindingStep cfg) (.start cfg s) events).bound u with
    | some b => rw [hagrees.stored u b hbound]
    | none =>
        have hidle := hagrees.idle u hbound
        rw [hidle] at hconnected
        exact absurd hconnected Bool.false_ne_true

theorem responses_touch_bound_iff_once :
    Machine.RunMeets (TouchesBoundOnly twoInputs) (bindingStep twoInputs) (.start twoInputs .blank)
      [.acmp (.at 0) (acmpMsg .connectRxCommand (.ofNat 8 0xa) 0 1),
        .acmp (.at 1) (acmpMsg .connectTxResponse (.ofNat 8 0xa) 0 1)] := by
  apply (responses_touch_bound_iff twoInputs .blank (AcmpState.blank_atBoot twoInputs) _).1.mpr
  refine ⟨?_, ?_, trivial⟩
  · intro _ htype
    cases htype
  · intro _ _
    exact ⟨⟨0, by decide⟩, rfl, Or.inl (by decide +kernel)⟩

/-- The response of a talker whose stream was disconnected connects it again; and one for listener
uid 7 reaches past the end of the stream inputs. -/
theorem late_response_connects :
    ¬Machine.RunMeets (TouchesBoundOnly twoInputs) (bindingStep twoInputs) (.start twoInputs .blank)
        [.acmp (.at 0) (acmpMsg .connectRxCommand (.ofNat 8 0xa) 0 1),
          .acmp (.at 1) (acmpMsg .disconnectRxCommand (.ofNat 8 0xa) 0 2),
          .acmp (.at 2) (acmpMsg .connectTxResponse (.ofNat 8 0xa) 0 1)] ∧
      ¬Machine.RunMeets (TouchesBoundOnly twoInputs) (bindingStep twoInputs)
        (.start twoInputs .blank)
        [.acmp (.at 0) (acmpMsg .connectTxResponse (.ofNat 8 0xa) 7 1)] := by
  decide +kernel

end EspAvb
