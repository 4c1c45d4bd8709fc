import EspAvb.Talker

/-!
# What a running output stream runs on

Outside AVB Lite an output stream runs for the listeners in its rows: at least one of them is ready
and, in plain AVB, at least one of them has completed ACMP. Every handler edits the rows of one
stream; those that take something away look at what is left, and DISCONNECT_TX looks at less.
-/

namespace EspAvb

variable {cfg : TalkerConfig} {env : TalkerEnv} {s : TalkerState} {u : Fin avbMaxNumOutputStreams}
variable {t t' : ListenerRows} {i : Nat}

/-- A stream that runs has a ready row and, in plain AVB, an ACMP connected one. -/
def Backed (cfg : TalkerConfig) (stream : AvbTalkerStream) : Prop :=
  stream.streaming → stream.listeners.anyReady ∧
    (cfg.milanCompliant = false → stream.listeners.anyAcmpConnected)

/-- The last ready or, in plain AVB, the last ACMP connected listener stops the stream as it goes. -/
def StopsWithLast (cfg : TalkerConfig) (before after : AvbTalkerStream) : Prop :=
  before.listeners.anyReady ∧ ¬after.listeners.anyReady ∨
      cfg.milanCompliant = false ∧ before.listeners.anyAcmpConnected ∧
        ¬after.listeners.anyAcmpConnected →
    after.streaming = false

def RunStateKept (cfg : TalkerConfig) (s : TalkerState) (e : TalkerEvent) : Prop :=
  ∀ u, Backed cfg ((talkerStep cfg s e).outputStreams u) ∧
    StopsWithLast cfg (s.outputStreams u) ((talkerStep cfg s e).outputStreams u)

/-- The rows a DISCONNECT_TX leaves to a running stream still back it, or there are none. -/
def DisconnectBacked (cfg : TalkerConfig) (s : TalkerState) : TalkerEvent → Prop
  | .acmp _ holders msg =>
      msg.msgType = .disconnectTxCommand → msg.talkerEntityId = cfg.entityId →
      avbAcquiredOrLockedByOther holders msg.controllerEntityId = false →
      ∀ u ∈ talkerUid cfg msg.talkerUid, (s.outputStreams u).streaming →
        ∀ i ∈ disconnectTxRow (s.outputStreams u).listeners msg,
          let left := (s.outputStreams u).listeners.rows.eraseIdx i
          left = [] ∨ left.any (·.msrpReady) ∧
            (cfg.milanCompliant = false → left.any (·.acmpConnected))
  | _ => True

/-! ### The rows -/

/-- What the table still has of what a running stream needs. -/
structure KeepsListeners (t t' : ListenerRows) : Prop where
  ready : t.anyReady → t'.anyReady
  acmp : t.anyAcmpConnected → t'.anyAcmpConnected

theorem KeepsListeners.refl (t : ListenerRows) : KeepsListeners t t := ⟨id, id⟩

theorem KeepsListeners.trans {t'' : ListenerRows} (h : KeepsListeners t t')
    (h' : KeepsListeners t' t'') : KeepsListeners t t'' where
  ready hr := h'.ready (h.ready hr)
  acmp ha := h'.acmp (h.acmp ha)

theorem List.any_modify_of_any {α : Type*} {p : α → Bool} {f : α → α} {l : List α} {i : Nat}
    (h : ∀ a, l[i]? = some a → p a → p (f a)) (hany : l.any p) : (l.modify i f).any p := by
  obtain ⟨a, ha, hp⟩ := List.any_eq_true.mp hany
  obtain ⟨j, hj, rfl⟩ := List.getElem_of_mem ha
  have hj' : j < (l.modify i f).length := by simpa using hj
  apply List.any_eq_true.mpr
  refine ⟨(l.modify i f)[j], List.getElem_mem hj', ?_⟩
  rw [List.getElem_modify]
  split_ifs with hij
  · subst hij
    exact h _ (List.getElem?_eq_getElem hj) hp
  · exact hp

theorem List.any_modify_self {α : Type*} {p : α → Bool} {f : α → α} {l : List α} {i : Nat}
    (hi : i < l.length) (hp : p (f l[i])) : (l.modify i f).any p := by
  have hi' : i < (l.modify i f).length := by simpa using hi
  apply List.any_eq_true.mpr
  refine ⟨(l.modify i f)[i], List.getElem_mem hi', ?_⟩
  rwa [List.getElem_modify, if_pos rfl]

theorem List.any_of_any_getElem? {α : Type*} {p : α → Bool} {l : List α} {i : Nat}
    (h : (l[i]?).any p) : l.any p := by
  cases ha : l[i]? with
  | none => simp [ha] at h
  | some a =>
      rw [ha] at h
      exact List.any_eq_true.mpr ⟨a, List.mem_of_getElem? ha, h⟩

theorem KeepsListeners.modify {f : TalkerListener → TalkerListener}
    (hready : ∀ row, t.rows[i]? = some row → row.msrpReady → (f row).msrpReady)
    (hacmp : ∀ row, t.rows[i]? = some row → row.acmpConnected → (f row).acmpConnected) :
    KeepsListeners t (t.modify i f) where
  ready := List.any_modify_of_any hready
  acmp := List.any_modify_of_any hacmp

theorem KeepsListeners.add {row : TalkerListener} (h : t.add row = some t') :
    KeepsListeners t t' := by
  unfold ListenerRows.add at h
  split_ifs at h
  obtain rfl := Option.some.inj h
  constructor <;> simp +contextual [ListenerRows.anyReady, ListenerRows.anyAcmpConnected]

theorem ListenerRows.length_add {row : TalkerListener} (h : t.add row = some t') :
    t'.rows.length = t.rows.length + 1 := by
  unfold ListenerRows.add at h
  split_ifs at h
  obtain rfl := Option.some.inj h
  simp

theorem List.findIdx?_lt {α : Type*} {p : α → Bool} {l : List α} {i : Nat}
    (h : l.findIdx? p = some i) : i < l.length :=
  (List.findIdx?_eq_some_iff_findIdx_eq.mp h).1

theorem findConnectedListenerByEntity_lt {entityId : UniqueId}
    (h : findConnectedListenerByEntity t entityId = some i) : i < t.rows.length := by
  unfold findConnectedListenerByEntity at h
  split_ifs at h
  exact List.findIdx?_lt h

theorem solePending_lt (h : solePending t = some i) : i < t.rows.length := by
  unfold solePending at h
  dsimp only at h
  split_ifs at h
  exact List.findIdx?_lt h

theorem findOrAddMsrpListener_spec {macAddr : EthAddr}
    (h : findOrAddMsrpListener env t macAddr = some (i, t')) :
    i < t'.rows.length ∧ KeepsListeners t t' := by
  unfold findOrAddMsrpListener at h
  split at h
  · rename_i j hfind
    simp only [Option.some.injEq, Prod.mk.injEq] at h
    obtain ⟨rfl, rfl⟩ := h
    exact ⟨List.findIdx?_lt hfind, .refl t⟩
  · dsimp only at h
    split at h
    · rename_i j hfind
      simp only [Option.some.injEq, Prod.mk.injEq] at h
      obtain ⟨rfl, rfl⟩ := h
      obtain ⟨entityId, -, hentity⟩ := List.exists_of_findSome?_eq_some hfind
      constructor
      · simpa [ListenerRows.modify] using findConnectedListenerByEntity_lt hentity
      · apply KeepsListeners.modify <;> exact fun _ _ hrow => hrow
    · obtain ⟨t'', hadd, heq⟩ := Option.map_eq_some_iff.mp h
      simp only [Prod.mk.injEq] at heq
      obtain ⟨rfl, rfl⟩ := heq
      rw [ListenerRows.length_add hadd]
      exact ⟨Nat.lt_succ_self _, .add hadd⟩

theorem findOrAddTalkerListenerByIdentity_spec {entityId : UniqueId} {uid : UInt16}
    (h : findOrAddTalkerListenerByIdentity t entityId uid = some (i, t')) :
    i < t'.rows.length ∧ KeepsListeners t t' := by
  unfold findOrAddTalkerListenerByIdentity at h
  split at h
  · rename_i j hfind
    simp only [Option.some.injEq, Prod.mk.injEq] at h
    obtain ⟨rfl, rfl⟩ := h
    exact ⟨List.findIdx?_lt hfind, .refl t⟩
  · dsimp only at h
    split at h
    · rename_i j hfind
      simp only [Option.some.injEq, Prod.mk.injEq] at h
      obtain ⟨rfl, rfl⟩ := h
      constructor
      · simpa [ListenerRows.modify] using List.findIdx?_lt (Option.filter_eq_some_iff.mp hfind).1
      · apply KeepsListeners.modify <;> exact fun _ _ hrow => hrow
    · split at h
      · rename_i j hfind
        simp only [Option.some.injEq, Prod.mk.injEq] at h
        obtain ⟨rfl, rfl⟩ := h
        constructor
        · simpa [ListenerRows.modify] using solePending_lt hfind
        · apply KeepsListeners.modify <;> exact fun _ _ hrow => hrow
      · obtain ⟨t'', hadd, heq⟩ := Option.map_eq_some_iff.mp h
        simp only [Prod.mk.injEq] at heq
        obtain ⟨rfl, rfl⟩ := heq
        rw [ListenerRows.length_add hadd]
        exact ⟨Nat.lt_succ_self _, .add hadd⟩

/-! ### One stream at a time -/

/-- `s'` comes from `s` by work on stream `u`. -/
structure OnStream (u : Fin avbMaxNumOutputStreams) (s s' : TalkerState) : Prop where
  lite : s'.avbLite = s.avbLite
  others : ∀ v ≠ u, s'.outputStreams v = s.outputStreams v

namespace OnStream

variable {s' s'' : TalkerState}

theorem refl : OnStream u s s := ⟨rfl, fun _ _ => rfl⟩

theorem trans (h : OnStream u s s') (h' : OnStream u s' s'') : OnStream u s s'' where
  lite := h'.lite.trans h.lite
  others v hv := (h'.others v hv).trans (h.others v hv)

theorem setStream (stream : AvbTalkerStream) : OnStream u s (s.setStream u stream) where
  lite := rfl
  others _ hv := Function.update_of_ne hv _ _

theorem effect (e : TalkerEffect) : OnStream u s (s.effect e) := ⟨rfl, fun _ _ => rfl⟩

theorem start : OnStream u s (avbStartStreamOut env s u) := by
  unfold avbStartStreamOut
  dsimp only
  split_ifs
  · exact refl
  · exact setStream _

theorem stop : OnStream u s (avbStopStreamOut cfg s u) := by
  unfold avbStopStreamOut
  dsimp only
  split_ifs
  · exact (setStream _).trans ⟨rfl, fun _ _ => rfl⟩
  · exact setStream _

theorem stopIf (c : Bool) : OnStream u s (stopIf cfg s u c) := by
  unfold EspAvb.stopIf
  split_ifs
  · exact stop
  · exact refl

theorem renewId (except : Option Nat) : OnStream u s (avbOutputStreamRenewId env s u except) := by
  unfold avbOutputStreamRenewId
  dsimp only
  split_ifs
  · exact refl
  · split
    · exact refl
    · exact (effect _).trans (setStream _)

theorem declare (except : Option Nat) :
    OnStream u s (avbDeclareOutputStream cfg env s u except) := by
  unfold avbDeclareOutputStream
  dsimp only
  split_ifs
  · exact (renewId except).trans (effect _)
  · exact effect _

theorem declareNow (except : Option Nat) :
    OnStream u s (avbOutputStreamDeclareNow cfg env s u except) := by
  unfold avbOutputStreamDeclareNow
  split_ifs
  · exact refl
  · exact declare except

theorem setClass (index : UInt16) (classB : Bool) :
    OnStream u s (connectTxSetClass cfg env s u index i classB) := by
  unfold connectTxSetClass
  by_cases hclass : (s.outputStreams u).classB = classB
  · rw [if_pos hclass]
    exact refl
  · rw [if_neg hclass]
    exact ((setStream _).trans (effect _)).trans (declareNow _)

theorem answer (msgType : AcmpMsgType) (response : AcmpMessage) (status : AcmpStatus) :
    OnStream u s (talkerAcmpResponse env s msgType response status) := by
  unfold talkerAcmpResponse
  dsimp only
  split_ifs
  · exact effect _
  · exact refl

end OnStream

@[simp]
theorem setListeners_self :
    (s.setListeners u t).outputStreams u = { s.outputStreams u with listeners := t } :=
  Function.update_self ..

/-! ### Stopping and starting -/

theorem avbStopStreamOut_streaming :
    ((avbStopStreamOut cfg s u).outputStreams u).streaming = false := by
  unfold avbStopStreamOut
  dsimp only
  split_ifs <;> simp [TalkerState.effect, TalkerState.setStream]

theorem shouldStop_eq_false :
    shouldStop cfg t = false ↔ t.anyReady ∧ (cfg.milanCompliant = false → t.anyAcmpConnected) := by
  cases hmilan : cfg.milanCompliant <;> simp [shouldStop, hmilan]

/-- Whatever is not stopped has to have what it runs on. -/
theorem stopIf_backed {c : Bool}
    (h : (s.outputStreams u).streaming → c = false →
      shouldStop cfg (s.outputStreams u).listeners = false) :
    Backed cfg ((stopIf cfg s u c).outputStreams u) := by
  unfold stopIf
  split_ifs with hstop
  · intro hrun
    rw [avbStopStreamOut_streaming] at hrun
    cases hrun
  · intro hrun
    apply shouldStop_eq_false.mp
    apply h hrun
    simpa [hrun] using hstop

theorem avbStartStreamOut_backed
    (h : shouldStop cfg (s.outputStreams u).listeners = false) :
    Backed cfg ((avbStartStreamOut env s u).outputStreams u) := by
  intro _
  apply shouldStop_eq_false.mp
  unfold avbStartStreamOut
  dsimp only
  split_ifs
  · exact h
  · simpa [TalkerState.setStream] using h

/-- A table that keeps what the running stream had. -/
theorem Backed.shouldStop {stream : AvbTalkerStream} (h : Backed cfg stream)
    (hrun : stream.streaming) (hkeeps : KeepsListeners stream.listeners t) :
    shouldStop cfg t = false := by
  obtain ⟨hready, hacmp⟩ := h hrun
  exact shouldStop_eq_false.mpr ⟨hkeeps.ready hready, fun hmilan => hkeeps.acmp (hacmp hmilan)⟩

theorem Backed.setListeners (h : Backed cfg (s.outputStreams u))
    (hkeeps : KeepsListeners (s.outputStreams u).listeners t) :
    Backed cfg ((s.setListeners u t).outputStreams u) := by
  rw [setListeners_self]
  intro hrun
  exact shouldStop_eq_false.mp (h.shouldStop hrun hkeeps)

/-! ### Listener declarations -/

theorem listenerReady_backed (h : Backed cfg (s.outputStreams u)) (srcAddr : EthAddr)
    (readyFailed : Bool) :
    Backed cfg ((listenerReady cfg env s u srcAddr readyFailed).outputStreams u) := by
  unfold listenerReady
  split
  · exact h
  · rename_i i t hrow
    obtain ⟨hi, hfound⟩ := findOrAddMsrpListener_spec hrow
    dsimp only
    set t' := t.modify i _ with ht'
    have hready : t'.anyReady := List.any_modify_self hi rfl
    have hkeeps : KeepsListeners (s.outputStreams u).listeners t' := by
      apply hfound.trans
      apply KeepsListeners.modify
      · exact fun _ _ _ => rfl
      · exact fun _ _ hacmp => hacmp
    split_ifs with hstart
    · apply avbStartStreamOut_backed
      rw [setListeners_self, shouldStop_eq_false]
      refine ⟨hready, fun hmilan => ?_⟩
      simp only [hmilan, Bool.false_or, Bool.and_eq_true] at hstart
      exact List.any_of_any_getElem? hstart.1.1
    · exact h.setListeners hkeeps

theorem askingFailedRow_ready {nowUs : Nat} {row : TalkerListener}
    (h : row.heldDown nowUs = false) : (askingFailedRow nowUs row).msrpReady = row.msrpReady := by
  have hheld : TalkerListener.heldDown nowUs { row with lastSeenUs := nowUs, askingFailed := true } =
      false := h
  simp only [askingFailedRow, hheld, Bool.false_eq_true, if_false]
  split_ifs <;> rfl

theorem askingFailedRow_acmp (nowUs : Nat) (row : TalkerListener) :
    (askingFailedRow nowUs row).acmpConnected = row.acmpConnected := by
  unfold askingFailedRow
  dsimp only
  split_ifs <;> rfl

theorem listenerAskingFailed_backed (hlite : s.avbLite = false)
    (h : Backed cfg (s.outputStreams u)) (srcAddr : EthAddr) :
    Backed cfg ((listenerAskingFailed cfg env s u srcAddr).outputStreams u) := by
  unfold listenerAskingFailed
  split
  · exact h
  · rename_i i t hrow
    obtain ⟨hi, hfound⟩ := findOrAddMsrpListener_spec hrow
    have hget : t.rows[i]? = some t.rows[i] := List.getElem?_eq_getElem hi
    apply stopIf_backed
    rw [setListeners_self]
    intro hrun hgo
    by_cases hheld : (t.rows[i]).heldDown env.nowUs
    · simpa [hget, hheld, hlite, TalkerState.setListeners, TalkerState.setStream] using hgo
    · apply h.shouldStop hrun
      apply hfound.trans
      apply KeepsListeners.modify
      · intro row hrow hready
        rw [hget] at hrow
        obtain rfl := Option.some.inj hrow
        rwa [askingFailedRow_ready (Bool.eq_false_of_not_eq_true hheld)]
      · intro row _ hacmp
        rwa [askingFailedRow_acmp]

theorem listenerAgeOut_backed (h : Backed cfg (s.outputStreams u)) :
    Backed cfg ((listenerAgeOut cfg s u).outputStreams u) := by
  unfold listenerAgeOut
  split_ifs
  · exact h
  · apply stopIf_backed
    rw [setListeners_self]
    exact fun _ hgo => hgo

/-! ### CONNECT_TX and DISCONNECT_TX -/

/-- Moving to a new stream ID costs readiness, never an ACMP connection; and a running stream stays
where it is. -/
structure KeepsRun (before after : AvbTalkerStream) : Prop where
  streaming : after.streaming = before.streaming
  running : before.streaming → after.listeners = before.listeners
  acmp : before.listeners.anyAcmpConnected → after.listeners.anyAcmpConnected

theorem KeepsRun.refl (stream : AvbTalkerStream) : KeepsRun stream stream := ⟨rfl, fun _ => rfl, id⟩

theorem KeepsRun.trans {stream stream' stream'' : AvbTalkerStream} (h : KeepsRun stream stream')
    (h' : KeepsRun stream' stream'') : KeepsRun stream stream'' where
  streaming := h'.streaming.trans h.streaming
  running hrun := (h'.running (h.streaming.trans hrun)).trans (h.running hrun)
  acmp ha := h'.acmp (h.acmp ha)

theorem anyAcmpConnected_renewRow (h : t.anyAcmpConnected) :
    (t.walkBack renewRow).anyAcmpConnected := by
  obtain ⟨row, hrow, hacmp⟩ := List.any_eq_true.mp h
  apply List.any_eq_true.mpr
  simp only [ListenerRows.walkBack, WalkBack.walk_eq_filterMap, List.mem_filterMap]
  exact ⟨_, ⟨row, hrow, if_pos hacmp⟩, hacmp⟩

theorem renewId_keepsRun (except : Option Nat) :
    KeepsRun (s.outputStreams u) ((avbOutputStreamRenewId env s u except).outputStreams u) := by
  unfold avbOutputStreamRenewId
  dsimp only
  split_ifs with hrun
  · exact .refl _
  · split
    · exact .refl _
    · rw [Bool.or_eq_true, not_or] at hrun
      simp only [TalkerState.setStream, Function.update_self]
      exact ⟨rfl, fun h => absurd h hrun.1, anyAcmpConnected_renewRow⟩

theorem declareNow_keepsRun (except : Option Nat) :
    KeepsRun (s.outputStreams u)
      ((avbOutputStreamDeclareNow cfg env s u except).outputStreams u) := by
  unfold avbOutputStreamDeclareNow avbDeclareOutputStream
  dsimp only [TalkerState.effect]
  split_ifs
  · exact .refl _
  · exact renewId_keepsRun except
  · exact .refl _

theorem connectTxSetClass_keepsRun (index : UInt16) (classB : Bool) :
    KeepsRun (s.outputStreams u)
      ((connectTxSetClass cfg env s u index i classB).outputStreams u) := by
  unfold connectTxSetClass
  by_cases hclass : (s.outputStreams u).classB = classB
  · rw [if_pos hclass]
    exact .refl _
  · rw [if_neg hclass]
    refine KeepsRun.trans ?_ (declareNow_keepsRun _)
    simp only [TalkerState.effect, TalkerState.setStream, Function.update_self]
    exact ⟨rfl, fun _ => rfl, id⟩

theorem acmpConnectTx_backed {s' : TalkerState} {msg : AcmpMessage}
    (h : Backed cfg (s.outputStreams u)) (hs' : acmpConnectTx cfg env s u msg = some s') :
    Backed cfg (s'.outputStreams u) := by
  unfold acmpConnectTx at hs'
  dsimp only at hs'
  split at hs'
  · cases hs'
  · rename_i i t hrow
    obtain ⟨hi, hfound⟩ := findOrAddTalkerListenerByIdentity_spec hrow
    set t' := t.modify i _ with ht'
    have hacmp : t'.anyAcmpConnected := List.any_modify_self hi rfl
    have hkeeps : KeepsListeners (s.outputStreams u).listeners t' := by
      apply hfound.trans
      apply KeepsListeners.modify
      · exact fun _ _ hready => hready
      · exact fun _ _ _ => rfl
    set s₁ := connectTxSetClass cfg env (s.setListeners u t') u msg.talkerUid i _ with hs₁
    have hrun : KeepsRun ((s.setListeners u t').outputStreams u) (s₁.outputStreams u) :=
      connectTxSetClass_keepsRun _ _
    obtain rfl := Option.some.inj hs'
    split_ifs with hstart
    · apply avbStartStreamOut_backed
      simp only [Bool.and_eq_true] at hstart
      apply shouldStop_eq_false.mpr
      refine ⟨List.any_of_any_getElem? hstart.1.1, fun _ => hrun.acmp ?_⟩
      rw [setListeners_self]
      exact hacmp
    · intro hstreaming
      have hbefore : ((s.setListeners u t').outputStreams u).streaming := by
        rw [← hrun.streaming]
        exact hstreaming
      rw [hrun.running hbefore]
      exact h.setListeners hkeeps hbefore

theorem acmpDisconnectTx_backed_iff {msg : AcmpMessage} (h : Backed cfg (s.outputStreams u)) :
    Backed cfg ((acmpDisconnectTx cfg s u msg).outputStreams u) ↔
      ((s.outputStreams u).streaming →
        ∀ i ∈ disconnectTxRow (s.outputStreams u).listeners msg,
          let left := (s.outputStreams u).listeners.rows.eraseIdx i
          left = [] ∨ left.any (·.msrpReady) ∧
            (cfg.milanCompliant = false → left.any (·.acmpConnected))) := by
  unfold acmpDisconnectTx disconnectTxRows
  dsimp only
  constructor
  · intro hafter hrun i hi
    rw [hi] at hafter
    by_cases hempty : (s.outputStreams u).listeners.rows.eraseIdx i = []
    · exact Or.inl hempty
    · right
      have hstay : ¬((((s.outputStreams u).listeners.remove i).rows.isEmpty &&
          ((s.setListeners u ((s.outputStreams u).listeners.remove i)).outputStreams u).streaming) =
            true) := by
        simp [ListenerRows.remove, hempty]
      dsimp only at hafter
      rw [stopIf, if_neg hstay, setListeners_self] at hafter
      exact hafter hrun
  · intro hleft
    apply stopIf_backed
    rw [setListeners_self]
    intro hrun hgo
    cases hi : disconnectTxRow (s.outputStreams u).listeners msg with
    | none => exact h.shouldStop hrun (.refl _)
    | some i =>
        rw [hi] at hgo
        rcases hleft hrun i hi with hempty | hbacked
        · simp [ListenerRows.remove, hempty] at hgo
        · exact shouldStop_eq_false.mpr hbacked

/-! ### Every event -/

theorem OnStream.backed {s' : TalkerState} (hon : OnStream u s s')
    (hs : ∀ v, Backed cfg (s.outputStreams v)) (hu : Backed cfg (s'.outputStreams u)) :
    ∀ v, Backed cfg (s'.outputStreams v) := by
  intro v
  by_cases hv : v = u
  · subst hv
    exact hu
  · rw [hon.others v hv]
    exact hs v

theorem Backed.stopsWithLast {before after : AvbTalkerStream} (h : Backed cfg after) :
    StopsWithLast cfg before after := by
  intro hlast
  by_contra hrun
  obtain ⟨hready, hacmp⟩ := h (Bool.eq_true_of_not_eq_false hrun)
  rcases hlast with ⟨-, hnone⟩ | ⟨hplain, -, hnone⟩
  · exact hnone hready
  · exact hnone (hacmp hplain)

theorem runStateKept_iff_backed {e : TalkerEvent} :
    RunStateKept cfg s e ↔ ∀ u, Backed cfg ((talkerStep cfg s e).outputStreams u) :=
  ⟨fun h u => (h u).1, fun h u => ⟨h u, (h u).stopsWithLast⟩⟩

theorem listenerReady_onStream (srcAddr : EthAddr) (readyFailed : Bool) :
    OnStream u s (listenerReady cfg env s u srcAddr readyFailed) := by
  unfold listenerReady
  split
  · exact .refl
  · dsimp only
    split_ifs
    · exact (OnStream.setStream _).trans .start
    · exact .setStream _

theorem listenerAskingFailed_onStream (srcAddr : EthAddr) :
    OnStream u s (listenerAskingFailed cfg env s u srcAddr) := by
  unfold listenerAskingFailed
  split
  · exact .refl
  · exact (OnStream.setStream _).trans (.stopIf _)

theorem listenerAgeOut_onStream : OnStream u s (listenerAgeOut cfg s u) := by
  unfold listenerAgeOut
  split_ifs
  · exact .refl
  · exact (OnStream.setStream _).trans (.stopIf _)

/-- Outside AVB Lite a listener event works on one stream and leaves it backed. -/
theorem mrpOnListenerRegistrarChangeTalker_spec (hlite : s.avbLite = false)
    (hs : ∀ u, Backed cfg (s.outputStreams u)) (streamId : UniqueId) (leaving : Bool)
    (decl : MsrpListenerEvent) (tr : MrpRegTransition) (srcAddr : Option EthAddr) :
    let s' := mrpOnListenerRegistrarChangeTalker cfg env s streamId leaving decl tr srcAddr
    s'.avbLite = false ∧ ∀ u, Backed cfg (s'.outputStreams u) := by
  unfold mrpOnListenerRegistrarChangeTalker
  split
  · exact ⟨hlite, hs⟩
  · rename_i u _
    split
    · split_ifs
      · have hon : OnStream u s (listenerAgeOut cfg s u) := listenerAgeOut_onStream
        exact ⟨hon.lite.trans hlite, hon.backed hs (listenerAgeOut_backed (hs u))⟩
      · exact ⟨hlite, hs⟩
    · rename_i srcAddr
      unfold listenerDeclaration
      split_ifs with hleaving hl
      · rw [hlite] at hl
        cases hl
      · exact ⟨hlite, hs⟩
      · cases decl with
        | ignore => exact ⟨hlite, hs⟩
        | askingFailed =>
            have hon : OnStream u s (listenerAskingFailed cfg env s u srcAddr) :=
              listenerAskingFailed_onStream srcAddr
            exact ⟨hon.lite.trans hlite,
              hon.backed hs (listenerAskingFailed_backed hlite (hs u) srcAddr)⟩
        | ready =>
            have hon : OnStream u s (listenerReady cfg env s u srcAddr false) :=
              listenerReady_onStream srcAddr false
            exact ⟨hon.lite.trans hlite, hon.backed hs (listenerReady_backed (hs u) srcAddr false)⟩
        | readyFailed =>
            have hon : OnStream u s (listenerReady cfg env s u srcAddr true) :=
              listenerReady_onStream srcAddr true
            exact ⟨hon.lite.trans hlite, hon.backed hs (listenerReady_backed (hs u) srcAddr true)⟩

theorem acmpConnectTx_onStream {s' : TalkerState} {msg : AcmpMessage}
    (h : acmpConnectTx cfg env s u msg = some s') : OnStream u s s' := by
  unfold acmpConnectTx at h
  dsimp only at h
  split at h
  · cases h
  · obtain rfl := Option.some.inj h
    split_ifs
    · exact ((OnStream.setStream _).trans (.setClass _ _)).trans .start
    · exact (OnStream.setStream _).trans (.setClass _ _)

variable (cfg s u) in
theorem acmpDisconnectTx_onStream (msg : AcmpMessage) :
    OnStream u s (acmpDisconnectTx cfg s u msg) :=
  (OnStream.setStream _).trans (.stopIf _)

@[simp]
theorem talkerAcmpResponse_outputStreams (msgType : AcmpMsgType) (response : AcmpMessage)
    (status : AcmpStatus) :
    (talkerAcmpResponse env s msgType response status).outputStreams = s.outputStreams := by
  unfold talkerAcmpResponse
  dsimp only
  split_ifs <;> rfl

@[simp]
theorem talkerAcmpResponse_avbLite (msgType : AcmpMsgType) (response : AcmpMessage)
    (status : AcmpStatus) :
    (talkerAcmpResponse env s msgType response status).avbLite = s.avbLite := by
  unfold talkerAcmpResponse
  dsimp only
  split_ifs <;> rfl

section

variable (cfg env s)
variable (holders : EntityHolders) (msg : AcmpMessage)

variable {cfg s} in
theorem connectTxCommand_backed (hs : ∀ u, Backed cfg (s.outputStreams u)) :
    let s' := avbProcessAcmpConnectTxCommand cfg env holders s msg false
    s'.avbLite = s.avbLite ∧ ∀ u, Backed cfg (s'.outputStreams u) := by
  cases hu : talkerUid cfg msg.talkerUid with
  | none => simpa [avbProcessAcmpConnectTxCommand, hu] using hs
  | some u =>
      cases hheld : avbAcquiredOrLockedByOther holders msg.controllerEntityId with
      | true => simpa [avbProcessAcmpConnectTxCommand, hu, hheld] using hs
      | false =>
          cases hs' : acmpConnectTx cfg env s u msg with
          | none => simpa [avbProcessAcmpConnectTxCommand, hu, hheld, hs'] using hs
          | some s' =>
              have hon := acmpConnectTx_onStream hs'
              have hbacked := hon.backed hs (acmpConnectTx_backed (hs u) hs')
              simpa [avbProcessAcmpConnectTxCommand, hu, hheld, hs'] using ⟨hon.lite, hbacked⟩

/-- A DISCONNECT_TX is refused, or does what its function does to the stream it names. -/
theorem disconnectTxCommand_cases :
    let s' := avbProcessAcmpConnectTxCommand cfg env holders s msg true
    s'.avbLite = s.avbLite ∧
      ((∀ u, talkerUid cfg msg.talkerUid = some u →
          avbAcquiredOrLockedByOther holders msg.controllerEntityId = true) ∧
          s'.outputStreams = s.outputStreams ∨
        ∃ u, talkerUid cfg msg.talkerUid = some u ∧
          avbAcquiredOrLockedByOther holders msg.controllerEntityId = false ∧
          s'.outputStreams = (acmpDisconnectTx cfg s u msg).outputStreams) := by
  cases hu : talkerUid cfg msg.talkerUid with
  | none => simp [avbProcessAcmpConnectTxCommand, hu]
  | some u =>
      cases hheld : avbAcquiredOrLockedByOther holders msg.controllerEntityId with
      | true => simp [avbProcessAcmpConnectTxCommand, hu, hheld]
      | false =>
          have hlite := (acmpDisconnectTx_onStream cfg s u msg).lite
          simpa [avbProcessAcmpConnectTxCommand, hu, hheld] using hlite

variable {cfg s} in
theorem disconnectTxCommand_backed_iff (hs : ∀ u, Backed cfg (s.outputStreams u)) :
    (∀ u, Backed cfg
        ((avbProcessAcmpConnectTxCommand cfg env holders s msg true).outputStreams u)) ↔
      (avbAcquiredOrLockedByOther holders msg.controllerEntityId = false →
        ∀ u ∈ talkerUid cfg msg.talkerUid, (s.outputStreams u).streaming →
          ∀ i ∈ disconnectTxRow (s.outputStreams u).listeners msg,
            let left := (s.outputStreams u).listeners.rows.eraseIdx i
            left = [] ∨ left.any (·.msrpReady) ∧
              (cfg.milanCompliant = false → left.any (·.acmpConnected))) := by
  obtain ⟨-, ⟨hrefused, heq⟩ | ⟨u, hu, hfree, heq⟩⟩ :=
    disconnectTxCommand_cases cfg env s holders msg
  · rw [heq]
    refine iff_of_true hs ?_
    intro hfree u hu
    rw [hrefused u hu] at hfree
    cases hfree
  · rw [heq]
    constructor
    · intro hafter _ v hv
      obtain rfl := Option.some.inj (hu.symm.trans hv)
      exact (acmpDisconnectTx_backed_iff (hs u)).mp (hafter u)
    · intro hleft
      exact (acmpDisconnectTx_onStream cfg s u msg).backed hs
        ((acmpDisconnectTx_backed_iff (hs u)).mpr (hleft hfree u hu))

end

theorem talkerStep_lite (hlite : s.avbLite = false) (hs : ∀ u, Backed cfg (s.outputStreams u))
    (e : TalkerEvent) : (talkerStep cfg s e).avbLite = false := by
  cases e with
  | destAddr u addr => exact hlite
  | listener env streamId leaving decl tr srcAddr =>
      exact (mrpOnListenerRegistrarChangeTalker_spec hlite hs streamId leaving decl tr srcAddr).1
  | acmp env holders msg =>
      unfold talkerStep avbProcessAcmpTalker
      dsimp only
      split_ifs
      · exact hlite
      · split
        · exact (connectTxCommand_backed env holders msg hs).1.trans hlite
        · exact (disconnectTxCommand_cases cfg env s holders msg).1.trans hlite
        · exact hlite

theorem runStateKept_iff (hlite : s.avbLite = false) (hs : ∀ u, Backed cfg (s.outputStreams u))
    (e : TalkerEvent) : RunStateKept cfg s e ↔ DisconnectBacked cfg s e := by
  rw [runStateKept_iff_backed]
  cases e with
  | destAddr u addr =>
      refine iff_of_true ?_ trivial
      apply (OnStream.setStream (s := s) (u := u) _).backed hs
      simpa [TalkerState.setStream, Backed] using hs u
  | listener env streamId leaving decl tr srcAddr =>
      refine iff_of_true ?_ trivial
      exact (mrpOnListenerRegistrarChangeTalker_spec hlite hs streamId leaving decl tr srcAddr).2
  | acmp env holders msg =>
      unfold talkerStep avbProcessAcmpTalker DisconnectBacked
      dsimp only
      by_cases hself : msg.talkerEntityId = cfg.entityId
      · rw [if_neg (not_not_intro hself)]
        cases hmsg : msg.msgType with
        | connectTxCommand =>
            exact iff_of_true (connectTxCommand_backed env holders msg hs).2 (by simp)
        | disconnectTxCommand =>
            simpa [hself] using disconnectTxCommand_backed_iff env holders msg hs
        | _ => exact iff_of_true hs (by simp)
      · rw [if_pos hself]
        exact iff_of_true hs fun _ hentity => absurd hentity hself

/-- **Run state.** Outside AVB Lite every event of a run leaves each stream backed, and stops it with
its last listener, if and only if no DISCONNECT_TX leaves a running stream rows that do not back
it. -/
theorem running_backed_iff (cfg : TalkerConfig) (s : TalkerState) (hlite : s.avbLite = false)
    (hs : ∀ u, Backed cfg (s.outputStreams u)) (events : List TalkerEvent) :
    Machine.RunMeets (RunStateKept cfg) (talkerStep cfg) s events ↔
      Machine.RunMeets (DisconnectBacked cfg) (talkerStep cfg) s events := by
  apply Machine.RunMeets.iff_of_invariant
    (fun s => s.avbLite = false ∧ ∀ u, Backed cfg (s.outputStreams u))
  · rintro s e ⟨hlite, hs⟩
    exact runStateKept_iff hlite hs e
  · rintro s e hleft ⟨hlite, hs⟩
    refine ⟨talkerStep_lite hlite hs e, ?_⟩
    exact runStateKept_iff_backed.mp ((runStateKept_iff hlite hs e).mpr hleft)
  · exact ⟨hlite, hs⟩

instance (stream : AvbTalkerStream) : Decidable (Backed cfg stream) :=
  inferInstanceAs (Decidable (_ → _ ∧ _))

instance (before after : AvbTalkerStream) : Decidable (StopsWithLast cfg before after) :=
  inferInstanceAs (Decidable (_ ∧ _ ∨ _ ∧ _ ∧ _ → _))

instance (e : TalkerEvent) : Decidable (RunStateKept cfg s e) :=
  inferInstanceAs (Decidable (∀ _, _ ∧ _))

instance (e : TalkerEvent) : Decidable (DisconnectBacked cfg s e) :=
  match e with
  | .acmp _ _ _ => inferInstanceAs (Decidable (_ → _ → _ → ∀ _ ∈ _, _ → ∀ _ ∈ _, _ ∨ _))
  | .listener .. | .destAddr .. => inferInstanceAs (Decidable True)

/-- MAAP gets an address; the listener at MAC `a` is ready and connects. -/
def connectedRun : List TalkerEvent :=
  [.destAddr ⟨0, by decide⟩ (.ofNat 6 0x91e0f0000001),
    .listener (.at 1) (.ofNat 8 0x0200000000010000) false .ready .register (some (.ofNat 6 0xa)),
    .acmp (.at 2) .none (talkerMsg .connectTxCommand (.ofNat 8 0xa))]

theorem running_backed_iff_once :
    Machine.RunMeets (RunStateKept plainTalker) (talkerStep plainTalker) (.blank false)
      (connectedRun ++ [.acmp (.at 3) .none (talkerMsg .disconnectTxCommand (.ofNat 8 0xa))]) := by
  apply (running_backed_iff plainTalker (.blank false) rfl (fun _ h => by cases h) _).mpr
  decide +kernel

/-- The listener at MAC `b` cannot receive the stream, and its row alone is left when the other one
disconnects. -/
theorem disconnect_leaves_unbacked :
    ¬Machine.RunMeets (RunStateKept plainTalker) (talkerStep plainTalker) (.blank false)
      (connectedRun ++
        [.listener (.at 3) (.ofNat 8 0x0200000000010000) false .askingFailed .register
            (some (.ofNat 6 0xb)),
          .acmp (.at 4) .none (talkerMsg .disconnectTxCommand (.ofNat 8 0xa))]) := by
  decide +kernel

end EspAvb
