import EspAvb.LiteTransport
import EspAvb.Proof.RunState

/-!
# What the listener handlers leave to the transport

Between two transport passes MSRP and ACMP edit the listener rows and stop and declare streams. They
give out no place in line, move no frames between unicast and multicast and publish no address; in
AVB Lite they start no stream and keep the stream IDs, and what they declare is the address the
transport is at.
-/

namespace EspAvb

variable {cfg : TalkerConfig} {env : TalkerEnv} {s s' s'' : TalkerState}
variable {u : Fin avbMaxNumOutputStreams} {t t' t'' : ListenerRows} {i : Nat}

/-! ### The rows -/

/-- Every place in line was there before. -/
def StampsKept (t t' : ListenerRows) : Prop :=
  ∀ row' ∈ t'.rows, row'.liteOrder = 0 ∨ ∃ row ∈ t.rows, row'.liteOrder = row.liteOrder

namespace StampsKept

theorem refl (t : ListenerRows) : StampsKept t t := fun row' hrow' => Or.inr ⟨row', hrow', rfl⟩

theorem trans (h : StampsKept t t') (h' : StampsKept t' t'') : StampsKept t t'' := by
  intro row' hrow'
  rcases h' row' hrow' with hzero | ⟨row, hrow, heq⟩
  · exact Or.inl hzero
  · rw [heq]
    exact h row hrow

theorem modify {f : TalkerListener → TalkerListener}
    (hf : ∀ row, (f row).liteOrder = row.liteOrder) : StampsKept t (t.modify i f) := by
  intro row' hrow'
  obtain ⟨j, hj⟩ := List.mem_iff_getElem?.mp hrow'
  simp only [ListenerRows.modify, List.getElem?_modify, Option.map_eq_map,
    Option.map_eq_some_iff] at hj
  obtain ⟨row, hrow, rfl⟩ := hj
  refine Or.inr ⟨row, List.mem_of_getElem? hrow, ?_⟩
  split_ifs
  · exact hf row
  · rfl

theorem remove : StampsKept t (t.remove i) := fun row' hrow' =>
  Or.inr ⟨row', List.mem_of_mem_eraseIdx hrow', rfl⟩

theorem add {row : TalkerListener} (hrow : row.liteOrder = 0) (h : t.add row = some t') :
    StampsKept t t' := by
  unfold ListenerRows.add at h
  split_ifs at h
  obtain rfl := Option.some.inj h
  intro row' hrow'
  rcases List.mem_append.mp hrow' with hold | hnew
  · exact Or.inr ⟨row', hold, rfl⟩
  · rw [List.mem_singleton.mp hnew]
    exact Or.inl hrow

theorem walkBack {f : TalkerListener → Option TalkerListener}
    (hf : ∀ row row', f row = some row' → row'.liteOrder = row.liteOrder) :
    StampsKept t (t.walkBack f) := by
  intro row' hrow'
  simp only [ListenerRows.walkBack, WalkBack.walk_eq_filterMap, List.mem_filterMap] at hrow'
  obtain ⟨row, hrow, hfrow⟩ := hrow'
  exact Or.inr ⟨row, hrow, hf row row' hfrow⟩

end StampsKept

theorem findOrAddMsrpListener_stamps {macAddr : EthAddr}
    (h : findOrAddMsrpListener env t macAddr = some (i, t')) : StampsKept t t' := by
  unfold findOrAddMsrpListener at h
  split at h
  · obtain ⟨rfl, rfl⟩ := Prod.mk.inj (Option.some.inj h)
    exact .refl t
  · dsimp only at h
    split at h
    · obtain ⟨rfl, rfl⟩ := Prod.mk.inj (Option.some.inj h)
      exact .modify fun _ => rfl
    · obtain ⟨t'', hadd, heq⟩ := Option.map_eq_some_iff.mp h
      obtain ⟨rfl, rfl⟩ := Prod.mk.inj heq
      exact .add rfl hadd

theorem findOrAddTalkerListenerByIdentity_stamps {entityId : UniqueId} {uid : UInt16}
    (h : findOrAddTalkerListenerByIdentity t entityId uid = some (i, t')) : StampsKept t t' := by
  unfold findOrAddTalkerListenerByIdentity at h
  split at h
  · obtain ⟨rfl, rfl⟩ := Prod.mk.inj (Option.some.inj h)
    exact .refl t
  · dsimp only at h
    split at h
    · obtain ⟨rfl, rfl⟩ := Prod.mk.inj (Option.some.inj h)
      exact .modify fun _ => rfl
    · split at h
      · obtain ⟨rfl, rfl⟩ := Prod.mk.inj (Option.some.inj h)
        exact .modify fun _ => rfl
      · obtain ⟨t'', hadd, heq⟩ := Option.map_eq_some_iff.mp h
        obtain ⟨rfl, rfl⟩ := Prod.mk.inj heq
        exact .add rfl hadd

/-! ### A stream -/

/-- The part of a stream ID that no generation changes. -/
def streamIdStem (streamId : UniqueId) : List UInt8 :=
  streamId.bytes.set 7 (streamId.bytes.getD 7 0 &&& 0x3f)

/-- What a handler leaves of a stream. -/
structure StreamKept (lite : Bool) (before after : AvbTalkerStream) : Prop where
  stamps : StampsKept before.listeners after.listeners
  declared : after.liteDeclaredMulticast = before.liteDeclaredMulticast
  tx : after.liteTxMulticast = before.liteTxMulticast
  txAt : after.liteMulticastTxAtUs = before.liteMulticastTxAtUs
  txDa : after.txDa = before.txDa
  destAddr : after.streamDestAddr = before.streamDestAddr
  stem : streamIdStem after.streamId = streamIdStem before.streamId
  streamId : lite → after.streamId = before.streamId
  streaming : lite → after.streaming → before.streaming

namespace StreamKept

variable {lite : Bool} {st st' st'' : AvbTalkerStream}

theorem refl (st : AvbTalkerStream) : StreamKept lite st st where
  stamps := .refl _
  declared := rfl
  tx := rfl
  txAt := rfl
  txDa := rfl
  destAddr := rfl
  stem := rfl
  streamId _ := rfl
  streaming _ h := h

theorem trans (h : StreamKept lite st st') (h' : StreamKept lite st' st'') :
    StreamKept lite st st'' where
  stamps := h.stamps.trans h'.stamps
  declared := h'.declared.trans h.declared
  tx := h'.tx.trans h.tx
  txAt := h'.txAt.trans h.txAt
  txDa := h'.txDa.trans h.txDa
  destAddr := h'.destAddr.trans h.destAddr
  stem := h'.stem.trans h.stem
  streamId hl := (h'.streamId hl).trans (h.streamId hl)
  streaming hl hrun := h.streaming hl (h'.streaming hl hrun)

theorem listeners (h : StampsKept st.listeners t) :
    StreamKept lite st { st with listeners := t } where
  stamps := h
  declared := rfl
  tx := rfl
  txAt := rfl
  txDa := rfl
  destAddr := rfl
  stem := rfl
  streamId _ := rfl
  streaming _ h := h

theorem declaredDestAddr (h : StreamKept lite st st') :
    avbDeclaredDestAddr lite st' = avbDeclaredDestAddr lite st := by
  simp [avbDeclaredDestAddr, h.declared, h.destAddr]

end StreamKept

theorem generation_masked (x gen : UInt8) : (x &&& 0x3f ||| gen * 64) &&& 0x3f = x &&& 0x3f := by
  have hhigh : ∀ n : Fin 256, UInt8.ofFin n * 64 &&& 0x3f = 0 := by decide +kernel
  have hzero : gen * 64 &&& 0x3f = 0 := hhigh gen.toFin
  have hdistrib : (x &&& 0x3f ||| gen * 64) &&& 0x3f =
      x &&& 0x3f &&& 0x3f ||| gen * 64 &&& 0x3f :=
    UInt8.toBitVec_inj.1 BitVec.and_or_distrib_right
  rw [hdistrib, hzero, UInt8.and_assoc, UInt8.and_self]
  simp

theorem streamIdStem_setGeneration (streamId : UniqueId) (gen : Nat) :
    streamIdStem (streamIdSetGeneration streamId gen) = streamIdStem streamId := by
  have hlen : 7 < streamId.bytes.length := by
    rw [streamId.length_eq]
    decide
  simp [streamIdStem, streamIdSetGeneration, hlen, generation_masked]

/-! ### The state -/

/-- A declaration as AVB Lite allows it, or as gPTP does. -/
def DeclaresRight (s : TalkerState) (streamId : UniqueId) (destAddr : EthAddr) : Prop :=
  if s.avbLite then
    ∃ u, streamId = (s.outputStreams u).streamId ∧
      destAddr = avbDeclaredDestAddr true (s.outputStreams u)
  else destAddr ≠ .zero 6

/-- What a handler leaves of the talker. -/
structure TransportKept (s s' : TalkerState) : Prop where
  lite : s'.avbLite = s.avbLite
  stream : ∀ u, StreamKept s.avbLite (s.outputStreams u) (s'.outputStreams u)
  declares : ∃ new, s'.effects = s.effects ++ new ∧
    (∀ streamId destAddr, .declareTalker streamId destAddr ∈ new →
      DeclaresRight s streamId destAddr) ∧
    (s.avbLite → ∀ streamId, .withdrawTalker streamId ∉ new)

namespace TransportKept

theorem refl (s : TalkerState) : TransportKept s s where
  lite := rfl
  stream _ := .refl _
  declares := ⟨[], by simp, by simp, by simp⟩

theorem declaresRight (h : TransportKept s s') {streamId : UniqueId} {destAddr : EthAddr}
    (hright : DeclaresRight s' streamId destAddr) : DeclaresRight s streamId destAddr := by
  unfold DeclaresRight at hright ⊢
  rw [h.lite] at hright
  cases hlite : s.avbLite with
  | false => simpa [hlite] using hright
  | true =>
      simp only [hlite, if_true] at hright ⊢
      obtain ⟨u, hid, hda⟩ := hright
      have hkept := h.stream u
      rw [hlite] at hkept
      exact ⟨u, hid.trans (hkept.streamId rfl), hda.trans hkept.declaredDestAddr⟩

theorem trans (h : TransportKept s s') (h' : TransportKept s' s'') : TransportKept s s'' where
  lite := h'.lite.trans h.lite
  stream u := (h.stream u).trans (h.lite ▸ h'.stream u)
  declares := by
    obtain ⟨new, heq, hright, hwithdraw⟩ := h.declares
    obtain ⟨new', heq', hright', hwithdraw'⟩ := h'.declares
    refine ⟨new ++ new', by rw [heq', heq, List.append_assoc], ?_, ?_⟩
    · intro streamId destAddr hmem
      rcases List.mem_append.mp hmem with hmem | hmem
      · exact hright streamId destAddr hmem
      · exact h.declaresRight (hright' streamId destAddr hmem)
    · intro hlite streamId hmem
      rcases List.mem_append.mp hmem with hmem | hmem
      · exact hwithdraw hlite streamId hmem
      · exact hwithdraw' (h.lite ▸ hlite) streamId hmem

theorem setStream {stream : AvbTalkerStream}
    (h : StreamKept s.avbLite (s.outputStreams u) stream) :
    TransportKept s (s.setStream u stream) where
  lite := rfl
  stream v := by
    by_cases hv : v = u
    · subst hv
      simpa [TalkerState.setStream] using h
    · simpa [TalkerState.setStream, Function.update_of_ne hv] using StreamKept.refl _
  declares := ⟨[], by simp [TalkerState.setStream], by simp, by simp⟩

theorem setListeners (h : StampsKept (s.outputStreams u).listeners t) :
    TransportKept s (s.setListeners u t) :=
  setStream (.listeners h)

theorem effect {e : TalkerEffect}
    (hdeclare : ∀ streamId destAddr, e = .declareTalker streamId destAddr →
      DeclaresRight s streamId destAddr)
    (hwithdraw : ∀ streamId, e = .withdrawTalker streamId → s.avbLite = false) :
    TransportKept s (s.effect e) where
  lite := rfl
  stream _ := .refl _
  declares := by
    refine ⟨[e], rfl, ?_, ?_⟩
    · intro streamId destAddr hmem
      exact hdeclare streamId destAddr (List.mem_singleton.mp hmem).symm
    · intro hlite streamId hmem
      rw [hwithdraw streamId (List.mem_singleton.mp hmem).symm] at hlite
      cases hlite

theorem start (hlite : s.avbLite = false) : TransportKept s (avbStartStreamOut env s u) := by
  unfold avbStartStreamOut
  dsimp only
  split_ifs
  · exact refl s
  · apply setStream
    exact ⟨.refl _, rfl, rfl, rfl, rfl, rfl, rfl, by simp [hlite], by simp [hlite]⟩

theorem stop : TransportKept s (avbStopStreamOut cfg s u) := by
  have hset : TransportKept s
      (s.setStream u { s.outputStreams u with streaming := false }) := by
    apply setStream
    exact ⟨.refl _, rfl, rfl, rfl, rfl, rfl, rfl, fun _ => rfl, by simp⟩
  unfold avbStopStreamOut
  dsimp only
  split_ifs
  · refine hset.trans ⟨rfl, fun _ => .refl _, [.testToneOff], rfl, by simp, by simp⟩
  · exact hset

theorem stopIf (c : Bool) : TransportKept s (stopIf cfg s u c) := by
  unfold EspAvb.stopIf
  split_ifs
  · exact stop
  · exact refl s

theorem renewId (hlite : s.avbLite = false) (except : Option Nat) :
    TransportKept s (avbOutputStreamRenewId env s u except) := by
  unfold avbOutputStreamRenewId
  dsimp only
  split_ifs
  · exact refl s
  · split
    · exact refl s
    · have hstamps : StampsKept (s.outputStreams u).listeners
          ((s.outputStreams u).listeners.walkBack renewRow) := by
        apply StampsKept.walkBack
        intro row row' hrow
        unfold renewRow at hrow
        split_ifs at hrow
        obtain rfl := Option.some.inj hrow
        rfl
      refine (effect (by simp) (fun _ _ => hlite)).trans (setStream ?_)
      exact ⟨hstamps, rfl, rfl, rfl, rfl, rfl, streamIdStem_setGeneration _ _, by simp [hlite, TalkerState.effect],
        by simp [hlite, TalkerState.effect]⟩

theorem declare (hdest : s.avbLite = false → (s.outputStreams u).streamDestAddr ≠ .zero 6)
    (except : Option Nat) : TransportKept s (avbDeclareOutputStream cfg env s u except) := by
  have hright : ∀ s' : TalkerState, s'.avbLite = s.avbLite →
      (s'.outputStreams u).streamDestAddr = (s.outputStreams u).streamDestAddr →
      TransportKept s' (s'.effect (.declareTalker (s'.outputStreams u).streamId
        (avbDeclaredDestAddr s'.avbLite (s'.outputStreams u)))) := by
    intro s' hlite' hda
    refine effect ?_ (by simp)
    intro streamId destAddr heq
    obtain ⟨rfl, rfl⟩ := TalkerEffect.declareTalker.inj heq
    unfold DeclaresRight
    cases hlite : s'.avbLite with
    | true => exact ⟨u, rfl, rfl⟩
    | false => simpa [avbDeclaredDestAddr, hda] using hdest (hlite' ▸ hlite)
  unfold avbDeclareOutputStream
  dsimp only
  split_ifs with hrenew
  · have hlite : s.avbLite = false := by
      cases hlite : s.avbLite with
      | false => rfl
      | true => simp [hlite] at hrenew
    have hkept : TransportKept s (avbOutputStreamRenewId env s u except) := renewId hlite except
    exact hkept.trans (hright _ hkept.lite (hkept.stream u).destAddr)
  · exact hright s rfl rfl

theorem declareNow (except : Option Nat) :
    TransportKept s (avbOutputStreamDeclareNow cfg env s u except) := by
  unfold avbOutputStreamDeclareNow
  split_ifs with hskip
  · exact refl s
  · apply declare
    intro hlite hzero
    simp [hlite, hzero] at hskip

variable (cfg env i) in
theorem setClass (index : UInt16) (classB : Bool) :
    TransportKept s (connectTxSetClass cfg env s u index i classB) := by
  unfold connectTxSetClass
  by_cases hclass : (s.outputStreams u).classB = classB
  · rw [if_pos hclass]
    exact refl s
  · rw [if_neg hclass]
    refine ((setStream ?_).trans (effect (by simp) (by simp))).trans (declareNow _)
    exact ⟨.refl _, rfl, rfl, rfl, rfl, rfl, rfl, fun _ => rfl, fun _ h => h⟩

theorem answer (msgType : AcmpMsgType) (response : AcmpMessage) (status : AcmpStatus) :
    TransportKept s (talkerAcmpResponse env s msgType response status) := by
  unfold talkerAcmpResponse
  dsimp only
  split_ifs
  · exact effect (by simp) (by simp)
  · exact refl s

end TransportKept

/-! ### The handlers -/

section

variable (cfg env s u)

theorem listenerLeave_kept (srcAddr : EthAddr) :
    TransportKept s (listenerLeave cfg s u srcAddr) := by
  unfold listenerLeave
  dsimp only
  split
  · exact .refl s
  · rename_i i _
    have hcleared : StampsKept (s.outputStreams u).listeners
        ((s.outputStreams u).listeners.modify i fun row =>
          { row with msrpReady := false, askingFailed := false }) := .modify fun _ => rfl
    refine TransportKept.trans (.setListeners ?_) (.stopIf _)
    split_ifs
    · exact hcleared
    · exact hcleared.trans .remove

theorem listenerReady_kept (srcAddr : EthAddr) (readyFailed : Bool) :
    TransportKept s (listenerReady cfg env s u srcAddr readyFailed) := by
  unfold listenerReady
  split
  · exact .refl s
  · rename_i i t hfind
    have hset : ∀ f : TalkerListener → TalkerListener, (∀ row, (f row).liteOrder = row.liteOrder) →
        TransportKept s (s.setListeners u (t.modify i f)) := fun f hf =>
      .setListeners ((findOrAddMsrpListener_stamps hfind).trans (.modify hf))
    dsimp only
    split_ifs with hstart
    · refine (hset _ ?_).trans (.start ?_)
      · exact fun _ => rfl
      · cases hlite : s.avbLite with
        | false => exact hlite
        | true => simp [TalkerState.setListeners, TalkerState.setStream, hlite] at hstart
    · exact hset _ fun _ => rfl

theorem askingFailedRow_liteOrder (nowUs : Nat) (row : TalkerListener) :
    (askingFailedRow nowUs row).liteOrder = row.liteOrder := by
  unfold askingFailedRow
  dsimp only
  split_ifs <;> rfl

theorem listenerAskingFailed_kept (srcAddr : EthAddr) :
    TransportKept s (listenerAskingFailed cfg env s u srcAddr) := by
  unfold listenerAskingFailed
  split
  · exact .refl s
  · rename_i i t hfind
    refine TransportKept.trans (.setListeners ?_) (.stopIf _)
    exact (findOrAddMsrpListener_stamps hfind).trans (.modify (askingFailedRow_liteOrder _))

theorem listenerAgeOut_kept : TransportKept s (listenerAgeOut cfg s u) := by
  unfold listenerAgeOut
  split_ifs
  · exact .refl s
  · refine TransportKept.trans (.setListeners (.walkBack ?_)) (.stopIf _)
    intro row row' hrow
    unfold ageOutRow at hrow
    split_ifs at hrow
    obtain rfl := Option.some.inj hrow
    rfl

theorem mrpOnListenerRegistrarChangeTalker_kept (streamId : UniqueId) (leaving : Bool)
    (decl : MsrpListenerEvent) (tr : MrpRegTransition) (srcAddr : Option EthAddr) :
    TransportKept s
      (mrpOnListenerRegistrarChangeTalker cfg env s streamId leaving decl tr srcAddr) := by
  unfold mrpOnListenerRegistrarChangeTalker
  split
  · exact .refl s
  · rename_i u _
    split
    · split_ifs
      · exact listenerAgeOut_kept cfg s u
      · exact .refl s
    · rename_i srcAddr
      unfold listenerDeclaration
      split_ifs
      · exact listenerLeave_kept cfg s u srcAddr
      · exact .refl s
      · cases decl with
        | ignore => exact .refl s
        | askingFailed => exact listenerAskingFailed_kept cfg env s u srcAddr
        | ready => exact listenerReady_kept cfg env s u srcAddr false
        | readyFailed => exact listenerReady_kept cfg env s u srcAddr true

theorem acmpConnectTx_kept {msg : AcmpMessage} (h : acmpConnectTx cfg env s u msg = some s') :
    TransportKept s s' := by
  unfold acmpConnectTx at h
  dsimp only at h
  split at h
  · cases h
  · rename_i i t hfind
    obtain rfl := Option.some.inj h
    have hrows : StampsKept (s.outputStreams u).listeners (t.modify i fun row =>
        { row with acmpConnected := true, askingFailed := false, lastSeenUs := env.nowUs }) :=
      (findOrAddTalkerListenerByIdentity_stamps hfind).trans (.modify fun _ => rfl)
    have hset := fun classB : Bool => (TransportKept.setListeners hrows).trans
      (TransportKept.setClass (u := u) cfg env i msg.talkerUid classB)
    split_ifs with hstart
    · refine (hset _).trans (.start ?_)
      cases hlite : s.avbLite with
      | false => rw [(hset _).lite, hlite]
      | true => simp [(hset _).lite, hlite] at hstart
    · exact hset _

theorem disconnectTxRows_stamps (t : ListenerRows) (msg : AcmpMessage) :
    StampsKept t (disconnectTxRows t msg) := by
  unfold disconnectTxRows
  split
  · exact .remove
  · exact .refl t

theorem acmpDisconnectTx_kept (msg : AcmpMessage) :
    TransportKept s (acmpDisconnectTx cfg s u msg) :=
  TransportKept.trans (.setListeners (disconnectTxRows_stamps _ msg)) (.stopIf _)

theorem avbProcessAcmpTalker_kept (holders : EntityHolders) (msg : AcmpMessage) :
    TransportKept s (avbProcessAcmpTalker cfg env holders s msg) := by
  have hcommand : ∀ disconnect, TransportKept s
      (avbProcessAcmpConnectTxCommand cfg env holders s msg disconnect) := by
    intro disconnect
    unfold avbProcessAcmpConnectTxCommand
    dsimp only
    split
    · exact .answer _ _ _
    · rename_i u _
      by_cases hheld : avbAcquiredOrLockedByOther holders msg.controllerEntityId
      · rw [if_pos hheld]
        exact .answer _ _ _
      · rw [if_neg hheld]
        cases disconnect with
        | true => exact (acmpDisconnectTx_kept cfg s u msg).trans (.answer _ _ _)
        | false =>
            cases hs' : acmpConnectTx cfg env s u msg with
            | none => exact .answer _ _ _
            | some s' => exact (acmpConnectTx_kept cfg env s u hs').trans (.answer _ _ _)
  unfold avbProcessAcmpTalker
  split_ifs
  · exact .refl s
  · split
    · exact hcommand false
    · exact hcommand true
    · exact .refl s

/-- Every event of the talker but a new address from MAAP. -/
theorem talkerStep_kept {e : TalkerEvent} (he : ∀ v addr, e ≠ .destAddr v addr) :
    TransportKept s (talkerStep cfg s e) := by
  cases e with
  | destAddr v addr => exact absurd rfl (he v addr)
  | listener env streamId leaving decl tr srcAddr =>
      exact mrpOnListenerRegistrarChangeTalker_kept cfg env s streamId leaving decl tr srcAddr
  | acmp env holders msg => exact avbProcessAcmpTalker_kept cfg env s holders msg

end

end EspAvb
