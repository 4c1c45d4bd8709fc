import EspAvb.Proof.Writes

/-!
# What a step writes

The handlers above the declarations: propagation, the Wi-Fi port, reception and the timers, but for
the talker callback and what runs it.
-/

namespace EspAvb

open Relation

variable {cfg : Config}

/-! ### Loops -/

/-- A loop whose turns move `f s` along `r`. -/
theorem reflTransGen_foldl {σ τ ι : Type*} {r : τ → τ → Prop} {step : σ → ι → σ} (f : σ → τ)
    (h : ∀ s x, ReflTransGen r (f s) (f (step s x))) (l : List ι) (s : σ) :
    ReflTransGen r (f s) (f (l.foldl step s)) := by
  induction l generalizing s with
  | nil => exact .refl
  | cons x l ih => exact (h s x).trans (ih (step s x))

section Writes

variable {P : cfg.Port → Prop} (s : AvbState cfg)

theorem writes_forPorts {step : AvbState cfg → cfg.Port → AvbState cfg}
    (h : ∀ s y, Writes P s (step s y)) : Writes P s (forPorts step s) :=
  reflTransGen_foldl id h _ s

/-! ### Propagation -/

theorem writes_mapDeclareFailed {y : cfg.Port} (hport : P y) (info : TalkerAdvInfo) (code : UInt8)
    (srcBridgeId : Option (Octets 8)) :
    Writes P s (msrpMapDeclareFailed s y info code srcBridgeId) :=
  (writes_declareTalkerFailed s hport _ _ _ _ _ _ _ _).trans
    (writes_patchEgressAccumulatedLatency _ hport _ _ _)

theorem writes_mapDeclareAdvertise {y : cfg.Port} (hport : P y) (info : TalkerAdvInfo) :
    Writes P s (msrpMapDeclareAdvertise s y info) :=
  (writes_declareTalkerAdvertise s hport _ _ _ _ _ _).trans
    (writes_patchEgressAccumulatedLatency _ hport _ _ _)

theorem writes_propagateListener (p : cfg.Port) (streamId : UniqueId) :
    Writes P s (msrpPropagateListener s p streamId) := by
  apply writes_forPorts
  intro s y
  unfold msrpPropagateListenerTo
  split
  · exact .refl
  · dsimp only
    split
    · split
      · exact writes_withdrawListener s streamId
      · exact .refl
    · split
      · exact writes_declareListener s streamId _
      · exact .refl

theorem writes_onListenerRegistrarChange (p : cfg.Port) (streamId : UniqueId)
    (tr : MrpRegTransition) (peerDeclChanged : Bool) :
    Writes P s (mrpOnListenerRegistrarChange s p streamId tr peerDeclChanged) := by
  unfold mrpOnListenerRegistrarChange
  split
  · exact writes_propagateListener s p streamId
  · exact .refl

theorem writes_onDomainRegistrarChange (p : cfg.Port) (wire : MsrpDomainMessage)
    (tr : MrpRegTransition) : Writes P s (mrpOnDomainRegistrarChange s p wire tr) := by
  unfold mrpOnDomainRegistrarChange
  split
  · apply writes_forPorts
    intro s y
    split
    · exact .refl
    · exact writes_declareDomain s _ _ _
  · exact .refl

theorem writes_talkerInputStream (p : cfg.Port) (attrType : MsrpAttrType)
    (wire : MsrpTalkerMessage) (tr : MrpRegTransition) :
    Writes P s (mrpTalkerInputStream s p attrType wire tr) := by
  unfold mrpTalkerInputStream
  split
  · exact .refl
  · split
    · exact .refl
    · dsimp only
      have hframe : ∀ streams, Writes P s { s with inputStreams := streams } :=
        fun streams => writes_frame ⟨rfl, rfl, rfl, rfl, rfl, rfl, List.Subset.refl s.log⟩
      split
      · exact (hframe _).trans (writes_declareListener _ _ _)
      · exact hframe _

/-! ### The Wi-Fi port -/

theorem sameTables_wifiUcastRefresh (wifiPort : Option cfg.Port) :
    SameTables s (msrpWifiUcastRefresh s wifiPort) := by
  unfold msrpWifiUcastRefresh
  split <;> exact ⟨rfl, rfl, rfl, rfl, rfl, rfl, List.Subset.refl s.log⟩

theorem writes_setWifiAdmission (i : Fin cfg.listenerTableSize) (a : Option AvbWifiAdmission) :
    Writes P s (s.setWifiAdmission i a) :=
  writes_frame ⟨rfl, rfl, rfl, rfl, rfl, rfl, List.Subset.refl s.log⟩

variable {w : cfg.Port}

theorem writes_wifiAdmissionDeclare (hport : P w) (talker : MsrpTalkerEntry cfg) (refused : Bool) :
    Writes P s (msrpWifiAdmissionDeclare s w talker refused) := by
  unfold msrpWifiAdmissionDeclare
  dsimp only
  refine (writes_withdrawTalker s hport talker.wire.info.streamId).trans ?_
  split
  · exact writes_mapDeclareFailed _ hport _ _ _
  · exact writes_mapDeclareAdvertise _ hport _

theorem writes_wifiAdmissionWant (li : Fin cfg.listenerTableSize) :
    Writes P s (msrpWifiAdmissionWant w s li) := by
  unfold msrpWifiAdmissionWant
  split
  · exact .refl
  · split
    · exact .refl
    · split
      · exact .refl
      · dsimp only
        split
        · exact .refl
        · split
          · exact .refl
          · exact writes_setWifiAdmission s _ _

theorem writes_wifiAdmissionDecide (hport : P w) (pass : WifiAdmissionPass cfg)
    (i : Fin cfg.listenerTableSize) :
    Writes P pass.state (msrpWifiAdmissionDecide w pass i).state := by
  have hdeclare : ∀ (s : AvbState cfg) (t : MsrpTalkerEntry cfg) (c refused : Bool),
      Writes P s (if c then msrpWifiAdmissionDeclare s w t refused else s) := by
    intro s t c refused
    split
    · exact writes_wifiAdmissionDeclare s hport t refused
    · exact .refl
  unfold msrpWifiAdmissionDecide
  dsimp only
  split
  · exact .refl
  · rename_i a ha
    split
    · refine ReflTransGen.trans ?_ (writes_setWifiAdmission _ _ _)
      split
      · exact hdeclare _ _ _ _
      · exact .refl
    · split
      · exact .refl
      · split
        · exact .refl
        · split
          · refine ReflTransGen.trans ?_ (writes_propagateListener _ _ _)
            refine ReflTransGen.trans ?_ (writes_setWifiAdmission _ _ _)
            exact (writes_setWifiAdmission _ _ _).trans (hdeclare _ _ _ _)
          · split
            · refine ReflTransGen.trans ?_ (writes_propagateListener _ _ _)
              exact (writes_wifiAdmissionDeclare _ hport _ _).trans (writes_setWifiAdmission _ _ _)
            · exact .refl

theorem writes_wifiAdmissionUpdate (hall : ∀ y, P y) (wifiPort : Option cfg.Port) :
    Writes P s (msrpWifiAdmissionUpdate s wifiPort) := by
  unfold msrpWifiAdmissionUpdate
  split
  · exact .refl
  · rename_i w
    dsimp only
    set s1 : AvbState cfg := { s with
      wifiAdmissionPort := some w
      wifiAdmission := fun i => (s.wifiAdmission i).map fun a => { a with wanted := false } }
    set s2 := (List.finRange cfg.listenerTableSize).foldl (msrpWifiAdmissionWant w) s1
    set pass0 : WifiAdmissionPass cfg :=
      { state := s2, frames := (msrpWifiAdmissionCommitted s2).1,
        bps := (msrpWifiAdmissionCommitted s2).2, decided := false }
    set pass := (List.finRange cfg.listenerTableSize).foldl (msrpWifiAdmissionDecide w) pass0
    have hmark : Writes P s s1 :=
      writes_frame ⟨rfl, rfl, rfl, rfl, rfl, rfl, List.Subset.refl s.log⟩
    have hwant : Writes P s1 s2 := reflTransGen_foldl id (fun s i => writes_wifiAdmissionWant s i) _ s1
    have hdecide : Writes P s2 pass.state := reflTransGen_foldl WifiAdmissionPass.state
      (fun pass i => writes_wifiAdmissionDecide (hall w) pass i) _ pass0
    have hcommit : Writes P pass.state { pass.state with wifiFramesCommitted := pass.frames } :=
      writes_frame ⟨rfl, rfl, rfl, rfl, rfl, rfl, List.Subset.refl _⟩
    have hpass := ((hmark.trans hwant).trans hdecide).trans hcommit
    split
    · exact hpass.trans (writes_frame (sameTables_wifiUcastRefresh _ _))
    · exact hpass

theorem writes_wifiAfterDeclaration (hall : ∀ y, P y) :
    Writes P s (msrpWifiAfterDeclaration s) := by
  unfold msrpWifiAfterDeclaration
  split
  · have hrefresh : Writes P s (msrpWifiUcastRefresh s cfg.wifiPort) :=
      writes_frame (sameTables_wifiUcastRefresh s _)
    dsimp only
    split
    · exact hrefresh.trans (writes_wifiAdmissionUpdate _ hall _)
    · exact hrefresh
  · exact .refl

/-! ### Reception -/

variable {p : cfg.Port}

theorem writes_leaveallTalkers (hport : P p) (hlite : s.avbLite = false) (attrType : MsrpAttrType) :
    Writes P s { s with
      talkers := Function.update s.talkers p fun i => (s.talkers p i).map fun e =>
        if e.attrType = attrType then { e with sm := mrpSmStep s.nowUs e.sm .rLA } else e } := by
  refine .single (.talkers hport (SlotTable.Pointwise.of_map _ ?_))
  intro i e he
  split
  · refine ⟨rfl, .single (.leaveAll e.sm hlite), ?_⟩
    cases hregistrar : e.sm.registrar <;> simp [mrpSmStep, mrpRegistrarStep, hregistrar]
  · exact TalkerWrite.refl e

theorem writes_dispatchLeaveall (hport : P p) (hlite : s.avbLite = false) (attrType : MsrpAttrType) :
    Writes P s (msrpDispatchLeaveall s p attrType) := by
  have hsm : ∀ sm : MrpSm, SmWrites s.avbLite s.nowUs sm (mrpSmStep s.nowUs sm .rLA) :=
    fun sm => .single (.leaveAll sm hlite)
  cases attrType with
  | talkerAdvertise =>
      set s1 : AvbState cfg := { s with
        talkerLeaveallCount :=
          Function.update s.talkerLeaveallCount p (s.talkerLeaveallCount p + 1)
        talkerLeaveallUs := Function.update s.talkerLeaveallUs p s.nowUs }
      have hcount : Writes P s s1 :=
        writes_frame ⟨rfl, rfl, rfl, rfl, rfl, rfl, List.Subset.refl s.log⟩
      exact hcount.trans (writes_leaveallTalkers s1 hport hlite .talkerAdvertise)
  | talkerFailed => exact writes_leaveallTalkers s hport hlite .talkerFailed
  | listener =>
      refine .single (.listeners (SlotTable.Pointwise.of_map _ ?_))
      intro i e he
      exact ⟨rfl, hsm e.sm⟩
  | domain =>
      refine .single (.domains (SlotTable.Pointwise.of_map _ ?_))
      intro i e he
      exact ⟨rfl, (hsm e.sm).pendingTx, (hsm e.sm).timer⟩

theorem firstEvent_mem (event : UInt8) :
    firstEvent event = .rLv ∨ firstEvent event ∈ [MrpEvent.rNew, .rJoinIn, .rIn, .rJoinMt, .rMt] := by
  unfold firstEvent mrp3peToEvent
  split <;> simp

theorem firstEvent_pendingTx (nowUs : Nat) (sm : MrpSm) (event : UInt8) :
    (mrpSmStep nowUs sm (firstEvent event)).pendingTx = sm.pendingTx := by
  obtain h | h := firstEvent_mem event
  · rw [h]
    simp [mrpSmStep, mrpApplicantStep, mrpApplicantTx]
  · simp only [List.mem_cons, List.not_mem_nil, or_false] at h
    obtain h | h | h | h | h := h <;> rw [h] <;>
      simp [mrpSmStep, mrpApplicantStep, mrpApplicantTx]

theorem msrpRxListenerAttr_writes (wire : MsrpListenerMessage) (srcAddr : Option EthAddr) :
    Writes P s (msrpRxListenerAttr s p wire srcAddr).2.2 := by
  unfold msrpRxListenerAttr
  split
  · exact .refl
  · rename_i i s1 hinsert
    obtain ⟨hwrites, e, he, hkey⟩ := writes_listenerFindOrInsert (P := P) hinsert
    simp only [he]
    refine hwrites.trans ?_
    have hkey' : (msrpListenerReceive s1.nowUs wire srcAddr e).key = e.key := hkey.symm
    unfold msrpLogPeerLeft
    split
    · rename_i hleave
      refine .single (.leaveListener he hkey' ?_)
      rw [msrpListenerReceive, hleave]
    · rename_i hother
      apply writes_setListener he
      exact ⟨hkey', .single (.peer e.sm ((firstEvent_mem wire.event).resolve_left hother))⟩

theorem writes_rxListener (hall : ∀ y, P y) (wire : MsrpListenerMessage)
    (srcAddr : Option EthAddr) : Writes P s (msrpRxListener s p wire srcAddr) :=
  ((msrpRxListenerAttr_writes s wire srcAddr).trans
    (writes_onListenerRegistrarChange _ _ _ _ _)).trans (writes_wifiAfterDeclaration _ hall)

theorem msrpRxDomainAttr_writes (wire : MsrpDomainMessage) :
    Writes P s (msrpRxDomainAttr s p wire).2 := by
  unfold msrpRxDomainAttr
  split
  · exact .refl
  · rename_i i s1 hinsert
    obtain ⟨hwrites, e, he, hkey⟩ := writes_domainFindOrInsert (P := P) hinsert
    simp only [he]
    refine hwrites.trans (writes_setDomain he ⟨hkey.symm, ?_, fun h => h.step s1.nowUs _⟩)
    intro hpending
    rw [firstEvent_pendingTx, hpending]

theorem writes_rxDomain (wire : MsrpDomainMessage) : Writes P s (msrpRxDomain s p wire) :=
  (msrpRxDomainAttr_writes s wire).trans (writes_onDomainRegistrarChange _ _ _ _)

/-- Finding the entry and taking the received value into it. -/
def msrpRxTalkerTake (s : AvbState cfg) (p : cfg.Port) (attrType : MsrpAttrType)
    (wire : MsrpTalkerMessage) (srcAddr : Option EthAddr) : AvbState cfg :=
  match msrpTalkerFindOrInsert s p wire.info.streamId attrType with
  | none => s
  | some (i, s) =>
      match s.talkers p i with
      | none => s
      | some e =>
          (msrpLogPeerLeft s p wire.event e.sm).setTalker p i
            (some (msrpTalkerReceive s.nowUs wire srcAddr e))

theorem writes_rxTalkerTake (hport : P p) (attrType : MsrpAttrType) (wire : MsrpTalkerMessage)
    (srcAddr : Option EthAddr) :
    ReflTransGen (TableWrite P True) s (msrpRxTalkerTake s p attrType wire srcAddr) := by
  unfold msrpRxTalkerTake
  split
  · exact .refl
  · rename_i i s1 hinsert
    obtain ⟨hwrites, e, he, hkey⟩ := writes_talkerFindOrInsert hport hinsert
    simp only [he]
    refine (ReflTransGen.mono (fun _ _ h => h.mono (fun _ => id) False.elim) _ _ hwrites).trans ?_
    have haccount : (msrpTalkerReceive s1.nowUs wire srcAddr e).account = e.account := by
      have hstream : e.wire.info.streamId = wire.info.streamId := congrArg Prod.fst hkey
      unfold msrpTalkerReceive MsrpTalkerEntry.account MsrpTalkerEntry.key
      dsimp only
      split
      · rfl
      · rw [hstream]
    unfold msrpLogPeerLeft
    split
    · rename_i hleave
      refine .single (.leaveTalker hport he haccount ?_)
      rw [msrpTalkerReceive, hleave]
    · rename_i hother
      exact .single (.receiveTalker trivial hport he haccount
        (.single (.peer e.sm ((firstEvent_mem wire.event).resolve_left hother))))

/-! ### Transmission and the timers that end no registration -/

theorem flush_write (sm : MrpSm) {ev : MrpEvent} (h : ev = .tx ∨ ev = .txLA) :
    SmWrites s.avbLite s.nowUs sm (mrpFlushSm sm ev).1 :=
  .single (.flush sm h)

theorem writes_txFlushTalkerSlot (hport : P p) {txEv : MrpEvent} (h : txEv = .tx ∨ txEv = .txLA)
    (pass : FlushPass cfg) (i : TalkerRef cfg) :
    Writes P pass.state (mrpTxFlushTalkerSlot p txEv pass i).state := by
  unfold mrpTxFlushTalkerSlot
  split
  · exact .refl
  · rename_i e he
    have hwrite : Writes P pass.state
        (pass.state.setTalker p i (some { e with sm := (mrpFlushSm e.sm txEv).1 })) :=
      writes_setTalker hport he ⟨rfl, flush_write _ e.sm h, id⟩
    dsimp only
    split
    · exact hwrite
    · exact hwrite.trans (writes_frame (sameTables_sendAttr _ _))

theorem writes_txFlushListenerSlot {txEv : MrpEvent} (h : txEv = .tx ∨ txEv = .txLA)
    (pass : FlushPass cfg) (i : ListenerRef cfg) :
    Writes P pass.state (mrpTxFlushListenerSlot p txEv pass i).state := by
  unfold mrpTxFlushListenerSlot
  split
  · exact .refl
  · rename_i e he
    have hwrite : Writes P pass.state
        (pass.state.setListener p i (some { e with sm := (mrpFlushSm e.sm txEv).1 })) :=
      writes_setListener he ⟨rfl, flush_write _ e.sm h⟩
    dsimp only
    split
    · exact hwrite
    · exact hwrite.trans (writes_frame (sameTables_sendAttr _ _))

theorem writes_txFlushDomainSlot {txEv : MrpEvent} (pass : FlushPass cfg) (i : DomainRef) :
    Writes P pass.state (mrpTxFlushDomainSlot p txEv pass i).state := by
  unfold mrpTxFlushDomainSlot
  split
  · exact .refl
  · rename_i e he
    have hwrite : Writes P pass.state
        (pass.state.setDomain p i (some { e with sm := (mrpFlushSm e.sm txEv).1 })) :=
      writes_setDomain he ⟨rfl, fun _ => rfl, id⟩
    dsimp only
    split
    · exact hwrite
    · exact hwrite.trans (writes_frame (sameTables_sendAttr none _))

theorem writes_txFlushPort (hport : P p) : Writes P s (mrpTxFlushPort s p) := by
  unfold mrpTxFlushPort
  dsimp only
  set txEv : MrpEvent := if s.mrpLeaveallTxPending p then .txLA else .tx with htxEv
  set pass0 : FlushPass cfg :=
    { state := s, leaveallTypes := if s.mrpLeaveallTxPending p then allAttrTypes else [] }
  have htx : txEv = .tx ∨ txEv = .txLA := by
    rw [htxEv]
    split
    · exact Or.inr rfl
    · exact Or.inl rfl
  set pass1 : FlushPass cfg :=
    if s.avbLite then pass0
    else
      (List.finRange cfg.listenerTableSize).foldl (mrpTxFlushListenerSlot p txEv)
        ((List.finRange cfg.talkerTableSize).foldl (mrpTxFlushTalkerSlot p txEv) pass0) with hpass1
  have hfirst : Writes P s pass1.state := by
    rw [hpass1]
    split
    · exact .refl
    · have htalkers : Writes P pass0.state
          ((List.finRange cfg.talkerTableSize).foldl (mrpTxFlushTalkerSlot p txEv) pass0).state :=
        reflTransGen_foldl FlushPass.state
          (fun pass i => writes_txFlushTalkerSlot hport htx pass i) _ pass0
      exact htalkers.trans
        (reflTransGen_foldl FlushPass.state (fun pass i => writes_txFlushListenerSlot htx pass i) _ _)
  have hdomains : Writes P pass1.state
      ((List.finRange msrpDomainTableSize).foldl (mrpTxFlushDomainSlot p txEv) pass1).state :=
    reflTransGen_foldl FlushPass.state (fun pass i => writes_txFlushDomainSlot pass i) _ pass1
  refine (hfirst.trans hdomains).trans (writes_frame ?_)
  exact ⟨rfl, rfl, rfl, rfl, rfl, rfl, List.Subset.refl _⟩

theorem smWrites_liteEntryDue (sm : MrpSm) (nextTxUs nowUs : Nat) :
    SmWrites s.avbLite s.nowUs sm (mrpLiteEntryDue sm nextTxUs nowUs).1 := by
  unfold mrpLiteEntryDue
  split
  · exact .single (.unsent sm)
  · exact flush_write s sm (Or.inl rfl)

theorem liteEntryDue_registrar (sm : MrpSm) (nextTxUs nowUs : Nat) :
    (mrpLiteEntryDue sm nextTxUs nowUs).1.registrar = sm.registrar := by
  unfold mrpLiteEntryDue
  split <;> rfl

theorem writes_liteFlushTalkerSlot (hport : P p) (i : TalkerRef cfg) :
    Writes P s (mrpLiteFlushTalkerSlot p s i) := by
  unfold mrpLiteFlushTalkerSlot
  split
  · exact .refl
  · rename_i e he
    rcases hdue : mrpLiteEntryDue e.sm e.liteNextTxUs s.nowUs with ⟨sm, liteNextTxUs, pe⟩
    have hsm := smWrites_liteEntryDue s e.sm e.liteNextTxUs s.nowUs
    rw [hdue] at hsm
    have hregistrar : sm.registrar = e.sm.registrar := by
      have h := liteEntryDue_registrar e.sm e.liteNextTxUs s.nowUs
      rwa [hdue] at h
    have hwrite : Writes P s (s.setTalker p i (some { e with sm, liteNextTxUs })) :=
      writes_setTalker hport he ⟨rfl, hsm, fun hne => hregistrar ▸ hne⟩
    cases pe with
    | none => exact hwrite
    | some pe => exact hwrite.trans (writes_frame (sameTables_sendAttr none _))

theorem writes_liteFlushListenerSlot (i : ListenerRef cfg) :
    Writes P s (mrpLiteFlushListenerSlot p s i) := by
  unfold mrpLiteFlushListenerSlot
  split
  · exact .refl
  · rename_i e he
    rcases hdue : mrpLiteEntryDue e.sm e.liteNextTxUs s.nowUs with ⟨sm, liteNextTxUs, pe⟩
    have hsm := smWrites_liteEntryDue s e.sm e.liteNextTxUs s.nowUs
    rw [hdue] at hsm
    have hwrite : Writes P s (s.setListener p i (some { e with sm, liteNextTxUs })) :=
      writes_setListener he ⟨rfl, hsm⟩
    cases pe with
    | none => exact hwrite
    | some pe => exact hwrite.trans (writes_frame (sameTables_sendAttr _ _))

theorem writes_liteFlush (hport : P p) : Writes P s (mrpLiteFlush s p) := by
  have htalkers : Writes P s
      ((List.finRange cfg.talkerTableSize).foldl (mrpLiteFlushTalkerSlot p) s) :=
    reflTransGen_foldl id (fun s i => writes_liteFlushTalkerSlot s hport i) _ s
  exact htalkers.trans (reflTransGen_foldl id (fun s i => writes_liteFlushListenerSlot s i) _ _)

theorem smWrites_liteRedeclareSm (sm : MrpSm) (nextTxUs nowUs : Nat) :
    SmWrites s.avbLite s.nowUs sm (mrpLiteRedeclareSm sm nextTxUs nowUs).1 := by
  unfold mrpLiteRedeclareSm
  split
  · exact .refl
  · rename_i hdeclaring
    exact .single (.redeclare sm (by simpa using hdeclaring))

theorem liteRedeclareSm_registrar (sm : MrpSm) (nextTxUs nowUs : Nat) :
    (mrpLiteRedeclareSm sm nextTxUs nowUs).1.registrar = sm.registrar := by
  unfold mrpLiteRedeclareSm
  split <;> rfl

theorem writes_liteRedeclareAll (hport : P p) : Writes P s (mrpLiteRedeclareAll s p) := by
  set s1 : AvbState cfg := { s with
    talkers := Function.update s.talkers p fun i => (s.talkers p i).map fun e =>
      if e.locallyOriginated then
        { e with
          sm := (mrpLiteRedeclareSm e.sm e.liteNextTxUs s.nowUs).1
          liteNextTxUs := (mrpLiteRedeclareSm e.sm e.liteNextTxUs s.nowUs).2 }
      else e }
  have htalkers : Writes P s s1 := by
    refine .single (.talkers hport (SlotTable.Pointwise.of_map _ ?_))
    intro i e he
    split
    · refine ⟨rfl, smWrites_liteRedeclareSm s e.sm _ _, fun hne => ?_⟩
      rwa [liteRedeclareSm_registrar] at hne
    · exact TalkerWrite.refl e
  have hlisteners : Writes P s1 (mrpLiteRedeclareAll s p) := by
    refine .single (.listeners (SlotTable.Pointwise.of_map _ ?_))
    intro i e he
    exact ⟨rfl, smWrites_liteRedeclareSm s e.sm _ _⟩
  exact htalkers.trans hlisteners

/-- One function on the state machines of a port's every entry. -/
theorem writes_allSm (hport : P p) {f : MrpSm → MrpSm}
    (h : ∀ sm, SmWrites s.avbLite s.nowUs sm (f sm))
    (hbegins : ∀ sm, (f sm).registrar ≠ .MT → sm.registrar ≠ .MT) :
    Writes P s { s with
      talkers := Function.update s.talkers p fun i => (s.talkers p i).map fun e =>
        { e with sm := f e.sm }
      listeners := Function.update s.listeners p fun i => (s.listeners p i).map fun e =>
        { e with sm := f e.sm }
      domains := Function.update s.domains p fun i => (s.domains p i).map fun e =>
        { e with sm := f e.sm } } := by
  set s1 : AvbState cfg := { s with
    talkers := Function.update s.talkers p fun i => (s.talkers p i).map fun e =>
      { e with sm := f e.sm } } with hs1
  set s2 : AvbState cfg := { s1 with
    listeners := Function.update s1.listeners p fun i => (s1.listeners p i).map fun e =>
      { e with sm := f e.sm } } with hs2
  have htalkers : Writes P s s1 :=
    .single (.talkers hport (SlotTable.Pointwise.of_map _ fun i e he =>
      ⟨rfl, h e.sm, hbegins e.sm⟩))
  have hlisteners : Writes P s1 s2 :=
    .single (.listeners (SlotTable.Pointwise.of_map _ fun i e he => ⟨rfl, h e.sm⟩))
  have hdomains : Writes P s2 { s2 with
      domains := Function.update s2.domains p fun i => (s2.domains p i).map fun e =>
        { e with sm := f e.sm } } :=
    .single (.domains (SlotTable.Pointwise.of_map _ fun i e he =>
      ⟨rfl, (h e.sm).pendingTx, (h e.sm).timer⟩))
  exact (htalkers.trans hlisteners).trans hdomains

theorem writes_portDispatchPeriodic (hport : P p) : Writes P s (mrpPortDispatchPeriodic s p) :=
  writes_allSm s hport (fun sm => .single (.periodic sm)) fun _ => id

theorem selfLeaveSm_begins (sm : MrpSm) :
    (mrpSelfLeaveSm s.nowUs sm).registrar ≠ .MT → sm.registrar ≠ .MT := by
  unfold mrpSelfLeaveSm
  split
  · rename_i hin
    simp [hin]
  · exact id

theorem writes_stationSelfLeaveall (hport : P p) : Writes P s (mrpStationSelfLeaveall s p) :=
  writes_allSm s hport (fun sm => .single (.selfLeave sm)) (selfLeaveSm_begins s)

theorem writes_leaveallTimer (hport : P p) (apEmpty : Bool) :
    Writes P s (mrpLeaveallTimer s p apEmpty) := by
  unfold mrpLeaveallTimer
  dsimp only
  split
  · exact .refl
  · split
    · exact writes_liteRedeclareAll s hport
    · have hpending : Writes P s { s with
          mrpLeaveallTxPending := Function.update s.mrpLeaveallTxPending p true } :=
        writes_frame ⟨rfl, rfl, rfl, rfl, rfl, rfl, List.Subset.refl s.log⟩
      split
      · exact hpending.trans (writes_stationSelfLeaveall _ hport)
      · exact hpending

end Writes

end EspAvb
