import EspAvb.Lib.Machine
import EspAvb.Proof.LiteFrame
import EspAvb.Proof.LiteLine

/-!
# What a transport pass lets out

A pass of AVB Lite plans every stream, shares the egress budget out over the copies of all of them
and publishes the outcome stream by stream. What the streams then send stays within the budget, the
copies keep their places in it as far as they fit, and a copy that could be sent is left out only
when it does not fit. Whoever is in line is sent to, waits, or is told why not.
-/

namespace EspAvb

variable {cfg : LiteConfig} {env : LiteEnv}

/-! ### Sharing out -/

namespace LitePlanning

variable {p : LitePlanning} {fanout : Nat} {u : Fin avbMaxNumOutputStreams} {c : LiteCopy}

theorem stream_of_mem_copiesOf (h : c ∈ p.copiesOf fanout u) : c.stream = u := by
  unfold copiesOf at h
  split at h
  · cases h
  · split_ifs at h
    · rw [List.mem_singleton.mp h]
    · obtain ⟨j, -, rfl⟩ := List.mem_map.mp h
      rfl

theorem copiesOf_nodup (h : ∀ plan ∈ p.plans u, plan.order.Nodup) :
    (p.copiesOf fanout u).Nodup := by
  unfold copiesOf
  split
  · exact List.nodup_nil
  · rename_i plan hplan
    split_ifs
    · exact List.nodup_singleton _
    · apply ((h plan hplan).sublist (List.take_sublist _ _)).map
      intro j j' heq
      simpa using heq

theorem copies_nodup (h : ∀ u, ∀ plan ∈ p.plans u, plan.order.Nodup) : (p.copies cfg).Nodup := by
  apply List.nodup_flatMap.mpr
  refine ⟨fun u _ => copiesOf_nodup (h u), cfg.streams_nodup.imp ?_⟩
  intro u v huv c hu hv
  exact huv ((stream_of_mem_copiesOf hu).symm.trans (stream_of_mem_copiesOf hv))

/-- A copy in the budget is that of an escalated stream, or of a row near the head of the line. -/
theorem mem_copies_cases (hc : c ∈ p.copies cfg) :
    ∃ plan, p.plans c.stream = some plan ∧
      ((p.streams c.stream).liteTxMulticast = true ∧ c.row = none ∨
        (p.streams c.stream).liteTxMulticast = false ∧
          ∃ j ∈ plan.order.take cfg.unicastFanout, c.row = some j) := by
  obtain ⟨u, -, hcu⟩ := List.mem_flatMap.mp hc
  obtain rfl := stream_of_mem_copiesOf hcu
  unfold copiesOf at hcu
  split at hcu
  · cases hcu
  · rename_i plan hplan
    refine ⟨plan, hplan, ?_⟩
    split_ifs at hcu with htx
    · exact Or.inl ⟨htx, congrArg LiteCopy.row (List.mem_singleton.mp hcu)⟩
    · obtain ⟨j, hj, heq⟩ := List.mem_map.mp hcu
      exact Or.inr ⟨by simpa using htx, j, hj, (congrArg LiteCopy.row heq).symm⟩

/-- A copy has a place before the end of the counter, so the scans see it. -/
theorem copyOrder_lt (hstreams : ∀ u, StreamWell p.seq (p.streams u))
    (hwell : ∀ u, ∀ plan ∈ p.plans u, PlanWell cfg (p.streams u) plan)
    (hseq : p.seq.toNat < uint32Max) (hc : c ∈ p.copies cfg) : p.copyOrder c < uint32Max := by
  have hstamp : ∀ j, (rowAt (p.streams c.stream).listeners.rows j).liteOrder.toNat < uint32Max :=
    fun j => ((hstreams c.stream).stamps.rowAt j).trans_lt hseq
  unfold copyOrder
  split
  · rename_i hrow
    obtain ⟨plan, hplan, ⟨htx, -⟩ | ⟨-, j, -, hj⟩⟩ := mem_copies_cases hc
    swap
    · rw [hrow] at hj
      cases hj
    -- an escalated stream has somebody in line
    have hcount := (hwell _ plan hplan).escalated htx
    have hne : plan.order ≠ [] :=
      List.ne_nil_of_length_pos (hcount.trans_le (hwell _ plan hplan).ready)
    obtain ⟨j, rest, horder⟩ := List.exists_cons_of_ne_nil hne
    simpa [firstOrder, hplan, horder] using hstamp j
  · exact hstamp _

@[simp]
theorem setHeld_plans (held : LiteCopy → Bool) : (p.setHeld held).plans = p.plans := rfl

theorem setHeld_copyHeld (hwell : ∀ u, ∀ plan ∈ p.plans u, PlanWell cfg (p.streams u) plan)
    (hc : c ∈ p.copies cfg) (held : LiteCopy → Bool) : (p.setHeld held).copyHeld c = held c := by
  obtain ⟨plan, hplan, ⟨-, hrow⟩ | ⟨-, j, hj, hrow⟩⟩ := mem_copies_cases hc
  · obtain ⟨u, row⟩ := c
    obtain rfl : row = none := hrow
    rfl
  · obtain ⟨u, row⟩ := c
    obtain rfl : row = some j := hrow
    have hlt := (hwell u plan hplan).inRows j (List.mem_of_mem_take hj)
    exact congrArg TalkerListener.liteAdmitted (rowAt_mapIdx hlt)

end LitePlanning

/-- What the sharing makes of the copies: what they cost together fits, a copy that had a place
keeps it when those before it in line fit with it, and one that is left out does not fit. -/
structure CopiesShared (cfg : LiteConfig) (env : LiteEnv) (p : LitePlanning)
    (after : LiteCopy → Bool) : Prop where
  fits : BudgetShare.total (p.copies cfg) p.copyBps after ≤ liteBudgetBps env
  keeps : ∀ c ∈ p.copies cfg, p.copyHeld c →
    BudgetShare.totalUpTo (p.copies cfg) p.copyOrder p.copyBps p.copyHeld (p.copyOrder c) ≤
      liteBudgetBps env → after c
  full : ∀ c ∈ p.copies cfg, ¬ after c → p.copyAdmissible c →
    liteBudgetBps env < BudgetShare.total (p.copies cfg) p.copyBps after + p.copyBps c

theorem CopiesShared.congr {p : LitePlanning} {after after' : LiteCopy → Bool}
    (h : CopiesShared cfg env p after) (heq : ∀ c ∈ p.copies cfg, after' c = after c) :
    CopiesShared cfg env p after' := by
  have htotal : BudgetShare.total (p.copies cfg) p.copyBps after' =
      BudgetShare.total (p.copies cfg) p.copyBps after := by
    simp only [BudgetShare.total]
    rw [List.filter_congr heq]
  refine ⟨htotal ▸ h.fits, ?_, ?_⟩
  · intro c hc hheld hupTo
    rw [heq c hc]
    exact h.keeps c hc hheld hupTo
  · intro c hc hfree hadm
    rw [htotal]
    rw [heq c hc] at hfree
    exact h.full c hc hfree hadm

theorem avbLiteAdmitCopies_shared {p : LitePlanning}
    (hstreams : ∀ u, StreamWell p.seq (p.streams u))
    (hwell : ∀ u, ∀ plan ∈ p.plans u, PlanWell cfg (p.streams u) plan)
    (hseq : p.seq.toNat < uint32Max) :
    CopiesShared cfg env p (avbLiteAdmitCopies cfg env p).copyHeld := by
  have horder : ∀ c ∈ p.copies cfg, p.copyOrder c < uint32Max :=
    fun c hc => LitePlanning.copyOrder_lt hstreams hwell hseq hc
  have hnodup : (p.copies cfg).Nodup :=
    LitePlanning.copies_nodup fun u plan hplan => (hwell u plan hplan).nodup
  have hreleasable : ∀ c ∈ p.copies cfg, p.copyHeld c → p.copyReleasable c := by
    intro c hc _
    simp [LitePlanning.copyReleasable, (horder c hc).ne]
  obtain ⟨hfits, hkeeps, hfull⟩ := BudgetShare.share_spec (p.copies cfg) p.copyOrder p.copyBps
    (liteBudgetBps env) hnodup p.copyReleasable uint32Max p.copyAdmissible p.copyHeld hreleasable
  refine CopiesShared.congr ⟨hfits, hkeeps, ?_⟩
    fun c hc => LitePlanning.setHeld_copyHeld hwell hc _
  intro c hc hfree hadm
  exact hfull c hc hfree hadm (horder c hc)

/-! ### Publishing -/

/-- The turn of one stream leaves the other streams alone. -/
structure TurnOf (u : Fin avbMaxNumOutputStreams) (s s' : TalkerState) : Prop where
  lite : s'.avbLite = s.avbLite
  other : ∀ v ≠ u, s'.outputStreams v = s.outputStreams v

namespace TurnOf

variable {s s' s'' : TalkerState} {u : Fin avbMaxNumOutputStreams}

theorem refl (s : TalkerState) : TurnOf u s s := ⟨rfl, fun _ _ => rfl⟩

theorem trans (h : TurnOf u s s') (h' : TurnOf u s' s'') : TurnOf u s s'' :=
  ⟨h'.lite.trans h.lite, fun v hv => (h'.other v hv).trans (h.other v hv)⟩

theorem setStream (stream : AvbTalkerStream) : TurnOf u s (s.setStream u stream) :=
  ⟨rfl, fun _ hv => Function.update_of_ne hv _ _⟩

theorem effect (e : TalkerEffect) : TurnOf u s (s.effect e) := ⟨rfl, fun _ _ => rfl⟩

theorem start (env : TalkerEnv) : TurnOf u s (avbStartStreamOut env s u) := by
  unfold avbStartStreamOut
  dsimp only
  split_ifs
  · exact refl s
  · exact setStream _

theorem stop (cfg : TalkerConfig) : TurnOf u s (avbStopStreamOut cfg s u) := by
  unfold avbStopStreamOut
  dsimp only
  split_ifs
  · exact (setStream _).trans ⟨rfl, fun _ _ => rfl⟩
  · exact setStream _

theorem declare (cfg : TalkerConfig) (env : TalkerEnv) (except : Option Nat) :
    TurnOf u s (avbDeclareOutputStream cfg env s u except) := by
  have hrenew : TurnOf u s (avbOutputStreamRenewId env s u except) := by
    unfold avbOutputStreamRenewId
    dsimp only
    split_ifs
    · exact refl s
    · split
      · exact refl s
      · exact (effect _).trans (setStream _)
  unfold avbDeclareOutputStream
  dsimp only
  split_ifs
  · exact hrenew.trans (effect _)
  · exact effect _

theorem run (serving : Bool) (das : List EthAddr) :
    TurnOf u s (liteRunStream cfg env s u serving das) := by
  unfold liteRunStream
  dsimp only
  split_ifs
  · exact stop _
  · exact ((setStream _).trans (setStream _)).trans (start _)
  · exact refl s

end TurnOf

/-- The turn of a stream as the whole state sees it. -/
theorem litePublishNext_turn (plans : Fin avbMaxNumOutputStreams → Option LitePlan) (s : LiteState)
    (u : Fin avbMaxNumOutputStreams) :
    TurnOf u s.talker (litePublishNext cfg env plans s u).talker ∧
      (litePublishNext cfg env plans s u).liteOrderSeq = s.liteOrderSeq ∧
      ∀ v ≠ u, (litePublishNext cfg env plans s u).refusals v = s.refusals v := by
  unfold litePublishNext
  split
  · exact ⟨.setStream _, rfl, fun _ _ => rfl⟩
  · rename_i plan _
    refine ⟨?_, rfl, fun v hv => Function.update_of_ne hv _ _⟩
    unfold litePublishStream
    dsimp only
    set das := liteDas cfg plan (s.talker.outputStreams u)
    set serving := liteServing cfg plan (s.talker.outputStreams u)
    set rows := s.talker.setStream u (litePublishRows cfg env plan (s.talker.outputStreams u))
    have hrun : TurnOf u s.talker (liteRunStream cfg env rows u serving das) :=
      (TurnOf.setStream _).trans (.run serving das)
    set ran := liteRunStream cfg env rows u serving das
    have hpublish : TurnOf u s.talker
        (if (s.talker.outputStreams u).liteTxMulticast || !das.isEmpty then
          avbLitePublishTxAddrs ran u das
        else ran) := by
      split_ifs
      · exact hrun.trans (.setStream _)
      · exact hrun
    set published : TalkerState :=
      if (s.talker.outputStreams u).liteTxMulticast || !das.isEmpty then
        avbLitePublishTxAddrs ran u das
      else ran
    split_ifs
    · exact hpublish.trans (.declare _ _ _)
    · exact hpublish

/-- What publishing leaves of a stream. -/
structure PublishKept (before after : AvbTalkerStream) : Prop where
  rows : (after.listeners.rows.map fun row => (row.liteOrder, row.liteAdmitted)) =
    before.listeners.rows.map fun row => (row.liteOrder, row.liteAdmitted)
  declared : after.liteDeclaredMulticast = before.liteDeclaredMulticast
  tx : after.liteTxMulticast = before.liteTxMulticast
  admitted : after.liteMulticastAdmitted = before.liteMulticastAdmitted
  format : after.streamFormat = before.streamFormat
  classB : after.classB = before.classB
  streamId : after.streamId = before.streamId
  destAddr : after.streamDestAddr = before.streamDestAddr
  txAt : after.liteMulticastTxAtUs = before.liteMulticastTxAtUs

namespace PublishKept

variable {before after after' : AvbTalkerStream}

theorem refl (stream : AvbTalkerStream) : PublishKept stream stream :=
  ⟨rfl, rfl, rfl, rfl, rfl, rfl, rfl, rfl, rfl⟩

theorem trans (h : PublishKept before after) (h' : PublishKept after after') :
    PublishKept before after' where
  rows := h'.rows.trans h.rows
  declared := h'.declared.trans h.declared
  tx := h'.tx.trans h.tx
  admitted := h'.admitted.trans h.admitted
  format := h'.format.trans h.format
  classB := h'.classB.trans h.classB
  streamId := h'.streamId.trans h.streamId
  destAddr := h'.destAddr.trans h.destAddr
  txAt := h'.txAt.trans h.txAt

theorem wellKept (h : PublishKept before after) {seq : UInt32} (hwell : StreamWell seq before) :
    StreamWell seq after where
  stamps row hrow := by
    have hmem : (row.liteOrder, row.liteAdmitted) ∈
        after.listeners.rows.map fun row => (row.liteOrder, row.liteAdmitted) :=
      List.mem_map_of_mem hrow
    rw [h.rows] at hmem
    obtain ⟨old, hold, heq⟩ := List.mem_map.mp hmem
    rw [← (Prod.mk.inj heq).1]
    exact hwell.stamps old hold
  escalated htx := h.declared.trans (hwell.escalated (h.tx ▸ htx))

theorem rowAdmitted (h : PublishKept before after) (j : Nat) :
    (rowAt after.listeners.rows j).liteAdmitted = (rowAt before.listeners.rows j).liteAdmitted := by
  have hj := congrArg (fun l => l[j]?) h.rows
  simp only [List.getElem?_map] at hj
  unfold rowAt
  cases hafter : after.listeners.rows[j]? <;> cases hbefore : before.listeners.rows[j]? <;>
    simp_all

end PublishKept

theorem ListenerRows.map_mapIdx {β : Type*} {t : ListenerRows}
    {f : Nat → TalkerListener → TalkerListener} {g : TalkerListener → β}
    (h : ∀ j row, g (f j row) = g row) : (t.mapIdx f).rows.map g = t.rows.map g := by
  ext j
  simp only [ListenerRows.mapIdx, List.getElem?_map, List.getElem?_mapIdx]
  cases t.rows[j]? <;> simp [h]

variable (env) in
theorem litePublishRow_kept (code : UInt8) (row : TalkerListener) :
    (litePublishRow env code row).liteOrder = row.liteOrder ∧
      (litePublishRow env code row).liteAdmitted = row.liteAdmitted := by
  unfold litePublishRow
  split_ifs <;> exact ⟨rfl, rfl⟩

theorem litePublishRows_kept (plan : LitePlan) (stream : AvbTalkerStream) :
    PublishKept stream (litePublishRows cfg env plan stream) := by
  refine ⟨ListenerRows.map_mapIdx ?_, rfl, rfl, rfl, rfl, rfl, rfl, rfl, rfl⟩
  intro j row
  split
  · rfl
  · obtain ⟨horder, hadmitted⟩ := litePublishRow_kept env
      (liteFailureCode cfg plan stream _ row) row
    rw [horder, hadmitted]

theorem avbDeclareOutputStream_lite {cfg : TalkerConfig} {env : TalkerEnv} {s : TalkerState}
    (hlite : s.avbLite = true) (u : Fin avbMaxNumOutputStreams) (except : Option Nat) :
    (avbDeclareOutputStream cfg env s u except).outputStreams = s.outputStreams := by
  simp [avbDeclareOutputStream, hlite, TalkerState.effect]

variable (cfg env) in
/-- A stream that does not serve anybody is stopped, and none is started for nobody. -/
theorem liteRunStream_own (s : TalkerState) (u : Fin avbMaxNumOutputStreams) (serving : Bool)
    (das : List EthAddr) :
    let after := (liteRunStream cfg env s u serving das).outputStreams u
    PublishKept (s.outputStreams u) after ∧ (after.streaming → serving = true) := by
  have hstop : ∀ s' : TalkerState, ∀ cfg' : TalkerConfig,
      (avbStopStreamOut cfg' s' u).outputStreams u =
        { s'.outputStreams u with streaming := false } := by
    intro s' cfg'
    unfold avbStopStreamOut
    dsimp only
    split_ifs <;> simp [TalkerState.setStream, TalkerState.effect]
  unfold liteRunStream
  dsimp only
  split_ifs with hidle hstart
  · rw [hstop]
    exact ⟨⟨rfl, rfl, rfl, rfl, rfl, rfl, rfl, rfl, rfl⟩, by simp⟩
  · simp only [Bool.and_eq_true] at hstart
    refine ⟨?_, fun _ => hstart.1.1⟩
    unfold avbStartStreamOut
    dsimp only
    split_ifs <;> simp only [avbLitePublishTxAddrs, TalkerState.setStream, Function.update_self] <;>
      exact ⟨rfl, rfl, rfl, rfl, rfl, rfl, rfl, rfl, rfl⟩
  · refine ⟨.refl _, ?_⟩
    intro hstreaming
    by_contra hserving
    simp [hserving, hstreaming] at hidle

/-- A stream serves somebody at the addresses it has published. -/
structure ServedWell (cfg : LiteConfig) (plan : LitePlan) (planned after : AvbTalkerStream) :
    Prop extends PublishKept planned after where
  serving : after.streaming → liteServing cfg plan planned = true
  published : after.streaming → after.txDa = liteDas cfg plan planned

variable (cfg env) in
theorem litePublishStream_own {s : LiteState} (hlite : s.talker.avbLite = true)
    (u : Fin avbMaxNumOutputStreams) (plan : LitePlan) :
    ServedWell cfg plan (s.talker.outputStreams u)
      ((litePublishStream cfg env s u plan).talker.outputStreams u) := by
  unfold litePublishStream
  dsimp only
  set planned := s.talker.outputStreams u
  set das := liteDas cfg plan planned
  set serving := liteServing cfg plan planned with hserving
  set rows := s.talker.setStream u (litePublishRows cfg env plan planned) with hrows
  have hrowsLite : rows.avbLite = true := hlite
  obtain ⟨hkept, hserves⟩ := liteRunStream_own cfg env rows u serving das
  have hturn : TurnOf u rows (liteRunStream cfg env rows u serving das) := .run serving das
  set ran := liteRunStream cfg env rows u serving das
  have hplanned : PublishKept planned (ran.outputStreams u) := by
    have hset : rows.outputStreams u = litePublishRows cfg env plan planned := by
      simp [hrows, TalkerState.setStream]
    rw [hset] at hkept
    exact (litePublishRows_kept plan planned).trans hkept
  set published : TalkerState :=
    if planned.liteTxMulticast || !das.isEmpty then avbLitePublishTxAddrs ran u das else ran
    with hpublished
  have hpublishedLite : published.avbLite = true := by
    rw [hpublished]
    split_ifs <;> exact hturn.lite.trans hrowsLite
  have hserved : ServedWell cfg plan planned (published.outputStreams u) := by
    rw [hpublished]
    split_ifs with hany
    · simp only [avbLitePublishTxAddrs, TalkerState.setStream, Function.update_self]
      exact ⟨hplanned.trans ⟨rfl, rfl, rfl, rfl, rfl, rfl, rfl, rfl, rfl⟩, hserves, fun _ => rfl⟩
    · -- with nobody served nothing runs
      have hidle : ¬ (ran.outputStreams u).streaming = true := by
        intro hstreaming
        have hserving' := hserves hstreaming
        simp only [Bool.or_eq_true, not_or, Bool.not_eq_true] at hany
        simp [hserving, liteServing, hany.1] at hserving'
        simp [das, hserving'] at hany
      exact ⟨hplanned, hserves, fun h => absurd h hidle⟩
  split_ifs
  · rw [avbDeclareOutputStream_lite hpublishedLite]
    exact hserved
  · exact hserved

/-! ### A pass -/

theorem List.filter_zipIdx_lt {α : Type*} (q : α → Bool) (l : List α) (m i : Nat) :
    ((l.zipIdx i).filter fun p => decide (p.2 < i + m) && q p.1).map Prod.fst =
      (l.take m).filter q := by
  induction l generalizing m i with
  | nil => simp
  | cons a l ih =>
      rw [List.zipIdx_cons]
      cases m with
      | zero =>
          have hnone : ∀ p ∈ (a, i) :: l.zipIdx (i + 1), ¬ (decide (p.2 < i + 0) && q p.1) := by
            intro p hp
            have hge : i ≤ p.2 := by
              rcases List.mem_cons.mp hp with rfl | hp
              · exact le_rfl
              · exact (Nat.le_succ i).trans (List.le_snd_of_mem_zipIdx hp)
            simp [hge]
          rw [List.filter_eq_nil_iff.mpr hnone]
          rfl
      | succ m =>
          have hshift : (fun p : α × Nat => decide (p.2 < i + (m + 1)) && q p.1) =
              fun p => decide (p.2 < i + 1 + m) && q p.1 := by
            funext p
            rw [Nat.add_right_comm, Nat.add_assoc]
          rw [List.take_succ_cons, List.filter_cons, List.filter_cons, hshift]
          by_cases hq : q a = true
          · simp [hq, ih]
          · simp [hq, ih]

/-- The addresses of a stream are those of the ready rows with a place near the head of the line, in
its order. -/
theorem liteDas_eq (plan : LitePlan) {stream : AvbTalkerStream}
    (htx : stream.liteTxMulticast = false) :
    liteDas cfg plan stream =
      ((plan.order.take cfg.unicastFanout).filter fun j =>
        (rowAt stream.listeners.rows j).liteAdmitted && (rowAt stream.listeners.rows j).ready).map
        fun j => (rowAt stream.listeners.rows j).macAddr := by
  rw [← List.filter_zipIdx_lt _ _ _ 0, List.map_map, liteDas, liteCandidates, List.filter_map,
    List.map_map]
  refine congrArg₂ List.map rfl (List.filter_congr ?_)
  rintro ⟨j, k⟩ -
  simp only [Function.comp_apply, liteFailureCode, htx]
  by_cases hk : k < cfg.unicastFanout
  · cases hadmitted : (rowAt stream.listeners.rows j).liteAdmitted <;>
      simp [hk, Nat.not_le.mpr hk, noFailure, insufficientBandwidth]
  · simp [hk]


/-- The copies of each frame a stream's task sends, one to the stream's own destination when no
address is published. -/
def AvbTalkerStream.copiesSent (stream : AvbTalkerStream) : Nat :=
  if stream.streaming then max 1 stream.txDa.length else 0

/-- What the streams in use send together. -/
def liteSentBps (cfg : LiteConfig) (s : TalkerState) : Nat :=
  (cfg.streams.map fun u =>
    (s.outputStreams u).copiesSent * avbStreamOutCopyBps cfg (s.outputStreams u)).sum

/-- Whether a copy holds a place in the budget. -/
def LiteState.copyHeld (s : LiteState) (c : LiteCopy) : Bool :=
  match c.row with
  | none => (s.talker.outputStreams c.stream).liteMulticastAdmitted
  | some j => (rowAt (s.talker.outputStreams c.stream).listeners.rows j).liteAdmitted

/-- A stream that runs sends no more copies than it holds places for. -/
theorem copiesSent_le {p : LitePlanning} {u : Fin avbMaxNumOutputStreams} {plan : LitePlan}
    {after : AvbTalkerStream} (hplan : p.plans u = some plan)
    (htx : (p.streams u).liteTxMulticast = after.liteTxMulticast)
    {planned : AvbTalkerStream} (hserved : ServedWell cfg plan planned after)
    {held : LiteCopy → Bool} (hmulticast : held ⟨u, none⟩ = planned.liteMulticastAdmitted)
    (hrows : ∀ j ∈ plan.order, held ⟨u, some j⟩ = (rowAt planned.listeners.rows j).liteAdmitted) :
    after.copiesSent ≤ (p.copiesOf cfg.unicastFanout u).countP held := by
  unfold AvbTalkerStream.copiesSent
  split_ifs with hstreaming
  swap
  · exact Nat.zero_le _
  have hserving := hserved.serving hstreaming
  rw [hserved.published hstreaming]
  unfold liteServing at hserving
  unfold LitePlanning.copiesOf
  rw [hplan]
  dsimp only
  rw [htx, hserved.tx]
  by_cases hmulti : planned.liteTxMulticast = true
  · have hnone : liteDas cfg plan planned = [] := by
      simp [liteDas, hmulti]
    simp only [hmulti, if_true, Bool.and_eq_true] at hserving
    simp [hmulti, hnone, hmulticast, hserving.1]
  · have hmulti : planned.liteTxMulticast = false := by simpa using hmulti
    simp only [hmulti, Bool.false_eq_true, if_false, Bool.not_eq_true',
      List.isEmpty_eq_false_iff] at hserving ⊢
    have hpos : 1 ≤ (liteDas cfg plan planned).length := List.length_pos_of_ne_nil hserving
    rw [max_eq_right hpos, liteDas_eq plan hmulti, List.length_map, ← List.countP_eq_length_filter,
      List.countP_map]
    apply List.countP_mono_left
    intro j hj hadmitted
    rw [Bool.and_eq_true] at hadmitted
    exact (hrows j (List.mem_of_mem_take hj)).trans hadmitted.1

/-- What a pass in AVB Lite leaves of each planned stream, and of the others. -/
structure PassDone (cfg : LiteConfig) (env : LiteEnv) (s s' : LiteState) : Prop where
  seq : s'.liteOrderSeq = (litePlanned cfg env s).seq
  lite : s'.talker.avbLite = s.talker.avbLite
  served : ∀ u ∈ cfg.streams, ∀ plan ∈ (litePlanned cfg env s).plans u,
    ServedWell cfg plan ((litePlanned cfg env s).streams u) (s'.talker.outputStreams u) ∧
      s'.refusals u = liteRefusedOf cfg plan ((litePlanned cfg env s).streams u)
  kept : ∀ u, PublishKept ((litePlanned cfg env s).streams u) (s'.talker.outputStreams u)

/-- Only a talker in AVB Lite has plans to publish. -/
theorem litePlanned_lite {s : LiteState} {u : Fin avbMaxNumOutputStreams} {plan : LitePlan}
    (h : (litePlanned cfg env s).plans u = some plan) : s.talker.avbLite = true := by
  unfold litePlanned at h
  split_ifs at h with hlite
  exact (Bool.and_eq_true_iff.mp hlite).1

variable (env) in
theorem pass_done (s : LiteState) (htalker : cfg.talker = true) :
    PassDone cfg env s (avbLiteUpdateStreamTxAddrs cfg env s) := by
  unfold avbLiteUpdateStreamTxAddrs
  simp only [htalker, Bool.not_true, Bool.false_eq_true, if_false]
  set p := litePlanned cfg env s with hp
  set start : LiteState :=
    { s with liteOrderSeq := p.seq, talker := { s.talker with outputStreams := p.streams } }
  set next := litePublishNext cfg env p.plans
  -- the turn of a stream finds it as it was planned
  have hown : ∀ s' : LiteState, ∀ u, s'.talker.avbLite = s.talker.avbLite →
      s'.talker.outputStreams u = p.streams u →
      (∀ plan ∈ p.plans u,
        ServedWell cfg plan (p.streams u) ((next s' u).talker.outputStreams u) ∧
          (next s' u).refusals u = liteRefusedOf cfg plan (p.streams u)) ∧
        PublishKept (p.streams u) ((next s' u).talker.outputStreams u) := by
    intro s' u hlite hstream
    cases hplan : p.plans u with
    | none =>
        refine ⟨by simp, ?_⟩
        simp only [next, litePublishNext, hplan, litePublishUnplanned, avbLitePublishTxAddrs,
          TalkerState.setStream, Function.update_self, hstream]
        exact ⟨rfl, rfl, rfl, rfl, rfl, rfl, rfl, rfl, rfl⟩
    | some plan =>
        have hserved := litePublishStream_own cfg env
          (hlite.trans (litePlanned_lite (hp ▸ hplan))) u plan
        rw [hstream] at hserved
        have hturn : next s' u = litePublishStream cfg env s' u plan := by
          simp [next, litePublishNext, hplan]
        rw [hturn]
        refine ⟨?_, hserved.toPublishKept⟩
        rintro _ ⟨⟩
        exact ⟨hserved, by simp [litePublishStream, hstream]⟩
  have hnext : ∀ s' u, TurnOf u s'.talker (next s' u).talker ∧
      (next s' u).liteOrderSeq = s'.liteOrderSeq ∧
      ∀ v ≠ u, (next s' u).refusals v = s'.refusals v := litePublishNext_turn p.plans
  have hlite : ∀ streams : List (Fin avbMaxNumOutputStreams),
      (Machine.run next start streams).talker.avbLite = s.talker.avbLite ∧
        (Machine.run next start streams).liteOrderSeq = p.seq := by
    intro streams
    apply Machine.run_invariant fun s' : LiteState =>
      s'.talker.avbLite = s.talker.avbLite ∧ s'.liteOrderSeq = p.seq
    · rintro s' u ⟨hs', hseq⟩
      exact ⟨(hnext s' u).1.lite.trans hs', (hnext s' u).2.1.trans hseq⟩
    · exact ⟨rfl, rfl⟩
  have hturn : ∀ u ∈ cfg.streams,
      (∀ plan ∈ p.plans u,
        ServedWell cfg plan (p.streams u)
          ((Machine.run next start cfg.streams).talker.outputStreams u) ∧
        (Machine.run next start cfg.streams).refusals u =
          liteRefusedOf cfg plan (p.streams u)) ∧
        PublishKept (p.streams u)
          ((Machine.run next start cfg.streams).talker.outputStreams u) := by
    intro u hu
    apply Machine.run_once
      (fun s' : LiteState =>
        s'.talker.avbLite = s.talker.avbLite ∧ s'.talker.outputStreams u = p.streams u)
      (fun s' : LiteState =>
        (∀ plan ∈ p.plans u, ServedWell cfg plan (p.streams u) (s'.talker.outputStreams u) ∧
          s'.refusals u = liteRefusedOf cfg plan (p.streams u)) ∧
        PublishKept (p.streams u) (s'.talker.outputStreams u))
      hu cfg.streams_nodup
    · rintro s' v hv ⟨hs', hstream⟩
      have hother := (hnext s' v).1
      exact ⟨hother.lite.trans hs', (hother.other u hv.symm).trans hstream⟩
    · rintro s' ⟨hs', hstream⟩
      exact hown s' u hs' hstream
    · intro s' v hv h
      rw [(hnext s' v).1.other u hv.symm, (hnext s' v).2.2 u hv.symm]
      exact h
    · exact ⟨rfl, rfl⟩
  refine ⟨(hlite cfg.streams).2, (hlite cfg.streams).1, fun u hu => (hturn u hu).1, ?_⟩
  intro u
  by_cases hu : u ∈ cfg.streams
  · exact (hturn u hu).2
  · have hsame : (Machine.run next start cfg.streams).talker.outputStreams u = p.streams u :=
      Machine.run_invariant_of_forall_mem
        (fun s' : LiteState => s'.talker.outputStreams u = p.streams u)
        (fun s' v hv h => ((hnext s' v).1.other u fun heq => hu (heq ▸ hv)).trans h) rfl
    exact hsame ▸ PublishKept.refl _

theorem setHeld_well {p : LitePlanning} {seq : UInt32} {u : Fin avbMaxNumOutputStreams}
    (h : StreamWell seq (p.streams u)) (held : LiteCopy → Bool) :
    StreamWell seq ((p.setHeld held).streams u) :=
  ⟨h.stamps.mapIdx fun _ _ => rfl, h.escalated⟩

/-- A pass leaves the streams well, in AVB Lite and outside it. -/
theorem pass_well {s : LiteState} (hwell : LiteWell s) (hleft : StampsLeft s) :
    LiteWell (avbLiteUpdateStreamTxAddrs cfg env s) := by
  cases htalker : cfg.talker with
  | false => simpa [avbLiteUpdateStreamTxAddrs, htalker] using hwell
  | true =>
      have hdone := pass_done env s htalker
      intro u
      rw [hdone.seq]
      apply (hdone.kept u).wellKept
      unfold litePlanned
      split_ifs
      · exact setHeld_well ((litePlanAll_spec cfg env hwell hleft).stream u) _
      · exact hwell u

/-! ### Between the passes -/

theorem StreamKept.well {lite : Bool} {seq : UInt32} {before after : AvbTalkerStream}
    (h : StreamKept lite before after) (hwell : StreamWell seq before) : StreamWell seq after where
  stamps row hrow := by
    rcases h.stamps row hrow with hzero | ⟨old, hold, heq⟩
    · rw [hzero]
      exact Nat.zero_le _
    · rw [heq]
      exact hwell.stamps old hold
  escalated htx := h.declared.trans (hwell.escalated (h.tx ▸ htx))

theorem setStream_well {s : LiteState} (hwell : LiteWell s) {u : Fin avbMaxNumOutputStreams}
    {stream : AvbTalkerStream} (hstream : StreamWell s.liteOrderSeq stream) :
    LiteWell { s with talker := s.talker.setStream u stream } := by
  intro v
  by_cases hv : v = u
  · subst hv
    simpa [TalkerState.setStream] using hstream
  · simpa [TalkerState.setStream, Function.update_of_ne hv] using hwell v

/-- In AVB Lite a declaration changes nothing but what is declared. -/
theorem liteDeclareAll_kept {t : TalkerState} (hlite : t.avbLite = true) :
    (liteDeclareAll cfg env t).avbLite = true ∧
      (liteDeclareAll cfg env t).outputStreams = t.outputStreams := by
  have hkept : ∀ streams : List (Fin avbMaxNumOutputStreams),
      (Machine.run (fun s u =>
        if (s.outputStreams u).streamId = .zero 8 then s
        else avbDeclareOutputStream cfg.toTalkerConfig env.toTalkerEnv s u none) t
        streams).avbLite = true ∧
      (Machine.run (fun s u =>
        if (s.outputStreams u).streamId = .zero 8 then s
        else avbDeclareOutputStream cfg.toTalkerConfig env.toTalkerEnv s u none) t
        streams).outputStreams = t.outputStreams := by
    intro streams
    apply Machine.run_invariant fun s' : TalkerState =>
      s'.avbLite = true ∧ s'.outputStreams = t.outputStreams
    · rintro s' u ⟨hs', hstreams⟩
      split_ifs
      · exact ⟨hs', hstreams⟩
      · refine ⟨(TurnOf.declare (u := u) _ _ _).lite.trans hs', ?_⟩
        rw [avbDeclareOutputStream_lite hs', hstreams]
    · exact ⟨hlite, rfl⟩
  exact hkept cfg.streams

theorem ptp_well {s : LiteState} (hwell : LiteWell s) (standardProfile : Bool) :
    LiteWell (avbUpdateAvbLiteFromPtp cfg env standardProfile s) := by
  have hforget : ∀ avbLite u, StreamWell s.liteOrderSeq ((liteForgetEscalation cfg
      (avbApplyMediaVlan cfg { s.talker with avbLite })).outputStreams u) := by
    intro avbLite u
    have hu := hwell u
    by_cases hin : u.val < cfg.numOutputStreams
    · simp only [liteForgetEscalation, avbApplyMediaVlan, hin, if_true]
      exact ⟨hu.stamps, by simp⟩
    · simp only [liteForgetEscalation, avbApplyMediaVlan, hin, if_false]
      exact hu
  unfold avbUpdateAvbLiteFromPtp
  dsimp only
  split_ifs with hsame hlite
  · exact hwell
  · intro u
    rw [(liteDeclareAll_kept ?_).2]
    · exact hforget _ u
    · exact (Bool.and_eq_true_iff.mp hlite).1
  · exact hforget _

theorem liteStep_well {s : LiteState} (hwell : LiteWell s) (hleft : StampsLeft s) (e : LiteEvent) :
    LiteWell (liteStep cfg s e) := by
  cases e with
  | pass env => exact pass_well hwell hleft
  | talker e =>
      cases e with
      | destAddr u addr => exact setStream_well hwell ⟨(hwell u).stamps, (hwell u).escalated⟩
      | acmp env holders msg =>
          have hkept := talkerStep_kept cfg.toTalkerConfig s.talker
            (e := .acmp env holders msg) (by simp)
          exact fun u => (hkept.stream u).well (hwell u)
      | listener env streamId leaving decl tr srcAddr =>
          have hkept := talkerStep_kept cfg.toTalkerConfig s.talker
            (e := .listener env streamId leaving decl tr srcAddr) (by simp)
          exact fun u => (hkept.stream u).well (hwell u)
  | format u streamFormat classB vlanId =>
      exact setStream_well hwell ⟨(hwell u).stamps, (hwell u).escalated⟩
  | declare env u =>
      exact fun v => ((TransportKept.declareNow none).stream v).well (hwell v)
  | ptp env standardProfile => exact ptp_well hwell standardProfile

/-! ### The egress budget -/

/-- A talker before anybody has asked for a stream. -/
def LiteBoot (s : LiteState) : Prop :=
  ∀ u, (s.talker.outputStreams u).listeners.rows = [] ∧
    (s.talker.outputStreams u).liteTxMulticast = false ∧
    (s.talker.outputStreams u).liteDeclaredMulticast = false

theorem LiteBoot.well {s : LiteState} (h : LiteBoot s) : LiteWell s := by
  intro u
  refine ⟨?_, ?_⟩
  · simp [StampsUpTo, (h u).1]
  · simp [(h u).2.1]

theorem liteWell_run {s : LiteState} (hboot : LiteBoot s) {events : List LiteEvent}
    (hleft : Machine.RunMeets (fun s _ => StampsLeft s) (liteStep cfg) s events) :
    LiteWell (Machine.run (liteStep cfg) s events) :=
  hleft.invariant LiteWell (fun _ e hleft hwell => liteStep_well hwell hleft e) hboot.well

theorem PlannedUpTo.plans {s : LiteState} {p : LitePlanning}
    (h : PlannedUpTo cfg env s cfg.streams p) {u : Fin avbMaxNumOutputStreams} {plan : LitePlan}
    (hplan : plan ∈ p.plans u) :
    u ∈ cfg.streams ∧ PlanWell cfg (p.streams u) plan ∧
      LineWell env.nowUs (s.talker.outputStreams u).listeners plan.order := by
  by_cases hu : u ∈ cfg.streams
  · obtain ⟨plan', hplan', hwell⟩ := h.behind u hu
    obtain rfl := Option.some.inj (hplan'.symm.trans hplan)
    exact ⟨hu, hwell⟩
  · rw [(h.ahead u hu).2] at hplan
    cases hplan

theorem PlannedUpTo.seq_lt {s : LiteState} {p : LitePlanning}
    (h : PlannedUpTo cfg env s cfg.streams p) (hleft : StampsLeft s) :
    p.seq.toNat < uint32Max := by
  have hlen : cfg.streams.length ≤ avbMaxNumOutputStreams := by
    have hle := cfg.streams_nodup.length_le_card
    rwa [Fintype.card_fin] at hle
  calc p.seq.toNat
    _ ≤ s.liteOrderSeq.toNat + cfg.streams.length * avbMaxNumConnectedListeners := h.seq_le
    _ ≤ s.liteOrderSeq.toNat + avbMaxNumOutputStreams * avbMaxNumConnectedListeners :=
      Nat.add_le_add_left (Nat.mul_le_mul_right _ hlen) _
    _ < uint32Max := hleft

variable (env) in
/-- What a pass sends and whose copies it sends. -/
theorem pass_shares {s : LiteState} (hwell : LiteWell s) (hleft : StampsLeft s)
    (htalker : cfg.talker = true) (hport : cfg.wifiPort = false) (hlite : s.talker.avbLite = true) :
    let s' := avbLiteUpdateStreamTxAddrs cfg env s
    CopiesShared cfg env (litePlanAll cfg env s) s'.copyHeld ∧
      liteSentBps cfg s'.talker ≤
        BudgetShare.total ((litePlanAll cfg env s).copies cfg) (litePlanAll cfg env s).copyBps
          s'.copyHeld := by
  intro s'
  have hdone : PassDone cfg env s s' := pass_done env s htalker
  have hspec := litePlanAll_spec cfg env hwell hleft
  have hplanned : litePlanned cfg env s = avbLiteAdmitCopies cfg env (litePlanAll cfg env s) := by
    simp [litePlanned, hlite, hport]
  set p := litePlanAll cfg env s
  have hheld : ∀ c, s'.copyHeld c = (avbLiteAdmitCopies cfg env p).copyHeld c := by
    rintro ⟨u, row⟩
    have hkept := hdone.kept u
    rw [hplanned] at hkept
    cases row with
    | none => exact hkept.admitted
    | some j => exact hkept.rowAdmitted j
  refine ⟨?_, ?_⟩
  · apply (avbLiteAdmitCopies_shared hspec.stream (fun u plan hplan => (hspec.plans hplan).2.1)
      (hspec.seq_lt hleft)).congr
    exact fun c _ => hheld c
  · rw [liteSentBps, LitePlanning.copies, BudgetShare.total_flatMap]
    apply List.sum_le_sum
    intro u hu
    obtain ⟨plan, hplan, hplanWell, -⟩ := hspec.behind u hu
    have hserved := (hdone.served u hu plan (hplanned ▸ hplan)).1
    rw [hplanned] at hserved
    have hcost : ∀ c ∈ p.copiesOf cfg.unicastFanout u,
        p.copyBps c = avbStreamOutCopyBps cfg (s'.talker.outputStreams u) := by
      intro c hc
      rw [LitePlanning.copyBps, LitePlanning.stream_of_mem_copiesOf hc, hplan]
      calc plan.copyBps
        _ = avbStreamOutCopyBps cfg (p.streams u) := hplanWell.cost
        _ = avbStreamOutCopyBps cfg (s'.talker.outputStreams u) :=
          (avbStreamOutCopyBps_congr hserved.format hserved.classB).symm
    rw [BudgetShare.total_const hcost]
    apply Nat.mul_le_mul_right
    apply copiesSent_le hplan hserved.tx.symm hserved
    · exact (hheld _).trans rfl
    · intro j hj
      exact (hheld _).trans rfl

/-- In any run, what the streams send after a pass in AVB Lite fits the egress budget; copies with a
place keep it as far as they fit, the earlier in line the longer; and a copy that may be sent is
left out only when it does not fit with those that are. -/
theorem lite_egress_within_budget (cfg : LiteConfig) (env : LiteEnv) (start : LiteState)
    (hboot : LiteBoot start) (events : List LiteEvent)
    (hleft : Machine.RunMeets (fun s _ => StampsLeft s) (liteStep cfg) start
      (events ++ [.pass env]))
    (htalker : cfg.talker = true) (hport : cfg.wifiPort = false)
    (hlite : (Machine.run (liteStep cfg) start events).talker.avbLite = true) :
    let before := Machine.run (liteStep cfg) start events
    let after := Machine.run (liteStep cfg) start (events ++ [.pass env])
    liteSentBps cfg after.talker ≤ liteBudgetBps env ∧
      CopiesShared cfg env (litePlanAll cfg env before) after.copyHeld := by
  intro before after
  have hafter : after = avbLiteUpdateStreamTxAddrs cfg env before := by
    simp only [after, Machine.run_append]
    rfl
  obtain ⟨hshared, hsent⟩ := pass_shares env (liteWell_run hboot hleft.of_append_left)
    hleft.of_append.1 htalker hport hlite
  rw [hafter]
  exact ⟨hsent.trans hshared.fits, hshared⟩

instance (s : LiteState) : Decidable (StampsLeft s) :=
  inferInstanceAs (Decidable
    (s.liteOrderSeq.toNat + avbMaxNumOutputStreams * avbMaxNumConnectedListeners < uint32Max))

def readyFrom (mac : Nat) : LiteEvent :=
  .talker (.listener (.at 1) (.ofNat 8 0x0200000000010000) false .ready .register
    (some (.ofNat 6 mac)))

/-- Three listeners ask for a stream whose frames may go to two of them one by one. -/
def threeReady : List LiteEvent :=
  [.ptp (.at 1) true, .talker (.destAddr ⟨0, Nat.two_pos⟩ (.ofNat 6 0x91e0f0000001)),
    .format ⟨0, Nat.two_pos⟩ (.ofNat 8 0x0205022000806000) false 2, readyFrom 0x020000000003,
    readyFrom 0x020000000001, readyFrom 0x020000000002]

/-- A link on which one copy of the stream fits. -/
def slowLink : LiteEnv := { LiteEnv.at 1 with linkSpeedMbps := 10, escalationFlag := false }

theorem liteBoot_blank : LiteBoot .blank := fun _ => ⟨rfl, rfl, rfl⟩

theorem lite_egress_within_budget_slow :
    let after := Machine.run (liteStep plainLite) .blank (threeReady ++ [.pass slowLink])
    liteSentBps plainLite after.talker = 7296000 ∧
      liteSentBps plainLite after.talker ≤ liteBudgetBps slowLink ∧
      CopiesShared plainLite slowLink
        (litePlanAll plainLite slowLink (Machine.run (liteStep plainLite) .blank threeReady))
        after.copyHeld :=
  ⟨by decide +kernel,
    lite_egress_within_budget plainLite slowLink .blank liteBoot_blank threeReady
      (by decide +kernel) rfl rfl (by decide +kernel)⟩

/-! ### The line -/

/-- What becomes of a row by its code. -/
def liteRefusal (code : UInt8) (row : TalkerListener) : Option (EthAddr × UInt8) :=
  if code = noFailure then none else some (row.macAddr, code)

/-- Who of the line is refused, and why: whoever has no place in the budget, and behind the fan-out
limit everybody unless the stream may escalate. -/
def liteRefusals (cfg : LiteConfig) (plan : LitePlan) (stream : AvbTalkerStream) :
    List (EthAddr × UInt8) :=
  let row := rowAt stream.listeners.rows
  if stream.liteTxMulticast then
    plan.order.filterMap fun j => liteRefusal
      (if stream.liteMulticastAdmitted then noFailure else insufficientBandwidth) (row j)
  else
    (plan.order.take cfg.unicastFanout).filterMap (fun j =>
      liteRefusal (if (row j).liteAdmitted then noFailure else insufficientBandwidth) (row j)) ++
    (plan.order.drop cfg.unicastFanout).filterMap fun j => liteRefusal
      (if plan.escalationAllowed then noFailure else insufficientBridgeResources) (row j)

theorem List.filterMap_zipIdx_split {α β : Type*} {f : α × Nat → Option β}
    (front back : α → Option β) (m : Nat) (l : List α) (i : Nat)
    (hfront : ∀ a k, i ≤ k → k < i + m → f (a, k) = front a)
    (hback : ∀ a k, i + m ≤ k → f (a, k) = back a) :
    (l.zipIdx i).filterMap f = (l.take m).filterMap front ++ (l.drop m).filterMap back := by
  induction l generalizing m i with
  | nil => simp
  | cons a l ih =>
      rw [List.zipIdx_cons, List.filterMap_cons]
      cases m with
      | zero =>
          have hrest := ih 0 (i + 1) (fun a k hge hlt => absurd hge (Nat.not_le.mpr hlt))
            fun a k hk => hback a k (by omega)
          rw [hback a i le_rfl, hrest, List.drop_zero, List.drop_zero, List.filterMap_cons]
          simp
      | succ m =>
          have hrest := ih m (i + 1) (fun a k hge hlt => hfront a k (by omega) (by omega))
            fun a k hk => hback a k (by omega)
          rw [hfront a i le_rfl (by omega), hrest, List.take_succ_cons, List.drop_succ_cons,
            List.filterMap_cons]
          cases front a <;> rfl

theorem List.map_filter_eq_filterMap {α β : Type*} (q : α → Bool) (f : α → β) (l : List α) :
    (l.filter q).map f = l.filterMap fun a => if q a then some (f a) else none := by
  induction l with
  | nil => rfl
  | cons a l ih => by_cases h : q a <;> simp [h, ih]

theorem liteRefusedOf_eq (plan : LitePlan) (stream : AvbTalkerStream) :
    liteRefusedOf cfg plan stream = liteRefusals cfg plan stream := by
  have hcode : liteRefusedOf cfg plan stream = plan.order.zipIdx.filterMap fun p =>
      liteRefusal (liteFailureCode cfg plan stream p.2 (rowAt stream.listeners.rows p.1))
        (rowAt stream.listeners.rows p.1) := by
    rw [liteRefusedOf, List.map_filter_eq_filterMap, liteCandidates, List.filterMap_map]
    apply List.filterMap_congr
    rintro ⟨j, k⟩ -
    by_cases h : liteFailureCode cfg plan stream k (rowAt stream.listeners.rows j) = noFailure <;>
      simp [liteRefusal, h]
  rw [hcode, liteRefusals]
  cases htx : stream.liteTxMulticast with
  | true =>
      have hall : (plan.order.zipIdx 0).filterMap (fun p =>
          liteRefusal (liteFailureCode cfg plan stream p.2 (rowAt stream.listeners.rows p.1))
            (rowAt stream.listeners.rows p.1)) = _ :=
        List.filterMap_zipIdx_split (fun _ => none)
          (fun j => liteRefusal
            (if stream.liteMulticastAdmitted then noFailure else insufficientBandwidth)
            (rowAt stream.listeners.rows j))
          0 plan.order 0 (fun _ _ _ hk => absurd hk (Nat.not_lt_zero _))
          (by simp [liteFailureCode, htx])
      simpa using hall
  | false =>
      simp only [Bool.false_eq_true, if_false]
      apply List.filterMap_zipIdx_split
      · intro j k _ hk
        have hk : ¬ cfg.unicastFanout ≤ k := by omega
        simp [liteFailureCode, htx, hk]
      · intro j k hk
        have hk : cfg.unicastFanout ≤ k := by omega
        simp [liteFailureCode, htx, hk]

/-- What a pass does for the line of a stream. `planned` is the stream as the pass planned it. -/
structure LineServed (cfg : LiteConfig) (env : LiteEnv) (before after : LiteState)
    (u : Fin avbMaxNumOutputStreams) (plan : LitePlan) (planned : AvbTalkerStream) : Prop where
  line : LineWell env.nowUs (before.talker.outputStreams u).listeners plan.order
  multicast : (after.talker.outputStreams u).streaming → planned.liteTxMulticast →
    (after.talker.outputStreams u).txDa = [] ∧ planned.liteMulticastAdmitted
  unicast : (after.talker.outputStreams u).streaming → planned.liteTxMulticast = false →
    (after.talker.outputStreams u).txDa ≠ [] ∧ (after.talker.outputStreams u).txDa =
      ((plan.order.take cfg.unicastFanout).filter fun j =>
        (rowAt planned.listeners.rows j).liteAdmitted && (rowAt planned.listeners.rows j).ready).map
        fun j => (rowAt planned.listeners.rows j).macAddr
  refused : after.refusals u = liteRefusals cfg plan planned

/-- In any run, a pass in AVB Lite puts the listeners of every stream in the order they first asked
in, sends to those at the head of the line that are ready and have a place in the budget, in that
order, and refuses the others that cannot be served, each with its reason. -/
theorem lite_line_served (cfg : LiteConfig) (env : LiteEnv) (start : LiteState)
    (hboot : LiteBoot start) (events : List LiteEvent)
    (hleft : Machine.RunMeets (fun s _ => StampsLeft s) (liteStep cfg) start
      (events ++ [.pass env]))
    (htalker : cfg.talker = true) (hport : cfg.wifiPort = false)
    (hlite : (Machine.run (liteStep cfg) start events).talker.avbLite = true)
    (u : Fin avbMaxNumOutputStreams) (hu : u ∈ cfg.streams) :
    let before := Machine.run (liteStep cfg) start events
    ∃ plan, (litePlanned cfg env before).plans u = some plan ∧
      LineServed cfg env before (Machine.run (liteStep cfg) start (events ++ [.pass env])) u plan
        ((litePlanned cfg env before).streams u) := by
  intro before
  have hafter : Machine.run (liteStep cfg) start (events ++ [.pass env]) =
      avbLiteUpdateStreamTxAddrs cfg env before := by
    rw [Machine.run_append]
    rfl
  have hplanned : litePlanned cfg env before =
      avbLiteAdmitCopies cfg env (litePlanAll cfg env before) := by
    simp [litePlanned, before, hlite, hport]
  obtain ⟨plan, hplan, -, hline⟩ := (litePlanAll_spec cfg env
    (liteWell_run hboot hleft.of_append_left) hleft.of_append.1).behind u hu
  have hplan : (litePlanned cfg env before).plans u = some plan := hplanned ▸ hplan
  obtain ⟨hserved, hrefused⟩ := (pass_done env before htalker).served u hu plan hplan
  rw [hafter]
  refine ⟨plan, hplan, hline, ?_, ?_, hrefused.trans (liteRefusedOf_eq plan _)⟩
  · intro hstreaming htx
    have hserving := hserved.serving hstreaming
    simp only [liteServing, htx, if_true, Bool.and_eq_true] at hserving
    rw [hserved.published hstreaming]
    exact ⟨by simp [liteDas, htx], hserving.1⟩
  · intro hstreaming htx
    have hserving := hserved.serving hstreaming
    simp only [liteServing, htx, Bool.false_eq_true, if_false, Bool.not_eq_true',
      List.isEmpty_eq_false_iff] at hserving
    rw [hserved.published hstreaming]
    exact ⟨hserving, liteDas_eq plan htx⟩

theorem lite_line_served_slow :
    let before := Machine.run (liteStep plainLite) .blank threeReady
    let after := Machine.run (liteStep plainLite) .blank (threeReady ++ [.pass slowLink])
    (after.talker.outputStreams ⟨0, Nat.two_pos⟩).txDa = [.ofNat 6 0x020000000003] ∧
      after.refusals ⟨0, Nat.two_pos⟩ =
        [(.ofNat 6 0x020000000001, insufficientBandwidth),
          (.ofNat 6 0x020000000002, insufficientBridgeResources)] ∧
      ∃ plan, (litePlanned plainLite slowLink before).plans ⟨0, Nat.two_pos⟩ = some plan ∧
        LineServed plainLite slowLink before after ⟨0, Nat.two_pos⟩ plan
          ((litePlanned plainLite slowLink before).streams ⟨0, Nat.two_pos⟩) :=
  ⟨by decide +kernel, by decide +kernel,
    lite_line_served plainLite slowLink .blank liteBoot_blank threeReady
      (by decide +kernel) rfl rfl (by decide +kernel) ⟨0, Nat.two_pos⟩ (by decide +kernel)⟩

end EspAvb
