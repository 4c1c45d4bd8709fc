import EspAvb.Lib.InsertBack
import EspAvb.LiteTransport

/-!
# Listeners in line

A transport pass in AVB Lite lines the listeners of every stream up before it decides anything: the
rows that ask are stamped in the order they first did, and the line is in the order of the stamps.
Frames go to the multicast address only while it is declared and somebody is in line.
-/

namespace EspAvb

variable {cfg : LiteConfig} {env : LiteEnv} {nowUs : Nat}

/-! ### The line -/

theorem liteInsert_eq (rows : List TalkerListener) :
    liteInsert rows = InsertBack.insert fun j => (rowAt rows j).liteOrder.toNat := by
  funext order j
  rfl

/-- The line of a stream has the rows that ask, each once. -/
theorem liteOrder_perm (nowUs : Nat) (rows : List TalkerListener) :
    (liteOrder nowUs rows).Perm
      ((List.range rows.length).filter fun j => (rowAt rows j).asks nowUs) := by
  rw [liteOrder, liteInsert_eq]
  exact InsertBack.sort_perm _ _

theorem liteOrder_sorted (nowUs : Nat) (rows : List TalkerListener) :
    (liteOrder nowUs rows).Pairwise fun i j =>
      (rowAt rows i).liteOrder.toNat ≤ (rowAt rows j).liteOrder.toNat := by
  rw [liteOrder, liteInsert_eq]
  exact InsertBack.sort_sorted _ _

theorem liteOrder_nodup (nowUs : Nat) (rows : List TalkerListener) :
    (liteOrder nowUs rows).Nodup :=
  (liteOrder_perm nowUs rows).nodup_iff.mpr (List.nodup_range.filter _)

theorem mem_liteOrder {rows : List TalkerListener} {j : Nat} :
    j ∈ liteOrder nowUs rows ↔ j < rows.length ∧ (rowAt rows j).asks nowUs = true := by
  rw [(liteOrder_perm nowUs rows).mem_iff, List.mem_filter, List.mem_range]

/-- No row has a later place than the last one given out. -/
def StampsUpTo (seq : UInt32) (rows : List TalkerListener) : Prop :=
  ∀ row ∈ rows, row.liteOrder.toNat ≤ seq.toNat

theorem StampsUpTo.rowAt {seq : UInt32} {rows : List TalkerListener} (h : StampsUpTo seq rows)
    (j : Nat) : (EspAvb.rowAt rows j).liteOrder.toNat ≤ seq.toNat := by
  unfold EspAvb.rowAt
  cases hj : rows[j]? with
  | none => exact Nat.zero_le _
  | some row => exact h row (List.mem_of_getElem? hj)

/-- What the stamping makes of a row. -/
inductive Stamped (nowUs : Nat) (seq last : UInt32) (row : TalkerListener) : TalkerListener → Prop
  | leaves (h : row.asks nowUs = false) : Stamped nowUs seq last row row.leaveLine
  | joins (h : row.asks nowUs = true) (hnone : row.liteOrder = 0) {stamp : UInt32}
      (hlate : seq.toNat < stamp.toNat) (hle : stamp.toNat ≤ last.toNat) :
      Stamped nowUs seq last row { row with liteOrder := stamp }
  | stays (h : row.asks nowUs = true) (hplace : row.liteOrder ≠ 0) : Stamped nowUs seq last row row

theorem Stamped.mono {seq seq' last last' : UInt32} {row row' : TalkerListener}
    (h : Stamped nowUs seq' last row row') (hseq : seq.toNat ≤ seq'.toNat)
    (hlast : last.toNat ≤ last'.toNat) : Stamped nowUs seq last' row row' := by
  cases h with
  | leaves h => exact .leaves h
  | joins h hnone hlate hle => exact .joins h hnone (hseq.trans_lt hlate) (hle.trans hlast)
  | stays h hplace => exact .stays h hplace

variable (nowUs) in
theorem liteStampRows_spec {seq : UInt32} {rows : List TalkerListener}
    (hroom : seq.toNat + rows.length < 2 ^ 32) :
    let stamped := liteStampRows nowUs seq rows
    seq.toNat ≤ stamped.1.toNat ∧ stamped.1.toNat ≤ seq.toNat + rows.length ∧
      List.Forall₂ (Stamped nowUs seq stamped.1) rows stamped.2 := by
  induction rows generalizing seq with
  | nil => exact ⟨le_refl _, le_refl _, .nil⟩
  | cons row rows ih =>
      rw [List.length_cons] at hroom ⊢
      simp only [liteStampRows]
      by_cases hasks : row.asks nowUs = true
      · by_cases hnone : row.liteOrder = 0
        · have hnext : (seq + 1).toNat = seq.toNat + 1 := by
            rw [UInt32.toNat_add]
            exact Nat.mod_eq_of_lt (by simp; omega)
          obtain ⟨hge, hle, hrest⟩ := @ih (seq + 1) (by omega)
          simp only [hasks, hnone, Bool.not_true, Bool.false_eq_true, if_false, if_true]
          refine ⟨by omega, by omega, .cons (.joins hasks hnone (by omega) hge) ?_⟩
          exact hrest.imp fun _ _ h => h.mono (by omega) le_rfl
        · obtain ⟨hge, hle, hrest⟩ := @ih seq (by omega)
          simp only [hasks, hnone, Bool.not_true, Bool.false_eq_true, if_false]
          exact ⟨hge, by omega, .cons (.stays hasks hnone) hrest⟩
      · have hasks : row.asks nowUs = false := by simpa using hasks
        obtain ⟨hge, hle, hrest⟩ := @ih seq (by omega)
        simp only [hasks, Bool.not_false, if_true]
        exact ⟨hge, by omega, .cons (.leaves hasks) hrest⟩

/-- The ageing before a pass keeps the places. -/
theorem ageIdle_liteOrder {row row' : TalkerListener} (h : row.ageIdle nowUs = some row') :
    row'.liteOrder = row.liteOrder := by
  unfold TalkerListener.ageIdle at h
  split_ifs at h <;> obtain rfl := Option.some.inj h <;> rfl

theorem List.Forall₂.exists_left {α β : Type*} {r : α → β → Prop} {l : List α} {l' : List β}
    (h : List.Forall₂ r l l') {b : β} (hb : b ∈ l') : ∃ a ∈ l, r a b := by
  induction h with
  | nil => cases hb
  | cons hab _ ih =>
      rcases List.mem_cons.mp hb with rfl | hb
      · exact ⟨_, List.mem_cons_self, hab⟩
      · obtain ⟨a, ha, hr⟩ := ih hb
        exact ⟨a, List.mem_cons_of_mem _ ha, hr⟩

variable (nowUs) in
theorem liteLineUp_spec {seq : UInt32} {t : ListenerRows} (hstamps : StampsUpTo seq t.rows)
    (hroom : seq.toNat + avbMaxNumConnectedListeners < 2 ^ 32) :
    let lined := liteLineUp nowUs seq t
    seq.toNat ≤ lined.1.toNat ∧ lined.1.toNat ≤ seq.toNat + avbMaxNumConnectedListeners ∧
      List.Forall₂ (Stamped nowUs seq lined.1) (t.walkBack (TalkerListener.ageIdle nowUs)).rows
        lined.2.rows ∧
      StampsUpTo lined.1 lined.2.rows := by
  have hlen := (t.walkBack (TalkerListener.ageIdle nowUs)).length_le
  obtain ⟨hge, hle, hrows⟩ := @liteStampRows_spec nowUs seq
    (t.walkBack (TalkerListener.ageIdle nowUs)).rows (by omega)
  refine ⟨hge, hle.trans (by omega), hrows, ?_⟩
  intro row' hrow'
  obtain ⟨row, hrow, hstamped⟩ := List.Forall₂.exists_left hrows hrow'
  cases hstamped with
  | leaves h => exact Nat.zero_le _
  | joins h hnone hlate hle => exact hle
  | stays h hplace =>
      simp only [ListenerRows.walkBack, WalkBack.walk_eq_filterMap, List.mem_filterMap] at hrow
      obtain ⟨old, hold, hage⟩ := hrow
      rw [ageIdle_liteOrder hage]
      exact (hstamps old hold).trans hge

/-! ### Planning -/

theorem liteMoveFrames_tx (nowUs : Nat) (stream : AvbTalkerStream) :
    (liteMoveFrames nowUs stream).liteDeclaredMulticast = stream.liteDeclaredMulticast ∧
      ((liteMoveFrames nowUs stream).liteTxMulticast →
        stream.liteTxMulticast ∨ stream.liteDeclaredMulticast) := by
  unfold liteMoveFrames
  split_ifs with hmove
  · simp only [Bool.and_eq_true] at hmove
    exact ⟨rfl, fun _ => Or.inr hmove.1.1⟩
  · exact ⟨rfl, Or.inl⟩

theorem liteEscalate_wants (nowUs : Nat) (wantMulticast : Bool) {stream : AvbTalkerStream}
    (hstream : stream.liteTxMulticast → stream.liteDeclaredMulticast) :
    let escalated := liteEscalate nowUs wantMulticast stream
    (escalated.liteTxMulticast → escalated.liteDeclaredMulticast) ∧
      (escalated.liteDeclaredMulticast → wantMulticast) := by
  unfold liteEscalate
  cases wantMulticast <;> cases hdeclared : stream.liteDeclaredMulticast <;>
    simp_all

theorem liteEscalate_format (wantMulticast : Bool) (stream : AvbTalkerStream) :
    (liteEscalate nowUs wantMulticast stream).streamFormat = stream.streamFormat ∧
      (liteEscalate nowUs wantMulticast stream).classB = stream.classB := by
  unfold liteEscalate
  split_ifs <;> exact ⟨rfl, rfl⟩

theorem liteMoveFrames_format (stream : AvbTalkerStream) :
    (liteMoveFrames nowUs stream).streamFormat = stream.streamFormat ∧
      (liteMoveFrames nowUs stream).classB = stream.classB := by
  unfold liteMoveFrames
  split_ifs <;> exact ⟨rfl, rfl⟩

theorem avbStreamOutCopyBps_congr {stream stream' : AvbTalkerStream}
    (hformat : stream'.streamFormat = stream.streamFormat)
    (hclass : stream'.classB = stream.classB) :
    avbStreamOutCopyBps cfg stream' = avbStreamOutCopyBps cfg stream := by
  simp [avbStreamOutCopyBps, avbComputeTspecMaxFrameSize, avbComputeTspecMaxIntervalFrames, hformat,
    hclass]

theorem rowAt_mapIdx {t : ListenerRows} {f : Nat → TalkerListener → TalkerListener} {j : Nat}
    (hj : j < t.rows.length) : rowAt (t.mapIdx f).rows j = f j (rowAt t.rows j) := by
  simp [rowAt, ListenerRows.mapIdx, hj]

/-- Rows changed in place, but not their places. -/
theorem rowAt_mapIdx_liteOrder {t : ListenerRows} {f : Nat → TalkerListener → TalkerListener}
    (hf : ∀ j row, (f j row).liteOrder = row.liteOrder) (j : Nat) :
    (rowAt (t.mapIdx f).rows j).liteOrder = (rowAt t.rows j).liteOrder := by
  unfold rowAt ListenerRows.mapIdx
  rw [List.getElem?_mapIdx]
  cases t.rows[j]? with
  | none => rfl
  | some row => exact hf j row

theorem StampsUpTo.mapIdx {seq : UInt32} {t : ListenerRows}
    {f : Nat → TalkerListener → TalkerListener} (h : StampsUpTo seq t.rows)
    (hf : ∀ j row, (f j row).liteOrder = row.liteOrder) : StampsUpTo seq (t.mapIdx f).rows := by
  intro row' hrow'
  obtain ⟨j, hj, rfl⟩ := List.mem_mapIdx.mp hrow'
  rw [hf]
  exact h _ (List.getElem_mem _)

/-- What holds of a stream between two passes: a later place than the last one given is not in use,
and frames go to the multicast address only while it is declared. -/
structure StreamWell (seq : UInt32) (stream : AvbTalkerStream) : Prop where
  stamps : StampsUpTo seq stream.listeners.rows
  escalated : stream.liteTxMulticast → stream.liteDeclaredMulticast

theorem StampsUpTo.mono {seq seq' : UInt32} {rows : List TalkerListener}
    (h : StampsUpTo seq rows) (hle : seq.toNat ≤ seq'.toNat) : StampsUpTo seq' rows :=
  fun row hrow => (h row hrow).trans hle

theorem StreamWell.mono {seq seq' : UInt32} {stream : AvbTalkerStream}
    (h : StreamWell seq stream) (hle : seq.toNat ≤ seq'.toNat) : StreamWell seq' stream :=
  ⟨h.stamps.mono hle, h.escalated⟩

/-- What a plan and the stream it is of come to. -/
structure PlanWell (cfg : LiteConfig) (stream : AvbTalkerStream) (plan : LitePlan) : Prop where
  nodup : plan.order.Nodup
  inRows : ∀ j ∈ plan.order, j < stream.listeners.rows.length
  sorted : plan.order.Pairwise fun i j =>
    (rowAt stream.listeners.rows i).liteOrder.toNat ≤
      (rowAt stream.listeners.rows j).liteOrder.toNat
  escalated : stream.liteTxMulticast → 0 < plan.readyCandidates
  ready : plan.readyCandidates ≤ plan.order.length
  cost : plan.copyBps = avbStreamOutCopyBps cfg stream

/-- A line is of the rows that ask and have not fallen silent, and nobody is overtaken: whoever is
in front of a row with a place had one no later. -/
structure LineWell (nowUs : Nat) (t : ListenerRows) (order : List Nat) : Prop where
  members : ∀ j, j ∈ order ↔
    j < (t.walkBack (TalkerListener.ageIdle nowUs)).rows.length ∧
      (rowAt (t.walkBack (TalkerListener.ageIdle nowUs)).rows j).asks nowUs = true
  inFront : order.Pairwise fun i j =>
    (rowAt (t.walkBack (TalkerListener.ageIdle nowUs)).rows j).liteOrder ≠ 0 →
      (rowAt (t.walkBack (TalkerListener.ageIdle nowUs)).rows i).liteOrder ≠ 0 ∧
        (rowAt (t.walkBack (TalkerListener.ageIdle nowUs)).rows i).liteOrder.toNat ≤
          (rowAt (t.walkBack (TalkerListener.ageIdle nowUs)).rows j).liteOrder.toNat

theorem TalkerListener.leaveLine_asks {row : TalkerListener} (h : row.asks nowUs = false) :
    row.leaveLine.asks nowUs = false := by
  simp only [asks, leaveLine, ready, holding] at h ⊢
  cases hmac : row.macAddr != .zero 6 <;> simp_all

theorem Stamped.asks {seq last : UInt32} {row row' : TalkerListener}
    (h : Stamped nowUs seq last row row') : row'.asks nowUs = row.asks nowUs := by
  cases h with
  | leaves h => rw [TalkerListener.leaveLine_asks h, h]
  | joins h hnone hlate hle => rfl
  | stays h hplace => rfl

/-- A row that asks keeps the place it has, or gets one behind all others. -/
theorem Stamped.place {seq last : UInt32} {row row' : TalkerListener}
    (h : Stamped nowUs seq last row row') (hasks : row.asks nowUs = true) :
    row.liteOrder ≠ 0 ∧ row'.liteOrder = row.liteOrder ∨
      row.liteOrder = 0 ∧ seq.toNat < row'.liteOrder.toNat := by
  cases h with
  | leaves h => simp [h] at hasks
  | joins h hnone hlate hle => exact Or.inr ⟨hnone, hlate⟩
  | stays h hplace => exact Or.inl ⟨hplace, rfl⟩

theorem liteLineUp_line {seq : UInt32} {t : ListenerRows} (hstamps : StampsUpTo seq t.rows)
    (hroom : seq.toNat + avbMaxNumConnectedListeners < 2 ^ 32) :
    LineWell nowUs t (liteOrder nowUs (liteLineUp nowUs seq t).2.rows) := by
  obtain ⟨-, -, hrows, -⟩ := liteLineUp_spec nowUs hstamps hroom
  set aged := (t.walkBack (TalkerListener.ageIdle nowUs)).rows with haged
  set lined := (liteLineUp nowUs seq t).2.rows
  have hat : ∀ j, j < aged.length →
      Stamped nowUs seq (liteLineUp nowUs seq t).1 (rowAt aged j) (rowAt lined j) := by
    intro j hj
    have hj' : j < lined.length := hrows.length_eq ▸ hj
    simpa [rowAt, hj, hj'] using hrows.get hj hj'
  have hold : ∀ j, (rowAt aged j).liteOrder.toNat ≤ seq.toNat := by
    apply StampsUpTo.rowAt
    intro row hrow
    simp only [haged, ListenerRows.walkBack, WalkBack.walk_eq_filterMap, List.mem_filterMap] at hrow
    obtain ⟨old, hmem, hage⟩ := hrow
    rw [ageIdle_liteOrder hage]
    exact hstamps old hmem
  have hmembers : ∀ j, j ∈ liteOrder nowUs lined ↔
      j < aged.length ∧ (rowAt aged j).asks nowUs = true := by
    intro j
    rw [mem_liteOrder, ← hrows.length_eq]
    refine and_congr_right fun hj => ?_
    rw [(hat j hj).asks]
  refine ⟨hmembers, ?_⟩
  refine (liteOrder_sorted nowUs lined).imp_of_mem ?_
  intro i j hi hj hle hplace
  obtain ⟨hi, hasksi⟩ := (hmembers i).mp hi
  obtain ⟨hj, hasksj⟩ := (hmembers j).mp hj
  have hstays : (rowAt lined j).liteOrder = (rowAt aged j).liteOrder := by
    rcases (hat j hj).place hasksj with ⟨-, hstays⟩ | ⟨hnone, -⟩
    · exact hstays
    · exact absurd hnone hplace
  rw [hstays] at hle
  rcases (hat i hi).place hasksi with ⟨hplace', hstays'⟩ | ⟨-, hlate⟩
  · exact ⟨hplace', hstays' ▸ hle⟩
  · -- a newcomer is behind everybody
    have := hold j
    omega

/-- How the flags of the multicast address may change at a time: it is declared a JoinTime before
frames may move to it, and they move only once that time is there. -/
structure EscalationStep (nowUs : Nat) (before after : AvbTalkerStream) : Prop where
  streamId : after.streamId = before.streamId
  destAddr : after.streamDestAddr = before.streamDestAddr
  begins : before.liteDeclaredMulticast = false → after.liteDeclaredMulticast →
    after.liteMulticastTxAtUs = nowUs + avbLiteJoinTimeUs ∧ after.liteTxMulticast = false
  stays : before.liteDeclaredMulticast → after.liteDeclaredMulticast →
    after.liteMulticastTxAtUs = before.liteMulticastTxAtUs ∧
      (after.liteTxMulticast → before.liteTxMulticast ∨ before.liteMulticastTxAtUs ≤ nowUs)

theorem EscalationStep.refl (nowUs : Nat) (stream : AvbTalkerStream) :
    EscalationStep nowUs stream stream := by
  refine ⟨rfl, rfl, ?_, fun _ _ => ⟨rfl, Or.inl⟩⟩
  intro hbefore hafter
  simp [hbefore] at hafter

/-- Frames do not move in the pass that declares the multicast address. -/
theorem escalates (nowUs : Nat) (wantMulticast : Bool) {stream : AvbTalkerStream}
    (hstream : stream.liteTxMulticast → stream.liteDeclaredMulticast) :
    EscalationStep nowUs stream
      (liteMoveFrames nowUs (liteEscalate nowUs wantMulticast stream)) := by
  unfold liteEscalate
  split_ifs with hbegin hend
  · simp only [Bool.and_eq_true, Bool.not_eq_true'] at hbegin
    have htx : stream.liteTxMulticast = false := by
      cases htx : stream.liteTxMulticast with
      | false => rfl
      | true => exact absurd (hstream htx) (by simp [hbegin.2])
    -- the JoinTime is still ahead
    have hwaits : ¬ nowUs + avbLiteJoinTimeUs ≤ nowUs := by simp [avbLiteJoinTimeUs]
    simp only [liteMoveFrames, htx, hwaits, decide_false, Bool.and_false, Bool.false_eq_true,
      if_false]
    exact ⟨rfl, rfl, fun _ _ => ⟨rfl, rfl⟩, fun hbefore => absurd hbefore (by simp [hbegin.2])⟩
  · simp only [liteMoveFrames, Bool.false_and, Bool.false_eq_true, if_false]
    exact ⟨rfl, rfl, by simp, by simp⟩
  · unfold liteMoveFrames
    split_ifs with hmove
    · simp only [Bool.and_eq_true, decide_eq_true_eq] at hmove
      refine ⟨rfl, rfl, ?_, fun _ _ => ⟨rfl, fun _ => Or.inr hmove.2⟩⟩
      intro hbefore
      exact absurd hmove.1.1 (by simp [hbefore])
    · exact .refl nowUs stream

variable (cfg env) in
theorem avbLitePlanStream_spec {seq : UInt32} {stream : AvbTalkerStream}
    (hstream : StreamWell seq stream) (hroom : seq.toNat + avbMaxNumConnectedListeners < 2 ^ 32) :
    let r := avbLitePlanStream cfg env seq stream
    seq.toNat ≤ r.1.toNat ∧ r.1.toNat ≤ seq.toNat + avbMaxNumConnectedListeners ∧
      StreamWell r.1 r.2.1 ∧ PlanWell cfg r.2.1 r.2.2 ∧
      LineWell env.nowUs stream.listeners r.2.2.order ∧ EscalationStep env.nowUs stream r.2.1 := by
  obtain ⟨hge, hle, -, hstamps⟩ := liteLineUp_spec env.nowUs hstream.stamps hroom
  set lined := liteLineUp env.nowUs seq stream.listeners with hlined
  set order := liteOrder env.nowUs lined.2.rows with horder
  set wantMulticast : Bool := liteEscalationAllowed cfg env stream &&
    decide (cfg.unicastFanout < order.countP fun j => (rowAt lined.2.rows j).ready) with hwant
  set escalated := liteEscalate env.nowUs wantMulticast stream with hescalated
  obtain ⟨htxEscalated, hwants⟩ :=
    liteEscalate_wants env.nowUs wantMulticast hstream.escalated
  obtain ⟨hdeclared, htxMoved⟩ := liteMoveFrames_tx env.nowUs escalated
  have htx : (liteMoveFrames env.nowUs escalated).liteTxMulticast →
      escalated.liteDeclaredMulticast := by
    intro h
    rcases htxMoved h with htx | hdeclared
    · exact htxEscalated htx
    · exact hdeclared
  have hrow : ∀ (unadmitted : List Nat) (j : Nat) (row : TalkerListener),
      (if j ∈ unadmitted then { row with liteAdmitted := false } else row).liteOrder =
        row.liteOrder := by
    intro unadmitted j row
    split_ifs <;> rfl
  have hstep := escalates env.nowUs wantMulticast hstream.escalated
  refine ⟨hge, hle, ⟨?_, ?_⟩, ⟨?_, ?_, ?_, ?_, ?_, ?_⟩, liteLineUp_line hstream.stamps hroom,
    ⟨hstep.streamId, hstep.destAddr, hstep.begins, hstep.stays⟩⟩
  · exact StampsUpTo.mapIdx (t := lined.2) hstamps (hrow _)
  · intro h
    exact hdeclared.trans (htx h)
  · exact liteOrder_nodup _ _
  · intro j hj
    have hj := (mem_liteOrder.mp hj).1
    simpa [avbLitePlanStream, liteOneKind, ListenerRows.mapIdx] using hj
  · refine (liteOrder_sorted env.nowUs lined.2.rows).imp ?_
    intro i j hij
    have hplace : ∀ k, (rowAt (lined.2.mapIdx fun j row =>
        if j ∈ (if (liteMoveFrames env.nowUs escalated).liteTxMulticast then order
          else order.drop cfg.unicastFanout) then { row with liteAdmitted := false }
        else row).rows k).liteOrder = (rowAt lined.2.rows k).liteOrder :=
      rowAt_mapIdx_liteOrder (hrow _)
    exact (hplace i).symm ▸ (hplace j).symm ▸ hij
  · intro h
    have hwanted := hwants (htx h)
    rw [hwant, Bool.and_eq_true, decide_eq_true_eq] at hwanted
    exact (Nat.zero_le _).trans_lt hwanted.2
  · exact List.countP_le_length
  · apply (avbStreamOutCopyBps_congr ?_ ?_).symm
    · exact (liteMoveFrames_format _).1.trans (liteEscalate_format _ _).1
    · exact (liteMoveFrames_format _).2.trans (liteEscalate_format _ _).2

/-- How far the planning has come: the streams behind are planned, those ahead are as they were. -/
structure PlannedUpTo (cfg : LiteConfig) (env : LiteEnv) (s : LiteState)
    (done : List (Fin avbMaxNumOutputStreams)) (p : LitePlanning) : Prop where
  seq_ge : s.liteOrderSeq.toNat ≤ p.seq.toNat
  seq_le : p.seq.toNat ≤ s.liteOrderSeq.toNat + done.length * avbMaxNumConnectedListeners
  stream : ∀ u, StreamWell p.seq (p.streams u)
  behind : ∀ u ∈ done, ∃ plan, p.plans u = some plan ∧ PlanWell cfg (p.streams u) plan ∧
    LineWell env.nowUs (s.talker.outputStreams u).listeners plan.order
  escalation : ∀ u, EscalationStep env.nowUs (s.talker.outputStreams u) (p.streams u)
  ahead : ∀ u ∉ done, p.streams u = s.talker.outputStreams u ∧ p.plans u = none

/-- A talker whose streams are well. -/
def LiteWell (s : LiteState) : Prop :=
  ∀ u, StreamWell s.liteOrderSeq (s.talker.outputStreams u)

/-- The stamps a pass may give out are there before the counter is at its end. -/
def StampsLeft (s : LiteState) : Prop :=
  s.liteOrderSeq.toNat + avbMaxNumOutputStreams * avbMaxNumConnectedListeners < uint32Max

theorem PlannedUpTo.next {s : LiteState} {done : List (Fin avbMaxNumOutputStreams)}
    {p : LitePlanning} (h : PlannedUpTo cfg env s done p) (hleft : StampsLeft s)
    {u : Fin avbMaxNumOutputStreams} (hu : u ∉ done) (hlen : done.length < avbMaxNumOutputStreams) :
    PlannedUpTo cfg env s (done ++ [u]) (litePlanNext cfg env p u) := by
  have hroom : p.seq.toNat + avbMaxNumConnectedListeners < 2 ^ 32 := by
    have hle := h.seq_le
    simp only [StampsLeft, uint32Max, avbMaxNumOutputStreams, avbMaxNumConnectedListeners] at *
    omega
  obtain ⟨hge, hle, hstream, hplan, hline, hstep⟩ :=
    avbLitePlanStream_spec cfg env (h.stream u) hroom
  refine ⟨h.seq_ge.trans hge, ?_, ?_, ?_, ?_, ?_⟩
  · rw [List.length_append, List.length_singleton, Nat.succ_mul]
    exact (hle.trans (Nat.add_le_add_right h.seq_le _)).trans_eq (Nat.add_assoc _ _ _)
  · intro v
    by_cases hv : v = u
    · subst hv
      simpa [litePlanNext] using hstream
    · simpa [litePlanNext, Function.update_of_ne hv] using (h.stream v).mono hge
  · intro v hv
    by_cases hvu : v = u
    · subst hvu
      refine ⟨(avbLitePlanStream cfg env p.seq (p.streams v)).2.2, ?_, ?_, ?_⟩
      · simp [litePlanNext]
      · simpa [litePlanNext] using hplan
      · rwa [(h.ahead v hu).1] at hline ⊢
    · have hmem : v ∈ done := by simpa [hvu] using hv
      simpa [litePlanNext, Function.update_of_ne hvu] using h.behind v hmem
  · intro v
    by_cases hvu : v = u
    · subst hvu
      rw [← (h.ahead v hu).1]
      simpa [litePlanNext] using hstep
    · simpa [litePlanNext, Function.update_of_ne hvu] using h.escalation v
  · intro v hv
    have hvu : v ≠ u := by
      rintro rfl
      simp at hv
    have hnot : v ∉ done := fun hmem => hv (List.mem_append_left _ hmem)
    simpa [litePlanNext, Function.update_of_ne hvu] using h.ahead v hnot

theorem LiteConfig.streams_nodup (cfg : LiteConfig) : cfg.streams.Nodup :=
  (List.nodup_finRange _).filter _

variable (cfg env) in
/-- Every stream in use is planned. -/
theorem litePlanAll_spec {s : LiteState} (hwell : LiteWell s) (hleft : StampsLeft s) :
    PlannedUpTo cfg env s cfg.streams (litePlanAll cfg env s) := by
  have hfold : ∀ (rest done : List (Fin avbMaxNumOutputStreams)) (p : LitePlanning),
      (done ++ rest).Nodup → PlannedUpTo cfg env s done p →
        PlannedUpTo cfg env s (done ++ rest) (rest.foldl (litePlanNext cfg env) p) := by
    intro rest
    induction rest with
    | nil =>
        intro done p _ h
        simpa using h
    | cons u rest ih =>
        intro done p hnodup h
        have hu : u ∉ done := by
          intro hmem
          exact (List.disjoint_of_nodup_append hnodup) hmem List.mem_cons_self
        have hlen : done.length < avbMaxNumOutputStreams := by
          have hle := hnodup.length_le_card
          rw [List.length_append, List.length_cons, Fintype.card_fin] at hle
          omega
        rw [List.append_cons] at hnodup ⊢
        exact ih (done ++ [u]) _ hnodup (h.next hleft hu hlen)
  refine hfold cfg.streams [] _ cfg.streams_nodup ⟨le_rfl, ?_, hwell, ?_, ?_, ?_⟩
  · simp
  · simp
  · exact fun u => .refl _ _
  · intro u _
    exact ⟨rfl, rfl⟩

end EspAvb
