import EspAvb.Proof.RunState
import EspAvb.TalkerRows

/-!
# Who is in a talker's rows

Every event edits the rows of one stream by finding or making a row, writing it, or walking the table.
The array under the rows follows each of these, so that what lies behind the rows stays zero; a new
identity is only ever written where no row carries it; and a row that ACMP holds is never taken for
another listener, which is what keeps the class and makes a repeated CONNECT_TX quiet. DISCONNECT_TX
falls back on the entity alone and looks at less.
-/

namespace EspAvb

variable {cfg : TalkerConfig} {env : TalkerEnv} {s : TalkerState} {u : Fin avbMaxNumOutputStreams}
variable {t : ListenerRows}

/-! ### The array holds the rows -/

namespace ConnectedListeners

variable {c : ConnectedListeners} {l : List TalkerListener} {i : Nat}

/-- The first slots are the rows, every other slot is zero. -/
structure Holds (c : ConnectedListeners) (l : List TalkerListener) : Prop where
  slots : c.slots = PackedArray.pack .zero avbMaxNumConnectedListeners l
  connectionCount : c.connectionCount = l.length
  length_le : l.length ≤ avbMaxNumConnectedListeners

/-- An entry of the array beside the same entry of the rows. -/
def HoldsAt (p : Nat × ConnectedListeners) (q : Nat × ListenerRows) : Prop :=
  p.1 = q.1 ∧ p.2.Holds q.2.rows ∧ q.1 < q.2.rows.length

theorem exists_of_rel_some {p : Option (Nat × ConnectedListeners)} {q : Nat × ListenerRows}
    (h : Option.Rel HoldsAt p (some q)) : ∃ a, p = some a ∧ HoldsAt a q := by
  cases h with
  | some hab => exact ⟨_, rfl, hab⟩

@[simp]
theorem modify_slots (f : TalkerListener → TalkerListener) :
    (c.modify i f).slots = c.slots.modify i f := rfl

theorem remove_slots (hi : i < c.count) :
    (c.remove i).slots =
      (PackedArray.shiftDown .zero i (c.count - 1 - i) c.slots).set (c.count - 1) .zero := by
  rw [remove, if_neg (Nat.not_le.mpr hi)]

theorem remove_connectionCount (hi : i < c.count) :
    (c.remove i).connectionCount = c.count - 1 := by
  rw [remove, if_neg (Nat.not_le.mpr hi)]

namespace Holds

theorem empty : ConnectedListeners.empty.Holds [] := ⟨rfl, rfl, Nat.zero_le _⟩

theorem inUse (h : c.Holds l) : c.inUse = l := by
  rw [ConnectedListeners.inUse, h.slots, h.connectionCount, PackedArray.take_pack]

theorem count (h : c.Holds l) : c.count = l.length := by
  rw [ConnectedListeners.count, h.connectionCount, min_eq_left h.length_le]

theorem row (h : c.Holds l) (i : Nat) : c.row i = l.getD i .zero := by
  rw [ConnectedListeners.row, h.slots, PackedArray.getD_pack]

theorem row_eq (h : c.Holds l) (hi : i < l.length) : c.row i = l[i] := by
  rw [h.row, List.getD_eq_getElem l .zero hi]

/-- The rows at and beyond `connection_count` are zero. -/
theorem zero_beyond (h : c.Holds l) (hi : c.connectionCount ≤ i) : c.row i = .zero := by
  rw [h.connectionCount] at hi
  rw [h.row, List.getD_eq_default l .zero hi]

theorem modify (h : c.Holds l) (hi : i < l.length) (f : TalkerListener → TalkerListener) :
    (c.modify i f).Holds (l.modify i f) where
  slots := by
    rw [modify_slots, h.slots]
    exact PackedArray.modify_pack f hi
  connectionCount := by simpa [ConnectedListeners.modify] using h.connectionCount
  length_le := by simpa using h.length_le

theorem remove (h : c.Holds l) (hi : i < l.length) : (c.remove i).Holds (l.eraseIdx i) := by
  have hlen := List.length_eraseIdx_of_lt hi
  have hi' : i < c.count := by rwa [h.count]
  constructor
  · rw [remove_slots hi', h.count, h.slots]
    exact PackedArray.remove_pack hi h.length_le
  · rw [remove_connectionCount hi', h.count, hlen]
  · exact (List.length_eraseIdx_le l i).trans h.length_le

theorem claim_of_lt (h : c.Holds l) (hroom : l.length < avbMaxNumConnectedListeners)
    (f : TalkerListener → TalkerListener) :
    ∃ c', c.claim f = some (l.length, c') ∧ c'.Holds (l ++ [f .zero]) := by
  have hcount : ¬avbMaxNumConnectedListeners ≤ c.connectionCount := by
    rw [h.connectionCount]
    exact Nat.not_le.mpr hroom
  rw [ConnectedListeners.claim, if_neg hcount, h.connectionCount]
  refine ⟨_, rfl, ?_, by simp, by simpa using hroom⟩
  simp only [modify_slots, h.slots]
  exact PackedArray.append_pack f hroom

theorem claim_of_full (h : c.Holds l) (hfull : ¬l.length < avbMaxNumConnectedListeners)
    (f : TalkerListener → TalkerListener) : c.claim f = none := by
  rw [ConnectedListeners.claim, h.connectionCount, if_pos (Nat.not_lt.mp hfull)]

theorem claim (h : c.Holds t.rows) (f : TalkerListener → TalkerListener) :
    Option.Rel HoldsAt (c.claim f) ((t.add (f .zero)).map fun t' => (t.rows.length, t')) := by
  unfold ListenerRows.add
  by_cases hroom : t.rows.length < avbMaxNumConnectedListeners
  · obtain ⟨c', hclaim, hc'⟩ := h.claim_of_lt hroom f
    rw [hclaim, dif_pos hroom]
    exact Option.Rel.some ⟨rfl, hc', by simp⟩
  · rw [h.claim_of_full hroom, dif_neg hroom]
    exact Option.Rel.none

/-- A new row that is written twice. -/
theorem claim_modify (h : c.Holds t.rows) (f g : TalkerListener → TalkerListener) :
    Option.Rel HoldsAt ((c.claim f).map fun (i, c) => (i, c.modify i g))
      ((t.add (g (f .zero))).map fun t' => (t.rows.length, t')) := by
  unfold ListenerRows.add
  by_cases hroom : t.rows.length < avbMaxNumConnectedListeners
  · obtain ⟨c', hclaim, hc'⟩ := h.claim_of_lt hroom f
    rw [hclaim, dif_pos hroom]
    have hlast : (t.rows ++ [f .zero]).modify t.rows.length g = t.rows ++ [g (f .zero)] := by
      simp [List.modify_eq_set_getElem?]
    refine Option.Rel.some ⟨rfl, ?_, by simp⟩
    simpa only [hlast] using hc'.modify (i := t.rows.length) (by simp) g
  · rw [h.claim_of_full hroom, dif_neg hroom]
    exact Option.Rel.none

/-! ### `mrp.c` -/

theorem findConnectedListenerByEntity (h : c.Holds t.rows) :
    c.findConnectedListenerByEntity = EspAvb.findConnectedListenerByEntity t := by
  funext entityId
  rw [ConnectedListeners.findConnectedListenerByEntity, h.inUse]
  rfl

theorem findOrAddMsrpListener (h : c.Holds t.rows) (env : TalkerEnv) (macAddr : EthAddr) :
    Option.Rel HoldsAt (c.findOrAddMsrpListener env macAddr)
      (EspAvb.findOrAddMsrpListener env t macAddr) := by
  unfold ConnectedListeners.findOrAddMsrpListener EspAvb.findOrAddMsrpListener
  rw [h.inUse]
  unfold findConnectedListener
  cases hmac : t.rows.findIdx? (·.macAddr == macAddr) with
  | some i => exact Option.Rel.some ⟨rfl, h, List.findIdx?_lt hmac⟩
  | none =>
      dsimp only
      rw [h.findConnectedListenerByEntity]
      generalize (env.listeners.filter (·.1 == macAddr)).map (·.2) = entities
      cases hentity : entities.findSome? (EspAvb.findConnectedListenerByEntity t) with
      | some i =>
          obtain ⟨entityId, -, hfind⟩ := List.exists_of_findSome?_eq_some hentity
          have hi := findConnectedListenerByEntity_lt hfind
          exact Option.Rel.some ⟨rfl, h.modify hi _, by simpa [ListenerRows.modify] using hi⟩
      | none =>
          rcases entities with _ | ⟨entityId, _ | _⟩
          · simpa [addConnectedListener, TalkerListener.zero] using h.claim fun row => { row with macAddr }
          · exact h.claim_modify (fun row => { row with macAddr })
              fun row => { row with identityId := entityId, identityUid := 0 }
          · simpa [addConnectedListener, TalkerListener.zero] using h.claim fun row => { row with macAddr }

/-- The row found or made is written on both sides. -/
theorem modifyAt {p : Option (Nat × ConnectedListeners)} {q : Option (Nat × ListenerRows)}
    (hpq : Option.Rel HoldsAt p q) (f : TalkerListener → TalkerListener) :
    Option.Rel HoldsAt (p.map fun (i, c) => (i, c.modify i f))
      (q.map fun (i, t) => (i, t.modify i f)) := by
  cases hpq with
  | none => exact Option.Rel.none
  | @some a b hab =>
      obtain ⟨i, c'⟩ := a
      obtain ⟨j, t'⟩ := b
      obtain ⟨rfl, hholds, hi⟩ := hab
      exact Option.Rel.some ⟨rfl, hholds.modify hi f, by simpa [ListenerRows.modify] using hi⟩

theorem dropReadiness (h : c.Holds l) (hi : i < l.length) :
    (c.dropReadiness i).Holds ((ageOutRow l[i]).elim (l.eraseIdx i) (l.set i)) := by
  have hcleared := h.modify hi fun row => { row with msrpReady := false, askingFailed := false }
  have hi' : i < (l.modify i fun row =>
      { row with msrpReady := false, askingFailed := false }).length := by simpa using hi
  unfold ConnectedListeners.dropReadiness ageOutRow
  dsimp only
  rw [hcleared.row_eq hi', List.getElem_modify, if_pos rfl]
  split_ifs with hacmp
  · rw [Option.elim_some]
    rw [List.modify_eq_set_getElem?, List.getElem?_eq_getElem hi] at hcleared
    exact hcleared
  · rw [Option.elim_none]
    have herased := hcleared.remove hi'
    rwa [List.eraseIdx_modify_of_eq] at herased

theorem ageOut (h : c.Holds t.rows) : c.ageOut.Holds (t.walkBack ageOutRow).rows := by
  unfold ConnectedListeners.ageOut
  rw [h.count]
  exact PackedArray.walkDown_holds Holds (fun c l k hk hc => hc.dropReadiness hk) h le_rfl

theorem renew (h : c.Holds t.rows) : c.renew.Holds (t.walkBack renewRow).rows := by
  unfold ConnectedListeners.renew
  rw [h.count]
  refine PackedArray.walkDown_holds Holds (fun c l k hk hc => ?_) h le_rfl
  rw [hc.row_eq hk, renewRow]
  split_ifs with hacmp
  · have hcleared := hc.modify hk fun row =>
      { row with
        msrpReady := false, msrpReadyLive := false, askingFailed := false
        askingFailedSinceUs := 0 }
    rwa [List.modify_eq_set_getElem?, List.getElem?_eq_getElem hk] at hcleared
  · exact hc.remove hk

/-! ### `atdecc.c` -/

theorem findTalkerListenerByIdentity (h : c.Holds t.rows) (entityId : UniqueId) (uid : UInt16) :
    c.findTalkerListenerByIdentity entityId uid =
      EspAvb.findTalkerListenerByIdentity t entityId uid := by
  rw [ConnectedListeners.findTalkerListenerByIdentity, h.inUse]
  rfl

theorem findTalkerListenerByEntity (h : c.Holds t.rows) (entityId : UniqueId) :
    c.findTalkerListenerByEntity entityId = EspAvb.findTalkerListenerByEntity t entityId := by
  rw [ConnectedListeners.findTalkerListenerByEntity, h.inUse]
  rfl

theorem solePending (h : c.Holds t.rows) : c.solePending = EspAvb.solePending t := by
  rw [ConnectedListeners.solePending, h.inUse]
  rfl

/-- The rows of an entity that wait for ACMP, read from the array and from the list. -/
theorem ofEntity (h : c.Holds t.rows) (entityId : UniqueId) :
    ((c.findTalkerListenerByEntity entityId).filter fun i => !(c.row i).acmpConnected) =
      (EspAvb.findTalkerListenerByEntity t entityId).filter fun i =>
        (t.rows[i]?).any (!·.acmpConnected) := by
  rw [h.findTalkerListenerByEntity]
  cases hfind : EspAvb.findTalkerListenerByEntity t entityId with
  | none => rfl
  | some i =>
      have hi : i < t.rows.length := List.findIdx?_lt hfind
      simp only [Option.filter_some, h.row_eq hi, List.getElem?_eq_getElem hi, Option.any_some]

theorem findOrAddTalkerListenerByIdentity (h : c.Holds t.rows) (entityId : UniqueId)
    (uid : UInt16) :
    Option.Rel HoldsAt (c.findOrAddTalkerListenerByIdentity entityId uid)
      (EspAvb.findOrAddTalkerListenerByIdentity t entityId uid) := by
  unfold ConnectedListeners.findOrAddTalkerListenerByIdentity
    EspAvb.findOrAddTalkerListenerByIdentity
  rw [h.findTalkerListenerByIdentity, h.ofEntity, h.solePending]
  have hmodify : ∀ {i : Nat} (f : TalkerListener → TalkerListener), i < t.rows.length →
      Option.Rel HoldsAt (some (i, c.modify i f)) (some (i, t.modify i f)) := fun f hi =>
    Option.Rel.some ⟨rfl, h.modify hi f, by simpa [ListenerRows.modify] using hi⟩
  cases hknown : EspAvb.findTalkerListenerByIdentity t entityId uid with
  | some i => exact Option.Rel.some ⟨rfl, h, List.findIdx?_lt hknown⟩
  | none =>
      dsimp only
      cases hentity : (EspAvb.findTalkerListenerByEntity t entityId).filter _ with
      | some i =>
          have hfind := (Option.filter_eq_some_iff.mp hentity).1
          exact hmodify _ (List.findIdx?_lt hfind)
      | none =>
          cases hpending : EspAvb.solePending t with
          | some i => exact hmodify _ (solePending_lt hpending)
          | none => exact h.claim _

theorem connectTx (h : c.Holds t.rows) (env : TalkerEnv) (msg : AcmpMessage) :
    Option.Rel HoldsAt (c.connectTx env msg)
      ((EspAvb.findOrAddTalkerListenerByIdentity t msg.listenerEntityId msg.listenerUid).map
        fun (i, t) => (i, t.modify i (acmpConnectedRow env.nowUs))) :=
  modifyAt (h.findOrAddTalkerListenerByIdentity _ _) _

theorem disconnectTx (h : c.Holds t.rows) (msg : AcmpMessage) :
    (c.disconnectTx msg).Holds (disconnectTxRows t msg).rows := by
  unfold ConnectedListeners.disconnectTx disconnectTxRows disconnectTxRow
  rw [h.findTalkerListenerByIdentity, h.findTalkerListenerByEntity]
  cases hfind : (EspAvb.findTalkerListenerByIdentity t msg.listenerEntityId msg.listenerUid).or
      (EspAvb.findTalkerListenerByEntity t msg.listenerEntityId) with
  | none => exact h
  | some i =>
      apply h.remove
      rcases Option.or_eq_some_iff.mp hfind with hknown | ⟨-, hentity⟩
      · exact List.findIdx?_lt hknown
      · exact List.findIdx?_lt hentity

end Holds

end ConnectedListeners

/-! ### What an event does to a stream -/

/-- A start or a stop. -/
def SameButStreaming (before after : AvbTalkerStream) : Prop :=
  after = { before with streaming := after.streaming }

namespace SameButStreaming

variable {before after : AvbTalkerStream}

theorem refl (stream : AvbTalkerStream) : SameButStreaming stream stream := rfl

theorem listeners (h : SameButStreaming before after) : after.listeners = before.listeners := by
  rw [h]

theorem classB (h : SameButStreaming before after) : after.classB = before.classB := by
  rw [h]

theorem streamFormat (h : SameButStreaming before after) :
    after.streamFormat = before.streamFormat := by
  rw [h]

theorem streamDestAddr (h : SameButStreaming before after) :
    after.streamDestAddr = before.streamDestAddr := by
  rw [h]

theorem start :
    SameButStreaming (s.outputStreams u) ((avbStartStreamOut env s u).outputStreams u) := by
  unfold avbStartStreamOut
  dsimp only
  split_ifs
  · exact refl _
  · simp [SameButStreaming, TalkerState.setStream]

theorem stopIf (c : Bool) :
    SameButStreaming (s.outputStreams u) ((stopIf cfg s u c).outputStreams u) := by
  unfold EspAvb.stopIf avbStopStreamOut
  dsimp only [TalkerState.effect]
  split_ifs
  · simp [SameButStreaming, TalkerState.setStream]
  · simp [SameButStreaming, TalkerState.setStream]
  · exact refl _

end SameButStreaming

theorem avbOutputStreamRenewId_stream (except : Option Nat) :
    let renews := !(s.outputStreams u).streaming && !heldByOther (s.outputStreams u).listeners except &&
      (nextStreamIdGen env (s.outputStreams u)).isSome
    let after := (avbOutputStreamRenewId env s u except).outputStreams u
    after.classB = (s.outputStreams u).classB ∧
      after.streamFormat = (s.outputStreams u).streamFormat ∧
      after.listeners =
        if renews then (s.outputStreams u).listeners.walkBack renewRow
        else (s.outputStreams u).listeners := by
  unfold avbOutputStreamRenewId
  dsimp only
  by_cases hheld : ((s.outputStreams u).streaming ||
      heldByOther (s.outputStreams u).listeners except) = true
  · rw [if_pos hheld, ← Bool.not_or, hheld]
    simp
  · rw [if_neg hheld, ← Bool.not_or, Bool.eq_false_of_not_eq_true hheld]
    cases nextStreamIdGen env (s.outputStreams u) with
    | none => simp
    | some gen => simp [TalkerState.setStream]

theorem avbOutputStreamDeclareNow_stream (except : Option Nat) :
    let after := (avbOutputStreamDeclareNow cfg env s u except).outputStreams u
    after.classB = (s.outputStreams u).classB ∧
      after.streamFormat = (s.outputStreams u).streamFormat ∧
      after.listeners =
        if declareNowRenews cfg env s u except then
          (s.outputStreams u).listeners.walkBack renewRow
        else (s.outputStreams u).listeners := by
  obtain ⟨hclass, hformat, hrows⟩ := @avbOutputStreamRenewId_stream env s u except
  unfold avbOutputStreamDeclareNow avbDeclareOutputStream
  dsimp only [TalkerState.effect] at hclass hformat hrows ⊢
  have hdecide : declareNowRenews cfg env s u except =
      (!(!cfg.talker || !s.avbLite && (s.outputStreams u).streamDestAddr == .zero 6) &&
        (cfg.newStreamIdOnGrow && !s.avbLite && env.advertiseChangeWaits (s.outputStreams u)) &&
        (!(s.outputStreams u).streaming && !heldByOther (s.outputStreams u).listeners except &&
          (nextStreamIdGen env (s.outputStreams u)).isSome)) := by
    unfold declareNowRenews
    cases s.avbLite
    · simp [bne, Bool.and_assoc]
    · simp
  rw [hdecide]
  split_ifs with hoff hasks hrenews hrenews <;> simp_all

theorem connectTxSetClass_same {index : UInt16} {listenerIdx : Nat} {classB : Bool}
    (h : (s.outputStreams u).classB = classB) :
    connectTxSetClass cfg env s u index listenerIdx classB = s := if_pos h

theorem connectTxSetClass_stream (index : UInt16) (listenerIdx : Nat) (classB : Bool) :
    let after := (connectTxSetClass cfg env s u index listenerIdx classB).outputStreams u
    after.classB = classB ∧
      after.streamFormat = (s.outputStreams u).streamFormat ∧
      after.listeners =
        if connectTxRenews cfg env s u listenerIdx classB then
          (s.outputStreams u).listeners.walkBack renewRow
        else (s.outputStreams u).listeners := by
  by_cases hclass : (s.outputStreams u).classB = classB
  · rw [connectTxSetClass_same hclass]
    simp [connectTxRenews, hclass]
  · unfold connectTxSetClass
    rw [if_neg hclass]
    dsimp only
    obtain ⟨hafter, hformat, hrows⟩ := @avbOutputStreamDeclareNow_stream cfg env
      ((s.setStream u
        { s.outputStreams u with
          classB
          vlanId := (env.msrpMappings[if classB then 1 else 0]?).getD (s.outputStreams u).vlanId
        }).effect (.persistOutputStream index)) u (some listenerIdx)
    have hbne : ((s.outputStreams u).classB != classB) = true := bne_iff_ne.mpr hclass
    rw [hafter, hformat, hrows, connectTxRenews, hbne, Bool.true_and]
    refine ⟨?_, ?_, ?_⟩
    · simp [TalkerState.effect, TalkerState.setStream]
    · simp [TalkerState.effect, TalkerState.setStream]
    · simp only [TalkerState.effect, TalkerState.setStream, Function.update_self]
      rfl

/-- A CONNECT_TX that finds or makes a row sets the class and starts the stream. -/
theorem acmpConnectTx_eq {msg : AcmpMessage} {i : Nat}
    (h : findOrAddTalkerListenerByIdentity (s.outputStreams u).listeners msg.listenerEntityId
      msg.listenerUid = some (i, t)) :
    acmpConnectTx cfg env s u msg =
      let s₁ := connectTxSetClass cfg env
        (s.setListeners u (t.modify i (acmpConnectedRow env.nowUs))) u msg.talkerUid i
        (connectTxClass cfg (s.outputStreams u)
          (findTalkerListenerByIdentity (s.outputStreams u).listeners msg.listenerEntityId
            msg.listenerUid) msg.flags)
      some (if ((s₁.outputStreams u).listeners.rows[i]?).any (·.msrpReady) &&
          !(s₁.outputStreams u).streaming && !s₁.avbLite then avbStartStreamOut env s₁ u
        else s₁) := by
  unfold acmpConnectTx
  dsimp only
  rw [h]
  rfl

theorem acmpConnectTx_cases {msg : AcmpMessage} {s' : TalkerState}
    (h : acmpConnectTx cfg env s u msg = some s') :
    ∃ i t, findOrAddTalkerListenerByIdentity (s.outputStreams u).listeners msg.listenerEntityId
        msg.listenerUid = some (i, t) ∧
      ∃ s₁, s₁ = connectTxSetClass cfg env
          (s.setListeners u (t.modify i (acmpConnectedRow env.nowUs))) u msg.talkerUid i
          (connectTxClass cfg (s.outputStreams u)
            (findTalkerListenerByIdentity (s.outputStreams u).listeners msg.listenerEntityId
              msg.listenerUid) msg.flags) ∧
        s' = if ((s₁.outputStreams u).listeners.rows[i]?).any (·.msrpReady) &&
            !(s₁.outputStreams u).streaming && !s₁.avbLite then avbStartStreamOut env s₁ u
          else s₁ := by
  cases hrow : findOrAddTalkerListenerByIdentity (s.outputStreams u).listeners msg.listenerEntityId
      msg.listenerUid with
  | none =>
      unfold acmpConnectTx at h
      dsimp only at h
      rw [hrow] at h
      cases h
  | some p =>
      rw [acmpConnectTx_eq hrow] at h
      exact ⟨p.1, p.2, rfl, _, rfl, (Option.some.inj h).symm⟩

theorem acmpConnectTx_isSome {msg : AcmpMessage} :
    (acmpConnectTx cfg env s u msg).isSome =
      (findOrAddTalkerListenerByIdentity (s.outputStreams u).listeners msg.listenerEntityId
        msg.listenerUid).isSome := by
  unfold acmpConnectTx
  dsimp only
  split
  · rename_i hrow
    rw [hrow]
    rfl
  · rename_i i t hrow
    rw [hrow]
    rfl

/-- The row of a Listener Ready or Ready Failed. -/
def readyRow (nowUs : Nat) (readyFailed : Bool) (row : TalkerListener) : TalkerListener :=
  { row with
    lastSeenUs := nowUs, msrpReady := true, msrpReadyLive := true
    askingFailedSinceUs := 0, askingFailed := readyFailed }

/-- The rows a leaving listener leaves. -/
def leaveRows (t : ListenerRows) (srcAddr : EthAddr) : ListenerRows :=
  (findConnectedListener t srcAddr).elim t fun i =>
    let cleared := t.modify i fun row => { row with msrpReady := false, askingFailed := false }
    if (cleared.rows[i]?).any (·.acmpConnected) then cleared else cleared.remove i

section

variable (cfg env s u)

theorem listenerReady_spec (srcAddr : EthAddr) (readyFailed : Bool) :
    SameButStreaming
      { s.outputStreams u with
        listeners := (findOrAddMsrpListener env (s.outputStreams u).listeners srcAddr).elim
          (s.outputStreams u).listeners fun p => p.2.modify p.1 (readyRow env.nowUs readyFailed) }
      ((listenerReady cfg env s u srcAddr readyFailed).outputStreams u) := by
  unfold listenerReady
  cases findOrAddMsrpListener env (s.outputStreams u).listeners srcAddr with
  | none => exact .refl _
  | some p =>
      rw [Option.elim_some, ← setListeners_self]
      dsimp only
      split_ifs
      · exact .start
      · exact .refl _

theorem listenerAskingFailed_spec (srcAddr : EthAddr) :
    SameButStreaming
      { s.outputStreams u with
        listeners := (findOrAddMsrpListener env (s.outputStreams u).listeners srcAddr).elim
          (s.outputStreams u).listeners fun p => p.2.modify p.1 (askingFailedRow env.nowUs) }
      ((listenerAskingFailed cfg env s u srcAddr).outputStreams u) := by
  unfold listenerAskingFailed
  cases findOrAddMsrpListener env (s.outputStreams u).listeners srcAddr with
  | none => exact .refl _
  | some p =>
      rw [Option.elim_some, ← setListeners_self]
      exact .stopIf _

theorem listenerLeave_spec (srcAddr : EthAddr) :
    SameButStreaming
      { s.outputStreams u with listeners := leaveRows (s.outputStreams u).listeners srcAddr }
      ((listenerLeave cfg s u srcAddr).outputStreams u) := by
  unfold listenerLeave leaveRows
  dsimp only
  cases findConnectedListener (s.outputStreams u).listeners srcAddr with
  | none => exact .refl _
  | some i =>
      rw [Option.elim_some, ← setListeners_self]
      exact .stopIf _

theorem listenerAgeOut_spec :
    SameButStreaming
      { s.outputStreams u with
        listeners := if s.avbLite then (s.outputStreams u).listeners
          else (s.outputStreams u).listeners.walkBack ageOutRow }
      ((listenerAgeOut cfg s u).outputStreams u) := by
  unfold listenerAgeOut
  split_ifs
  · exact .refl _
  · rw [← setListeners_self]
    exact .stopIf _

theorem acmpDisconnectTx_spec (msg : AcmpMessage) :
    SameButStreaming
      { s.outputStreams u with listeners := disconnectTxRows (s.outputStreams u).listeners msg }
      ((acmpDisconnectTx cfg s u msg).outputStreams u) := by
  rw [← setListeners_self]
  exact .stopIf _

end

/-! ### The array follows the rows -/

section

variable {c : ConnectedListeners}

namespace ConnectedListeners.Holds

theorem modifyElim (h : c.Holds t.rows) {p : Option (Nat × ConnectedListeners)}
    {q : Option (Nat × ListenerRows)} (hpq : Option.Rel HoldsAt p q)
    (f : TalkerListener → TalkerListener) :
    (p.elim c fun p => p.2.modify p.1 f).Holds (q.elim t fun q => q.2.modify q.1 f).rows := by
  cases hpq with
  | none => exact h
  | @some a b hab =>
      obtain ⟨hij, hholds, hi⟩ := hab
      simp only [Option.elim_some, hij]
      exact hholds.modify hi f

theorem listenerReady (h : c.Holds (s.outputStreams u).listeners.rows) (srcAddr : EthAddr)
    (readyFailed : Bool) :
    (c.ready env srcAddr readyFailed).Holds
      ((listenerReady cfg env s u srcAddr readyFailed).outputStreams u).listeners.rows := by
  have hready : c.ready env srcAddr readyFailed = (c.findOrAddMsrpListener env srcAddr).elim c
      fun p => p.2.modify p.1 (readyRow env.nowUs readyFailed) := by
    unfold ConnectedListeners.ready
    cases c.findOrAddMsrpListener env srcAddr <;> rfl
  rw [(listenerReady_spec cfg env s u srcAddr readyFailed).listeners, hready]
  exact h.modifyElim (h.findOrAddMsrpListener env srcAddr) _

theorem listenerAskingFailed (h : c.Holds (s.outputStreams u).listeners.rows)
    (srcAddr : EthAddr) :
    (c.askingFailed env srcAddr).Holds
      ((listenerAskingFailed cfg env s u srcAddr).outputStreams u).listeners.rows := by
  have hfailed : c.askingFailed env srcAddr = (c.findOrAddMsrpListener env srcAddr).elim c
      fun p => p.2.modify p.1 (askingFailedRow env.nowUs) := by
    unfold ConnectedListeners.askingFailed
    cases c.findOrAddMsrpListener env srcAddr <;> rfl
  rw [(listenerAskingFailed_spec cfg env s u srcAddr).listeners, hfailed]
  exact h.modifyElim (h.findOrAddMsrpListener env srcAddr) _

theorem leaveRows (h : c.Holds t.rows) (srcAddr : EthAddr) :
    (c.leave srcAddr).Holds (leaveRows t srcAddr).rows := by
  have hfind : c.inUse.findIdx? (·.macAddr == srcAddr) = findConnectedListener t srcAddr := by
    rw [h.inUse]
    rfl
  unfold ConnectedListeners.leave EspAvb.leaveRows
  rw [hfind]
  cases hmac : findConnectedListener t srcAddr with
  | none => exact h
  | some i =>
      have hi : i < t.rows.length := List.findIdx?_lt hmac
      have hleft := h.dropReadiness hi
      simp only [Option.elim_some, ListenerRows.modify, List.getElem?_modify_eq,
        List.getElem?_eq_getElem hi, Option.map_eq_map, Option.map_some, Option.any_some]
      unfold ageOutRow at hleft
      split_ifs at hleft ⊢
      · dsimp only
        rw [List.modify_eq_set_getElem?, List.getElem?_eq_getElem hi]
        exact hleft
      · simpa [ListenerRows.remove, List.eraseIdx_modify_of_eq] using hleft

theorem acmpConnectTx (h : c.Holds (s.outputStreams u).listeners.rows) {msg : AcmpMessage} :
    (connectTxArray cfg env s u c msg).Holds
      (((acmpConnectTx cfg env s u msg).getD s).outputStreams u).listeners.rows := by
  have hfound := h.findOrAddTalkerListenerByIdentity msg.listenerEntityId msg.listenerUid
  have hsome := @acmpConnectTx_isSome cfg env s u msg
  unfold connectTxArray ConnectedListeners.connectTx
  dsimp only
  cases hs' : EspAvb.acmpConnectTx cfg env s u msg with
  | none =>
      rw [hs'] at hsome
      rw [Option.isNone_iff_eq_none.mp (Option.isSome_eq_false_iff.mp hsome.symm)]
      cases c.findOrAddTalkerListenerByIdentity msg.listenerEntityId msg.listenerUid with
      | none => exact h
      | some p => exact h
  | some s' =>
      obtain ⟨i, t, hrow, s₁, hs₁, rfl⟩ := acmpConnectTx_cases hs'
      rw [hrow] at hfound ⊢
      obtain ⟨⟨j, c'⟩, hc', hij, hholds, hi⟩ := exists_of_rel_some hfound
      dsimp only at hij hholds hi
      subst hij
      have hconnected := hholds.modify hi (acmpConnectedRow env.nowUs)
      have hstart : ∀ (b : Bool), ((if b then avbStartStreamOut env s₁ u else s₁).outputStreams
          u).listeners = (s₁.outputStreams u).listeners := by
        rintro (_ | _)
        · rfl
        · exact SameButStreaming.start.listeners
      rw [hc', Option.map_some, Option.getD_some, hstart, hs₁, (connectTxSetClass_stream _ _ _).2.2,
        setListeners_self]
      dsimp only
      split_ifs
      · exact hconnected.renew
      · exact hconnected

end ConnectedListeners.Holds

end

/-! ### Events, stream by stream -/

section

variable (cfg env s)
variable (v : Fin avbMaxNumOutputStreams)

theorem connectTxCommand_stream (holders : EntityHolders) (msg : AcmpMessage) (disconnect : Bool) :
    (avbProcessAcmpConnectTxCommand cfg env holders s msg disconnect).outputStreams v =
      if talkerUid cfg msg.talkerUid == some v &&
          !avbAcquiredOrLockedByOther holders msg.controllerEntityId then
        ((if disconnect then some (acmpDisconnectTx cfg s v msg)
          else acmpConnectTx cfg env s v msg).getD s).outputStreams v
      else s.outputStreams v := by
  unfold avbProcessAcmpConnectTxCommand
  cases hu : talkerUid cfg msg.talkerUid with
  | none => simp
  | some u =>
      cases hheld : avbAcquiredOrLockedByOther holders msg.controllerEntityId with
      | true => simp
      | false =>
          have hon : ∀ s', (if disconnect then some (acmpDisconnectTx cfg s u msg)
              else acmpConnectTx cfg env s u msg) = some s' → OnStream u s s' := by
            intro s' hs'
            split_ifs at hs'
            · rw [← Option.some.inj hs']
              exact acmpDisconnectTx_onStream cfg s u msg
            · exact acmpConnectTx_onStream hs'
          have hcond : (some u == some v && !false) = true ↔ u = v := by simp
          simp only [Bool.false_eq_true, if_false]
          by_cases hv : u = v
          · rw [if_pos (hcond.mpr hv)]
            subst hv
            generalize (if disconnect then some (acmpDisconnectTx cfg s u msg)
              else acmpConnectTx cfg env s u msg) = p
            cases p <;> simp
          · rw [if_neg (mt hcond.mp hv)]
            generalize (if disconnect then some (acmpDisconnectTx cfg s u msg)
              else acmpConnectTx cfg env s u msg) = p at hon ⊢
            cases p with
            | none => simp
            | some s' => simpa using (hon s' rfl).others v (Ne.symm hv)

/-- A command leaves every stream alone but the one it reaches. -/
theorem acmp_stream (holders : EntityHolders) (msg : AcmpMessage) :
    (talkerStep cfg s (.acmp env holders msg)).outputStreams v =
      if reachesOutput cfg holders msg v then
        match msg.msgType with
        | .connectTxCommand => ((acmpConnectTx cfg env s v msg).getD s).outputStreams v
        | .disconnectTxCommand => (acmpDisconnectTx cfg s v msg).outputStreams v
        | _ => s.outputStreams v
      else s.outputStreams v := by
  unfold talkerStep avbProcessAcmpTalker reachesOutput
  dsimp only
  by_cases hself : msg.talkerEntityId = cfg.entityId
  · rw [if_neg (not_not_intro hself), beq_iff_eq.mpr hself, Bool.true_and]
    cases hmsg : msg.msgType with
    | connectTxCommand => exact connectTxCommand_stream cfg env s v holders msg false
    | disconnectTxCommand => exact connectTxCommand_stream cfg env s v holders msg true
    | _ => simp
  · rw [if_pos hself, beq_false_of_ne hself]
    simp

/-- What a Listener declaration, or the end of its registration, does to the talker. -/
def listenerOn (leaving : Bool) (decl : MsrpListenerEvent) (tr : MrpRegTransition)
    (srcAddr : Option EthAddr) : TalkerState :=
  match srcAddr with
  | none => if tr = .deregister then listenerAgeOut cfg s v else s
  | some srcAddr => listenerDeclaration cfg env s v srcAddr leaving decl

theorem listenerOn_onStream (leaving : Bool) (decl : MsrpListenerEvent) (tr : MrpRegTransition)
    (srcAddr : Option EthAddr) :
    OnStream v s (listenerOn cfg env s v leaving decl tr srcAddr) := by
  unfold listenerOn listenerDeclaration
  cases srcAddr with
  | none =>
      dsimp only
      split_ifs
      · exact listenerAgeOut_onStream
      · exact .refl
  | some srcAddr =>
      dsimp only
      split_ifs
      · unfold listenerLeave
        dsimp only
        split
        · exact .refl
        · exact (OnStream.setStream _).trans (.stopIf _)
      · exact .refl
      · cases decl with
        | ignore => exact .refl
        | askingFailed => exact listenerAskingFailed_onStream srcAddr
        | ready => exact listenerReady_onStream srcAddr false
        | readyFailed => exact listenerReady_onStream srcAddr true

theorem listener_stream (streamId : UniqueId) (leaving : Bool) (decl : MsrpListenerEvent)
    (tr : MrpRegTransition) (srcAddr : Option EthAddr) :
    (talkerStep cfg s (.listener env streamId leaving decl tr srcAddr)).outputStreams v =
      if talkerStreamOf cfg s streamId = some v then
        (listenerOn cfg env s v leaving decl tr srcAddr).outputStreams v
      else s.outputStreams v := by
  have hstep : talkerStep cfg s (.listener env streamId leaving decl tr srcAddr) =
      (talkerStreamOf cfg s streamId).elim s
        fun u => listenerOn cfg env s u leaving decl tr srcAddr := by
    unfold talkerStep mrpOnListenerRegistrarChangeTalker
    dsimp only
    cases talkerStreamOf cfg s streamId <;> cases srcAddr <;> rfl
  rw [hstep]
  cases hu : talkerStreamOf cfg s streamId with
  | none => simp
  | some u =>
      simp only [Option.some.injEq, Option.elim_some]
      by_cases hv : u = v
      · rw [if_pos hv, hv]
      · rw [if_neg hv]
        exact (listenerOn_onStream cfg env s u leaving decl tr srcAddr).others v (Ne.symm hv)

end

/-- Every event keeps the array of a stream in step with its rows. -/
theorem arrayStep_holds {c : ConnectedListeners} (h : c.Holds (s.outputStreams u).listeners.rows)
    (e : TalkerEvent) :
    (arrayStep cfg s u c e).Holds ((talkerStep cfg s e).outputStreams u).listeners.rows := by
  cases e with
  | destAddr v addr =>
      by_cases hv : u = v
      · subst hv
        simpa [talkerStep, arrayStep, TalkerState.setStream] using h
      · simpa [talkerStep, arrayStep, TalkerState.setStream, hv] using h
  | acmp env holders msg =>
      rw [acmp_stream, arrayStep]
      split_ifs
      · cases msg.msgType with
        | connectTxCommand => exact h.acmpConnectTx
        | disconnectTxCommand =>
            simpa only [(acmpDisconnectTx_spec cfg s u msg).listeners] using h.disconnectTx msg
        | _ => exact h
      · exact h
  | listener env streamId leaving decl tr srcAddr =>
      rw [listener_stream, arrayStep]
      split_ifs
      · unfold listenerArray listenerOn listenerDeclaration
        cases srcAddr with
        | none =>
            dsimp only
            by_cases htr : tr = .deregister
            · cases hlite : s.avbLite
              · simpa [htr, hlite, (listenerAgeOut_spec cfg s u).listeners] using h.ageOut
              · simpa [htr, hlite, (listenerAgeOut_spec cfg s u).listeners] using h
            · simpa [htr] using h
        | some srcAddr =>
            dsimp only
            split_ifs
            · rw [(listenerLeave_spec cfg s u srcAddr).listeners]
              exact h.leaveRows srcAddr
            · exact h
            · cases decl with
              | ignore => exact h
              | askingFailed => exact h.listenerAskingFailed srcAddr
              | ready => exact h.listenerReady srcAddr false
              | readyFailed => exact h.listenerReady srcAddr true
      · exact h

/-! ### Identities -/

def TalkerListener.identity (row : TalkerListener) : UniqueId × UInt16 :=
  (row.identityId, row.identityUid)

/-- No two rows carry one identity. All zero, a row carries none. -/
def DistinctIdentities (l : List TalkerListener) : Prop :=
  (l.map (·.identity)).Pairwise fun a b => a = b → a = (.zero 8, 0)

theorem List.pairwise_set {α : Type*} {r : α → α → Prop} (hr : ∀ {a b}, r a b → r b a) {l : List α}
    {a : α} (h : l.Pairwise r) (ha : ∀ b ∈ l, r a b) (i : Nat) : (l.set i a).Pairwise r := by
  induction l generalizing i with
  | nil => exact List.Pairwise.nil
  | cons b l ih =>
      obtain ⟨hb, hl⟩ := List.pairwise_cons.mp h
      cases i with
      | zero => exact List.pairwise_cons.mpr ⟨fun c hc => ha c (List.mem_cons_of_mem b hc), hl⟩
      | succ i =>
          refine List.pairwise_cons.mpr ⟨fun c hc => ?_, ih hl (fun c hc =>
            ha c (List.mem_cons_of_mem b hc)) i⟩
          rcases List.mem_or_eq_of_mem_set hc with hold | rfl
          · exact hb c hold
          · exact hr (ha b List.mem_cons_self)

namespace DistinctIdentities

variable {l l' : List TalkerListener} {i : Nat} {key : UniqueId × UInt16}
variable {f : TalkerListener → TalkerListener}

theorem of_sublist (h : DistinctIdentities l)
    (hsub : (l'.map (·.identity)).Sublist (l.map (·.identity))) : DistinctIdentities l' :=
  List.Pairwise.sublist hsub h

theorem map_modify_same (hf : ∀ row, (f row).identity = row.identity) :
    (l.modify i f).map (·.identity) = l.map (·.identity) := by
  apply List.ext_getElem?
  intro j
  simp only [List.getElem?_map, List.getElem?_modify, Option.map_eq_map, Option.map_map]
  congr 1
  funext row
  by_cases hij : i = j <;> simp [hij, hf]

theorem modify_same (h : DistinctIdentities l) (hf : ∀ row, (f row).identity = row.identity) :
    DistinctIdentities (l.modify i f) := by
  apply h.of_sublist
  rw [map_modify_same hf]

theorem modify_fresh (h : DistinctIdentities l) (hfresh : ∀ row ∈ l, row.identity ≠ key)
    (hf : ∀ row, l[i]? = some row → (f row).identity = key) :
    DistinctIdentities (l.modify i f) := by
  have hmap : (l.modify i f).map (·.identity) = (l.map (·.identity)).set i key := by
    apply List.ext_getElem?
    intro j
    simp only [List.getElem?_map, List.getElem?_modify, List.getElem?_set, Option.map_eq_map,
      Option.map_map]
    by_cases hij : i = j
    · subst hij
      cases hrow : l[i]? with
      | none => simp [List.getElem?_eq_none_iff.mp hrow]
      | some row =>
          have hi : i < l.length := (List.getElem?_eq_some_iff.mp hrow).1
          simp [hi, hf row hrow]
    · simp [hij, Function.comp_def]
  unfold DistinctIdentities
  rw [hmap]
  refine List.pairwise_set (fun hab hba => ?_) h (fun k hk hkey => ?_) i
  · rw [hba]
    exact hab hba.symm
  · obtain ⟨row, hrow, rfl⟩ := List.mem_map.mp hk
    exact absurd hkey.symm (hfresh row hrow)

theorem append (h : DistinctIdentities l) {row : TalkerListener}
    (hrow : (∀ old ∈ l, old.identity ≠ row.identity) ∨ row.identity = (.zero 8, 0)) :
    DistinctIdentities (l ++ [row]) := by
  unfold DistinctIdentities
  rw [List.map_append, List.pairwise_append]
  refine ⟨h, List.pairwise_singleton _ _, fun a ha b hb hab => ?_⟩
  obtain ⟨old, hold, rfl⟩ := List.mem_map.mp ha
  have hb' : b = row.identity := by simpa using hb
  rcases hrow with hfresh | hnone
  · exact absurd (hab.trans hb') (hfresh old hold)
  · rw [hab, hb', hnone]

theorem filterMap (h : DistinctIdentities l) {g : TalkerListener → Option TalkerListener}
    (hg : ∀ row row', g row = some row' → row'.identity = row.identity) :
    DistinctIdentities (l.filterMap g) := by
  apply h.of_sublist
  induction l with
  | nil => simp
  | cons row l ih =>
      have hl : DistinctIdentities l := List.Pairwise.of_cons h
      cases hrow : g row with
      | none =>
          rw [List.filterMap_cons_none hrow]
          exact (ih hl).trans (List.sublist_cons_self ..)
      | some row' =>
          rw [List.filterMap_cons_some hrow, List.map_cons, List.map_cons, hg row row' hrow]
          exact (ih hl).cons_cons _

theorem add (h : DistinctIdentities t.rows) {row : TalkerListener} {t' : ListenerRows}
    (ht' : t.add row = some t')
    (hrow : (∀ old ∈ t.rows, old.identity ≠ row.identity) ∨ row.identity = (.zero 8, 0)) :
    DistinctIdentities t'.rows := by
  unfold ListenerRows.add at ht'
  split_ifs at ht'
  obtain rfl := Option.some.inj ht'
  exact h.append hrow

end DistinctIdentities

theorem findTalkerListenerByIdentity_eq_none {entityId : UniqueId} {uid : UInt16} :
    findTalkerListenerByIdentity t entityId uid = none ↔
      ∀ row ∈ t.rows, row.identity ≠ (entityId, uid) := by
  simp [findTalkerListenerByIdentity, List.findIdx?_eq_none_iff, TalkerListener.identity]

theorem findTalkerListenerByIdentity_eq_some {entityId : UniqueId} {uid : UInt16} {i : Nat}
    (h : findTalkerListenerByIdentity t entityId uid = some i) :
    ∃ row, t.rows[i]? = some row ∧ row.identity = (entityId, uid) := by
  obtain ⟨hi, hrow, -⟩ := List.findIdx?_eq_some_iff_getElem.mp h
  exact ⟨_, List.getElem?_eq_getElem hi, by simpa [TalkerListener.identity] using hrow⟩

theorem findTalkerListenerByEntity_eq_some {entityId : UniqueId} {i : Nat}
    (h : findTalkerListenerByEntity t entityId = some i) :
    ∃ row, t.rows[i]? = some row ∧ row.identityId = entityId := by
  obtain ⟨hi, hrow, -⟩ := List.findIdx?_eq_some_iff_getElem.mp h
  exact ⟨_, List.getElem?_eq_getElem hi, by simpa using hrow⟩

theorem findOrAddMsrpListener_distinct (h : DistinctIdentities t.rows) {macAddr : EthAddr} {i : Nat}
    {t' : ListenerRows} (ht' : findOrAddMsrpListener env t macAddr = some (i, t')) :
    DistinctIdentities t'.rows := by
  unfold findOrAddMsrpListener at ht'
  split at ht'
  · obtain ⟨rfl, rfl⟩ := Prod.mk.inj (Option.some.inj ht')
    exact h
  · dsimp only at ht'
    generalize (env.listeners.filter (·.1 == macAddr)).map (·.2) = entities at ht'
    split at ht'
    · obtain ⟨rfl, rfl⟩ := Prod.mk.inj (Option.some.inj ht')
      exact h.modify_same fun _ => rfl
    · rename_i hnone
      obtain ⟨t'', hadd, heq⟩ := Option.map_eq_some_iff.mp ht'
      obtain ⟨rfl, rfl⟩ := Prod.mk.inj heq
      apply h.add hadd
      match entities with
      | [] => exact Or.inr rfl
      | _ :: _ :: _ => exact Or.inr rfl
      | [entityId] =>
          -- The entity has no row yet, whatever unique ID.
          have hfind : findConnectedListenerByEntity t entityId = none := by simpa using hnone
          unfold findConnectedListenerByEntity at hfind
          split_ifs at hfind with hzero
          · exact Or.inr (congrArg (·, 0) hzero)
          · refine Or.inl fun old hold hsame => ?_
            have hother := List.findIdx?_eq_none_iff.mp hfind old hold
            have hid : old.identityId = entityId := congrArg Prod.fst hsame
            simp [hid] at hother

theorem findOrAddTalkerListenerByIdentity_distinct (h : DistinctIdentities t.rows)
    {entityId : UniqueId} {uid : UInt16} {i : Nat} {t' : ListenerRows}
    (ht' : findOrAddTalkerListenerByIdentity t entityId uid = some (i, t')) :
    DistinctIdentities t'.rows := by
  unfold findOrAddTalkerListenerByIdentity at ht'
  split at ht'
  · obtain ⟨rfl, rfl⟩ := Prod.mk.inj (Option.some.inj ht')
    exact h
  · rename_i hnone
    have hfresh := findTalkerListenerByIdentity_eq_none.mp hnone
    dsimp only at ht'
    split at ht'
    · rename_i j hentity
      obtain ⟨rfl, rfl⟩ := Prod.mk.inj (Option.some.inj ht')
      apply h.modify_fresh hfresh
      intro row hrow
      obtain ⟨row', hrow', rfl⟩ :=
        findTalkerListenerByEntity_eq_some (Option.filter_eq_some_iff.mp hentity).1
      rw [hrow] at hrow'
      rw [Option.some.inj hrow']
      rfl
    · split at ht'
      · obtain ⟨rfl, rfl⟩ := Prod.mk.inj (Option.some.inj ht')
        exact h.modify_fresh hfresh fun _ _ => rfl
      · obtain ⟨t'', hadd, heq⟩ := Option.map_eq_some_iff.mp ht'
        obtain ⟨rfl, rfl⟩ := Prod.mk.inj heq
        exact h.add hadd (Or.inl hfresh)

theorem leaveRows_distinct (h : DistinctIdentities t.rows) (srcAddr : EthAddr) :
    DistinctIdentities (leaveRows t srcAddr).rows := by
  unfold leaveRows
  cases findConnectedListener t srcAddr with
  | none => exact h
  | some i =>
      have hcleared : DistinctIdentities
          (t.modify i fun row => { row with msrpReady := false, askingFailed := false }).rows :=
        h.modify_same fun _ => rfl
      rw [Option.elim_some]
      dsimp only
      split_ifs
      · exact hcleared
      · exact hcleared.of_sublist ((List.eraseIdx_sublist ..).map _)

theorem disconnectTxRows_distinct (h : DistinctIdentities t.rows) (msg : AcmpMessage) :
    DistinctIdentities (disconnectTxRows t msg).rows := by
  unfold disconnectTxRows
  split
  · exact h.of_sublist ((List.eraseIdx_sublist ..).map _)
  · exact h

theorem askingFailedRow_identity (nowUs : Nat) (row : TalkerListener) :
    (askingFailedRow nowUs row).identity = row.identity := by
  unfold askingFailedRow
  dsimp only
  split_ifs <;> rfl

theorem walkBack_distinct (h : DistinctIdentities t.rows)
    {g : TalkerListener → Option TalkerListener}
    (hg : ∀ row row', g row = some row' → row'.identity = row.identity) :
    DistinctIdentities (t.walkBack g).rows := by
  simp only [ListenerRows.walkBack, WalkBack.walk_eq_filterMap]
  exact h.filterMap hg

theorem ageOutRow_identity (row row' : TalkerListener) (h : ageOutRow row = some row') :
    row'.identity = row.identity := by
  unfold ageOutRow at h
  split_ifs at h
  rw [← Option.some.inj h]
  rfl

theorem renewRow_identity (row row' : TalkerListener) (h : renewRow row = some row') :
    row'.identity = row.identity := by
  unfold renewRow at h
  split_ifs at h
  rw [← Option.some.inj h]
  rfl

theorem foundRow_distinct (h : DistinctIdentities t.rows) (macAddr : EthAddr)
    {f : TalkerListener → TalkerListener} (hf : ∀ row, (f row).identity = row.identity) :
    DistinctIdentities
      ((findOrAddMsrpListener env t macAddr).elim t fun p => p.2.modify p.1 f).rows := by
  cases hfound : findOrAddMsrpListener env t macAddr with
  | none => exact h
  | some p => exact (findOrAddMsrpListener_distinct h hfound).modify_same hf

/-- A Listener declaration keeps the class and the identities apart. -/
theorem listenerOn_spec (leaving : Bool) (decl : MsrpListenerEvent) (tr : MrpRegTransition)
    (srcAddr : Option EthAddr) :
    let after := (listenerOn cfg env s u leaving decl tr srcAddr).outputStreams u
    after.classB = (s.outputStreams u).classB ∧
      (DistinctIdentities (s.outputStreams u).listeners.rows →
        DistinctIdentities after.listeners.rows) := by
  unfold listenerOn listenerDeclaration
  cases srcAddr with
  | none =>
      dsimp only
      split_ifs
      · rw [(listenerAgeOut_spec cfg s u).classB, (listenerAgeOut_spec cfg s u).listeners]
        refine ⟨rfl, fun h => ?_⟩
        dsimp only
        split_ifs
        · exact h
        · exact walkBack_distinct h ageOutRow_identity
      · exact ⟨rfl, id⟩
  | some srcAddr =>
      dsimp only
      split_ifs
      · rw [(listenerLeave_spec cfg s u srcAddr).classB, (listenerLeave_spec cfg s u srcAddr).listeners]
        exact ⟨rfl, fun h => leaveRows_distinct h srcAddr⟩
      · exact ⟨rfl, id⟩
      · have hready : ∀ readyFailed,
            ((listenerReady cfg env s u srcAddr readyFailed).outputStreams u).classB =
                (s.outputStreams u).classB ∧
              (DistinctIdentities (s.outputStreams u).listeners.rows → DistinctIdentities
                ((listenerReady cfg env s u srcAddr readyFailed).outputStreams u).listeners.rows) := by
          intro readyFailed
          rw [(listenerReady_spec cfg env s u srcAddr readyFailed).classB,
            (listenerReady_spec cfg env s u srcAddr readyFailed).listeners]
          exact ⟨rfl, fun h => foundRow_distinct h srcAddr fun _ => rfl⟩
        cases decl with
        | ignore => exact ⟨rfl, id⟩
        | ready => exact hready false
        | readyFailed => exact hready true
        | askingFailed =>
            dsimp only
            rw [(listenerAskingFailed_spec cfg env s u srcAddr).classB,
              (listenerAskingFailed_spec cfg env s u srcAddr).listeners]
            exact ⟨rfl, fun h => foundRow_distinct h srcAddr (askingFailedRow_identity _)⟩

/-- A CONNECT_TX gives the stream the class it settles on and keeps the identities apart. -/
theorem acmpConnectTx_spec {msg : AcmpMessage} {s' : TalkerState}
    (h : acmpConnectTx cfg env s u msg = some s') :
    (s'.outputStreams u).classB =
        connectTxClass cfg (s.outputStreams u)
          (findTalkerListenerByIdentity (s.outputStreams u).listeners msg.listenerEntityId
            msg.listenerUid) msg.flags ∧
      (DistinctIdentities (s.outputStreams u).listeners.rows →
        DistinctIdentities (s'.outputStreams u).listeners.rows) := by
  obtain ⟨i, t, hrow, s₁, hs₁, hs'⟩ := acmpConnectTx_cases h
  have hstart : SameButStreaming (s₁.outputStreams u) (s'.outputStreams u) := by
    rw [hs']
    split_ifs
    · exact .start
    · exact .refl _
  obtain ⟨hclass, -, hrows⟩ := @connectTxSetClass_stream cfg env
    (s.setListeners u (t.modify i (acmpConnectedRow env.nowUs))) u msg.talkerUid i
    (connectTxClass cfg (s.outputStreams u)
      (findTalkerListenerByIdentity (s.outputStreams u).listeners msg.listenerEntityId
        msg.listenerUid) msg.flags)
  rw [hstart.classB, hstart.listeners, hs₁, hclass, hrows, setListeners_self]
  refine ⟨rfl, fun hdistinct => ?_⟩
  have hconnected : DistinctIdentities (t.modify i (acmpConnectedRow env.nowUs)).rows :=
    (findOrAddTalkerListenerByIdentity_distinct hdistinct hrow).modify_same fun _ => rfl
  dsimp only
  split_ifs
  · exact walkBack_distinct hconnected renewRow_identity
  · exact hconnected

theorem talkerStep_distinct (h : DistinctIdentities (s.outputStreams u).listeners.rows)
    (e : TalkerEvent) :
    DistinctIdentities ((talkerStep cfg s e).outputStreams u).listeners.rows := by
  cases e with
  | destAddr v addr =>
      by_cases hv : u = v
      · subst hv
        simpa [talkerStep, TalkerState.setStream] using h
      · simpa [talkerStep, TalkerState.setStream, hv] using h
  | acmp env holders msg =>
      rw [acmp_stream]
      split_ifs
      · cases msg.msgType with
        | connectTxCommand =>
            dsimp only
            cases hs' : acmpConnectTx cfg env s u msg with
            | none => exact h
            | some s' => exact (acmpConnectTx_spec hs').2 h
        | disconnectTxCommand =>
            simpa only [(acmpDisconnectTx_spec cfg s u msg).listeners] using
              disconnectTxRows_distinct h msg
        | _ => exact h
      · exact h
  | listener env streamId leaving decl tr srcAddr =>
      rw [listener_stream]
      split_ifs
      · exact (listenerOn_spec leaving decl tr srcAddr).2 h
      · exact h

/-! ### DISCONNECT_TX -/

def AcmpMessage.listenerIdentity (msg : AcmpMessage) : UniqueId × UInt16 :=
  (msg.listenerEntityId, msg.listenerUid)

/-- One row goes, and the others close up. -/
def RemovesRow (p : TalkerListener → Prop) (t t' : ListenerRows) : Prop :=
  ∃ i row, t.rows[i]? = some row ∧ p row ∧ t'.rows = t.rows.eraseIdx i

/-- What a DISCONNECT_TX takes: at most one row of its entity; the listener's own if it has one, and
otherwise one without ACMP where the first row of the entity is such. -/
structure DisconnectRemoves (msg : AcmpMessage) (t t' : ListenerRows) : Prop where
  atMostOne : t' = t ∨ RemovesRow (·.identityId = msg.listenerEntityId) t t'
  own : (∃ row ∈ t.rows, row.identity = msg.listenerIdentity) →
    RemovesRow (·.identity = msg.listenerIdentity) t t'
  msrpOnly : (∀ row ∈ t.rows, row.identity ≠ msg.listenerIdentity) →
    (∀ i ∈ findTalkerListenerByEntity t msg.listenerEntityId,
      ∀ row ∈ t.rows[i]?, row.acmpConnected = false) →
    t' = t ∨
      RemovesRow (fun row => row.identityId = msg.listenerEntityId ∧ row.acmpConnected = false) t t'

theorem disconnectTxRows_removes (t : ListenerRows) (msg : AcmpMessage) :
    DisconnectRemoves msg t (disconnectTxRows t msg) := by
  unfold disconnectTxRows disconnectTxRow
  cases hknown : findTalkerListenerByIdentity t msg.listenerEntityId msg.listenerUid with
  | some i =>
      obtain ⟨row, hrow, hid⟩ := findTalkerListenerByIdentity_eq_some hknown
      have hown : RemovesRow (·.identity = msg.listenerIdentity) t (t.remove i) :=
        ⟨i, row, hrow, hid, rfl⟩
      refine ⟨Or.inr ⟨i, row, hrow, congrArg Prod.fst hid, rfl⟩, fun _ => hown, fun hnone => ?_⟩
      exact absurd hid (hnone row (List.mem_of_getElem? hrow))
  | none =>
      have hnone := findTalkerListenerByIdentity_eq_none.mp hknown
      have hown : ¬∃ row ∈ t.rows, row.identity = msg.listenerIdentity := by
        rintro ⟨row, hrow, hid⟩
        exact hnone row hrow hid
      rw [Option.none_or]
      cases hentity : findTalkerListenerByEntity t msg.listenerEntityId with
      | none => exact ⟨Or.inl rfl, fun h => absurd h hown, fun _ _ => Or.inl rfl⟩
      | some i =>
          obtain ⟨row, hrow, hid⟩ := findTalkerListenerByEntity_eq_some hentity
          refine ⟨Or.inr ⟨i, row, hrow, hid, rfl⟩, fun h => absurd h hown, fun _ hmsrp => ?_⟩
          exact Or.inr ⟨i, row, hrow, ⟨hid, hmsrp i hentity row hrow⟩, rfl⟩

/-! ### The class -/

theorem heldByOther_iff {known : Option Nat} :
    heldByOther t known ↔
      ∃ i row, t.rows[i]? = some row ∧ row.acmpConnected ∧ some i ≠ known := by
  unfold heldByOther
  rw [List.any_eq_true]
  constructor
  · rintro ⟨⟨row, i⟩, hmem, hheld⟩
    rw [Bool.and_eq_true, bne_iff_ne] at hheld
    exact ⟨i, row, List.mem_zipIdx_iff_getElem?.mp hmem, hheld.1, hheld.2⟩
  · rintro ⟨i, row, hrow, hacmp, hne⟩
    refine ⟨(row, i), List.mem_zipIdx_iff_getElem?.mpr hrow, ?_⟩
    rw [Bool.and_eq_true, bne_iff_ne]
    exact ⟨hacmp, hne⟩

/-- The class changes with a CONNECT_TX of the one listener that ACMP has connected, or of the first. -/
def ClassHeld (cfg : TalkerConfig) (s : TalkerState) (e : TalkerEvent) : Prop :=
  ∀ u, ((talkerStep cfg s e).outputStreams u).classB ≠ (s.outputStreams u).classB →
    ∃ env holders msg, e = .acmp env holders msg ∧ msg.msgType = .connectTxCommand ∧
      ∀ row ∈ (s.outputStreams u).listeners.rows, row.acmpConnected →
        row.identity = msg.listenerIdentity

theorem connectTxClass_held {msg : AcmpMessage}
    (h : connectTxClass cfg (s.outputStreams u)
      (findTalkerListenerByIdentity (s.outputStreams u).listeners msg.listenerEntityId
        msg.listenerUid) msg.flags ≠ (s.outputStreams u).classB) :
    ∀ row ∈ (s.outputStreams u).listeners.rows, row.acmpConnected →
      row.identity = msg.listenerIdentity := by
  intro row hrow hacmp
  obtain ⟨i, hi⟩ := List.mem_iff_getElem?.mp hrow
  by_contra hother
  apply h
  have hheld : heldByOther (s.outputStreams u).listeners
      (findTalkerListenerByIdentity (s.outputStreams u).listeners msg.listenerEntityId
        msg.listenerUid) := by
    apply heldByOther_iff.mpr
    refine ⟨i, row, hi, hacmp, fun hknown => ?_⟩
    obtain ⟨row', hrow', hid⟩ := findTalkerListenerByIdentity_eq_some hknown.symm
    rw [hi] at hrow'
    exact hother (Option.some.inj hrow' ▸ hid)
  exact if_pos hheld

theorem classHeld (cfg : TalkerConfig) (s : TalkerState) (e : TalkerEvent) : ClassHeld cfg s e := by
  intro u hchange
  cases e with
  | destAddr v addr =>
      refine absurd ?_ hchange
      by_cases hv : u = v
      · subst hv
        simp [talkerStep, TalkerState.setStream]
      · simp [talkerStep, TalkerState.setStream, hv]
  | listener env streamId leaving decl tr srcAddr =>
      rw [listener_stream] at hchange
      split_ifs at hchange
      · exact absurd (listenerOn_spec leaving decl tr srcAddr).1 hchange
      · exact absurd rfl hchange
  | acmp env holders msg =>
      rw [acmp_stream] at hchange
      split_ifs at hchange
      · cases hmsg : msg.msgType with
        | connectTxCommand =>
            refine ⟨env, holders, msg, rfl, hmsg, ?_⟩
            rw [hmsg] at hchange
            dsimp only at hchange
            cases hs' : acmpConnectTx cfg env s u msg with
            | none => exact absurd (by rw [hs', Option.getD_none]) hchange
            | some s' =>
                rw [hs', Option.getD_some, (acmpConnectTx_spec hs').1] at hchange
                exact connectTxClass_held hchange
        | disconnectTxCommand =>
            rw [hmsg] at hchange
            exact absurd (acmpDisconnectTx_spec cfg s u msg).classB hchange
        | _ =>
            rw [hmsg] at hchange
            exact absurd rfl hchange
      · exact absurd rfl hchange

/-! ### A repeated CONNECT_TX -/

/-- Nothing changes but one row of the identity `key`, by `f`; the stream may start, and one answer at
most is sent. -/
structure OnlyTouches (u : Fin avbMaxNumOutputStreams) (key : UniqueId × UInt16)
    (f : TalkerListener → TalkerListener) (s s' : TalkerState) : Prop where
  others : ∀ v ≠ u, s'.outputStreams v = s.outputStreams v
  stream : ∃ t', SameButStreaming { s.outputStreams u with listeners := t' } (s'.outputStreams u) ∧
    (t' = (s.outputStreams u).listeners ∨
      ∃ i row, (s.outputStreams u).listeners.rows[i]? = some row ∧ row.identity = key ∧
        t' = (s.outputStreams u).listeners.modify i f)
  running : (s.outputStreams u).streaming → (s'.outputStreams u).streaming
  avbLite : s'.avbLite = s.avbLite
  ctrlTestTone : s'.ctrlTestTone = s.ctrlTestTone
  effects : s'.effects = s.effects ∨ ∃ response : AcmpMessage,
    response.msgType = .connectTxResponse ∧ s'.effects = s.effects ++ [.acmp response]

/-- From a listener that is connected already and whose request leaves the class, a CONNECT_TX
touches the listener's row. -/
def ConnectedQuiet (cfg : TalkerConfig) (s : TalkerState) : TalkerEvent → Prop
  | .acmp env holders msg =>
      msg.msgType = .connectTxCommand → ∀ u, reachesOutput cfg holders msg u →
        ∀ i ∈ findTalkerListenerByIdentity (s.outputStreams u).listeners msg.listenerEntityId
          msg.listenerUid,
        connectTxClass cfg (s.outputStreams u) (some i) msg.flags = (s.outputStreams u).classB →
          OnlyTouches u msg.listenerIdentity (acmpConnectedRow env.nowUs) s
            (talkerStep cfg s (.acmp env holders msg))
  | _ => True

/-- A CONNECT_TX that comes again at once touches the time of the listener's row. It starts the stream
only where nothing could be started before. -/
def RepeatQuiet (cfg : TalkerConfig) (s : TalkerState) : TalkerEvent → Prop
  | .acmp env holders msg =>
      msg.msgType = .connectTxCommand → ∀ u, reachesOutput cfg holders msg u →
        ∀ env' holders',
          let once := talkerStep cfg s (.acmp env holders msg)
          let twice := talkerStep cfg once (.acmp env' holders' msg)
          OnlyTouches u msg.listenerIdentity (fun row => { row with lastSeenUs := env'.nowUs })
              once twice ∧
            (env.streamOutStarts →
              (twice.outputStreams u).streaming = (once.outputStreams u).streaming)
  | _ => True

section

variable {holders : EntityHolders} {msg : AcmpMessage} {s' : TalkerState}
variable {f : TalkerListener → TalkerListener}

theorem reachesOutput_iff :
    reachesOutput cfg holders msg u ↔
      msg.talkerEntityId = cfg.entityId ∧ talkerUid cfg msg.talkerUid = some u ∧
        avbAcquiredOrLockedByOther holders msg.controllerEntityId = false := by
  simp [reachesOutput, and_assoc]

/-- An accepted or refused CONNECT_TX answers over what it leaves. -/
theorem connectTx_step (htype : msg.msgType = .connectTxCommand)
    (hself : msg.talkerEntityId = cfg.entityId) (huid : talkerUid cfg msg.talkerUid = some u) :
    ∃ response status,
      talkerStep cfg s (.acmp env holders msg) =
        talkerAcmpResponse env
          (if avbAcquiredOrLockedByOther holders msg.controllerEntityId then s
            else (acmpConnectTx cfg env s u msg).getD s) .connectTxResponse response status := by
  unfold talkerStep avbProcessAcmpTalker avbProcessAcmpConnectTxCommand
  dsimp only
  rw [if_neg (not_not_intro hself), htype]
  dsimp only
  rw [huid]
  simp only [Bool.false_eq_true, if_false]
  split_ifs
  · exact ⟨_, _, rfl⟩
  · cases acmpConnectTx cfg env s u msg with
    | none => exact ⟨_, _, rfl⟩
    | some s' => exact ⟨_, _, rfl⟩

namespace OnlyTouches

/-- The answer is the one thing left to do. -/
theorem answered {key : UniqueId × UInt16} (h : OnlyTouches u key f s s')
    (heffects : s'.effects = s.effects) (response : AcmpMessage) (status : AcmpStatus) :
    OnlyTouches u key f s (talkerAcmpResponse env s' .connectTxResponse response status) := by
  unfold talkerAcmpResponse
  dsimp only
  split_ifs
  · refine ⟨h.others, h.stream, h.running, h.avbLite, h.ctrlTestTone, Or.inr
      ⟨{ response with msgType := .connectTxResponse, status }, rfl, ?_⟩⟩
    exact congrArg (· ++ _) heffects
  · exact h

theorem refl (key : UniqueId × UInt16) : OnlyTouches u key f s s :=
  ⟨fun _ _ => rfl, ⟨_, .refl _, Or.inl rfl⟩, id, rfl, rfl, Or.inl rfl⟩

end OnlyTouches

theorem avbStartStreamOut_quiet :
    (avbStartStreamOut env s u).avbLite = s.avbLite ∧
      (avbStartStreamOut env s u).ctrlTestTone = s.ctrlTestTone ∧
      (avbStartStreamOut env s u).effects = s.effects := by
  unfold avbStartStreamOut
  dsimp only
  split_ifs <;> exact ⟨rfl, rfl, rfl⟩

theorem avbStartStreamOut_running (h : (s.outputStreams u).streaming) :
    avbStartStreamOut env s u = s := by
  simp [avbStartStreamOut, h]

theorem findOrAddTalkerListenerByIdentity_known {entityId : UniqueId} {uid : UInt16} {i : Nat}
    (h : findTalkerListenerByIdentity t entityId uid = some i) :
    findOrAddTalkerListenerByIdentity t entityId uid = some (i, t) := by
  unfold findOrAddTalkerListenerByIdentity
  rw [h]

/-- A connected listener's row, found again, and the stream's start. -/
theorem acmpConnectTx_known {i : Nat}
    (hknown : findTalkerListenerByIdentity (s.outputStreams u).listeners msg.listenerEntityId
      msg.listenerUid = some i)
    (hclass : connectTxClass cfg (s.outputStreams u) (some i) msg.flags =
      (s.outputStreams u).classB) :
    acmpConnectTx cfg env s u msg =
      let s₁ := s.setListeners u
        ((s.outputStreams u).listeners.modify i (acmpConnectedRow env.nowUs))
      some (if ((s₁.outputStreams u).listeners.rows[i]?).any (·.msrpReady) &&
          !(s₁.outputStreams u).streaming && !s₁.avbLite then avbStartStreamOut env s₁ u
        else s₁) := by
  rw [acmpConnectTx_eq (findOrAddTalkerListenerByIdentity_known hknown), hknown, hclass,
    connectTxSetClass_same (by rw [setListeners_self])]

/-- What such a CONNECT_TX touches. -/
theorem acmpConnectTx_touches {i : Nat}
    (hknown : findTalkerListenerByIdentity (s.outputStreams u).listeners msg.listenerEntityId
      msg.listenerUid = some i)
    (hclass : connectTxClass cfg (s.outputStreams u) (some i) msg.flags =
      (s.outputStreams u).classB)
    (hf : ∀ row ∈ (s.outputStreams u).listeners.rows[i]?, acmpConnectedRow env.nowUs row = f row) :
    let s' := (acmpConnectTx cfg env s u msg).getD s
    OnlyTouches u msg.listenerIdentity f s s' ∧ s'.effects = s.effects := by
  obtain ⟨row, hrow, hid⟩ := findTalkerListenerByIdentity_eq_some hknown
  have hmodify : (s.outputStreams u).listeners.modify i (acmpConnectedRow env.nowUs) =
      (s.outputStreams u).listeners.modify i f := by
    simp only [ListenerRows.modify, ListenerRows.mk.injEq]
    obtain ⟨hi, hget⟩ := List.getElem?_eq_some_iff.mp hrow
    rw [List.modify_eq_set_getElem?, List.modify_eq_set_getElem?, hrow]
    simp [hf row hrow]
  rw [acmpConnectTx_known hknown hclass, hmodify]
  dsimp only
  set s₁ := s.setListeners u ((s.outputStreams u).listeners.modify i f) with hs₁
  have hon : OnStream u s s₁ := .setStream _
  have hstream : SameButStreaming
      { s.outputStreams u with listeners := (s.outputStreams u).listeners.modify i f }
      (s₁.outputStreams u) := by
    rw [hs₁, setListeners_self]
    exact .refl _
  have hrun : (s₁.outputStreams u).streaming = (s.outputStreams u).streaming := by
    rw [hs₁, setListeners_self]
  have htouch : ∃ j row, (s.outputStreams u).listeners.rows[j]? = some row ∧
      row.identity = msg.listenerIdentity ∧
      (s.outputStreams u).listeners.modify i f = (s.outputStreams u).listeners.modify j f :=
    ⟨i, row, hrow, hid, rfl⟩
  rw [Option.getD_some]
  split_ifs with hstart
  · obtain ⟨hlite, htone, heffects⟩ := @avbStartStreamOut_quiet env s₁ u
    have hstarted : SameButStreaming (s₁.outputStreams u)
        ((avbStartStreamOut env s₁ u).outputStreams u) := .start
    refine ⟨⟨(hon.trans .start).others, ⟨_, ?_, Or.inr htouch⟩, fun h => ?_, hlite, htone,
      Or.inl heffects⟩, heffects⟩
    · unfold SameButStreaming at hstarted ⊢
      rw [hstarted, hs₁, setListeners_self]
    · simp [hrun, h] at hstart
  · exact ⟨⟨hon.others, ⟨_, hstream, Or.inr htouch⟩, fun h => hrun ▸ h, rfl, rfl, Or.inl rfl⟩, rfl⟩

theorem connectedQuiet (cfg : TalkerConfig) (s : TalkerState) (e : TalkerEvent) :
    ConnectedQuiet cfg s e := by
  cases e with
  | destAddr v addr => trivial
  | listener env streamId leaving decl tr srcAddr => trivial
  | acmp env holders msg =>
      intro htype u hreaches i hknown hclass
      obtain ⟨hself, huid, hfree⟩ := reachesOutput_iff.mp hreaches
      obtain ⟨response, status, hstep⟩ := @connectTx_step cfg env s u holders msg htype hself huid
      obtain ⟨htouches, heffects⟩ := @acmpConnectTx_touches cfg env s u msg _ i hknown hclass
        fun _ _ => rfl
      rw [hstep, hfree, if_neg Bool.false_ne_true]
      exact htouches.answered heffects response status

theorem List.findIdx?_modify_of_none {α : Type*} {p : α → Bool} {f : α → α} {l : List α} {i : Nat}
    (hnone : ∀ a ∈ l, ¬p a) (hi : i < l.length) (hp : p (f l[i])) :
    (l.modify i f).findIdx? p = some i := by
  rw [List.findIdx?_eq_some_iff_getElem]
  refine ⟨by simpa using hi, by simpa using hp, fun j hj => ?_⟩
  rw [List.getElem_modify, if_neg hj.ne']
  exact hnone _ (List.getElem_mem _)

theorem findTalkerListenerByIdentity_modify {entityId : UniqueId} {uid : UInt16} {i : Nat}
    (hf : ∀ row, (f row).identity = row.identity) :
    findTalkerListenerByIdentity (t.modify i f) entityId uid =
      findTalkerListenerByIdentity t entityId uid := by
  have hkey : ∀ l : List TalkerListener,
      l.findIdx? (fun row => row.identityId == entityId && row.identityUid == uid) =
        (l.map (·.identity)).findIdx? fun key => key.1 == entityId && key.2 == uid := by
    intro l
    rw [List.findIdx?_map]
    rfl
  unfold findTalkerListenerByIdentity
  rw [hkey, hkey, ListenerRows.modify, DistinctIdentities.map_modify_same hf]

theorem ListenerRows.getElem?_add {row : TalkerListener} {t' : ListenerRows}
    (h : t.add row = some t') : t'.rows = t.rows ++ [row] := by
  unfold ListenerRows.add at h
  split_ifs at h
  rw [← Option.some.inj h]

/-- The row that is found or made is the first of its identity. -/
theorem findOrAddTalkerListenerByIdentity_find {entityId : UniqueId} {uid : UInt16} {i : Nat}
    {t' : ListenerRows} (h : findOrAddTalkerListenerByIdentity t entityId uid = some (i, t')) :
    findTalkerListenerByIdentity t' entityId uid = some i := by
  unfold findOrAddTalkerListenerByIdentity at h
  split at h
  · rename_i hknown
    obtain ⟨rfl, rfl⟩ := Prod.mk.inj (Option.some.inj h)
    exact hknown
  · rename_i hnone
    have hfresh : ∀ row ∈ t.rows, ¬(row.identityId == entityId && row.identityUid == uid) := by
      intro row hrow hid
      apply findTalkerListenerByIdentity_eq_none.mp hnone row hrow
      simpa [TalkerListener.identity] using hid
    dsimp only at h
    split at h
    · rename_i j hentity
      obtain ⟨rfl, rfl⟩ := Prod.mk.inj (Option.some.inj h)
      obtain ⟨row, hrow, hid⟩ :=
        findTalkerListenerByEntity_eq_some (Option.filter_eq_some_iff.mp hentity).1
      obtain ⟨hi, rfl⟩ := List.getElem?_eq_some_iff.mp hrow
      exact List.findIdx?_modify_of_none hfresh hi (by simpa using hid)
    · split at h
      · rename_i hpending
        obtain ⟨rfl, rfl⟩ := Prod.mk.inj (Option.some.inj h)
        exact List.findIdx?_modify_of_none hfresh (solePending_lt hpending) (by simp)
      · obtain ⟨t'', hadd, heq⟩ := Option.map_eq_some_iff.mp h
        obtain ⟨rfl, rfl⟩ := Prod.mk.inj heq
        have hold := List.findIdx?_eq_none_iff.mpr fun row hrow =>
          Bool.eq_false_of_not_eq_true (hfresh row hrow)
        unfold findTalkerListenerByIdentity
        rw [ListenerRows.getElem?_add hadd, List.findIdx?_append, hold]
        simp

/-- A row that ACMP holds is none of those that a new identity may take. -/
theorem findOrAddTalkerListenerByIdentity_held {entityId : UniqueId} {uid : UInt16} {i : Nat}
    {t' : ListenerRows} (h : findOrAddTalkerListenerByIdentity t entityId uid = some (i, t'))
    (hheld : heldByOther t (findTalkerListenerByIdentity t entityId uid)) :
    heldByOther t' (some i) := by
  obtain ⟨j, row, hrow, hacmp, hother⟩ := heldByOther_iff.mp hheld
  have hmodified : ∀ {k : Nat} {f : TalkerListener → TalkerListener}, j ≠ k →
      heldByOther (t.modify k f) (some k) := by
    intro k f hjk
    apply heldByOther_iff.mpr
    refine ⟨j, row, ?_, hacmp, by simpa using hjk⟩
    simp [ListenerRows.modify, hrow, hjk.symm]
  unfold findOrAddTalkerListenerByIdentity at h
  split at h
  · rename_i hknown
    obtain ⟨rfl, rfl⟩ := Prod.mk.inj (Option.some.inj h)
    exact heldByOther_iff.mpr ⟨j, row, hrow, hacmp, hknown ▸ hother⟩
  · dsimp only at h
    split at h
    · rename_i k hentity
      obtain ⟨rfl, rfl⟩ := Prod.mk.inj (Option.some.inj h)
      apply hmodified
      rintro rfl
      have hfree := (Option.filter_eq_some_iff.mp hentity).2
      rw [hrow] at hfree
      simp [hacmp] at hfree
    · split at h
      · rename_i k hpending
        obtain ⟨rfl, rfl⟩ := Prod.mk.inj (Option.some.inj h)
        apply hmodified
        rintro rfl
        unfold solePending at hpending
        dsimp only at hpending
        split_ifs at hpending
        obtain ⟨hj, hfree, -⟩ := List.findIdx?_eq_some_iff_getElem.mp hpending
        rw [(List.getElem?_eq_some_iff.mp hrow).2] at hfree
        simp [hacmp] at hfree
      · obtain ⟨t'', hadd, heq⟩ := Option.map_eq_some_iff.mp h
        obtain ⟨rfl, rfl⟩ := Prod.mk.inj heq
        have hj := (List.getElem?_eq_some_iff.mp hrow).1
        apply heldByOther_iff.mpr
        refine ⟨j, row, ?_, hacmp, by simpa using hj.ne⟩
        rw [ListenerRows.getElem?_add hadd, List.getElem?_append_left hj, hrow]

theorem heldByOther_modify {i : Nat} (h : heldByOther t (some i)) :
    heldByOther (t.modify i f) (some i) := by
  obtain ⟨j, row, hrow, hacmp, hother⟩ := heldByOther_iff.mp h
  have hij : ¬i = j := fun hij => hother (congrArg some hij.symm)
  apply heldByOther_iff.mpr
  refine ⟨j, row, ?_, hacmp, hother⟩
  simp [ListenerRows.modify, hrow, hij]

/-- A row of the connecting listener is there after the stream ID was renewed, too. -/
theorem renewRow_find {entityId : UniqueId} {uid : UInt16} {i : Nat} {row : TalkerListener}
    (hrow : t.rows[i]? = some row) (hid : row.identity = (entityId, uid))
    (hacmp : row.acmpConnected) :
    ∃ j row', findTalkerListenerByIdentity (t.walkBack renewRow) entityId uid = some j ∧
      (t.walkBack renewRow).rows[j]? = some row' ∧ row'.acmpConnected ∧
      row'.askingFailed = false ∧ row'.msrpReady = false := by
  have hrows : (t.walkBack renewRow).rows = t.rows.filterMap renewRow := by
    simp only [ListenerRows.walkBack, WalkBack.walk_eq_filterMap]
  cases hfind : findTalkerListenerByIdentity (t.walkBack renewRow) entityId uid with
  | none =>
      have hkept := findTalkerListenerByIdentity_eq_none.mp hfind
      rw [hrows] at hkept
      have hrenewed : renewRow row = some _ := if_pos hacmp
      have hother := hkept _ (List.mem_filterMap.mpr ⟨row, List.mem_of_getElem? hrow, hrenewed⟩)
      exact absurd hid hother
  | some j =>
      obtain ⟨row', hrow', -⟩ := findTalkerListenerByIdentity_eq_some hfind
      have hmem := List.mem_of_getElem? hrow'
      rw [hrows] at hmem
      obtain ⟨old, -, hrenewed⟩ := List.mem_filterMap.mp hmem
      unfold renewRow at hrenewed
      split_ifs at hrenewed with hold
      obtain rfl := Option.some.inj hrenewed
      exact ⟨j, _, rfl, hrow', hold, rfl, rfl⟩

/-- The connected row in what the class setting leaves. -/
theorem connectedRow_find {entityId : UniqueId} {uid : UInt16} {i : Nat} {t' : ListenerRows}
    {nowUs : Nat} (hfind : findTalkerListenerByIdentity t entityId uid = some i)
    (ht' : t' = t.modify i (acmpConnectedRow nowUs) ∨
      t' = (t.modify i (acmpConnectedRow nowUs)).walkBack renewRow) :
    ∃ j row, findTalkerListenerByIdentity t' entityId uid = some j ∧ t'.rows[j]? = some row ∧
      row.acmpConnected ∧ row.askingFailed = false ∧
      (row.msrpReady → (t'.rows[i]?).any (·.msrpReady)) := by
  obtain ⟨old, hold, hid⟩ := findTalkerListenerByIdentity_eq_some hfind
  have hrow : (t.modify i (acmpConnectedRow nowUs)).rows[i]? = some (acmpConnectedRow nowUs old) := by
    simp [ListenerRows.modify, hold]
  have hsame : ∀ row, (acmpConnectedRow nowUs row).identity = row.identity := fun _ => rfl
  rcases ht' with rfl | rfl
  · refine ⟨i, _, ?_, hrow, rfl, rfl, fun hready => ?_⟩
    · rw [findTalkerListenerByIdentity_modify hsame, hfind]
    · rw [hrow]
      exact hready
  · obtain ⟨j, row, hj, hget, hacmp, hasking, hready⟩ := renewRow_find hrow hid rfl
    refine ⟨j, row, hj, hget, hacmp, hasking, fun hready' => ?_⟩
    rw [hready] at hready'
    cases hready'

theorem avbStartStreamOut_waits (hstarts : env.streamOutStarts)
    (h : ((avbStartStreamOut env s u).outputStreams u).streaming = false) :
    (s.outputStreams u).streamDestAddr = .zero 6 := by
  unfold avbStartStreamOut at h
  dsimp only at h
  split_ifs at h with hwaits
  · simpa [h, hstarts] using hwaits
  · simp [TalkerState.setStream] at h

/-- Once accepted, the command finds its listener connected and the class settled. It waits for its
stream to start only without an address or in AVB Lite. -/
theorem acmpConnectTx_again (h : acmpConnectTx cfg env s u msg = some s') :
    ∃ j row, findTalkerListenerByIdentity (s'.outputStreams u).listeners msg.listenerEntityId
        msg.listenerUid = some j ∧
      (s'.outputStreams u).listeners.rows[j]? = some row ∧
      row.acmpConnected ∧ row.askingFailed = false ∧
      connectTxClass cfg (s'.outputStreams u) (some j) msg.flags = (s'.outputStreams u).classB ∧
      (env.streamOutStarts → (s'.outputStreams u).streaming = false → row.msrpReady →
        s'.avbLite ∨ (s'.outputStreams u).streamDestAddr = .zero 6) := by
  obtain ⟨i, t, hrow, s₁, hs₁, hs'⟩ := acmpConnectTx_cases h
  have hfind := findOrAddTalkerListenerByIdentity_find hrow
  set stream := s.outputStreams u with hstreamDef
  set known := findTalkerListenerByIdentity stream.listeners msg.listenerEntityId msg.listenerUid
    with hknown
  set T := t.modify i (acmpConnectedRow env.nowUs) with hT
  obtain ⟨hclass, hformat, hrows⟩ := @connectTxSetClass_stream cfg env (s.setListeners u T) u
    msg.talkerUid i (connectTxClass cfg stream known msg.flags)
  rw [← hs₁] at hclass hformat hrows
  rw [setListeners_self] at hformat hrows
  have hstart : SameButStreaming (s₁.outputStreams u) (s'.outputStreams u) := by
    rw [hs']
    split_ifs
    · exact .start
    · exact .refl _
  have hrows' : (s₁.outputStreams u).listeners = T ∨
      (s₁.outputStreams u).listeners = T.walkBack renewRow := by
    rw [hrows]
    split_ifs
    · exact Or.inr rfl
    · exact Or.inl rfl
  obtain ⟨j, row, hj, hget, hacmp, hasking, hready⟩ := connectedRow_find hfind hrows'
  refine ⟨j, row, ?_, ?_, hacmp, hasking, ?_, ?_⟩
  · rw [hstart.listeners, hj]
  · rw [hstart.listeners, hget]
  · by_cases hheld : heldByOther stream.listeners known
    · have hcls : connectTxClass cfg stream known msg.flags = stream.classB := if_pos hheld
      have hsame : ∀ row, (acmpConnectedRow env.nowUs row).identity = row.identity := fun _ => rfl
      rw [hcls, connectTxSetClass_same (by rw [setListeners_self])] at hs₁
      have hT₁ : (s₁.outputStreams u).listeners = T := by rw [hs₁, setListeners_self]
      rw [hT₁, hT, findTalkerListenerByIdentity_modify hsame, hfind] at hj
      obtain rfl := Option.some.inj hj
      have hstill : heldByOther (s'.outputStreams u).listeners (some i) := by
        rw [hstart.listeners, hT₁]
        exact heldByOther_modify (findOrAddTalkerListenerByIdentity_held hrow hheld)
      exact if_pos hstill
    · unfold connectTxClass at hclass ⊢
      rw [if_neg hheld] at hclass
      rw [hstart.streamFormat, hstart.classB, hformat, hclass]
      split_ifs <;> rfl
  · intro hstarts hidle hrowReady
    have hwas := hready hrowReady
    split_ifs at hs' with hgo
    · right
      rw [hstart.streamDestAddr]
      rw [hs'] at hidle
      exact avbStartStreamOut_waits hstarts hidle
    · left
      subst hs'
      simpa [hwas, hidle] using hgo

theorem avbStartStreamOut_unaddressed (h : (s.outputStreams u).streamDestAddr = .zero 6) :
    avbStartStreamOut env s u = s := by
  simp [avbStartStreamOut, h]

/-- A command that finds its listener connected starts nothing that could not start before. -/
theorem acmpConnectTx_streaming {i : Nat} {row : TalkerListener}
    (hknown : findTalkerListenerByIdentity (s.outputStreams u).listeners msg.listenerEntityId
      msg.listenerUid = some i)
    (hclass : connectTxClass cfg (s.outputStreams u) (some i) msg.flags =
      (s.outputStreams u).classB)
    (hrow : (s.outputStreams u).listeners.rows[i]? = some row)
    (hwaits : (s.outputStreams u).streaming = false → row.msrpReady →
      s.avbLite ∨ (s.outputStreams u).streamDestAddr = .zero 6) :
    ((((acmpConnectTx cfg env s u msg).getD s).outputStreams u).streaming) =
      (s.outputStreams u).streaming := by
  rw [acmpConnectTx_known hknown hclass]
  dsimp only
  set s₁ := s.setListeners u
    ((s.outputStreams u).listeners.modify i (acmpConnectedRow env.nowUs)) with hs₁
  have hstream : s₁.outputStreams u = { s.outputStreams u with
      listeners := (s.outputStreams u).listeners.modify i (acmpConnectedRow env.nowUs) } := by
    rw [hs₁, setListeners_self]
  have hready : ((s₁.outputStreams u).listeners.rows[i]?).any (·.msrpReady) = row.msrpReady := by
    rw [hstream]
    simp [ListenerRows.modify, hrow, acmpConnectedRow]
  rw [Option.getD_some, hready]
  split_ifs with hgo
  · simp only [Bool.and_eq_true, Bool.not_eq_true'] at hgo
    obtain ⟨⟨hrowReady, hidle⟩, hlite⟩ := hgo
    rw [hstream] at hidle
    rcases hwaits hidle hrowReady with hinLite | haddr
    · exact absurd (hinLite.symm.trans hlite) Bool.false_ne_true.symm
    · rw [avbStartStreamOut_unaddressed (by rw [hstream]; exact haddr), hstream]
  · rw [hstream]

theorem repeatQuiet (cfg : TalkerConfig) (s : TalkerState) (e : TalkerEvent) :
    RepeatQuiet cfg s e := by
  cases e with
  | destAddr v addr => trivial
  | listener env streamId leaving decl tr srcAddr => trivial
  | acmp env holders msg =>
      intro htype u hreaches env' holders'
      obtain ⟨hself, huid, hfree⟩ := reachesOutput_iff.mp hreaches
      obtain ⟨response, status, honce⟩ := @connectTx_step cfg env s u holders msg htype hself huid
      rw [hfree, if_neg Bool.false_ne_true] at honce
      dsimp only
      generalize talkerStep cfg s (.acmp env holders msg) = once at honce ⊢
      obtain ⟨response', status', htwice⟩ :=
        @connectTx_step cfg env' once u holders' msg htype hself huid
      rw [htwice, talkerAcmpResponse_outputStreams]
      split_ifs
      · exact ⟨(OnlyTouches.refl _).answered rfl response' status', fun _ => rfl⟩
      cases hs' : acmpConnectTx cfg env s u msg with
      | none =>
          -- A full table is as full as before.
          have hstreams : once.outputStreams = s.outputStreams := by
            rw [honce, hs', Option.getD_none, talkerAcmpResponse_outputStreams]
          have hagain := @acmpConnectTx_isSome cfg env' once u msg
          rw [hstreams, ← @acmpConnectTx_isSome cfg env s u msg, hs', Option.isSome_none,
            Option.isSome_eq_false_iff, Option.isNone_iff_eq_none] at hagain
          rw [hagain, Option.getD_none]
          exact ⟨(OnlyTouches.refl _).answered rfl response' status', fun _ => rfl⟩
      | some s' =>
          obtain ⟨j, row, hknown, hrow, hacmp, hasking, hclass, hwaits⟩ := acmpConnectTx_again hs'
          have hstreams : once.outputStreams = s'.outputStreams := by
            rw [honce, hs', Option.getD_some, talkerAcmpResponse_outputStreams]
          have hlite : once.avbLite = s'.avbLite := by
            rw [honce, hs', Option.getD_some, talkerAcmpResponse_avbLite]
          rw [← hstreams] at hknown hrow hclass
          rw [← hlite, ← hstreams] at hwaits
          obtain ⟨htouches, heffects⟩ := @acmpConnectTx_touches cfg env' once u msg
            (fun row => { row with lastSeenUs := env'.nowUs }) j hknown hclass (by
              intro row' hrow'
              obtain rfl := Option.some.inj (hrow.symm.trans hrow')
              simp [acmpConnectedRow, hacmp, hasking])
          refine ⟨htouches.answered heffects response' status', fun hstarts => ?_⟩
          exact acmpConnectTx_streaming hknown hclass hrow (hwaits hstarts)

end

/-! ### Runs -/

/-- What every event keeps of a talker's rows. -/
structure TalkerRowsKept (cfg : TalkerConfig) (s : TalkerArrays) (e : TalkerEvent) : Prop where
  disconnect : ∀ env holders msg, e = .acmp env holders msg →
    msg.msgType = .disconnectTxCommand → ∀ u, reachesOutput cfg holders msg u →
      DisconnectRemoves msg (s.talker.outputStreams u).listeners
        ((talkerStep cfg s.talker e).outputStreams u).listeners
  connected : ConnectedQuiet cfg s.talker e
  repeated : RepeatQuiet cfg s.talker e
  classHeld : ClassHeld cfg s.talker e
  distinct : ∀ u, DistinctIdentities ((talkerStep cfg s.talker e).outputStreams u).listeners.rows
  inUse : ∀ u, ((talkerArraysStep cfg s e).arrays u).inUse =
    ((talkerStep cfg s.talker e).outputStreams u).listeners.rows
  zeroBeyond : ∀ u i, ((talkerArraysStep cfg s e).arrays u).connectionCount ≤ i →
    ((talkerArraysStep cfg s e).arrays u).row i = .zero

/-- **Who is in a talker's rows.** From tables without rows, every event of every run takes out, adds
and changes rows as `TalkerRowsKept` says. -/
theorem talker_rows_kept (cfg : TalkerConfig) (s : TalkerState)
    (hs : ∀ u, (s.outputStreams u).listeners = .empty) (events : List TalkerEvent) :
    Machine.RunMeets (TalkerRowsKept cfg) (talkerArraysStep cfg) ⟨s, fun _ => .empty⟩ events := by
  let Inv : TalkerArrays → Prop := fun s =>
    ∀ u, (s.arrays u).Holds (s.talker.outputStreams u).listeners.rows ∧
      DistinctIdentities (s.talker.outputStreams u).listeners.rows
  apply Machine.RunMeets.of_invariant Inv
  · intro s e hinv u
    exact ⟨arrayStep_holds (hinv u).1 e, talkerStep_distinct (hinv u).2 e⟩
  · intro s e hinv
    have harray := fun u => @arrayStep_holds cfg s.talker u _ (hinv u).1 e
    refine ⟨?_, connectedQuiet cfg s.talker e, repeatQuiet cfg s.talker e, classHeld cfg s.talker e,
      fun u => talkerStep_distinct (hinv u).2 e, fun u => (harray u).inUse,
      fun u i hi => (harray u).zero_beyond hi⟩
    rintro env holders msg rfl hmsg u hreaches
    rw [acmp_stream, if_pos hreaches, hmsg, (acmpDisconnectTx_spec cfg s.talker u msg).listeners]
    exact disconnectTxRows_removes _ msg
  · intro u
    dsimp only
    rw [hs u]
    exact ⟨.empty, List.Pairwise.nil⟩

/-- The listener at MAC `a` connects its input `uid`. -/
def listenerMsg (msgType : AcmpMsgType) (uid : UInt16) : AcmpMessage :=
  { talkerMsg msgType (.ofNat 8 0xa) with listenerUid := uid }

theorem talker_rows_kept_once :
    Machine.RunMeets (TalkerRowsKept plainTalker) (talkerArraysStep plainTalker)
      ⟨.blank false, fun _ => .empty⟩
      (connectedRun ++ [.acmp (.at 3) .none (talkerMsg .disconnectTxCommand (.ofNat 8 0xa))]) :=
  talker_rows_kept plainTalker (.blank false) (fun _ => rfl) _

/-- Input 0 of a listener is connected. A DISCONNECT_TX of its input 1, which is not, takes the row of
input 0 away; and the CONNECT_TX of input 0, repeated, changes the row's time. -/
theorem talker_rows_exceptions :
    let connect := fun us => TalkerEvent.acmp (.at us) .none (listenerMsg .connectTxCommand 0)
    let s := talkerStep plainTalker (.blank false) (connect 1)
    let disconnected := talkerStep plainTalker s
      (.acmp (.at 2) .none (listenerMsg .disconnectTxCommand 1))
    let repeated := talkerStep plainTalker s (connect 2)
    ((s.outputStreams ⟨0, by decide⟩).listeners.rows.map fun row =>
        (row.identity, row.acmpConnected)) = [((.ofNat 8 0xa, 0), true)] ∧
      (disconnected.outputStreams ⟨0, by decide⟩).listeners.rows = [] ∧
      (repeated.outputStreams ⟨0, by decide⟩).listeners ≠
        (s.outputStreams ⟨0, by decide⟩).listeners := by
  decide +kernel

end EspAvb
