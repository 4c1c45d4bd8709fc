import EspAvb.Lib.Machine
import EspAvb.Proof.LiteFrame
import EspAvb.Proof.RunState
import EspAvb.Proof.TalkerRows
import EspAvb.Renewal
import Mathlib.Logic.Relation

/-!
# No stream ID is taken twice

Whatever a call does to the talker is a chain of moves, of which only one kind changes a stream ID. The
stream IDs and the log of what was declared and withdrawn are followed along the chain; what a renewal
finds and leaves of the rows is read off the calls themselves.
-/

namespace EspAvb

open Machine Relation

variable {touches renews : Prop} {cfg : TalkerConfig} {env : TalkerEnv} {now : Nat}
  {t t' t'' : TalkerState}
  {u v : Fin avbMaxNumOutputStreams}

/-! ## Moves -/

/-- A stream keeps its stream ID. -/
def SameStreamId (stream stream' : AvbTalkerStream) : Prop :=
  stream'.streamId = stream.streamId ∧ stream'.streamIdGen = stream.streamIdGen ∧
    stream'.streamIdRetiredUs = stream.streamIdRetiredUs

/-- Neither a declaration nor a withdrawal. -/
def QuietEffect : TalkerEffect → Prop
  | .declareTalker .. | .withdrawTalker _ => False
  | _ => True

/-- The rows of a stream and whether it runs. -/
def SameRows (stream stream' : AvbTalkerStream) : Prop :=
  stream'.listeners = stream.listeners ∧ stream'.streaming = stream.streaming

/-- One move of the talker at a time. `touches` is whether the rows may change outside a renewal,
`renews` whether there may be one. -/
inductive TalkerMove (touches renews : Prop) (now : Nat) (t t' : TalkerState) : Prop
  | quiet (hids : ∀ u, SameStreamId (t.outputStreams u) (t'.outputStreams u))
      (hrows : touches ∨ ∀ u, SameRows (t.outputStreams u) (t'.outputStreams u))
      (heffects : ∃ new, t'.effects = t.effects ++ new ∧ ∀ e ∈ new, QuietEffect e)
  | declare (u : Fin avbMaxNumOutputStreams)
      (hids : ∀ v, SameStreamId (t.outputStreams v) (t'.outputStreams v))
      (hrows : ∀ v, SameRows (t.outputStreams v) (t'.outputStreams v))
      (heffects : ∃ destAddr, t'.effects
        = t.effects ++ [.declareTalker (t.outputStreams u).streamId destAddr])
  | renew (hrenews : renews) (u : Fin avbMaxNumOutputStreams) (gen : Nat)
      (hgen : gen < avbStreamIdGenerations) (hother : gen ≠ (t.outputStreams u).streamIdGen)
      (hold : (t.outputStreams u).streamIdRetiredUs gen + avbStreamIdReuseUs ≤ now)
      (hids : ∀ v ≠ u, SameStreamId (t.outputStreams v) (t'.outputStreams v))
      (hid : (t'.outputStreams u).streamId
        = streamIdSetGeneration (t.outputStreams u).streamId gen)
      (hgen' : (t'.outputStreams u).streamIdGen = gen)
      (hretired : (t'.outputStreams u).streamIdRetiredUs
        = Function.update (t.outputStreams u).streamIdRetiredUs (t.outputStreams u).streamIdGen now)
      (hidle : (t.outputStreams u).streaming = false ∧ (t'.outputStreams u).streaming = false)
      (hfree : touches ∨ heldByOther (t.outputStreams u).listeners none = false)
      (hlisteners : (t'.outputStreams u).listeners
        = (t.outputStreams u).listeners.walkBack renewRow)
      (hrows : ∀ v ≠ u, SameRows (t.outputStreams v) (t'.outputStreams v))
      (heffects : t'.effects = t.effects ++ [.withdrawTalker (t.outputStreams u).streamId])

abbrev TalkerMoves (touches renews : Prop) (now : Nat) : TalkerState → TalkerState → Prop :=
  ReflTransGen (TalkerMove touches renews now)

theorem SameStreamId.refl (stream : AvbTalkerStream) : SameStreamId stream stream :=
  ⟨rfl, rfl, rfl⟩

theorem SameRows.refl (stream : AvbTalkerStream) : SameRows stream stream := ⟨rfl, rfl⟩

theorem TalkerMoves.quiet (hids : ∀ u, SameStreamId (t.outputStreams u) (t'.outputStreams u))
    (hrows : touches ∨ ∀ u, SameRows (t.outputStreams u) (t'.outputStreams u))
    (heffects : ∃ new, t'.effects = t.effects ++ new ∧ ∀ e ∈ new, QuietEffect e) :
    TalkerMoves touches renews now t t' :=
  .single (.quiet hids hrows heffects)

/-- A stream is put back with its stream ID. -/
theorem talkerMoves_setStream {stream : AvbTalkerStream}
    (h : SameStreamId (t.outputStreams u) stream)
    (hrows : touches ∨ SameRows (t.outputStreams u) stream) :
    TalkerMoves touches renews now t (t.setStream u stream) := by
  refine .quiet (fun v => ?_) (hrows.imp_right fun hrows v => ?_)
    ⟨[], (List.append_nil _).symm, fun e he => absurd he List.not_mem_nil⟩
  · by_cases hv : v = u
    · subst hv
      simpa [TalkerState.setStream] using h
    · simpa [TalkerState.setStream, Function.update_of_ne hv] using SameStreamId.refl _
  · by_cases hv : v = u
    · subst hv
      simpa [TalkerState.setStream] using hrows
    · simpa [TalkerState.setStream, Function.update_of_ne hv] using SameRows.refl _

theorem talkerMoves_effect {e : TalkerEffect} (he : QuietEffect e) :
    TalkerMoves touches renews now t (t.effect e) :=
  .quiet (fun _ => .refl _) (Or.inr fun _ => .refl _)
    ⟨[e], rfl, fun _ hmem => List.mem_singleton.mp hmem ▸ he⟩

/-! ## Renewals -/

/-- The generation that is taken is another one, and left the wire the reuse time ago. -/
theorem nextStreamIdGen_eq_some {stream : AvbTalkerStream} {gen : Nat}
    (h : nextStreamIdGen env stream = some gen) :
    gen < avbStreamIdGenerations ∧ gen ≠ stream.streamIdGen ∧
      stream.streamIdRetiredUs gen + avbStreamIdReuseUs ≤ env.nowUs := by
  obtain ⟨step, hstep, hfound⟩ := List.exists_of_findSome?_eq_some h
  have hrange : step < avbStreamIdGenerations ∧ step ≠ 0 := by
    have hlist : (List.range avbStreamIdGenerations).drop 1 = [1, 2, 3] := rfl
    rw [hlist] at hstep
    simp only [List.mem_cons, List.not_mem_nil, or_false] at hstep
    rcases hstep with rfl | rfl | rfl <;> decide
  dsimp only at hfound
  split at hfound
  · cases hfound
  · rename_i hold
    split at hfound
    · have hgen := Option.some.inj hfound
      subst hgen
      simp only [avbStreamIdGenerations, avbStreamIdReuseUs] at hrange hold ⊢
      refine ⟨by omega, by omega, by omega⟩
    · cases hfound

/-- A renewal, and what it finds. -/
structure Renewed (env : TalkerEnv) (t : TalkerState) (u : Fin avbMaxNumOutputStreams)
    (except : Option Nat) (t' : TalkerState) : Prop where
  idle : (t.outputStreams u).streaming = false
  free : heldByOther (t.outputStreams u).listeners except = false
  eq : ∃ gen, nextStreamIdGen env (t.outputStreams u) = some gen ∧
    t' = (t.effect (.withdrawTalker (t.outputStreams u).streamId)).setStream u
      { t.outputStreams u with
        streamId := streamIdSetGeneration (t.outputStreams u).streamId gen
        streamIdGen := gen
        streamIdRetiredUs := Function.update (t.outputStreams u).streamIdRetiredUs
          (t.outputStreams u).streamIdGen env.nowUs
        listeners := (t.outputStreams u).listeners.walkBack renewRow }

theorem renewId_cases (t : TalkerState) (u : Fin avbMaxNumOutputStreams) (except : Option Nat) :
    avbOutputStreamRenewId env t u except = t ∨
      Renewed env t u except (avbOutputStreamRenewId env t u except) := by
  unfold avbOutputStreamRenewId
  dsimp only
  split
  · exact Or.inl rfl
  · rename_i hfree
    rw [Bool.not_eq_true, Bool.or_eq_false_iff] at hfree
    split
    · exact Or.inl rfl
    · rename_i gen hgen
      exact Or.inr ⟨hfree.1, hfree.2, gen, hgen, rfl⟩

/-- A declaration, and the renewal before it if there was one. -/
theorem declareStream_cases (t : TalkerState) (u : Fin avbMaxNumOutputStreams)
    (except : Option Nat) :
    ∃ t₁ destAddr, (t₁ = t ∨ Renewed env t u except t₁) ∧
      avbDeclareOutputStream cfg env t u except
        = t₁.effect (.declareTalker (t₁.outputStreams u).streamId destAddr) := by
  unfold avbDeclareOutputStream
  dsimp only
  split
  · exact ⟨_, _, renewId_cases t u except, rfl⟩
  · exact ⟨t, _, Or.inl rfl, rfl⟩

theorem declareNow_cases (t : TalkerState) (u : Fin avbMaxNumOutputStreams) (except : Option Nat) :
    avbOutputStreamDeclareNow cfg env t u except = t ∨
      ∃ t₁ destAddr, (t₁ = t ∨ Renewed env t u except t₁) ∧
        avbOutputStreamDeclareNow cfg env t u except
          = t₁.effect (.declareTalker (t₁.outputStreams u).streamId destAddr) := by
  unfold avbOutputStreamDeclareNow
  split
  · exact Or.inl rfl
  · exact Or.inr (declareStream_cases t u except)

theorem Renewed.move {except : Option Nat} (hrenews : renews) (hexcept : touches ∨ except = none)
    (h : Renewed env t u except t') : TalkerMove touches renews env.nowUs t t' := by
  obtain ⟨hidle, hfree, gen, hgen, rfl⟩ := h
  obtain ⟨hlt, hother, hold⟩ := nextStreamIdGen_eq_some hgen
  refine .renew hrenews u gen hlt hother hold (fun v hv => ?_) ?_ ?_ ?_ ⟨hidle, ?_⟩ ?_ ?_
    (fun v hv => ?_) rfl
  · simpa [TalkerState.setStream, TalkerState.effect, Function.update_of_ne hv]
      using SameStreamId.refl _
  · simp [TalkerState.setStream]
  · simp [TalkerState.setStream]
  · simp [TalkerState.setStream]
  · simpa [TalkerState.setStream] using hidle
  · refine hexcept.imp_right fun hnone => ?_
    rwa [hnone] at hfree
  · simp [TalkerState.setStream]
  · simpa [TalkerState.setStream, TalkerState.effect, Function.update_of_ne hv]
      using SameRows.refl _

theorem talkerMoves_declared {except : Option Nat} {destAddr : EthAddr}
    (hexcept : touches ∨ except = none) (h : t' = t ∨ Renewed env t u except t') :
    TalkerMoves touches True env.nowUs t
      (t'.effect (.declareTalker (t'.outputStreams u).streamId destAddr)) := by
  have hdeclare : TalkerMove touches True env.nowUs t'
      (t'.effect (.declareTalker (t'.outputStreams u).streamId destAddr)) :=
    .declare u (fun _ => .refl _) (fun _ => .refl _) ⟨destAddr, rfl⟩
  rcases h with rfl | hrenewed
  · exact .single hdeclare
  · exact .tail (.single (hrenewed.move trivial hexcept)) hdeclare

theorem talkerMoves_declareStream (t : TalkerState) (u : Fin avbMaxNumOutputStreams)
    {except : Option Nat} (hexcept : touches ∨ except = none) :
    TalkerMoves touches True env.nowUs t (avbDeclareOutputStream cfg env t u except) := by
  obtain ⟨t₁, destAddr, hrenewed, heq⟩ := @declareStream_cases cfg env t u except
  rw [heq]
  exact talkerMoves_declared hexcept hrenewed

theorem talkerMoves_declareNow (t : TalkerState) (u : Fin avbMaxNumOutputStreams)
    {except : Option Nat} (hexcept : touches ∨ except = none) :
    TalkerMoves touches True env.nowUs t (avbOutputStreamDeclareNow cfg env t u except) := by
  rcases @declareNow_cases cfg env t u except with heq | ⟨t₁, destAddr, hrenewed, heq⟩
  · rw [heq]
  · rw [heq]
    exact talkerMoves_declared hexcept hrenewed

/-! ## The talker's handlers -/

theorem talkerMoves_start : TalkerMoves True renews now t (avbStartStreamOut env t u) := by
  unfold avbStartStreamOut
  dsimp only
  split_ifs
  · exact .refl
  · exact talkerMoves_setStream ⟨rfl, rfl, rfl⟩ (Or.inl trivial)

theorem talkerMoves_stop : TalkerMoves True renews now t (avbStopStreamOut cfg t u) := by
  have hset : TalkerMoves True renews now t
      (t.setStream u { t.outputStreams u with streaming := false }) :=
    talkerMoves_setStream ⟨rfl, rfl, rfl⟩ (Or.inl trivial)
  unfold avbStopStreamOut
  dsimp only
  split_ifs
  · have htone : QuietEffect .testToneOff := trivial
    exact hset.trans (TalkerMoves.quiet (fun _ => .refl _) (Or.inl trivial)
      ⟨[.testToneOff], rfl, fun e he => List.mem_singleton.mp he ▸ htone⟩)
  · exact hset

theorem talkerMoves_stopIf (c : Bool) : TalkerMoves True renews now t (stopIf cfg t u c) := by
  unfold stopIf
  split_ifs
  · exact talkerMoves_stop
  · exact .refl

theorem talkerMoves_setListeners (rows : ListenerRows) :
    TalkerMoves True renews now t (t.setListeners u rows) :=
  talkerMoves_setStream ⟨rfl, rfl, rfl⟩ (Or.inl trivial)

theorem talkerMoves_answer (msgType : AcmpMsgType) (response : AcmpMessage) (status : AcmpStatus) :
    TalkerMoves touches renews now t (talkerAcmpResponse env t msgType response status) := by
  unfold talkerAcmpResponse
  dsimp only
  split_ifs
  · exact talkerMoves_effect trivial
  · exact .refl

theorem talkerMoves_setClass (index : UInt16) (i : Nat) (classB : Bool) :
    TalkerMoves True True env.nowUs t (connectTxSetClass cfg env t u index i classB) := by
  unfold connectTxSetClass
  dsimp only
  split
  · exact .refl
  · have hpersist : QuietEffect (.persistOutputStream index) := trivial
    refine ReflTransGen.trans (ReflTransGen.trans (talkerMoves_setStream ?_ (Or.inl trivial))
      (talkerMoves_effect hpersist)) (talkerMoves_declareNow _ u (Or.inl trivial))
    exact ⟨rfl, rfl, rfl⟩

theorem talkerMoves_connectTx {msg : AcmpMessage} (h : acmpConnectTx cfg env t u msg = some t') :
    TalkerMoves True True env.nowUs t t' := by
  obtain ⟨i, rows, -, t₁, ht₁, rfl⟩ := acmpConnectTx_cases h
  have hclass : TalkerMoves True True env.nowUs t t₁ := by
    rw [ht₁]
    exact (talkerMoves_setListeners _).trans (talkerMoves_setClass _ _ _)
  split_ifs
  · exact hclass.trans talkerMoves_start
  · exact hclass

/-- Of ACMP, an accepted CONNECT_TX alone can move a stream ID. -/
theorem talkerMoves_acmp (holders : EntityHolders) (msg : AcmpMessage) :
    TalkerMoves True False env.nowUs t (avbProcessAcmpTalker cfg env holders t msg) ∨
      msg.msgType = .connectTxCommand ∧ ∃ u t' response status,
        acmpConnectTx cfg env t u msg = some t' ∧ avbProcessAcmpTalker cfg env holders t msg
          = talkerAcmpResponse env t' .connectTxResponse response status := by
  have hcommand : ∀ disconnect, TalkerMoves True False env.nowUs t
        (avbProcessAcmpConnectTxCommand cfg env holders t msg disconnect) ∨
      disconnect = false ∧ ∃ u t' response status, acmpConnectTx cfg env t u msg = some t' ∧
        avbProcessAcmpConnectTxCommand cfg env holders t msg disconnect
          = talkerAcmpResponse env t' .connectTxResponse response status := by
    intro disconnect
    unfold avbProcessAcmpConnectTxCommand
    dsimp only
    split
    · exact Or.inl (talkerMoves_answer _ _ _)
    · rename_i u _
      by_cases hheld : avbAcquiredOrLockedByOther holders msg.controllerEntityId
      · rw [if_pos hheld]
        exact Or.inl (talkerMoves_answer _ _ _)
      · rw [if_neg hheld]
        cases disconnect with
        | true =>
            exact Or.inl (((talkerMoves_setListeners _).trans (talkerMoves_stopIf _)).trans
              (talkerMoves_answer _ _ _))
        | false =>
            cases ht' : acmpConnectTx cfg env t u msg with
            | none => exact Or.inl (talkerMoves_answer _ _ _)
            | some t' => exact Or.inr ⟨rfl, u, t', _, _, ht', rfl⟩
  unfold avbProcessAcmpTalker
  split_ifs
  · exact Or.inl .refl
  · split
    · rename_i htype
      exact (hcommand false).imp_right fun h => ⟨htype, h.2⟩
    · exact (hcommand true).imp_right fun h => absurd h.1 (by decide)
    · exact Or.inl .refl

theorem talkerMoves_leave (srcAddr : EthAddr) :
    TalkerMoves True renews now t (listenerLeave cfg t u srcAddr) := by
  unfold listenerLeave
  dsimp only
  split
  · exact .refl
  · exact (talkerMoves_setListeners _).trans (talkerMoves_stopIf _)

theorem talkerMoves_ready (srcAddr : EthAddr) (readyFailed : Bool) :
    TalkerMoves True renews now t (listenerReady cfg env t u srcAddr readyFailed) := by
  unfold listenerReady
  split
  · exact .refl
  · dsimp only
    split_ifs
    · exact (talkerMoves_setListeners _).trans talkerMoves_start
    · exact talkerMoves_setListeners _

theorem talkerMoves_askingFailed (srcAddr : EthAddr) :
    TalkerMoves True renews now t (listenerAskingFailed cfg env t u srcAddr) := by
  unfold listenerAskingFailed
  split
  · exact .refl
  · exact (talkerMoves_setListeners _).trans (talkerMoves_stopIf _)

theorem talkerMoves_ageOut : TalkerMoves True renews now t (listenerAgeOut cfg t u) := by
  unfold listenerAgeOut
  split_ifs
  · exact .refl
  · exact (talkerMoves_setListeners _).trans (talkerMoves_stopIf _)

theorem talkerMoves_listener (streamId : UniqueId) (leaving : Bool) (decl : MsrpListenerEvent)
    (tr : MrpRegTransition) (srcAddr : Option EthAddr) :
    TalkerMoves True renews now t
      (mrpOnListenerRegistrarChangeTalker cfg env t streamId leaving decl tr srcAddr) := by
  unfold mrpOnListenerRegistrarChangeTalker
  split
  · exact .refl
  · split
    · split_ifs
      · exact talkerMoves_ageOut
      · exact .refl
    · unfold listenerDeclaration
      split_ifs
      · exact talkerMoves_leave _
      · exact .refl
      · cases decl with
        | ignore => exact .refl
        | askingFailed => exact talkerMoves_askingFailed _
        | ready => exact talkerMoves_ready _ _
        | readyFailed => exact talkerMoves_ready _ _

/-! ## The entity's commands -/

section Entity

variable {ecfg : EntityConfig} {eenv : EntityEnv} {s s' : EntityState}

/-- What a command says leaves the talker as it is. -/
theorem talker_effectIf (s : EntityState) (c : Bool) (e : AecpEffect) :
    (s.effectIf c e).talker = s.talker := by
  unfold EntityState.effectIf
  split <;> rfl

theorem talker_respond (s : EntityState) (status : AecpStatus) (value : AemValue) :
    (aecpRespond eenv s status value).talker = s.talker := talker_effectIf s _ _

theorem talkerMoves_persistOutput (s : EntityState) (index : UInt16) :
    TalkerMoves touches renews now s.talker (persistOutput s index).talker := by
  have hpersist : QuietEffect (.persistOutputStream index) := trivial
  exact talkerMoves_effect hpersist

/-- A stream is put back with its stream ID. -/
theorem talkerMoves_setOutput (s : EntityState) {stream : AvbTalkerStream}
    (h : SameStreamId (s.talker.outputStreams u) stream)
    (hrows : SameRows (s.talker.outputStreams u) stream) :
    TalkerMoves touches renews now s.talker (s.setOutput u stream).talker :=
  talkerMoves_setStream h (Or.inr hrows)

theorem talkerMoves_classFromFormat (s : EntityState) (u : Fin avbMaxNumOutputStreams) :
    TalkerMoves touches renews now s.talker (avbOutputStreamClassFromFormat eenv s u).talker := by
  unfold avbOutputStreamClassFromFormat
  dsimp only
  split
  · exact .refl
  · exact talkerMoves_setOutput s ⟨rfl, rfl, rfl⟩ ⟨rfl, rfl⟩

theorem talkerMoves_setOutputFormat (s : EntityState) (u : Fin avbMaxNumOutputStreams)
    (f : Octets 8) :
    TalkerMoves touches True eenv.talker.nowUs s.talker (setOutputFormat ecfg eenv s u f).talker := by
  have hset : TalkerMoves touches True eenv.talker.nowUs s.talker
      (s.setOutput u { s.talker.outputStreams u with streamFormat := f }).talker :=
    talkerMoves_setOutput s ⟨rfl, rfl, rfl⟩ ⟨rfl, rfl⟩
  have hclass : TalkerMoves touches True eenv.talker.nowUs s.talker
      (if avbOutputFormatClass f ≠ avbOutputFormatClass (s.talker.outputStreams u).streamFormat then
        avbOutputStreamClassFromFormat eenv
          (s.setOutput u { s.talker.outputStreams u with streamFormat := f }) u
      else s.setOutput u { s.talker.outputStreams u with streamFormat := f }).talker := by
    split
    · exact hset.trans (talkerMoves_classFromFormat _ u)
    · exact hset
  unfold setOutputFormat
  dsimp only
  split
  · exact hclass
  · exact hclass.trans (talkerMoves_declareNow _ u (Or.inr rfl))

theorem talker_takeFormatRate (s : EntityState) (isOutput : Bool) (index : UInt16) (f : Octets 8) :
    (takeFormatRate ecfg s isOutput index f).talker = s.talker := by
  unfold takeFormatRate
  dsimp only
  split <;> rfl

theorem talkerMoves_setStreamFormat (s : EntityState) (descriptorType descriptorIndex : UInt16)
    (f : Octets 8) :
    TalkerMoves touches True eenv.talker.nowUs s.talker
      (avbProcessAecpCmdSetStreamFormat ecfg eenv s descriptorType descriptorIndex f).talker := by
  have hrespond : ∀ status value, TalkerMoves touches True eenv.talker.nowUs s.talker
      (aecpRespond eenv s status value).talker := by
    intro status value
    rw [talker_respond]
  unfold avbProcessAecpCmdSetStreamFormat
  split
  · split
    · exact hrespond _ _
    · dsimp only
      split
      · exact hrespond _ _
      · refine ReflTransGen.trans ?_ (talkerMoves_persistOutput _ _)
        rw [talker_effectIf, talker_respond]
        have hformat := @talkerMoves_setOutputFormat touches ecfg eenv
          (takeFormatRate ecfg s true descriptorIndex f)
        rw [talker_takeFormatRate] at hformat
        exact hformat _ f
  · split
    · split
      · exact hrespond _ _
      · dsimp only
        split
        · exact hrespond _ _
        · have htalker : ∀ (s' : EntityState) c, (persistInput ecfg
              (s'.effectIf c .unsolNotify) descriptorIndex).talker = s'.talker :=
            fun s' c => talker_effectIf s' c _
          rw [htalker, talker_respond]
          have hrate : ∀ (s' : EntityState) v stream, (s'.setInput v stream).talker = s'.talker :=
            fun _ _ _ => rfl
          rw [hrate, talker_takeFormatRate]
    · exact hrespond _ _

/-- A walk over the streams, each turn of which is a chain of moves. -/
theorem talkerMoves_foldl {α : Type*} {f : EntityState → α → EntityState}
    (h : ∀ s a, TalkerMoves touches renews now s.talker (f s a).talker) (l : List α) (s : EntityState) :
    TalkerMoves touches renews now s.talker (l.foldl f s).talker := by
  induction l generalizing s with
  | nil => exact .refl
  | cons a l ih => exact (h s a).trans (ih (f s a))

theorem talkerMoves_foldlM {α : Type*} {f : EntityState → α → Option EntityState}
    (h : ∀ s a s', f s a = some s' → TalkerMoves touches renews now s.talker s'.talker) {l : List α}
    {s s' : EntityState} (hl : l.foldlM f s = some s') : TalkerMoves touches renews now s.talker s'.talker := by
  induction l generalizing s with
  | nil =>
      rw [← Option.some.inj hl]
  | cons a l ih =>
      rw [List.foldlM_cons] at hl
      obtain ⟨s₁, hfirst, hrest⟩ := Option.bind_eq_some_iff.mp hl
      exact (h s a s₁ hfirst).trans (ih hrest)

theorem talkerMoves_samplingRate (s : EntityState) (isSet : Bool)
    (descriptorType descriptorIndex : UInt16) (rate : Nat) :
    TalkerMoves touches True eenv.talker.nowUs s.talker
      (avbProcessAecpCmdSamplingRate ecfg eenv s isSet descriptorType descriptorIndex rate).talker := by
  have hrespond : ∀ status value, TalkerMoves touches True eenv.talker.nowUs s.talker
      (aecpRespond eenv s status value).talker := by
    intro status value
    rw [talker_respond]
  unfold avbProcessAecpCmdSamplingRate
  split
  · exact hrespond _ _
  split
  · exact hrespond _ _
  split
  · exact hrespond _ _
  split
  · exact hrespond _ _
  split
  · exact hrespond _ _
  · rename_i moved hmoved
    split
    · exact hrespond _ _
    · have hformats : TalkerMoves touches True eenv.talker.nowUs s.talker moved.talker := by
        obtain ⟨middle, hinputs, houtputs⟩ := Option.bind_eq_some_iff.mp hmoved
        refine (talkerMoves_foldlM (fun s u s' h => ?_) hinputs).trans
          (talkerMoves_foldlM (fun s u s' h => ?_) houtputs)
        · unfold inputAtRate at h
          dsimp only at h
          split at h
          · rw [← Option.some.inj h]
          · obtain ⟨f, -, rfl⟩ := Option.map_eq_some_iff.mp h
            exact .refl
        · unfold outputAtRate at h
          dsimp only at h
          split at h
          · rw [← Option.some.inj h]
          · obtain ⟨f, -, rfl⟩ := Option.map_eq_some_iff.mp h
            exact talkerMoves_setOutput s ⟨rfl, rfl, rfl⟩ ⟨rfl, rfl⟩
      have hdeclared : TalkerMoves touches True eenv.talker.nowUs moved.talker
          (declareOutputs ecfg eenv (EntityState.effect { moved with sampleRate := rate }
            .saveRate)).talker := by
        refine talkerMoves_foldl (fun s u => ?_) _
          (EntityState.effect { moved with sampleRate := rate } .saveRate)
        split
        · exact .refl
        · exact talkerMoves_declareNow _ u (Or.inr rfl)
      have hannounced : ∀ s : EntityState,
          TalkerMoves touches True eenv.talker.nowUs s.talker (announceRate ecfg s).talker := by
        intro s
        unfold announceRate
        refine (talkerMoves_foldl (fun s u => ?_) _ s).trans (talkerMoves_foldl (fun s u => ?_) _ _)
        · split
          · exact .refl
          · exact .refl
        · split
          · exact .refl
          · exact talkerMoves_persistOutput (s.effect .unsolNotify) _
      dsimp only
      refine (hformats.trans hdeclared).trans ?_
      refine ReflTransGen.trans ?_ (hannounced _)
      have hanswer : ∀ s' : EntityState, ((aecpRespond eenv s' .success (.number rate)).effect
          .unsolNotify).talker = s'.talker := fun s' => talker_respond s' _ _
      rw [hanswer]

theorem talkerMoves_maxTransitTime (s : EntityState) (controllerEntityId : UniqueId) (isSet : Bool)
    (descriptorType descriptorIndex : UInt16) (ns : Nat) :
    TalkerMoves touches renews now s.talker (avbProcessAecpCmdGetMaxTransitTime ecfg eenv s controllerEntityId isSet
      descriptorType descriptorIndex ns).talker := by
  have hrespond : ∀ status value, TalkerMoves touches renews now s.talker
      (aecpRespond eenv s status value).talker := by
    intro status value
    rw [talker_respond]
  unfold avbProcessAecpCmdGetMaxTransitTime
  split
  · exact hrespond _ _
  · dsimp only
    split_ifs
    any_goals exact hrespond _ _
    rw [talker_effectIf, talker_respond]
    refine ReflTransGen.trans ?_ (talkerMoves_persistOutput _ _)
    exact talkerMoves_setOutput s ⟨rfl, rfl, rfl⟩ ⟨rfl, rfl⟩

theorem talkerMoves_setControl (s : EntityState) (descriptorIndex : UInt16) (values : Octets 2) :
    TalkerMoves touches renews now s.talker
      (avbProcessAecpCmdSetControl ecfg eenv s descriptorIndex values).talker := by
  have hsame : ∀ s' : EntityState, s'.talker = s.talker → TalkerMoves touches renews now s.talker s'.talker := by
    intro s' h
    rw [h]
  have hrespond : ∀ (s' : EntityState) status value c e,
      ((aecpRespond eenv s' status value).effectIf c e).talker = s'.talker :=
    fun s' status value c e => (talker_effectIf _ c e).trans (talker_respond s' status value)
  unfold avbProcessAecpCmdSetControl
  dsimp only
  split
  · exact hsame _ (hrespond _ _ _ _ _)
  split
  · split
    · exact hsame _ (talker_respond _ _ _)
    · exact hsame _ (hrespond _ _ _ _ _)
  split
  · split
    · exact hsame _ (talker_respond _ _ _)
    · exact hsame _ (hrespond _ _ _ _ _)
  split
  · split
    · exact hsame _ (talker_respond _ _ _)
    · -- the test tone
      rw [hrespond]
      exact TalkerMoves.quiet (fun _ => .refl _) (Or.inr fun _ => .refl _)
        ⟨[], (List.append_nil _).symm, fun e he => absurd he List.not_mem_nil⟩
  · exact hsame _ (talker_respond _ _ _)

theorem talker_acquireEntity (s : EntityState) (controllerEntityId : UniqueId) (release : Bool)
    (ownerId : UniqueId) :
    (avbProcessAecpCmdAcquireEntity ecfg eenv s controllerEntityId release ownerId).talker
      = s.talker := by
  unfold avbProcessAecpCmdAcquireEntity
  dsimp only
  split
  · exact talker_respond _ _ _
  · rw [talker_effectIf]
    split <;> exact talker_respond _ _ _

theorem talker_lockEntity (s : EntityState) (controllerEntityId : UniqueId)
    (descriptorType : UInt16) (unlock : Bool) :
    (avbProcessAecpCmdLockEntity eenv s controllerEntityId descriptorType unlock).talker
      = s.talker := by
  unfold avbProcessAecpCmdLockEntity
  dsimp only
  split
  · exact talker_respond _ _ _
  split
  · exact talker_respond _ _ _
  · rw [talker_effectIf, talker_respond]
    split <;> rfl

theorem talker_streaming (s : EntityState) (start : Bool)
    (descriptorType descriptorIndex : UInt16) :
    (avbProcessAecpCmdStreaming ecfg eenv s start descriptorType descriptorIndex).talker
      = s.talker := by
  unfold avbProcessAecpCmdStreaming
  split
  · exact talker_respond _ _ _
  split
  · exact talker_respond _ _ _
  split
  · exact talker_respond _ _ _
  · dsimp only
    split
    · exact talker_respond (s.setInput _ _) _ _
    · exact talker_respond _ _ _

theorem talker_audioMappings (s : EntityState) (add : Bool)
    (descriptorType descriptorIndex : UInt16) (numberOfMappings : Nat)
    (mappings : List AemAudioMapping) :
    (avbProcessAecpCmdAudioMappings ecfg eenv s add descriptorType descriptorIndex numberOfMappings
      mappings).talker = s.talker := by
  unfold avbProcessAecpCmdAudioMappings
  dsimp only
  split
  · exact talker_respond _ _ _
  split
  · exact talker_respond _ _ _
  split
  · exact talker_respond _ _ _
  · split
    · exact talker_respond _ _ _
    · exact (talker_respond _ _ _).trans (talker_effectIf _ _ _)

theorem talker_setClockSource (s : EntityState)
    (descriptorType descriptorIndex clockSourceIndex : UInt16) :
    (avbProcessAecpCmdSetClockSource ecfg eenv s descriptorType descriptorIndex
      clockSourceIndex).talker = s.talker := by
  unfold avbProcessAecpCmdSetClockSource
  dsimp only
  split
  · exact talker_respond _ _ _
  split
  · exact talker_respond _ _ _
  split
  · exact talker_respond _ _ _
  split
  · exact talker_respond _ _ _
  · exact (talker_effectIf _ _ _).trans (talker_respond _ _ _)

theorem talker_setName (s : EntityState) (descriptorType descriptorIndex nameIndex : UInt16)
    (name : Octets 64) :
    (avbProcessAecpCmdSetName eenv s descriptorType descriptorIndex nameIndex name).talker
      = s.talker := by
  unfold avbProcessAecpCmdSetName
  split
  · exact talker_respond _ _ _
  · exact (talker_effectIf _ _ _).trans (talker_respond _ _ _)

theorem talker_mediaClockRefInfo (s : EntityState) (cmd : MvuMediaClockRefInfo) :
    (avbProcessAecpCmdMvuMediaClockRefInfo eenv s cmd).talker = s.talker := by
  unfold avbProcessAecpCmdMvuMediaClockRefInfo
  dsimp only
  split
  · exact talker_respond _ _ _
  · exact (talker_effectIf _ _ _).trans (talker_respond _ _ _)

/-- The commands of the entity, of which four move the talker. -/
theorem talkerMoves_aecp (s : EntityState) (cmd : AecpCommand) :
    TalkerMoves touches True eenv.talker.nowUs s.talker (avbProcessAecp ecfg eenv s cmd).talker := by
  have hsame : ∀ s' : EntityState, s'.talker = s.talker →
      TalkerMoves touches True eenv.talker.nowUs s.talker s'.talker := by
    intro s' h
    rw [h]
  cases cmd with
  | mvuBindStream cmd => exact .refl
  | mvuUnbindStream cmd => exact .refl
  | mvuMediaClockRefInfo controllerEntityId cmd => exact hsame _ (talker_mediaClockRefInfo s cmd)
  | aem controllerEntityId cmd =>
      unfold avbProcessAecp
      dsimp only
      split
      · exact hsame _ (talker_respond _ _ _)
      · cases cmd with
        | acquireEntity release ownerId => exact hsame _ (talker_acquireEntity s _ release ownerId)
        | lockEntity type unlock => exact hsame _ (talker_lockEntity s _ type unlock)
        | setConfiguration index => exact hsame _ (talker_respond _ _ _)
        | streaming start type index => exact hsame _ (talker_streaming s start type index)
        | audioMappings add type index number mappings =>
            exact hsame _ (talker_audioMappings s add type index number mappings)
        | setStreamFormat type index format => exact talkerMoves_setStreamFormat s type index format
        | setClockSource type index source =>
            exact hsame _ (talker_setClockSource s type index source)
        | samplingRate isSet type index rate =>
            exact talkerMoves_samplingRate s isSet type index rate
        | maxTransitTime isSet type index ns =>
            exact talkerMoves_maxTransitTime s controllerEntityId isSet type index ns
        | setName type index nameIndex name => exact hsame _ (talker_setName s type index nameIndex name)
        | setControl index values => exact talkerMoves_setControl s index values
        | other => exact .refl

/-- Every event is a chain of moves. The rows and the stream IDs both change with a CONNECT_TX only. -/
theorem talkerMoves_renewalStep (clock : Nat) (s : EntityState) (ev : RenewalEvent) :
    ev.connecting = none ∧
        TalkerMoves False True (ev.nowUs clock) s.talker (renewalEntityStep ecfg s ev).talker ∨
      TalkerMoves True False (ev.nowUs clock) s.talker (renewalEntityStep ecfg s ev).talker ∨
      ∃ env msg, ev = .entity (.acmp env msg) ∧ msg.msgType = .connectTxCommand ∧
        ∃ u t' response status,
          acmpConnectTx ecfg.talker env.talker s.talker u msg = some t' ∧
            (renewalEntityStep ecfg s ev).talker
              = talkerAcmpResponse env.talker t' .connectTxResponse response status := by
  cases ev with
  | entity e =>
      cases e with
      | aecp env cmd => exact Or.inl ⟨rfl, talkerMoves_aecp s cmd⟩
      | acmp env msg =>
          refine Or.inr ((talkerMoves_acmp s.holders msg).imp_right fun h => ?_)
          obtain ⟨htype, hconnect⟩ := h
          exact ⟨env, msg, rfl, htype, hconnect⟩
      | inflightTimeouts env => exact Or.inl ⟨rfl, .refl⟩
      | fastConnect env u => exact Or.inl ⟨rfl, .refl⟩
      | demote u => exact Or.inl ⟨rfl, .refl⟩
      | mrpListener env streamId leaving decl tr srcAddr =>
          exact Or.inr (Or.inl (talkerMoves_listener streamId leaving decl tr srcAddr))
      | destAddr u addr =>
          exact Or.inl ⟨rfl, talkerMoves_setOutput s ⟨rfl, rfl, rfl⟩ ⟨rfl, rfl⟩⟩
      | lockTick env =>
          have hsame : (avbUnsolLockTick env s).talker = s.talker := by
            unfold avbUnsolLockTick
            split <;> rfl
          refine Or.inl ⟨rfl, ?_⟩
          unfold renewalEntityStep entityStep
          dsimp only
          rw [hsame]
  | tick env u => exact Or.inl ⟨rfl, talkerMoves_declareStream s.talker u (Or.inr rfl)⟩
  | other t =>
      exact Or.inr (Or.inl (TalkerMoves.quiet (fun _ => ⟨rfl, rfl, rfl⟩) (Or.inl trivial)
        ⟨[], (List.append_nil _).symm, fun e he => absurd he List.not_mem_nil⟩))

end Entity

/-! ## The generations of a stream ID -/

variable {mac : EthAddr} {gen gen' : Nat}

theorem bytes_streamIdFromMac (mac : EthAddr) (uid : Nat) :
    (streamIdFromMac mac uid).bytes = mac.bytes ++ List.replicate 2 (UInt8.ofNat uid) := by
  have hlen : (mac.bytes ++ List.replicate 2 (UInt8.ofNat uid)).length = 8 := by
    rw [List.length_append, mac.length_eq, List.length_replicate]
  exact List.take_left' hlen

/-- A generation of a stream's ID. -/
def generationId (mac : EthAddr) (u : Fin avbMaxNumOutputStreams) (gen : Nat) : UniqueId :=
  streamIdSetGeneration (streamIdFromMac mac u.val) gen

theorem bytes_generationId (mac : EthAddr) (u : Fin avbMaxNumOutputStreams) (gen : Nat) :
    (generationId mac u gen).bytes
      = mac.bytes ++ [UInt8.ofNat u.val, UInt8.ofNat u.val &&& 0x3f ||| UInt8.ofNat (gen * 64)] := by
  have hlast : (mac.bytes ++ List.replicate 2 (UInt8.ofNat u.val)).getD 7 0 = UInt8.ofNat u.val := by
    rw [Octets.getD_append_of_le mac _ (by decide)]
    rfl
  unfold generationId streamIdSetGeneration
  dsimp only
  rw [bytes_streamIdFromMac, hlast, List.set_append_right _ _ (by rw [mac.length_eq]; decide),
    mac.length_eq]
  rfl

theorem generationId_zero (mac : EthAddr) (u : Fin avbMaxNumOutputStreams) :
    streamIdFromMac mac u.val = generationId mac u 0 := by
  have hoctet : ∀ v : Fin avbMaxNumOutputStreams,
      UInt8.ofNat v.val &&& 0x3f ||| UInt8.ofNat (0 * 64) = UInt8.ofNat v.val := by decide
  ext1
  rw [bytes_generationId, bytes_streamIdFromMac, hoctet]
  rfl

theorem setGeneration_generationId (mac : EthAddr) (u : Fin avbMaxNumOutputStreams)
    (gen gen' : Nat) :
    streamIdSetGeneration (generationId mac u gen) gen' = generationId mac u gen' := by
  have hmask : ∀ x : UInt8, (x &&& 0x3f ||| UInt8.ofNat (gen * 64)) &&& 0x3f = x &&& 0x3f := by
    intro x
    rw [UInt8.ofNat_mul]
    exact generation_masked x (UInt8.ofNat gen)
  have hlast : (generationId mac u gen).bytes.getD 7 0
      = UInt8.ofNat u.val &&& 0x3f ||| UInt8.ofNat (gen * 64) := by
    rw [bytes_generationId, Octets.getD_append_of_le mac _ (by decide)]
    rfl
  ext1
  unfold streamIdSetGeneration
  dsimp only
  rw [hlast, hmask, bytes_generationId, bytes_generationId,
    List.set_append_right _ _ (by rw [mac.length_eq]; decide), mac.length_eq]
  rfl

/-- No two generations of the output streams share a stream ID. -/
theorem generationId_inj (hgen : gen < avbStreamIdGenerations) (hgen' : gen' < avbStreamIdGenerations)
    (h : generationId mac u gen = generationId mac v gen') : u = v ∧ gen = gen' := by
  have hoctets : ∀ (a b : Fin avbMaxNumOutputStreams) (x y : Fin avbStreamIdGenerations),
      UInt8.ofNat a.val = UInt8.ofNat b.val →
      UInt8.ofNat a.val &&& 0x3f ||| UInt8.ofNat (x.val * 64)
        = UInt8.ofNat b.val &&& 0x3f ||| UInt8.ofNat (y.val * 64) → a = b ∧ x = y := by decide
  have hbytes := congrArg Octets.bytes h
  rw [bytes_generationId, bytes_generationId, List.append_cancel_left_eq, List.cons.injEq,
    List.cons.injEq] at hbytes
  obtain ⟨hu, hlast, -⟩ := hbytes
  obtain ⟨hstream, hequal⟩ := hoctets u v ⟨gen, hgen⟩ ⟨gen', hgen'⟩ hu hlast
  exact ⟨hstream, Fin.mk.inj hequal⟩

/-! ## The log -/

variable {log : List (Nat × TalkerEffect)}

/-- The stream IDs are those of the address, and every withdrawal is as old as the talker says. -/
structure LogSound (mac : EthAddr) (now : Nat) (t : TalkerState)
    (log : List (Nat × TalkerEffect)) : Prop where
  gen_lt : ∀ u, (t.outputStreams u).streamIdGen < avbStreamIdGenerations
  streamId : ∀ u, (t.outputStreams u).streamId = generationId mac u (t.outputStreams u).streamIdGen
  past : ∀ e ∈ log, e.1 ≤ now
  current : ∀ u at_, (at_, .withdrawTalker (t.outputStreams u).streamId) ∈ log →
    at_ + avbStreamIdReuseUs ≤ now
  retired : ∀ u gen at_, gen < avbStreamIdGenerations → gen ≠ (t.outputStreams u).streamIdGen →
    (at_, .withdrawTalker (generationId mac u gen)) ∈ log →
      at_ ≤ (t.outputStreams u).streamIdRetiredUs gen
  spaced : log.Pairwise SpacedReuse

theorem LogSound.later {later : Nat} (h : LogSound mac now t log) (hlater : now ≤ later) :
    LogSound mac later t log where
  gen_lt := h.gen_lt
  streamId := h.streamId
  past := fun e he => (h.past e he).trans hlater
  current := fun u at_ hmem => (h.current u at_ hmem).trans hlater
  retired := h.retired
  spaced := h.spaced

/-- What keeps the stream IDs and withdraws nothing. -/
theorem LogSound.kept {new : List TalkerEffect} (h : LogSound mac now t log)
    (hids : ∀ u, SameStreamId (t.outputStreams u) (t'.outputStreams u))
    (hnew : ∀ e ∈ new, ∀ streamId, e ≠ .withdrawTalker streamId)
    (hspaced : (log ++ new.map fun e => (now, e)).Pairwise SpacedReuse) :
    LogSound mac now t' (log ++ new.map fun e => (now, e)) := by
  have hold : ∀ at_ streamId, (at_, .withdrawTalker streamId) ∈ log ++ new.map (fun e => (now, e)) →
      (at_, .withdrawTalker streamId) ∈ log := by
    intro at_ streamId hmem
    rcases List.mem_append.mp hmem with hlog | hadded
    · exact hlog
    · obtain ⟨e, he, heq⟩ := List.mem_map.mp hadded
      exact absurd (Prod.mk.inj heq).2 (hnew e he streamId)
  refine ⟨fun u => ?_, fun u => ?_, fun e he => ?_, fun u at_ hmem => ?_,
    fun u gen at_ hgen hother hmem => ?_, hspaced⟩
  · rw [(hids u).2.1]
    exact h.gen_lt u
  · rw [(hids u).1, (hids u).2.1]
    exact h.streamId u
  · rcases List.mem_append.mp he with hlog | hadded
    · exact h.past e hlog
    · obtain ⟨_, -, rfl⟩ := List.mem_map.mp hadded
      exact Nat.le_refl now
  · rw [(hids u).1] at hmem
    exact h.current u at_ (hold _ _ hmem)
  · rw [(hids u).2.1] at hother
    rw [(hids u).2.2]
    exact h.retired u gen at_ hgen hother (hold _ _ hmem)

/-- One move keeps the log sound: a withdrawal names the ID that was current, a declaration the one
that is. -/
theorem LogSound.move (h : LogSound mac now t log) (hmove : TalkerMove touches renews now t t') :
    ∃ new, t'.effects = t.effects ++ new ∧
      LogSound mac now t' (log ++ new.map fun e => (now, e)) := by
  cases hmove with
  | quiet hids hrows heffects =>
      obtain ⟨new, heq, hquiet⟩ := heffects
      refine ⟨new, heq, h.kept hids (fun e he streamId hwithdraw => ?_) ?_⟩
      · have hnot := hquiet e he
        rwa [hwithdraw] at hnot
      · rw [List.pairwise_append]
        refine ⟨h.spaced, ?_, ?_⟩
        · rw [List.pairwise_map]
          refine List.pairwise_of_forall_mem_list fun e he _ _ streamId _ hwithdraw _ => ?_
          have hnot := hquiet e he
          rw [show e = .withdrawTalker streamId from hwithdraw] at hnot
          exact hnot.elim
        · intro _ _ e' hadded streamId destAddr _ hdeclare
          obtain ⟨e, he, rfl⟩ := List.mem_map.mp hadded
          have hnot := hquiet e he
          rw [show e = .declareTalker streamId destAddr from hdeclare] at hnot
          exact hnot.elim
  | declare u hids hrows heffects =>
      obtain ⟨destAddr, heq⟩ := heffects
      refine ⟨_, heq, h.kept hids (fun e he streamId hwithdraw => ?_) ?_⟩
      · rw [List.mem_singleton.mp he] at hwithdraw
        cases hwithdraw
      · rw [List.map_singleton, List.pairwise_append]
        refine ⟨h.spaced, List.pairwise_singleton _ _, ?_⟩
        intro e he e' hadded streamId _ hwithdraw hdeclare
        rw [List.mem_singleton.mp hadded] at hdeclare ⊢
        obtain ⟨rfl, -⟩ := TalkerEffect.declareTalker.inj hdeclare
        exact h.current u e.1 (hwithdraw ▸ he)
  | renew _ u gen hgen hother hold hids hid hgen' hretired _ _ _ _ heffects =>
      refine ⟨_, heffects, ?_⟩
      have hnewId : (t'.outputStreams u).streamId = generationId mac u gen := by
        rw [hid, h.streamId u, setGeneration_generationId]
      -- a withdrawal of the log is of before, or it is the one of this move
      have hwithdrawn : ∀ at_ v g, g < avbStreamIdGenerations →
          (at_, .withdrawTalker (generationId mac v g)) ∈
            log ++ [(now, .withdrawTalker (t.outputStreams u).streamId)] →
          (at_, .withdrawTalker (generationId mac v g)) ∈ log ∨
            at_ = now ∧ v = u ∧ g = (t.outputStreams u).streamIdGen := by
        intro at_ v g hg hmem
        rcases List.mem_append.mp hmem with hlog | hadded
        · exact Or.inl hlog
        · obtain ⟨rfl, heffect⟩ := Prod.mk.inj (List.mem_singleton.mp hadded)
          have hequal := TalkerEffect.withdrawTalker.inj heffect
          rw [h.streamId u] at hequal
          exact Or.inr ⟨rfl, generationId_inj hg (h.gen_lt u) hequal⟩
      have hlt : ∀ v, (t'.outputStreams v).streamIdGen < avbStreamIdGenerations := by
        intro v
        by_cases hv : v = u
        · rw [hv, hgen']
          exact hgen
        · rw [(hids v hv).2.1]
          exact h.gen_lt v
      have hstreamId : ∀ v, (t'.outputStreams v).streamId
          = generationId mac v (t'.outputStreams v).streamIdGen := by
        intro v
        by_cases hv : v = u
        · rw [hv, hnewId, hgen']
        · rw [(hids v hv).1, (hids v hv).2.1]
          exact h.streamId v
      rw [List.map_singleton]
      refine ⟨hlt, hstreamId, fun e he => ?_, fun v at_ hmem => ?_,
        fun v g at_ hg hnot hmem => ?_, ?_⟩
      · rcases List.mem_append.mp he with hlog | hadded
        · exact h.past e hlog
        · rw [List.mem_singleton.mp hadded]
      · rw [hstreamId v] at hmem
        rcases hwithdrawn at_ v _ (hlt v) hmem with hlog | ⟨-, rfl, hgone⟩
        · by_cases hv : v = u
          · subst hv
            rw [hgen'] at hlog
            exact (Nat.add_le_add_right (h.retired v gen at_ hgen hother hlog) _).trans hold
          · rw [(hids v hv).2.1, ← h.streamId v] at hlog
            exact h.current v at_ hlog
        · exact absurd (hgen'.symm.trans hgone) hother
      · by_cases hv : v = u
        · subst hv
          rw [hretired]
          by_cases hcurrent : g = (t.outputStreams v).streamIdGen
          · rw [hcurrent, Function.update_self]
            rcases hwithdrawn at_ v g hg hmem with hlog | ⟨rfl, -⟩
            · exact h.past _ hlog
            · exact Nat.le_refl _
          · rw [Function.update_of_ne hcurrent]
            rcases hwithdrawn at_ v g hg hmem with hlog | ⟨-, -, hequal⟩
            · exact h.retired v g at_ hg hcurrent hlog
            · exact absurd hequal hcurrent
        · rw [(hids v hv).2.1] at hnot
          rw [(hids v hv).2.2]
          rcases hwithdrawn at_ v g hg hmem with hlog | ⟨-, hequal, -⟩
          · exact h.retired v g at_ hg hnot hlog
          · exact absurd hequal hv
      · rw [List.pairwise_append]
        refine ⟨h.spaced, List.pairwise_singleton _ _, ?_⟩
        intro e _ e' hadded _ _ _ hdeclare
        rw [List.mem_singleton.mp hadded] at hdeclare
        cases hdeclare

theorem LogSound.moves (h : LogSound mac now t log) (hmoves : TalkerMoves touches renews now t t') :
    ∃ new, t'.effects = t.effects ++ new ∧
      LogSound mac now t' (log ++ new.map fun e => (now, e)) := by
  induction hmoves with
  | refl => exact ⟨[], (List.append_nil _).symm, by simpa using h⟩
  | tail _ hmove ih =>
      obtain ⟨first, hfirst, hsound⟩ := ih
      obtain ⟨new, hnew, hsound'⟩ := hsound.move hmove
      refine ⟨first ++ new, ?_, ?_⟩
      · rw [hnew, hfirst, List.append_assoc]
      · rwa [List.map_append, ← List.append_assoc]

/-- A withdrawal goes with every stream ID that changes. -/
theorem TalkerMoves.withdrawn (hmoves : TalkerMoves touches renews now t t') :
    ∃ new, t'.effects = t.effects ++ new ∧
      ∀ u, (t'.outputStreams u).streamId ≠ (t.outputStreams u).streamId →
        .withdrawTalker (t.outputStreams u).streamId ∈ new := by
  induction hmoves with
  | refl => exact ⟨[], (List.append_nil _).symm, fun u h => absurd rfl h⟩
  | @tail middle last _ hmove ih =>
      obtain ⟨first, hfirst, hwithdrawn⟩ := ih
      obtain ⟨new, hnew, hmoved⟩ : ∃ new, last.effects = middle.effects ++ new ∧
          ∀ u, (last.outputStreams u).streamId ≠ (middle.outputStreams u).streamId →
            .withdrawTalker (middle.outputStreams u).streamId ∈ new := by
        cases hmove with
        | quiet hids hrows heffects =>
            obtain ⟨new, heq, -⟩ := heffects
            exact ⟨new, heq, fun u h => absurd (hids u).1 h⟩
        | declare u hids hrows heffects =>
            obtain ⟨destAddr, heq⟩ := heffects
            exact ⟨_, heq, fun v h => absurd (hids v).1 h⟩
        | renew _ u gen _ _ _ hids _ _ _ _ _ _ _ heffects =>
            refine ⟨_, heffects, fun v h => ?_⟩
            by_cases hv : v = u
            · rw [hv]
              exact List.mem_singleton_self _
            · exact absurd (hids v hv).1 h
      refine ⟨first ++ new, by rw [hnew, hfirst, List.append_assoc], fun u hchanged => ?_⟩
      by_cases hmiddle : (middle.outputStreams u).streamId = (t.outputStreams u).streamId
      · rw [← hmiddle] at hchanged ⊢
        exact List.mem_append_right _ (hmoved u hchanged)
      · exact List.mem_append_left _ (hwithdrawn u hmiddle)

/-! ## The rows -/

theorem rows_renewed (rows : ListenerRows) :
    (rows.walkBack renewRow).rows = rows.rows.filterMap renewRow := by
  simp only [ListenerRows.walkBack, WalkBack.walk_eq_filterMap]

theorem not_held {rows : ListenerRows} (h : heldByOther rows none = false) :
    ∀ row ∈ rows.rows, ¬row.acmpConnected = true := by
  intro row hrow hacmp
  obtain ⟨i, hi⟩ := List.mem_iff_getElem?.mp hrow
  have hheld := heldByOther_iff.mpr ⟨i, row, hi, hacmp, Option.some_ne_none i⟩
  rw [h] at hheld
  cases hheld

/-- Where nothing else touches the rows, a stream that moves is idle and no listener holds it. -/
theorem TalkerMoves.rowsMoved (hmoves : TalkerMoves False renews now t t')
    (u : Fin avbMaxNumOutputStreams) :
    (t'.outputStreams u).streamId = (t.outputStreams u).streamId ∧
        SameRows (t.outputStreams u) (t'.outputStreams u) ∨
      ((t.outputStreams u).streaming = false ∧
        heldByOther (t.outputStreams u).listeners none = false) ∧
        (t'.outputStreams u).streaming = false ∧ (t'.outputStreams u).listeners.rows = [] := by
  induction hmoves with
  | refl => exact Or.inl ⟨rfl, .refl _⟩
  | @tail middle last _ hmove ih =>
      have hkeeps : (last.outputStreams u).streamId = (middle.outputStreams u).streamId →
          SameRows (middle.outputStreams u) (last.outputStreams u) →
          (last.outputStreams u).streamId = (t.outputStreams u).streamId ∧
              SameRows (t.outputStreams u) (last.outputStreams u) ∨
            ((t.outputStreams u).streaming = false ∧
              heldByOther (t.outputStreams u).listeners none = false) ∧
              (last.outputStreams u).streaming = false ∧
                (last.outputStreams u).listeners.rows = [] := by
        intro hid hrows
        refine ih.imp (fun h => ⟨hid.trans h.1, hrows.1.trans h.2.1, hrows.2.trans h.2.2⟩) fun h => ?_
        exact ⟨h.1, hrows.2.trans h.2.1, (congrArg ListenerRows.rows hrows.1).trans h.2.2⟩
      cases hmove with
      | quiet hids hrows heffects => exact hkeeps (hids u).1 (hrows.resolve_left id u)
      | declare v hids hrows heffects => exact hkeeps (hids u).1 (hrows u)
      | renew _ v gen _ _ _ hids _ _ _ hidle hfree hlisteners hrows heffects =>
          by_cases hv : u = v
          · subst hv
            have hnone : (last.outputStreams u).listeners.rows = [] := by
              rw [hlisteners, rows_renewed, List.filterMap_eq_nil_iff]
              intro row hrow
              exact if_neg (not_held (hfree.resolve_left id) row hrow)
            refine Or.inr ⟨?_, hidle.2, hnone⟩
            rcases ih with ⟨-, hlisteners', hstreaming⟩ | ⟨hbefore, -⟩
            · rw [← hlisteners', ← hstreaming]
              exact ⟨hidle.1, hfree.resolve_left id⟩
            · exact hbefore
          · exact hkeeps (hids u hv).1 (hrows u hv)

theorem TalkerMoves.sameStreamId (hmoves : TalkerMoves touches False now t t')
    (u : Fin avbMaxNumOutputStreams) :
    (t'.outputStreams u).streamId = (t.outputStreams u).streamId := by
  induction hmoves with
  | refl => rfl
  | tail _ hmove ih =>
      cases hmove with
      | quiet hids hrows heffects => exact (hids u).1.trans ih
      | declare v hids hrows heffects => exact (hids u).1.trans ih
      | renew hrenews => exact hrenews.elim

/-- A stream that moves where nobody connects. -/
theorem streamRenewed_moves (hmoves : TalkerMoves False renews now t t')
    (hchanged : (t'.outputStreams u).streamId ≠ (t.outputStreams u).streamId) :
    StreamRenewed none (t.outputStreams u) (t'.outputStreams u) := by
  rcases hmoves.rowsMoved u with ⟨hsame, -⟩ | ⟨⟨hidle, hfree⟩, -, hnone⟩
  · exact absurd hsame hchanged
  · have hheld := not_held hfree
    refine ⟨hidle, fun row hrow hacmp => absurd hacmp (hheld row hrow),
      fun row hrow hacmp => absurd hacmp (hheld row hrow), fun row hrow => ?_, fun id hid => ?_⟩
    · rw [hnone] at hrow
      cases hrow
    · cases hid

/-- The rows that a renewal leaves when the connecting listener alone holds the stream. -/
theorem rows_renewed_connect {rows : ListenerRows} {i : Nat} {row : TalkerListener}
    (hrow : rows.rows[i]? = some row) (hacmp : row.acmpConnected)
    (hfree : heldByOther rows (some i) = false) :
    (∃ row' ∈ (rows.walkBack renewRow).rows, row'.identity = row.identity) ∧
      ∀ row' ∈ (rows.walkBack renewRow).rows, row'.acmpConnected = true ∧ row'.msrpReady = false ∧
        row'.identity = row.identity := by
  rw [rows_renewed]
  constructor
  · exact ⟨_, List.mem_filterMap.mpr ⟨row, List.mem_of_getElem? hrow, if_pos hacmp⟩, rfl⟩
  · intro row' hmem
    obtain ⟨old, hold, hrenewed⟩ := List.mem_filterMap.mp hmem
    unfold renewRow at hrenewed
    split at hrenewed
    · rename_i hconnected
      obtain rfl := Option.some.inj hrenewed
      obtain ⟨j, hj⟩ := List.mem_iff_getElem?.mp hold
      have hij : j = i := by
        by_contra hother
        have hheld := heldByOther_iff.mpr ⟨j, old, hj, hconnected, fun heq => hother (Option.some.inj heq)⟩
        rw [hfree] at hheld
        cases hheld
      rw [hij, hrow] at hj
      exact ⟨hconnected, rfl, by rw [Option.some.inj hj]; rfl⟩
    · cases hrenewed

/-- A stream that moves for the listener that connects to it. -/
theorem streamRenewed_connect {msg : AcmpMessage} (h : acmpConnectTx cfg env t u msg = some t')
    (hchanged : (t'.outputStreams u).streamId ≠ (t.outputStreams u).streamId) :
    StreamRenewed (some msg.listenerIdentity) (t.outputStreams u) (t'.outputStreams u) := by
  obtain ⟨i, rows, hfound, t₁, ht₁, hstarted⟩ := acmpConnectTx_cases h
  have hstart : SameButStreaming (t₁.outputStreams u) (t'.outputStreams u) := by
    rw [hstarted]
    split
    · exact .start
    · exact .refl _
  have hid : (t'.outputStreams u).streamId = (t₁.outputStreams u).streamId := by rw [hstart]
  rw [hid] at hchanged
  -- the class changes, and with it the declaration
  have hclass : connectTxClass cfg (t.outputStreams u)
      (findTalkerListenerByIdentity (t.outputStreams u).listeners msg.listenerEntityId
        msg.listenerUid) msg.flags ≠ (t.outputStreams u).classB := by
    intro hsame
    rw [ht₁, connectTxSetClass_same] at hchanged
    · exact hchanged (by simp [TalkerState.setListeners, TalkerState.setStream])
    · rw [hsame]
      simp [TalkerState.setListeners, TalkerState.setStream]
  have hheld := connectTxClass_held hclass
  obtain ⟨row, hrow, hrowid⟩ :=
    findTalkerListenerByIdentity_eq_some (findOrAddTalkerListenerByIdentity_find hfound)
  have hmodified : (rows.modify i (acmpConnectedRow env.nowUs)).rows[i]?
      = some (acmpConnectedRow env.nowUs row) := by
    simp [ListenerRows.modify, hrow]
  -- what the renewal finds
  obtain ⟨t₂, hstreaming, hlisteners, hsameId, hrenewed⟩ : ∃ t₂ : TalkerState,
      (t₂.outputStreams u).streaming = (t.outputStreams u).streaming ∧
      (t₂.outputStreams u).listeners = rows.modify i (acmpConnectedRow env.nowUs) ∧
      (t₂.outputStreams u).streamId = (t.outputStreams u).streamId ∧
      (t₁ = t₂ ∨ ∃ t₃ destAddr, (t₃ = t₂ ∨ Renewed env t₂ u (some i) t₃) ∧
        t₁ = t₃.effect (.declareTalker (t₃.outputStreams u).streamId destAddr)) := by
    rw [ht₁]
    unfold connectTxSetClass
    rw [if_neg (by simpa [TalkerState.setListeners, TalkerState.setStream] using hclass.symm)]
    refine ⟨_, ?_, ?_, ?_, declareNow_cases _ u (some i)⟩
    · simp [TalkerState.setListeners, TalkerState.setStream, TalkerState.effect]
    · simp [TalkerState.setListeners, TalkerState.setStream, TalkerState.effect]
    · simp [TalkerState.setListeners, TalkerState.setStream, TalkerState.effect]
  rcases hrenewed with rfl | ⟨t₃, destAddr, rfl | ⟨hidle, hfree, gen, -, rfl⟩, rfl⟩
  · exact absurd hsameId hchanged
  · exact absurd hsameId hchanged
  · rw [hlisteners] at hfree
    obtain ⟨⟨own, hown, hownId⟩, hrows⟩ := rows_renewed_connect hmodified rfl hfree
    have hidentity : (acmpConnectedRow env.nowUs row).identity = msg.listenerIdentity := hrowid
    have hafter : (t'.outputStreams u).listeners
        = (rows.modify i (acmpConnectedRow env.nowUs)).walkBack renewRow := by
      rw [hstart.listeners, ← hlisteners]
      simp [TalkerState.setStream, TalkerState.effect]
    refine ⟨hstreaming.symm.trans hidle, fun row' hrow' hacmp => ?_, fun row' hrow' hacmp => ?_,
      fun row' hrow' => ?_, fun id hid => ?_⟩
    · exact congrArg some (hheld row' hrow' hacmp).symm
    · rw [hafter]
      obtain ⟨hentity, huid⟩ := Prod.mk.inj
        ((hownId.trans hidentity).trans (hheld row' hrow' hacmp).symm)
      exact ⟨own, hown, hentity, huid⟩
    · rw [hafter] at hrow'
      obtain ⟨hacmp, hready, hequal⟩ := hrows row' hrow'
      exact ⟨hacmp, hready, congrArg some (hequal.trans hidentity).symm⟩
    · rw [hafter]
      exact ⟨own, hown, (hownId.trans hidentity).trans (Option.some.inj hid)⟩

/-! ## The run -/

theorem outputStreams_answer (t : TalkerState) (msgType : AcmpMsgType) (response : AcmpMessage)
    (status : AcmpStatus) :
    (talkerAcmpResponse env t msgType response status).outputStreams = t.outputStreams := by
  unfold talkerAcmpResponse
  dsimp only
  split_ifs <;> rfl

variable {ecfg : EntityConfig} {clock : Nat} {s : EntityState} {run : RenewalRun}

/-- Whatever moves a stream ID does it as a renewal may. -/
theorem streamRenewed_step {ev : RenewalEvent}
    (hchanged : ((renewalEntityStep ecfg s ev).talker.outputStreams u).streamId
      ≠ (s.talker.outputStreams u).streamId) :
    StreamRenewed ev.connecting (s.talker.outputStreams u)
      ((renewalEntityStep ecfg s ev).talker.outputStreams u) := by
  rcases @talkerMoves_renewalStep ecfg 0 s ev with
    ⟨hnone, hmoves⟩ | hmoves | ⟨env, msg, rfl, htype, v, t', response, status, hconnect, heq⟩
  · rw [hnone]
    exact streamRenewed_moves hmoves hchanged
  · exact absurd (hmoves.sameStreamId u) hchanged
  · have hwho : (RenewalEvent.entity (.acmp env msg)).connecting = some msg.listenerIdentity :=
      if_pos htype
    rw [heq, outputStreams_answer] at hchanged ⊢
    rw [hwho]
    by_cases hv : u = v
    · subst hv
      exact streamRenewed_connect hconnect hchanged
    · exact absurd (congrArg AvbTalkerStream.streamId
        ((acmpConnectTx_onStream hconnect).others u hv)) hchanged

/-- An event is a chain of moves of some kind. -/
theorem renewalStep_chain (clock : Nat) (s : EntityState) (ev : RenewalEvent) :
    ∃ touches renews, TalkerMoves touches renews (ev.nowUs clock) s.talker
      (renewalEntityStep ecfg s ev).talker := by
  rcases @talkerMoves_renewalStep ecfg clock s ev with
    ⟨-, hmoves⟩ | hmoves | ⟨env, msg, rfl, -, v, t', response, status, hconnect, heq⟩
  · exact ⟨_, _, hmoves⟩
  · exact ⟨_, _, hmoves⟩
  · rw [heq]
    exact ⟨_, _, (talkerMoves_connectTx hconnect).trans (talkerMoves_answer _ _ _)⟩

/-- The clock does not go back, as `esp_timer_get_time` does not. -/
def ClockAdvances (run : RenewalRun) (ev : RenewalEvent) : Prop := run.clock ≤ ev.nowUs run.clock

instance (run : RenewalRun) (ev : RenewalEvent) : Decidable (ClockAdvances run ev) :=
  inferInstanceAs (Decidable (_ ≤ _))

theorem logSound_step {ev : RenewalEvent} (hclock : ClockAdvances run ev)
    (h : LogSound mac run.clock run.entity.talker run.log) :
    LogSound mac (renewalStep ecfg run ev).clock (renewalStep ecfg run ev).entity.talker
      (renewalStep ecfg run ev).log := by
  obtain ⟨touches, renews, hmoves⟩ := @renewalStep_chain ecfg run.clock run.entity ev
  obtain ⟨new, hnew, hsound⟩ := (h.later hclock).moves hmoves
  unfold renewalStep
  dsimp only
  rw [hnew, List.drop_left]
  exact hsound

theorem logSound_start (mac : EthAddr) (clock : Nat) (s : EntityState) :
    LogSound mac clock (renewalStart mac clock s).entity.talker (renewalStart mac clock s).log where
  gen_lt := fun _ => Nat.zero_lt_succ 3
  streamId := fun u => generationId_zero mac u
  past := fun _ he => absurd he List.not_mem_nil
  current := fun _ _ he => absurd he List.not_mem_nil
  retired := fun _ _ _ _ _ he => absurd he List.not_mem_nil
  spaced := List.Pairwise.nil

/-- Whatever happens in whatever order: the output streams have different stream IDs, a retired ID is
not declared again within the reuse time, and an event that moves a stream withdraws its old ID,
finds it idle and held by no other listener, and leaves the rows that ACMP connected, not ready. -/
theorem renewals_sound (ecfg : EntityConfig) (mac : EthAddr) (clock : Nat) (s : EntityState)
    (events : List RenewalEvent)
    (hclock : RunMeets ClockAdvances (renewalStep ecfg) (renewalStart mac clock s) events) :
    let run := Machine.run (renewalStep ecfg) (renewalStart mac clock s) events
    (∀ u v, u ≠ v →
        (run.entity.talker.outputStreams u).streamId ≠ (run.entity.talker.outputStreams v).streamId) ∧
      run.log.Pairwise SpacedReuse ∧
      ∀ ev u, ((renewalStep ecfg run ev).entity.talker.outputStreams u).streamId
          ≠ (run.entity.talker.outputStreams u).streamId →
        (ev.nowUs run.clock, .withdrawTalker (run.entity.talker.outputStreams u).streamId)
            ∈ (renewalStep ecfg run ev).log ∧
          StreamRenewed ev.connecting (run.entity.talker.outputStreams u)
            ((renewalStep ecfg run ev).entity.talker.outputStreams u) := by
  intro run
  have hsound : LogSound mac run.clock run.entity.talker run.log :=
    hclock.invariant (fun run => LogSound mac run.clock run.entity.talker run.log)
      (fun _ _ hadvances h => logSound_step hadvances h) (logSound_start mac clock s)
  refine ⟨fun u v hother hequal => ?_, hsound.spaced, fun ev u hchanged => ⟨?_, ?_⟩⟩
  · rw [hsound.streamId u, hsound.streamId v] at hequal
    exact hother (generationId_inj (hsound.gen_lt u) (hsound.gen_lt v) hequal).1
  · obtain ⟨touches, renews, hmoves⟩ := @renewalStep_chain ecfg run.clock run.entity ev
    obtain ⟨new, hnew, hwithdrawn⟩ := hmoves.withdrawn
    unfold renewalStep
    dsimp only
    rw [hnew, List.drop_left]
    exact List.mem_append_right _ (List.mem_map.mpr ⟨_, hwithdrawn u hchanged, rfl⟩)
  · exact streamRenewed_step hchanged

/-- The first output stream has grown, with no other of its IDs on the wire. -/
def grownTick (us : Nat) : RenewalEvent :=
  .tick
    { EntityEnv.at us with
      talker := { TalkerEnv.at us with advertiseChangeWaits := fun _ => true } }
    ⟨0, Nat.two_pos⟩

theorem renewals_sound_twice :
    let run := Machine.run (renewalStep plainEntity) (renewalStart (.zero 6) 0 .blank)
      [grownTick 40000000, grownTick 41000000]
    (run.entity.talker.outputStreams ⟨0, Nat.two_pos⟩).streamIdGen = 2 ∧
      run.log.length = 4 ∧ run.log.Pairwise SpacedReuse :=
  ⟨rfl, rfl, (renewals_sound plainEntity (.zero 6) 0 .blank
    [grownTick 40000000, grownTick 41000000] (by decide)).2.1⟩

end EspAvb
