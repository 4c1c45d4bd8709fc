import EspAvb.Proof.LiteAdmission

/-!
# The order of an escalation

A stream of AVB Lite that has outgrown its unicast copies moves to its multicast address: first its
declaration shows the address, and a JoinTime later the frames follow. Going back the frames move
first. A watch over a run notes when the declaration of each stream last changed to the multicast
address and when its frames last moved there.
-/

namespace EspAvb

variable {cfg : LiteConfig} {env : LiteEnv}

/-! ### The watch -/

/-- The time an event is handled at. What a controller or MAAP sets reads no clock. -/
def LiteEvent.nowUs : LiteEvent → Nat
  | .pass env | .declare env _ | .ptp env _ => env.nowUs
  | .talker (.acmp env _ _) | .talker (.listener env _ _ _ _ _) => env.nowUs
  | .talker (.destAddr _ _) | .format _ _ _ _ => 0

/-- `settled` is whether a pass was made since AVB Lite was last switched on. -/
structure LiteWatch where
  state : LiteState
  declaredAtUs : Fin avbMaxNumOutputStreams → Nat
  movedAtUs : Fin avbMaxNumOutputStreams → Nat
  settled : Bool

namespace LiteWatch

def start (s : LiteState) : LiteWatch :=
  { state := s, declaredAtUs := fun _ => 0, movedAtUs := fun _ => 0, settled := false }

def settledAfter (w : LiteWatch) (after : LiteState) : LiteEvent → Bool
  | .pass _ => after.talker.avbLite
  | .ptp _ _ => w.settled && after.talker.avbLite == w.state.talker.avbLite
  | _ => w.settled

def step (cfg : LiteConfig) (w : LiteWatch) (e : LiteEvent) : LiteWatch :=
  let after := liteStep cfg w.state e
  { state := after
    declaredAtUs := fun u =>
      if (after.talker.outputStreams u).liteDeclaredMulticast &&
          !(w.state.talker.outputStreams u).liteDeclaredMulticast then e.nowUs
      else w.declaredAtUs u
    movedAtUs := fun u =>
      if (after.talker.outputStreams u).liteTxMulticast &&
          !(w.state.talker.outputStreams u).liteTxMulticast then e.nowUs
      else w.movedAtUs u
    settled := w.settledAfter after e }

end LiteWatch

/-! ### What a step does to the flags -/

/-- A stream in a pass, planned and published. -/
theorem pass_escalates {s : LiteState} (hwell : LiteWell s) (hleft : StampsLeft s)
    (htalker : cfg.talker = true) (u : Fin avbMaxNumOutputStreams) :
    EscalationStep env.nowUs (s.talker.outputStreams u)
      ((avbLiteUpdateStreamTxAddrs cfg env s).talker.outputStreams u) := by
  have hkept := (pass_done env s htalker).kept u
  have hplanned : EscalationStep env.nowUs (s.talker.outputStreams u)
      ((litePlanned cfg env s).streams u) := by
    unfold litePlanned
    split_ifs
    · have hstep := (litePlanAll_spec cfg env hwell hleft).escalation u
      exact ⟨hstep.streamId, hstep.destAddr, hstep.begins, hstep.stays⟩
    · exact .refl _ _
  refine ⟨hkept.streamId.trans hplanned.streamId, hkept.destAddr.trans hplanned.destAddr, ?_, ?_⟩
  · intro hbefore hafter
    rw [hkept.txAt, hkept.tx]
    exact hplanned.begins hbefore (hkept.declared ▸ hafter)
  · intro hbefore hafter
    rw [hkept.txAt, hkept.tx]
    exact hplanned.stays hbefore (hkept.declared ▸ hafter)

/-- Between the passes the flags only fall. -/
structure FlagsFall (before after : AvbTalkerStream) : Prop where
  declared : after.liteDeclaredMulticast → before.liteDeclaredMulticast
  tx : after.liteTxMulticast → before.liteTxMulticast
  txAt : after.liteMulticastTxAtUs = before.liteMulticastTxAtUs

theorem StreamKept.flagsFall {lite : Bool} {before after : AvbTalkerStream}
    (h : StreamKept lite before after) : FlagsFall before after :=
  ⟨fun hd => h.declared ▸ hd, fun ht => h.tx ▸ ht, h.txAt⟩

theorem FlagsFall.refl (stream : AvbTalkerStream) : FlagsFall stream stream := ⟨id, id, rfl⟩

theorem setStream_flagsFall {s : TalkerState} {u : Fin avbMaxNumOutputStreams}
    {stream : AvbTalkerStream} (h : FlagsFall (s.outputStreams u) stream)
    (v : Fin avbMaxNumOutputStreams) :
    FlagsFall (s.outputStreams v) ((s.setStream u stream).outputStreams v) := by
  by_cases hv : v = u
  · subst hv
    simpa [TalkerState.setStream] using h
  · simpa [TalkerState.setStream, Function.update_of_ne hv] using FlagsFall.refl _

theorem liteForgetEscalation_flagsFall (s : TalkerState) (avbLite : Bool)
    (u : Fin avbMaxNumOutputStreams) :
    FlagsFall (s.outputStreams u)
      ((liteForgetEscalation cfg (avbApplyMediaVlan cfg { s with avbLite })).outputStreams u) := by
  by_cases hin : u.val < cfg.numOutputStreams
  · simp only [liteForgetEscalation, avbApplyMediaVlan, hin, if_true]
    exact ⟨by simp, by simp, rfl⟩
  · simp only [liteForgetEscalation, avbApplyMediaVlan, hin, if_false]
    exact .refl _

theorem liteStep_flagsFall (s : LiteState) {e : LiteEvent} (he : ∀ env, e ≠ .pass env)
    (u : Fin avbMaxNumOutputStreams) :
    FlagsFall (s.talker.outputStreams u) ((liteStep cfg s e).talker.outputStreams u) := by
  cases e with
  | pass env => exact absurd rfl (he env)
  | talker e =>
      cases e with
      | destAddr v addr =>
          exact @setStream_flagsFall s.talker v
            { s.talker.outputStreams v with streamDestAddr := addr } ⟨id, id, rfl⟩ u
      | acmp env holders msg =>
          exact ((talkerStep_kept _ s.talker (e := .acmp env holders msg)
            (by simp)).stream u).flagsFall
      | listener env streamId leaving decl tr srcAddr =>
          exact ((talkerStep_kept _ s.talker
            (e := .listener env streamId leaving decl tr srcAddr) (by simp)).stream u).flagsFall
  | format v streamFormat classB vlanId =>
      exact @setStream_flagsFall s.talker v
        { s.talker.outputStreams v with streamFormat, classB, vlanId } ⟨id, id, rfl⟩ u
  | declare env v => exact ((TransportKept.declareNow none).stream u).flagsFall
  | ptp env standardProfile =>
      simp only [liteStep, avbUpdateAvbLiteFromPtp]
      split_ifs with hsame hlite
      · exact .refl _
      · rw [(liteDeclareAll_kept ?_).2]
        · exact liteForgetEscalation_flagsFall _ _ u
        · exact (Bool.and_eq_true_iff.mp hlite).1
      · exact liteForgetEscalation_flagsFall _ _ u

/-! ### What is declared -/

/-- Every declaration shows the address the transport of its stream is at. -/
def ShowsAddress (s : TalkerState) (new : List TalkerEffect) : Prop :=
  ∀ streamId destAddr, .declareTalker streamId destAddr ∈ new →
    ∃ u, streamId = (s.outputStreams u).streamId ∧
      destAddr = avbDeclaredDestAddr true (s.outputStreams u)

/-- A part of a turn that declares nothing. -/
def Undeclared (s s' : TalkerState) : Prop :=
  ∃ new, s'.effects = s.effects ++ new ∧
    ∀ streamId destAddr, .declareTalker streamId destAddr ∉ new

namespace Undeclared

variable {s s' s'' : TalkerState} {u : Fin avbMaxNumOutputStreams}

theorem of_eq (h : s'.effects = s.effects) : Undeclared s s' := ⟨[], by simp [h], by simp⟩

theorem trans (h : Undeclared s s') (h' : Undeclared s' s'') : Undeclared s s'' := by
  obtain ⟨new, heq, hnone⟩ := h
  obtain ⟨new', heq', hnone'⟩ := h'
  refine ⟨new ++ new', by rw [heq', heq, List.append_assoc], ?_⟩
  intro streamId destAddr hmem
  rcases List.mem_append.mp hmem with hmem | hmem
  · exact hnone streamId destAddr hmem
  · exact hnone' streamId destAddr hmem

theorem run (serving : Bool) (das : List EthAddr) :
    Undeclared s (liteRunStream cfg env s u serving das) := by
  unfold liteRunStream
  dsimp only
  split_ifs
  · unfold avbStopStreamOut
    dsimp only
    split_ifs
    · exact ⟨[.testToneOff], rfl, by simp⟩
    · exact of_eq rfl
  · apply of_eq
    unfold avbStartStreamOut
    dsimp only
    split_ifs <;> rfl
  · exact of_eq rfl

end Undeclared

variable (env) in
/-- The turn of a stream declares at its end, if at all. -/
theorem litePublishStream_declares {s : LiteState} (hlite : s.talker.avbLite = true)
    (u : Fin avbMaxNumOutputStreams) (plan : LitePlan) :
    ∃ new, (litePublishStream cfg env s u plan).talker.effects = s.talker.effects ++ new ∧
      ∀ streamId destAddr, .declareTalker streamId destAddr ∈ new →
        streamId = ((litePublishStream cfg env s u plan).talker.outputStreams u).streamId ∧
        destAddr = avbDeclaredDestAddr true
          ((litePublishStream cfg env s u plan).talker.outputStreams u) := by
  unfold litePublishStream
  dsimp only
  set planned := s.talker.outputStreams u
  set das := liteDas cfg plan planned
  set serving := liteServing cfg plan planned
  set rows := s.talker.setStream u (litePublishRows cfg env plan planned)
  have hrun : Undeclared s.talker (liteRunStream cfg env rows u serving das) :=
    (Undeclared.of_eq rfl).trans (.run serving das)
  have hlite' : (liteRunStream cfg env rows u serving das).avbLite = true :=
    (TurnOf.run (u := u) serving das).lite.trans hlite
  set ran := liteRunStream cfg env rows u serving das
  set published : TalkerState :=
    if planned.liteTxMulticast || !das.isEmpty then avbLitePublishTxAddrs ran u das else ran
    with hpublished
  have hpublish : Undeclared s.talker published ∧ published.avbLite = true := by
    rw [hpublished]
    split_ifs
    · exact ⟨hrun.trans (.of_eq rfl), hlite'⟩
    · exact ⟨hrun, hlite'⟩
  obtain ⟨⟨new, heq, hnone⟩, hlite''⟩ := hpublish
  split_ifs
  · refine ⟨new ++ [.declareTalker (published.outputStreams u).streamId
      (avbDeclaredDestAddr true (published.outputStreams u))], ?_, ?_⟩
    · simp [avbDeclareOutputStream, hlite'', TalkerState.effect, heq]
    · intro streamId destAddr hmem
      rw [avbDeclareOutputStream_lite hlite'']
      rcases List.mem_append.mp hmem with hmem | hmem
      · exact absurd hmem (hnone streamId destAddr)
      · exact TalkerEffect.declareTalker.inj (List.mem_singleton.mp hmem)
  · exact ⟨new, heq, fun streamId destAddr hmem => absurd hmem (hnone streamId destAddr)⟩

/-- What the turns of the streams so far have declared, which the turns after them leave true. -/
structure DeclaredUpTo (s s' : LiteState) (done : List (Fin avbMaxNumOutputStreams)) : Prop where
  lite : s'.talker.avbLite = true
  declares : ∃ new, s'.talker.effects = s.talker.effects ++ new ∧
    ∀ streamId destAddr, .declareTalker streamId destAddr ∈ new →
      ∃ u ∈ done, streamId = (s'.talker.outputStreams u).streamId ∧
        destAddr = avbDeclaredDestAddr true (s'.talker.outputStreams u)

theorem DeclaredUpTo.next {s s' : LiteState} {done : List (Fin avbMaxNumOutputStreams)}
    (h : DeclaredUpTo s s' done) (plans : Fin avbMaxNumOutputStreams → Option LitePlan)
    {u : Fin avbMaxNumOutputStreams} (hu : u ∉ done) :
    DeclaredUpTo s (litePublishNext cfg env plans s' u) (done ++ [u]) := by
  have hturn : TurnOf u s'.talker (litePublishNext cfg env plans s' u).talker :=
    (litePublishNext_turn plans s' u).1
  refine ⟨hturn.lite.trans h.lite, ?_⟩
  obtain ⟨new, heq, hshows⟩ := h.declares
  -- what is declared already is of another stream
  have hold : ∀ streamId destAddr, .declareTalker streamId destAddr ∈ new →
      ∃ v ∈ done ++ [u],
        streamId = ((litePublishNext cfg env plans s' u).talker.outputStreams v).streamId ∧
        destAddr = avbDeclaredDestAddr true
          ((litePublishNext cfg env plans s' u).talker.outputStreams v) := by
    intro streamId destAddr hmem
    obtain ⟨v, hv, hshow⟩ := hshows streamId destAddr hmem
    have hvu : v ≠ u := fun h => hu (h ▸ hv)
    rw [← hturn.other v hvu] at hshow
    exact ⟨v, List.mem_append_left _ hv, hshow⟩
  cases hplan : plans u with
  | none =>
      refine ⟨new, ?_, hold⟩
      simp [litePublishNext, hplan, litePublishUnplanned, avbLitePublishTxAddrs,
        TalkerState.setStream, heq]
  | some plan =>
      have hnext : litePublishNext cfg env plans s' u = litePublishStream cfg env s' u plan := by
        simp [litePublishNext, hplan]
      rw [hnext] at hold ⊢
      obtain ⟨more, heq', hshows'⟩ := litePublishStream_declares env h.lite u plan
      refine ⟨new ++ more, by rw [heq', heq, List.append_assoc], ?_⟩
      intro streamId destAddr hmem
      rcases List.mem_append.mp hmem with hmem | hmem
      · exact hold streamId destAddr hmem
      · exact ⟨u, by simp, hshows' streamId destAddr hmem⟩

theorem pass_shows {s : LiteState} (hlite : s.talker.avbLite = true) :
    ∃ new, (avbLiteUpdateStreamTxAddrs cfg env s).talker.effects = s.talker.effects ++ new ∧
      ShowsAddress (avbLiteUpdateStreamTxAddrs cfg env s).talker new := by
  have hfold : ∀ (plans : Fin avbMaxNumOutputStreams → Option LitePlan)
      (rest done : List (Fin avbMaxNumOutputStreams)) (s' : LiteState), (done ++ rest).Nodup →
      DeclaredUpTo s s' done →
        DeclaredUpTo s (rest.foldl (litePublishNext cfg env plans) s') (done ++ rest) := by
    intro plans rest
    induction rest with
    | nil =>
        intro done s' _ h
        simpa using h
    | cons u rest ih =>
        intro done s' hnodup h
        have hu : u ∉ done := by
          intro hmem
          exact (List.disjoint_of_nodup_append hnodup) hmem List.mem_cons_self
        rw [List.append_cons] at hnodup ⊢
        exact ih (done ++ [u]) _ hnodup (h.next plans hu)
  unfold avbLiteUpdateStreamTxAddrs
  dsimp only
  split_ifs
  · exact ⟨[], by simp, by simp [ShowsAddress]⟩
  · set p := litePlanned cfg env s
    obtain ⟨-, new, heq, hshows⟩ := hfold p.plans cfg.streams []
      { s with liteOrderSeq := p.seq, talker := { s.talker with outputStreams := p.streams } }
      cfg.streams_nodup ⟨hlite, [], by simp, by simp⟩
    refine ⟨new, heq, ?_⟩
    intro streamId destAddr hmem
    obtain ⟨u, -, hshow⟩ := hshows streamId destAddr hmem
    exact ⟨u, hshow⟩

theorem TransportKept.shows {s s' : TalkerState} (h : TransportKept s s')
    (hlite : s'.avbLite = true) :
    ∃ new, s'.effects = s.effects ++ new ∧ ShowsAddress s' new := by
  obtain ⟨new, heq, hright, -⟩ := h.declares
  refine ⟨new, heq, ?_⟩
  intro streamId destAddr hmem
  have hshow := hright streamId destAddr hmem
  have hbefore : s.avbLite = true := h.lite.symm.trans hlite
  simp only [DeclaresRight, hbefore, if_true] at hshow
  obtain ⟨u, hid, hda⟩ := hshow
  have hkept := h.stream u
  rw [hbefore] at hkept
  exact ⟨u, hid.trans (hkept.streamId rfl).symm, hda.trans hkept.declaredDestAddr.symm⟩

theorem liteDeclareAll_shows {t : TalkerState} (hlite : t.avbLite = true) :
    ∃ new, (liteDeclareAll cfg env t).effects = t.effects ++ new ∧
      ShowsAddress (liteDeclareAll cfg env t) new := by
  have hfold : ∀ (streams : List (Fin avbMaxNumOutputStreams)) (s : TalkerState), s.avbLite = true →
      s.outputStreams = t.outputStreams →
      ∃ new, (streams.foldl (fun s u =>
        if (s.outputStreams u).streamId = .zero 8 then s
        else avbDeclareOutputStream cfg.toTalkerConfig env.toTalkerEnv s u none) s).effects =
          s.effects ++ new ∧ ShowsAddress t new := by
    intro streams
    induction streams with
    | nil => exact fun s _ _ => ⟨[], by simp, by simp [ShowsAddress]⟩
    | cons u streams ih =>
        intro s hs hstreams
        rw [List.foldl_cons]
        split_ifs
        · exact ih s hs hstreams
        · obtain ⟨new, heq, hshows⟩ := ih
            (avbDeclareOutputStream cfg.toTalkerConfig env.toTalkerEnv s u none)
            ((TurnOf.declare (u := u) _ _ _).lite.trans hs)
            ((avbDeclareOutputStream_lite hs u none).trans hstreams)
          refine ⟨.declareTalker (t.outputStreams u).streamId
            (avbDeclaredDestAddr true (t.outputStreams u)) :: new, ?_, ?_⟩
          · rw [heq]
            simp [avbDeclareOutputStream, hs, TalkerState.effect, hstreams]
          · intro streamId destAddr hmem
            rcases List.mem_cons.mp hmem with heq | hmem
            · obtain ⟨hid, hda⟩ := TalkerEffect.declareTalker.inj heq
              exact ⟨u, hid, hda⟩
            · exact hshows streamId destAddr hmem
  obtain ⟨new, heq, hshows⟩ := hfold cfg.streams t hlite rfl
  refine ⟨new, heq, ?_⟩
  unfold ShowsAddress
  rw [(liteDeclareAll_kept hlite).2]
  exact hshows

/-- Every declaration made in AVB Lite shows the multicast address of its stream exactly while the
stream declares it. -/
theorem liteStep_shows (s : LiteState) (e : LiteEvent)
    (hlite : (liteStep cfg s e).talker.avbLite = true) :
    ∃ new, (liteStep cfg s e).talker.effects = s.talker.effects ++ new ∧
      ShowsAddress (liteStep cfg s e).talker new := by
  cases e with
  | pass env =>
      apply pass_shows
      cases htalker : cfg.talker with
      | true => exact (pass_done env s htalker).lite.symm.trans hlite
      | false => simpa [liteStep, avbLiteUpdateStreamTxAddrs, htalker] using hlite
  | talker e =>
      cases e with
      | destAddr u addr =>
          exact ⟨[], by simp [liteStep, talkerStep, TalkerState.setStream], by simp [ShowsAddress]⟩
      | acmp env holders msg =>
          exact (talkerStep_kept _ s.talker (e := .acmp env holders msg) (by simp)).shows hlite
      | listener env streamId leaving decl tr srcAddr =>
          exact (talkerStep_kept _ s.talker
            (e := .listener env streamId leaving decl tr srcAddr) (by simp)).shows hlite
  | format u streamFormat classB vlanId =>
      exact ⟨[], by simp [liteStep, TalkerState.setStream], by simp [ShowsAddress]⟩
  | declare env u => exact (TransportKept.declareNow none).shows hlite
  | ptp env standardProfile =>
      simp only [liteStep, avbUpdateAvbLiteFromPtp] at hlite ⊢
      split_ifs at hlite ⊢ with hsame hon
      · exact ⟨[], by simp, by simp [ShowsAddress]⟩
      · exact liteDeclareAll_shows (t := liteForgetEscalation cfg (avbApplyMediaVlan cfg
          { s.talker with avbLite := cfg.avbLiteCompliant && standardProfile }))
          (Bool.and_eq_true_iff.mp hon).1
      · exact ⟨[], by simp [liteForgetEscalation, avbApplyMediaVlan], by simp [ShowsAddress]⟩

/-! ### The order -/

/-- A stream that runs has an address published, or is escalated. -/
def RunsAt (stream : AvbTalkerStream) : Prop :=
  stream.streaming → stream.txDa = [] → stream.liteTxMulticast

/-- What the watch finds at any time. -/
structure WatchWell (cfg : LiteConfig) (w : LiteWatch) : Prop where
  well : LiteWell w.state
  declared : ∀ u, (w.state.talker.outputStreams u).liteDeclaredMulticast →
    (w.state.talker.outputStreams u).liteMulticastTxAtUs = w.declaredAtUs u + avbLiteJoinTimeUs
  moved : ∀ u, (w.state.talker.outputStreams u).liteTxMulticast →
    w.declaredAtUs u + avbLiteJoinTimeUs ≤ w.movedAtUs u
  lite : w.settled → w.state.talker.avbLite = true
  runs : w.settled → ∀ u ∈ cfg.streams, RunsAt (w.state.talker.outputStreams u)

theorem WatchWell.start {s : LiteState} (hboot : LiteBoot s) : WatchWell cfg (.start s) where
  well := hboot.well
  declared u hd := by
    rw [LiteWatch.start, (hboot u).2.2] at hd
    cases hd
  moved u ht := by
    rw [LiteWatch.start, (hboot u).2.1] at ht
    cases ht
  lite h := by cases h
  runs h := by cases h

/-- The notes of a stream whose flags fall stay right. -/
theorem WatchWell.fallen {w : LiteWatch} (h : WatchWell cfg w) {e : LiteEvent}
    {u : Fin avbMaxNumOutputStreams}
    (hfall : FlagsFall (w.state.talker.outputStreams u)
      ((liteStep cfg w.state e).talker.outputStreams u)) :
    (((liteStep cfg w.state e).talker.outputStreams u).liteDeclaredMulticast →
      ((liteStep cfg w.state e).talker.outputStreams u).liteMulticastTxAtUs =
        (w.step cfg e).declaredAtUs u + avbLiteJoinTimeUs) ∧
    (((liteStep cfg w.state e).talker.outputStreams u).liteTxMulticast →
      (w.step cfg e).declaredAtUs u + avbLiteJoinTimeUs ≤ (w.step cfg e).movedAtUs u) := by
  have hdeclaredAt : (w.step cfg e).declaredAtUs u = w.declaredAtUs u := by
    simp only [LiteWatch.step]
    split_ifs with hnew
    · simp only [Bool.and_eq_true, Bool.not_eq_true'] at hnew
      exact absurd (hfall.declared hnew.1) (by simp [hnew.2])
    · rfl
  have hmovedAt : (w.step cfg e).movedAtUs u = w.movedAtUs u := by
    simp only [LiteWatch.step]
    split_ifs with hnew
    · simp only [Bool.and_eq_true, Bool.not_eq_true'] at hnew
      exact absurd (hfall.tx hnew.1) (by simp [hnew.2])
    · rfl
  rw [hdeclaredAt, hmovedAt]
  refine ⟨?_, fun htx => h.moved u (hfall.tx htx)⟩
  intro hd
  rw [hfall.txAt]
  exact h.declared u (hfall.declared hd)

/-- The notes of a stream in a pass. -/
theorem WatchWell.escalated {w : LiteWatch} (h : WatchWell cfg w) {env : LiteEnv}
    {u : Fin avbMaxNumOutputStreams}
    (hwell : StreamWell (liteStep cfg w.state (.pass env)).liteOrderSeq
      ((liteStep cfg w.state (.pass env)).talker.outputStreams u))
    (hstep : EscalationStep env.nowUs (w.state.talker.outputStreams u)
      ((liteStep cfg w.state (.pass env)).talker.outputStreams u)) :
    (((liteStep cfg w.state (.pass env)).talker.outputStreams u).liteDeclaredMulticast →
      ((liteStep cfg w.state (.pass env)).talker.outputStreams u).liteMulticastTxAtUs =
        (w.step cfg (.pass env)).declaredAtUs u + avbLiteJoinTimeUs) ∧
    (((liteStep cfg w.state (.pass env)).talker.outputStreams u).liteTxMulticast →
      (w.step cfg (.pass env)).declaredAtUs u + avbLiteJoinTimeUs ≤
        (w.step cfg (.pass env)).movedAtUs u) := by
  simp only [LiteWatch.step, LiteEvent.nowUs]
  set before := w.state.talker.outputStreams u with hbefore
  set after := (liteStep cfg w.state (.pass env)).talker.outputStreams u
  cases hdeclared : before.liteDeclaredMulticast with
  | false =>
      refine ⟨?_, ?_⟩
      · intro hafter
        simpa [hafter] using (hstep.begins hdeclared hafter).1
      · intro htx
        exact absurd htx (by simp [(hstep.begins hdeclared (hwell.escalated htx)).2])
  | true =>
      have hat : before.liteMulticastTxAtUs = w.declaredAtUs u + avbLiteJoinTimeUs :=
        h.declared u hdeclared
      refine ⟨?_, ?_⟩
      · intro hafter
        simpa using (hstep.stays hdeclared hafter).1.trans hat
      · intro htx
        have hmoves := (hstep.stays hdeclared (hwell.escalated htx)).2 htx
        cases hbeforeTx : before.liteTxMulticast with
        | true => simpa using h.moved u hbeforeTx
        | false =>
            -- they move in this pass, so it is time
            have hdue : before.liteMulticastTxAtUs ≤ env.nowUs := by
              rcases hmoves with hmoved | hdue
              · simp [hbeforeTx] at hmoved
              · exact hdue
            simpa [htx] using hat ▸ hdue

theorem ServedWell.runsAt {plan : LitePlan} {planned after : AvbTalkerStream}
    (h : ServedWell cfg plan planned after) : RunsAt after := by
  intro hstreaming hnone
  rw [h.tx]
  by_contra htx
  have htx : planned.liteTxMulticast = false := by simpa using htx
  have hserving := h.serving hstreaming
  simp only [liteServing, htx, Bool.false_eq_true, if_false, Bool.not_eq_true',
    List.isEmpty_eq_false_iff] at hserving
  exact hserving ((h.published hstreaming).symm.trans hnone)

theorem StreamKept.runsAt {before after : AvbTalkerStream} (h : StreamKept true before after)
    (hruns : RunsAt before) : RunsAt after := by
  intro hstreaming hnone
  rw [h.tx]
  exact hruns (h.streaming rfl hstreaming) (h.txDa.symm.trans hnone)

theorem TransportKept.runsAt {s s' : TalkerState} (h : TransportKept s s')
    (hlite : s.avbLite = true) {u : Fin avbMaxNumOutputStreams} (hruns : RunsAt (s.outputStreams u)) :
    RunsAt (s'.outputStreams u) := by
  have hkept := h.stream u
  rw [hlite] at hkept
  exact hkept.runsAt hruns

theorem setStream_runsAt {s : TalkerState} {u v : Fin avbMaxNumOutputStreams}
    {stream : AvbTalkerStream} (h : RunsAt (s.outputStreams u) → RunsAt stream)
    (hruns : RunsAt (s.outputStreams v)) : RunsAt ((s.setStream u stream).outputStreams v) := by
  by_cases hv : v = u
  · subst hv
    simpa [TalkerState.setStream] using h hruns
  · simpa [TalkerState.setStream, Function.update_of_ne hv] using hruns

/-- In AVB Lite only a pass starts a stream or moves its frames. -/
theorem liteStep_runs {w : LiteWatch} (h : WatchWell cfg w) (hleft : StampsLeft w.state)
    (htalker : cfg.talker = true) (hport : cfg.wifiPort = false) {e : LiteEvent}
    (hsettled : (w.step cfg e).settled = true) :
    (liteStep cfg w.state e).talker.avbLite = true ∧
      ∀ u ∈ cfg.streams, RunsAt ((liteStep cfg w.state e).talker.outputStreams u) := by
  cases e with
  | pass env =>
      have hdone : PassDone cfg env w.state (liteStep cfg w.state (.pass env)) :=
        pass_done env w.state htalker
      refine ⟨hsettled, ?_⟩
      intro u hu
      have hlite : w.state.talker.avbLite = true := hdone.lite.symm.trans hsettled
      have hplanned : litePlanned cfg env w.state =
          avbLiteAdmitCopies cfg env (litePlanAll cfg env w.state) := by
        simp [litePlanned, hlite, hport]
      obtain ⟨plan, hplan, -⟩ := (litePlanAll_spec cfg env h.well hleft).behind u hu
      exact (hdone.served u hu plan (hplanned ▸ hplan)).1.runsAt
  | talker e =>
      have hlite := h.lite hsettled
      cases e with
      | destAddr v addr =>
          exact ⟨hlite, fun u hu => setStream_runsAt (fun hruns => hruns) (h.runs hsettled u hu)⟩
      | acmp env holders msg =>
          have hkept := talkerStep_kept cfg.toTalkerConfig w.state.talker
            (e := .acmp env holders msg) (by simp)
          exact ⟨hkept.lite.trans hlite, fun u hu => hkept.runsAt hlite (h.runs hsettled u hu)⟩
      | listener env streamId leaving decl tr srcAddr =>
          have hkept := talkerStep_kept cfg.toTalkerConfig w.state.talker
            (e := .listener env streamId leaving decl tr srcAddr) (by simp)
          exact ⟨hkept.lite.trans hlite, fun u hu => hkept.runsAt hlite (h.runs hsettled u hu)⟩
  | format v streamFormat classB vlanId =>
      exact ⟨h.lite hsettled,
        fun u hu => setStream_runsAt (fun hruns => hruns) (h.runs hsettled u hu)⟩
  | declare env v =>
      have hlite := h.lite hsettled
      have hkept : TransportKept w.state.talker (liteStep cfg w.state (.declare env v)).talker :=
        .declareNow none
      exact ⟨hkept.lite.trans hlite, fun u hu => hkept.runsAt hlite (h.runs hsettled u hu)⟩
  | ptp env standardProfile =>
      simp only [LiteWatch.step, LiteWatch.settledAfter, Bool.and_eq_true, beq_iff_eq] at hsettled
      obtain ⟨hsettled, hsame⟩ := hsettled
      refine ⟨hsame.trans (h.lite hsettled), ?_⟩
      intro u hu
      have hstill : liteStep cfg w.state (.ptp env standardProfile) = w.state := by
        simp only [liteStep, avbUpdateAvbLiteFromPtp] at hsame ⊢
        split_ifs at hsame ⊢ with heq hon
        · rfl
        · rw [(liteDeclareAll_kept (Bool.and_eq_true_iff.mp hon).1).1] at hsame
          exact absurd (hsame.symm.trans (Bool.and_eq_true_iff.mp hon).1.symm) heq
        · exact absurd hsame.symm heq
      rw [hstill]
      exact h.runs hsettled u hu

theorem WatchWell.step {w : LiteWatch} (h : WatchWell cfg w) (hleft : StampsLeft w.state)
    (htalker : cfg.talker = true) (hport : cfg.wifiPort = false) (e : LiteEvent) :
    WatchWell cfg (w.step cfg e) := by
  have hwell : LiteWell (liteStep cfg w.state e) := liteStep_well h.well hleft e
  have hnotes : ∀ u,
      (((liteStep cfg w.state e).talker.outputStreams u).liteDeclaredMulticast →
        ((liteStep cfg w.state e).talker.outputStreams u).liteMulticastTxAtUs =
          (w.step cfg e).declaredAtUs u + avbLiteJoinTimeUs) ∧
      (((liteStep cfg w.state e).talker.outputStreams u).liteTxMulticast →
        (w.step cfg e).declaredAtUs u + avbLiteJoinTimeUs ≤ (w.step cfg e).movedAtUs u) := by
    intro u
    by_cases hpass : ∃ env, e = .pass env
    · obtain ⟨env, rfl⟩ := hpass
      exact h.escalated (hwell u) (pass_escalates h.well hleft htalker u)
    · exact h.fallen (liteStep_flagsFall w.state (fun env he => hpass ⟨env, he⟩) u)
  refine ⟨hwell, fun u => (hnotes u).1, fun u => (hnotes u).2, ?_, ?_⟩
  · exact fun hsettled => (liteStep_runs h hleft htalker hport hsettled).1
  · exact fun hsettled => (liteStep_runs h hleft htalker hport hsettled).2

/-- Three listeners, a pass that declares, and one that moves the frames. -/
def escalatedRun : List LiteEvent :=
  threeReady ++ [.pass (.at 1), .pass (.at 200001)]

end EspAvb
