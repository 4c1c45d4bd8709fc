import EspAvb.Lib.Outstanding
import EspAvb.Proof.Listener

/-!
# A stream that waits has a command in flight

`pending_connection` holds back every retry, so the flag must not outlive the command it stands for:
a waiting stream has an outbound CONNECT_TX in the list, which a response or a timeout will end.
-/

namespace EspAvb

open Outstanding

variable {cfg : AcmpConfig} {env : AcmpEnv} {s : AcmpState} {u v : Fin avbMaxNumInputStreams}
variable {msg : AcmpMessage}

/-- An outbound CONNECT_TX for the stream input. -/
def InflightCommand.probes (c : InflightCommand) (u : Fin avbMaxNumInputStreams) : Bool :=
  !c.inbound && c.command.msgType == .connectTxCommand && inputSlot c.command.listenerUid == some u

/-- The command in flight a response is to: its sequence ID, its type and its parties. -/
def InflightCommand.answeredBy (response : AcmpMessage) (c : InflightCommand) : Bool :=
  c.carries response.seqId false && c.matchesData response.msgType.code response false

def InflightCommand.expired (env : AcmpEnv) (c : InflightCommand) : Bool :=
  c.timeoutMs ≤ env.timeOfDayMs

/-- Whether `d` carries the tag by which a timeout removes `c`. -/
def InflightCommand.sameTag (c d : InflightCommand) : Bool := d.carries c.acmpSeqId c.inbound

def hasProbe (s : AcmpState) (u : Fin avbMaxNumInputStreams) : Bool := s.inflight.any (·.probes u)

def PendingTracked (s : AcmpState) : Prop :=
  ∀ u, (s.inputStreams u).pendingConnection → hasProbe s u

instance : Decidable (PendingTracked s) := inferInstanceAs (Decidable (∀ _, _ → _))

/-- One step as it should be: every waiting stream has its command in flight afterwards, and a
response and a timeout remove the entries they belong to and no other. -/
def InflightLawful (cfg : AcmpConfig) (s : AcmpState) (e : AcmpEvent) : Prop :=
  PendingTracked (acmpStep cfg s e) ∧
    match e with
    | .acmp _ msg =>
        msg.listenerEntityId = cfg.entityId →
          msg.msgType = .connectTxResponse ∨ msg.msgType = .disconnectTxResponse →
            (acmpStep cfg s e).strayAccesses = s.strayAccesses ∧
              (acmpStep cfg s e).inflight = s.inflight.filter (!·.answeredBy msg)
    | .inflightTimeouts env => (acmpStep cfg s e).inflight = s.inflight.filter (!·.expired env)
    | _ => True

def inflightFull (s : AcmpState) : Prop := avbMaxNumInflightCommands ≤ s.inflight.length

instance : Decidable (inflightFull s) := inferInstanceAs (Decidable (_ ≤ _))

/-- A fast-connect turn that comes to send its probe. -/
def fastConnectReady (cfg : AcmpConfig) (env : AcmpEnv) (s : AcmpState)
    (u : Fin avbMaxNumInputStreams) : Prop :=
  u.val < cfg.numInputStreams ∧ (s.inputStreams u).probes ∧
    ¬(1000 ≤ (s.inputStreams u).lastFastConnectAttemptMs ∧
      env.monotonicMs < (s.inputStreams u).lastFastConnectAttemptMs + avbFastConnectRetryMsec) ∧
    env.discovered (s.inputStreams u).talkerId

/-- And gets it out. -/
def fastConnectGoesOut (cfg : AcmpConfig) (env : AcmpEnv) (s : AcmpState)
    (u : Fin avbMaxNumInputStreams) : Prop :=
  fastConnectReady cfg env s u ∧
    env.netSend { fastConnectCommand cfg (s.inputStreams u) u with seqId := s.acmpSeqId + 1 }

/-- When a step keeps waiting streams tracked: a stream that starts waiting gets an entry or has one;
the first entry with a response's sequence ID is the command it answers; and no live entry shares an
expired one's sequence ID ahead of it. -/
def InflightTimely (cfg : AcmpConfig) (s : AcmpState) : AcmpEvent → Prop
  | .acmp _ msg =>
      msg.listenerEntityId = cfg.entityId →
        match msg.msgType with
        | .connectRxCommand =>
            acmpRxRefusal cfg s msg false = none →
              ∀ u, inputSlot msg.listenerUid = some u → ¬inflightFull s ∨ hasProbe s u
        | .connectTxResponse =>
            (inputSlot msg.listenerUid).isSome ∧
              ∀ c, s.inflight.find? (·.carries msg.seqId false) = some c → c.answeredBy msg
        | .disconnectTxResponse =>
            avbValidListenerUid cfg msg.listenerUid →
              ∀ c, s.inflight.find? (·.carries msg.seqId false) = some c → c.answeredBy msg
        | _ => True
  | .bindStream _ cmd =>
      mvuNoSuchInput cfg cmd.toMvuUnbindStream = false →
        acmpRxRefusal cfg s
            (mvuSynth cfg cmd.toMvuUnbindStream cmd.talkerEntityId cmd.talkerStreamIndex)
            false = none →
          ∀ u, inputSlot cmd.descriptorIndex = some u → hasProbe s u
  | .inflightTimeouts env => SweepsClean (·.expired env) InflightCommand.sameTag s.inflight
  | .fastConnect env u => fastConnectGoesOut cfg env s u → ¬inflightFull s ∨ hasProbe s u
  | _ => True

/-- What every step keeps of the list, whatever comes: outbound CONNECT_TX commands, no two between
the same parties. -/
structure InflightOk (cfg : AcmpConfig) (s : AcmpState) : Prop where
  outbound : ∀ c ∈ s.inflight, c.inbound = false ∧ c.command.msgType = .connectTxCommand
  parties : (s.inflight.map (·.command.party)).Nodup
  pendingLocal : ∀ u, (s.inputStreams u).pendingConnection → u.val < cfg.numInputStreams

theorem InflightOk.atBoot (h : s.AtBoot cfg) : InflightOk cfg s where
  outbound := by simp [h.inflight]
  parties := by simp [h.inflight]
  pendingLocal := by
    intro u hpending
    rw [h.pending u] at hpending
    cases hpending

theorem hasProbe_iff : hasProbe s u ↔ ∃ c ∈ s.inflight, c.probes u := List.any_eq_true

theorem hasProbe_of_subset {s' : AcmpState} (h : s.inflight ⊆ s'.inflight) (hprobe : hasProbe s u) :
    hasProbe s' u := by
  obtain ⟨c, hc, hcu⟩ := hasProbe_iff.mp hprobe
  exact hasProbe_iff.mpr ⟨c, h hc, hcu⟩

theorem hasProbe_congr {s' : AcmpState} (h : s'.inflight = s.inflight) :
    hasProbe s' u = hasProbe s u := by
  unfold hasProbe
  rw [h]

/-! ### Adding an entry -/

theorem AcmpMsgType.code_injective : Function.Injective AcmpMsgType.code := by
  intro t t' h
  cases t <;> cases t' <;> first | rfl | cases h

/-- What sending a tracked CONNECT_TX does to the list: nothing, if the list is full or holds the
same command already; else one entry more, of that command. -/
theorem avbSendAcmpCommand_tracked (env : AcmpEnv) (s : AcmpState) (cmd : AcmpMessage) :
    (avbSendAcmpCommand env s .connectTxCommand cmd true).2.inflight = s.inflight ∧
        (inflightFull s ∨ ∃ c ∈ s.inflight, c.inbound = false ∧
          c.command.msgType = .connectTxCommand ∧ c.command.party = cmd.party) ∨
      ¬inflightFull s ∧ ∃ c : InflightCommand,
        (avbSendAcmpCommand env s .connectTxCommand cmd true).2.inflight = s.inflight ++ [c] ∧
          c.inbound = false ∧ c.command.msgType = .connectTxCommand ∧
            c.command.party = cmd.party ∧
              ∀ d ∈ s.inflight, d.inbound = false → d.command.msgType = .connectTxCommand →
                d.command.party ≠ cmd.party := by
  unfold avbSendAcmpCommand avbAddInflightCommand inflightFull
  simp only [if_true, effectIf_inflight]
  split_ifs with hfull hfound
  · exact Or.inl ⟨by simp, Or.inl hfull⟩
  · refine Or.inl ⟨by simp, Or.inr ?_⟩
    obtain ⟨c, hc⟩ := Option.isSome_iff_exists.mp hfound
    have hmatch := List.find?_some hc
    refine ⟨c, by simpa using List.mem_of_find?_eq_some hc, ?_⟩
    simp only [InflightCommand.matchesData, Bool.and_eq_true, beq_iff_eq, Nat.add_right_cancel_iff]
      at hmatch
    exact ⟨hmatch.1.1, AcmpMsgType.code_injective hmatch.1.2, hmatch.2⟩
  · refine Or.inr ⟨hfull, _, rfl, rfl, rfl, rfl, ?_⟩
    intro d hd hout htype hparty
    apply hfound
    rw [avbFindInflightCommandByData, List.find?_isSome]
    exact ⟨d, by simpa using hd, by simp [InflightCommand.matchesData, hout, htype, hparty]; rfl⟩

/-- The list after sending a tracked CONNECT_TX for a stream, and whether the stream has its probe
in it. -/
theorem avbSendAcmpCommand_hasProbe (env : AcmpEnv) (s : AcmpState) (cmd : AcmpMessage)
    (hslot : inputSlot cmd.listenerUid = some u) :
    hasProbe (avbSendAcmpCommand env s .connectTxCommand cmd true).2 u ↔
      ¬inflightFull s ∨ hasProbe s u := by
  have hparty : ∀ c : InflightCommand, c.command.party = cmd.party →
      inputSlot c.command.listenerUid = some u := by
    intro c h
    have huid : c.command.listenerUid = cmd.listenerUid := congrArg (·.2.1) h
    rw [huid, hslot]
  obtain ⟨hsame, hwhy⟩ | ⟨hroom, c, happend, hout, htype, hcmd, -⟩ :=
    avbSendAcmpCommand_tracked env s cmd
  · rw [hasProbe_congr hsame]
    constructor
    · exact Or.inr
    · rintro (hroom | hprobe)
      · obtain hfull | ⟨c, hc, hout, htype, hcmd⟩ := hwhy
        · exact absurd hfull hroom
        · exact hasProbe_iff.mpr
            ⟨c, hc, by simp [InflightCommand.probes, hout, htype, hparty c hcmd]⟩
      · exact hprobe
  · refine ⟨fun _ => Or.inl hroom, fun _ => hasProbe_iff.mpr ⟨c, by simp [happend], ?_⟩⟩
    simp [InflightCommand.probes, hout, htype, hparty c hcmd]

theorem avbSendAcmpCommand_subset (env : AcmpEnv) (s : AcmpState) (cmd : AcmpMessage) :
    s.inflight ⊆ (avbSendAcmpCommand env s .connectTxCommand cmd true).2.inflight := by
  obtain ⟨hsame, -⟩ | ⟨-, c, happend, -⟩ := avbSendAcmpCommand_tracked env s cmd
  · rw [hsame]
    exact List.Subset.refl _
  · rw [happend]
    exact List.subset_append_left _ _

@[simp]
theorem avbSendAcmpCommand_untracked (msgType : AcmpMsgType) (cmd : AcmpMessage) :
    (avbSendAcmpCommand env s msgType cmd false).2.inflight = s.inflight := by
  simp [avbSendAcmpCommand]

/-! ### The invariant of the list -/

/-- Entries go and streams stop waiting. -/
theorem InflightOk.of_sublist (h : InflightOk cfg s) {s' : AcmpState}
    (hsub : s'.inflight.Sublist s.inflight)
    (hpending : ∀ u, (s'.inputStreams u).pendingConnection →
      (s.inputStreams u).pendingConnection ∨ u.val < cfg.numInputStreams) : InflightOk cfg s' where
  outbound c hc := h.outbound c (hsub.subset hc)
  parties := h.parties.sublist (hsub.map _)
  pendingLocal u hu := (hpending u hu).elim (h.pendingLocal u) id

/-- A tracked CONNECT_TX goes out. -/
theorem InflightOk.of_send (h : InflightOk cfg s) {s' : AcmpState} {cmd : AcmpMessage}
    (hinflight : s'.inflight = (avbSendAcmpCommand env s .connectTxCommand cmd true).2.inflight)
    (hpending : ∀ u, (s'.inputStreams u).pendingConnection →
      (s.inputStreams u).pendingConnection ∨ u.val < cfg.numInputStreams) : InflightOk cfg s' := by
  obtain ⟨hsame, -⟩ | ⟨-, c, happend, hout, htype, hcmd, hnew⟩ :=
    avbSendAcmpCommand_tracked env s cmd
  · apply h.of_sublist _ hpending
    rw [hinflight, hsame]
  · rw [happend] at hinflight
    refine ⟨?_, ?_, fun u hu => (hpending u hu).elim (h.pendingLocal u) id⟩
    · intro d hd
      rw [hinflight] at hd
      obtain hd | hd := List.mem_append.mp hd
      · exact h.outbound d hd
      · rw [List.mem_singleton.mp hd]
        exact ⟨hout, htype⟩
    · rw [hinflight, List.map_append, List.map_singleton]
      apply List.Nodup.append h.parties (List.nodup_singleton _)
      rw [List.disjoint_singleton, hcmd]
      intro hmem
      obtain ⟨d, hd, hparty⟩ := List.mem_map.mp hmem
      exact hnew d hd (h.outbound d hd).1 (h.outbound d hd).2 hparty

/-- No two entries are between the same parties, so a response answers at most one. -/
theorem InflightOk.answered_le_one (h : InflightOk cfg s) (response : AcmpMessage) :
    s.inflight.countP (·.answeredBy response) ≤ 1 := by
  have hparty : ∀ c : InflightCommand, c.answeredBy response → c.command.party = response.party := by
    intro c hc
    simp only [InflightCommand.answeredBy, InflightCommand.matchesData, Bool.and_eq_true,
      beq_iff_eq] at hc
    exact hc.2.2
  calc
    s.inflight.countP (·.answeredBy response) ≤
        s.inflight.countP (·.command.party == response.party) := by
      apply List.countP_mono_left
      intro c _ hc
      simpa using hparty c hc
    _ = (s.inflight.map (·.command.party)).count response.party := by
      rw [List.count, List.countP_map]
      rfl
    _ ≤ 1 := List.nodup_iff_count_le_one.mp h.parties _

/-! ### A response -/

theorem inflightAnswered_inflight (h : InflightOk cfg s) {s' : AcmpState}
    (hlist : s'.inflight = s.inflight) (disconnect : Bool) :
    (inflightAnswered s' msg disconnect).inflight =
      s.inflight.eraseP (·.carries msg.seqId false) := by
  have hnone : ∀ code, avbFindInflightCommandByData s' code msg true = none := by
    intro code
    apply List.find?_eq_none.mpr
    intro c hc
    rw [hlist] at hc
    simp [InflightCommand.matchesData, (h.outbound c hc).1]
  unfold inflightAnswered
  dsimp only
  rw [hnone, ← hlist]
  rfl

/-- What the response is to goes, and only that, exactly when the first entry with its sequence ID is
the one it answers. -/
theorem answered_exact_iff (h : InflightOk cfg s) (msg : AcmpMessage) :
    s.inflight.eraseP (·.carries msg.seqId false) = s.inflight.filter (!·.answeredBy msg) ↔
      ∀ c, s.inflight.find? (·.carries msg.seqId false) = some c → c.answeredBy msg := by
  apply eraseP_eq_filter_iff
  · intro c hc
    exact (Bool.and_eq_true_iff.mp hc).1
  · exact h.answered_le_one msg

@[simp]
theorem avbStartStreamIn_inflight : (avbStartStreamIn cfg env s u).inflight = s.inflight := by
  unfold avbStartStreamIn
  split_ifs <;> rfl

@[simp]
theorem avbStopStreamIn_inflight : (avbStopStreamIn cfg s u).inflight = s.inflight := by
  unfold avbStopStreamIn
  split_ifs <;> rfl

theorem connectTxSettle_inflight : (connectTxSettle cfg s msg u).2.inflight = s.inflight := by
  unfold connectTxSettle avbConnectListener
  dsimp only
  split_ifs <;> simp <;> split_ifs <;> simp

theorem avbStartStreamIn_pending :
    ((avbStartStreamIn cfg env s u).inputStreams v).pendingConnection =
      (s.inputStreams v).pendingConnection := by
  by_cases hv : v = u
  · subst hv
    unfold avbStartStreamIn
    split_ifs <;> simp
  · rw [avbStartStreamIn_other hv]

theorem connectTxResponse_inflight (h : InflightOk cfg s) :
    (avbProcessAcmpConnectTxResponse cfg env s msg false).inflight =
      s.inflight.eraseP (·.carries msg.seqId false) := by
  cases hslot : inputSlot msg.listenerUid with
  | none =>
      rw [connectTxResponse_of_stray hslot]
      apply inflightAnswered_inflight h
      rfl
  | some u =>
      rw [connectTxResponse_of_slot hslot]
      dsimp only
      rw [← inflightAnswered_inflight h connectTxSettle_inflight false]
      split_ifs
      · rw [avbStartStreamIn_inflight]
      · rfl

/-- The stream a CONNECT_TX response is for stops waiting. -/
theorem connectTxResponse_pending (hslot : inputSlot msg.listenerUid = some u) :
    ((avbProcessAcmpConnectTxResponse cfg env s msg false).inputStreams v).pendingConnection =
      if v = u then false else (s.inputStreams v).pendingConnection := by
  split_ifs with hv
  · subst hv
    rw [connectTxResponse_of_slot hslot]
    dsimp only
    have hsettled : ((connectTxSettle cfg s msg v).2.inputStreams v).pendingConnection = false := by
      simp [connectTxSettle]
    split_ifs
    · rw [avbStartStreamIn_pending, inflightAnswered_inputStreams, hsettled]
    · rw [inflightAnswered_inputStreams, hsettled]
  · rw [connectTxResponse_other hslot hv]

/-! ### A timeout pass -/

@[simp]
theorem clearPending_inflight (uid : UInt16) : (clearPending cfg s uid).inflight = s.inflight := by
  unfold clearPending
  split
  · rfl
  · split_ifs <;> rfl

theorem inflightExpired_of_outbound (h : InflightOk cfg s) {c : InflightCommand} (hc : c ∈ s.inflight) :
    inflightExpired cfg env s c = clearPending cfg s c.command.listenerUid := by
  have hnone : ∀ code data,
      avbFindInflightCommandByData (clearPending cfg s c.command.listenerUid) code data true =
        none := by
    intro code data
    apply List.find?_eq_none.mpr
    intro d hd
    rw [clearPending_inflight] at hd
    simp [InflightCommand.matchesData, (h.outbound d hd).1]
  unfold inflightExpired
  simp [h.outbound c hc, acmpRxResponseForTxCommand, hnone]

theorem clearPending_pending (uid : UInt16)
    (hpending : ((clearPending cfg s uid).inputStreams v).pendingConnection) :
    (s.inputStreams v).pendingConnection ∧
      (v.val < cfg.numInputStreams → inputSlot uid ≠ some v) := by
  unfold clearPending at hpending
  cases hslot : inputSlot uid with
  | none =>
      rw [hslot] at hpending
      exact ⟨hpending, fun _ => by simp⟩
  | some u =>
      rw [hslot] at hpending
      dsimp only at hpending
      have hval : u.val = uid.toNat := by
        unfold inputSlot at hslot
        split_ifs at hslot
        exact (congrArg Fin.val (Option.some.inj hslot)).symm
      split_ifs at hpending with hvalid
      · by_cases hv : v = u
        · subst hv
          simp at hpending
        · refine ⟨by simpa [hv] using hpending, fun _ hsame => hv ?_⟩
          exact (Option.some.inj hsame).symm
      · refine ⟨hpending, fun hlocal hsame => hvalid ?_⟩
        rw [← Option.some.inj hsame, hval] at hlocal
        simpa [avbValidListenerUid] using hlocal

/-- Ending one expired command. -/
theorem InflightOk.expire (h : InflightOk cfg s) (env : AcmpEnv) {c : InflightCommand}
    (hc : c ∈ s.inflight) :
    InflightOk cfg
      (avbRemoveInflightCommand (inflightExpired cfg env s c) c.acmpSeqId c.inbound) := by
  rw [inflightExpired_of_outbound h hc]
  apply h.of_sublist
  · rw [avbRemoveInflightCommand, clearPending_inflight]
    exact List.eraseP_sublist
  · intro u hu
    exact Or.inl (clearPending_pending _ hu).1

theorem expire_inflight (h : InflightOk cfg s) {c : InflightCommand} (hc : c ∈ s.inflight) :
    (avbRemoveInflightCommand (inflightExpired cfg env s c) c.acmpSeqId c.inbound).inflight =
      s.inflight.eraseP (InflightCommand.sameTag c) := by
  rw [inflightExpired_of_outbound h hc]
  simp [avbRemoveInflightCommand]
  rfl

theorem not_expired_iff (c : InflightCommand) :
    env.timeOfDayMs < c.timeoutMs ↔ c.expired env = false := by
  simp [InflightCommand.expired]

variable (cfg env) in
/-- The list goes through the loop as the sweep has it. -/
theorem inflightTimeoutsFrom_inflight (rounds : Nat) :
    ∀ (i : Nat) (s : AcmpState), InflightOk cfg s →
      InflightOk cfg (inflightTimeoutsFrom cfg env rounds i s) ∧
        (inflightTimeoutsFrom cfg env rounds i s).inflight =
          sweepFrom (·.expired env) InflightCommand.sameTag rounds i s.inflight := by
  induction rounds with
  | zero =>
      intro i s h
      exact ⟨h, rfl⟩
  | succ rounds ih =>
      intro i s h
      unfold inflightTimeoutsFrom sweepFrom
      cases hat : s.inflight[i]? with
      | none => exact ⟨h, rfl⟩
      | some c =>
          have hc : c ∈ s.inflight := List.mem_of_getElem? hat
          dsimp only
          by_cases hlive : env.timeOfDayMs < c.timeoutMs
          · rw [if_pos hlive, if_neg (by simp [(not_expired_iff c).mp hlive])]
            exact ih (i + 1) s h
          · have hexpired : c.expired env = true := by
              simpa [InflightCommand.expired] using hlive
            rw [if_neg hlive, if_pos hexpired, ← expire_inflight h hc]
            exact ih i _ (h.expire env hc)

/-- Ending an expired command, the stream it stands for stops waiting: the others keep theirs. -/
theorem PendingTracked.expire (env : AcmpEnv) (h : InflightOk cfg s) (htracked : PendingTracked s)
    {live rest : List InflightCommand} {c : InflightCommand} (hlist : s.inflight = live ++ c :: rest)
    (hlive : ∀ a ∈ live, InflightCommand.sameTag c a = false) :
    (avbRemoveInflightCommand (inflightExpired cfg env s c) c.acmpSeqId c.inbound).inflight =
        live ++ rest ∧
      PendingTracked
        (avbRemoveInflightCommand (inflightExpired cfg env s c) c.acmpSeqId c.inbound) := by
  have hc : c ∈ s.inflight := by simp [hlist]
  have hremoved :
      (avbRemoveInflightCommand (inflightExpired cfg env s c) c.acmpSeqId c.inbound).inflight =
        live ++ rest := by
    rw [expire_inflight h hc, hlist, List.eraseP_append_right _ (by simpa using hlive),
      List.eraseP_cons_of_pos (by simp [InflightCommand.sameTag, InflightCommand.carries])]
  refine ⟨hremoved, ?_⟩
  intro u hu
  rw [avbRemoveInflightCommand_inputStreams, inflightExpired_of_outbound h hc] at hu
  obtain ⟨hwaiting, hother⟩ := clearPending_pending _ hu
  obtain ⟨d, hd, hprobes⟩ := hasProbe_iff.mp (htracked u hwaiting)
  have hne : d ≠ c := by
    rintro rfl
    apply hother (h.pendingLocal u hwaiting)
    simp only [InflightCommand.probes, Bool.and_eq_true, beq_iff_eq] at hprobes
    exact hprobes.2
  apply hasProbe_iff.mpr
  rw [hlist, List.mem_append, List.mem_cons] at hd
  refine ⟨d, ?_, hprobes⟩
  rw [hremoved, List.mem_append]
  exact hd.imp id (·.resolve_left hne)

/-- A clean pass leaves every waiting stream its command. -/
theorem pendingTracked_timeouts (rest : List InflightCommand) :
    ∀ (live : List InflightCommand) (rounds : Nat) (s : AcmpState), InflightOk cfg s →
      PendingTracked s → s.inflight = live ++ rest → rest.length ≤ rounds →
        (∀ a ∈ live, a.expired env = false) →
          (∀ b ∈ rest, b.expired env → ∀ a ∈ live, InflightCommand.sameTag b a = false) →
            SweepsClean (·.expired env) InflightCommand.sameTag rest →
              PendingTracked (inflightTimeoutsFrom cfg env rounds live.length s) := by
  induction rest with
  | nil =>
      intro live rounds s _ htracked hlist _ _ _ _
      cases rounds with
      | zero => exact htracked
      | succ rounds =>
          unfold inflightTimeoutsFrom
          rw [hlist]
          simpa using htracked
  | cons c rest ih =>
      intro live rounds s h htracked hlist hrounds hlive hbefore hclean
      obtain ⟨rounds, rfl⟩ : ∃ k, rounds = k + 1 := ⟨rounds - 1, by simp at hrounds; omega⟩
      have hrounds : rest.length ≤ rounds := by simpa using hrounds
      have hat : s.inflight[live.length]? = some c := by simp [hlist]
      rw [SweepsClean, List.pairwise_cons] at hclean
      unfold inflightTimeoutsFrom
      rw [hat]
      dsimp only
      split_ifs with hpassed
      · have hc := (not_expired_iff c).mp hpassed
        have hlen : live.length + 1 = (live ++ [c]).length := by simp
        rw [hlen]
        apply ih (live ++ [c]) rounds s h htracked (by simp [hlist]) hrounds
        · intro a ha
          rcases List.mem_append.mp ha with ha | ha
          · exact hlive a ha
          · rw [List.mem_singleton.mp ha]
            exact hc
        · intro b hb hexpired a ha
          rcases List.mem_append.mp ha with ha | ha
          · exact hbefore b (List.mem_cons_of_mem c hb) hexpired a ha
          · rw [List.mem_singleton.mp ha]
            by_contra htag
            have hlate := hclean.1 b hb hexpired (by simpa using htag)
            rw [hc] at hlate
            cases hlate
        · exact hclean.2
      · have hexpired : c.expired env = true := by
          simpa [InflightCommand.expired] using hpassed
        have hc : c ∈ s.inflight := by simp [hlist]
        obtain ⟨hremoved, htracked⟩ := PendingTracked.expire env h htracked hlist
          (hbefore c List.mem_cons_self hexpired)
        exact ih live rounds _ (h.expire env hc) htracked hremoved hrounds hlive
          (fun b hb => hbefore b (List.mem_cons_of_mem c hb)) hclean.2

/-! ### The binding commands -/

theorem PendingTracked.of_fewer (h : PendingTracked s) {s' : AcmpState}
    (hpending : ∀ u, (s'.inputStreams u).pendingConnection → (s.inputStreams u).pendingConnection)
    (hsub : s.inflight ⊆ s'.inflight) : PendingTracked s' :=
  fun u hu => hasProbe_of_subset hsub (h u (hpending u hu))

/-- One stream more starts waiting. -/
theorem PendingTracked.start_iff (h : PendingTracked s) {s' : AcmpState}
    (hpending : ∀ v, (s'.inputStreams v).pendingConnection ↔
      v = u ∨ (s.inputStreams v).pendingConnection)
    (hsub : s.inflight ⊆ s'.inflight) : PendingTracked s' ↔ hasProbe s' u := by
  constructor
  · intro h'
    exact h' u ((hpending u).mpr (Or.inl rfl))
  · intro hprobe v hv
    obtain rfl | hwaiting := (hpending v).mp hv
    · exact hprobe
    · exact hasProbe_of_subset hsub (h v hwaiting)

variable {disconnect mvuBind : Bool}

@[simp]
theorem acmpRxUpdate_inflight : (acmpRxUpdate cfg s msg disconnect).inflight = s.inflight := by
  unfold acmpRxUpdate avbDisconnectListener
  split
  · rfl
  · split_ifs <;> simp

theorem acmpRxUpdate_disconnect_pending (v : Fin avbMaxNumInputStreams)
    (hpending : ((acmpRxUpdate cfg s msg true).inputStreams v).pendingConnection) :
    (s.inputStreams v).pendingConnection := by
  cases hslot : inputSlot msg.listenerUid with
  | none =>
      unfold acmpRxUpdate at hpending
      rw [hslot] at hpending
      exact hpending
  | some u =>
      by_cases hv : v = u
      · subst hv
        unfold acmpRxUpdate avbDisconnectListener at hpending
        rw [hslot] at hpending
        dsimp only at hpending
        rw [if_pos rfl] at hpending
        split_ifs at hpending <;>
          simp [AcmpListenerStream.cleared, AcmpListenerStream.zero] at hpending
      · rwa [acmpRxUpdate_other hslot hv] at hpending

theorem acmpRxUpdate_bind_pending (hslot : inputSlot msg.listenerUid = some u) :
    ((acmpRxUpdate cfg s msg false).inputStreams v).pendingConnection ↔
      v = u ∨ (s.inputStreams v).pendingConnection := by
  by_cases hv : v = u
  · subst hv
    unfold acmpRxUpdate
    rw [hslot]
    simp
  · rw [acmpRxUpdate_other hslot hv]
    simp [hv]

theorem avbSendListenerTalkerCommand_inflight (h : disconnect = true ∨ mvuBind = true) :
    (avbSendListenerTalkerCommand cfg env s msg disconnect mvuBind).2.inflight = s.inflight := by
  unfold avbSendListenerTalkerCommand
  obtain rfl | rfl := h
  · simp
  · split_ifs <;> simp

theorem acmpRxAnswer_inflight :
    (acmpRxAnswer cfg env s msg disconnect).inflight =
      (avbSendListenerTalkerCommand cfg env s msg disconnect false).2.inflight := by
  simp [acmpRxAnswer, avbPersistAppendInputStream]

/-- A refused command, or one that tracks nothing. -/
theorem rxCommand_inflight
    (h : acmpRxRefusal cfg s msg disconnect ≠ none ∨ disconnect = true ∨ mvuBind = true) :
    (avbProcessAcmpConnectRxCommand cfg env s msg disconnect mvuBind).2.inflight = s.inflight := by
  unfold avbProcessAcmpConnectRxCommand
  cases hrefusal : acmpRxRefusal cfg s msg disconnect with
  | some status => cases mvuBind <;> simp
  | none =>
      have h : disconnect = true ∨ mvuBind = true := h.resolve_left (not_not.mpr hrefusal)
      cases mvuBind with
      | true => simp
      | false =>
          simp only [Bool.false_eq_true, if_false, acmpRxAnswer_inflight]
          rw [avbSendListenerTalkerCommand_inflight h, acmpRxUpdate_inflight]

theorem mvuBindVia_inflight (notify : AcmpState → Bool) :
    (mvuBindVia cfg env s msg disconnect notify).inflight = s.inflight := by
  have hshared : (avbProcessAcmpConnectRxCommand cfg env s msg disconnect true).2.inflight =
      s.inflight := rxCommand_inflight (Or.inr (Or.inr rfl))
  unfold mvuBindVia avbPersistAppendInputStream
  dsimp only
  split_ifs
  · simp [avbSendListenerTalkerCommand_inflight, hshared]
  · simpa using hshared

variable (env) in
/-- An accepted CONNECT_RX sends its tracked CONNECT_TX last. -/
theorem connectRx_inflight (h : acmpRxRefusal cfg s msg false = none) :
    (avbProcessAcmpConnectRxCommand cfg env s msg false false).2.inflight =
      (avbSendAcmpCommand env (acmpRxUpdate cfg s msg false) .connectTxCommand
        { msg with flags := listenerConnectFlags cfg msg.flags } true).2.inflight := by
  unfold avbProcessAcmpConnectRxCommand
  rw [h]
  simp only [Bool.false_eq_true, if_false, acmpRxAnswer_inflight]
  rfl

theorem InflightOk.rxUpdate (h : InflightOk cfg s)
    (haccept : acmpRxRefusal cfg s msg disconnect = none) :
    InflightOk cfg (acmpRxUpdate cfg s msg disconnect) := by
  obtain ⟨u, hslot, hlocal⟩ := acmpRxRefusal_slot haccept
  apply h.of_sublist
  · rw [acmpRxUpdate_inflight]
  · intro v hv
    cases disconnect with
    | true => exact Or.inl (acmpRxUpdate_disconnect_pending v hv)
    | false =>
        obtain rfl | hwaiting := (acmpRxUpdate_bind_pending hslot).mp hv
        · exact Or.inr hlocal
        · exact Or.inl hwaiting

/-- A command that tracks nothing, from a state with the same list. -/
theorem InflightOk.of_rxStreams (h : InflightOk cfg s) {s' : AcmpState}
    (hlist : s'.inflight = s.inflight)
    (hstreams : s'.inputStreams =
      if acmpRxRefusal cfg s msg disconnect = none then
        (acmpRxUpdate cfg s msg disconnect).inputStreams
      else s.inputStreams) : InflightOk cfg s' := by
  split_ifs at hstreams with haccept
  · apply (h.rxUpdate haccept).of_sublist
    · rw [hlist, acmpRxUpdate_inflight]
    · rw [hstreams]
      exact fun u hu => Or.inl hu
  · apply h.of_sublist
    · rw [hlist]
    · rw [hstreams]
      exact fun u hu => Or.inl hu

theorem InflightOk.connectRx (h : InflightOk cfg s) (env : AcmpEnv) (msg : AcmpMessage) :
    InflightOk cfg (avbProcessAcmpConnectRxCommand cfg env s msg false false).2 := by
  by_cases haccept : acmpRxRefusal cfg s msg false = none
  · apply (h.rxUpdate haccept).of_send (connectRx_inflight env haccept)
    intro u hu
    rw [rxCommand_inputStreams, if_pos haccept] at hu
    exact Or.inl hu
  · exact h.of_rxStreams (rxCommand_inflight (Or.inl haccept)) (rxCommand_inputStreams ..)

theorem connectRx_tracked_iff (h : PendingTracked s) (env : AcmpEnv) (msg : AcmpMessage) :
    PendingTracked (avbProcessAcmpConnectRxCommand cfg env s msg false false).2 ↔
      (acmpRxRefusal cfg s msg false = none →
        ∀ u, inputSlot msg.listenerUid = some u → ¬inflightFull s ∨ hasProbe s u) := by
  by_cases haccept : acmpRxRefusal cfg s msg false = none
  · obtain ⟨u, hslot, -⟩ := acmpRxRefusal_slot haccept
    have hlist := connectRx_inflight env haccept
    simp only [haccept, forall_const, hslot, Option.some.injEq, forall_eq']
    rw [h.start_iff (u := u)]
    · rw [hasProbe_congr hlist, avbSendAcmpCommand_hasProbe env _ _ (by exact hslot)]
      unfold inflightFull
      rw [acmpRxUpdate_inflight, hasProbe_congr acmpRxUpdate_inflight]
    · intro v
      rw [rxCommand_inputStreams, if_pos haccept]
      exact acmpRxUpdate_bind_pending hslot
    · rw [hlist]
      have hsub := avbSendAcmpCommand_subset env (acmpRxUpdate cfg s msg false)
        { msg with flags := listenerConnectFlags cfg msg.flags }
      rwa [acmpRxUpdate_inflight] at hsub
  · simp only [haccept, false_imp_iff, iff_true]
    apply h.of_fewer
    · intro u hu
      rwa [rxCommand_inputStreams, if_neg haccept] at hu
    · rw [rxCommand_inflight (Or.inl haccept)]
      exact List.Subset.refl _

/-- An accepted or refused disconnect or unbind, from the streams it leaves. -/
theorem PendingTracked.of_disconnect (h : PendingTracked s) {s' : AcmpState}
    (hlist : s'.inflight = s.inflight)
    (hstreams : s'.inputStreams =
      if acmpRxRefusal cfg s msg true = none then (acmpRxUpdate cfg s msg true).inputStreams
      else s.inputStreams) : PendingTracked s' := by
  apply h.of_fewer
  · intro u hu
    rw [hstreams] at hu
    split_ifs at hu
    · exact acmpRxUpdate_disconnect_pending u hu
    · exact hu
  · rw [hlist]
    exact List.Subset.refl _

/-! ### Fast connect -/

/-- The state a turn sends its probe from. -/
def fastConnectStamped (env : AcmpEnv) (s : AcmpState) (u : Fin avbMaxNumInputStreams) : AcmpState :=
  s.setStream u { s.inputStreams u with lastFastConnectAttemptMs := env.monotonicMs }

theorem fastConnectTurn_of_ready (h : fastConnectReady cfg env s u) :
    fastConnectTurn cfg env s u =
      (let sent := avbSendAcmpCommand env (fastConnectStamped env s u) .connectTxCommand
        (fastConnectCommand cfg (s.inputStreams u) u) true
       if sent.1 then sent.2.setStream u { sent.2.inputStreams u with pendingConnection := true }
       else sent.2) := by
  obtain ⟨hlocal, hprobes, hthrottle, hdiscovered⟩ := h
  have hstamped : (s.setStream u
      { s.inputStreams u with lastFastConnectAttemptMs := env.monotonicMs }).inputStreams u =
        { s.inputStreams u with lastFastConnectAttemptMs := env.monotonicMs } := by simp
  have hstill : AcmpListenerStream.probes
      { s.inputStreams u with lastFastConnectAttemptMs := env.monotonicMs } =
        (s.inputStreams u).probes := rfl
  unfold fastConnectTurn avbFastConnectListener
  dsimp only
  rw [if_neg (by simp [hprobes, Nat.not_le.mpr hlocal]), if_neg hthrottle, hstamped, hstill,
    if_neg (by simp [hprobes, hdiscovered])]
  rfl

theorem fastConnectTurn_of_not_ready (h : ¬fastConnectReady cfg env s u) :
    (fastConnectTurn cfg env s u).inflight = s.inflight ∧
      ∀ v, ((fastConnectTurn cfg env s u).inputStreams v).pendingConnection =
        (s.inputStreams v).pendingConnection := by
  unfold fastConnectTurn
  dsimp only
  split
  · exact ⟨rfl, fun v => rfl⟩
  · rename_i hlocal
    split
    · exact ⟨rfl, fun v => rfl⟩
    · rename_i hthrottle
      have hquiet : avbFastConnectListener cfg env
          (s.setStream u { s.inputStreams u with lastFastConnectAttemptMs := env.monotonicMs }) u =
            s.setStream u { s.inputStreams u with lastFastConnectAttemptMs := env.monotonicMs } := by
        apply if_pos
        by_contra hnot
        apply h
        simp only [Bool.or_eq_true, decide_eq_true_eq, not_or, Nat.not_le, Bool.not_eq_true',
          Bool.not_eq_false] at hlocal
        simp only [setStream_inputStreams, Function.update_self, Bool.or_eq_true, not_or,
          Bool.not_eq_true', Bool.not_eq_false] at hnot
        exact ⟨hlocal.1, hlocal.2, hthrottle, hnot.2⟩
      rw [hquiet]
      refine ⟨rfl, fun v => ?_⟩
      by_cases hv : v = u
      · subst hv
        simp
      · simp [hv]

theorem fastConnectStamped_pending (v : Fin avbMaxNumInputStreams) :
    ((fastConnectStamped env s u).inputStreams v).pendingConnection =
      (s.inputStreams v).pendingConnection := by
  by_cases hv : v = u
  · subst hv
    simp [fastConnectStamped]
  · simp [fastConnectStamped, hv]

theorem inputSlot_ofNat (u : Fin avbMaxNumInputStreams) : inputSlot (UInt16.ofNat u.val) = some u := by
  revert u
  decide

theorem InflightOk.fastConnect (h : InflightOk cfg s) (env : AcmpEnv) :
    InflightOk cfg (fastConnectTurn cfg env s u) := by
  by_cases hready : fastConnectReady cfg env s u
  · have hstamped : InflightOk cfg (fastConnectStamped env s u) := by
      apply h.of_sublist
      · exact List.Sublist.refl _
      · intro v hv
        rw [fastConnectStamped_pending] at hv
        exact Or.inl hv
    rw [fastConnectTurn_of_ready hready]
    dsimp only
    split_ifs
    · apply hstamped.of_send (by rfl)
      intro v hv
      by_cases hvu : v = u
      · subst hvu
        exact Or.inr hready.1
      · exact Or.inl (by simpa [hvu] using hv)
    · apply hstamped.of_send (by rfl)
      intro v hv
      exact Or.inl (by simpa using hv)
  · obtain ⟨hlist, hpending⟩ := fastConnectTurn_of_not_ready hready
    apply h.of_sublist (by rw [hlist])
    intro v hv
    rw [hpending] at hv
    exact Or.inl hv

theorem fastConnect_tracked_iff (h : PendingTracked s) :
    PendingTracked (fastConnectTurn cfg env s u) ↔
      (fastConnectGoesOut cfg env s u → ¬inflightFull s ∨ hasProbe s u) := by
  by_cases hready : fastConnectReady cfg env s u
  · rw [fastConnectTurn_of_ready hready]
    dsimp only
    have hprobe := avbSendAcmpCommand_hasProbe env (fastConnectStamped env s u)
      (fastConnectCommand cfg (s.inputStreams u) u) (inputSlot_ofNat u)
    have hsub := avbSendAcmpCommand_subset env (fastConnectStamped env s u)
      (fastConnectCommand cfg (s.inputStreams u) u)
    split_ifs with hsent
    · have hout : fastConnectGoesOut cfg env s u := ⟨hready, hsent⟩
      simp only [hout, forall_const]
      rw [h.start_iff (u := u)]
      · exact hprobe
      · intro v
        by_cases hv : v = u
        · subst hv
          simp
        · simp [hv, fastConnectStamped]
      · exact hsub
    · have hnot : ¬fastConnectGoesOut cfg env s u := fun hout => hsent hout.2
      simp only [hnot, false_imp_iff, iff_true]
      apply h.of_fewer
      · intro v hv
        rw [avbSendAcmpCommand_inputStreams, fastConnectStamped_pending] at hv
        exact hv
      · exact hsub
  · obtain ⟨hlist, hpending⟩ := fastConnectTurn_of_not_ready hready
    have hnot : ¬fastConnectGoesOut cfg env s u := fun hout => hready hout.1
    simp only [hnot, false_imp_iff, iff_true]
    apply h.of_fewer
    · intro v hv
      rwa [hpending] at hv
    · rw [hlist]
      exact List.Subset.refl _

/-! ### Steps -/

variable (cfg env s) in
theorem bindStream_inflight (cmd : MvuBindStream) :
    (avbProcessAecpCmdMvuBindStream cfg env s cmd).inflight = s.inflight := by
  unfold avbProcessAecpCmdMvuBindStream
  split
  · rfl
  · dsimp only
    split_ifs
    · rfl
    · rw [mvuBindVia_inflight]
      rfl

theorem streamingWait_pending (wait : Bool) (v : Fin avbMaxNumInputStreams) :
    ((s.setStream u { s.inputStreams u with streamingWait := wait }).inputStreams v).pendingConnection =
      (s.inputStreams v).pendingConnection := by
  by_cases hv : v = u
  · subst hv
    simp
  · simp [hv]

variable (cfg env s) in
theorem bindStream_pending {cmd : MvuBindStream} (hslot : inputSlot cmd.descriptorIndex = some u)
    (hinput : mvuNoSuchInput cfg cmd.toMvuUnbindStream = false) (v : Fin avbMaxNumInputStreams) :
    ((avbProcessAecpCmdMvuBindStream cfg env s cmd).inputStreams v).pendingConnection ↔
      acmpRxRefusal cfg s
          (mvuSynth cfg cmd.toMvuUnbindStream cmd.talkerEntityId cmd.talkerStreamIndex)
          false = none ∧ v = u ∨ (s.inputStreams v).pendingConnection := by
  obtain ⟨notify, hvia⟩ := bindStream_of_input cfg env s hslot hinput
  rw [hvia, mvuBindVia_inputStreams, acmpRxRefusal_streamingWait]
  split_ifs with haccept
  · rw [acmpRxUpdate_bind_pending (by exact hslot), streamingWait_pending]
    simp [haccept]
  · rw [streamingWait_pending]
    simp [haccept]

theorem bindStream_no_input {cmd : MvuBindStream}
    (h : mvuNoSuchInput cfg cmd.toMvuUnbindStream = true ∨ inputSlot cmd.descriptorIndex = none) :
    (avbProcessAecpCmdMvuBindStream cfg env s cmd).inputStreams = s.inputStreams := by
  unfold avbProcessAecpCmdMvuBindStream
  split
  · rfl
  · rename_i u hslot
    rw [hslot] at h
    dsimp only
    rw [if_pos (by simpa using h)]
    rfl

theorem bindStream_tracked_iff (h : PendingTracked s) (env : AcmpEnv) (cmd : MvuBindStream) :
    PendingTracked (avbProcessAecpCmdMvuBindStream cfg env s cmd) ↔
      (mvuNoSuchInput cfg cmd.toMvuUnbindStream = false →
        acmpRxRefusal cfg s
            (mvuSynth cfg cmd.toMvuUnbindStream cmd.talkerEntityId cmd.talkerStreamIndex)
            false = none →
          ∀ u, inputSlot cmd.descriptorIndex = some u → hasProbe s u) := by
  have hlist := bindStream_inflight cfg env s cmd
  have hsub : s.inflight ⊆ (avbProcessAecpCmdMvuBindStream cfg env s cmd).inflight := by
    rw [hlist]
    exact List.Subset.refl _
  cases hinput : mvuNoSuchInput cfg cmd.toMvuUnbindStream with
  | true =>
      simp only [Bool.true_eq_false, false_imp_iff, iff_true]
      apply h.of_fewer _ hsub
      rw [bindStream_no_input (Or.inl hinput)]
      exact fun _ hu => hu
  | false =>
      cases hslot : inputSlot cmd.descriptorIndex with
      | none =>
          simp only [reduceCtorEq, false_imp_iff, implies_true, iff_true]
          apply h.of_fewer _ hsub
          rw [bindStream_no_input (Or.inr hslot)]
          exact fun _ hu => hu
      | some u =>
          have hpending := bindStream_pending cfg env s hslot hinput
          by_cases haccept : acmpRxRefusal cfg s (mvuSynth cfg cmd.toMvuUnbindStream
              cmd.talkerEntityId cmd.talkerStreamIndex) false = none
          · simp only [haccept, true_and] at hpending
            rw [h.start_iff hpending hsub, hasProbe_congr hlist]
            simp [haccept]
          · simp only [haccept, false_and, false_or] at hpending
            simp only [haccept, false_imp_iff, implies_true, iff_true]
            exact h.of_fewer (fun v hv => (hpending v).mp hv) hsub

theorem unbindStream_inflight (env : AcmpEnv) (cmd : MvuUnbindStream) :
    (avbProcessAecpCmdMvuUnbindStream cfg env s cmd).inflight = s.inflight := by
  unfold avbProcessAecpCmdMvuUnbindStream
  split
  · rfl
  · dsimp only
    split_ifs
    · rfl
    · rw [mvuBindVia_inflight]

/-- What an UNBIND_STREAM leaves of the streams: what its shared command leaves, or all. -/
theorem unbindStream_inputStreams (cfg : AcmpConfig) (env : AcmpEnv) (s : AcmpState) (cmd : MvuUnbindStream) :
    (avbProcessAecpCmdMvuUnbindStream cfg env s cmd).inputStreams = s.inputStreams ∨
      ∃ msg, (avbProcessAecpCmdMvuUnbindStream cfg env s cmd).inputStreams =
        if acmpRxRefusal cfg s msg true = none then (acmpRxUpdate cfg s msg true).inputStreams
        else s.inputStreams := by
  unfold avbProcessAecpCmdMvuUnbindStream
  split
  · exact Or.inl rfl
  · dsimp only
    split_ifs
    · exact Or.inl rfl
    · exact Or.inr ⟨_, mvuBindVia_inputStreams _⟩

theorem disconnectTxResponse_inflight (h : InflightOk cfg s) (env : AcmpEnv) (msg : AcmpMessage) :
    (avbProcessAcmpConnectTxResponse cfg env s msg true).inflight =
      if avbValidListenerUid cfg msg.listenerUid then
        s.inflight.eraseP (·.carries msg.seqId false)
      else s.inflight := by
  unfold avbProcessAcmpConnectTxResponse
  rw [if_pos rfl]
  split_ifs
  · exact inflightAnswered_inflight h rfl true
  · rfl

theorem connectTxResponse_fewer (env : AcmpEnv) (v : Fin avbMaxNumInputStreams)
    (hpending :
      ((avbProcessAcmpConnectTxResponse cfg env s msg false).inputStreams v).pendingConnection) :
    (s.inputStreams v).pendingConnection ∧ inputSlot msg.listenerUid ≠ some v := by
  cases hslot : inputSlot msg.listenerUid with
  | none =>
      rw [connectTxResponse_of_stray hslot, inflightAnswered_inputStreams] at hpending
      exact ⟨hpending, by simp⟩
  | some u =>
      rw [connectTxResponse_pending hslot] at hpending
      split_ifs at hpending with hv
      exact ⟨hpending, fun hsame => hv (Option.some.inj hsame).symm⟩

theorem InflightOk.acmp (h : InflightOk cfg s) (env : AcmpEnv) (msg : AcmpMessage) :
    InflightOk cfg (avbProcessAcmp cfg env s msg) := by
  unfold avbProcessAcmp
  split_ifs
  · exact h
  · split
    · exact h.connectRx env msg
    · exact h.of_rxStreams (rxCommand_inflight (Or.inr (Or.inl rfl))) (rxCommand_inputStreams ..)
    · apply h.of_sublist
      · rw [connectTxResponse_inflight h]
        exact List.eraseP_sublist
      · exact fun v hv => Or.inl (connectTxResponse_fewer env v hv).1
    · apply h.of_sublist
      · rw [disconnectTxResponse_inflight h]
        split_ifs
        · exact List.eraseP_sublist
        · exact List.Sublist.refl _
      · rw [disconnectTxResponse_inputStreams]
        exact fun v hv => Or.inl hv
    · exact h

@[simp]
theorem demoteStream_inflight : (demoteStream s u).inflight = s.inflight := by
  unfold demoteStream
  split_ifs <;> rfl

theorem demoteStream_pending (v : Fin avbMaxNumInputStreams) :
    ((demoteStream s u).inputStreams v).pendingConnection =
      (s.inputStreams v).pendingConnection := by
  unfold demoteStream
  split_ifs
  · by_cases hv : v = u
    · subst hv
      simp
    · simp [hv]
  · rfl

theorem InflightOk.step (h : InflightOk cfg s) (e : AcmpEvent) : InflightOk cfg (acmpStep cfg s e) := by
  cases e with
  | acmp env msg => exact h.acmp env msg
  | bindStream env cmd =>
      apply h.of_sublist
      · rw [acmpStep, bindStream_inflight]
      · intro v hv
        cases hslot : inputSlot cmd.descriptorIndex with
        | none =>
            rw [acmpStep, bindStream_no_input (Or.inr hslot)] at hv
            exact Or.inl hv
        | some u =>
            cases hinput : mvuNoSuchInput cfg cmd.toMvuUnbindStream with
            | true =>
                rw [acmpStep, bindStream_no_input (Or.inl hinput)] at hv
                exact Or.inl hv
            | false =>
                obtain ⟨haccept, rfl⟩ | hwaiting :=
                  (bindStream_pending cfg env s hslot hinput v).mp hv
                · obtain ⟨w, hw, hlocal⟩ := acmpRxRefusal_slot haccept
                  have hsame : w = v := Option.some.inj (hw.symm.trans hslot)
                  rw [← hsame]
                  exact Or.inr hlocal
                · exact Or.inl hwaiting
  | unbindStream env cmd =>
      obtain hsame | ⟨msg, hstreams⟩ := unbindStream_inputStreams cfg env s cmd
      · apply h.of_sublist
        · rw [acmpStep, unbindStream_inflight]
        · rw [acmpStep, hsame]
          exact fun v hv => Or.inl hv
      · exact h.of_rxStreams (unbindStream_inflight env cmd) hstreams
  | inflightTimeouts env => exact (inflightTimeoutsFrom_inflight cfg env _ 0 s h).1
  | fastConnect env u => exact h.fastConnect env
  | demote u =>
      apply h.of_sublist
      · rw [acmpStep, demoteStream_inflight]
      · intro v hv
        rw [acmpStep, demoteStream_pending] at hv
        exact Or.inl hv
  | holders holders => exact h.of_sublist (List.Sublist.refl _) fun v hv => Or.inl hv

/-- A response whose entry, if any, is the command it answers leaves the waiting streams theirs. -/
theorem PendingTracked.connectTxResponse (h : InflightOk cfg s) (htracked : PendingTracked s)
    (hexact : ∀ c, s.inflight.find? (·.carries msg.seqId false) = some c → c.answeredBy msg) :
    PendingTracked (avbProcessAcmpConnectTxResponse cfg env s msg false) := by
  intro v hv
  obtain ⟨hwaiting, hother⟩ := connectTxResponse_fewer env v hv
  obtain ⟨c, hc, hprobes⟩ := hasProbe_iff.mp (htracked v hwaiting)
  apply hasProbe_iff.mpr
  refine ⟨c, ?_, hprobes⟩
  rw [connectTxResponse_inflight h, (answered_exact_iff h msg).mpr hexact, List.mem_filter]
  refine ⟨hc, ?_⟩
  by_contra hanswered
  apply hother
  simp only [InflightCommand.answeredBy, InflightCommand.matchesData, Bool.not_eq_true',
    Bool.not_eq_false, Bool.and_eq_true, beq_iff_eq] at hanswered
  have huid : c.command.listenerUid = msg.listenerUid := congrArg (·.2.1) hanswered.2.2
  simp only [InflightCommand.probes, Bool.and_eq_true, beq_iff_eq] at hprobes
  rw [← huid]
  exact hprobes.2

/-- No command in flight is a DISCONNECT_TX. -/
theorem not_answeredBy_disconnect (h : InflightOk cfg s) (htype : msg.msgType = .disconnectTxResponse)
    {c : InflightCommand} (hc : c ∈ s.inflight) : c.answeredBy msg = false := by
  simp [InflightCommand.answeredBy, InflightCommand.matchesData, (h.outbound c hc).2, htype,
    AcmpMsgType.code, AcmpMsgType.ctorIdx]

theorem acmp_lawful_iff (h : InflightOk cfg s) (htracked : PendingTracked s) (env : AcmpEnv)
    (msg : AcmpMessage) :
    InflightLawful cfg s (.acmp env msg) ↔ InflightTimely cfg s (.acmp env msg) := by
  unfold InflightLawful InflightTimely
  by_cases hmine : msg.listenerEntityId = cfg.entityId
  · simp only [hmine, forall_const, acmpStep, avbProcessAcmp, ne_eq, not_true_eq_false, if_false]
    cases htype : msg.msgType with
    | connectRxCommand =>
        simpa using connectRx_tracked_iff htracked env msg
    | disconnectRxCommand =>
        simpa using htracked.of_disconnect (rxCommand_inflight (Or.inr (Or.inl rfl)))
          (rxCommand_inputStreams ..)
    | connectTxResponse =>
        dsimp only
        constructor
        · rintro ⟨-, hlaw⟩
          obtain ⟨hstray, hexact⟩ := hlaw (Or.inl rfl)
          refine ⟨?_, ?_⟩
          · by_contra hslot
            rw [connectTxResponse_of_stray (by simpa using hslot)] at hstray
            simp at hstray
          · rw [connectTxResponse_inflight h] at hexact
            exact (answered_exact_iff h msg).mp hexact
        · rintro ⟨hslot, hexact⟩
          obtain ⟨u, hslot⟩ := Option.isSome_iff_exists.mp hslot
          refine ⟨htracked.connectTxResponse h hexact, fun _ => ⟨?_, ?_⟩⟩
          · exact connectTxResponse_strayAccesses hslot
          · rw [connectTxResponse_inflight h]
            exact (answered_exact_iff h msg).mpr hexact
    | disconnectTxResponse =>
        dsimp only
        have hkeep : s.inflight.filter (!·.answeredBy msg) = s.inflight :=
          List.filter_eq_self.mpr fun c hc => by simp [not_answeredBy_disconnect h htype hc]
        have hlist := disconnectTxResponse_inflight h env msg
        constructor
        · rintro ⟨-, hlaw⟩ hvalid
          obtain ⟨-, hexact⟩ := hlaw (Or.inr rfl)
          rw [hlist, if_pos hvalid] at hexact
          exact (answered_exact_iff h msg).mp hexact
        · intro hexact
          have hsame : (avbProcessAcmpConnectTxResponse cfg env s msg true).inflight =
              s.inflight := by
            rw [hlist]
            split_ifs with hvalid
            · rw [(answered_exact_iff h msg).mpr (hexact hvalid), hkeep]
            · rfl
          refine ⟨?_, fun _ => ⟨disconnectTxResponse_strayAccesses, by rw [hsame, hkeep]⟩⟩
          apply htracked.of_fewer
          · rw [disconnectTxResponse_inputStreams]
            exact fun _ hu => hu
          · rw [hsame]
            exact List.Subset.refl _
    | _ => simpa using htracked
  · have hsame : acmpStep cfg s (.acmp env msg) = s := if_pos hmine
    simp [hsame, hmine, htracked]

theorem timeouts_lawful_iff (h : InflightOk cfg s) (htracked : PendingTracked s) (env : AcmpEnv) :
    InflightLawful cfg s (.inflightTimeouts env) ↔ InflightTimely cfg s (.inflightTimeouts env) := by
  have hsweep : (avbProcessInflightTimeouts cfg env s).inflight =
      s.inflight.filter (!·.expired env) ↔
        SweepsClean (·.expired env) InflightCommand.sameTag s.inflight := by
    rw [avbProcessInflightTimeouts, (inflightTimeoutsFrom_inflight cfg env _ 0 s h).2]
    apply sweep_eq_filter_iff
    intro c
    simp [InflightCommand.sameTag, InflightCommand.carries]
  constructor
  · rintro ⟨-, hexact⟩
    exact hsweep.mp hexact
  · intro hclean
    refine ⟨?_, hsweep.mpr hclean⟩
    exact pendingTracked_timeouts s.inflight [] _ s h htracked rfl (Nat.le_refl _) (by simp)
      (by simp) hclean

/-- A step from a tracked state is as it should be exactly when it is timely. -/
theorem inflightLawful_iff (h : InflightOk cfg s) (htracked : PendingTracked s) (e : AcmpEvent) :
    InflightLawful cfg s e ↔ InflightTimely cfg s e := by
  cases e with
  | acmp env msg => exact acmp_lawful_iff h htracked env msg
  | bindStream env cmd =>
      exact (and_iff_left trivial).trans (bindStream_tracked_iff htracked env cmd)
  | unbindStream env cmd =>
      refine (and_iff_left trivial).trans (iff_true_intro ?_)
      obtain hsame | ⟨msg, hstreams⟩ := unbindStream_inputStreams cfg env s cmd
      · apply htracked.of_fewer
        · rw [acmpStep, hsame]
          exact fun _ hu => hu
        · rw [acmpStep, unbindStream_inflight]
          exact List.Subset.refl _
      · exact htracked.of_disconnect (unbindStream_inflight env cmd) hstreams
  | inflightTimeouts env => exact timeouts_lawful_iff h htracked env
  | fastConnect env u =>
      exact (and_iff_left trivial).trans (fastConnect_tracked_iff htracked)
  | demote u =>
      refine (and_iff_left trivial).trans (iff_true_intro ?_)
      apply htracked.of_fewer
      · intro v hv
        rwa [acmpStep, demoteStream_pending] at hv
      · rw [acmpStep, demoteStream_inflight]
        exact List.Subset.refl _
  | holders holders => exact iff_of_true ⟨htracked, trivial⟩ trivial

/-- Over a run from boot, every waiting stream keeps its command in flight, and responses and
timeouts remove what they belong to and no other, exactly when every step is timely; and then, at
any point, a timeout pass after every deadline leaves no stream waiting. -/
theorem pending_tracked_iff (cfg : AcmpConfig) (s : AcmpState) (hboot : s.AtBoot cfg)
    (events : List AcmpEvent) :
    (Machine.RunMeets (InflightLawful cfg) (acmpStep cfg) s events ↔
        Machine.RunMeets (InflightTimely cfg) (acmpStep cfg) s events) ∧
      (Machine.RunMeets (InflightTimely cfg) (acmpStep cfg) s events →
        PendingTracked (Machine.run (acmpStep cfg) s events) ∧
          ∀ env, (∀ c ∈ (Machine.run (acmpStep cfg) s events).inflight, c.expired env) →
            ∀ u, ((avbProcessInflightTimeouts cfg env
              (Machine.run (acmpStep cfg) s events)).inputStreams u).pendingConnection = false) := by
  have hinit : InflightOk cfg s ∧ PendingTracked s := by
    refine ⟨InflightOk.atBoot hboot, fun u hu => ?_⟩
    rw [hboot.pending u] at hu
    cases hu
  have hstep : ∀ s e, InflightTimely cfg s e → InflightOk cfg s ∧ PendingTracked s →
      InflightOk cfg (acmpStep cfg s e) ∧ PendingTracked (acmpStep cfg s e) := by
    rintro s e htimely ⟨h, htracked⟩
    exact ⟨h.step e, ((inflightLawful_iff h htracked e).mpr htimely).1⟩
  constructor
  · apply Machine.RunMeets.iff_of_invariant (fun s => InflightOk cfg s ∧ PendingTracked s)
    · rintro s e ⟨h, htracked⟩
      exact inflightLawful_iff h htracked e
    · exact hstep
    · exact hinit
  · intro htimely
    obtain ⟨h, htracked⟩ := Machine.RunMeets.invariant
      (fun s => InflightOk cfg s ∧ PendingTracked s) hstep htimely hinit
    refine ⟨htracked, ?_⟩
    intro env hexpired u
    have hclean : InflightTimely cfg (Machine.run (acmpStep cfg) s events)
        (.inflightTimeouts env) :=
      List.pairwise_of_forall_mem_list fun a ha _ _ _ _ => hexpired a ha
    obtain ⟨hafter, hexact⟩ := (timeouts_lawful_iff h htracked env).mpr hclean
    by_contra hwaiting
    obtain ⟨c, hc, -⟩ := hasProbe_iff.mp (hafter u ((Bool.not_eq_false _).mp hwaiting))
    rw [hexact] at hc
    obtain ⟨hc, hlive⟩ := List.mem_filter.mp hc
    simp [hexpired c hc] at hlive

instance (e : AcmpEvent) : Decidable (InflightLawful cfg s e) :=
  match e with
  | .acmp _ _ => inferInstanceAs (Decidable (_ ∧ (_ → _ → _)))
  | .inflightTimeouts _ => inferInstanceAs (Decidable (_ ∧ _ = _))
  | .bindStream _ _ | .unbindStream _ _ | .fastConnect _ _ | .demote _ | .holders _ =>
      inferInstanceAs (Decidable (_ ∧ True))

/-- A BIND_STREAM of input 0 to a talker's output 0. -/
def bindInput0 (talkerEntityId : UniqueId) : MvuBindStream :=
  { controllerEntityId := .ofNat 8 0xc0
    descriptorType := aemDescTypeStreamInput
    descriptorIndex := 0
    flags := 0
    talkerEntityId
    talkerStreamIndex := 0 }

theorem pending_tracked_iff_once :
    Machine.RunMeets (InflightLawful twoInputs) (acmpStep twoInputs) .blank
      [.acmp (.at 0) (acmpMsg .connectRxCommand (.ofNat 8 0xa) 0 1),
        .acmp (.at 1) (acmpMsg .connectTxResponse (.ofNat 8 0xa) 0 1)] := by
  apply (pending_tracked_iff twoInputs .blank (AcmpState.blank_atBoot twoInputs) _).1.mpr
  refine ⟨?_, ?_, trivial⟩
  · intro _
    dsimp only [acmpMsg]
    intro _ u _
    exact Or.inl (by decide)
  · intro _
    dsimp only [acmpMsg]
    exact ⟨rfl, by decide +kernel⟩

/-- A BIND_STREAM leaves its stream waiting with nothing in flight; and a response to one stream's
command that carries another's sequence ID takes the other's entry. -/
theorem bind_waits_untracked :
    ¬Machine.RunMeets (InflightLawful twoInputs) (acmpStep twoInputs) .blank
        [.bindStream (.at 0) (bindInput0 (.ofNat 8 0xa))] ∧
      ¬Machine.RunMeets (InflightLawful twoInputs) (acmpStep twoInputs) .blank
        [.acmp (.at 0) (acmpMsg .connectRxCommand (.ofNat 8 0xa) 0 1),
          .acmp (.at 0) (acmpMsg .connectRxCommand (.ofNat 8 0xb) 1 2),
          .acmp (.at 1) (acmpMsg .connectTxResponse (.ofNat 8 0xa) 0 2)] := by
  decide +kernel

end EspAvb
