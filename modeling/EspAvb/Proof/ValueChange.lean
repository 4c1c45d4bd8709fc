import EspAvb.System

/-!
# Asking before a value change

`mrp_talker_advertise_change_waits` repeats the decision of `mrp_declare_talker_advertise` on the
stored entry, without its effects.
-/

namespace EspAvb

variable {cfg : Config}

/-- The arguments of a declaration. -/
structure TalkerValue where
  streamId : UniqueId
  streamDestAddr : EthAddr
  vlanId : Octets 2
  maxFrameSize : Nat
  maxIntervalFrames : Nat
  classB : Bool

def TalkerValue.waits (v : TalkerValue) (s : AvbState cfg) (p : cfg.Port) : Bool :=
  mrpTalkerAdvertiseChangeWaits s p v.streamId v.streamDestAddr v.vlanId v.maxFrameSize
    v.maxIntervalFrames v.classB

def TalkerValue.declare (v : TalkerValue) (s : AvbState cfg) (p : cfg.Port) : AvbState cfg :=
  mrpDeclareTalkerAdvertise s p v.streamId v.streamDestAddr v.vlanId v.maxFrameSize
    v.maxIntervalFrames v.classB

def TalkerValue.candidate (v : TalkerValue) (s : AvbState cfg) (e : MsrpTalkerEntry cfg) :
    MsrpTalkerMessage :=
  mrpTalkerCandidate s e v.streamId v.streamDestAddr v.vlanId v.maxFrameSize v.maxIntervalFrames
    v.classB

/-- The declaration leaves the entry held back from now on, for another value that does not only
shrink the reservation. -/
def TalkerValue.StartsHoldoff (v : TalkerValue) (s : AvbState cfg) (p : cfg.Port) : Prop :=
  ∃ i e e', msrpTalkerFind s p v.streamId .talkerAdvertise = some i ∧ s.talkers p i = some e ∧
    (v.declare s p).talkers p i = some e' ∧ e'.declareHeld = true ∧
    e'.redeclareAfterUs = s.nowUs + cfg.valueChangeHoldoffUs ∧ e'.wire.info ≠ e.wire.info ∧
    mrpTalkerValueShrinks e.wire.info e'.wire.info = false

/-- The declaration leaves the entry held back by a long hold-off that runs already. -/
def TalkerValue.KeepsHoldoff (v : TalkerValue) (s : AvbState cfg) (p : cfg.Port) : Prop :=
  ∃ i e e', msrpTalkerFind s p v.streamId .talkerAdvertise = some i ∧ s.talkers p i = some e ∧
    (v.declare s p).talkers p i = some e' ∧ e'.declareHeld = true ∧
    e.redeclareAfterUs = e.withdrawnUs + cfg.valueChangeHoldoffUs ∧
    e'.redeclareAfterUs = e.redeclareAfterUs ∧ e'.wire.info = e.wire.info

theorem valueChangeHoldoffUs_pos (cfg : Config) : 0 < cfg.valueChangeHoldoffUs := by
  unfold Config.valueChangeHoldoffUs
  split_ifs <;> norm_num

section

variable (s : AvbState cfg) (p : cfg.Port) {i : TalkerRef cfg} {e : MsrpTalkerEntry cfg}

/-- The entry a declaration leaves, where the stream has one. -/
theorem TalkerValue.declare_talker (v : TalkerValue)
    (hfind : msrpTalkerFind s p v.streamId .talkerAdvertise = some i)
    (he : s.talkers p i = some e) : (v.declare s p).talkers p i = some
      (mrpTalkerDeclare s p e.sm.applicant (v.candidate s e)
        (mrpTalkerTakeValue s p { e with locallyOriginated := true } (v.candidate s e))) := by
  unfold TalkerValue.declare mrpDeclareTalkerAdvertise
  have hinsert : msrpTalkerFindOrInsert s p v.streamId .talkerAdvertise = some (i, s) := by
    obtain ⟨j, e', hj, -, h⟩ | ⟨j, hnone, -, -⟩ | ⟨hnone, -, -⟩ :=
      msrpTalkerFindOrInsert_outcome s p v.streamId .talkerAdvertise
    · rw [hfind] at hj
      cases hj
      exact h
    · rw [hfind] at hnone
      cases hnone
    · rw [hfind] at hnone
      cases hnone
  rw [hinsert]
  dsimp only
  rw [he]
  dsimp only
  rw [setTalker_talkers, if_pos rfl, SlotTable.set_same]
  rfl

/-- The value of an entry a declaration leaves is the declared one. -/
theorem mrpTalkerDeclare_info (before : MrpApplicantState) {fresh : MsrpTalkerMessage}
    (h : e.wire.info = fresh.info) :
    (mrpTalkerDeclare s p before fresh e).wire.info = fresh.info := by
  unfold mrpTalkerDeclare
  split_ifs
  · rfl
  · exact h
  · rfl

theorem mrpTalkerTakeValue_info (fresh : MsrpTalkerMessage) :
    (mrpTalkerTakeValue s p e fresh).wire.info = fresh.info := by
  unfold mrpTalkerTakeValue
  split_ifs with hsame <;> first | rfl | exact hsame

/-- A hold-off that begins now is not over. -/
theorem mrpValueChangeHoldoffOver_start {e : MsrpTalkerEntry cfg} {us : Nat} (hus : 0 < us)
    (hafter : e.redeclareAfterUs = s.nowUs + us)
    (hbase : e.holdoffLeaveallBase = s.talkerLeaveallCount p) :
    mrpValueChangeHoldoffOver s p e s.nowUs = false := by
  unfold mrpValueChangeHoldoffOver
  rw [hafter, hbase, UInt32.sub_self]
  have hlater : ¬ s.nowUs + us ≤ s.nowUs := by omega
  have hnone : ¬ msrpValueChangeLeavealls ≤ 0 := by decide
  simp [hlater, hnone]

/-- A declared value that grows is withdrawn and held back. -/
theorem mrpTalkerDeclare_starts (before : MrpApplicantState) {fresh : MsrpTalkerMessage}
    (hlite : s.avbLite = false) (hbefore : mrpTalkerDeclaredBefore e = true)
    (hne : e.wire.info ≠ fresh.info)
    (hgrows : mrpTalkerValueShrinks e.wire.info fresh.info = false) :
    let e' := mrpTalkerDeclare s p before fresh (mrpTalkerTakeValue s p e fresh)
    e'.declareHeld = true ∧ e'.redeclareAfterUs = s.nowUs + cfg.valueChangeHoldoffUs := by
  have htake : mrpTalkerTakeValue s p e fresh =
      { e with
        withdrawnUs := s.nowUs
        redeclareAfterUs := s.nowUs + cfg.valueChangeHoldoffUs
        holdoffLeaveallBase := s.talkerLeaveallCount p
        sm := mrpSmResetForNewValue
        wire := fresh } := by
    unfold mrpTalkerTakeValue
    rw [if_neg hne, hlite, if_neg Bool.false_ne_true, if_pos hbefore]
    dsimp only
    rw [hgrows, if_neg Bool.false_ne_true]
  have hpos := valueChangeHoldoffUs_pos cfg
  intro e'
  have hdeclare : e' = { mrpTalkerTakeValue s p e fresh with declareHeld := true } := by
    change mrpTalkerDeclare s p before fresh (mrpTalkerTakeValue s p e fresh) = _
    unfold mrpTalkerDeclare
    rw [if_pos, if_neg]
    · rw [mrpValueChangeHoldoffOver_start s p hpos (by rw [htake]) (by rw [htake])]
      exact Bool.false_ne_true
    · rw [htake]
      dsimp only
      omega
  rw [hdeclare, htake]
  exact ⟨rfl, rfl⟩

/-- The first value of an entry is declared at once. -/
theorem mrpTalkerDeclare_fresh (before : MrpApplicantState) {fresh : MsrpTalkerMessage}
    (hlite : s.avbLite = false) (hzero : e.redeclareAfterUs = 0) (hne : e.wire.info ≠ fresh.info)
    (hbefore : ¬mrpTalkerDeclaredBefore e = true) :
    (mrpTalkerDeclare s p before fresh (mrpTalkerTakeValue s p e fresh)).redeclareAfterUs = 0 := by
  unfold mrpTalkerTakeValue
  rw [if_neg hne, hlite, if_neg Bool.false_ne_true, if_neg hbefore]
  unfold mrpTalkerDeclare
  rw [if_neg (not_not.mpr hzero)]
  exact hzero

/-- What an answer of true says. -/
theorem TalkerValue.waits_iff (v : TalkerValue)
    (hfind : msrpTalkerFind s p v.streamId .talkerAdvertise = some i)
    (he : s.talkers p i = some e) : v.waits s p = true ↔
      e.redeclareAfterUs = 0 ∧ mrpTalkerDeclaredBefore e = true ∧
        e.wire.info ≠ (v.candidate s e).info ∧
        mrpTalkerValueShrinks e.wire.info (v.candidate s e).info = false := by
  have hat : talkerAt s p v.streamId .talkerAdvertise = some e := by
    rw [talkerAt, SlotTable.lookup_of_find hfind, he]
  unfold TalkerValue.waits mrpTalkerAdvertiseChangeWaits
  rw [hat]
  by_cases hheld : e.redeclareAfterUs = 0 <;> by_cases hbefore : mrpTalkerDeclaredBefore e = true <;>
    simp [hheld, hbefore, TalkerValue.candidate]

/-- Without a hold-off in the entry, or where the call repeats the entry's value, the answer is true
exactly when the declaration starts the long hold-off instead of declaring. -/
theorem change_waits_iff_starts (v : TalkerValue) (hlite : s.avbLite = false)
    (hfree : ∀ i e, msrpTalkerFind s p v.streamId .talkerAdvertise = some i →
      s.talkers p i = some e → e.redeclareAfterUs = 0 ∨ e.wire.info = (v.candidate s e).info) :
    v.waits s p = true ↔ v.StartsHoldoff s p := by
  cases hfind : msrpTalkerFind s p v.streamId .talkerAdvertise with
  | none =>
      have hwaits : v.waits s p = false := by
        unfold TalkerValue.waits mrpTalkerAdvertiseChangeWaits talkerAt
        rw [SlotTable.lookup_eq_none.mpr hfind]
      rw [hwaits]
      constructor
      · intro h
        cases h
      · rintro ⟨i, e, e', hi, -⟩
        rw [hfind] at hi
        cases hi
  | some i =>
      obtain ⟨e, he, -⟩ := SlotTable.find_eq_some hfind
      rw [v.waits_iff s p hfind he]
      have hafter := v.declare_talker s p hfind he
      constructor
      · rintro ⟨hzero, hbefore, hne, hgrows⟩
        have hstarted := mrpTalkerDeclare_starts s p (e := { e with locallyOriginated := true })
          e.sm.applicant hlite hbefore hne hgrows
        have hinfo : (mrpTalkerDeclare s p e.sm.applicant (v.candidate s e) (mrpTalkerTakeValue s p
            { e with locallyOriginated := true } (v.candidate s e))).wire.info =
              (v.candidate s e).info :=
          mrpTalkerDeclare_info s p _ (mrpTalkerTakeValue_info s p _)
        refine ⟨i, e, _, hfind, he, hafter, hstarted.1, hstarted.2, ?_, ?_⟩
        · rw [hinfo]
          exact hne.symm
        · rw [hinfo]
          exact hgrows
      · rintro ⟨j, e₁, e', hj, he₁, he', hheld, hredeclare, hne, hgrows⟩
        rw [hfind] at hj
        cases hj
        rw [he] at he₁
        cases he₁
        rw [hafter] at he'
        cases he'
        rw [mrpTalkerDeclare_info s p _ (mrpTalkerTakeValue_info s p _)] at hne hgrows
        rcases hfree i e hfind he with hzero | hsame
        · refine ⟨hzero, ?_, hne.symm, hgrows⟩
          by_contra hbefore
          rw [mrpTalkerDeclare_fresh s p (e := { e with locallyOriginated := true }) e.sm.applicant
            hlite hzero hne.symm hbefore] at hredeclare
          have hpos := valueChangeHoldoffUs_pos cfg
          omega
        · exact absurd hsame.symm hne

end

/-! ### While a hold-off runs -/

/-- A stream of one Class A frame of so many octets. -/
def octetsValue (maxFrameSize : Nat) : TalkerValue :=
  { streamId := .ofNat 8 1
    streamDestAddr := .ofNat 6 0x91e0f0000001
    vlanId := .ofNat 2 2
    maxFrameSize
    maxIntervalFrames := 1
    classB := false }

/-- An end station that declared 64 octets and then 128. -/
def grownState : AvbState wiredEndpoint :=
  let p : wiredEndpoint.Port := ⟨0, Nat.one_pos⟩
  (octetsValue 128).declare ((octetsValue 64).declare (.init wiredEndpoint false) p) p

/-- The grown value is held back for 32 s; declared once more, it stays so, and the answer is that
it does not wait. -/
theorem change_waits_held : ¬ ∀ (s : AvbState wiredEndpoint) (p : wiredEndpoint.Port)
    (v : TalkerValue), s.avbLite = false →
      (v.waits s p = true ↔ v.StartsHoldoff s p ∨ v.KeepsHoldoff s p) := by
  intro h
  have hkeeps : (octetsValue 128).KeepsHoldoff grownState ⟨0, Nat.one_pos⟩ := by
    refine ⟨⟨0, by decide⟩, _, _, ?_, rfl, rfl, ?_, ?_, ?_, ?_⟩
    all_goals decide +kernel
  have hwaits := (h grownState ⟨0, Nat.one_pos⟩ (octetsValue 128) (by decide +kernel)).mpr
    (Or.inr hkeeps)
  revert hwaits
  decide +kernel

/-- Asked before the value grows. -/
theorem change_waits_grows :
    let s := (octetsValue 64).declare (.init wiredEndpoint false) ⟨0, Nat.one_pos⟩
    (octetsValue 128).waits s ⟨0, Nat.one_pos⟩ = true ↔
      (octetsValue 128).StartsHoldoff s ⟨0, Nat.one_pos⟩ := by
  intro s
  apply change_waits_iff_starts s ⟨0, Nat.one_pos⟩ (octetsValue 128) (by decide +kernel)
  intro i e hi he
  have hslot : msrpTalkerFind s ⟨0, Nat.one_pos⟩ (octetsValue 128).streamId .talkerAdvertise
      = some ⟨0, by decide⟩ := by decide +kernel
  have hzero : (s.talkers ⟨0, Nat.one_pos⟩ ⟨0, by decide⟩).map (·.redeclareAfterUs) = some 0 := by
    decide +kernel
  rw [hslot] at hi
  cases hi
  rw [he] at hzero
  exact Or.inl (Option.some.inj hzero)

end EspAvb
