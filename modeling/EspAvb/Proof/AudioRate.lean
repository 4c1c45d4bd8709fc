import EspAvb.AudioRate
import EspAvb.Lib.Machine

/-!
# A sample rate changes as a whole

A call that fails leaves the rate as it was, and where the restore succeeds the hardware too, with the
APLL back at the trim: the restore parks both channels. A change that moves the MCLK parks them as well.
One that keeps the MCLK leaves the APLL alone, which is right as long as the APLL is still what the
bookkeeping takes it for; after a restore that failed half-way it need not be.
-/

namespace EspAvb

open Machine

/-! ### Plans -/

theorem selectCandidate_eq (usable : AvbCodecMclk → Bool) (p : Nat) (l : List AvbCodecMclk)
    (chosen : Option AvbCodecMclk) : selectCandidate usable p l chosen
      = ((l.filter usable).find? fun c => c.mclkHz = p).or (chosen.or (l.filter usable).head?) := by
  induction l generalizing chosen with
  | nil => simp [selectCandidate]
  | cons c l ih =>
      unfold selectCandidate
      by_cases husable : usable c = true
      · rw [if_neg (by simp [husable]), List.filter_cons_of_pos husable]
        by_cases hp : c.mclkHz = p
        · simp [hp]
        · rw [if_neg hp, ih, List.find?_cons_of_neg (by simpa using hp), List.head?_cons]
          congr 1
          cases chosen <;> simp
      · rw [if_pos (by simpa using husable), ih, List.filter_cons_of_neg husable]

theorem selectCandidate_mem {usable : AvbCodecMclk → Bool} {p : Nat} {l : List AvbCodecMclk}
    {c : AvbCodecMclk} (h : selectCandidate usable p l none = some c) :
    c ∈ l.filter usable := by
  rw [selectCandidate_eq, Option.none_or, Option.or_eq_some_iff] at h
  rcases h with h | ⟨-, h⟩
  · exact List.mem_of_find?_eq_some h
  · exact List.mem_of_head? h

/-- What is chosen is what is chosen when it is the one preferred. -/
theorem selectCandidate_again {usable : AvbCodecMclk → Bool} {p : Nat} {l : List AvbCodecMclk}
    {c : AvbCodecMclk} (h : selectCandidate usable p l none = some c) :
    selectCandidate usable c.mclkHz l none = some c := by
  rw [selectCandidate_eq, Option.none_or, Option.or_eq_some_iff] at h ⊢
  left
  rcases h with h | ⟨-, h⟩
  · have hp := List.find?_some h
    rw [decide_eq_true_eq] at hp
    rw [hp]
    exact h
  · cases hl : l.filter usable with
    | nil => simp [hl] at h
    | cons d rest =>
        rw [hl, List.head?_cons, Option.some.injEq] at h
        subst h
        simp

section Board

variable {board : AudioBoard} {checked : Bool} {rate p : Nat} {c : AvbCodecMclk}

/-- Every MCLK a plan lists is a multiple of its rate, and has its clock row where rows are used. -/
theorem clockPlan_sound (codec : CodecType) :
    ∀ plan ∈ (avbCodecGetCaps codec).clockPlan, ∀ c ∈ plan.candidates,
      plan.sampleRateHz * (c.mclkHz / plan.sampleRateHz) = c.mclkHz ∧ c.mclkHz ≠ 0
        ∧ ((avbCodecGetCaps codec).applyClock = true →
          c.codecData = some ⟨plan.sampleRateHz, c.mclkHz⟩)
        ∧ clockCandidateRejectReason (avbCodecGetCaps codec) (fun _ => true) plan.sampleRateHz c
          = none := by
  cases codec <;> decide

theorem avbCodecSelectMclk_mem (h : avbCodecSelectMclk board checked rate p = some c) :
    ∃ plan ∈ board.caps.clockPlan, plan.sampleRateHz = rate ∧ c ∈ plan.candidates := by
  unfold avbCodecSelectMclk at h
  rw [Option.bind_eq_some_iff] at h
  obtain ⟨plan, hplan, hselect⟩ := h
  have hrate := List.find?_some hplan
  exact ⟨plan, List.mem_of_find?_eq_some hplan, of_decide_eq_true hrate,
    List.mem_of_mem_filter (selectCandidate_mem hselect)⟩

theorem avbCodecSelectMclk_sound (h : avbCodecSelectMclk board checked rate p = some c) :
    rate * (c.mclkHz / rate) = c.mclkHz ∧ c.mclkHz ≠ 0
      ∧ (board.caps.applyClock = true → c.codecData = some ⟨rate, c.mclkHz⟩) := by
  obtain ⟨plan, hplan, rfl, hc⟩ := avbCodecSelectMclk_mem h
  obtain ⟨hmultiple, hne, hrow, -⟩ := clockPlan_sound board.codec plan hplan c hc
  exact ⟨hmultiple, hne, hrow⟩

theorem avbCodecSelectMclk_again (h : avbCodecSelectMclk board checked rate p = some c) :
    avbCodecSelectMclk board checked rate c.mclkHz = some c := by
  unfold avbCodecSelectMclk at h ⊢
  rw [Option.bind_eq_some_iff] at h ⊢
  obtain ⟨plan, hplan, hselect⟩ := h
  exact ⟨plan, hplan, selectCandidate_again hselect⟩

end Board

/-! ### Hardware steps -/

section Steps

variable {outcome : HwOutcome} {hw : AudioHw} {steps : List (HwStep × (AudioHw → AudioHw))}

/-- Steps of which none fails. -/
def HwOutcome.Passes (outcome : HwOutcome) (steps : List (HwStep × (AudioHw → AudioHw))) : Prop :=
  ∀ step ∈ steps, outcome.fails step.1 = none

theorem runHwSteps_iff : (runHwSteps outcome steps hw).1 = true ↔ outcome.Passes steps := by
  unfold HwOutcome.Passes
  induction steps generalizing hw with
  | nil => simp [runHwSteps]
  | cons step steps ih =>
      unfold runHwSteps
      cases hfails : outcome.fails step.1 with
      | none => simp [ih, hfails]
      | some leaves => simp [hfails]

theorem runHwSteps_passed (h : outcome.Passes steps) :
    (runHwSteps outcome steps hw).2 = steps.foldl (fun hw step => step.2 hw) hw := by
  induction steps generalizing hw with
  | nil => simp [runHwSteps]
  | cons step steps ih =>
      have hfirst := h step List.mem_cons_self
      have hrest : outcome.Passes steps := fun x hx => h x (List.mem_cons_of_mem step hx)
      unfold runHwSteps
      simp only [hfirst, List.foldl_cons]
      exact ih hrest

end Steps

/-! ### A reclock -/

section Reclock

variable {caps : AvbCodecCaps} {rate mclkHz : Nat} {row : Option Es8389ClockRow} {park : Bool}
  {outcome : HwOutcome} {hw : AudioHw}

/-- The hardware after a reclock, over an APLL at `apllMclkHz` and `apllPpmQ16`. -/
def AudioHw.reclocked (hw : AudioHw) (caps : AvbCodecCaps) (rate mclkHz : Nat)
    (row : Option Es8389ClockRow) (apllMclkHz : Nat) (apllPpmQ16 : Int) : AudioHw :=
  { tx := ⟨true, .apll, rate, mclkHz / rate⟩
    rx := ⟨true, .apll, rate, mclkHz / rate⟩
    apllMclkHz
    apllPpmQ16
    codecEnabled := true
    codecFs := (rate, mclkHz / rate)
    codecRow := if caps.applyClock then row else hw.codecRow }

def AudioHw.ApllHeld (hw : AudioHw) : Prop := hw.tx.clkSrc = .apll ∨ hw.rx.clkSrc = .apll

instance (hw : AudioHw) : Decidable hw.ApllHeld :=
  inferInstanceAs (Decidable (hw.tx.clkSrc = .apll ∨ hw.rx.clkSrc = .apll))

theorem reclock_iff (hrow : clockRowMissing caps rate mclkHz row = false) :
    (audioHwReclock caps rate mclkHz row park outcome hw).1 = true
      ↔ outcome.Passes (audioHwSteps caps rate mclkHz row park) := by
  unfold audioHwReclock
  simp only [hrow, Bool.false_eq_true, if_false]
  exact runHwSteps_iff

theorem reclock_passed (hrow : clockRowMissing caps rate mclkHz row = false)
    (h : (audioHwReclock caps rate mclkHz row park outcome hw).1 = true) :
    (audioHwReclock caps rate mclkHz row park outcome hw).2
      = (audioHwSteps caps rate mclkHz row park).foldl (fun hw step => step.2 hw)
          (if outcome.codecStops then { hw with codecEnabled := false } else hw) := by
  have hpasses := (reclock_iff hrow).mp h
  unfold audioHwReclock
  simp only [hrow, Bool.false_eq_true, if_false]
  exact runHwSteps_passed hpasses

/-- With both channels parked the APLL is set anew, whatever it was. -/
theorem reclock_parked (hrow : clockRowMissing caps rate mclkHz row = false)
    (h : (audioHwReclock caps rate mclkHz row true outcome hw).1 = true) :
    (audioHwReclock caps rate mclkHz row true outcome hw).2
      = hw.reclocked caps rate mclkHz row (rate * (mclkHz / rate)) 0 := by
  rw [reclock_passed hrow h]
  cases happly : caps.applyClock <;> cases outcome.codecStops <;>
    simp [audioHwSteps, happly, AudioHw.enableTx, AudioHw.enableRx, AudioHw.reconfigTx,
      AudioHw.reconfigRx, AudioHw.acquire, I2sChannel.configured, AudioHw.reclocked]

/-- Without the park it stays as it is while a channel holds it. -/
theorem reclock_kept (hrow : clockRowMissing caps rate mclkHz row = false)
    (h : (audioHwReclock caps rate mclkHz row false outcome hw).1 = true) :
    (audioHwReclock caps rate mclkHz row false outcome hw).2
      = if hw.ApllHeld then hw.reclocked caps rate mclkHz row hw.apllMclkHz hw.apllPpmQ16
        else hw.reclocked caps rate mclkHz row (rate * (mclkHz / rate)) 0 := by
  rw [reclock_passed hrow h]
  cases happly : caps.applyClock <;> cases outcome.codecStops <;>
    cases htx : hw.tx.clkSrc <;> cases hrx : hw.rx.clkSrc <;>
    simp [audioHwSteps, happly, AudioHw.enableTx, AudioHw.enableRx, AudioHw.reconfigTx,
      AudioHw.reconfigRx, AudioHw.acquire, I2sChannel.configured, AudioHw.reclocked,
      AudioHw.ApllHeld, htx, hrx]

end Reclock

/-! ### A call -/

/-- The hardware plays at `rate` from `mclkHz`, on the codec's clock row for the two. -/
structure Runs (board : AudioBoard) (rate mclkHz : Nat) (hw : AudioHw) : Prop where
  tx : hw.tx = ⟨true, .apll, rate, mclkHz / rate⟩
  rx : hw.rx = ⟨true, .apll, rate, mclkHz / rate⟩
  multiple : rate * (mclkHz / rate) = mclkHz
  apll : hw.apllMclkHz = mclkHz
  codecEnabled : hw.codecEnabled = true
  codecFs : hw.codecFs = (rate, mclkHz / rate)
  codecRow : board.caps.applyClock = true → hw.codecRow = some ⟨rate, mclkHz⟩

section Call

variable (board : AudioBoard) (s : AudioState) (call : RateCall)

/-- The change keeps the MCLK that runs. -/
def KeepsMclk : Prop :=
  (avbCodecSelectMclk board true call.rate s.codecMclkHz).map AvbCodecMclk.mclkHz
    = some s.codecMclkHz

/-- The change fails and every step of the restore succeeds. -/
def RestoreSucceeds : Prop :=
  call.rate ≠ s.defaultSampleRate ∧ s.ready = true
    ∧ ∃ c, avbCodecSelectMclk board true call.rate s.codecMclkHz = some c
      ∧ (call.reclock board s c).1 = false
      ∧ (avbAudioRestore board { s with hw := (call.reclock board s c).2 } call).1 = true

/-- What a call is to leave behind. -/
structure RateAtomic : Prop where
  unchanged : (avbAudioSetRate board s call).1 ≠ .ok →
    (avbAudioSetRate board s call).2.defaultSampleRate = s.defaultSampleRate
      ∧ (avbAudioSetRate board s call).2.codecMclkHz = s.codecMclkHz
      ∧ (avbAudioSetRate board s call).2.listenerByterate = s.listenerByterate
  restored : RestoreSucceeds board s call →
    Runs board s.defaultSampleRate s.codecMclkHz (avbAudioSetRate board s call).2.hw
      ∧ (avbAudioSetRate board s call).2.hw.apllPpmQ16 = s.pllAppliedPpmQ16
  changed : call.rate ≠ s.defaultSampleRate → (avbAudioSetRate board s call).1 = .ok →
    (KeepsMclk board s call ∨ call.trimAccepted = true) →
    (avbAudioSetRate board s call).2.defaultSampleRate = call.rate
      ∧ Runs board call.rate (avbAudioSetRate board s call).2.codecMclkHz
          (avbAudioSetRate board s call).2.hw
      ∧ (avbAudioSetRate board s call).2.hw.apllPpmQ16
          = (avbAudioSetRate board s call).2.pllAppliedPpmQ16

/-- The APLL carries the MCLK and the trim of the bookkeeping, or is free with no trim to carry. -/
def ApllIntact : Prop :=
  if s.hw.ApllHeld then s.hw.apllMclkHz = s.codecMclkHz ∧ s.hw.apllPpmQ16 = s.pllAppliedPpmQ16
  else s.pllAppliedPpmQ16 = 0

/-- A change that keeps the MCLK, and of which no step fails, finds the APLL intact. -/
def FindsApllIntact : Prop :=
  call.rate ≠ s.defaultSampleRate → s.ready = true → ∀ c,
    avbCodecSelectMclk board true call.rate s.codecMclkHz = some c → c.mclkHz = s.codecMclkHz →
    call.change.Passes (audioHwSteps board.caps call.rate c.mclkHz c.codecData false) →
    ApllIntact s

/-- The MCLK that runs is the plan's for the rate that runs. -/
def MclkSelected : Prop :=
  (avbCodecSelectMclk board true s.defaultSampleRate s.codecMclkHz).map AvbCodecMclk.mclkHz
    = some s.codecMclkHz

end Call

section Atomic

variable {board : AudioBoard} {s : AudioState} {call : RateCall} {rate p : Nat} {c : AvbCodecMclk}

theorem clockRowMissing_of_select (h : avbCodecSelectMclk board true rate p = some c) :
    clockRowMissing board.caps rate c.mclkHz c.codecData = false := by
  obtain ⟨-, -, hrow⟩ := avbCodecSelectMclk_sound h
  unfold clockRowMissing
  rw [decide_eq_false_iff_not]
  rintro ⟨happly, hne⟩
  exact hne (hrow happly)

/-- A reclocked board runs, once the APLL is on the MCLK. -/
theorem runs_reclocked (h : avbCodecSelectMclk board true rate p = some c) (hw : AudioHw) (ppm : Int)
    {apllMclkHz : Nat} (hapll : apllMclkHz = c.mclkHz) :
    Runs board rate c.mclkHz
      (hw.reclocked board.caps rate c.mclkHz c.codecData apllMclkHz ppm) := by
  obtain ⟨hmultiple, -, hrow⟩ := avbCodecSelectMclk_sound h
  refine ⟨rfl, rfl, hmultiple, hapll, rfl, rfl, ?_⟩
  intro happly
  simp only [AudioHw.reclocked, happly, if_true]
  exact hrow happly

/-- The trim written over an APLL that is on its MCLK. -/
theorem Runs.setApll {hw : AudioHw} {mclkHz : Nat} (h : Runs board rate mclkHz hw) (ppm : Int) :
    Runs board rate mclkHz { hw with apllMclkHz := mclkHz, apllPpmQ16 := ppm } :=
  ⟨h.tx, h.rx, h.multiple, rfl, h.codecEnabled, h.codecFs, h.codecRow⟩

theorem mclkHwTune_spec {mclkHz : Nat} {ppm : Int} {accepted : Bool}
    (hnominal : s.pllNominalMclkHz = some mclkHz) : s.mclkHwTune accepted ppm
      = if accepted then (true, { s with hw := { s.hw with apllMclkHz := mclkHz, apllPpmQ16 := ppm } })
        else (false, s) := by
  unfold AudioState.mclkHwTune
  rw [hnominal]

/-- The trim is back after a reclock that left the APLL at nominal. -/
theorem restoreTrim_runs {mclkHz : Nat} {accepted : Bool}
    (hnominal : s.pllNominalMclkHz = some mclkHz) (hruns : Runs board rate mclkHz s.hw)
    (hppm : s.hw.apllPpmQ16 = 0) (hok : (s.avbPllRestoreTrim accepted).1 = true) :
    Runs board rate mclkHz (s.avbPllRestoreTrim accepted).2.hw
      ∧ (s.avbPllRestoreTrim accepted).2.hw.apllPpmQ16 = s.pllAppliedPpmQ16 := by
  unfold AudioState.avbPllRestoreTrim at hok ⊢
  split at hok
  · rename_i hzero
    rw [if_pos hzero]
    exact ⟨hruns, hppm.trans hzero.symm⟩
  · rename_i htrim
    rw [if_neg htrim, mclkHwTune_spec hnominal]
    rw [mclkHwTune_spec hnominal] at hok
    split at hok
    · rename_i haccepted
      rw [if_pos haccepted]
      exact ⟨hruns.setApll _, rfl⟩
    · cases hok

/-- Writing the trim changes the hardware alone. -/
theorem restoreTrim_fields (accepted : Bool) : ∃ hw,
    (s.avbPllRestoreTrim accepted).2 = { s with hw } := by
  unfold AudioState.avbPllRestoreTrim
  split
  · exact ⟨s.hw, rfl⟩
  · unfold AudioState.mclkHwTune
    split
    · split
      · exact ⟨_, rfl⟩
      · exact ⟨s.hw, rfl⟩
    · exact ⟨s.hw, rfl⟩

/-- A restore changes the hardware and the back end alone. -/
theorem audioRestore_fields : ∃ hw pllNominalMclkHz,
    (avbAudioRestore board s call).2 = { s with hw, pllNominalMclkHz } := by
  unfold avbAudioRestore
  dsimp only
  split
  · unfold AudioState.avbPllInit
    split
    · exact ⟨_, _, rfl⟩
    · obtain ⟨hw, hfields⟩ := restoreTrim_fields
        (s := { s with
          hw := (audioHwReclock board.caps s.defaultSampleRate s.codecMclkHz
            ((avbCodecSelectMclk board true s.defaultSampleRate s.codecMclkHz).bind
              AvbCodecMclk.codecData) true call.restore s.hw).2
          pllNominalMclkHz := some s.codecMclkHz }) call.trimAccepted
      exact ⟨hw, _, hfields⟩
  · exact ⟨_, _, rfl⟩

/-- A restore of which every step succeeds is a return to the old rate. -/
theorem audioRestore_runs (hselected : MclkSelected board s)
    (h : (avbAudioRestore board s call).1 = true) :
    Runs board s.defaultSampleRate s.codecMclkHz (avbAudioRestore board s call).2.hw
      ∧ (avbAudioRestore board s call).2.hw.apllPpmQ16 = s.pllAppliedPpmQ16 := by
  unfold MclkSelected at hselected
  rw [Option.map_eq_some_iff] at hselected
  obtain ⟨c, hselect, hmclk⟩ := hselected
  obtain ⟨hmultiple, hne, -⟩ := avbCodecSelectMclk_sound hselect
  have hrow := clockRowMissing_of_select hselect
  rw [← hmclk] at hselect
  unfold avbAudioRestore at h ⊢
  dsimp only at h ⊢
  rw [← hmclk] at h ⊢
  rw [hselect, Option.bind_some] at h ⊢
  split at h
  · rename_i hrestored
    rw [if_pos hrestored]
    unfold AudioState.avbPllInit at h ⊢
    rw [if_neg hne] at h ⊢
    refine restoreTrim_runs rfl ?_ ?_ h
    · dsimp only
      rw [reclock_parked hrow hrestored]
      exact runs_reclocked hselect _ _ hmultiple
    · dsimp only
      rw [reclock_parked hrow hrestored]
      rfl
  · cases h

/-- A call that touches no hardware. -/
theorem rateAtomic_untouched (hstate : (avbAudioSetRate board s call).2 = s)
    (hok : (avbAudioSetRate board s call).1 = .ok → call.rate = s.defaultSampleRate)
    (hrestore : ¬ RestoreSucceeds board s call) : RateAtomic board s call where
  unchanged _ := by
    rw [hstate]
    exact ⟨rfl, rfl, rfl⟩
  restored h := absurd h hrestore
  changed hrate herr := absurd (hok herr) hrate

/-- A change of which a step fails. -/
theorem rateAtomic_failed (hselected : MclkSelected board s)
    (hset : avbAudioSetRate board s call
      = (.fail, (avbAudioRestore board { s with hw := (call.reclock board s c).2 } call).2))
    (hselect : avbCodecSelectMclk board true call.rate s.codecMclkHz = some c) :
    RateAtomic board s call where
  unchanged _ := by
    obtain ⟨hw, nominal, hfields⟩ : ∃ hw nominal,
        (avbAudioRestore board { s with hw := (call.reclock board s c).2 } call).2
          = { s with hw, pllNominalMclkHz := nominal } := audioRestore_fields
    rw [hset, hfields]
    exact ⟨rfl, rfl, rfl⟩
  restored h := by
    obtain ⟨-, -, c', hselect', -, hrestored⟩ := h
    rw [hselect, Option.some.injEq] at hselect'
    subst hselect'
    rw [hset]
    exact audioRestore_runs (s := { s with hw := (call.reclock board s c).2 }) hselected hrestored
  changed _ herr := by
    rw [hset] at herr
    cases herr

/-- What a change that keeps the MCLK makes of the hardware is right just if the APLL is intact. -/
theorem reclock_kept_iff (hselect : avbCodecSelectMclk board true call.rate s.codecMclkHz = some c)
    (hkeeps : c.mclkHz = s.codecMclkHz) (hdone : (call.reclock board s c).1 = true) :
    (Runs board call.rate c.mclkHz (call.reclock board s c).2
        ∧ (call.reclock board s c).2.apllPpmQ16 = s.pllAppliedPpmQ16) ↔ ApllIntact s := by
  obtain ⟨hmultiple, -, -⟩ := avbCodecSelectMclk_sound hselect
  have hrow := clockRowMissing_of_select hselect
  have hpark : decide (c.mclkHz ≠ s.codecMclkHz) = false := by simp [hkeeps]
  unfold RateCall.reclock at hdone ⊢
  rw [hpark] at hdone ⊢
  rw [reclock_kept hrow hdone]
  unfold ApllIntact
  split
  · constructor
    · rintro ⟨hruns, hppm⟩
      exact ⟨hkeeps ▸ hruns.apll, hppm⟩
    · rintro ⟨hapll, hppm⟩
      exact ⟨runs_reclocked hselect _ _ (hapll.trans hkeeps.symm), hppm⟩
  · constructor
    · rintro ⟨-, hppm⟩
      exact hppm.symm
    · intro htrim
      exact ⟨runs_reclocked hselect _ _ hmultiple, htrim.symm⟩

/-- A change that moves the MCLK, of which every step succeeds. -/
theorem reclock_moved (hselect : avbCodecSelectMclk board true call.rate s.codecMclkHz = some c)
    (hmoves : c.mclkHz ≠ s.codecMclkHz) (hdone : (call.reclock board s c).1 = true) :
    Runs board call.rate c.mclkHz (call.reclock board s c).2
      ∧ (call.reclock board s c).2.apllPpmQ16 = 0 := by
  obtain ⟨hmultiple, -, -⟩ := avbCodecSelectMclk_sound hselect
  have hrow := clockRowMissing_of_select hselect
  have hpark : decide (c.mclkHz ≠ s.codecMclkHz) = true := by simp [hmoves]
  unfold RateCall.reclock at hdone ⊢
  rw [hpark] at hdone ⊢
  rw [reclock_parked hrow hdone]
  exact ⟨runs_reclocked hselect _ _ hmultiple, rfl⟩

theorem keepsMclk_iff (hselect : avbCodecSelectMclk board true call.rate s.codecMclkHz = some c) :
    KeepsMclk board s call ↔ c.mclkHz = s.codecMclkHz := by
  rw [KeepsMclk, hselect, Option.map_some, Option.some.injEq]

/-- A change that keeps the MCLK and goes through. -/
theorem rateAtomic_kept_iff (hrate : call.rate ≠ s.defaultSampleRate) (hready : s.ready = true)
    (hselect : avbCodecSelectMclk board true call.rate s.codecMclkHz = some c)
    (hdone : (call.reclock board s c).1 = true) (hkeeps : c.mclkHz = s.codecMclkHz) :
    RateAtomic board s call ↔ FindsApllIntact board s call := by
  have hset : avbAudioSetRate board s call = (.ok, { s with
      hw := (call.reclock board s c).2
      defaultSampleRate := call.rate
      codecMclkHz := c.mclkHz
      listenerSampleRate := call.rate
      listenerByterate := call.rate * 2 * 4 }) := by
    simp only [avbAudioSetRate, if_neg hrate, hselect, hready, hdone, hkeeps, if_true,
      Bool.true_eq_false, if_false]
  have hkeepsMclk := (keepsMclk_iff hselect).mpr hkeeps
  constructor
  · intro h _ _ c' hc' _ _
    have hchanged := h.changed hrate (by rw [hset]) (Or.inl hkeepsMclk)
    rw [hset] at hchanged
    exact (reclock_kept_iff hselect hkeeps hdone).mp hchanged.2
  · intro h
    have hpark : decide (c.mclkHz ≠ s.codecMclkHz) = false := by simp [hkeeps]
    have hreclock := hdone
    unfold RateCall.reclock at hreclock
    rw [hpark] at hreclock
    have hpasses := (reclock_iff (clockRowMissing_of_select hselect)).mp hreclock
    have hintact := h hrate hready c hselect hkeeps hpasses
    constructor
    · intro herr
      rw [hset] at herr
      exact absurd rfl herr
    · rintro ⟨-, -, c', hc', hfailed, -⟩
      rw [hselect, Option.some.injEq] at hc'
      rw [← hc', hdone] at hfailed
      cases hfailed
    · intro _ _ _
      rw [hset]
      exact ⟨rfl, (reclock_kept_iff hselect hkeeps hdone).mpr hintact⟩

/-- A change that moves the MCLK and goes through. -/
theorem rateAtomic_moved (hrate : call.rate ≠ s.defaultSampleRate) (hready : s.ready = true)
    (hselect : avbCodecSelectMclk board true call.rate s.codecMclkHz = some c)
    (hdone : (call.reclock board s c).1 = true) (hmoves : c.mclkHz ≠ s.codecMclkHz) :
    RateAtomic board s call := by
  obtain ⟨-, hne, -⟩ := avbCodecSelectMclk_sound hselect
  obtain ⟨hruns, hppm⟩ := reclock_moved hselect hmoves hdone
  set changed : AudioState := { s with
    hw := (call.reclock board s c).2
    defaultSampleRate := call.rate
    codecMclkHz := c.mclkHz
    listenerSampleRate := call.rate
    listenerByterate := call.rate * 2 * 4
    pllNominalMclkHz := some c.mclkHz } with hchanged
  have hset : avbAudioSetRate board s call
      = (.ok, (changed.avbPllRestoreTrim call.trimAccepted).2) := by
    simp only [avbAudioSetRate, if_neg hrate, hselect, hready, hdone, hmoves, if_true,
      Bool.true_eq_false, if_false, AudioState.avbPllInit, if_neg hne, hchanged]
  constructor
  · intro herr
    rw [hset] at herr
    exact absurd rfl herr
  · rintro ⟨-, -, c', hc', hfailed, -⟩
    rw [hselect, Option.some.injEq] at hc'
    rw [← hc', hdone] at hfailed
    cases hfailed
  · intro _ _ htrim
    have haccepted : call.trimAccepted = true :=
      htrim.resolve_left fun hkeeps => hmoves ((keepsMclk_iff hselect).mp hkeeps)
    have hok : (changed.avbPllRestoreTrim call.trimAccepted).1 = true := by
      unfold AudioState.avbPllRestoreTrim
      split
      · rfl
      · have hnominal : changed.pllNominalMclkHz = some c.mclkHz := rfl
        rw [mclkHwTune_spec hnominal, if_pos haccepted]
    have hnominal : changed.pllNominalMclkHz = some c.mclkHz := rfl
    obtain ⟨hafter, htrimmed⟩ := restoreTrim_runs hnominal hruns hppm hok
    obtain ⟨hw, hfields⟩ := restoreTrim_fields (s := changed) call.trimAccepted
    rw [hset]
    rw [hfields] at hafter htrimmed ⊢
    exact ⟨rfl, hafter, htrimmed⟩

/-- A call is atomic just if, keeping the MCLK, it finds the APLL intact. -/
theorem rateAtomic_iff (hselected : MclkSelected board s) :
    RateAtomic board s call ↔ FindsApllIntact board s call := by
  by_cases hrate : call.rate = s.defaultSampleRate
  · have hset : avbAudioSetRate board s call = (.ok, s) := by
      rw [avbAudioSetRate, if_pos hrate]
    refine iff_of_true (rateAtomic_untouched (by rw [hset]) (fun _ => hrate) ?_) ?_
    · exact fun h => h.1 hrate
    · exact fun hne => absurd hrate hne
  cases hselect : avbCodecSelectMclk board true call.rate s.codecMclkHz with
  | none =>
      have hset : avbAudioSetRate board s call = (.notSupported, s) := by
        rw [avbAudioSetRate, if_neg hrate, hselect]
      refine iff_of_true (rateAtomic_untouched (by rw [hset]) ?_ ?_) ?_
      · rw [hset]
        rintro ⟨⟩
      · rintro ⟨-, -, c, hc, -⟩
        rw [hselect] at hc
        cases hc
      · intro _ _ c hc
        rw [hselect] at hc
        cases hc
  | some c =>
      cases hready : s.ready with
      | false =>
          have hset : avbAudioSetRate board s call = (.invalidState, s) := by
            simp only [avbAudioSetRate, if_neg hrate, hselect, hready, if_true]
          refine iff_of_true (rateAtomic_untouched (by rw [hset]) ?_ ?_) ?_
          · rw [hset]
            rintro ⟨⟩
          · rintro ⟨-, hon, -⟩
            rw [hready] at hon
            cases hon
          · intro _ hon
            rw [hready] at hon
            cases hon
      | true =>
          have hrow := clockRowMissing_of_select hselect
          cases hdone : (call.reclock board s c).1 with
          | false =>
              have hset : avbAudioSetRate board s call = (.fail,
                  (avbAudioRestore board { s with hw := (call.reclock board s c).2 } call).2) := by
                simp only [avbAudioSetRate, if_neg hrate, hselect, hready, hdone, if_true,
                  Bool.true_eq_false, if_false]
              refine iff_of_true (rateAtomic_failed hselected hset hselect) ?_
              intro _ _ c' hc' hkeeps hpasses
              rw [hselect, Option.some.injEq] at hc'
              subst hc'
              -- no step fails, so the change does not
              have hpark : decide (c.mclkHz ≠ s.codecMclkHz) = false := by simp [hkeeps]
              unfold RateCall.reclock at hdone
              rw [hpark, (reclock_iff hrow).mpr hpasses] at hdone
              cases hdone
          | true =>
              by_cases hkeeps : c.mclkHz = s.codecMclkHz
              · exact rateAtomic_kept_iff hrate hready hselect hdone hkeeps
              · refine iff_of_true (rateAtomic_moved hrate hready hselect hdone hkeeps) ?_
                intro _ _ c' hc' hkeeps'
                rw [hselect, Option.some.injEq] at hc'
                exact absurd (hc' ▸ hkeeps') hkeeps

end Atomic

/-! ### Runs -/

section Runs

variable {board : AudioBoard} {s : AudioState}

theorem MclkSelected.setRate (h : MclkSelected board s) (call : RateCall) :
    MclkSelected board (avbAudioSetRate board s call).2 := by
  unfold avbAudioSetRate
  split
  · exact h
  · split
    · exact h
    · rename_i c hselect
      have hagain : (avbCodecSelectMclk board true call.rate c.mclkHz).map AvbCodecMclk.mclkHz
          = some c.mclkHz := by
        rw [avbCodecSelectMclk_again hselect, Option.map_some]
      split
      · exact h
      · dsimp only
        split
        · obtain ⟨hw, nominal, hfields⟩ : ∃ hw nominal,
              (avbAudioRestore board { s with hw := (call.reclock board s c).2 } call).2
                = { s with hw, pllNominalMclkHz := nominal } := audioRestore_fields
          rw [hfields]
          exact h
        · split
          · exact hagain
          · split
            · obtain ⟨hw, hfields⟩ := restoreTrim_fields
                (s := ({ s with
                  hw := (call.reclock board s c).2
                  defaultSampleRate := call.rate
                  codecMclkHz := c.mclkHz
                  listenerSampleRate := call.rate
                  listenerByterate := call.rate * 2 * 4 }.avbPllInit c.mclkHz).2) call.trimAccepted
              rw [hfields]
              unfold AudioState.avbPllInit
              split <;> exact hagain
            · unfold AudioState.avbPllInit
              split <;> exact hagain

theorem MclkSelected.step (h : MclkSelected board s) (ev : RateEvent) :
    MclkSelected board (rateStep board s ev) := by
  cases ev with
  | setRate call => exact h.setRate call
  | trim ppmQ16 =>
      unfold rateStep AudioState.mclkHwTune
      dsimp only
      cases s.pllNominalMclkHz with
      | none => exact h
      | some nominal => exact h

/-- A candidate the plan check leaves is one the APLL derives. -/
theorem rejectReason_eq_none {caps : AvbCodecCaps} {derivable : Nat → Bool} {rate : Nat}
    {c : AvbCodecMclk} (hplan : clockCandidateRejectReason caps (fun _ => true) rate c = none)
    (hderivable : derivable c.mclkHz = true) :
    clockCandidateRejectReason caps derivable rate c = none := by
  unfold clockCandidateRejectReason at hplan ⊢
  dsimp only at hplan ⊢
  split_ifs at hplan ⊢
  all_goals simp_all

theorem mclkSelected_boot {rate : Nat} (h : rateBoot board rate = some s) :
    MclkSelected board s := by
  unfold rateBoot at h
  rw [Option.bind_eq_some_iff] at h
  obtain ⟨c, hselect, hboot⟩ := h
  split at hboot
  · rename_i hderivable
    cases hboot
    unfold avbCodecSelectMclk at hselect
    rw [Option.bind_eq_some_iff] at hselect
    obtain ⟨plan, hplan, hc⟩ := hselect
    have hfound := List.find?_some hplan
    have hrate : plan.sampleRateHz = rate := of_decide_eq_true hfound
    have hmem := List.mem_of_mem_filter (selectCandidate_mem hc)
    obtain ⟨-, -, -, hreason⟩ :=
      clockPlan_sound board.codec plan (List.mem_of_find?_eq_some hplan) c hmem
    rw [hrate] at hreason
    have husable := rejectReason_eq_none hreason hderivable
    unfold MclkSelected avbCodecSelectMclk
    dsimp only
    rw [hplan, Option.bind_some, selectCandidate_eq, Option.none_or]
    set usable : AvbCodecMclk → Bool := fun c =>
      !true || (clockCandidateRejectReason board.caps board.derivable rate c).isNone with husableDef
    have hfind : ((plan.candidates.filter usable).find? fun d => d.mclkHz = c.mclkHz).isSome := by
      rw [List.find?_isSome]
      refine ⟨c, List.mem_filter.mpr ⟨hmem, ?_⟩, by simp⟩
      simp only [husableDef, AudioBoard.caps, husable, Option.isNone_none, Bool.or_true]
    obtain ⟨d, hd⟩ := Option.isSome_iff_exists.mp hfind
    have hmclk := List.find?_some hd
    rw [decide_eq_true_eq] at hmclk
    rw [hd, Option.some_or, Option.map_some, hmclk]
  · cases hboot

/-- In a run every call is atomic just if every one that keeps the MCLK, and of which no step fails,
finds the APLL intact. -/
theorem audio_rate_atomic_iff {rate : Nat} {boot : AudioState}
    (hboot : rateBoot board rate = some boot) (events : List RateEvent) :
    RunMeets (fun s ev => ∀ call, ev = .setRate call → RateAtomic board s call) (rateStep board) boot
        events
      ↔ RunMeets (fun s ev => ∀ call, ev = .setRate call → FindsApllIntact board s call)
          (rateStep board) boot events := by
  refine RunMeets.iff_of_invariant (MclkSelected board) ?_ ?_ (mclkSelected_boot hboot) events
  · intro s ev hselected
    exact forall_congr' fun call => forall_congr' fun _ => rateAtomic_iff hselected
  · intro s ev _ hselected
    exact hselected.step ev

end Runs

def es8389Board : AudioBoard := ⟨.es8389, fun _ => true⟩

/-- From boot at 48 kHz to 96 kHz, on the MCLK that runs. -/
theorem audio_rate_atomic_iff_96k : ∃ boot, rateBoot es8389Board 48000 = some boot
    ∧ RunMeets (fun s ev => ∀ call, ev = .setRate call → RateAtomic es8389Board s call)
        (rateStep es8389Board) boot [.setRate ⟨96000, .good, .good, true⟩] := by
  have hboot : rateBoot es8389Board 48000 = some _ := rfl
  refine ⟨_, hboot, (audio_rate_atomic_iff hboot _).mpr ⟨?_, trivial⟩⟩
  rintro call ⟨⟩ - - c - - -
  unfold ApllIntact
  decide

/-- The codec refuses 44.1 kHz, and the restore stops between the park and the reclock. -/
def failedRestore : RateCall where
  rate := 44100
  change := ⟨true, fun step => if step = .setFs then some id else none⟩
  restore := ⟨true, fun step => if step = .txReclock then some id else none⟩
  trimAccepted := true

/-- The call after it keeps the MCLK and comes to an APLL without the trim, and says it is done. -/
theorem trim_lost_after_failed_restore : ∃ boot, rateBoot es8389Board 48000 = some boot
    ∧ ¬ RunMeets (fun s ev => ∀ call, ev = .setRate call → RateAtomic es8389Board s call)
        (rateStep es8389Board) boot
        [.trim 655360, .setRate failedRestore, .setRate ⟨96000, .good, .good, true⟩] := by
  refine ⟨_, rfl, ?_⟩
  rintro ⟨-, -, hlast, -⟩
  have hchanged := (hlast _ rfl).changed (by decide +kernel) (by decide +kernel) (Or.inr rfl)
  exact absurd hchanged.2.2 (by decide +kernel)

end EspAvb
