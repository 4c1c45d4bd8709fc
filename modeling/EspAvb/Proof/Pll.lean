import EspAvb.Pll

/-!
# The bounds of the media-clock servo

Of all the branches of a tick, only the slew tunes the hardware, and every branch that leaves the
correction at its target after a move begins a new measurement window. Each part of the tick is
shown to leave alone what it does not drive.
-/

namespace EspAvb

/-- What an observer of the effects knows: the correction the hardware last accepted, whether it has
stayed the same since the last window began, and whether every correction was aimed from a window
in which it had. -/
structure PllWatch where
  applied : Int
  steady : Bool
  sound : Bool

def PllWatch.see (w : PllWatch) : PllEffect → PllWatch
  | .tuned ppm => if ppm = w.applied then w else { w with applied := ppm, steady := false }
  | .baselined => { w with steady := true }
  | .retargeted _ _ => { w with sound := w.sound && w.steady }
  | .persisted _ _ => w

def pllWatch (effects : List PllEffect) : PllWatch := effects.foldl PllWatch.see ⟨0, false, true⟩

@[simp]
theorem pllWatch_append (effects : List PllEffect) (e : PllEffect) :
    pllWatch (effects ++ [e]) = (pllWatch effects).see e := by
  rw [pllWatch, List.foldl_append]
  rfl

variable {cfg : PllConfig} {env : PllEnv} {mode : PllMode} {s : PllSample} {st st' : PllState}

/-- The corrections are inside the clamp and known to the observer, who has seen nothing wrong. -/
structure PllState.Bounded (cfg : PllConfig) (st : PllState) : Prop where
  applied : |st.appliedPpmQ16| ≤ cfg.maxAppliedPpmQ16
  target : |st.targetPpmQ16| ≤ cfg.maxAppliedPpmQ16
  watched : (pllWatch st.effects).applied = st.appliedPpmQ16
  sound : (pllWatch st.effects).sound = true

/-- At its target, the correction has not moved since the window began. -/
def PllState.Steady (st : PllState) : Prop :=
  st.appliedPpmQ16 = st.targetPpmQ16 → (pllWatch st.effects).steady = true

structure PllState.Sane (cfg : PllConfig) (st : PllState) : Prop extends st.Bounded cfg where
  steady : st.valid = true → st.Steady

/-- The corrections and what the observer knows stay as they are. -/
structure PllFrame (st st' : PllState) : Prop where
  applied : st'.appliedPpmQ16 = st.appliedPpmQ16
  target : st'.targetPpmQ16 = st.targetPpmQ16
  watch : pllWatch st'.effects = pllWatch st.effects

theorem PllFrame.refl (st : PllState) : PllFrame st st := ⟨rfl, rfl, rfl⟩

theorem PllFrame.trans {st₁ : PllState} (h : PllFrame st st₁) (h' : PllFrame st₁ st') :
    PllFrame st st' :=
  ⟨h'.applied.trans h.applied, h'.target.trans h.target, h'.watch.trans h.watch⟩

theorem PllFrame.bounded (h : PllFrame st st') (hb : st.Bounded cfg) : st'.Bounded cfg where
  applied := by
    rw [h.applied]
    exact hb.applied
  target := by
    rw [h.target]
    exact hb.target
  watched := by
    rw [h.watch, h.applied]
    exact hb.watched
  sound := by
    rw [h.watch]
    exact hb.sound

theorem PllFrame.steady (h : PllFrame st st') (hs : st.Steady) : st'.Steady := by
  rw [PllState.Steady, h.applied, h.target, h.watch]
  exact hs

/-- A frame that ends or keeps the running window. -/
theorem PllFrame.sane (h : PllFrame st st') (hs : st.Sane cfg)
    (hvalid : st'.valid = true → st.valid = true) : st'.Sane cfg :=
  ⟨h.bounded hs.toBounded, fun hv => h.steady (hs.steady (hvalid hv))⟩

theorem abs_clampQ16_le {limit : Int} (h : 0 ≤ limit) (x : Int) : |clampQ16 limit x| ≤ limit := by
  rw [abs_le]
  simp only [clampQ16]
  split_ifs <;> omega

theorem PllConfig.maxApplied_nonneg (cfg : PllConfig) : 0 ≤ cfg.maxAppliedPpmQ16 := by
  simp only [maxAppliedPpmQ16, ppmQ16]
  omega

/-! ## Hardware -/

theorem mclkHwTune_false {coeffCalc : CoeffCalc} {ppm : Int}
    (h : mclkHwTune cfg coeffCalc ppm st = (st', false)) : st' = st := by
  simp only [mclkHwTune] at h
  split_ifs at h <;> simp_all

theorem mclkHwTune_true {coeffCalc : CoeffCalc} {ppm : Int}
    (h : mclkHwTune cfg coeffCalc ppm st = (st', true)) :
    ∃ hz, st' = { st with actualApllHz := hz, effects := st.effects ++ [.tuned ppm] } := by
  simp only [mclkHwTune] at h
  split_ifs at h
  all_goals simp only [Prod.mk.injEq, Bool.false_eq_true, and_false, and_true] at h
  · exact ⟨_, h.symm⟩
  · exact ⟨st.actualApllHz, h.symm⟩

/-! ## Windows -/

theorem baseline_bounded (bytes ns : Nat) (h : st.Bounded cfg) : (st.baseline bytes ns).Bounded cfg where
  applied := h.applied
  target := h.target
  watched := by
    simp only [PllState.baseline, pllWatch_append, PllWatch.see]
    exact h.watched
  sound := by
    simp only [PllState.baseline, pllWatch_append, PllWatch.see]
    exact h.sound

theorem baseline_steady (bytes ns : Nat) :
    (pllWatch (st.baseline bytes ns).effects).steady = true := by
  simp [PllState.baseline, PllWatch.see]

/-- A state that follows a baseline, with the target kept or put at the applied value. -/
theorem sane_of_baseline (h : st.Bounded cfg)
    (happlied : st'.appliedPpmQ16 = st.appliedPpmQ16)
    (htarget : st'.targetPpmQ16 = st.targetPpmQ16 ∨ st'.targetPpmQ16 = st.appliedPpmQ16)
    (heffects : st'.effects = st.effects ++ [.baselined]) : st'.Sane cfg := by
  have hb := baseline_bounded 0 0 h
  have hsteady := @baseline_steady st 0 0
  simp only [PllState.baseline, ← heffects] at hsteady
  refine ⟨⟨?_, ?_, ?_, ?_⟩, fun _ _ => hsteady⟩
  · rw [happlied]
    exact h.applied
  · rcases htarget with htarget | htarget
    · rw [htarget]
      exact h.target
    · rw [htarget]
      exact h.applied
  · rw [heffects, happlied]
    exact hb.watched
  · rw [heffects]
    exact hb.sound

theorem persistTrim_frame (env : PllEnv) (trim : Int) (st : PllState) :
    PllFrame st (persistTrim env trim st) ∧ (persistTrim env trim st).valid = st.valid := by
  simp only [persistTrim]
  split_ifs
  · exact ⟨PllFrame.refl st, rfl⟩
  · exact ⟨⟨rfl, rfl, by simp [PllWatch.see]⟩, rfl⟩

/-! ## The parts of a tick -/

/-- The part leaves the corrections alone, and does not revive a window. -/
structure PllKeeps (st st' : PllState) : Prop extends PllFrame st st' where
  valid : st'.valid = true → st.valid = true

theorem PllKeeps.sane (h : PllKeeps st st') (hs : st.Sane cfg) : st'.Sane cfg :=
  h.toPllFrame.sane hs h.valid

theorem pllAutoSource_keeps (env : PllEnv) (st : PllState) : PllKeeps st (pllAutoSource env st) := by
  simp only [pllAutoSource]
  split
  · exact ⟨PllFrame.refl st, id⟩
  · split_ifs <;> exact ⟨⟨rfl, rfl, rfl⟩, by simp⟩

theorem pllReferenceGate_keeps (env : PllEnv) (st : PllState) :
    PllKeeps st (pllReferenceGate env st).state := by
  simp only [pllReferenceGate]
  split_ifs <;> exact ⟨⟨rfl, rfl, rfl⟩, by simp [PllFlow.state]⟩

theorem readStreamRef_keeps (env : PllEnv) (st : PllState) : PllKeeps st (readStreamRef env st).1 := by
  simp only [readStreamRef]
  split
  · exact ⟨⟨rfl, rfl, rfl⟩, by simp⟩
  · split <;> exact ⟨PllFrame.refl st, id⟩

theorem readInternal_keeps (env : PllEnv) (st : PllState) : PllKeeps st (readInternal env st).1 := by
  simp only [readInternal]
  split
  · exact ⟨⟨rfl, rfl, rfl⟩, by simp⟩
  · exact ⟨⟨rfl, rfl, rfl⟩, id⟩

theorem readSample_keeps (env : PllEnv) (st : PllState) : PllKeeps st (readSample cfg env st).1 := by
  simp only [readSample]
  split
  · exact ⟨PllFrame.refl st, id⟩
  · split
    · exact ⟨PllFrame.refl st, id⟩
    · split
      · exact readStreamRef_keeps env st
      · exact readInternal_keeps env st

/-- Where a part of the control goes on, the corrections and the observer are as before; where it
returns, the state is sane. -/
def PllPart (cfg : PllConfig) (st : PllState) : PllFlow → Prop
  | .next st' => PllFrame st st'
  | .done st' => st'.Sane cfg ∧ st'.appliedPpmQ16 = st.appliedPpmQ16

theorem pllSeed_part (bytes ns : Nat) (h : st.Bounded cfg) :
    PllPart cfg st (pllSeed env mode bytes ns st) := by
  simp only [pllSeed]
  split
  · exact ⟨sane_of_baseline h rfl (Or.inl rfl) rfl, rfl⟩
  · split
    · exact ⟨sane_of_baseline h rfl (Or.inr rfl) rfl, rfl⟩
    · split
      · exact ⟨sane_of_baseline h rfl (Or.inl rfl) rfl, rfl⟩
      · exact PllFrame.refl st

/-- The control runs only inside a running window. -/
theorem pllSeed_next {bytes ns : Nat} (h : pllSeed env mode bytes ns st = .next st') :
    st' = st ∧ st.valid = true := by
  simp only [pllSeed] at h
  by_cases hvalid : st.valid = true
  · rw [if_neg (by simpa using hvalid)] at h
    split at h
    · exact PllFlow.noConfusion h
    · split at h
      · exact PllFlow.noConfusion h
      · exact ⟨(PllFlow.next.inj h).symm, hvalid⟩
  · rw [if_pos hvalid] at h
    exact PllFlow.noConfusion h

theorem pllHoldBreaker_part (h : st.Bounded cfg) : PllPart cfg st (pllHoldBreaker env mode s st) := by
  simp only [pllHoldBreaker]
  split
  · exact PllFrame.refl st
  · split
    · exact ⟨rfl, rfl, rfl⟩
    · split
      · exact ⟨rfl, rfl, rfl⟩
      · split
        · exact ⟨sane_of_baseline h rfl (Or.inl rfl) rfl, rfl⟩
        · exact ⟨rfl, rfl, rfl⟩

theorem pllSanity_part (h : st.Bounded cfg) : PllPart cfg st (pllSanity cfg env mode s st) := by
  rw [pllSanity]
  split
  · exact ⟨sane_of_baseline h rfl (Or.inr rfl) rfl, rfl⟩
  · exact PllFrame.refl st

/-! ## The slew -/

/-- One tick moves the applied correction toward its target, within the bounds of a step. -/
structure SlewBounded (applied target applied' : Int) : Prop where
  far : |applied' - applied| ≤ avbPllSlewFarPpmQ16
  near : |target - applied| ≤ avbPllSlewFarThresholdPpmQ16 → |applied' - applied| ≤ avbPllSlewMaxPpmQ16
  between : (applied ≤ applied' ∧ applied' ≤ target) ∨ (target ≤ applied' ∧ applied' ≤ applied)

theorem SlewBounded.rest (applied target : Int) : SlewBounded applied target applied := by
  refine ⟨?_, ?_, ?_⟩
  · simp [avbPllSlewFarPpmQ16, ppmQ16]
  · simp [avbPllSlewMaxPpmQ16, ppmQ16]
  · omega

theorem slewBounded_step (applied target : Int) :
    SlewBounded applied target (applied + slewStepQ16 target applied) := by
  refine ⟨?_, ?_, ?_⟩
  · rw [add_sub_cancel_left, abs_le]
    simp only [slewStepQ16, clampQ16, avbPllSlewFarPpmQ16, avbPllSlewMaxPpmQ16,
      avbPllSlewFarThresholdPpmQ16, ppmQ16]
    split_ifs <;> omega
  · intro hnear
    rw [abs_le] at hnear
    rw [add_sub_cancel_left, abs_le]
    simp only [slewStepQ16, clampQ16, avbPllSlewFarPpmQ16, avbPllSlewMaxPpmQ16,
      avbPllSlewFarThresholdPpmQ16, ppmQ16] at hnear ⊢
    split_ifs <;> omega
  · simp only [slewStepQ16, clampQ16, avbPllSlewFarPpmQ16, avbPllSlewMaxPpmQ16,
      avbPllSlewFarThresholdPpmQ16, ppmQ16]
    split_ifs <;> omega

theorem SlewBounded.clamped {applied target applied' limit : Int}
    (h : SlewBounded applied target applied') (happlied : |applied| ≤ limit)
    (htarget : |target| ≤ limit) : |applied'| ≤ limit := by
  rw [abs_le] at *
  rcases h.between with h | h <;> omega

/-- The landing keeps the corrections and begins a window. -/
theorem pllLanded_sane (h : st.Bounded cfg) :
    (pllLanded env mode s st).Sane cfg ∧
      (pllLanded env mode s st).appliedPpmQ16 = st.appliedPpmQ16 := by
  have hbase : ({ st.baseline s.bytes s.ns with
      nextCorrectionUs := env.nowUs + mode.intervalUs } : PllState).Sane cfg :=
    sane_of_baseline h rfl (Or.inl rfl) rfl
  simp only [pllLanded]
  split
  · obtain ⟨hframe, hvalid⟩ := persistTrim_frame env st.appliedPpmQ16
      { st.baseline s.bytes s.ns with nextCorrectionUs := env.nowUs + mode.intervalUs }
    have hsane := hframe.sane hbase (by rw [hvalid]; exact id)
    exact ⟨⟨⟨hsane.applied, hsane.target, hsane.watched, hsane.sound⟩, hsane.steady⟩, hframe.applied⟩
  · exact ⟨⟨⟨hbase.applied, hbase.target, hbase.watched, hbase.sound⟩, hbase.steady⟩, rfl⟩

/-- The slew goes on only from a correction at rest, and otherwise takes one bounded step. -/
def SlewPart (cfg : PllConfig) (st : PllState) : PllFlow → Prop
  | .next st' => st' = st ∧ st.appliedPpmQ16 = st.targetPpmQ16
  | .done st' =>
      st'.Sane cfg ∧ SlewBounded st.appliedPpmQ16 st.targetPpmQ16 st'.appliedPpmQ16

theorem pllSlewTo_part {slewed : Int} (h : st.Bounded cfg)
    (hmoving : st.appliedPpmQ16 ≠ st.targetPpmQ16)
    (hslewed : SlewBounded st.appliedPpmQ16 st.targetPpmQ16 slewed) :
    SlewPart cfg st (pllSlewTo cfg env mode s slewed st) := by
  rw [pllSlewTo]
  split
  · rename_i st₁ htune
    rw [mclkHwTune_false htune]
    exact ⟨⟨h, fun _ heq => absurd heq hmoving⟩, SlewBounded.rest _ _⟩
  · rename_i st₁ htune
    obtain ⟨hz, rfl⟩ := mclkHwTune_true htune
    have hbounded : ({ st with
        actualApllHz := hz
        effects := st.effects ++ [.tuned slewed]
        appliedPpmQ16 := slewed } : PllState).Bounded cfg := by
      refine ⟨hslewed.clamped h.applied h.target, h.target, ?_, ?_⟩
      · simp only [pllWatch_append, PllWatch.see]
        split_ifs with heq
        · exact heq.symm
        · rfl
      · simp only [pllWatch_append, PllWatch.see]
        split_ifs
        · exact h.sound
        · exact h.sound
    simp only [SlewPart]
    split
    · obtain ⟨hsane, happlied⟩ := @pllLanded_sane cfg env mode s _ hbounded
      refine ⟨hsane, ?_⟩
      rw [happlied]
      exact hslewed
    · rename_i hshort
      exact ⟨⟨hbounded, fun _ heq => absurd heq hshort⟩, hslewed⟩

theorem pllSlew_part (h : st.Bounded cfg) : SlewPart cfg st (pllSlew cfg env mode s st) := by
  rw [pllSlew]
  split
  · exact ⟨rfl, ‹_›⟩
  · rename_i hmoving
    dsimp only
    split
    · exact ⟨sane_of_baseline h rfl (Or.inr rfl) rfl, SlewBounded.rest _ _⟩
    · have hstart : ({ st with
          slewCrossedTicks := if slewCrossed mode s st.targetPpmQ16 st.appliedPpmQ16 then
            st.slewCrossedTicks + 1 else 0 } : PllState).Bounded cfg :=
        ⟨h.applied, h.target, h.watched, h.sound⟩
      have hpart := @pllSlewTo_part cfg env mode s _ _ hstart hmoving
        (slewBounded_step st.appliedPpmQ16 st.targetPpmQ16)
      -- the part never goes on, and the count of crossings is no correction
      revert hpart
      cases pllSlewTo cfg env mode s _ _ with
      | done st' => exact id
      | next st' => exact fun hpart => absurd hpart.2 hmoving

/-! ## A new target -/

/-- A part that starts at rest in a running window aims the correction or leaves it. -/
structure PllAims (cfg : PllConfig) (st st' : PllState) : Prop where
  bounded : st'.Bounded cfg
  applied : st'.appliedPpmQ16 = st.appliedPpmQ16
  steady : (pllWatch st'.effects).steady = true

theorem PllAims.sane (h : PllAims cfg st st') : st'.Sane cfg := ⟨h.bounded, fun _ _ => h.steady⟩

theorem PllFrame.aims (h : PllFrame st st') (hb : st.Bounded cfg)
    (hs : (pllWatch st.effects).steady = true) : PllAims cfg st st' :=
  ⟨h.bounded hb, h.applied, by rw [h.watch]; exact hs⟩

theorem PllAims.trans {st₁ : PllState} (h : PllAims cfg st st₁) (h' : PllAims cfg st₁ st') :
    PllAims cfg st st' :=
  ⟨h'.bounded, h'.applied.trans h.applied, h'.steady⟩

theorem pllAdcWindow_frame (env : PllEnv) (fresh : Bool) (st : PllState) :
    PllFrame st (pllAdcWindow env fresh st) := by
  simp only [pllAdcWindow]
  split_ifs <;> exact ⟨rfl, rfl, rfl⟩

theorem pllAdcOver_aims (mean : Int) (hb : st.Bounded cfg)
    (hs : (pllWatch st.effects).steady = true) :
    PllAims cfg st (pllAdcOver cfg env mean st).state := by
  rw [pllAdcOver]
  split
  · exact ⟨⟨hb.applied, abs_clampQ16_le cfg.maxApplied_nonneg _, hb.watched, hb.sound⟩, rfl, hs⟩
  · exact ⟨⟨hb.applied, hb.target, hb.watched, hb.sound⟩, rfl, hs⟩

theorem pllAdcRefine_aims (hb : st.Bounded cfg) (hs : (pllWatch st.effects).steady = true) :
    PllAims cfg st (pllAdcRefine cfg env mode st).state := by
  rw [pllAdcRefine]
  split
  · exact (PllFrame.refl st).aims hb hs
  · have hwindow := (pllAdcWindow_frame env (pllAdcFresh env) st).aims hb hs
    dsimp only
    split
    · exact hwindow.trans (pllAdcOver_aims _ hwindow.bounded hwindow.steady)
    · exact hwindow

theorem pllConverge_frame (env : PllEnv) (mode : PllMode) (s : PllSample) (st : PllState) :
    PllFrame st (pllConverge env mode s st) := by
  simp only [pllConverge]
  split_ifs <;> exact ⟨rfl, rfl, rfl⟩

theorem pllCorrect_aims (hb : st.Bounded cfg) (hs : (pllWatch st.effects).steady = true) :
    PllAims cfg st (pllCorrect cfg env mode s st) := by
  rw [pllCorrect]
  split
  · refine ⟨⟨hb.applied, abs_clampQ16_le cfg.maxApplied_nonneg _, ?_, ?_⟩, rfl, ?_⟩
    · simp only [pllWatch_append, PllWatch.see]
      exact hb.watched
    · simp only [pllWatch_append, PllWatch.see, hs, Bool.and_true]
      exact hb.sound
    · simp only [pllWatch_append, PllWatch.see]
      exact hs
  · exact (PllFrame.refl st).aims hb hs

theorem pllTrimCheck_frame (env : PllEnv) (mode : PllMode) (s : PllSample) (st : PllState) :
    PllFrame st (pllTrimCheck env mode s st) := by
  have hchecked : ∀ hold, PllFrame st (st.trimChecked env hold) := fun _ => ⟨rfl, rfl, rfl⟩
  rw [pllTrimCheck]
  split
  · split
    · exact (hchecked _).trans (persistTrim_frame env st.appliedPpmQ16 _).1
    · exact hchecked _
  · exact PllFrame.refl st

/-! ## The whole tick -/

/-- One call: sane states stay sane, and the correction takes at most a step toward its target. -/
structure PllMoves (cfg : PllConfig) (st st' : PllState) : Prop where
  sane : st'.Sane cfg
  slew : SlewBounded st.appliedPpmQ16 st.targetPpmQ16 st'.appliedPpmQ16

theorem PllMoves.rest (h : st'.Sane cfg) (happlied : st'.appliedPpmQ16 = st.appliedPpmQ16) :
    PllMoves cfg st st' :=
  ⟨h, by rw [happlied]; exact SlewBounded.rest _ _⟩

theorem PllMoves.of_frame {st₁ : PllState} (hframe : PllFrame st st₁) (h : PllMoves cfg st₁ st') :
    PllMoves cfg st st' :=
  ⟨h.sane, by rw [← hframe.applied, ← hframe.target]; exact h.slew⟩

/-- A part, and after it whatever follows where it goes on. -/
theorem PllPart.andThen {flow : PllFlow} {f : PllState → PllState} (hpart : PllPart cfg st flow)
    (hnext : ∀ st', PllFrame st st' → PllMoves cfg st' (f st')) :
    PllMoves cfg st (flow.andThen f) := by
  cases flow with
  | done st' => exact PllMoves.rest hpart.1 hpart.2
  | next st' => exact PllMoves.of_frame hpart (hnext st' hpart)

/-- The end of a tick that found the correction at rest. -/
theorem pllRest_aims (hb : st.Bounded cfg) (hs : (pllWatch st.effects).steady = true) :
    PllAims cfg st (pllTrimCheck env mode s (pllCorrect cfg env mode s (pllConverge env mode s st))) := by
  have hheld := (pllConverge_frame env mode s st).aims hb hs
  have haimed := hheld.trans (@pllCorrect_aims cfg env mode s _ hheld.bounded hheld.steady)
  exact haimed.trans ((pllTrimCheck_frame env mode s _).aims haimed.bounded haimed.steady)

theorem pllAdc_aims (hb : st.Bounded cfg) (hs : (pllWatch st.effects).steady = true) :
    PllAims cfg st ((pllAdcRefine cfg env mode st).andThen fun st =>
      pllTrimCheck env mode s (pllCorrect cfg env mode s (pllConverge env mode s st))) := by
  have hadc := @pllAdcRefine_aims cfg env mode st hb hs
  generalize pllAdcRefine cfg env mode st = flow at hadc ⊢
  cases flow with
  | done st' => exact hadc
  | next st' => exact PllAims.trans hadc (pllRest_aims hadc.bounded hadc.steady)

theorem pllSlew_moves (hb : st.Bounded cfg) (hs : st.Steady) :
    PllMoves cfg st ((pllSlew cfg env mode s st).andThen fun st =>
      (pllAdcRefine cfg env mode st).andThen fun st =>
        pllTrimCheck env mode s (pllCorrect cfg env mode s (pllConverge env mode s st))) := by
  have hslew := @pllSlew_part cfg env mode s st hb
  generalize pllSlew cfg env mode s st = flow at hslew ⊢
  cases flow with
  | done st' => exact ⟨hslew.1, hslew.2⟩
  | next st' =>
      obtain ⟨rfl, hrest⟩ := hslew
      have hadc := @pllAdc_aims cfg env mode s _ hb (hs hrest)
      exact PllMoves.rest hadc.sane hadc.applied

theorem pllControl_moves (hb : st.Bounded cfg) (hs : st.Steady) :
    PllMoves cfg st (pllControl cfg env mode s st) := by
  have hmeasured : PllFrame st (st.measured s) := ⟨rfl, rfl, rfl⟩
  rw [pllControl]
  refine PllMoves.of_frame hmeasured ?_
  refine (pllHoldBreaker_part (hmeasured.bounded hb)).andThen fun st₁ hbreaker => ?_
  have hframe := hmeasured.trans hbreaker
  refine (pllSanity_part (hframe.bounded hb)).andThen fun st₂ hsanity => ?_
  have hfinal := hframe.trans hsanity
  exact pllSlew_moves (hfinal.bounded hb) (hfinal.steady hs)

/-- On a sample, with the mode of the tick. -/
theorem pllSampled_moves {bytes ns : Nat} (h : st.Sane cfg) :
    PllMoves cfg st ((pllSeed env mode bytes ns st).andThen fun st =>
      pllControl cfg env mode (pllMeasure env bytes ns st) st) := by
  have hseed := @pllSeed_part cfg env mode st bytes ns h.toBounded
  generalize hflow : pllSeed env mode bytes ns st = flow at hseed ⊢
  cases flow with
  | done st' => exact PllMoves.rest hseed.1 hseed.2
  | next st' =>
      obtain ⟨rfl, hvalid⟩ := pllSeed_next hflow
      rw [PllFlow.andThen]
      exact pllControl_moves h.toBounded (h.steady hvalid)

theorem PllKeeps.trans {st₁ : PllState} (h : PllKeeps st st₁) (h' : PllKeeps st₁ st') :
    PllKeeps st st' :=
  ⟨h.toPllFrame.trans h'.toPllFrame, fun hv => h.valid (h'.valid hv)⟩

theorem PllKeeps.rest (h : PllKeeps st st') (hs : st.Sane cfg) : PllMoves cfg st st' :=
  PllMoves.rest (h.sane hs) h.applied

theorem pllRead_moves (sample : Option (Nat × Nat)) (h : st.Sane cfg) :
    PllMoves cfg st (pllRead cfg env mode st sample) := by
  have hdropped : PllKeeps st { st with valid := false } := ⟨⟨rfl, rfl, rfl⟩, by simp⟩
  cases sample with
  | none => exact hdropped.rest h
  | some pair =>
      simp only [pllRead]
      split
      · exact hdropped.rest h
      · exact pllSampled_moves h

theorem pllDue_keeps (env : PllEnv) (st : PllState) : PllKeeps st (pllDue cfg env st) := by
  have hprint : PllKeeps st { st with nextPrintUs := env.nowUs + avbPllTickUs } :=
    ⟨⟨rfl, rfl, rfl⟩, id⟩
  rw [pllDue]
  split
  · exact hprint.trans (pllAutoSource_keeps env _)
  · exact hprint

theorem avbPllTick_moves (env : PllEnv) (h : st.Sane cfg) :
    PllMoves cfg st (avbPllTick cfg env st) := by
  rw [avbPllTick]
  split
  · exact PllMoves.rest h rfl
  · have hgate := (@pllDue_keeps cfg env st).trans (pllReferenceGate_keeps env (pllDue cfg env st))
    generalize pllReferenceGate env (pllDue cfg env st) = flow at hgate ⊢
    cases flow with
    | done st' => exact hgate.rest h
    | next st' =>
        have hread := PllKeeps.trans hgate (@readSample_keeps cfg env st')
        exact PllMoves.of_frame hread.toPllFrame (pllRead_moves _ (hread.sane h))

/-! ## Runs -/

theorem mclkHwInit_keeps (nominalMclkHz : Nat) (st : PllState) :
    PllKeeps st (mclkHwInit cfg nominalMclkHz st).1 := by
  simp only [mclkHwInit]
  split_ifs <;> exact ⟨⟨rfl, rfl, rfl⟩, id⟩

theorem avbPllInit_keeps (nominalMclkHz : Nat) (st : PllState) :
    PllKeeps st (avbPllInit cfg nominalMclkHz st) := by
  have hreset : PllKeeps st { st with
      valid := false, nextPrintUs := 0, nextCorrectionUs := 0, integratorPpmQ16 := 0 } :=
    ⟨⟨rfl, rfl, rfl⟩, by simp⟩
  exact hreset.trans (mclkHwInit_keeps nominalMclkHz _)

theorem avbPllInit_valid (nominalMclkHz : Nat) (st : PllState) :
    (avbPllInit cfg nominalMclkHz st).valid = false := by
  simp only [avbPllInit, mclkHwInit]
  split_ifs <;> rfl

/-- Tuning the value the observer has seen last tells it nothing new. -/
theorem avbPllRestoreTrim_keeps (coeffCalc : CoeffCalc) (h : st.Bounded cfg) :
    PllKeeps st (avbPllRestoreTrim cfg coeffCalc st) := by
  rw [avbPllRestoreTrim]
  split
  · exact ⟨PllFrame.refl st, id⟩
  · cases htune : mclkHwTune cfg coeffCalc st.appliedPpmQ16 st with
    | mk st' accepted =>
        cases accepted with
        | false =>
            rw [mclkHwTune_false htune]
            exact ⟨PllFrame.refl st, id⟩
        | true =>
            obtain ⟨hz, rfl⟩ := mclkHwTune_true htune
            refine ⟨⟨rfl, rfl, ?_⟩, id⟩
            rw [pllWatch_append, PllWatch.see, if_pos h.watched.symm]

theorem pllStep_moves (e : PllEvent) (h : st.Sane cfg) : PllMoves cfg st (pllStep cfg st e) := by
  cases e with
  | tick env => exact avbPllTick_moves env h
  | restore coeffCalc => exact (avbPllRestoreTrim_keeps coeffCalc h.toBounded).rest h
  | reseed => exact PllKeeps.rest ⟨⟨rfl, rfl, rfl⟩, by simp [pllStep, avbPllReseed]⟩ h
  | init nominalMclkHz => exact (avbPllInit_keeps nominalMclkHz st).rest h
  | deinit => exact PllKeeps.rest ⟨⟨rfl, rfl, rfl⟩, by simp [pllStep, avbPllDeinit]⟩ h
  | select source => exact PllKeeps.rest ⟨⟨rfl, rfl, rfl⟩, id⟩ h

theorem run_sane (events : List PllEvent) (h : st.Sane cfg) :
    (Machine.run (pllStep cfg) st events).Sane cfg :=
  Machine.run_invariant (PllState.Sane cfg) (fun _ e h => (pllStep_moves e h).sane) h events

/-- The preload, whatever value it is given. -/
theorem avbPllPreloadTrim_sane (coeffCalc : CoeffCalc) (trim : Int) (h : st.Sane cfg)
    (hvalid : st.valid = false) : (avbPllPreloadTrim cfg coeffCalc trim st).Sane cfg := by
  have hclamped := abs_clampQ16_le cfg.maxApplied_nonneg trim
  simp only [avbPllPreloadTrim]
  generalize clampQ16 cfg.maxAppliedPpmQ16 trim = value at hclamped ⊢
  cases htune : mclkHwTune cfg coeffCalc value st with
  | mk st' accepted =>
      cases accepted with
      | false =>
          rw [mclkHwTune_false htune]
          exact h
      | true =>
          obtain ⟨hz, rfl⟩ := mclkHwTune_true htune
          refine ⟨⟨hclamped, hclamped, ?_, ?_⟩, by simp [hvalid]⟩
          all_goals simp only [pllWatch_append, PllWatch.see]
          · split_ifs with heq
            · exact heq.symm
            · rfl
          · split_ifs
            · exact h.sound
            · exact h.sound

theorem pllStart_sane (source : ClockSource) (trimBtcId : UniqueId) (convergedTrim : Int)
    (nominalMclkHz : Nat) (preload : Option (CoeffCalc × Int)) :
    (pllStart cfg source trimBtcId convergedTrim nominalMclkHz preload).Sane cfg := by
  have hboot : ({ PllState.boot with
      activeClockSource := source
      trimBtcId := trimBtcId
      convergedTrimQ16 := convergedTrim } : PllState).Sane cfg := by
    have hzero : |(0 : Int)| ≤ cfg.maxAppliedPpmQ16 := by simpa using cfg.maxApplied_nonneg
    exact ⟨⟨hzero, hzero, rfl, rfl⟩, nofun⟩
  have hinit := (@avbPllInit_keeps cfg nominalMclkHz _).sane hboot
  cases preload with
  | none => exact hinit
  | some p =>
      exact avbPllPreloadTrim_sane p.1 p.2 hinit (avbPllInit_valid nominalMclkHz _)

/-- In every run, whatever the clocks, the samples and the hardware do: the applied correction and
its target stay inside the clamp, a tick moves the one toward the other by a bounded step, the
applied correction is the one the hardware last accepted, and every target computed from a window
was computed from one during which the correction did not move. -/
theorem avb_pll_bounds (cfg : PllConfig) (source : ClockSource) (trimBtcId : UniqueId)
    (convergedTrim : Int) (nominalMclkHz : Nat) (preload : Option (CoeffCalc × Int))
    (events : List PllEvent) :
    let st := Machine.run (pllStep cfg)
      (pllStart cfg source trimBtcId convergedTrim nominalMclkHz preload) events
    |st.appliedPpmQ16| ≤ cfg.maxAppliedPpmQ16 ∧ |st.targetPpmQ16| ≤ cfg.maxAppliedPpmQ16 ∧
      (∀ env, SlewBounded st.appliedPpmQ16 st.targetPpmQ16 (avbPllTick cfg env st).appliedPpmQ16) ∧
      st.appliedPpmQ16 = (pllWatch st.effects).applied ∧ (pllWatch st.effects).sound = true := by
  intro st
  have hsane : st.Sane cfg :=
    run_sane events (pllStart_sane source trimBtcId convergedTrim nominalMclkHz preload)
  exact ⟨hsane.applied, hsane.target, fun env => (avbPllTick_moves env hsane).slew,
    hsane.watched.symm, hsane.sound⟩

end EspAvb
