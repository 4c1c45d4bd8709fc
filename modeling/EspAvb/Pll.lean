import EspAvb.Lib.Machine
import EspAvb.Msrp

/-!
# The media-clock servo

`avbpll.c`: one tick of the servo measures the local media clock against a reference, walks the
applied correction to its target in bounded steps, and holds the trim of the internal reference once
it has converged. Corrections are ppm in Q16. What only the log shows (the rail telemetry, the retry
counters) is left out.
-/

namespace EspAvb

/-- One ppm in Q16. -/
def ppmQ16 : Int := 65536

def i32 (x : Int) : Int := x.bmod (2 ^ 32)
def i64 (x : Int) : Int := x.bmod (2 ^ 64)
/-- The difference of two 64-bit counters. -/
def subU64 (a b : Nat) : Nat := (a + 2 ^ 64 - b % 2 ^ 64) % 2 ^ 64

def avbPllFallbackByterate : Nat := 288000
def avbPllCorrectionDeadbandQ16 : Int := ppmQ16 / 2
def avbPllGainQ16 : Int := 65536 / 2
def avbPllIGainQ16 : Int := 65536 / 32
def avbPllMaxIntegratorPpmQ16 : Int := 50 * ppmQ16
def avbPllMaxRatePpmPerSec : Int := 1
def avbPllSlewMaxPpmQ16 : Int := ppmQ16 / 2
def avbPllSlewFarPpmQ16 : Int := 4 * ppmQ16
def avbPllSlewFarThresholdPpmQ16 : Int := 10 * ppmQ16
def avbPllCumulSanityLimitPpmQ16 : Int := 500 * ppmQ16
def avbPllHoldBreakPpmQ16 : Int := 30 * ppmQ16
def avbPllHoldBreakWindowTicks : Nat := 12
def avbPllHoldBreakWindows : Nat := 3
def avbPllAdcRefineMinPpmQ16 : Int := ppmQ16
def avbPllAdcRefineWindowUs : Int := 2 * 60 * 1000000
def avbPllAdcRefineSettleUs : Int := 3 * 60 * 1000000
def avbPllAdcRefineMaxPpmQ16 : Int := 5 * ppmQ16
def avbPllAdcStaleMs : Int := 15000
def avbPllConvergedPpmQ16 : Int := 8 * ppmQ16
def avbPllInternalAcquireCapUs : Int := 45 * 60 * 1000000
def avbPllStartupSkipTicks : Nat := 3
def avbPllCrfAnchorStaleNs : Nat := 1000 * 1000000
def avbPllTickUs : Int := 5 * 1000 * 1000
def avbPllTrimCheckUs : Int := 600 * 1000000

/-- Build options. `apll` says whether the chip has an audio PLL to tune. -/
structure PllConfig where
  apll : Bool
  apllMinHz : Nat
  maxPpm : Nat
  correctionIntervalS : Nat
  autoCrfClockSource : Bool
  streamClockRecovery : Bool

def PllConfig.maxAppliedPpmQ16 (cfg : PllConfig) : Int := cfg.maxPpm * ppmQ16
def PllConfig.correctionIntervalUs (cfg : PllConfig) : Int := cfg.correctionIntervalS * 1000000
def PllConfig.maxStepPpmQ16 (cfg : PllConfig) : Int :=
  avbPllMaxRatePpmPerSec * cfg.correctionIntervalS * ppmQ16

/-- `AVB_CLOCK_SOURCE_INTERNAL` and `AVB_CLOCK_SOURCE_CRF_INPUT` -/
inductive ClockSource where
  | internal | crfInput
  deriving DecidableEq, Repr

/-- What the servo did, in order. `baselined` begins a measurement window, `retargeted` aims the
correction by the cumulative error of the window. -/
inductive PllEffect where
  | tuned (ppmQ16 : Int)
  | baselined
  | retargeted (cumulQ16 targetQ16 : Int)
  | persisted (trimQ16 : Int) (btc : UniqueId)
  deriving DecidableEq

/-- `s_pll`, `s_hw` and the servo's part of `media_clock`. -/
structure PllState where
  valid : Bool
  startupSkippedTicks : Nat
  baseBytes : Nat
  baseNs : Nat
  prevBytes : Nat
  prevNs : Nat
  nextPrintUs : Int
  nextCorrectionUs : Int
  integratorPpmQ16 : Int
  sensorWasDac : Bool
  internalRefWasValid : Bool
  slewCrossedTicks : Nat
  lastTrimCheckUs : Int
  lastTrimCheckValueQ16 : Int
  internalHold : Bool
  internalCorrectingSinceUs : Int
  trimPreloaded : Bool
  holdWinBytes : Nat
  holdWinNs : Nat
  holdWinTicks : Nat
  holdBeyondWindows : Nat
  holdBeyondSign : Int
  holdBtcId : UniqueId
  holdBtcKnown : Bool
  streamRefWasActive : Bool
  streamRefEpochSeen : Nat
  streamRefPhase : Bool
  adcWindowStartUs : Int
  adcLastUs : Int
  adcSumQ16 : Int
  adcSamples : Nat
  adcRefineLanding : Bool
  appliedPpmQ16 : Int
  targetPpmQ16 : Int
  lastPpmErrorQ16 : Int
  cumulativePpmErrorQ16 : Int
  activeClockSource : ClockSource
  mediaResetCount : Nat
  convergedTrimQ16 : Int
  trimBtcId : UniqueId
  hwInitialised : Bool
  nominalApllHz : Nat
  actualApllHz : Nat
  effects : List PllEffect

/-- `rtc_clk_apll_coeff_calc`: the frequency the coefficients for a target give, zero when there are
none. -/
abbrev CoeffCalc := Nat → Nat

/-- What one tick reads: the clocks, the samples of every reference, the streams' state. -/
structure PllEnv where
  nowUs : Int
  gptpNs : Option Nat
  crfAnchor : Option (Nat × Nat)
  clockSourceValid : Bool
  btcId : UniqueId
  streamInActive : Bool
  crfStreamValid : Bool
  streamRefHeld : Bool
  streamPhase : Option (Nat × Nat)
  streamPhaseEpoch : Nat
  streamRefEpoch : Nat
  streamAnchor : Option (Nat × Nat)
  /-- gPTP time with the byte counter of the DAC, or of the ADC, read next to it. -/
  pair : Bool → Option (Nat × Nat)
  listenerByterate : Nat
  adcErrorStampMs : Nat
  adcErrorPpmQ8 : Int
  coeffCalc : CoeffCalc

variable (cfg : PllConfig)

/-! ## Hardware -/

/-- `mclk_hw_init`; false where it fails. -/
def mclkHwInit (nominalMclkHz : Nat) (st : PllState) : PllState × Bool :=
  if cfg.apll then
    if nominalMclkHz = 0 then (st, false)
    else
      let mclkDiv := max 2 (cfg.apllMinHz / nominalMclkHz + 1)
      let nominal := nominalMclkHz * mclkDiv % 2 ^ 32
      ({ st with hwInitialised := true, nominalApllHz := nominal, actualApllHz := nominal }, true)
  else ({ st with hwInitialised := true }, true)

/-- `mclk_hw_tune_ppm_q16`; false where the hardware rejects the correction. -/
def mclkHwTune (coeffCalc : CoeffCalc) (ppm : Int) (st : PllState) : PllState × Bool :=
  if ¬ st.hwInitialised then (st, false)
  else if cfg.apll then
    let deltaHz := (st.nominalApllHz * ppm).tdiv (1000000 * ppmQ16)
    let targetHz := st.nominalApllHz + deltaHz
    if targetHz ≤ 0 then (st, false)
    else
      let realHz := coeffCalc (targetHz.toNat % 2 ^ 32)
      if realHz = 0 then (st, false)
      else ({ st with actualApllHz := realHz, effects := st.effects ++ [.tuned ppm] }, true)
  else ({ st with effects := st.effects ++ [.tuned ppm] }, true)

/-! ## Samples -/

/-- `stream_ref_active`, with `stream_ref_hold` and `avb_crf_stream_valid` as read. -/
def streamRefActive (env : PllEnv) (st : PllState) : Bool :=
  cfg.streamClockRecovery && env.streamInActive && st.activeClockSource = .internal &&
    !env.crfStreamValid && !env.streamRefHeld

def byterateOf (env : PllEnv) : Nat :=
  if env.listenerByterate = 0 then avbPllFallbackByterate else env.listenerByterate

/-- `compute_ppm_q16`. The division by an expected count of zero, undefined in C, gives zero. -/
def computePpmQ16 (env : PllEnv) (bytesDelta elapsedNs : Nat) : Int :=
  if elapsedNs = 0 ∨ bytesDelta = 0 then 0
  else
    let expected := (i64 (byterateOf env * i64 elapsedNs)).tdiv 1000000000
    let byteError := i64 (i64 bytesDelta - expected)
    i32 ((i64 (byteError * 1000000 * 65536)).tdiv expected)

def crfFresh (env : PllEnv) (localNs : Nat) : Option (Nat × Nat) :=
  env.crfAnchor.filter fun anchor => localNs - anchor.1 < avbPllCrfAnchorStaleNs

def streamEpoch (env : PllEnv) : Nat :=
  if env.streamPhase.isSome then env.streamPhaseEpoch else env.streamRefEpoch

/-- The stream reference of `read_sample`: the pair, and the servo's record of what it reads. -/
def readStreamRef (env : PllEnv) (st : PllState) : PllState × Option (Nat × Nat) :=
  let usePhase := env.streamPhase.isSome
  if ¬ st.streamRefWasActive ∨ streamEpoch env ≠ st.streamRefEpochSeen ∨ usePhase ≠ st.streamRefPhase then
    -- re-seed on the new reference next tick
    ({ st with
      streamRefWasActive := true
      streamRefEpochSeen := streamEpoch env
      streamRefPhase := usePhase
      integratorPpmQ16 := 0
      valid := false }, none)
  else
    let rate := byterateOf env
    match env.streamPhase with
    | some (mediaNs, gptpNs) =>
        (st, some (mediaNs / 1000000000 * rate + mediaNs % 1000000000 * rate / 1000000000, gptpNs))
    | none =>
        (st, env.streamAnchor.map fun anchor =>
          (anchor.1, anchor.2 / rate * 1000000000 + anchor.2 % rate * 1000000000 / rate))

/-- The default reference of `read_sample`. A change of the sensor re-seeds. -/
def readInternal (env : PllEnv) (st : PllState) : PllState × Option (Nat × Nat) :=
  let st := { st with streamRefWasActive := false }
  if env.streamInActive ≠ st.sensorWasDac then
    ({ st with
      sensorWasDac := env.streamInActive
      integratorPpmQ16 := 0
      internalHold := if st.trimPreloaded then st.internalHold else false
      valid := false }, none)
  else (st, (env.pair env.streamInActive).map fun p => (p.2, p.1))

/-- `read_sample`: bytes and time, if there are any. -/
def readSample (env : PllEnv) (st : PllState) : PllState × Option (Nat × Nat) :=
  match env.gptpNs with
  | none => (st, none)
  | some localNs =>
      if st.activeClockSource = .crfInput then
        (st, (crfFresh env localNs).map fun anchor => (anchor.2, anchor.1))
      else if streamRefActive cfg env st then readStreamRef env st
      else readInternal env st

/-! ## One tick -/

/-- A part of the tick returns, or goes on. -/
inductive PllFlow where
  | done (st : PllState)
  | next (st : PllState)

def PllFlow.state : PllFlow → PllState
  | .done st => st
  | .next st => st

def PllFlow.andThen (flow : PllFlow) (f : PllState → PllState) : PllState :=
  match flow with
  | .done st => st
  | .next st => f st

/-- The constants of the loop in its mode. -/
structure PllMode where
  internal : Bool
  streamRef : Bool
  intervalUs : Int
  deadbandQ16 : Int
  maxStepQ16 : Int

def pllMode (env : PllEnv) (st : PllState) : PllMode :=
  let streamRef := streamRefActive cfg env st
  let internal := st.activeClockSource = .internal ∧ ¬ streamRef
  if internal ∨ streamRef then
    { internal := internal
      streamRef := streamRef
      intervalUs := max cfg.correctionIntervalUs (120 * 1000000)
      deadbandQ16 := 2 * ppmQ16
      maxStepQ16 := 5 * ppmQ16 }
  else
    { internal := internal
      streamRef := streamRef
      intervalUs := cfg.correctionIntervalUs
      deadbandQ16 := avbPllCorrectionDeadbandQ16
      maxStepQ16 := cfg.maxStepPpmQ16 }

/-- The automatic clock source follows the CRF stream. -/
def pllAutoSource (env : PllEnv) (st : PllState) : PllState :=
  match env.gptpNs with
  | none => st
  | some localNs =>
      let fresh := (crfFresh env localNs).isSome
      if fresh ∧ st.activeClockSource ≠ .crfInput then
        { st with activeClockSource := .crfInput, valid := false }
      else if ¬ fresh ∧ st.activeClockSource = .crfInput then
        { st with activeClockSource := .internal, valid := false }
      else st

/-- The validity gate of the internal reference and the check of its BTC. -/
def pllReferenceGate (env : PllEnv) (st : PllState) : PllFlow :=
  if st.activeClockSource ≠ .internal then .next st
  else if ¬ env.clockSourceValid then
    .done { st with internalRefWasValid := false, valid := false }
  else if ¬ st.internalRefWasValid then
    let sameBtc := st.trimBtcId ≠ Octets.zero 8 ∧ st.trimBtcId = env.btcId
    let trusted := st.trimPreloaded = true ∧ sameBtc
    .next { st with
      internalRefWasValid := true
      integratorPpmQ16 := 0
      internalHold := if trusted then st.internalHold else false
      internalCorrectingSinceUs := if trusted then st.internalCorrectingSinceUs else env.nowUs
      holdBtcId := env.btcId
      holdBtcKnown := true
      holdWinTicks := 0
      holdBeyondWindows := 0
      valid := false }
  else if st.holdBtcKnown ∧ st.holdBtcId ≠ env.btcId then
    .done { st with
      holdBtcId := env.btcId
      internalHold := false
      internalCorrectingSinceUs := env.nowUs
      integratorPpmQ16 := 0
      holdWinTicks := 0
      holdBeyondWindows := 0
      valid := false }
  else .next st

/-- A measurement window begins at this sample. -/
def PllState.baseline (st : PllState) (bytes ns : Nat) : PllState :=
  { st with baseBytes := bytes, baseNs := ns, effects := st.effects ++ [.baselined] }

/-- The first sample, a jump of the gPTP clock and the first ticks begin the window again. -/
def pllSeed (env : PllEnv) (mode : PllMode) (bytes ns : Nat) (st : PllState) : PllFlow :=
  let seeded (st : PllState) : PllState := { st.baseline bytes ns with
    prevBytes := bytes
    prevNs := ns
    nextCorrectionUs := env.nowUs + mode.intervalUs }
  if ¬ st.valid then
    .done (seeded { st with holdWinTicks := 0, valid := true, startupSkippedTicks := 0 })
  else if 20 * 1000000000 < subU64 ns st.prevNs then
    .done (seeded { st with
      mediaResetCount := st.mediaResetCount + 1
      integratorPpmQ16 := 0
      targetPpmQ16 := st.appliedPpmQ16 })
  else if st.startupSkippedTicks < avbPllStartupSkipTicks then
    .done (seeded { st with startupSkippedTicks := st.startupSkippedTicks + 1 })
  else .next st

/-- A sample with the errors measured up to it: since the last tick, and since the baseline. -/
structure PllSample where
  bytes : Nat
  ns : Nat
  instQ16 : Int
  cumulQ16 : Int

def pllMeasure (env : PllEnv) (bytes ns : Nat) (st : PllState) : PllSample where
  bytes := bytes
  ns := ns
  instQ16 := computePpmQ16 env (subU64 bytes st.prevBytes) (subU64 ns st.prevNs)
  cumulQ16 := computePpmQ16 env (subU64 bytes st.baseBytes) (subU64 ns st.baseNs)

def PllState.measured (st : PllState) (s : PllSample) : PllState :=
  { st with
    lastPpmErrorQ16 := s.instQ16
    cumulativePpmErrorQ16 := s.cumulQ16
    prevBytes := s.bytes
    prevNs := s.ns }

/-- The side on which a held window measures far off, zero for neither. -/
def holdBreakSign (win : Int) : Int :=
  if win > avbPllHoldBreakPpmQ16 then 1 else if win < -avbPllHoldBreakPpmQ16 then -1 else 0

/-- How many windows in a row have measured far off on one side. -/
def holdBeyondCount (sign : Int) (st : PllState) : Nat :=
  if sign = 0 then 0 else if sign = st.holdBeyondSign then st.holdBeyondWindows + 1 else 1

/-- See `AVB_PLL_HOLD_BREAK_PPM_Q16`: a held trim that measures far off in three windows in a row, on
one side, is released. -/
def pllHoldBreaker (env : PllEnv) (mode : PllMode) (s : PllSample) (st : PllState) : PllFlow :=
  if ¬ (mode.internal ∧ st.internalHold) then .next st
  else if st.holdWinTicks = 0 then
    .next { st with holdWinBytes := s.bytes, holdWinNs := s.ns, holdWinTicks := 1 }
  else if st.holdWinTicks < avbPllHoldBreakWindowTicks then
    .next { st with holdWinTicks := st.holdWinTicks + 1 }
  else
    let sign := holdBreakSign
      (computePpmQ16 env (subU64 s.bytes st.holdWinBytes) (subU64 s.ns st.holdWinNs))
    let windows := holdBeyondCount sign st
    let st := { st with holdBeyondSign := sign, holdWinBytes := s.bytes, holdWinNs := s.ns }
    if avbPllHoldBreakWindows ≤ windows then
      .done { st.baseline s.bytes s.ns with
        holdWinTicks := 0
        holdBeyondWindows := 0
        internalHold := false
        internalCorrectingSinceUs := env.nowUs
        integratorPpmQ16 := 0
        nextCorrectionUs := env.nowUs + mode.intervalUs }
    else .next { st with holdWinTicks := 1, holdBeyondWindows := windows }

def sanityLimitQ16 (mode : PllMode) : Int :=
  if mode.streamRef then cfg.maxAppliedPpmQ16 else avbPllCumulSanityLimitPpmQ16

/-- A cumulative error out of range is noise. -/
def pllSanity (env : PllEnv) (mode : PllMode) (s : PllSample) (st : PllState) : PllFlow :=
  if s.cumulQ16 > sanityLimitQ16 cfg mode ∨ s.cumulQ16 < -sanityLimitQ16 cfg mode then
    .done { st.baseline s.bytes s.ns with
      integratorPpmQ16 := 0
      targetPpmQ16 := st.appliedPpmQ16
      nextCorrectionUs := env.nowUs + mode.intervalUs }
  else .next st

def clampQ16 (limit x : Int) : Int :=
  let x := if x > limit then limit else x
  if x < -limit then -limit else x

/-- `persist_trim` -/
def persistTrim (env : PllEnv) (trim : Int) (st : PllState) : PllState :=
  let delta := trim - st.convergedTrimQ16
  if st.trimBtcId = env.btcId ∧ delta ≤ 2 * ppmQ16 ∧ delta ≥ -(2 * ppmQ16) then st
  else { st with
    convergedTrimQ16 := trim
    trimBtcId := env.btcId
    effects := st.effects ++ [.persisted trim env.btcId] }

/-- The move of a slew: the remaining way, bounded by the step of a tick. -/
def slewStepQ16 (target applied : Int) : Int :=
  let remaining := if target > applied then target - applied else applied - target
  let limit :=
    if remaining > avbPllSlewFarThresholdPpmQ16 then avbPllSlewFarPpmQ16 else avbPllSlewMaxPpmQ16
  clampQ16 limit (target - applied)

/-- The slew reaches its target: a window begins that measures the corrected clock only. -/
def pllLanded (env : PllEnv) (mode : PllMode) (s : PllSample) (st : PllState) : PllState :=
  let st := { st.baseline s.bytes s.ns with nextCorrectionUs := env.nowUs + mode.intervalUs }
  let st :=
    if st.adcRefineLanding ∧ st.internalHold then persistTrim env st.appliedPpmQ16 st else st
  { st with adcRefineLanding := false }

/-- The error says that the slew has gone too far, with a way left that matters. -/
def slewCrossed (mode : PllMode) (s : PllSample) (target applied : Int) : Prop :=
  let crossing := if mode.internal ∨ mode.streamRef then s.cumulQ16 else s.instQ16
  let remaining := if target > applied then target - applied else applied - target
  ((target > applied ∧ crossing > 2 * ppmQ16) ∨
    (¬ target > applied ∧ crossing < -(2 * ppmQ16))) ∧ remaining > 5 * ppmQ16

instance (mode : PllMode) (s : PllSample) (target applied : Int) :
    Decidable (slewCrossed mode s target applied) := inferInstanceAs (Decidable (_ ∧ _))

/-- The hardware takes a step of the slew, or rejects it. -/
def pllSlewTo (env : PllEnv) (mode : PllMode) (s : PllSample) (slewed : Int) (st : PllState) : PllFlow :=
  match mclkHwTune cfg env.coeffCalc slewed st with
  | (st, false) => .done st
  | (st, true) =>
      let st := { st with appliedPpmQ16 := slewed }
      .done (if slewed = st.targetPpmQ16 then pllLanded env mode s st else st)

/-- The slew in flight: one bounded step, or its end where the error has crossed zero twice. -/
def pllSlew (env : PllEnv) (mode : PllMode) (s : PllSample) (st : PllState) : PllFlow :=
  if st.appliedPpmQ16 = st.targetPpmQ16 then .next st
  else
    let far := slewCrossed mode s st.targetPpmQ16 st.appliedPpmQ16
    if far ∧ 2 ≤ st.slewCrossedTicks + 1 then
      .done { st.baseline s.bytes s.ns with
        targetPpmQ16 := st.appliedPpmQ16
        slewCrossedTicks := 0
        nextCorrectionUs := env.nowUs + mode.intervalUs }
    else
      pllSlewTo cfg env mode s (st.appliedPpmQ16 + slewStepQ16 st.targetPpmQ16 st.appliedPpmQ16)
        { st with slewCrossedTicks := if far then st.slewCrossedTicks + 1 else 0 }

/-- The window of the talker's ADC readings after this tick. -/
def pllAdcWindow (env : PllEnv) (fresh : Bool) (st : PllState) : PllState :=
  let resumed := env.nowUs - st.adcLastUs > avbPllAdcStaleMs * 1000
  let st := { st with
    adcLastUs := env.nowUs
    adcWindowStartUs := if ¬ fresh ∨ resumed then 0 else st.adcWindowStartUs }
  if fresh ∧ st.adcWindowStartUs = 0 then
    { st with
      adcWindowStartUs := env.nowUs + avbPllAdcRefineSettleUs, adcSumQ16 := 0, adcSamples := 0 }
  else if fresh ∧ st.adcWindowStartUs ≤ env.nowUs then
    { st with
      adcSumQ16 := st.adcSumQ16 + i32 (env.adcErrorPpmQ8 * 256), adcSamples := st.adcSamples + 1 }
  else st

def pllAdcFresh (env : PllEnv) : Bool :=
  env.adcErrorStampMs ≠ 0 ∧ (env.nowUs.tdiv 1000 - env.adcErrorStampMs) % 2 ^ 32 < avbPllAdcStaleMs

/-- The mean of a window of readings. -/
def pllAdcMean (st : PllState) : Int :=
  if st.adcSamples = 0 then 0 else i32 (st.adcSumQ16.tdiv st.adcSamples)

/-- The correction the APLL really runs, not the requested trim it rounded. -/
def pllApllActual (st : PllState) : Int :=
  i32 ((i64 (((st.actualApllHz : Int) - st.nominalApllHz) * 1000000 * 65536)).tdiv st.nominalApllHz)

/-- A window of readings is over: a mean of at least 1 ppm moves the held trim. -/
def pllAdcOver (env : PllEnv) (mean : Int) (st : PllState) : PllFlow :=
  if |mean| ≥ avbPllAdcRefineMinPpmQ16 then
    .done { st with
      targetPpmQ16 := clampQ16 cfg.maxAppliedPpmQ16
        (pllApllActual st - clampQ16 avbPllAdcRefineMaxPpmQ16 mean)
      adcWindowStartUs := 0
      adcSumQ16 := 0
      adcSamples := 0
      adcRefineLanding := true }
  else .next { st with adcWindowStartUs := env.nowUs, adcSumQ16 := 0, adcSamples := 0 }

/-- Held-trim refinement from the talker's ADC. -/
def pllAdcRefine (env : PllEnv) (mode : PllMode) (st : PllState) : PllFlow :=
  if ¬ (cfg.apll ∧ mode.internal ∧ st.internalHold ∧ 0 < st.nominalApllHz) then .next st
  else
    let st := pllAdcWindow env (pllAdcFresh env) st
    if pllAdcFresh env ∧ st.adcWindowStartUs ≠ 0 ∧
        env.nowUs - st.adcWindowStartUs ≥ avbPllAdcRefineWindowUs then
      pllAdcOver cfg env (pllAdcMean st) st
    else .next st

def residualConverged (s : PllSample) : Prop := |s.cumulQ16| < avbPllConvergedPpmQ16

instance (s : PllSample) : Decidable (residualConverged s) := inferInstanceAs (Decidable (_ < _))

/-- Time-boxed convergence of the internal reference. -/
def pllConverge (env : PllEnv) (mode : PllMode) (s : PllSample) (st : PllState) : PllState :=
  let acquiringUs := env.nowUs - st.internalCorrectingSinceUs
  let windowElapsed := acquiringUs > 15 * 60 * 1000000
  let capped := acquiringUs > avbPllInternalAcquireCapUs
  if mode.internal ∧ ¬ st.internalHold ∧ st.internalCorrectingSinceUs ≠ 0 ∧
      st.appliedPpmQ16 = st.targetPpmQ16 ∧ ((windowElapsed ∧ residualConverged s) ∨ capped) then
    { st with internalHold := true }
  else st

/-- The integrator after an error, clamped, and bled where it opposes the error. -/
def pllIntegrate (integrator cumul : Int) : Int :=
  let integrator := clampQ16 avbPllMaxIntegratorPpmQ16 (integrator + cumul * avbPllIGainQ16 / 65536)
  if integrator ≠ 0 ∧ ¬ (integrator > 0 ↔ cumul > 0) then integrator - integrator.tdiv 4
  else integrator

/-- The step a correction takes: proportional and integral part, the whole of a large error. -/
def pllStepQ16 (maxStep integrator cumul : Int) : Int :=
  if |cumul| > 4 * maxStep then clampQ16 |cumul| (cumul + integrator)
  else clampQ16 maxStep (cumul * avbPllGainQ16 / 65536 + integrator)

/-- The cumulative error is folded into a new target. -/
def pllCorrect (env : PllEnv) (mode : PllMode) (s : PllSample) (st : PllState) : PllState :=
  if 0 < mode.intervalUs ∧ ¬ (mode.internal ∧ st.internalHold) ∧ st.nextCorrectionUs ≤ env.nowUs ∧
      (s.cumulQ16 > mode.deadbandQ16 ∨ s.cumulQ16 < -mode.deadbandQ16) then
    let integrator := pllIntegrate st.integratorPpmQ16 s.cumulQ16
    let target := clampQ16 cfg.maxAppliedPpmQ16
      (st.appliedPpmQ16 - pllStepQ16 mode.maxStepQ16 integrator s.cumulQ16)
    { st with
      integratorPpmQ16 := integrator
      targetPpmQ16 := target
      nextCorrectionUs := env.nowUs + mode.intervalUs
      effects := st.effects ++ [.retargeted s.cumulQ16 target] }
  else st

/-- The trim has not moved since the last check, and the clock reads no error. -/
def trimStable (s : PllSample) (st : PllState) : Prop :=
  st.appliedPpmQ16 - st.lastTrimCheckValueQ16 < 2 * ppmQ16 ∧
    st.appliedPpmQ16 - st.lastTrimCheckValueQ16 > -(2 * ppmQ16) ∧ residualConverged s

instance (s : PllSample) (st : PllState) : Decidable (trimStable s st) :=
  inferInstanceAs (Decidable (_ ∧ _ ∧ _))

def PllState.trimChecked (st : PllState) (env : PllEnv) (hold : Bool) : PllState :=
  { st with
    lastTrimCheckUs := env.nowUs
    lastTrimCheckValueQ16 := st.appliedPpmQ16
    internalHold := hold }

/-- The trim check every 10 minutes: a trim that has not moved and reads no error is held and
recorded. -/
def pllTrimCheck (env : PllEnv) (mode : PllMode) (s : PllSample) (st : PllState) : PllState :=
  if st.appliedPpmQ16 = st.targetPpmQ16 ∧ env.nowUs - st.lastTrimCheckUs > avbPllTrimCheckUs then
    if trimStable s st then
      persistTrim env st.appliedPpmQ16 (st.trimChecked env (mode.internal || st.internalHold))
    else st.trimChecked env st.internalHold
  else st

/-- The control part of the tick, on a sample inside a running window. -/
def pllControl (env : PllEnv) (mode : PllMode) (s : PllSample) (st : PllState) : PllState :=
  (pllHoldBreaker env mode s (st.measured s)).andThen fun st =>
    (pllSanity cfg env mode s st).andThen fun st =>
      (pllSlew cfg env mode s st).andThen fun st =>
        (pllAdcRefine cfg env mode st).andThen fun st =>
          pllTrimCheck env mode s (pllCorrect cfg env mode s (pllConverge env mode s st))

/-- A reading of the reference, or none. -/
def pllRead (env : PllEnv) (mode : PllMode) (st : PllState) (sample : Option (Nat × Nat)) : PllState :=
  match sample with
  | none => { st with valid := false }
  | some (bytes, ns) =>
      -- Sample slips change only what the DAC plays: only the presentation phase sees them.
      if ¬ cfg.apll ∧ (¬ mode.streamRef ∨ ¬ st.streamRefPhase) then { st with valid := false }
      else
        (pllSeed env mode bytes ns st).andThen fun st =>
          pllControl cfg env mode (pllMeasure env bytes ns st) st

/-- The tick is due: the automatic clock source chooses first. -/
def pllDue (env : PllEnv) (st : PllState) : PllState :=
  let st := { st with nextPrintUs := env.nowUs + avbPllTickUs }
  if cfg.autoCrfClockSource then pllAutoSource env st else st

def avbPllTick (env : PllEnv) (st : PllState) : PllState :=
  if env.nowUs < st.nextPrintUs then st
  else
    (pllReferenceGate env (pllDue cfg env st)).andThen fun st =>
      pllRead cfg env (pllMode cfg env st) (readSample cfg env st).1 (readSample cfg env st).2

/-! ## Calls from outside -/

def avbPllInit (nominalMclkHz : Nat) (st : PllState) : PllState :=
  (mclkHwInit cfg nominalMclkHz { st with
    valid := false, nextPrintUs := 0, nextCorrectionUs := 0, integratorPpmQ16 := 0 }).1

def avbPllPreloadTrim (coeffCalc : CoeffCalc) (trim : Int) (st : PllState) : PllState :=
  let trim := clampQ16 cfg.maxAppliedPpmQ16 trim
  match mclkHwTune cfg coeffCalc trim st with
  | (st, false) => st
  | (st, true) =>
      { st with
        appliedPpmQ16 := trim, targetPpmQ16 := trim, trimPreloaded := true, internalHold := true }

def avbPllRestoreTrim (coeffCalc : CoeffCalc) (st : PllState) : PllState :=
  if st.appliedPpmQ16 = 0 then st else (mclkHwTune cfg coeffCalc st.appliedPpmQ16 st).1

def avbPllReseed (st : PllState) : PllState := { st with valid := false, nextCorrectionUs := 0 }

def avbPllDeinit (st : PllState) : PllState := { st with hwInitialised := false, valid := false }

inductive PllEvent where
  | tick (env : PllEnv)
  | restore (coeffCalc : CoeffCalc)
  | reseed
  | init (nominalMclkHz : Nat)
  | deinit
  /-- SET_CLOCK_SOURCE -/
  | select (source : ClockSource)

def pllStep (st : PllState) : PllEvent → PllState
  | .tick env => avbPllTick cfg env st
  | .restore coeffCalc => avbPllRestoreTrim cfg coeffCalc st
  | .reseed => avbPllReseed st
  | .init nominalMclkHz => avbPllInit cfg nominalMclkHz st
  | .deinit => avbPllDeinit st
  | .select source => { st with activeClockSource := source }

/-- Everything zero, as at boot. -/
def PllState.boot : PllState where
  valid := false
  startupSkippedTicks := 0
  baseBytes := 0
  baseNs := 0
  prevBytes := 0
  prevNs := 0
  nextPrintUs := 0
  nextCorrectionUs := 0
  integratorPpmQ16 := 0
  sensorWasDac := false
  internalRefWasValid := false
  slewCrossedTicks := 0
  lastTrimCheckUs := 0
  lastTrimCheckValueQ16 := 0
  internalHold := false
  internalCorrectingSinceUs := 0
  trimPreloaded := false
  holdWinBytes := 0
  holdWinNs := 0
  holdWinTicks := 0
  holdBeyondWindows := 0
  holdBeyondSign := 0
  holdBtcId := .zero 8
  holdBtcKnown := false
  streamRefWasActive := false
  streamRefEpochSeen := 0
  streamRefPhase := false
  adcWindowStartUs := 0
  adcLastUs := 0
  adcSumQ16 := 0
  adcSamples := 0
  adcRefineLanding := false
  appliedPpmQ16 := 0
  targetPpmQ16 := 0
  lastPpmErrorQ16 := 0
  cumulativePpmErrorQ16 := 0
  activeClockSource := .internal
  mediaResetCount := 0
  convergedTrimQ16 := 0
  trimBtcId := .zero 8
  hwInitialised := false
  nominalApllHz := 0
  actualApllHz := 0
  effects := []

/-- Before the first tick: what the store and the descriptors hold, the backend initialised, and the
stored trim preloaded, if there is one. -/
def pllStart (source : ClockSource) (trimBtcId : UniqueId) (convergedTrim : Int) (nominalMclkHz : Nat)
    (preload : Option (CoeffCalc × Int)) : PllState :=
  let st := avbPllInit cfg nominalMclkHz { PllState.boot with
    activeClockSource := source, trimBtcId := trimBtcId, convergedTrimQ16 := convergedTrim }
  match preload with
  | none => st
  | some (coeffCalc, trim) => avbPllPreloadTrim cfg coeffCalc trim st

end EspAvb
