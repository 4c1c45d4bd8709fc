import EspAvb.StreamFormat

/-!
# Sample rate changes

`avbcodec.c`: the clock plans of the codecs, and `avb_audio_set_rate` over the hardware it moves, on a
chip with an APLL. A hardware step either does what it is asked or fails and leaves the hardware in any
state. Of the I2S driver is assumed that acquiring the APLL sets it to the nominal frequency when no
channel holds it and leaves it alone otherwise. The registers of an ES8389 clock row are left out: a row
stands for them by its rate and MCLK.
-/

namespace EspAvb

/-! ### Clock plans -/

/-- `es8389_clock_row_s` -/
structure Es8389ClockRow where
  rateHz : Nat
  mclkHz : Nat
  deriving DecidableEq, Repr

/-- A candidate of a plan row: an entry of `mclk_hz` and of `codec_data`. -/
structure AvbCodecMclk where
  mclkHz : Nat
  codecData : Option Es8389ClockRow
  deriving DecidableEq, Repr

/-- `avb_codec_clock_plan_s`, the candidates up to the first zero. -/
structure AvbCodecClockPlan where
  sampleRateHz : Nat
  candidates : List AvbCodecMclk
  deriving DecidableEq, Repr

/-- What of `avb_codec_caps_s` the clocks depend on. -/
structure AvbCodecCaps where
  clockPlan : List AvbCodecClockPlan
  maxMclkHz : Nat
  minMclkBclkRatio : Nat
  /-- whether the codec has an `apply_clock` -/
  applyClock : Bool

def es8389Candidate (rateHz mclkHz : Nat) : AvbCodecMclk := ⟨mclkHz, some ⟨rateHz, mclkHz⟩⟩

def es8389ClockPlan : List AvbCodecClockPlan :=
  [⟨44100, [es8389Candidate 44100 11289600]⟩,
    ⟨48000, [es8389Candidate 48000 24576000, es8389Candidate 48000 18432000]⟩,
    ⟨88200, [es8389Candidate 88200 11289600]⟩,
    ⟨96000, [es8389Candidate 96000 24576000]⟩,
    ⟨192000, [es8389Candidate 192000 24576000]⟩]

/-- The ES8388's plan lists the same. -/
def es8311ClockPlan : List AvbCodecClockPlan :=
  [⟨48000, [⟨18432000, none⟩, ⟨12288000, none⟩]⟩, ⟨96000, [⟨24576000, none⟩]⟩]

def avbCodecGetCaps : CodecType → AvbCodecCaps
  | .es8311 | .es8388 =>
      { clockPlan := es8311ClockPlan, maxMclkHz := 24576000, minMclkBclkRatio := 4
        applyClock := false }
  | .es8389 =>
      { clockPlan := es8389ClockPlan, maxMclkHz := 49200000, minMclkBclkRatio := 2
        applyClock := true }

/-- The codec on the board, and `avb_pll_mclk_derivable`: the MCLKs the APLL's coefficients reach. -/
structure AudioBoard where
  codec : CodecType
  derivable : Nat → Bool

def AudioBoard.caps (board : AudioBoard) : AvbCodecCaps := avbCodecGetCaps board.codec

/-- The rates that go into the formats are those of the clock plan. -/
theorem planRates_eq (codec : CodecType) :
    codec.planRates = (avbCodecGetCaps codec).clockPlan.map AvbCodecClockPlan.sampleRateHz := by
  cases codec <;> decide

def codecPlanForRate (caps : AvbCodecCaps) (rate : Nat) : Option AvbCodecClockPlan :=
  caps.clockPlan.find? fun plan => plan.sampleRateHz = rate

/-- `clock_candidate_reject_reason` -/
def clockCandidateRejectReason (caps : AvbCodecCaps) (derivable : Nat → Bool) (rate : Nat)
    (candidate : AvbCodecMclk) : Option String :=
  let bclkHz := rate * (2 * 32)
  if candidate.mclkHz % bclkHz ≠ 0 then some "MCLK/BCLK is not an integer"
  else if candidate.mclkHz / bclkHz < caps.minMclkBclkRatio then
    some "MCLK/BCLK below the codec floor"
  else if candidate.mclkHz > caps.maxMclkHz then some "MCLK above the codec ceiling"
  else if caps.applyClock ∧ candidate.codecData = none then some "no codec clock row"
  else if ¬ derivable candidate.mclkHz then some "APLL cannot produce this MCLK"
  else none

/-- The walk of `avb_codec_select_mclk` over a row's candidates; `chosen` is the first usable one. -/
def selectCandidate (usable : AvbCodecMclk → Bool) (preferredMclkHz : Nat) :
    List AvbCodecMclk → Option AvbCodecMclk → Option AvbCodecMclk
  | [], chosen => chosen
  | candidate :: rest, chosen =>
      if usable candidate = false then selectCandidate usable preferredMclkHz rest chosen
      else if candidate.mclkHz = preferredMclkHz then some candidate
      else selectCandidate usable preferredMclkHz rest (chosen.or (some candidate))

/-- `avb_codec_select_mclk`. Before the plan check of the boot, not `checked`, no candidate is rejected;
after it `clock_plan_invalid_mask` has the bits of those with a reason. -/
def avbCodecSelectMclk (board : AudioBoard) (checked : Bool) (rate preferredMclkHz : Nat) :
    Option AvbCodecMclk :=
  (codecPlanForRate board.caps rate).bind fun plan =>
    selectCandidate
      (fun c => !checked || (clockCandidateRejectReason board.caps board.derivable rate c).isNone)
      preferredMclkHz plan.candidates none

/-! ### The hardware -/

inductive ClkSrc where
  | xtal
  | apll
  deriving DecidableEq, Repr

structure I2sChannel where
  enabled : Bool
  clkSrc : ClkSrc
  sampleRateHz : Nat
  mclkMultiple : Nat
  deriving DecidableEq, Repr

structure AudioHw where
  tx : I2sChannel
  rx : I2sChannel
  /-- the nominal MCLK the APLL is programmed for, and the offset from it -/
  apllMclkHz : Nat
  apllPpmQ16 : Int
  codecEnabled : Bool
  /-- the rate and the multiple of the last `set_fs` -/
  codecFs : Nat × Nat
  codecRow : Option Es8389ClockRow
  deriving DecidableEq, Repr

/-- `I2S_STD_CLK_DEFAULT_CONFIG`, completed -/
structure I2sStdClkConfig where
  sampleRateHz : Nat
  mclkMultiple : Nat
  clkSrc : ClkSrc

def I2sChannel.configured (ch : I2sChannel) (cfg : I2sStdClkConfig) : I2sChannel :=
  { ch with clkSrc := cfg.clkSrc, sampleRateHz := cfg.sampleRateHz, mclkMultiple := cfg.mclkMultiple }

namespace AudioHw

/-- A channel comes to use `cfg`: the APLL is set if nobody holds it. -/
def acquire (hw : AudioHw) (cfg : I2sStdClkConfig) : AudioHw :=
  if cfg.clkSrc = .apll ∧ hw.tx.clkSrc ≠ .apll ∧ hw.rx.clkSrc ≠ .apll then
    { hw with apllMclkHz := cfg.sampleRateHz * cfg.mclkMultiple, apllPpmQ16 := 0 }
  else hw

def reconfigTx (cfg : I2sStdClkConfig) (hw : AudioHw) : AudioHw :=
  { hw.acquire cfg with tx := hw.tx.configured cfg }

def reconfigRx (cfg : I2sStdClkConfig) (hw : AudioHw) : AudioHw :=
  { hw.acquire cfg with rx := hw.rx.configured cfg }

def enableTx (enabled : Bool) (hw : AudioHw) : AudioHw :=
  { hw with tx := { hw.tx with enabled } }

def enableRx (enabled : Bool) (hw : AudioHw) : AudioHw :=
  { hw with rx := { hw.rx with enabled } }

end AudioHw

inductive HwStep where
  | txDisable
  | rxDisable
  | txPark
  | rxPark
  | txReclock
  | rxReclock
  | setFs
  | applyClock
  | codecEnable
  | txEnable
  | rxEnable
  deriving DecidableEq, Repr

/-- How the steps of one reclock go: whether the codec stops, which is not looked at, and what a step
that fails leaves behind. -/
structure HwOutcome where
  codecStops : Bool
  fails : HwStep → Option (AudioHw → AudioHw)

def HwOutcome.good : HwOutcome := ⟨true, fun _ => none⟩

/-- The steps in order up to the first that fails. -/
def runHwSteps (outcome : HwOutcome) : List (HwStep × (AudioHw → AudioHw)) → AudioHw → Bool × AudioHw
  | [], hw => (true, hw)
  | (step, op) :: rest, hw =>
      match outcome.fails step with
      | some leaves => (false, leaves hw)
      | none => runHwSteps outcome rest (op hw)

/-- What `audio_hw_reclock` does after the codec is off. The program of the codec's clock fails of itself
when the row is not the one of the rate and the MCLK. -/
def audioHwSteps (caps : AvbCodecCaps) (rate mclkHz : Nat) (codecClockData : Option Es8389ClockRow)
    (park : Bool) : List (HwStep × (AudioHw → AudioHw)) :=
  let mclkMultiple := mclkHz / rate
  let parkCfg : I2sStdClkConfig := ⟨48000, 256, .xtal⟩
  let clkCfg : I2sStdClkConfig := ⟨rate, mclkMultiple, .apll⟩
  [(.txDisable, .enableTx false), (.rxDisable, .enableRx false)]
    ++ (if park then [(.txPark, .reconfigTx parkCfg), (.rxPark, .reconfigRx parkCfg)] else [])
    ++ [(.txReclock, .reconfigTx clkCfg), (.rxReclock, .reconfigRx clkCfg),
      (.setFs, fun hw => { hw with codecFs := (rate, mclkMultiple) })]
    ++ (if caps.applyClock then [(.applyClock, fun hw => { hw with codecRow := codecClockData })] else [])
    ++ [(.codecEnable, fun hw => { hw with codecEnabled := true }), (.txEnable, .enableTx true),
      (.rxEnable, .enableRx true)]

/-- `es8389_apply_clock` finds its row missing or of another rate or MCLK. -/
def clockRowMissing (caps : AvbCodecCaps) (rate mclkHz : Nat)
    (codecClockData : Option Es8389ClockRow) : Bool :=
  caps.applyClock ∧ codecClockData ≠ some ⟨rate, mclkHz⟩

/-- `audio_hw_reclock` -/
def audioHwReclock (caps : AvbCodecCaps) (rate mclkHz : Nat)
    (codecClockData : Option Es8389ClockRow) (park : Bool) (outcome : HwOutcome) (hw : AudioHw) :
    Bool × AudioHw :=
  let hw := if outcome.codecStops then { hw with codecEnabled := false } else hw
  let outcome : HwOutcome :=
    if clockRowMissing caps rate mclkHz codecClockData then
      { outcome with
        fails := Function.update outcome.fails .applyClock
          (some ((outcome.fails .applyClock).getD id)) }
    else outcome
  runHwSteps outcome (audioHwSteps caps rate mclkHz codecClockData park) hw

/-! ### The rate -/

/-- The fields of the state that a rate change reads and writes, with the hardware. -/
structure AudioState where
  /-- `codec_enabled`, `codec_if` and the two channel handles are all set -/
  ready : Bool
  defaultSampleRate : Nat
  codecMclkHz : Nat
  listenerSampleRate : Nat
  listenerByterate : Nat
  pllAppliedPpmQ16 : Int
  /-- `s_hw.nominal_mclk_hz`, none before `mclk_hw_init` -/
  pllNominalMclkHz : Option Nat
  hw : AudioHw
  deriving DecidableEq, Repr

namespace AudioState

/-- `avb_pll_init`, the back end of it -/
def avbPllInit (s : AudioState) (nominalMclkHz : Nat) : Bool × AudioState :=
  if nominalMclkHz = 0 then (false, s)
  else (true, { s with pllNominalMclkHz := some nominalMclkHz })

/-- `mclk_hw_tune_ppm_q16`, where the coefficients are `accepted` or not -/
def mclkHwTune (s : AudioState) (accepted : Bool) (ppmQ16 : Int) : Bool × AudioState :=
  match s.pllNominalMclkHz with
  | some nominal =>
      if accepted then (true, { s with hw := { s.hw with apllMclkHz := nominal, apllPpmQ16 := ppmQ16 } })
      else (false, s)
  | none => (false, s)

/-- `avb_pll_restore_trim` -/
def avbPllRestoreTrim (s : AudioState) (accepted : Bool) : Bool × AudioState :=
  if s.pllAppliedPpmQ16 = 0 then (true, s) else s.mclkHwTune accepted s.pllAppliedPpmQ16

end AudioState

inductive RateErr where
  | ok
  | notSupported
  | invalidState
  | fail
  deriving DecidableEq, Repr

/-- A call of `avb_audio_set_rate`: how the steps of the change and of the restore go, and whether the
back end accepts the trim. -/
structure RateCall where
  rate : Nat
  change : HwOutcome
  restore : HwOutcome
  trimAccepted : Bool

/-- The old rate is put back after a failed change; true when all of it succeeds. -/
def avbAudioRestore (board : AudioBoard) (s : AudioState) (call : RateCall) : Bool × AudioState :=
  let oldRate := s.defaultSampleRate
  let oldClockData :=
    (avbCodecSelectMclk board true oldRate s.codecMclkHz).bind AvbCodecMclk.codecData
  let (restored, hw) :=
    audioHwReclock board.caps oldRate s.codecMclkHz oldClockData true call.restore s.hw
  let s := { s with hw }
  if restored then
    let (initialised, s) := s.avbPllInit s.codecMclkHz
    if initialised then s.avbPllRestoreTrim call.trimAccepted else (false, s)
  else (false, s)

/-- The hardware half of a call that gets as far. -/
def RateCall.reclock (board : AudioBoard) (s : AudioState) (call : RateCall) (c : AvbCodecMclk) :
    Bool × AudioHw :=
  audioHwReclock board.caps call.rate c.mclkHz c.codecData (c.mclkHz ≠ s.codecMclkHz) call.change s.hw

/-- `avb_audio_set_rate` -/
def avbAudioSetRate (board : AudioBoard) (s : AudioState) (call : RateCall) : RateErr × AudioState :=
  if call.rate = s.defaultSampleRate then (.ok, s)
  else
    match avbCodecSelectMclk board true call.rate s.codecMclkHz with
    | none => (.notSupported, s)
    | some c =>
        if s.ready = false then (.invalidState, s)
        else
          let sameMclk := c.mclkHz = s.codecMclkHz
          let (done, hw) := call.reclock board s c
          let s := { s with hw }
          if done = false then (.fail, (avbAudioRestore board s call).2)
          else
            let s :=
              { s with
                defaultSampleRate := call.rate
                codecMclkHz := c.mclkHz
                listenerSampleRate := call.rate
                listenerByterate := call.rate * 2 * 4 }
            -- with the MCLK unchanged only the measurement windows restart
            if sameMclk then (.ok, s)
            else
              let (initialised, s) := s.avbPllInit c.mclkHz
              if initialised then (.ok, (s.avbPllRestoreTrim call.trimAccepted).2) else (.ok, s)

/-- `avb_config_i2s` and the codec's set-up at `rate`: the first candidate, which the driver has to be
able to derive. -/
def rateBoot (board : AudioBoard) (rate : Nat) : Option AudioState :=
  (avbCodecSelectMclk board false rate 0).bind fun c =>
    if board.derivable c.mclkHz then
      let channel : I2sChannel := ⟨true, .apll, rate, c.mclkHz / rate⟩
      some
        { ready := true
          defaultSampleRate := rate
          codecMclkHz := c.mclkHz
          listenerSampleRate := rate
          listenerByterate := rate * 2 * 4
          pllAppliedPpmQ16 := 0
          pllNominalMclkHz := some c.mclkHz
          hw :=
            { tx := channel, rx := channel, apllMclkHz := c.mclkHz, apllPpmQ16 := 0
              codecEnabled := true, codecFs := (rate, c.mclkHz / rate)
              codecRow := if board.caps.applyClock then c.codecData else none } }
    else none

inductive RateEvent where
  | setRate (call : RateCall)
  /-- the servo, or the preload at boot, applies a trim that the back end accepts -/
  | trim (ppmQ16 : Int)

def rateStep (board : AudioBoard) (s : AudioState) : RateEvent → AudioState
  | .setRate call => (avbAudioSetRate board s call).2
  | .trim ppmQ16 => { (s.mclkHwTune true ppmQ16).2 with pllAppliedPpmQ16 := ppmQ16 }

end EspAvb
