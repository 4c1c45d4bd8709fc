import EspAvb.Pll

/-!
# The talker's timeline

`avtp.c`, the stream-out task: how one packet moves the send time, the sample count and the media
timestamp on, while the gPTP cadence is in use. Each has accumulators of its own in Q16 or with a
remainder carried over; the controllers that set the three corrections are left out, but for the
clamps that bound what they set. A run is one between two re-anchors of the timestamp, without an
overrun that resets the send time.
-/

namespace EspAvb

/-- One nanosecond in Q16. -/
def nsQ16 : Int := 65536

/-- `params->interval` is that of Class A or of Class B. -/
structure TimelineParams where
  sampleRate : Nat
  interval : Nat
  rate_pos : 0 < sampleRate
  rate_lt : sampleRate < 2 ^ 31
  interval_eq : interval = 125 ∨ interval = 250

def TimelineParams.sppDen (params : TimelineParams) : Nat := 1000000 / params.interval
def TimelineParams.sppBase (params : TimelineParams) : Nat := params.sampleRate / params.sppDen
def TimelineParams.sppRem (params : TimelineParams) : Nat := params.sampleRate % params.sppDen
def TimelineParams.nsPerSampleQ16 (params : TimelineParams) : Nat :=
  1000000000 * 65536 / params.sampleRate

/-- The corrections in force for one packet, in nanoseconds in Q16: the lock's resync threshold is a
microsecond, the fill controller stops at 200 ppm and the timestamp rate at 300 ppm. -/
structure CadenceCorrection where
  schedNsAdjQ16 : Int
  fillAdjQ16 : Int
  tsRateCorrQ16 : Int
  sched_le : |schedNsAdjQ16| ≤ 1000 * nsQ16
  fill_le : |fillAdjQ16| ≤ 50 * nsQ16
  rate_le : |tsRateCorrQ16| ≤ 75 * nsQ16

structure TimelineState where
  nextSendTime : Int
  fillFracQ16 : Int
  schedNsCarry : Int
  sppAcc : Nat
  rateSamples : Nat
  tsBaseFracQ16 : Nat
  tsRateFracQ16 : Int
  avtpMediaTs : UInt32
  rateTsNs : Int

def TimelineState.start (nextSendTime : Int) (avtpMediaTs : UInt32) : TimelineState :=
  { nextSendTime, fillFracQ16 := 0, schedNsCarry := 0, sppAcc := 0, rateSamples := 0,
    tsBaseFracQ16 := 0, tsRateFracQ16 := 0, avtpMediaTs, rateTsNs := 0 }

/-- The send cadence: of the lock's correction whole nanoseconds only. -/
def timelineCadence (params : TimelineParams) (c : CadenceCorrection) (st : TimelineState) :
    TimelineState :=
  let adjNs := c.schedNsAdjQ16 / 65536
  let fillFrac := i32 (st.fillFracQ16 + i32 c.fillAdjQ16)
  let fillNs := fillFrac / 65536
  let totalNs := params.interval * 1000 + adjNs + fillNs + st.schedNsCarry
  let usToWait := i32 (totalNs.tdiv 1000)
  { st with
    nextSendTime := st.nextSendTime + usToWait
    fillFracQ16 := i32 (fillFrac - fillNs * 65536)
    schedNsCarry := i32 (totalNs - usToWait * 1000) }

/-- Samples of the next packet, and the accumulator after it. -/
def timelineSpp (params : TimelineParams) (sppAcc : Nat) : Nat × Nat :=
  let acc := sppAcc + params.sppRem
  if params.sppDen ≤ acc then (params.sppBase + 1, acc - params.sppDen)
  else (params.sppBase, acc)

def timelineMedia (params : TimelineParams) (c : CadenceCorrection) (st : TimelineState) :
    TimelineState :=
  let (thisSpp, sppAcc) := timelineSpp params st.sppAcc
  let baseFrac := st.tsBaseFracQ16 + thisSpp * params.nsPerSampleQ16
  let baseWhole := baseFrac / 65536
  let rateFrac := i32 (st.tsRateFracQ16 + c.tsRateCorrQ16)
  let wholeNs := rateFrac / 65536
  { st with
    sppAcc
    rateSamples := st.rateSamples + thisSpp
    tsBaseFracQ16 := baseFrac % 65536
    tsRateFracQ16 := i32 (rateFrac - wholeNs * 65536)
    avtpMediaTs := st.avtpMediaTs + UInt32.ofNat baseWhole + UInt32.ofInt wholeNs
    rateTsNs := st.rateTsNs + baseWhole + wholeNs }

def timelineStep (params : TimelineParams) (st : TimelineState) (c : CadenceCorrection) :
    TimelineState :=
  timelineMedia params c (timelineCadence params c st)

end EspAvb
