import EspAvb.LiteTransport

/-!
# The CRF talker

`avtp.c`, the media-clock output: the timer callback that stamps one PDU, and the start that sets
its step. The transmissions to the listeners' addresses are left out, they read and leave the same
frame.
-/

namespace EspAvb

def avbCrfBaseFreqHz : UInt32 := 48000
def avbCrfTsPerSec : UInt32 := 500
def avbCrfMaxTransitNs : UInt64 := 2000000
def avbCrfGridResyncNs : UInt64 := 10000000

/-- What `ptpd_now` reads. -/
structure Timespec where
  tvSec : UInt64
  tvNsec : UInt64
  deriving DecidableEq, Repr

/-- The reading in nanoseconds. -/
def Timespec.ns (ts : Timespec) : Nat := ts.tvSec.toNat * 1000000000 + ts.tvNsec.toNat

structure CrfOutCtx where
  seqNum : UInt8
  rate : UInt32
  stepNs : UInt32
  stepRem : UInt32
  nextTsNs : UInt64
  fracAcc : UInt32
  gridValid : Bool
  deriving DecidableEq, Repr

namespace CrfOutCtx

/-- `avb_crf_stream_out_start`. -/
def start : CrfOutCtx :=
  let crfRate := avbCrfBaseFreqHz
  let crfInterval := (crfRate / avbCrfTsPerSec).toUInt16
  let stepTotal := crfInterval.toUInt64 * 1000000000
  { seqNum := 0
    rate := crfRate
    stepNs := (stepTotal / crfRate.toUInt64).toUInt32
    stepRem := (stepTotal % crfRate.toUInt64).toUInt32
    nextTsNs := 0
    fracAcc := 0
    gridValid := false }

/-- The grid has to be entered again to be near `target`. -/
def offGrid (ctx : CrfOutCtx) (target : UInt64) : Bool :=
  !ctx.gridValid || target + avbCrfGridResyncNs < ctx.nextTsNs ||
    ctx.nextTsNs + avbCrfGridResyncNs < target

def anchor (ctx : CrfOutCtx) (target : UInt64) : CrfOutCtx :=
  let sec := target / 1000000000
  let ns := target % 1000000000
  let nInSec := (ns * ctx.rate.toUInt64 + 999999999) / 1000000000
  let n := sec * ctx.rate.toUInt64 + nInSec
  let rem := n % ctx.rate.toUInt64
  { ctx with
    nextTsNs := n / ctx.rate.toUInt64 * 1000000000 + rem * 1000000000 / ctx.rate.toUInt64
    fracAcc := (rem * 1000000000 % ctx.rate.toUInt64).toUInt32
    gridValid := true }

def resync (ctx : CrfOutCtx) (target : UInt64) : CrfOutCtx :=
  if ctx.offGrid target then ctx.anchor target else ctx

/-- One timestamp interval on. -/
def advance (ctx : CrfOutCtx) : CrfOutCtx :=
  let nextTsNs := ctx.nextTsNs + ctx.stepNs.toUInt64
  let fracAcc := ctx.fracAcc + ctx.stepRem
  if ctx.rate ≤ fracAcc then
    { ctx with nextTsNs := nextTsNs + 1, fracAcc := fracAcc - ctx.rate }
  else { ctx with nextTsNs, fracAcc }

/-- The timestamp slots of one PDU. -/
def slots : Nat → CrfOutCtx → List (Octets 8) × CrfOutCtx
  | 0, ctx => ([], ctx)
  | k + 1, ctx =>
      let (rest, ctx') := slots k ctx.advance
      (Octets.ofNat 8 ctx.nextTsNs.toNat :: rest, ctx')

end CrfOutCtx

/-- One PDU, the reading it was sent at and whether the grid was entered for it. -/
structure CrfEmission where
  reading : Timespec
  anchored : Bool
  seqNum : UInt8
  slots : List (Octets 8)
  deriving DecidableEq, Repr

/-- `avb_crf_send_cb`. Without a reading of the clock nothing is sent. -/
def avbCrfSendCb (ctx : CrfOutCtx) : Option Timespec → CrfOutCtx × Option CrfEmission
  | none => (ctx, none)
  | some ts =>
      let target := ts.tvSec * 1000000000 + ts.tvNsec + avbCrfMaxTransitNs
      let (slots, ctx') := (ctx.resync target).slots avbCrfTsPerPdu
      ({ ctx' with seqNum := ctx.seqNum + 1 },
        some { reading := ts, anchored := ctx.offGrid target, seqNum := ctx.seqNum, slots })

/-- The PDUs of a run of callbacks. -/
def crfEmissions : CrfOutCtx → List (Option Timespec) → List CrfEmission
  | _, [] => []
  | ctx, reading :: readings =>
      (avbCrfSendCb ctx reading).2.toList ++ crfEmissions (avbCrfSendCb ctx reading).1 readings

end EspAvb
