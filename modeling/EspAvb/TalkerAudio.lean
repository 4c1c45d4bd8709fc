import EspAvb.AvbSrc
import EspAvb.StreamRx
import EspAvb.TalkerCapture

/-!
# The audio of a talker's packets

`avb_stream_out_task` in `avtp.c`, from the codec's frames to the octets of a packet: the conversion to
the stream's rate, the guard against capture slips, the microphone DSP and the two wire formats. The test
tone comes from a table, built in floating point once. Samples of 24 bits keep every 32-bit and 64-bit
value of the DSP and of the guard in range, so they are integers here.

The builds that send the listener's playout or a test pulse are left out.
-/

namespace EspAvb

/-! ### The microphone DSP -/

/-- `mic_dsp_state_s` -/
structure MicDsp where
  xPrev : Int
  yPrev : Int
  gainQ16 : Int
  muteQ16 : Int
  muteStep : Int
  deriving DecidableEq, Repr

def MicDsp.init (gainQ16 : Int) : MicDsp :=
  { xPrev := 0, yPrev := 0, gainQ16, muteQ16 := 65536, muteStep := 0 }

/-- One sample: the DC block, the gain with 24-bit saturation, and the mute behind them. -/
def micDspSample (st : MicDsp) (x : Int) : MicDsp × Int :=
  let y := x - st.xPrev + st.yPrev * 32735 / 2 ^ 15
  let y := max (-2 ^ 31) (min (2 ^ 31 - 1) y)
  let g := max (-0x800000) (min 0x7fffff (y * st.gainQ16 / 2 ^ 16))
  let st := { st with xPrev := x, yPrev := y }
  if st.muteQ16 < 65536 then
    let muted := g * st.muteQ16 / 2 ^ 16
    if st.muteStep = 0 then (st, muted)
    else if 65536 ≤ st.muteQ16 + st.muteStep then
      ({ st with muteQ16 := 65536, muteStep := 0 }, muted)
    else ({ st with muteQ16 := st.muteQ16 + st.muteStep }, muted)
  else (st, g)

/-- The left sample of a capture frame, and the slot that it leaves in. -/
def SrcFrame.left (frame : SrcFrame) : Int :=
  let slot := frame.getD 0 .zero
  sampleOfOctets slot.msb slot.mid slot.lsb

def slotOf24 (v : Int) : SrcSlot :=
  { msb := UInt8.ofInt (v / 2 ^ 16), mid := UInt8.ofInt (v / 2 ^ 8), lsb := UInt8.ofInt v, pad := 0 }

def micDspBe24 (st : MicDsp) (frame : SrcFrame) : MicDsp × SrcSlot :=
  let (st, v) := micDspSample st frame.left
  (st, slotOf24 v)

/-! ### The wire formats -/

def am824Octets (slot : SrcSlot) : List UInt8 := [0x40, slot.msb, slot.mid, slot.lsb]

def aafOctets (slot : SrcSlot) : List UInt8 := [slot.msb, slot.mid, slot.lsb, slot.pad]

/-- Only the left slot of a capture frame is sent, on channel 0, with silence on the others. -/
def i2s24ToMono (octets : SrcSlot → List UInt8) (streamChannels : Nat) :
    List SrcFrame → MicDsp → MicDsp × List UInt8
  | [], dsp => (dsp, [])
  | frame :: rest, dsp =>
      match streamChannels with
      | 0 => i2s24ToMono octets 0 rest dsp
      | n + 1 =>
          let (dsp, slot) := micDspBe24 dsp frame
          let (dsp, out) := i2s24ToMono octets (n + 1) rest dsp
          (dsp, octets slot ++ (List.replicate n (octets .zero)).flatten ++ out)

/-- `i2s24_to_am824_mono` -/
def i2s24ToAm824Mono := i2s24ToMono am824Octets

/-- `i2s24_to_aaf_mono` -/
def i2s24ToAafMono := i2s24ToMono aafOctets

/-- `copy_sine_from_lut`, for a table with four octets a slot: the frames and the next position. -/
def copySineFromLut (lut : Nat → SrcFrame) (lutSamples : Nat) : Nat → Nat → Nat × List SrcFrame
  | 0, pos => (pos, [])
  | n + 1, pos =>
      let (next, frames) := copySineFromLut lut lutSamples n ((pos + 1) % lutSamples)
      (next, lut pos :: frames)

/-- `be32_to_am824` -/
def be32ToAm824 (slots : List SrcSlot) : List UInt8 := (slots.map am824Octets).flatten

/-- `be32_to_aaf` -/
def be32ToAaf (slots : List SrcSlot) : List UInt8 := (slots.map aafOctets).flatten

/-! ### The slip guard -/

/-- What the guard keeps: of the signal, of the last edge in it, the pulses of the last packets, and how
many packets the mute is still held. -/
structure SlipGuard where
  prevX : Int
  absdiffEmaQ4 : Int
  sample : UInt32
  edgeSample : UInt32
  edgeDx : Int
  edgeMag : Int
  innerMax : Int
  window : Nat → Nat
  windowPos : Nat
  windowSum : Nat
  armedPkts : Nat
  muteHold : Nat

namespace SlipGuard

def init : SlipGuard :=
  { prevX := 0, absdiffEmaQ4 := 0, sample := 100, edgeSample := 0, edgeDx := 0, edgeMag := 0,
    innerMax := 0, window := fun _ => 0, windowPos := 0, windowSum := 0, armedPkts := 0, muteHold := 0 }

/-- A step back to where the edge came from, after a few smooth samples. -/
def returns (g : SlipGuard) (dx : Int) : Bool :=
  let since := g.sample - g.edgeSample
  2 ≤ since ∧ since ≤ 5 ∧ decide (dx < 0) ≠ decide (g.edgeDx < 0) ∧ |dx| < 2 * g.edgeMag ∧
    g.edgeMag / 2 < |dx| ∧ g.innerMax ≤ 4 * max (g.absdiffEmaQ4 / 16) 512

/-- One sample of the left slot, with the pulses of the packet so far. -/
def feed (state : SlipGuard × Nat) (x : Int) : SlipGuard × Nat :=
  let (g, pulses) := state
  let dx := x - g.prevX
  let next :=
    { g with
      prevX := x
      absdiffEmaQ4 := g.absdiffEmaQ4 + (|dx| * 16 - g.absdiffEmaQ4) / 2 ^ 10
      sample := g.sample + 1 }
  if 400 < g.armedPkts ∧ 4096 < |dx| ∧ 8 * (g.absdiffEmaQ4 / 16) < |dx| then
    if g.returns dx then ({ next with edgeSample := g.sample - 100 }, pulses + 1)
    else ({ next with edgeSample := g.sample, edgeDx := dx, edgeMag := |dx|, innerMax := 0 }, pulses)
  else if g.sample - g.edgeSample ≤ 5 ∧ g.innerMax < |dx| then ({ next with innerMax := |dx| }, pulses)
  else (next, pulses)

/-- The pulses of a packet come into the window, for those of the packet that leaves it. -/
def enter (windowLen : Nat) (g : SlipGuard) (pulses : Nat) : SlipGuard :=
  let entry := if 255 < pulses then 255 else pulses
  { g with
    armedPkts := if g.armedPkts ≤ 400 then g.armedPkts + 1 else g.armedPkts
    window := Function.update g.window g.windowPos entry
    windowSum := g.windowSum - g.window g.windowPos + entry
    windowPos := if windowLen ≤ g.windowPos + 1 then 0 else g.windowPos + 1 }

end SlipGuard

/-! ### The packet's audio -/

structure TalkerMedia where
  capture : CaptureConfig
  slipMute : Bool
  resample : Bool
  useSineWave : Bool
  lut : Nat → SrcFrame
  lutSamples : Nat
  table : Nat → Int

namespace TalkerMedia

variable (cfg : TalkerMedia)

def params : StreamOutParams := cfg.capture.params

def isAm824 : Bool := cfg.params.formatSubtype = avtpSubtype61883

/-- `slip_window_len`: 64 ms, at most what the window holds. -/
def windowLen : Nat := min (max (64000 / cfg.params.interval) 1) 512

/-- 500 ms of packets. -/
def muteHold : Nat := 500000 / cfg.params.interval

/-- A fade-in of 1 ms. -/
def muteStep : Int := max ((65536 / (cfg.params.sampleRate / 1000) : Nat) : Int) 1

end TalkerMedia

structure TalkerAudio where
  src : AvbSrc
  dsp : MicDsp
  guard : SlipGuard
  lutPos : Nat

/-- What a packet is made of: its octets of the capture, what the cadence and the rate loop say, and
whether the test tone is on. -/
structure TalkerInput where
  octets : List UInt8
  spp : Nat
  rateQ32 : Int
  testTone : Bool

/-- The frames in the octets of the codec, left slot first. -/
def framesOf : List UInt8 → List SrcFrame
  | a :: b :: c :: d :: e :: f :: g :: h :: rest => [⟨a, b, c, d⟩, ⟨e, f, g, h⟩] :: framesOf rest
  | _ => []

namespace TalkerAudio

def init (src : AvbSrc) (gainQ16 : Int) : TalkerAudio :=
  { src, dsp := .init gainQ16, guard := .init, lutPos := 0 }

variable (cfg : TalkerMedia)

/-- The guard on a packet: an episode mutes the output until the hold has run out after the last. -/
def slipGuard (st : TalkerAudio) (frames : List SrcFrame) : TalkerAudio :=
  let (guard, pulses) := (frames.map SrcFrame.left).foldl SlipGuard.feed (st.guard, 0)
  let guard := guard.enter cfg.windowLen pulses
  let dsp :=
    if 3 ≤ guard.windowSum ∧ guard.muteHold = 0 then { st.dsp with muteQ16 := 0, muteStep := 0 }
    else st.dsp
  let hold := if 3 ≤ guard.windowSum then cfg.muteHold else guard.muteHold
  { st with
    guard := { guard with muteHold := hold - 1 }
    dsp := if hold = 1 then { dsp with muteStep := cfg.muteStep } else dsp }

/-- The frames a packet carries, at the stream's rate. -/
def convert (st : TalkerAudio) (frames : List SrcFrame) (spp : Nat) (rateQ32 : Int) :
    TalkerAudio × List SrcFrame :=
  if cfg.resample then
    let run := avbSrcRun cfg.table { slots := 1, frameSlots := 2 } st.src frames spp rateQ32
    ({ st with src := run.src }, run.out)
  else (st, frames)

def mono (st : TalkerAudio) (frames : List SrcFrame) : TalkerAudio × List UInt8 :=
  let (dsp, octets) :=
    if cfg.isAm824 then i2s24ToAm824Mono cfg.params.channels frames st.dsp
    else i2s24ToAafMono cfg.params.channels frames st.dsp
  ({ st with dsp }, octets)

def sine (st : TalkerAudio) (spp : Nat) : TalkerAudio × List UInt8 :=
  let (lutPos, frames) := copySineFromLut cfg.lut cfg.lutSamples spp st.lutPos
  ({ st with lutPos }, if cfg.isAm824 then be32ToAm824 frames.flatten else be32ToAaf frames.flatten)

/-- The audio octets of a packet of `spp` frames, from the octets it was given of the capture. While the
test tone is on it takes the place of the input, which is processed all the same. -/
def fill (st : TalkerAudio) (input : TalkerInput) : TalkerAudio × List UInt8 :=
  if cfg.useSineWave then st.sine cfg input.spp
  else
    let (st, frames) := st.convert cfg (framesOf input.octets) input.spp input.rateQ32
    let st := if cfg.slipMute then st.slipGuard cfg frames else st
    let (st, audio) := st.mono cfg frames
    if input.testTone then st.sine cfg input.spp else (st, audio)

/-- The state before packet `n` of a stream. -/
def before (st : TalkerAudio) (input : Nat → TalkerInput) : Nat → TalkerAudio
  | 0 => st
  | n + 1 => ((before st input n).fill cfg (input n)).1

end TalkerAudio

end EspAvb
