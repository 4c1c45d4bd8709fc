import EspAvb.Lib.Machine
import EspAvb.Lib.RingTape
import EspAvb.StreamOut

/-!
# The talker's capture ring

`avb_stream_out_task` in `avtp.c` keeps the codec's audio in a ring and takes a packet's worth out of it.
On one core the RX interrupt (`i2s_rx_on_recv_cb` in `avbcodec.c`) fills the ring and may run at any time,
also while a packet's audio is copied out; on two the task reads the driver's queue itself before each
packet. Byte counters are 64 bits wide and do not wrap.
-/

namespace EspAvb

open RingTape

/-- A stereo frame of 24-in-32 slots. -/
def i2sFrameBytes : Nat := 8

/-- `capture_ring` is whether the interrupt fills the ring. -/
structure CaptureConfig where
  params : StreamOutParams
  captureRing : Bool

namespace CaptureConfig

variable (cfg : CaptureConfig)

def sppMax : Nat := cfg.params.sppBase + if cfg.params.sppRem = 0 then 0 else 1

/-- `i2s_read_size` -/
def readSize : Nat := cfg.sppMax * i2sFrameBytes

/-- `i2s_ring_size`: 32 ms for the interrupt, else 5 ms and at least four packets. -/
def ringSize : Nat :=
  if cfg.captureRing then
    let size := cfg.params.sampleRate * i2sFrameBytes * 32 / 1000
    size - size % i2sFrameBytes
  else
    let size := cfg.params.sampleRate * i2sFrameBytes * 5 / 1000
    max (size - size % i2sFrameBytes) (cfg.readSize * 4)

/-- `ring_setpoint`, from the ring of 5 ms in either case. -/
def ringSetpoint : Nat :=
  let size := cfg.params.sampleRate * i2sFrameBytes * 5 / 1000
  max (size - size % i2sFrameBytes) (cfg.readSize * 4) / 2

end CaptureConfig

/-- What a packet was given: audio from a position of the capture on, or silence in its place. -/
inductive CaptureBlock where
  | audio (pos : Nat) (octets : List UInt8)
  | silence (len : Nat)

/-- `captureWritePos` and `captureHead` belong to the interrupt, the rest to the task. `copy` is a copy
out of the ring under way: how much it takes, and the octets it has. `tape` is what was captured so far,
`blocks` what the packets were given, and `begun` where the first of them could start. -/
structure TalkerCapture where
  ring : Nat → UInt8
  captureWritePos : Nat
  captureHead : Nat
  i2sRingHead : Nat
  i2sRingTail : Nat
  running : Bool
  copy : Option (Nat × List UInt8)
  captureDropped : Nat
  ringUnderruns : Nat
  tape : List UInt8
  blocks : List CaptureBlock
  begun : Nat

inductive CaptureEvent where
  /-- the interrupt -/
  | recv (dmaBuf : List UInt8)
  /-- a read of the pre-fill, and its end -/
  | prefill (dma : List UInt8)
  | start
  /-- a packet takes `len` octets; the driver's queue has `dma` -/
  | packet (len : Nat) (dma : List UInt8)
  /-- one more octet of the copy, or its end -/
  | copy

namespace TalkerCapture

variable (cfg : CaptureConfig)

def init : TalkerCapture :=
  { ring := fun _ => 0, captureWritePos := 0, captureHead := 0, i2sRingHead := 0, i2sRingTail := 0,
    running := false, copy := none, captureDropped := 0, ringUnderruns := 0, tape := [], blocks := [],
    begun := 0 }

def ringAvail (s : TalkerCapture) : Nat := s.i2sRingHead - s.i2sRingTail

def i2sRxOnRecv (s : TalkerCapture) (dmaBuf : List UInt8) : TalkerCapture :=
  if cfg.captureRing then
    let first := cfg.ringSize - s.captureWritePos
    let pos := s.captureWritePos + dmaBuf.length
    { s with
      ring := blit (blit s.ring s.captureWritePos (dmaBuf.take first)) 0 (dmaBuf.drop first)
      captureWritePos := if cfg.ringSize ≤ pos then pos - cfg.ringSize else pos
      captureHead := s.captureHead + dmaBuf.length
      tape := s.tape ++ dmaBuf }
  else s

/-- How much fits up to the end of the ring, in whole frames. -/
def chunk (s : TalkerCapture) : Nat :=
  let chunk := min (cfg.ringSize - s.i2sRingHead % cfg.ringSize) (cfg.ringSize - s.ringAvail)
  chunk - chunk % i2sFrameBytes

/-- A read of the driver's queue into the ring; a trailing part of a frame is not counted. -/
def refill (s : TalkerCapture) (dma : List UInt8) : TalkerCapture :=
  if s.ringAvail < cfg.ringSize then
    let read := dma.take (s.chunk cfg)
    let bytesRead := read.length - read.length % i2sFrameBytes
    { s with
      ring := blit s.ring (s.i2sRingHead % cfg.ringSize) read
      i2sRingHead := s.i2sRingHead + bytesRead
      tape := s.tape ++ read.take bytesRead }
  else s

/-- The stream starts half a ring behind the interrupt, or with what the pre-fill read. -/
def start (s : TalkerCapture) : TalkerCapture :=
  if cfg.captureRing then
    let tail :=
      if cfg.ringSetpoint < s.captureHead then
        let tail := s.captureHead - cfg.ringSetpoint
        tail - tail % i2sFrameBytes
      else s.i2sRingTail
    { s with i2sRingHead := s.captureHead, i2sRingTail := tail, running := true, begun := tail }
  else { s with running := true, begun := s.i2sRingTail }

/-- Audio that the interrupt is about to overwrite is given up. -/
def skip (s : TalkerCapture) : TalkerCapture :=
  let s := { s with i2sRingHead := s.captureHead }
  if cfg.ringSize - 2 * cfg.readSize < s.ringAvail then
    let resume := s.i2sRingHead - cfg.ringSetpoint
    let resume := resume - resume % i2sFrameBytes
    { s with
      captureDropped := s.captureDropped + (resume - s.i2sRingTail)
      i2sRingTail := resume }
  else s

def take (s : TalkerCapture) (len : Nat) : TalkerCapture :=
  if len ≤ s.ringAvail then { s with copy := some (len, []) }
  else
    { s with
      blocks := s.blocks ++ [.silence len]
      ringUnderruns := s.ringUnderruns + 1 }

def packet (s : TalkerCapture) (len : Nat) (dma : List UInt8) : TalkerCapture :=
  if cfg.captureRing then take (skip cfg s) len else take (refill cfg s dma) len

def copyStep (s : TalkerCapture) : TalkerCapture :=
  match s.copy with
  | none => s
  | some (len, done) =>
      if done.length < len then
        let cell := wrapAt cfg.ringSize (s.i2sRingTail % cfg.ringSize) done.length
        { s with copy := some (len, done ++ [s.ring cell]) }
      else
        { s with
          copy := none
          i2sRingTail := s.i2sRingTail + len
          blocks := s.blocks ++ [.audio s.i2sRingTail done] }

def step (s : TalkerCapture) : CaptureEvent → TalkerCapture
  | .recv dmaBuf => i2sRxOnRecv cfg s dmaBuf
  | .prefill dma => if s.running ∨ cfg.captureRing then s else refill cfg s dma
  | .start => if s.running then s else start cfg s
  | .packet len dma => if s.running ∧ s.copy.isNone then packet cfg s len dma else s
  | .copy => copyStep cfg s

end TalkerCapture

end EspAvb
