import EspAvb.Mrpdu
import EspAvb.Lib.Machine
import EspAvb.Lib.SlotRing

/-!
# The station pacer

Wi-Fi hands the bridge a station's stream in bursts; `station_pacer_forward` (`avbnet.c`) lets each
frame through, or queues it, so that it goes out no sooner than the stream's TSpec allows, and
`station_pacer_drain` sends what is queued. Two contexts run them: the forwarding context and the
pacer task. A step below is one critical section, one transmit or one reading of the clock of one of
the two; between any two steps the other context may take any number.
-/

namespace EspAvb

def stationPacerStreams : Nat := 8
def stationPacerDepth : Nat := 64
def stationPacerSlotBytes : Nat := 1522
/-- MaxIntervalFrames is honoured up to this. -/
def stationPacerMaxFrames : Nat := 8
def stationPacerIdleUs : Nat := 2000000

abbrev PacerIndex := Fin stationPacerStreams

/-- `station_pacer_t`. The next frame may go one interval after `sentNs sentIdx`, the oldest of the
last `maxFrames` send times. -/
structure StationPacer where
  valid : Bool
  streamId : List UInt8
  egressPort : Nat
  intervalNs : Nat
  maxFrames : Nat
  sentNs : Nat → Nat
  sentIdx : Nat
  lastSeenUs : Nat
  head : Nat
  count : Nat
  inFlight : Nat
  len : Nat → Nat
  allocated : Bool
  slot : Nat → List UInt8

def stationPacerNextNs (pacer : StationPacer) : Nat := pacer.sentNs pacer.sentIdx + pacer.intervalNs

def stationPacerNoteSend (pacer : StationPacer) (nowNs : Nat) : StationPacer :=
  { pacer with
    sentNs := Function.update pacer.sentNs pacer.sentIdx nowNs
    sentIdx := (pacer.sentIdx + 1) % pacer.maxFrames }

/-- The octets a transmit reads from a slot. -/
def StationPacer.frame (pacer : StationPacer) (slot len : Nat) : List UInt8 :=
  (pacer.slot slot).take len

/-- The head leaves the queue; its slot is read when it is transmitted. -/
def StationPacer.takeHead (pacer : StationPacer) (nowNs : Nat) : StationPacer :=
  stationPacerNoteSend
    { pacer with
      head := (pacer.head + 1) % stationPacerDepth
      count := pacer.count - 1
      inFlight := pacer.inFlight + 1 } nowNs

def StationPacer.enqueue (pacer : StationPacer) (octets : List UInt8) : StationPacer :=
  let tail := (pacer.head + pacer.count) % stationPacerDepth
  { pacer with
    slot := Function.update pacer.slot tail (octets ++ (pacer.slot tail).drop octets.length)
    len := Function.update pacer.len tail octets.length
    count := pacer.count + 1 }

/-- The entry is taken over for a stream; `maxFrames` 0 forces the send history to be reset. -/
def StationPacer.claim (pacer : StationPacer) (streamId : List UInt8) : StationPacer :=
  { pacer with valid := true, streamId, head := 0, count := 0, maxFrames := 0 }

def StationPacer.configure (pacer : StationPacer) (egressPort intervalNs maxFrames nowUs : Nat) :
    StationPacer :=
  let pacer := { pacer with egressPort, intervalNs, lastSeenUs := nowUs }
  if pacer.maxFrames ≠ maxFrames then
    { pacer with maxFrames, sentNs := fun _ => 0, sentIdx := 0 }
  else pacer

def StationPacer.landed (pacer : StationPacer) : StationPacer :=
  { pacer with inFlight := pacer.inFlight - 1 }

/-- What `station_pacer_forward` works out of a frame before it looks for the pacer. -/
structure StationFrame where
  octets : List UInt8
  egressPort : Nat
  maxFrames : Nat
  nowUs : Nat

def streamIdOf (octets : List UInt8) : List UInt8 := (octets.drop 22).take 8

/-- PCP 3 is SR class A. -/
def streamIntervalNs (octets : List UInt8) : Nat :=
  if octetAt octets 14 / 32 = 3 then 125000 else 250000

/-- VLAN-tagged AVTP stream data with a valid stream ID. -/
def isStationStream (octets : List UInt8) : Bool :=
  30 ≤ octets.length ∧ octets.length ≤ stationPacerSlotBytes ∧ octetAt octets 16 = 0x22 ∧
    octetAt octets 17 = 0xf0 ∧ octetAt octets 18 < 0x80 ∧ 0x80 ≤ octetAt octets 19

def honouredFrames (maxIntervalFrames : Nat) : Nat :=
  if maxIntervalFrames = 0 then 1 else min maxIntervalFrames stationPacerMaxFrames

/-- Where a context stands in `station_pacer_drain`, with what it holds in its variables there. -/
inductive DrainPc where
  | enter
  | read
  | scan (nowNs : Nat)
  | transmit (i : PacerIndex) (slot len nowNs : Nat)
  | done (i : PacerIndex)
  | arm (earliestNs : Nat)
  deriving DecidableEq

/-- Where the forwarding context stands in `station_pacer_forward`. -/
inductive ForwardPc where
  | idle
  | lookup (frame : StationFrame)
  | configure (frame : StationFrame) (i : PacerIndex)
  | offer (frame : StationFrame) (i : PacerIndex)
  | transmitHead (frame : StationFrame) (i : PacerIndex) (slot len : Nat)
  | headDone (frame : StationFrame) (i : PacerIndex)
  | transmitOwn (frame : StationFrame) (i : PacerIndex)
  | ownDone (i : PacerIndex)
  | drain (pc : DrainPc)

/-- A frame handed to `avb_bridge_forward`. -/
structure PacedFrame where
  egressPort : Nat
  octets : List UInt8
  timeNs : Nat
  deriving DecidableEq

/-- Both contexts with what they share. `accepted` and `transmitted` only grow: the frames let in, and
those handed on. -/
structure StationPacers where
  clockUs : Nat
  initOk : Option Bool
  pacers : PacerIndex → StationPacer
  draining : Bool
  alarmUs : Option Nat
  notified : Bool
  forward : ForwardPc
  task : Option DrainPc
  accepted : List (List UInt8)
  transmitted : List PacedFrame

def StationPacer.zero : StationPacer :=
  { valid := false, streamId := List.replicate 8 0, egressPort := 0, intervalNs := 0, maxFrames := 0,
    sentNs := fun _ => 0, sentIdx := 0, lastSeenUs := 0, head := 0, count := 0, inFlight := 0,
    len := fun _ => 0, allocated := false, slot := fun _ => [] }

def StationPacers.init : StationPacers :=
  { clockUs := 0, initOk := .none, pacers := fun _ => .zero, draining := false, alarmUs := .none,
    notified := false, forward := .idle, task := .none, accepted := [], transmitted := [] }

namespace StationPacers

def nowNs (s : StationPacers) : Nat := s.clockUs * 1000

def setPacer (s : StationPacers) (i : PacerIndex) (pacer : StationPacer) : StationPacers :=
  { s with pacers := Function.update s.pacers i pacer }

def setForward (s : StationPacers) (pc : ForwardPc) : StationPacers := { s with forward := pc }

def transmit (s : StationPacers) (egressPort : Nat) (octets : List UInt8) : StationPacers :=
  { s with transmitted := s.transmitted ++ [{ egressPort, octets, timeNs := s.nowNs }] }

def accept (s : StationPacers) (octets : List UInt8) : StationPacers :=
  { s with accepted := s.accepted ++ [octets] }

/-- The first pacer whose turn has come. -/
def due? (s : StationPacers) (nowNs : Nat) : Option PacerIndex :=
  (List.finRange stationPacerStreams).find? fun i =>
    (s.pacers i).valid && decide (0 < (s.pacers i).count) &&
      decide (stationPacerNextNs (s.pacers i) ≤ nowNs)

def earliestNs (s : StationPacers) : Option Nat :=
  (((List.finRange stationPacerStreams).filter fun i =>
    (s.pacers i).valid && decide (0 < (s.pacers i).count)).map fun i =>
      stationPacerNextNs (s.pacers i)).min?

/-- One step of `station_pacer_drain`; `none` where it returns. -/
def drainStep (s : StationPacers) (armed : Bool) : DrainPc → StationPacers × Option DrainPc
  | .enter => if s.draining then (s, .none) else ({ s with draining := true }, some .read)
  | .read => (s, some (.scan s.nowNs))
  | .scan nowNs =>
      match s.due? nowNs with
      | some i =>
          let pacer := s.pacers i
          (s.setPacer i (pacer.takeHead nowNs),
            some (.transmit i pacer.head (pacer.len pacer.head) nowNs))
      | none => ({ s with draining := false }, s.earliestNs.map .arm)
  | .transmit i slot len _ =>
      (s.transmit (s.pacers i).egressPort ((s.pacers i).frame slot len), some (.done i))
  | .done i => (s.setPacer i (s.pacers i).landed, some .read)
  | .arm earliestNs =>
      if armed then
        ({ s with alarmUs := some (s.clockUs + max 5 ((earliestNs + 999 - s.nowNs) / 1000)) }, .none)
      else (s, .none)

/-- The pacer of the frame's stream. -/
def find? (s : StationPacers) (streamId : List UInt8) : Option PacerIndex :=
  (List.finRange stationPacerStreams).find? fun i =>
    (s.pacers i).valid && decide ((s.pacers i).streamId = streamId)

/-- A pacer never used, or idle for long. -/
def spare? (s : StationPacers) (nowUs : Nat) : Option PacerIndex :=
  (List.finRange stationPacerStreams).find? fun i =>
    !(s.pacers i).valid || (decide ((s.pacers i).count = 0) && decide ((s.pacers i).inFlight = 0) &&
      decide (stationPacerIdleUs + (s.pacers i).lastSeenUs < nowUs))

/-- The critical section in which a frame finds its pacer. An entry without a queue gets one, and
this frame goes out unpaced: `station_pacer_forward` returns false. -/
def lookupStep (s : StationPacers) (frame : StationFrame) (mallocOk : Bool) : StationPacers :=
  match s.find? (streamIdOf frame.octets) with
  | some i => s.setForward (.configure frame i)
  | none =>
      match s.spare? frame.nowUs with
      | some i =>
          if (s.pacers i).allocated then
            (s.setPacer i ((s.pacers i).claim (streamIdOf frame.octets))).setForward
              (.configure frame i)
          else
            (s.setPacer i { s.pacers i with allocated := mallocOk }).setForward .idle
      | none => s.setForward .idle

/-- The critical section that decides what becomes of a frame. -/
def offerStep (s : StationPacers) (frame : StationFrame) (i : PacerIndex) : StationPacers :=
  let pacer := s.pacers i
  let nowNs := frame.nowUs * 1000
  if pacer.count = 0 ∧ pacer.inFlight = 0 ∧ s.draining = false ∧ stationPacerNextNs pacer ≤ nowNs then
    ((s.setPacer i (stationPacerNoteSend { pacer with inFlight := pacer.inFlight + 1 } nowNs)).accept
      frame.octets).setForward (.transmitOwn frame i)
  else if pacer.count + pacer.inFlight < stationPacerDepth then
    ((s.setPacer i (pacer.enqueue frame.octets)).accept frame.octets).setForward (.drain .enter)
  else if 0 < pacer.count then
    -- full: the oldest goes early, and this one is offered again
    (s.setPacer i (pacer.takeHead nowNs)).setForward
      (.transmitHead frame i pacer.head (pacer.len pacer.head))
  else
    ((s.setPacer i { pacer with inFlight := pacer.inFlight + 1 }).accept frame.octets).setForward
      (.transmitOwn frame i)

/-- One step of the forwarding context. `ok` is what the allocation or the arming answers. -/
def forwardStep (s : StationPacers) (ok : Bool) : StationPacers :=
  match s.forward with
  | .idle => s
  | .lookup frame => s.lookupStep frame ok
  | .configure frame i =>
      (s.setPacer i ((s.pacers i).configure frame.egressPort (streamIntervalNs frame.octets)
        frame.maxFrames frame.nowUs)).setForward (.offer frame i)
  | .offer frame i => s.offerStep frame i
  | .transmitHead frame i slot len =>
      (s.transmit frame.egressPort ((s.pacers i).frame slot len)).setForward (.headDone frame i)
  | .headDone frame i => (s.setPacer i (s.pacers i).landed).setForward (.offer frame i)
  | .transmitOwn frame i =>
      (s.transmit frame.egressPort frame.octets).setForward (.ownDone i)
  | .ownDone i => (s.setPacer i (s.pacers i).landed).setForward (.drain .enter)
  | .drain pc =>
      let (s, pc) := s.drainStep ok pc
      s.setForward ((pc.map .drain).getD .idle)

/-- A frame comes in. It is not the pacer's where it is no stream data, no Talker Advertise of the
stream is registered on the Wi-Fi port (`maxIntervalFrames` is none) or the pacer is not up. -/
def arrive (s : StationPacers) (octets : List UInt8) (egressPort : Nat)
    (maxIntervalFrames : Option Nat) (up : Bool) : StationPacers :=
  match s.forward, maxIntervalFrames with
  | .idle, some maxIntervalFrames =>
      if isStationStream octets then
        let ok := s.initOk.getD up
        let s := { s with initOk := some ok }
        if ok then
          s.setForward (.lookup
            { octets, egressPort, maxFrames := honouredFrames maxIntervalFrames, nowUs := s.clockUs })
        else s
      else s
  | _, _ => s

/-- The pacer task: it waits for a notification, then drains. -/
def taskStep (s : StationPacers) (armed : Bool) : StationPacers :=
  match s.task with
  | none => if s.notified then { s with notified := false, task := some .enter } else s
  | some pc =>
      let (s, pc) := s.drainStep armed pc
      { s with task := pc }

/-- The alarm notifies the task. -/
def alarm (s : StationPacers) : StationPacers :=
  match s.alarmUs with
  | some us => if us ≤ s.clockUs then { s with alarmUs := .none, notified := true } else s
  | none => s

end StationPacers

inductive PacerEvent where
  | pass (us : Nat)
  | arrive (octets : List UInt8) (egressPort : Nat) (maxIntervalFrames : Option Nat) (up : Bool)
  | forward (ok : Bool)
  | task (armed : Bool)
  | alarm

def pacerStep (s : StationPacers) : PacerEvent → StationPacers
  | .pass us => { s with clockUs := s.clockUs + us }
  | .arrive octets egressPort maxIntervalFrames up => s.arrive octets egressPort maxIntervalFrames up
  | .forward ok => s.forwardStep ok
  | .task armed => s.taskStep armed
  | .alarm => s.alarm

end EspAvb
