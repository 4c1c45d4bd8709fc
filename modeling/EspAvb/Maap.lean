import EspAvb.Lib.Broadcast
import EspAvb.Lib.Machine
import EspAvb.Msrp

/-!
# Multicast address acquisition

`mrp.c`, MAAP: each output stream probes for a multicast address derived from the device's MAC, owns
it after the last probe and defends it. The devices of a network run `avb_maap_init`, `avb_maap_tick`
and `avb_process_maap` and send one another probes, defends and announces.
-/

namespace EspAvb

inductive MaapMsgType where
  | probe
  | defend
  | announce
  deriving DecidableEq, Repr

structure MaapMessage where
  msgType : MaapMsgType
  reqStartAddr : EthAddr
  reqCount : UInt16
  conflStartAddr : EthAddr
  conflCount : UInt16
  deriving DecidableEq, Repr

inductive MaapState where
  | initial
  | probe
  | defend
  deriving DecidableEq, Repr

structure MaapStreamState where
  state : MaapState
  acquiredAddr : EthAddr
  probeCount : UInt8
  timerExpiryUs : Nat
  acquired : Bool
  reselectCount : UInt16
  deriving DecidableEq, Repr

def MaapStreamState.zero : MaapStreamState :=
  { state := .initial, acquiredAddr := .zero 6, probeCount := 0, timerExpiryUs := 0, acquired := false
    reselectCount := 0 }

def MAAP_PROBE_RETRANSMITS : UInt8 := 3
def MAAP_PROBE_INTERVAL_BASE_MS : Nat := 500
def MAAP_PROBE_INTERVAL_VAR_MS : Nat := 100
def MAAP_ANNOUNCE_INTERVAL_BASE_MS : Nat := 30000
def MAAP_ANNOUNCE_INTERVAL_VAR_MS : Nat := 2000
def MAAP_POOL_SIZE : UInt32 := 0xFE00

/-- The address of a stream within the pool, from the octets of the MAC and the number of times the
stream has selected another one. -/
def maapGenerateAddr (mac : EthAddr) (reselectCount : UInt16) (streamIndex : Nat) : EthAddr :=
  let octet := fun i => (mac.bytes.getD i 0).toUInt32
  let seed := octet 2 ^^^ octet 3
  let seed := (seed <<< 8) ||| octet 4
  let seed := (seed <<< 8) ||| octet 5
  let seed := seed + UInt32.ofNat streamIndex
  let seed := seed + reselectCount.toUInt32 * 0x0101
  let offset := (seed % MAAP_POOL_SIZE).toUInt16
  ⟨[0x91, 0xe0, 0xf0, 0x00, (offset >>> 8).toUInt8, offset.toUInt8], rfl⟩

/-- The jitter is the clock's own low 32 bits. -/
def maapJitterUs (now base var : Nat) : Nat := (base + now % 2 ^ 32 % (var + 1)) * 1000

def maapProbeTimer (now : Nat) : Nat :=
  now + maapJitterUs now MAAP_PROBE_INTERVAL_BASE_MS MAAP_PROBE_INTERVAL_VAR_MS

def maapAnnounceTimer (now : Nat) : Nat :=
  now + maapJitterUs now MAAP_ANNOUNCE_INTERVAL_BASE_MS MAAP_ANNOUNCE_INTERVAL_VAR_MS

def maapMsg (msgType : MaapMsgType) (reqAddr : EthAddr) : MaapMessage :=
  { msgType, reqStartAddr := reqAddr, reqCount := 1, conflStartAddr := .zero 6, conflCount := 0 }

/-- One stream's turn in `avb_maap_init`, with what it sends. -/
def maapInitStream (mac : EthAddr) (i now : Nat) (m : MaapStreamState) :
    MaapStreamState × List MaapMessage :=
  let addr := maapGenerateAddr mac m.reselectCount i
  ({ m with state := .probe, acquired := false, acquiredAddr := addr,
            probeCount := MAAP_PROBE_RETRANSMITS, timerExpiryUs := maapProbeTimer now },
    [maapMsg .probe addr])

/-- One stream's turn in `avb_maap_tick`. -/
def maapTickStream (now : Nat) (m : MaapStreamState) : MaapStreamState × List MaapMessage :=
  if now < m.timerExpiryUs then (m, [])
  else
    match m.state with
    | .initial => (m, [])
    | .probe =>
        let m : MaapStreamState := { m with probeCount := m.probeCount - 1 }
        if m.probeCount = 0 then
          ({ m with state := .defend, acquired := true, timerExpiryUs := maapAnnounceTimer now },
            [maapMsg .announce m.acquiredAddr])
        else ({ m with timerExpiryUs := maapProbeTimer now }, [maapMsg .probe m.acquiredAddr])
    | .defend =>
        ({ m with timerExpiryUs := maapAnnounceTimer now }, [maapMsg .announce m.acquiredAddr])

/-- Another address, from the three probes on; the next one goes out on the armed timer. -/
def maapReselect (mac : EthAddr) (i now : Nat) (m : MaapStreamState) : MaapStreamState :=
  { m with
    reselectCount := m.reselectCount + 1
    acquiredAddr := maapGenerateAddr mac (m.reselectCount + 1) i
    probeCount := MAAP_PROBE_RETRANSMITS
    timerExpiryUs := maapProbeTimer now }

/-- One stream's turn in `avb_process_maap`. -/
def maapProcessStream (mac : EthAddr) (i now : Nat) (msg : MaapMessage) (m : MaapStreamState) :
    MaapStreamState × List MaapMessage :=
  if m.acquiredAddr ≠ msg.reqStartAddr then (m, [])
  else
    match msg.msgType, m.state with
    | .probe, .defend =>
        (m, [{ msgType := .defend, reqStartAddr := msg.reqStartAddr, reqCount := 1
               conflStartAddr := m.acquiredAddr, conflCount := 1 }])
    | .probe, .probe => (maapReselect mac i now m, [])
    | .defend, .probe => (maapReselect mac i now m, [])
    | .announce, .defend =>
        ({ maapReselect mac i now m with acquired := false, state := .probe }, [])
    | _, _ => (m, [])

/-! ### Devices -/

structure MaapDevice (numOutputStreams : Nat) where
  internalMacAddr : EthAddr
  maap : Fin numOutputStreams → MaapStreamState
  streamDestAddr : Fin numOutputStreams → EthAddr

variable {k : Nat}

/-- A loop over the output streams: each stream takes its turn, and what they send goes out in
order. -/
def MaapDevice.forStreams (d : MaapDevice k)
    (turn : Fin k → MaapStreamState → MaapStreamState × List MaapMessage) :
    MaapDevice k × List MaapMessage :=
  ({ d with maap := fun i => (turn i (d.maap i)).1 },
    (List.finRange k).flatMap fun i => (turn i (d.maap i)).2)

def avbMaapInit (now : Nat) (d : MaapDevice k) : MaapDevice k × List MaapMessage :=
  d.forStreams fun i => maapInitStream d.internalMacAddr i now

/-- A stream whose probing ends takes its address as the destination. -/
def avbMaapTick (now : Nat) (d : MaapDevice k) : MaapDevice k × List MaapMessage :=
  let (next, sent) := d.forStreams fun _ => maapTickStream now
  ({ next with streamDestAddr := fun i =>
      if (d.maap i).state = .probe ∧ (next.maap i).state = .defend then (next.maap i).acquiredAddr
      else d.streamDestAddr i }, sent)

def avbProcessMaap (now : Nat) (msg : MaapMessage) (d : MaapDevice k) :
    MaapDevice k × List MaapMessage :=
  d.forStreams fun i => maapProcessStream d.internalMacAddr i now msg

/-! ### A network of devices -/

/-- The number of output streams and the MAC of each device. -/
structure MaapConfig (n : Nat) where
  numOutputStreams : Fin n → Nat
  mac : Fin n → EthAddr

variable {n : Nat}

abbrev MaapNet (cfg : MaapConfig n) :=
  Broadcast.Net n (fun d => MaapDevice (cfg.numOutputStreams d)) MaapMessage

/-- Powered on, none initialised yet. -/
def MaapNet.boot (cfg : MaapConfig n) : MaapNet cfg where
  nodes d := { internalMacAddr := cfg.mac d, maap := fun _ => .zero, streamDestAddr := fun _ => .zero 6 }
  inFlight := []

/-- `now` is the reading of the acting device's own clock. -/
inductive MaapEvent (n : Nat) where
  | init (d : Fin n) (now : Nat)
  | tick (d : Fin n) (now : Nat)
  | deliver (message : Nat) (now : Nat)
  deriving DecidableEq, Repr

def maapStep (cfg : MaapConfig n) (net : MaapNet cfg) : MaapEvent n → MaapNet cfg
  | .init d now => net.act d (avbMaapInit now)
  | .tick d now => net.act d (avbMaapTick now)
  | .deliver message now => net.deliver message fun _ => avbProcessMaap now

end EspAvb
