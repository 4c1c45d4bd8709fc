import EspAvb.Lib.Machine
import EspAvb.StreamRx

/-!
# An AM824 stream from talker to listener

`avtp.c`: the packets of the 61883-6 talker, with the timestamp rule of `stream_out_task`, and a
listener that takes them through `avb_stream_rx_handler`. Packets may be lost on the way, and between
two packets the drain plays from the ring and owns the gate.
-/

namespace EspAvb

/-! ### The talker -/

structure Am824Params where
  streamId : List UInt8
  streamId_length : streamId.length = 8
  cipSfc : UInt8
  dbs : UInt8
  presentationTimeOffsetNs : UInt32
  /-- `CONFIG_ESP_AVB_AM824_CIP_SYT` -/
  cipSyt : Bool

namespace Am824Params

variable (params : Am824Params)

def sampleRate : Nat := cipSfcToSampleRate (params.cipSfc.toNat % 8)

def sytInterval : Nat :=
  if params.sampleRate ≤ 48000 then 8 else if params.sampleRate ≤ 96000 then 16 else 32

def nsPerSample : Nat := (1000000000 + params.sampleRate / 2) / params.sampleRate

end Am824Params

/-- What goes into one packet: its length in frames, the media time of its first frame, the header
flags of the moment and the audio octets. -/
structure Am824Packet where
  spp : Nat
  avtpMediaTs : UInt32
  mr : Bool
  tu : Bool
  audio : Nat → UInt8

structure Am824Talker where
  seqNum : UInt8
  dbc : UInt16

/-- Frames from the start of the packet to the next SYT_INTERVAL boundary. -/
def boundaryOffset (params : Am824Params) (dbc : UInt16) : Nat :=
  (params.sytInterval - dbc.toNat % params.sytInterval) % params.sytInterval

/-- The timestamp of a packet and whether it is valid. -/
def am824Stamp (params : Am824Params) (dbc : UInt16) (pkt : Am824Packet) : Bool × UInt32 :=
  let presentationTs := pkt.avtpMediaTs + params.presentationTimeOffsetNs
  let k := boundaryOffset params dbc
  if pkt.spp ≤ k then (false, if params.cipSyt then 0 else presentationTs)
  else (true, presentationTs + UInt32.ofNat (k * params.nsPerSample))

/-- The AVTP and CIP headers. -/
def am824Header (params : Am824Params) (st : Am824Talker) (pkt : Am824Packet) : List UInt8 :=
  let (tv, ts) := am824Stamp params st.dbc pkt
  let sdl := 8 + pkt.spp * params.dbs.toNat * 4
  [0x00, 0x80 ||| (if pkt.mr then 0x08 else 0) ||| (if tv then 0x01 else 0), st.seqNum,
      if pkt.tu then 0x01 else 0x00]
    ++ params.streamId
    ++ [(ts >>> 24).toUInt8, (ts >>> 16).toUInt8, (ts >>> 8).toUInt8, ts.toUInt8]
    ++ [0, 0, 0, 0, UInt8.ofNat (sdl / 256), UInt8.ofNat sdl, 0x5f, 0xa0]
    ++ [0x3f, params.dbs, 0x00, UInt8.ofNat st.dbc.toNat, 0x90, params.cipSfc &&& 0x07]
    ++ (if params.cipSyt then
        [UInt8.ofNat (params.sytInterval / 256), UInt8.ofNat params.sytInterval]
      else [0xff, 0xff])

def am824Frame (params : Am824Params) (st : Am824Talker) (pkt : Am824Packet) : RxFrame :=
  { octet := fun i =>
      if i < 32 then (am824Header params st pkt).getD i 0 else pkt.audio (i - 32)
    len := 32 + pkt.spp * params.dbs.toNat * 4 }

def Am824Talker.sent (st : Am824Talker) (pkt : Am824Packet) : Am824Talker :=
  { seqNum := st.seqNum + 1, dbc := st.dbc + UInt16.ofNat pkt.spp }

/-! ### The pair -/

/-- What a pass of the drain changes: it consumes from the ring, and locks, unlocks and disarms the
gate. -/
structure DrainPass where
  consumed : Nat
  drainLocked : Bool
  disarm : Bool
  diagGateMode : UInt8
  learnedLatencyNs : UInt32

theorem JitterRing.fill_le_consume (r : JitterRing) (n : Nat) :
    (r.head - (r.tail + UInt32.ofNat (min n r.readable))).toNat ≤ r.capacity := by
  have hcap := r.capacity_le
  have hfill := r.fill_le
  have hsize : UInt32.size = 2 ^ 32 := rfl
  have hmin : min n r.readable ≤ r.readable := Nat.min_le_right _ _
  simp only [JitterRing.readable] at hmin ⊢
  have hle : UInt32.ofNat (min n (r.head - r.tail).toNat) ≤ r.head - r.tail := by
    rw [UInt32.le_iff_toNat_le, UInt32.toNat_ofNat_of_lt' (by omega)]
    exact hmin
  have hmove : r.head - (r.tail + UInt32.ofNat (min n (r.head - r.tail).toNat))
      = (r.head - r.tail) - UInt32.ofNat (min n (r.head - r.tail).toNat) := by
    grind
  rw [hmove, UInt32.toNat_sub_of_le _ _ hle]
  omega

def JitterRing.consume (r : JitterRing) (n : Nat) : JitterRing :=
  { r with
    tail := r.tail + UInt32.ofNat (min n r.readable)
    fill_le := r.fill_le_consume n }

def DrainPass.apply (pass : DrainPass) (ctx : StreamRxCtx) : StreamRxCtx :=
  { ctx with
    ring := ctx.ring.consume pass.consumed
    drainLocked := pass.drainLocked
    gateArmed := ctx.gateArmed && !pass.disarm
    diagGateMode := pass.diagGateMode
    learnedLatencyNs := pass.learnedLatencyNs }

structure StreamLink where
  talker : Am824Talker
  listener : StreamRxCtx

inductive LinkEvent where
  /-- a packet that arrives, and the clocks it arrives at -/
  | delivered (pkt : Am824Packet) (clock : RxClock)
  | lost (pkt : Am824Packet)
  | drain (pass : DrainPass)

def linkStep (params : Am824Params) (p : ConcealParams) (s : StreamLink) : LinkEvent → StreamLink
  | .delivered pkt clock =>
      { talker := s.talker.sent pkt
        listener := (avbStreamRxHandler p s.listener (am824Frame params s.talker pkt) clock).value }
  | .lost pkt => { s with talker := s.talker.sent pkt }
  | .drain pass => { s with listener := pass.apply s.listener }

end EspAvb
