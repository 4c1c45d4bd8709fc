import EspAvb.Am824Stream
import EspAvb.StreamDrain
import EspAvb.TalkerAudio

/-!
# A stream from talker to listener

`avtp.c`: the packets of `avb_stream_out_task`, a network that keeps their order, and the listener's
packet handler and drain. What a packet is stamped with comes from clocks and is an input here.
-/

namespace EspAvb

/-- `sample_rate_to_aaf_code` -/
def sampleRateToAafCode : Nat → UInt8
  | 8000 => 1
  | 16000 => 2
  | 24000 => 10
  | 32000 => 3
  | 44100 => 4
  | 48000 => 5
  | 88200 => 6
  | 96000 => 7
  | 176400 => 8
  | 192000 => 9
  | _ => 5

/-- What both ends are built with. -/
structure LinkConfig where
  media : TalkerMedia
  am824 : Am824Params
  conceal : ConcealParams
  drain : DrainConfig

/-- The AVTP header of an AAF packet, whose timestamp is always valid and that of its first frame. -/
def aafHeader (cfg : LinkConfig) (seqNum : UInt8) (pkt : Am824Packet) : List UInt8 :=
  let ts := pkt.avtpMediaTs + cfg.am824.presentationTimeOffsetNs
  let sdl := pkt.spp * cfg.media.params.channels * 4
  let format : UInt8 := if cfg.media.params.bitDepth ≤ 16 then 0x04 else 0x02
  [0x02, 0x80 ||| (if pkt.mr then 0x08 else 0) ||| 0x01, seqNum, if pkt.tu then 0x01 else 0x00]
    ++ cfg.am824.streamId
    ++ [(ts >>> 24).toUInt8, (ts >>> 16).toUInt8, (ts >>> 8).toUInt8, ts.toUInt8]
    ++ [format, (sampleRateToAafCode cfg.media.params.sampleRate &&& 0x0f) <<< 4,
      UInt8.ofNat cfg.media.params.channels, UInt8.ofNat cfg.media.params.bitDepth,
      UInt8.ofNat (sdl / 256), UInt8.ofNat sdl, 0x00, 0x00]

def aafFrame (cfg : LinkConfig) (seqNum : UInt8) (pkt : Am824Packet) : RxFrame :=
  { octet := fun i =>
      if i < 24 then (aafHeader cfg seqNum pkt).getD i 0 else pkt.audio (i - 24)
    len := 24 + pkt.spp * cfg.media.params.channels * 4 }

/-- The clocks' part of a packet. -/
structure PacketStamp where
  avtpMediaTs : UInt32
  mr : Bool
  tu : Bool

structure AudioLink where
  audio : TalkerAudio
  seqNum : UInt8
  dbc : UInt16
  wire : List RxFrame
  playout : StreamDrain

inductive MediaEvent where
  | packet (input : TalkerInput) (stamp : PacketStamp)
  | deliver (clock : RxClock)
  | pass (turn : DrainTurn)

namespace AudioLink

variable (cfg : LinkConfig)

def frameOf (s : AudioLink) (octets : List UInt8) (spp : Nat) (stamp : PacketStamp) : RxFrame :=
  let pkt : Am824Packet :=
    { spp, avtpMediaTs := stamp.avtpMediaTs, mr := stamp.mr, tu := stamp.tu,
      audio := fun i => octets.getD i 0 }
  if cfg.media.isAm824 then am824Frame cfg.am824 { seqNum := s.seqNum, dbc := s.dbc } pkt
  else aafFrame cfg s.seqNum pkt

def send (s : AudioLink) (input : TalkerInput) (stamp : PacketStamp) : AudioLink :=
  let (audio, octets) := s.audio.fill cfg.media input
  { s with
    audio
    seqNum := s.seqNum + 1
    dbc := if cfg.media.isAm824 then s.dbc + UInt16.ofNat input.spp else s.dbc
    wire := s.wire ++ [s.frameOf cfg octets input.spp stamp] }

def step (s : AudioLink) : MediaEvent → AudioLink
  | .packet input stamp => s.send cfg input stamp
  | .deliver clock =>
      match s.wire with
      | [] => s
      | frame :: wire =>
          { s with wire, playout := playStep cfg.conceal cfg.drain s.playout (.packet frame clock) }
  | .pass turn => { s with playout := playStep cfg.conceal cfg.drain s.playout (.pass turn) }

end AudioLink

end EspAvb
