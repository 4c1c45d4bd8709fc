import EspAvb.Am824Stream
import EspAvb.Timeline

/-!
# The packets of an AM824 talker

`avtp.c`, the stream-out task: what one turn of its loop makes of the timeline and the data block
counter. The timestamp is set to gPTP again where it is too far off; when that is and to what time is
an input here, as the corrections are.
-/

namespace EspAvb

/-- An AM824 stream in one of the classes. -/
structure Am824Pacing extends Am824Params where
  interval : Nat
  interval_eq : interval = 125 ∨ interval = 250

def Am824Pacing.timeline (pacing : Am824Pacing) : TimelineParams :=
  { sampleRate := pacing.sampleRate
    interval := pacing.interval
    rate_pos := lt_of_lt_of_le (by decide) (cipSfcToSampleRate_range _).1
    rate_lt := lt_of_le_of_lt (cipSfcToSampleRate_range _).2 (by decide)
    interval_eq := pacing.interval_eq }

structure Am824Loop where
  timeline : TimelineState
  talker : Am824Talker

def Am824Loop.start (nextSendTime : Int) (avtpMediaTs : UInt32) : Am824Loop :=
  { timeline := .start nextSendTime avtpMediaTs, talker := { seqNum := 0, dbc := 0 } }

/-- What one turn of the loop takes: `reanchor` is the gPTP time the packet was scheduled for, where
the timestamp is set to it. -/
structure Am824Turn where
  correction : CadenceCorrection
  reanchor : Option UInt32
  mr : Bool
  tu : Bool
  audio : Nat → UInt8

namespace Am824Loop

variable (pacing : Am824Pacing) (st : Am824Loop) (turn : Am824Turn)

/-- The timeline when the packet is stamped. -/
def clock : TimelineState :=
  let timeline := timelineStep pacing.timeline st.timeline turn.correction
  match turn.reanchor with
  | none => timeline
  | some schedGptp => { timeline with avtpMediaTs := schedGptp, tsRateFracQ16 := 0 }

def packet : Am824Packet :=
  { spp := (timelineSpp pacing.timeline st.timeline.sppAcc).1
    avtpMediaTs := (st.clock pacing turn).avtpMediaTs
    mr := turn.mr
    tu := turn.tu
    audio := turn.audio }

/-- One turn of the loop. -/
def next : Am824Loop :=
  { timeline := st.clock pacing turn, talker := st.talker.sent (st.packet pacing turn) }

end Am824Loop

end EspAvb
