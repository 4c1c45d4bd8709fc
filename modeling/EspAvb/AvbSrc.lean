import EspAvb.Lib.Machine
import EspAvb.Lib.TwiceRing
import EspAvb.Pll

/-!
# The sample-rate converter

`avbsrc.c`: the position that moves by walks, the input history and the conversion of one block. The
coefficient table is built in floating point once; here it is a parameter.

A frame is the list of its slots. A block's frames fit the address space, so its counts fit an int.
-/

namespace EspAvb

def avbSrcTaps : Nat := 16
def avbSrcPhasesLog2 : Nat := 6
def avbSrcSlots : Nat := 2
def avbSrcWalkFrames : Nat := 4096
def srcOne : Int := 2 ^ 32

/-- One 24-in-32 slot, most significant octet first. -/
structure SrcSlot where
  msb : UInt8
  mid : UInt8
  lsb : UInt8
  pad : UInt8
  deriving DecidableEq, Repr

def SrcSlot.zero : SrcSlot := ⟨0, 0, 0, 0⟩

abbrev SrcFrame := List SrcSlot

/-- `avb_src_pos_s` -/
structure SrcPos where
  frac : Nat
  owed : Int
  walkStep : Int
  walkLeft : Nat
  extra : Int
  deriving DecidableEq, Repr

/-- `avb_src_s`; the history of a slot is a function of the index. -/
structure AvbSrc where
  hist : Nat → Nat → Int
  histPos : Nat
  pos : SrcPos
  walks : Nat

/-- `avb_src_init` -/
def avbSrcInit : AvbSrc :=
  { hist := fun _ _ => 0
    histPos := 0
    pos := { frac := 0, owed := 0, walkStep := 0, walkLeft := 0, extra := 0 }
    walks := 0 }

/-! ### The position -/

namespace SrcPos

/-- The ratio's share of one output, clamped. -/
def accrue (rateQ32 : Int) (pos : SrcPos) : SrcPos :=
  let owed := pos.owed + rateQ32
  if 4 * srcOne < owed then { pos with owed := 4 * srcOne }
  else if owed < -4 * srcOne then { pos with owed := -4 * srcOne }
  else { pos with owed }

def startWalk (sign : Int) (pos : SrcPos) : SrcPos :=
  { pos with walkStep := sign * (srcOne / avbSrcWalkFrames), walkLeft := avbSrcWalkFrames }

/-- One frame of the walk. -/
def walk (pos : SrcPos) : SrcPos × Int :=
  ({ pos with walkLeft := pos.walkLeft - 1 }, pos.walkStep)

end SrcPos

/-- `src_next_step` -/
def srcNextStep (rateQ32 : Int) (pos : SrcPos) : SrcPos × Int :=
  let pos := pos.accrue rateQ32
  if pos.walkLeft = 0 then
    if srcOne ≤ pos.owed ∨ pos.owed ≤ -srcOne then
      let sign : Int := if 0 < pos.owed then 1 else -1
      ({ pos with owed := pos.owed - sign * srcOne }.startWalk sign).walk
    else if pos.extra ≠ 0 then
      let sign : Int := if 0 < pos.extra then 1 else -1
      ({ pos with extra := pos.extra - sign }.startWalk sign).walk
    else (pos, 0)
  else pos.walk

/-- `src_advance`: the position after the output, and the inputs it takes. -/
def srcAdvance (pos : SrcPos) (step : Int) : SrcPos × Nat :=
  let next := pos.frac + srcOne + step
  ({ pos with frac := (next % srcOne).toNat }, (next / srcOne).toNat)

/-- What one output does to the position. -/
def srcOutput (rateQ32 : Int) (pos : SrcPos) : SrcPos × Nat :=
  let (pos, step) := srcNextStep rateQ32 pos
  srcAdvance pos step

/-- `avb_src_owe` -/
def avbSrcOwe (src : AvbSrc) (frames : Int) : AvbSrc :=
  { src with pos := { src.pos with extra := i32 (src.pos.extra + frames) } }

/-- The loop of `avb_src_inputs`. -/
def srcInputs (rateQ32 : Int) : Nat → SrcPos → Nat
  | 0, _ => 0
  | n + 1, pos =>
      let (pos, inputs) := srcOutput rateQ32 pos
      inputs + srcInputs rateQ32 n pos

def avbSrcInputs (src : AvbSrc) (outFrames : Nat) (rateQ32 : Int) : Nat :=
  srcInputs rateQ32 outFrames src.pos

/-! ### The history -/

/-- The slot as a Q31 sample. -/
def SrcSlot.sample (slot : SrcSlot) : Int :=
  i32 (slot.msb.toNat * 2 ^ 24 + slot.mid.toNat * 2 ^ 16 + slot.lsb.toNat * 2 ^ 8)

/-- What `src_push` stores for a slot of a frame, or of none. -/
def srcPushSample (frame : Option SrcFrame) (slot : Nat) : Int :=
  match frame with
  | none => 0
  | some frame => (frame.getD slot .zero).sample

/-- `src_push` -/
def srcPush (slots : Nat) (src : AvbSrc) (frame : Option SrcFrame) : AvbSrc :=
  { src with
    hist := fun slot =>
      if slot < slots then
        TwiceRing.write avbSrcTaps (src.hist slot) src.histPos (srcPushSample frame slot)
      else src.hist slot
    histPos := TwiceRing.next avbSrcTaps src.histPos }

/-- `avb_src_prime` -/
def avbSrcPrime (src : AvbSrc) (input : Fin avbSrcTaps → SrcFrame) (slots : Nat) : AvbSrc :=
  let src := ((List.ofFn input).map some).foldl (srcPush (min slots avbSrcSlots)) src
  { src with pos := { src.pos with frac := 0, walkLeft := 0 } }

/-! ### The conversion -/

def mulHigh (lhs rhs : Int) : Int := lhs * rhs / 2 ^ 32

/-- One slot of the output between two inputs, in Q29. -/
def srcFilter (table : Nat → Int) (src : AvbSrc) (slot : Nat) : Int :=
  let phase := src.pos.frac / 2 ^ (32 - avbSrcPhasesLog2)
  let between : Int := src.pos.frac * 2 ^ avbSrcPhasesLog2 % 2 ^ 32 / 2
  let row := fun tap => table (phase * avbSrcTaps + tap)
  (List.range avbSrcTaps).foldl
    (fun acc tap =>
      let coeff :=
        i32 (row tap + mulHigh (i32 (row (tap + avbSrcTaps) - row tap)) between * 2)
      i32 (acc + mulHigh coeff (src.hist slot (src.histPos + tap))))
    0

/-- One slot of the output, in Q29: on an input the window's centre as it came. -/
def srcAcc (table : Nat → Int) (src : AvbSrc) (slot : Nat) : Int :=
  if src.pos.frac = 0 then src.hist slot (src.histPos + avbSrcTaps / 2 - 1) / 4
  else srcFilter table src slot

/-- A sample clipped to 24 bits, as its slot. -/
def srcSlotOut (sample : Int) : SrcSlot :=
  let sample := max (-8388608) (min 8388607 sample)
  { msb := UInt8.ofInt (sample / 65536), mid := UInt8.ofInt (sample / 256),
    lsb := UInt8.ofInt sample, pad := 0 }

/-- The converter while it runs: the inputs used and the outputs in order. -/
structure SrcRun where
  src : AvbSrc
  used : Nat
  out : List SrcFrame

/-- What a stream's calls share: `slots` and `frame_bytes / 4`. -/
structure SrcLayout where
  slots : Nat
  frameSlots : Nat

/-- The slots converted. -/
def SrcLayout.live (layout : SrcLayout) : Nat := min layout.slots avbSrcSlots

/-- The inputs one output takes; past the block they are silent. -/
def srcTake (layout : SrcLayout) (input : List SrcFrame) : Nat → SrcRun → SrcRun
  | 0, run => run
  | push + 1, run =>
      srcTake layout input push
        { run with src := srcPush layout.live run.src input[run.used]?, used := run.used + 1 }

def srcFrameOut (table : Nat → Int) (layout : SrcLayout) (src : AvbSrc) : SrcFrame :=
  (List.range layout.frameSlots).map fun slot =>
    srcSlotOut (if slot < layout.live then i32 (srcAcc table src slot + 32) / 64 else 0)

/-- One turn of the loop of `avb_src_run`. -/
def srcRunFrame (table : Nat → Int) (layout : SrcLayout) (input : List SrcFrame) (rateQ32 : Int)
    (run : SrcRun) : SrcRun :=
  let (pos, step) := srcNextStep rateQ32 run.src.pos
  let walks := if run.src.pos.walkLeft = 0 ∧ step ≠ 0 then run.src.walks + 1 else run.src.walks
  let (pos, pushes) := srcAdvance pos step
  let run := srcTake layout input pushes
    { run with src := { run.src with pos, walks := walks % 2 ^ 32 } }
  { run with out := run.out ++ [srcFrameOut table layout run.src] }

/-- `avb_src_run` -/
def avbSrcRun (table : Nat → Int) (layout : SrcLayout) (src : AvbSrc) (input : List SrcFrame)
    (outFrames : Nat) (rateQ32 : Int) : SrcRun :=
  (srcRunFrame table layout input rateQ32)^[outFrames] { src, used := 0, out := [] }

/-! ### A stream's calls -/

inductive SrcEvent where
  | run (input : List SrcFrame) (outFrames : Nat) (rateQ32 : Int)
  | owe (frames : Int)

/-- The converter since it was primed, with the frames it took, the newest first, and what the calls
add up to. -/
structure SrcSession where
  src : AvbSrc
  taken : List SrcFrame
  inputs : Nat
  outputs : Nat
  rateSum : Int
  extraWalks : Int

namespace SrcSession

/-- A stream starts from a converter that was initialised and may owe frames. -/
def start (layout : SrcLayout) (owed : Int) (input : Fin avbSrcTaps → SrcFrame) : SrcSession :=
  { src := avbSrcPrime (avbSrcOwe avbSrcInit owed) input layout.slots
    taken := (List.ofFn input).reverse
    inputs := 0
    outputs := 0
    rateSum := 0
    extraWalks := 0 }

def step (table : Nat → Int) (layout : SrcLayout) (s : SrcSession) : SrcEvent → SrcSession
  | .run input outFrames rateQ32 =>
      let run := avbSrcRun table layout s.src input outFrames rateQ32
      { src := run.src
        taken := (input.take run.used).reverse ++ s.taken
        inputs := s.inputs + run.used
        outputs := s.outputs + outFrames
        rateSum := s.rateSum + outFrames * rateQ32
        extraWalks := s.extraWalks + (s.src.pos.extra - run.src.pos.extra) }
  | .owe frames => { s with src := avbSrcOwe s.src frames }

end SrcSession

end EspAvb
