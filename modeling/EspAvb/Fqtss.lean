import EspAvb.Lib.Machine
import EspAvb.Pll

/-!
# The credit-based shaper

`avbfqtss.c`: each port has a queue of frames for each SR class. A class earns credit at its idle
slope, and the worker sends its frames while the credit is not negative. Callers enqueue frames and
set the slopes from other contexts: a step below is one call of theirs, or one credit update or one
attempt to send of the worker, and between any two steps the others may take any number.
-/

namespace EspAvb

def avbSrClassCount : Nat := 2
def fqtssQueueDepth : Nat := 64
def fqtssMtuBytes : Nat := 1518

structure FqtssFrame where
  portIndex : UInt8
  srClass : UInt8
  length : UInt16
  payload : List UInt8
  deriving DecidableEq, Repr

structure FqtssClassState where
  idleSlopeBps : Int
  linkRateBps : Int
  creditMaxX256Bytes : Int
  creditMinX256Bytes : Int
  creditX256Bytes : Int
  queue : List FqtssFrame
  deriving DecidableEq

/-- What there is for each port and SR class, such as `s_class`. -/
abbrev FqtssTable (numPorts : Nat) (α : Type) := Fin numPorts → Fin avbSrClassCount → α

variable {numPorts : Nat}

/-- One entry changes. -/
def FqtssTable.modify {α : Type} (table : FqtssTable numPorts α) (p : Fin numPorts)
    (cl : Fin avbSrClassCount) (f : α → α) : FqtssTable numPorts α := fun q dl =>
  if q = p ∧ dl = cl then f (table p cl) else table q dl

/-- The arguments of a call, where they name an entry. -/
def fqtssEntry (numPorts : Nat) (portIndex srClass : Int) :
    Option (Fin numPorts × Fin avbSrClassCount) :=
  if h : 0 ≤ portIndex ∧ portIndex < numPorts ∧ 0 ≤ srClass ∧ srClass < avbSrClassCount then
    some (⟨portIndex.toNat, by omega⟩, ⟨srClass.toNat, by omega⟩)
  else none

def fqtssCreditAdvance (c : FqtssClassState) (dtUs : Int) : FqtssClassState :=
  let delta := (i64 (c.idleSlopeBps * dtUs)).tdiv 31250
  let credit := i64 (c.creditX256Bytes + delta)
  { c with creditX256Bytes := if credit > c.creditMaxX256Bytes then c.creditMaxX256Bytes else credit }

/-- The frame sent, if one was. -/
def fqtssTrySendOne (c : FqtssClassState) : FqtssClassState × Option FqtssFrame :=
  match c.queue with
  | [] => (c, none)
  | frame :: rest =>
      if c.creditX256Bytes < 0 then (c, none)
      else
        let credit := i64 (c.creditX256Bytes - frame.length.toNat * 256)
        ({ c with
            queue := rest
            creditX256Bytes :=
              if credit < c.creditMinX256Bytes then c.creditMinX256Bytes else credit }, some frame)

/-- `while (fqtss_try_send_one(p, cl))`: every turn but the last takes a frame from the queue. -/
def fqtssDrain : Nat → FqtssClassState → FqtssClassState × List FqtssFrame
  | 0, c => (c, [])
  | fuel + 1, c =>
      match fqtssTrySendOne c with
      | (c, none) => (c, [])
      | (c, some frame) =>
          let (c, sent) := fqtssDrain fuel c
          (c, frame :: sent)

/-- One class's turn in a tick of `fqtss_worker`. -/
def fqtssWorkerTurn (c : FqtssClassState) (dtUs : Int) : FqtssClassState × List FqtssFrame :=
  let c := fqtssCreditAdvance c dtUs
  fqtssDrain c.queue.length c

/-- Every queue is created. -/
def avbFqtssInit (medium : Fin numPorts → AvbPortMedium) : FqtssTable numPorts FqtssClassState := fun p _ =>
  { linkRateBps := if medium p = .ethHwts then 1000000000 else 0
    idleSlopeBps := 0
    creditMaxX256Bytes := fqtssMtuBytes * 256
    creditMinX256Bytes := -(fqtssMtuBytes * 256)
    creditX256Bytes := 0
    queue := [] }

/-- The envelope of a frame. -/
def fqtssFrame (p : Fin numPorts) (cl : Fin avbSrClassCount) (frame : List UInt8) : FqtssFrame :=
  { portIndex := UInt8.ofNat p
    srClass := UInt8.ofNat cl
    length := UInt16.ofNat frame.length
    payload := frame }

/-- `allocated` is whether the copy of the frame could be made. -/
def avbFqtssEnqueue (s : FqtssTable numPorts FqtssClassState) (portIndex srClass : Int) (frame : List UInt8)
    (allocated : Bool) : FqtssTable numPorts FqtssClassState × Int :=
  match fqtssEntry numPorts portIndex srClass with
  | none => (s, -1)
  | some (p, cl) =>
      if frame.length = 0 ∨ frame.length > fqtssMtuBytes then (s, -1)
      else if (s p cl).idleSlopeBps = 0 then (s, -2)
      else if !allocated then (s, -1)
      else if (s p cl).queue.length ≥ fqtssQueueDepth then (s, -3)
      else (s.modify p cl fun cs => { cs with queue := cs.queue ++ [fqtssFrame p cl frame] }, 0)

def avbFqtssSetIdleSlope (s : FqtssTable numPorts FqtssClassState) (portIndex srClass idleSlopeBps : Int) :
    FqtssTable numPorts FqtssClassState × Int :=
  match fqtssEntry numPorts portIndex srClass with
  | none => (s, -1)
  | some (p, cl) =>
      if (s p cl).linkRateBps > 0 ∧ idleSlopeBps > (s p cl).linkRateBps then (s, -1)
      else (s.modify p cl fun cs => { cs with idleSlopeBps }, 0)

def avbFqtssSetLinkRate (s : FqtssTable numPorts FqtssClassState) (portIndex linkRateBps : Int) :
    FqtssTable numPorts FqtssClassState × Int :=
  if h : 0 ≤ portIndex ∧ portIndex < numPorts then
    if linkRateBps < 0 then (s, -1)
    else
      let p : Fin numPorts := ⟨portIndex.toNat, by omega⟩
      (Function.update s p fun cl => { s p cl with linkRateBps }, 0)
  else (s, -1)

/-! ### Runs -/

inductive FqtssEvent (numPorts : Nat) where
  | enqueue (portIndex srClass : Int) (frame : List UInt8) (allocated : Bool)
  | setIdleSlope (portIndex srClass : Int) (idleSlopeBps : Nat)
  | setLinkRate (portIndex linkRateBps : Int)
  | advance (p : Fin numPorts) (cl : Fin avbSrClassCount) (dtUs : Nat)
  | trySend (p : Fin numPorts) (cl : Fin avbSrClassCount)

/-- The shaper with what happened so far: by class, the frames accepted, the frames that left, and
the sum of `idle_slope * dt` over the ticks. -/
structure FqtssRun (numPorts : Nat) where
  classes : FqtssTable numPorts FqtssClassState
  accepted : FqtssTable numPorts (List FqtssFrame)
  sent : FqtssTable numPorts (List FqtssFrame)
  offered : FqtssTable numPorts Int

def FqtssRun.start (medium : Fin numPorts → AvbPortMedium) : FqtssRun numPorts :=
  { classes := avbFqtssInit medium
    accepted := fun _ _ => []
    sent := fun _ _ => []
    offered := fun _ _ => 0 }

def fqtssStep (r : FqtssRun numPorts) : FqtssEvent numPorts → FqtssRun numPorts
  | .enqueue portIndex srClass frame allocated =>
      let result := avbFqtssEnqueue r.classes portIndex srClass frame allocated
      { r with
        classes := result.1
        accepted := fun p cl =>
          if result.2 = 0 ∧ fqtssEntry numPorts portIndex srClass = some (p, cl) then
            r.accepted p cl ++ [fqtssFrame p cl frame]
          else r.accepted p cl }
  | .setIdleSlope portIndex srClass idleSlopeBps =>
      { r with classes := (avbFqtssSetIdleSlope r.classes portIndex srClass idleSlopeBps).1 }
  | .setLinkRate portIndex linkRateBps =>
      { r with classes := (avbFqtssSetLinkRate r.classes portIndex linkRateBps).1 }
  | .advance p cl dtUs =>
      { r with
        classes := r.classes.modify p cl (fqtssCreditAdvance · dtUs)
        offered := r.offered.modify p cl (· + (r.classes p cl).idleSlopeBps * dtUs) }
  | .trySend p cl =>
      { r with
        classes := r.classes.modify p cl fun c => (fqtssTrySendOne c).1
        sent := r.sent.modify p cl (· ++ (fqtssTrySendOne (r.classes p cl)).2.toList) }

end EspAvb
