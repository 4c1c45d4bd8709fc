import EspAvb.AvbSrc
import EspAvb.Proof.PllRate
import EspAvb.Proof.Timeline

/-!
# Position and pass-through of the converter

Between two outputs the position is settled by the walk in progress: its fraction is what the frames
still to run will bring to a whole input. What the ratio is owed then stays below two frames, and
inputs, fraction, walk and debt balance with outputs and rate to the last bit. The history holds the
frames taken, so an output on an input is one of them.
-/

namespace EspAvb

/-! ### The position -/

/-- The step of a walk, to the later inputs or the earlier ones. -/
def IsWalkStep (step : Int) : Prop := step = 2 ^ 20 ∨ step = -2 ^ 20

namespace SrcPos

/-- What the position still has to move in the walk in progress, past its fraction. -/
def lead (pos : SrcPos) : Int := pos.frac + pos.walkLeft * pos.walkStep

/-- The position between two outputs. -/
structure Valid (pos : SrcPos) : Prop where
  walkLeft_lt : pos.walkLeft < avbSrcWalkFrames
  walkStep : pos.walkLeft = 0 ∨ IsWalkStep pos.walkStep
  frac_eq : (pos.frac : Int) = -(pos.walkLeft * pos.walkStep) % srcOne
  owed_lt : |pos.owed| < srcOne + (4095 - pos.walkLeft) * 2 ^ 20

variable {pos : SrcPos}

theorem Valid.frac_eq_zero_iff (h : pos.Valid) : pos.frac = 0 ↔ pos.walkLeft = 0 := by
  have hlt := h.walkLeft_lt
  have hfrac := h.frac_eq
  unfold srcOne at hfrac
  unfold avbSrcWalkFrames at hlt
  constructor
  · intro hzero
    rcases h.walkStep with hleft | hstep | hstep
    · exact hleft
    · rw [hstep] at hfrac
      omega
    · rw [hstep] at hfrac
      omega
  · intro hleft
    rw [hleft, Nat.cast_zero, zero_mul, neg_zero, Int.zero_emod] at hfrac
    omega

/-- The walk has still to bring the position to an input, this one or the next. -/
theorem Valid.lead_eq (h : pos.Valid) : pos.lead = 0 ∨ pos.lead = srcOne := by
  have hlt := h.walkLeft_lt
  have hfrac := h.frac_eq
  unfold srcOne at hfrac ⊢
  unfold avbSrcWalkFrames at hlt
  unfold lead
  rcases h.walkStep with hleft | hstep | hstep
  · rw [hleft] at hfrac ⊢
    omega
  · rw [hstep] at hfrac ⊢
    omega
  · rw [hstep] at hfrac ⊢
    omega

theorem Valid.owed_add_lt (h : pos.Valid) {rateQ32 : Int} (hrate : |rateQ32| ≤ 2 ^ 20) :
    |pos.owed + rateQ32| < 2 * srcOne - pos.walkLeft * 2 ^ 20 := by
  have howed := h.owed_lt
  unfold srcOne at howed ⊢
  rw [abs_le] at hrate
  rw [abs_lt] at howed ⊢
  omega

/-- The clamp is out of reach. -/
theorem Valid.accrue (h : pos.Valid) {rateQ32 : Int} (hrate : |rateQ32| ≤ 2 ^ 20) :
    pos.accrue rateQ32 = { pos with owed := pos.owed + rateQ32 } := by
  have howed := h.owed_add_lt hrate
  unfold srcOne at howed
  rw [abs_lt] at howed
  have hlow : ¬ pos.owed + rateQ32 < -4 * srcOne := by unfold srcOne; omega
  have hhigh : ¬ 4 * srcOne < pos.owed + rateQ32 := by unfold srcOne; omega
  unfold SrcPos.accrue
  rw [if_neg hhigh, if_neg hlow]

end SrcPos

/-- One frame of a walk, `n` frames being left after it. -/
structure WalkedTo (pos pos' : SrcPos) (inputs n : Nat) : Prop where
  walkLeft : pos'.walkLeft = n
  walkStep : pos'.walkStep = pos.walkStep
  owed : pos'.owed = pos.owed
  extra : pos'.extra = pos.extra
  frac : (pos'.frac : Int) = -(n * pos.walkStep) % srcOne
  moved : inputs * srcOne + pos'.lead = srcOne + pos.lead

/-- A step moves the fraction on, whole inputs being dropped. -/
theorem emod_walk (frac n step M : Int) (h : frac = -((n + 1) * step) % M) :
    (frac + M + step) % M = -(n * step) % M := by
  have hfrac : frac ≡ -((n + 1) * step) [ZMOD M] := by
    rw [h]
    exact Int.mod_modEq _ _
  have hturn : M ≡ 0 [ZMOD M] := Int.modEq_zero_iff_dvd.mpr dvd_rfl
  have hsum : frac + M + step ≡ -((n + 1) * step) + 0 + step [ZMOD M] :=
    (hfrac.add hturn).add_right step
  calc (frac + M + step) % M = (-((n + 1) * step) + 0 + step) % M := hsum
    _ = -(n * step) % M := by congr 1; ring

theorem srcAdvance_walk (pos : SrcPos) {n : Nat} (hleft : pos.walkLeft = n + 1)
    (hstep : IsWalkStep pos.walkStep)
    (hfrac : (pos.frac : Int) = -(pos.walkLeft * pos.walkStep) % srcOne) :
    WalkedTo pos (srcAdvance pos.walk.1 pos.walk.2).1 (srcAdvance pos.walk.1 pos.walk.2).2 n := by
  have hnonneg : 0 ≤ pos.frac + srcOne + pos.walkStep := by
    unfold srcOne
    rcases hstep with hstep | hstep <;> omega
  have hone : (0 : Int) < srcOne := by decide
  have hnew : (((pos.frac + srcOne + pos.walkStep) % srcOne).toNat : Int)
      = (pos.frac + srcOne + pos.walkStep) % srcOne :=
    Int.toNat_of_nonneg (Int.emod_nonneg _ hone.ne')
  have hcount : (((pos.frac + srcOne + pos.walkStep) / srcOne).toNat : Int)
      = (pos.frac + srcOne + pos.walkStep) / srcOne :=
    Int.toNat_of_nonneg (Int.ediv_nonneg hnonneg hone.le)
  have hbefore : pos.walkLeft - 1 = n := by omega
  constructor
  · exact hbefore
  · rfl
  · rfl
  · rfl
  · rw [hleft, Nat.cast_succ] at hfrac
    exact hnew.trans (emod_walk _ _ _ _ hfrac)
  · rw [SrcPos.lead, SrcPos.lead, srcAdvance, SrcPos.walk]
    dsimp only
    rw [hnew, hcount, hbefore, hleft]
    have hdiv := Int.mul_ediv_add_emod (pos.frac + srcOne + pos.walkStep) srcOne
    push_cast
    linarith

theorem isWalkStep_startWalk (pos : SrcPos) {sign : Int} (hsign : sign = 1 ∨ sign = -1) :
    IsWalkStep (pos.startWalk sign).walkStep := by
  have hunit : srcOne / avbSrcWalkFrames = 2 ^ 20 := by decide
  change IsWalkStep (sign * (srcOne / avbSrcWalkFrames))
  rw [hunit]
  rcases hsign with rfl | rfl
  · exact Or.inl (one_mul _)
  · exact Or.inr (neg_one_mul _)

/-- A whole walk moves one frame. -/
theorem startWalk_moves (pos : SrcPos) (sign : Int) :
    ((pos.startWalk sign).walkLeft : Int) * (pos.startWalk sign).walkStep = sign * srcOne := by
  have hunit : (avbSrcWalkFrames : Int) * (srcOne / avbSrcWalkFrames) = srcOne := by decide
  calc ((pos.startWalk sign).walkLeft : Int) * (pos.startWalk sign).walkStep
      = avbSrcWalkFrames * (sign * (srcOne / avbSrcWalkFrames)) := rfl
    _ = sign * (avbSrcWalkFrames * (srcOne / avbSrcWalkFrames)) := by ring
    _ = sign * srcOne := by rw [hunit]

/-- A walk starts on an input. -/
theorem srcAdvance_startWalk (pos : SrcPos) (hfrac : pos.frac = 0) {sign : Int}
    (hsign : sign = 1 ∨ sign = -1) :
    WalkedTo (pos.startWalk sign) (srcAdvance (pos.startWalk sign).walk.1 (pos.startWalk sign).walk.2).1
      (srcAdvance (pos.startWalk sign).walk.1 (pos.startWalk sign).walk.2).2 4095 := by
  apply srcAdvance_walk (pos.startWalk sign)
  · rfl
  · exact isWalkStep_startWalk pos hsign
  · change (pos.frac : Int) = _
    rw [hfrac, startWalk_moves, ← neg_mul, Int.mul_emod_left, Nat.cast_zero]

/-- What one output leaves and what it takes. -/
structure OutputBooks (rateQ32 : Int) (pos pos' : SrcPos) (inputs : Nat) : Prop where
  valid : pos'.Valid
  balance : inputs * srcOne + pos'.lead + pos'.owed
    = srcOne + rateQ32 + pos.lead + pos.owed + (pos.extra - pos'.extra) * srcOne

namespace WalkedTo

variable {pos pos' : SrcPos} {inputs n : Nat}

theorem valid (h : WalkedTo pos pos' inputs n) (hn : n < avbSrcWalkFrames)
    (hstep : IsWalkStep pos.walkStep) (howed : |pos.owed| < srcOne + (4095 - n) * 2 ^ 20) :
    pos'.Valid where
  walkLeft_lt := h.walkLeft ▸ hn
  walkStep := Or.inr (h.walkStep ▸ hstep)
  frac_eq := by rw [h.frac, h.walkLeft, h.walkStep]
  owed_lt := by rw [h.owed, h.walkLeft]; exact howed

end WalkedTo

section Output

variable {pos : SrcPos} {rateQ32 : Int}

/-- A walk goes on: the ratio's share waits. -/
theorem srcOutput_walking (h : pos.Valid) (hrate : |rateQ32| ≤ 2 ^ 20) {n : Nat}
    (hleft : pos.walkLeft = n + 1) :
    OutputBooks rateQ32 pos (srcOutput rateQ32 pos).1 (srcOutput rateQ32 pos).2 := by
  have hlt := h.walkLeft_lt
  have howed := h.owed_add_lt hrate
  have hstep := h.walkStep.resolve_left (by omega)
  unfold srcOutput srcNextStep
  rw [h.accrue hrate]
  dsimp only
  rw [if_neg (by omega)]
  have hwalk := srcAdvance_walk { pos with owed := pos.owed + rateQ32 } hleft hstep h.frac_eq
  constructor
  · apply hwalk.valid (by omega) hstep
    rw [hleft] at howed
    unfold srcOne at howed ⊢
    push_cast at howed
    rw [abs_lt] at howed ⊢
    dsimp only
    omega
  · have hmoved := hwalk.moved
    rw [hwalk.owed, hwalk.extra]
    change _ = srcOne + pos.lead at hmoved
    dsimp only
    linarith

/-- A walk starts, for a frame the ratio owes or for one of `extra`. -/
theorem srcOutput_starting (h : pos.Valid) (hleft : pos.walkLeft = 0) {sign owed extra : Int}
    (hsign : sign = 1 ∨ sign = -1) (howed : |owed| < srcOne)
    (hpaid : owed + sign * srcOne = pos.owed + rateQ32 + (pos.extra - extra) * srcOne) :
    let walk := ({ pos with owed, extra }.startWalk sign).walk
    OutputBooks rateQ32 pos (srcAdvance walk.1 walk.2).1 (srcAdvance walk.1 walk.2).2 := by
  have hfrac := h.frac_eq_zero_iff.mpr hleft
  have hwalk := srcAdvance_startWalk { pos with owed, extra } hfrac hsign
  constructor
  · apply hwalk.valid (by decide)
    · exact isWalkStep_startWalk _ hsign
    · exact howed.trans_le (by unfold srcOne; decide)
  · have hmoved := hwalk.moved
    rw [hwalk.owed, hwalk.extra]
    have hlead : ({ pos with owed, extra }.startWalk sign).lead = pos.lead + sign * srcOne := by
      rw [SrcPos.lead, SrcPos.lead, startWalk_moves, hleft, Nat.cast_zero, zero_mul, add_zero]
      rfl
    rw [hlead] at hmoved
    change _ + owed = _ + (pos.extra - extra) * srcOne
    linarith

/-- Nothing is owed: one input for one output. -/
theorem srcOutput_idle (h : pos.Valid) (hrate : |rateQ32| ≤ 2 ^ 20) (hleft : pos.walkLeft = 0)
    (howed : |pos.owed + rateQ32| < srcOne) (hextra : pos.extra = 0) :
    OutputBooks rateQ32 pos (srcOutput rateQ32 pos).1 (srcOutput rateQ32 pos).2 := by
  have hfrac := h.frac_eq_zero_iff.mpr hleft
  rw [abs_lt] at howed
  have hnone : ¬ (srcOne ≤ pos.owed + rateQ32 ∨ pos.owed + rateQ32 ≤ -srcOne) := by omega
  have hout : srcOutput rateQ32 pos = ({ pos with owed := pos.owed + rateQ32, frac := 0 }, 1) := by
    unfold srcOutput srcNextStep
    rw [h.accrue hrate]
    dsimp only
    rw [if_pos hleft, if_neg hnone, if_neg (not_not.mpr hextra), srcAdvance]
    dsimp only
    rw [hfrac]
    rfl
  rw [hout]
  constructor
  · constructor
    · exact h.walkLeft_lt
    · exact Or.inl hleft
    · dsimp only
      rw [hleft, Nat.cast_zero, zero_mul, neg_zero, Int.zero_emod]
    · dsimp only
      rw [hleft, abs_lt]
      push_cast
      constructor <;> linarith
  · unfold SrcPos.lead
    dsimp only
    rw [hleft, hfrac]
    push_cast
    ring

theorem srcOutput_books (h : pos.Valid) (hrate : |rateQ32| ≤ 2 ^ 20) :
    OutputBooks rateQ32 pos (srcOutput rateQ32 pos).1 (srcOutput rateQ32 pos).2 := by
  cases hleft : pos.walkLeft with
  | succ n => exact srcOutput_walking h hrate hleft
  | zero =>
      have hbound := h.owed_add_lt hrate
      rw [hleft, Nat.cast_zero, zero_mul, sub_zero, abs_lt] at hbound
      by_cases howed : srcOne ≤ pos.owed + rateQ32 ∨ pos.owed + rateQ32 ≤ -srcOne
      · unfold srcOutput srcNextStep
        rw [h.accrue hrate]
        dsimp only
        rw [if_pos hleft, if_pos howed]
        have hone : (0 : Int) < srcOne := by decide
        by_cases hsign : 0 < pos.owed + rateQ32
        · rw [if_pos hsign]
          apply srcOutput_starting h hleft (Or.inl rfl)
          · rw [abs_lt]
            omega
          · ring
        · rw [if_neg hsign]
          apply srcOutput_starting h hleft (Or.inr rfl)
          · rw [abs_lt]
            omega
          · ring
      · have hsmall : |pos.owed + rateQ32| < srcOne := by
          rw [abs_lt]
          omega
        by_cases hextra : pos.extra = 0
        · exact srcOutput_idle h hrate hleft hsmall hextra
        · unfold srcOutput srcNextStep
          rw [h.accrue hrate]
          dsimp only
          rw [if_pos hleft, if_neg howed, if_pos hextra]
          apply srcOutput_starting h hleft _ hsmall
          · ring
          · by_cases hsign : 0 < pos.extra
            · exact Or.inl (if_pos hsign)
            · exact Or.inr (if_neg hsign)

end Output

/-! ### A slot -/

theorem uint8_ofInt_eq {x : Int} {b : UInt8} (h : x % 256 = b.toNat) : UInt8.ofInt x = b := by
  apply UInt8.toNat_inj.mp
  change (UInt8.ofNat (x % 2 ^ 8).toNat).toNat = b.toNat
  have hlt := b.toNat_lt
  rw [UInt8.toNat_ofNat']
  omega

/-- The octets of a 24-bit sample, whatever its sign. -/
theorem octets_of_sample {y k : Int} {msb mid lsb : Nat} (hmid : mid < 256) (hlsb : lsb < 256)
    (hmsb : msb < 256) (hy : y = msb * 65536 + mid * 256 + lsb - k * 16777216) :
    y / 65536 % 256 = msb ∧ y / 256 % 256 = mid ∧ y % 256 = lsb := by
  omega

/-- A sample that was not filtered comes out of its slot as it went in. -/
theorem srcSlotOut_sample (slot : SrcSlot) :
    srcSlotOut (i32 (slot.sample / 4 + 32) / 64) = { slot with pad := 0 } := by
  have hmsb := slot.msb.toNat_lt
  have hmid := slot.mid.toNat_lt
  have hlsb := slot.lsb.toNat_lt
  obtain ⟨⟨k, hk⟩, hlow, hhigh⟩ :=
    i32_spec (slot.msb.toNat * 2 ^ 24 + slot.mid.toNat * 2 ^ 16 + slot.lsb.toNat * 2 ^ 8)
  rw [← SrcSlot.sample] at hk hlow hhigh
  have hround : i32 (slot.sample / 4 + 32) / 64 = slot.sample / 256 := by
    rw [i32_of_small (by omega) (by omega)]
    omega
  have hclip : max (-8388608) (min 8388607 (slot.sample / 256)) = slot.sample / 256 := by omega
  have hoctets : slot.sample / 256 = slot.msb.toNat * 65536 + slot.mid.toNat * 256
      + slot.lsb.toNat - k * 16777216 := by omega
  obtain ⟨hmsbOut, hmidOut, hlsbOut⟩ := octets_of_sample hmid hlsb hmsb hoctets
  rw [hround, srcSlotOut, hclip, uint8_ofInt_eq hmsbOut, uint8_ofInt_eq hmidOut,
    uint8_ofInt_eq hlsbOut]

theorem srcSlotOut_zero : srcSlotOut 0 = .zero := by decide

/-! ### The history -/

/-- The history holds the frames taken, the newest first. -/
def SrcHolds (layout : SrcLayout) (src : AvbSrc) (taken : List SrcFrame) : Prop :=
  ∀ slot < layout.live, TwiceRing.Holds avbSrcTaps (src.hist slot) src.histPos
    (taken.map fun frame => (frame.getD slot .zero).sample)

variable {layout : SrcLayout} {table : Nat → Int} {input : List SrcFrame} {rateQ32 : Int}

theorem SrcHolds.push {src : AvbSrc} {taken : List SrcFrame} (h : SrcHolds layout src taken)
    (frame : SrcFrame) : SrcHolds layout (srcPush layout.live src (some frame)) (frame :: taken) := by
  intro slot hslot
  have hwritten := (h slot hslot).write (frame.getD slot .zero).sample
  unfold srcPush
  dsimp only
  rw [if_pos hslot]
  exact hwritten

/-- A frame as it is passed on: the slots that are not converted are zero. -/
def srcPassed (layout : SrcLayout) (frame : SrcFrame) : SrcFrame :=
  (List.range layout.frameSlots).map fun slot =>
    if slot < layout.live then { frame.getD slot .zero with pad := 0 } else .zero

/-- An output on an input is the frame half a window behind the newest. -/
theorem SrcHolds.frameOut {src : AvbSrc} {taken : List SrcFrame} (h : SrcHolds layout src taken)
    (hfrac : src.pos.frac = 0) {frame : SrcFrame} (hframe : taken[avbSrcTaps / 2]? = some frame) :
    srcFrameOut table layout src = srcPassed layout frame := by
  unfold srcFrameOut srcPassed
  congr 1
  funext slot
  by_cases hslot : slot < layout.live
  · have hcentre : src.hist slot (src.histPos + avbSrcTaps / 2 - 1)
        = (frame.getD slot .zero).sample := by
      apply (h slot hslot).stretch (avbSrcTaps / 2) (by decide)
      rw [List.getElem?_map, hframe, Option.map_some]
    rw [if_pos hslot, if_pos hslot, srcAcc, if_pos hfrac, hcentre, srcSlotOut_sample]
  · rw [if_neg hslot, if_neg hslot, srcSlotOut_zero]

/-! ### A block -/

section Block

@[simp]
theorem srcTake_pos (pushes : Nat) (run : SrcRun) :
    (srcTake layout input pushes run).src.pos = run.src.pos := by
  induction pushes generalizing run with
  | zero => rfl
  | succ pushes ih => rw [srcTake, ih]; rfl

@[simp]
theorem srcTake_used (pushes : Nat) (run : SrcRun) :
    (srcTake layout input pushes run).used = run.used + pushes := by
  induction pushes generalizing run with
  | zero => rfl
  | succ pushes ih => rw [srcTake, ih, Nat.add_right_comm, Nat.add_assoc]

@[simp]
theorem srcTake_out (pushes : Nat) (run : SrcRun) :
    (srcTake layout input pushes run).out = run.out := by
  induction pushes generalizing run with
  | zero => rfl
  | succ pushes ih => rw [srcTake, ih]

/-- The inputs of an output go into the history one after the other. -/
theorem srcTake_holds {taken : List SrcFrame} (pushes : Nat) {run : SrcRun}
    (h : SrcHolds layout run.src ((input.take run.used).reverse ++ taken))
    (hfits : run.used + pushes ≤ input.length) :
    SrcHolds layout (srcTake layout input pushes run).src
      ((input.take (run.used + pushes)).reverse ++ taken) := by
  induction pushes generalizing run with
  | zero => exact h
  | succ pushes ih =>
      have hlt : run.used < input.length := by omega
      have htaken : (input.take (run.used + 1)).reverse ++ taken
          = input[run.used] :: ((input.take run.used).reverse ++ taken) := by
        rw [List.take_succ_eq_append_getElem hlt, List.reverse_append]
        rfl
      rw [srcTake, List.getElem?_eq_getElem hlt, ← Nat.add_assoc, Nat.add_right_comm]
      apply ih
      · rw [htaken]
        exact h.push _
      · change run.used + 1 + pushes ≤ input.length
        omega

/-- The position and the walk count move before the inputs are taken. -/
def srcMoved (rateQ32 : Int) (run : SrcRun) : SrcRun :=
  let walks :=
    if run.src.pos.walkLeft = 0 ∧ (srcNextStep rateQ32 run.src.pos).2 ≠ 0 then run.src.walks + 1
    else run.src.walks
  { run with
    src := { run.src with pos := (srcOutput rateQ32 run.src.pos).1, walks := walks % 2 ^ 32 } }

theorem srcRunFrame_eq (run : SrcRun) :
    srcRunFrame table layout input rateQ32 run =
      let after := srcTake layout input (srcOutput rateQ32 run.src.pos).2 (srcMoved rateQ32 run)
      { after with out := after.out ++ [srcFrameOut table layout after.src] } := rfl

theorem srcRunFrame_pos (run : SrcRun) :
    (srcRunFrame table layout input rateQ32 run).src.pos = (srcOutput rateQ32 run.src.pos).1 := by
  rw [srcRunFrame_eq]
  dsimp only
  rw [srcTake_pos, srcMoved]

theorem srcRunFrame_used (run : SrcRun) :
    (srcRunFrame table layout input rateQ32 run).used
      = run.used + (srcOutput rateQ32 run.src.pos).2 := by
  rw [srcRunFrame_eq]
  dsimp only
  rw [srcTake_used, srcMoved]

theorem srcRunFrame_holds {taken : List SrcFrame} {run : SrcRun}
    (h : SrcHolds layout run.src ((input.take run.used).reverse ++ taken))
    (hfits : run.used + (srcOutput rateQ32 run.src.pos).2 ≤ input.length) :
    SrcHolds layout (srcRunFrame table layout input rateQ32 run).src
      ((input.take (run.used + (srcOutput rateQ32 run.src.pos).2)).reverse ++ taken) := by
  have hmoved : SrcHolds layout (srcMoved rateQ32 run).src
      ((input.take (srcMoved rateQ32 run).used).reverse ++ taken) := h
  rw [srcRunFrame_eq]
  exact srcTake_holds (srcOutput rateQ32 run.src.pos).2 hmoved hfits

theorem srcRunFrame_out (run : SrcRun) :
    (srcRunFrame table layout input rateQ32 run).out
      = run.out ++ [srcFrameOut table layout (srcRunFrame table layout input rateQ32 run).src] := by
  rw [srcRunFrame_eq]
  dsimp only
  rw [srcTake_out, srcMoved]

/-- The position after a number of outputs. -/
def srcPosAfter (rateQ32 : Int) (outFrames : Nat) (pos : SrcPos) : SrcPos :=
  (fun pos => (srcOutput rateQ32 pos).1)^[outFrames] pos

theorem srcRunFrames_pos (outFrames : Nat) (run : SrcRun) :
    ((srcRunFrame table layout input rateQ32)^[outFrames] run).src.pos
      = srcPosAfter rateQ32 outFrames run.src.pos := by
  induction outFrames generalizing run with
  | zero => rfl
  | succ n ih =>
      rw [Function.iterate_succ_apply, ih, srcRunFrame_pos, srcPosAfter, srcPosAfter,
        Function.iterate_succ_apply]

theorem srcInputs_succ (n : Nat) (pos : SrcPos) :
    srcInputs rateQ32 (n + 1) pos
      = (srcOutput rateQ32 pos).2 + srcInputs rateQ32 n (srcOutput rateQ32 pos).1 := rfl

theorem srcRunFrames_used (outFrames : Nat) (run : SrcRun) :
    ((srcRunFrame table layout input rateQ32)^[outFrames] run).used
      = run.used + srcInputs rateQ32 outFrames run.src.pos := by
  induction outFrames generalizing run with
  | zero => rfl
  | succ n ih =>
      rw [Function.iterate_succ_apply, ih, srcRunFrame_used, srcRunFrame_pos, srcInputs_succ,
        Nat.add_assoc]

theorem srcInputs_add (m n : Nat) (pos : SrcPos) :
    srcInputs rateQ32 (m + n) pos
      = srcInputs rateQ32 m pos + srcInputs rateQ32 n (srcPosAfter rateQ32 m pos) := by
  induction m generalizing pos with
  | zero => rw [Nat.zero_add, srcInputs, Nat.zero_add]; rfl
  | succ m ih =>
      rw [Nat.add_right_comm, srcInputs_succ, srcInputs_succ, ih, Nat.add_assoc, srcPosAfter,
        srcPosAfter, Function.iterate_succ_apply]

/-- What a block does to the position, over all its outputs. -/
theorem srcPosAfter_books {pos : SrcPos} (h : pos.Valid) (hrate : |rateQ32| ≤ 2 ^ 20) (n : Nat) :
    (srcPosAfter rateQ32 n pos).Valid ∧
      srcInputs rateQ32 n pos * srcOne + (srcPosAfter rateQ32 n pos).lead
          + (srcPosAfter rateQ32 n pos).owed
        = n * srcOne + n * rateQ32 + pos.lead + pos.owed
          + (pos.extra - (srcPosAfter rateQ32 n pos).extra) * srcOne := by
  induction n generalizing pos with
  | zero =>
      refine ⟨h, ?_⟩
      rw [srcPosAfter, srcInputs, Function.iterate_zero_apply]
      push_cast
      ring
  | succ n ih =>
      have hfirst := srcOutput_books h hrate
      obtain ⟨hvalid, hrest⟩ := ih hfirst.valid
      have hbalance := hfirst.balance
      rw [srcPosAfter, Function.iterate_succ_apply, ← srcPosAfter, srcInputs_succ]
      refine ⟨hvalid, ?_⟩
      push_cast at hrest ⊢
      linarith

theorem srcRunFrames_out (outFrames : Nat) (run : SrcRun) :
    ((srcRunFrame table layout input rateQ32)^[outFrames] run).out
      = run.out ++ (List.range outFrames).map fun i =>
          srcFrameOut table layout ((srcRunFrame table layout input rateQ32)^[i + 1] run).src := by
  induction outFrames with
  | zero => rw [List.range_zero, List.map_nil, List.append_nil]; rfl
  | succ n ih =>
      rw [Function.iterate_succ_apply', srcRunFrame_out, ih, List.range_succ, List.map_append,
        ← List.append_assoc, List.map_singleton, Function.iterate_succ_apply']

theorem srcRunFrames_holds {taken : List SrcFrame} (outFrames : Nat) (run : SrcRun)
    (h : SrcHolds layout run.src ((input.take run.used).reverse ++ taken))
    (hfits : run.used + srcInputs rateQ32 outFrames run.src.pos ≤ input.length) :
    SrcHolds layout ((srcRunFrame table layout input rateQ32)^[outFrames] run).src
      ((input.take ((srcRunFrame table layout input rateQ32)^[outFrames] run).used).reverse
        ++ taken) := by
  induction outFrames generalizing run with
  | zero => exact h
  | succ n ih =>
      rw [srcInputs_succ, ← Nat.add_assoc] at hfits
      rw [Function.iterate_succ_apply]
      apply ih
      · rw [srcRunFrame_used]
        exact srcRunFrame_holds h (le_trans (Nat.le_add_right _ _) hfits)
      · rw [srcRunFrame_used, srcRunFrame_pos]
        exact hfits

end Block

/-! ### A whole call -/

theorem avbSrcRun_pos (table : Nat → Int) (layout : SrcLayout) (src : AvbSrc)
    (input : List SrcFrame) (outFrames : Nat) (rateQ32 : Int) :
    (avbSrcRun table layout src input outFrames rateQ32).src.pos
      = srcPosAfter rateQ32 outFrames src.pos :=
  srcRunFrames_pos outFrames _

theorem avbSrcRun_used (table : Nat → Int) (layout : SrcLayout) (src : AvbSrc)
    (input : List SrcFrame) (outFrames : Nat) (rateQ32 : Int) :
    (avbSrcRun table layout src input outFrames rateQ32).used
      = avbSrcInputs src outFrames rateQ32 := by
  rw [avbSrcRun, srcRunFrames_used, Nat.zero_add, avbSrcInputs]

theorem avbSrcRun_holds (table : Nat → Int) {src : AvbSrc} {taken : List SrcFrame} (h : SrcHolds layout src taken)
    {outFrames : Nat} (hfits : avbSrcInputs src outFrames rateQ32 ≤ input.length) :
    SrcHolds layout (avbSrcRun table layout src input outFrames rateQ32).src
      ((input.take (avbSrcRun table layout src input outFrames rateQ32).used).reverse ++ taken) := by
  apply srcRunFrames_holds outFrames { src, used := 0, out := [] }
  · exact h
  · rw [Nat.zero_add]
    exact hfits

theorem avbSrcRun_getElem? (src : AvbSrc) {outFrames i : Nat} (hi : i < outFrames) :
    (avbSrcRun table layout src input outFrames rateQ32).out[i]?
      = some (srcFrameOut table layout (avbSrcRun table layout src input (i + 1) rateQ32).src) := by
  rw [avbSrcRun, srcRunFrames_out, List.nil_append, List.getElem?_map, List.getElem?_range hi]
  rfl

theorem avbSrcInputs_mono (src : AvbSrc) {m n : Nat} (h : m ≤ n) :
    avbSrcInputs src m rateQ32 ≤ avbSrcInputs src n rateQ32 := by
  obtain ⟨k, rfl⟩ := Nat.exists_eq_add_of_le h
  rw [avbSrcInputs, avbSrcInputs, srcInputs_add]
  exact Nat.le_add_right _ _

/-! ### A stream's calls -/

/-- A call is made as the converter asks: with the inputs it predicts, at a ratio it can follow. -/
def SrcSession.Fits (s : SrcSession) : SrcEvent → Prop
  | .run input outFrames rateQ32 =>
      |rateQ32| ≤ 2 ^ 20 ∧ input.length = avbSrcInputs s.src outFrames rateQ32
  | .owe _ => True

/-- The state between two calls. -/
structure SrcSession.Valid (layout : SrcLayout) (s : SrcSession) : Prop where
  pos : s.src.pos.Valid
  balance : s.inputs * srcOne + s.src.pos.lead + s.src.pos.owed
    = s.outputs * srcOne + s.rateSum + s.extraWalks * srcOne
  holds : SrcHolds layout s.src s.taken
  taken : avbSrcTaps ≤ s.taken.length

theorem srcHolds_init (layout : SrcLayout) (owed : Int) : SrcHolds layout (avbSrcOwe avbSrcInit owed) [] := by
  intro slot _
  constructor
  · exact (by decide : 0 < avbSrcTaps)
  · intro cell _
    rfl
  · intro age _ item hitem
    rw [List.map_nil, List.getElem?_nil] at hitem
    cases hitem

theorem SrcHolds.pushes {src : AvbSrc} {taken : List SrcFrame} (h : SrcHolds layout src taken)
    (frames : List SrcFrame) :
    SrcHolds layout ((frames.map some).foldl (srcPush layout.live) src)
      (frames.reverse ++ taken) := by
  induction frames generalizing src taken with
  | nil => exact h
  | cons frame frames ih =>
      rw [List.reverse_cons, List.append_assoc]
      exact ih (h.push frame)

theorem srcPushes_pos (layout : SrcLayout) (frames : List (Option SrcFrame)) (src : AvbSrc) :
    (frames.foldl (srcPush layout.live) src).pos = src.pos := by
  induction frames generalizing src with
  | nil => rfl
  | cons frame frames ih => rw [List.foldl_cons, ih, srcPush]

theorem avbSrcPrime_pos (src : AvbSrc) (primed : Fin avbSrcTaps → SrcFrame) (slots : Nat) :
    (avbSrcPrime src primed slots).pos = { src.pos with frac := 0, walkLeft := 0 } := by
  have hpos : (((List.ofFn primed).map some).foldl (srcPush (min slots avbSrcSlots)) src).pos
      = src.pos := srcPushes_pos ⟨slots, 0⟩ _ src
  rw [avbSrcPrime]
  dsimp only
  rw [hpos]

theorem srcHolds_primed (owed : Int) (frames : List SrcFrame) (pos : SrcPos) :
    SrcHolds layout
      { (frames.map some).foldl (srcPush layout.live) (avbSrcOwe avbSrcInit owed) with pos }
      frames.reverse := by
  have hprimed := (srcHolds_init layout owed).pushes frames
  rw [List.append_nil] at hprimed
  exact hprimed

theorem avbSrcPrime_holds (owed : Int) (primed : Fin avbSrcTaps → SrcFrame) :
    SrcHolds layout (avbSrcPrime (avbSrcOwe avbSrcInit owed) primed layout.slots)
      (List.ofFn primed).reverse := by
  rw [avbSrcPrime, ← SrcLayout.live]
  exact srcHolds_primed owed _ _

/-- Nothing has moved or is owed to the ratio yet. -/
theorem valid_of_unmoved {pos : SrcPos} (hfrac : pos.frac = 0) (hleft : pos.walkLeft = 0)
    (howed : pos.owed = 0) : pos.Valid where
  walkLeft_lt := by rw [hleft]; decide
  walkStep := Or.inl hleft
  frac_eq := by rw [hfrac, hleft, Nat.cast_zero, zero_mul, neg_zero, Int.zero_emod]
  owed_lt := by rw [howed, hleft]; decide

theorem srcSession_start_valid (owed : Int) (primed : Fin avbSrcTaps → SrcFrame) :
    (SrcSession.start layout owed primed).Valid layout := by
  have hpos : (SrcSession.start layout owed primed).src.pos
      = { (avbSrcOwe avbSrcInit owed).pos with frac := 0, walkLeft := 0 } :=
    avbSrcPrime_pos _ primed layout.slots
  constructor
  · rw [hpos]
    exact valid_of_unmoved rfl rfl rfl
  · rw [hpos]
    rfl
  · exact avbSrcPrime_holds owed primed
  · exact (List.length_reverse.trans List.length_ofFn).ge

/-- One call keeps it. -/
theorem srcSession_step_valid {s : SrcSession} {e : SrcEvent} (hfits : s.Fits e)
    (h : s.Valid layout) : (s.step table layout e).Valid layout := by
  cases e with
  | owe frames =>
      exact ⟨⟨h.pos.walkLeft_lt, h.pos.walkStep, h.pos.frac_eq, h.pos.owed_lt⟩, h.balance, h.holds,
        h.taken⟩
  | run input outFrames rateQ32 =>
      obtain ⟨hrate, hlength⟩ := hfits
      obtain ⟨hvalid, hbooks⟩ := srcPosAfter_books h.pos hrate outFrames
      have hbalance := h.balance
      have hpos := avbSrcRun_pos table layout s.src input outFrames rateQ32
      have hused := avbSrcRun_used table layout s.src input outFrames rateQ32
      constructor
      · rw [SrcSession.step]
        dsimp only
        rw [hpos]
        exact hvalid
      · rw [SrcSession.step]
        dsimp only
        rw [hpos, hused, avbSrcInputs]
        push_cast
        linarith
      · exact avbSrcRun_holds table h.holds hlength.ge
      · rw [SrcSession.step, List.length_append]
        exact h.taken.trans (Nat.le_add_left _ _)

/-- What the converter promises between any two calls, for whatever calls come next. -/
structure SrcPositioned (table : Nat → Int) (layout : SrcLayout) (s : SrcSession) : Prop where
  inputs_eq : ∀ input outFrames rateQ32,
    (avbSrcRun table layout s.src input outFrames rateQ32).used
      = avbSrcInputs s.src outFrames rateQ32
  inputs_add : ∀ input m n rateQ32,
    avbSrcInputs s.src (m + n) rateQ32 = avbSrcInputs s.src m rateQ32
      + avbSrcInputs (avbSrcRun table layout s.src input m rateQ32).src n rateQ32
  frac_iff : ∀ input outFrames (rateQ32 : Int), |rateQ32| ≤ 2 ^ 20 →
    let pos := (avbSrcRun table layout s.src input outFrames rateQ32).src.pos
    pos.frac = 0 ↔ pos.walkLeft = 0
  owed_lt : ∀ input (outFrames : Nat) (rateQ32 next : Int), |rateQ32| ≤ 2 ^ 20 → |next| ≤ 2 ^ 20 →
    |(avbSrcRun table layout s.src input outFrames rateQ32).src.pos.owed + next| < 4 * srcOne
  inputs_near :
    |s.inputs * srcOne - (s.outputs * srcOne + s.rateSum + s.extraWalks * srcOne)| < 4 * srcOne
  passes : ∀ input outFrames (rateQ32 : Int), |rateQ32| ≤ 2 ^ 20 →
    input.length = avbSrcInputs s.src outFrames rateQ32 → ∀ i < outFrames,
      let after := avbSrcRun table layout s.src input (i + 1) rateQ32
      after.src.pos.walkLeft = 0 →
        ∃ frame, ((input.take after.used).reverse ++ s.taken)[avbSrcTaps / 2]? = some frame ∧
          (avbSrcRun table layout s.src input outFrames rateQ32).out[i]?
            = some (srcPassed layout frame)

theorem SrcPositioned.of_valid {s : SrcSession} (h : s.Valid layout) :
    SrcPositioned table layout s where
  inputs_eq := avbSrcRun_used table layout s.src
  inputs_add := by
    intro input m n rateQ32
    rw [avbSrcInputs, avbSrcInputs, avbSrcInputs, srcInputs_add, avbSrcRun_pos]
  frac_iff := by
    intro input outFrames rateQ32 hrate
    dsimp only
    rw [avbSrcRun_pos]
    exact (srcPosAfter_books h.pos hrate outFrames).1.frac_eq_zero_iff
  owed_lt := by
    intro input outFrames rateQ32 next hrate hnext
    rw [avbSrcRun_pos]
    have hlt := (srcPosAfter_books h.pos hrate outFrames).1.owed_add_lt hnext
    unfold srcOne at hlt ⊢
    omega
  inputs_near := by
    -- what is left over is the debt and the input the walk in progress is at
    have hbalance := h.balance
    have howed := h.pos.owed_lt
    rw [abs_lt] at howed ⊢
    unfold srcOne at hbalance howed ⊢
    have hlead := h.pos.lead_eq
    unfold srcOne at hlead
    omega
  passes := by
    intro input outFrames rateQ32 hrate hlength i hi
    dsimp only
    intro hleft
    have hfits : avbSrcInputs s.src (i + 1) rateQ32 ≤ input.length := by
      rw [hlength]
      exact avbSrcInputs_mono s.src hi
    have hholds := avbSrcRun_holds table h.holds hfits
    have hvalid := (srcPosAfter_books h.pos hrate (i + 1)).1
    rw [← avbSrcRun_pos table layout s.src input] at hvalid
    have hlong : avbSrcTaps / 2 < ((input.take (avbSrcRun table layout s.src input (i + 1)
        rateQ32).used).reverse ++ s.taken).length := by
      have htaken := h.taken
      rw [List.length_append]
      exact Nat.lt_add_left _ (lt_of_lt_of_le (by decide) htaken)
    refine ⟨_, List.getElem?_eq_getElem hlong, ?_⟩
    rw [avbSrcRun_getElem? s.src hi]
    congr 1
    apply hholds.frameOut
    · exact hvalid.frac_eq_zero_iff.mpr hleft
    · exact List.getElem?_eq_getElem hlong

/-- From the priming on, over every sequence of calls. -/
theorem src_position (table : Nat → Int) (layout : SrcLayout) (owed : Int)
    (primed : Fin avbSrcTaps → SrcFrame) (events : List SrcEvent)
    (h : Machine.RunMeets SrcSession.Fits (SrcSession.step table layout)
      (.start layout owed primed) events) :
    SrcPositioned table layout
      (Machine.run (SrcSession.step table layout) (.start layout owed primed) events) := by
  apply SrcPositioned.of_valid
  apply h.invariant (SrcSession.Valid layout)
  · intro s e hfits hvalid
    exact srcSession_step_valid hfits hvalid
  · exact srcSession_start_valid owed primed

/-- A trim's walk starts, then the ratio asks for less. -/
theorem src_position_owe :
    let events : List SrcEvent := [.owe 1, .run [[], []] 2 (2 ^ 20), .run [[]] 1 (-2 ^ 20)]
    SrcPositioned (fun _ => 0) ⟨2, 2⟩ (Machine.run (SrcSession.step (fun _ => 0) ⟨2, 2⟩)
      (.start ⟨2, 2⟩ 0 fun _ => []) events) := by
  apply src_position
  refine ⟨trivial, ⟨by decide, ?_⟩, ⟨by decide, ?_⟩, trivial⟩
  · decide
  · decide

end EspAvb
