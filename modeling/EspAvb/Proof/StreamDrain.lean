import EspAvb.Lib.Machine
import EspAvb.Proof.StreamRx
import EspAvb.StreamDrain

/-!
# What the drain books

The PLL reads off the tail how much has been played. Whatever moves the tail while playout is locked,
a write to the DMA, a trim, a slip or a block of the converter, books its octets: the difference
between the tail and the sum of the books is the same after every operation as before it.
-/

namespace EspAvb

open Machine RingCells

/-! ### Whole frames -/

theorem dvd_toNat_add {a b : UInt32} (ha : 8 ∣ a.toNat) (hb : 8 ∣ b.toNat) :
    8 ∣ (a + b).toNat := by
  rw [UInt32.toNat_add]
  exact (Nat.dvd_mod_iff (by decide)).mpr (Nat.dvd_add ha hb)

theorem dvd_toNat_sub {a b : UInt32} (ha : 8 ∣ a.toNat) (hb : 8 ∣ b.toNat) :
    8 ∣ (a - b).toNat := by
  have hlt := b.toNat_lt
  have hturn : 8 ∣ 2 ^ 32 - b.toNat := Nat.dvd_sub (by decide) hb
  rw [UInt32.toNat_sub]
  exact (Nat.dvd_mod_iff (by decide)).mpr (Nat.dvd_add hturn ha)

theorem dvd_toNat_ofNat {n : Nat} (hn : 8 ∣ n) : 8 ∣ (UInt32.ofNat n).toNat := by
  rw [UInt32.toNat_ofNat']
  exact (Nat.dvd_mod_iff (by decide)).mpr hn

/-- Every position of the ring is that of a whole frame. -/
structure JitterRing.WholeFrames (r : JitterRing) : Prop where
  capacity : 8 ∣ r.capacity
  head : 8 ∣ r.head.toNat
  tail : 8 ∣ r.tail.toNat

namespace JitterRing.WholeFrames

variable {r : JitterRing}

theorem readable (h : r.WholeFrames) : 8 ∣ r.readable := dvd_toNat_sub h.head h.tail

theorem advance (h : r.WholeFrames) {n : Nat} (hn : 8 ∣ n) (hle : n ≤ r.readable) :
    (r.advance n hle).WholeFrames where
  capacity := h.capacity
  head := h.head
  tail := dvd_toNat_add h.tail (dvd_toNat_ofNat hn)

theorem appended {r' : JitterRing} {n : Nat} (h : r.WholeFrames) (happended : RingAppended r r' n)
    (hn : 8 ∣ n) : r'.WholeFrames where
  capacity := happended.capacity ▸ h.capacity
  head := by
    rw [happended.head]
    exact dvd_toNat_add h.head (dvd_toNat_ofNat hn)
  tail := happended.tail ▸ h.tail

end JitterRing.WholeFrames

/-! ### Packets -/

section Packet

open Traced

variable {ctx : StreamRxCtx} {frame : RxFrame} {clock : RxClock}

@[simp]
theorem drainLocked_rxDiagCapture (layout : PcmLayout) :
    (rxDiagCapture ctx frame layout).value.drainLocked = ctx.drainLocked := by
  unfold rxDiagCapture
  split <;> rfl

@[simp]
theorem drainLocked_rxConceal (p : ConcealParams) (total fillBytes : Nat) :
    (rxConceal p ctx total fillBytes).drainLocked = ctx.drainLocked := by
  unfold rxConceal
  split <;> rfl

@[simp]
theorem drainLocked_rxStandingDepth (lost : Nat) :
    (rxStandingDepth ctx lost).drainLocked = ctx.drainLocked := by
  unfold rxStandingDepth
  split
  · rfl
  · split
    · rfl
    · split <;> rfl

@[simp]
theorem drainLocked_rxWrite (subtype : UInt8) (layout : PcmLayout) :
    (rxWrite ctx frame clock subtype layout).value.drainLocked = ctx.drainLocked := by
  have hmark : ∀ (ctx : StreamRxCtx) pos,
      (rxMark ctx frame pos).value.drainLocked = ctx.drainLocked := by
    intro ctx pos
    unfold rxMark
    rw [value_bind]
    split <;> rfl
  have hanchor : ∀ (ctx : StreamRxCtx) preFill,
      (rxAnchor ctx frame clock preFill).value.drainLocked = ctx.drainLocked := by
    intro ctx preFill
    unfold rxAnchor
    split
    · rw [value_bind]
      split <;> rfl
    · rfl
  unfold rxWrite
  split
  · simp only [value_bind, hanchor, hmark]
    rfl
  · rfl

@[simp]
theorem drainLocked_rxStash : (rxStash ctx frame clock).value.drainLocked = ctx.drainLocked := by
  unfold rxStash
  split <;> rfl

theorem drainLocked_rxSequence {ctx' : StreamRxCtx} {seqNum : UInt8} {lost : Nat}
    (h : rxSequence ctx seqNum = some (ctx', lost)) : ctx'.drainLocked = ctx.drainLocked := by
  unfold rxSequence at h
  dsimp only at h
  split_ifs at h
  all_goals
    obtain ⟨rfl, -⟩ := Prod.mk.inj (Option.some.inj h)
    rfl

theorem drainLocked_rxRateCheck {ctx' : StreamRxCtx} {subtype : UInt8}
    (h : (rxRateCheck ctx frame subtype).value = some ctx') :
    ctx'.drainLocked = ctx.drainLocked := by
  unfold rxRateCheck at h
  split at h
  · rw [value_bind] at h
    split at h
    · cases h
    · cases h
      rfl
  · cases h
    rfl

theorem RingAppended.refl (r : JitterRing) : RingAppended r r 0 where
  fits := Nat.zero_le _
  capacity := rfl
  tail := rfl
  head := (UInt32.add_zero r.head).symm
  kept := AgreeOutside.refl _ _ _

/-- Whatever arrives, the ring gets whole frames behind its head, or nothing, and playout neither
starts nor ends. -/
theorem avbStreamRxHandler_appends (p : ConcealParams) (ctx : StreamRxCtx) (frame : RxFrame)
    (clock : RxClock) :
    (avbStreamRxHandler p ctx frame clock).value.drainLocked = ctx.drainLocked ∧
      ∃ n, 8 ∣ n ∧ RingAppended ctx.ring (avbStreamRxHandler p ctx frame clock).value.ring n := by
  have hsame : ∀ ctx' : StreamRxCtx, ctx'.drainLocked = ctx.drainLocked → ctx'.ring = ctx.ring →
      ctx'.drainLocked = ctx.drainLocked ∧ ∃ n, 8 ∣ n ∧ RingAppended ctx.ring ctx'.ring n := by
    intro ctx' hlocked hring
    rw [hring]
    exact ⟨hlocked, 0, dvd_zero 8, .refl _⟩
  unfold avbStreamRxHandler
  split
  · exact hsame _ rfl rfl
  rw [value_bind]
  split
  · exact hsame _ rfl rfl
  rw [value_bind]
  split
  · exact hsame _ rfl rfl
  · rename_i sequenced lost hsequence
    have hring := StreamRxCtx.ring_of_audio (audio_rxSequence hsequence)
    have hlocked := drainLocked_rxSequence hsequence
    simp only [value_bind]
    split
    · exact hsame _ hlocked hring
    · rename_i checked hcheck
      replace hring := (StreamRxCtx.ring_of_audio (audio_rxRateCheck hcheck)).trans hring
      replace hlocked := (drainLocked_rxRateCheck hcheck).trans hlocked
      rw [value_bind]
      split
      · exact hsame _ hlocked hring
      · rename_i layout hparse
        split
        · exact hsame _ hlocked hring
        · have hkept : ∀ subtype, (rxAudio p checked frame clock subtype layout lost).value.drainLocked
              = ctx.drainLocked := by
            intro subtype
            simp only [rxAudio, value_bind, drainLocked_rxStash, drainLocked_rxWrite,
              drainLocked_rxStandingDepth, drainLocked_rxConceal, drainLocked_rxDiagCapture, hlocked]
          rcases rxAudio_ring p checked clock _ (rxParse_sound hparse) lost with
            hsilent | ⟨fill, hwritten⟩
          · exact hsame _ (hkept _) (hsilent.trans hring)
          · refine ⟨hkept _, fill + layout.total, ?_, ?_⟩
            · exact Nat.dvd_add hwritten.aligned (Nat.dvd_mul_left 8 layout.samples)
            · rw [← hring]
              exact hwritten.appended

end Packet

/-! ### Books -/

namespace StreamDrain

variable {cfg : DrainConfig} {ctx ctx' ctx'' : StreamDrain}

/-- The octets that left the ring for the DMA since the lock: those written, or those that the
converter made and the half window it was primed with. -/
def handed (ctx : StreamDrain) : UInt32 :=
  if ctx.srcOut then
    UInt32.ofNat ctx.produced + if ctx.srcPrimed then UInt32.ofNat srcHalf else 0
  else UInt32.ofNat ctx.dma.length

/-- How far the tail is from where the books say. -/
def unbooked (ctx : StreamDrain) : UInt32 :=
  ctx.ring.tail - ctx.phaseLockPos - ctx.handed - ctx.phaseTrimmed - ctx.phaseSlipped

structure WholeFrames (ctx : StreamDrain) : Prop where
  ring : ctx.ring.WholeFrames
  slipPos : 8 ∣ ctx.slipPos.toNat

/-- An operation of a locked drain books what it moves. -/
structure Booked (ctx ctx' : StreamDrain) : Prop where
  locked : ctx'.rx.drainLocked = ctx.rx.drainLocked
  srcOut : ctx'.srcOut = ctx.srcOut
  unbooked : ctx'.unbooked = ctx.unbooked
  frames : ctx.WholeFrames → ctx'.WholeFrames

namespace Booked

theorem refl (ctx : StreamDrain) : Booked ctx ctx := ⟨rfl, rfl, rfl, id⟩

theorem trans (h : Booked ctx ctx') (h' : Booked ctx' ctx'') : Booked ctx ctx'' where
  locked := h'.locked.trans h.locked
  srcOut := h'.srcOut.trans h.srcOut
  unbooked := h'.unbooked.trans h.unbooked
  frames := h'.frames ∘ h.frames

end Booked

theorem dvd_unit (cfg : DrainConfig) : 8 ∣ cfg.unit := Nat.dvd_mul_left 8 cfg.unitFrames

/-- Whole DMA buffers are whole frames. -/
theorem dvd_sub_mod_unit (cfg : DrainConfig) (n : Nat) : 8 ∣ n - n % cfg.unit :=
  (dvd_unit cfg).trans (Nat.dvd_sub_mod n)

/-! #### Trims -/

theorem booked_trim (ctx : StreamDrain) (surplusUs : Int) : Booked ctx (ctx.trim cfg surplusUs) := by
  unfold trim
  dsimp only
  split
  · exact .refl ctx
  · split
    · rename_i hout
      have hle := ctx.trimBytes_le cfg surplusUs hout
      refine ⟨rfl, rfl, ?_, fun h => ⟨⟨h.ring.capacity, h.ring.head, ?_⟩, h.slipPos⟩⟩
      · simp only [unbooked, handed, setRing, JitterRing.advance, hout]
        grind
      · exact dvd_toNat_add h.ring.tail (dvd_toNat_ofNat (dvd_sub_mod_unit cfg _))
    · exact ⟨rfl, rfl, rfl, fun h => ⟨h.ring, h.slipPos⟩⟩

theorem booked_trimLatency (ctx : StreamDrain) (nowUs phaseNs aheadUs : Int) :
    Booked ctx (ctx.streamInTrimLatency cfg nowUs phaseNs aheadUs) := by
  have hsame : ∀ ctx' : StreamDrain, ctx' = { ctx with
      trimWindowStartUs := ctx'.trimWindowStartUs, trimMinAheadUs := ctx'.trimMinAheadUs } →
      Booked ctx ctx' := by
    intro ctx' h
    rw [h]
    exact ⟨rfl, rfl, rfl, fun h => ⟨h.ring, h.slipPos⟩⟩
  unfold streamInTrimLatency
  split
  · exact .refl ctx
  · dsimp only
    split_ifs
    any_goals exact hsame _ rfl
    all_goals exact (hsame _ rfl).trans (booked_trim _ _)

/-! #### Slips -/

theorem booked_slipFrame (ctx : StreamDrain) (drop : Bool) :
    Booked ctx (ctx.streamInSlipFrame drop) := by
  unfold streamInSlipFrame
  split
  · exact .refl ctx
  · exact ⟨rfl, rfl, rfl, fun h => ⟨h.ring, h.ring.tail⟩⟩

theorem booked_slipFadeLoop (left : Nat) (ctx : StreamDrain) :
    Booked ctx (slipFadeLoop left ctx) := by
  induction left generalizing ctx with
  | zero => exact .refl ctx
  | succ left ih =>
      unfold slipFadeLoop
      dsimp only
      have hframe : Booked ctx ctx.slipFadeFrame :=
        ⟨rfl, rfl, rfl, fun h => ⟨⟨h.ring.capacity, h.ring.head, h.ring.tail⟩,
          dvd_toNat_add h.slipPos (dvd_toNat_ofNat (dvd_refl 8))⟩⟩
      split_ifs
      any_goals exact .refl ctx
      all_goals exact hframe.trans (ih _)

theorem booked_slipFade (ctx : StreamDrain) : Booked ctx ctx.streamInSlipFade := by
  unfold streamInSlipFade
  split
  · exact .refl ctx
  · split
    · exact ⟨rfl, rfl, rfl, fun h => ⟨h.ring, h.slipPos⟩⟩
    · exact booked_slipFadeLoop _ ctx

theorem booked_slipLand (ctx : StreamDrain) : Booked ctx ctx.streamInSlipLand := by
  have hframe : 8 ∣ (UInt32.ofNat streamFrameBytes).toNat := dvd_toNat_ofNat (dvd_refl 8)
  unfold streamInSlipLand
  split
  · exact .refl ctx
  · split
    · split
      · refine ⟨rfl, rfl, ?_, fun h => ⟨⟨h.ring.capacity, h.ring.head, ?_⟩, h.slipPos⟩⟩
        · simp only [unbooked, handed, setRing, JitterRing.advance]
          grind
        · exact dvd_toNat_add h.ring.tail hframe
      · exact .refl ctx
    · split
      · refine ⟨rfl, rfl, ?_, fun h => ⟨⟨h.ring.capacity, h.ring.head, ?_⟩, h.slipPos⟩⟩
        · simp only [unbooked, handed, setRing, JitterRing.retreat]
          grind
        · exact dvd_toNat_sub h.ring.tail hframe
      · exact .refl ctx

theorem booked_slipAsked (ctx : StreamDrain) (slip : Option Bool) :
    Booked ctx (ctx.slipAsked slip) := by
  unfold slipAsked
  split
  · split
    · exact .refl ctx
    · exact booked_slipFrame ctx _
  · exact .refl ctx

theorem booked_phaseTick (ctx : StreamDrain) (tick : PhaseTick) :
    Booked ctx (ctx.streamInPhaseTick cfg tick) := by
  have hresidual : ∀ ctx : StreamDrain, Booked ctx (ctx.lockResidual tick.residualFrames) := by
    intro ctx
    unfold lockResidual
    split
    · exact ⟨rfl, rfl, rfl, fun h => ⟨h.ring, h.slipPos⟩⟩
    · exact .refl ctx
  exact ((booked_slipAsked ctx _).trans (hresidual _)).trans (booked_trimLatency _ _ _ _)

/-! #### The converter -/

theorem ofInt_natCast (n : Nat) : UInt32.ofInt (n : Int) = UInt32.ofNat n := by
  have hmod : ((n : Int) % 2 ^ 32).toNat = n % 2 ^ 32 := by omega
  apply UInt32.toNat_inj.mp
  rw [UInt32.ofInt, hmod, UInt32.toNat_ofNat', UInt32.toNat_ofNat', Nat.mod_mod]

/-- What a block takes is what it makes, and what was trimmed, and the rest, slipped. -/
theorem taken_split (inFrames outFrames trimmed : Nat) :
    UInt32.ofNat (inFrames * streamFrameBytes)
      = UInt32.ofNat (outFrames * streamFrameBytes) + UInt32.ofNat trimmed
        + UInt32.ofInt (((inFrames : Int) - outFrames) * streamFrameBytes - trimmed) := by
  rw [← ofInt_natCast, ← ofInt_natCast, ← ofInt_natCast, ← UInt32.ofInt_add, ← UInt32.ofInt_add]
  congr 1
  push_cast
  ring

theorem booked_convertBlock {rateQ32 : Int} (hout : ctx.srcOut = true)
    (hprimed : ctx.srcPrimed = true) (h : ctx.streamInConvertBlock cfg rateQ32 = some ctx') :
    Booked ctx ctx' ∧ ctx'.srcPrimed = true := by
  unfold streamInConvertBlock at h
  obtain ⟨⟨⟨outFrames, inFrames⟩, hfit⟩, -, rfl⟩ := Option.map_eq_some_iff.mp h
  refine ⟨⟨rfl, rfl, ?_, fun h => ⟨⟨h.ring.capacity, h.ring.head, ?_⟩, h.slipPos⟩⟩, hprimed⟩
  · have htaken := taken_split inFrames outFrames (ctx.srcTrimmed inFrames outFrames)
    simp only [StreamDrain.unbooked, handed, setRing, JitterRing.advance, hout, hprimed, if_true,
      UInt32.ofNat_add] at htaken ⊢
    grind
  · exact dvd_toNat_add h.ring.tail (dvd_toNat_ofNat (Nat.dvd_mul_left 8 inFrames))

theorem booked_writePending (hout : ctx.srcOut = true) (room : Nat) :
    Booked ctx (ctx.writePending room) := by
  refine ⟨rfl, rfl, ?_, fun h => ⟨h.ring, h.slipPos⟩⟩
  simp only [StreamDrain.unbooked, handed, writePending, hout, if_true]

theorem booked_convertLoop {rateQ32 : Int} (rooms : List Nat) (hout : ctx.srcOut = true)
    (hprimed : ctx.srcPrimed = true) : Booked ctx (convertLoop cfg rateQ32 rooms ctx) := by
  induction rooms generalizing ctx with
  | nil =>
      unfold convertLoop
      split
      · cases hblock : ctx.streamInConvertBlock cfg rateQ32 with
        | none => exact .refl ctx
        | some ctx' => exact (booked_convertBlock hout hprimed hblock).1
      · exact .refl ctx
  | cons room rooms ih =>
      have hnext : ∀ ctx', (if ctx.srcPending = [] then ctx.streamInConvertBlock cfg rateQ32
          else some ctx) = some ctx' → Booked ctx ctx' ∧ ctx'.srcPrimed = true := by
        intro ctx' h
        split at h
        · exact booked_convertBlock hout hprimed h
        · rw [← Option.some.inj h]
          exact ⟨.refl ctx, hprimed⟩
      unfold convertLoop
      cases hblock : (if ctx.srcPending = [] then ctx.streamInConvertBlock cfg rateQ32
          else some ctx) with
      | none => exact .refl ctx
      | some ctx' =>
          obtain ⟨hbooked, hprimed'⟩ := hnext ctx' hblock
          have hout' : ctx'.srcOut = true := hbooked.srcOut.trans hout
          have hwritten := hbooked.trans (booked_writePending hout' room)
          dsimp only
          split
          · exact hwritten.trans (ih hout' hprimed')
          · exact hwritten

theorem booked_writeConverted (pass : DrainTurn) (hout : ctx.srcOut = true) :
    Booked ctx (ctx.streamInWriteConverted cfg pass) := by
  unfold streamInWriteConverted
  split
  · rename_i hprimed
    exact booked_convertLoop _ hout hprimed
  · rename_i hunprimed
    split
    · have hhalf : 8 ∣ srcHalf := Nat.dvd_mul_left 8 (avbSrcTaps / 2)
      dsimp only
      refine Booked.trans ?_ (booked_convertLoop _ ?_ ?_)
      · refine ⟨rfl, rfl, ?_, fun h => ⟨⟨h.ring.capacity, h.ring.head, ?_⟩, h.slipPos⟩⟩
        · simp only [StreamDrain.unbooked, handed, setRing, JitterRing.advance, hout, hunprimed,
            if_true]
          grind
        · exact dvd_toNat_add h.ring.tail (dvd_toNat_ofNat hhalf)
      · exact hout
      · rfl
    · exact .refl ctx

/-! #### The ring as it is -/

theorem dvd_min_of_dvd {a b n : Nat} (ha : n ∣ a) (hb : n ∣ b) : n ∣ min a b := by
  rcases min_choice a b with h | h
  · rwa [h]
  · rwa [h]

theorem dvd_slipCap (h : ctx.WholeFrames) {toRead : Nat} (hread : 8 ∣ toRead) :
    8 ∣ ctx.streamInSlipCap cfg toRead := by
  have hfaded : 8 ∣ (ctx.slipPos - ctx.ring.tail).toNat := dvd_toNat_sub h.slipPos h.ring.tail
  unfold streamInSlipCap
  dsimp only
  split
  · exact hread
  · split
    · exact dvd_min_of_dvd hread hfaded
    · split
      · exact dvd_sub_mod_unit cfg _
      · exact hread

theorem dvd_dmaTakes (h : ctx.WholeFrames) {toRead : Nat} (hread : 8 ∣ toRead) (room : List Nat) :
    8 ∣ ctx.dmaTakes toRead room := by
  have hcell : 8 ∣ ctx.ring.tail.toNat % ctx.ring.capacity :=
    (Nat.dvd_mod_iff h.ring.capacity).mpr h.ring.tail
  have hfirst : 8 ∣ min toRead (ctx.ring.capacity - ctx.ring.tail.toNat % ctx.ring.capacity) :=
    dvd_min_of_dvd hread (Nat.dvd_sub h.ring.capacity hcell)
  have hroom : ∀ i, 8 ∣ room.getD i 0 * streamFrameBytes := fun i => Nat.dvd_mul_left 8 _
  unfold dmaTakes
  dsimp only
  split
  · exact Nat.dvd_add (dvd_min_of_dvd hfirst (hroom 0))
      (dvd_min_of_dvd (Nat.dvd_sub hread hfirst) (hroom 1))
  · exact dvd_min_of_dvd hfirst (hroom 0)

theorem booked_drainRing (pass : DrainTurn) (hout : ctx.srcOut = false) :
    Booked ctx (ctx.drainRing cfg pass) := by
  refine ⟨rfl, rfl, ?_, fun h => ⟨⟨h.ring.capacity, h.ring.head, ?_⟩, h.slipPos⟩⟩
  · simp only [StreamDrain.unbooked, handed, drainRing, setRing, JitterRing.advance, hout,
      Bool.false_eq_true, if_false, List.length_append, JitterRing.peek, List.length_map,
      List.length_range, UInt32.ofNat_add]
    grind
  · have hread : 8 ∣ ctx.drainRead cfg := dvd_slipCap h (dvd_sub_mod_unit cfg _)
    exact dvd_toNat_add h.ring.tail (dvd_toNat_ofNat (dvd_dmaTakes h hread _))

/-! ### A pass -/

/-- The ring is in whole frames, and while playout is locked the books are right. -/
structure Accounted (ctx : StreamDrain) : Prop where
  frames : ctx.WholeFrames
  books : ctx.rx.drainLocked = true → ctx.unbooked = 0

theorem Booked.accounted (h : Booked ctx ctx') (haccounted : ctx.Accounted) : ctx'.Accounted where
  frames := h.frames haccounted.frames
  books hlocked := by
    rw [h.unbooked]
    exact haccounted.books (h.locked.symm.trans hlocked)

theorem accounted_flush (h : ctx.WholeFrames) {rx : StreamRxCtx} (hring : rx.ring = ctx.ring.flush)
    (hlocked : rx.drainLocked = false) : StreamDrain.Accounted { ctx with rx } where
  frames := by
    refine ⟨?_, h.slipPos⟩
    simp only [ring, hring]
    exact h.ring.advance h.ring.readable le_rfl
  books h := absurd (hlocked.symm.trans h) Bool.false_ne_true

theorem accounted_drainEmpty (h : ctx.Accounted) (starved : Bool) :
    (ctx.streamInDrainEmpty starved).Accounted := by
  unfold streamInDrainEmpty
  split
  · exact accounted_flush h.frames rfl rfl
  · exact h

theorem accounted_drainWrite (h : ctx.Accounted) (pass : DrainTurn) :
    (ctx.drainWrite cfg pass).Accounted := by
  have hlanded : (ctx.streamInSlipLand.streamInSlipFade).Accounted :=
    ((booked_slipLand ctx).trans (booked_slipFade _)).accounted h
  unfold drainWrite
  generalize ctx.streamInSlipLand.streamInSlipFade = landed at hlanded
  dsimp only
  split
  · exact accounted_drainEmpty hlanded _
  split
  · exact hlanded
  split
  · rename_i hout
    have hconverted := (@booked_writeConverted cfg _ pass hout).accounted hlanded
    split
    · exact accounted_drainEmpty hconverted _
    · exact hconverted
  · rename_i hout
    split
    · exact hlanded
    · have hdrained := @booked_drainRing cfg _ pass (Bool.eq_false_of_not_eq_true hout)
      exact (hdrained.trans (booked_slipLand _)).accounted hlanded

theorem accounted_lockedPass (h : ctx.Accounted) (pass : DrainTurn) :
    (ctx.drainLockedPass cfg pass).Accounted := by
  unfold drainLockedPass
  split
  · exact ⟨⟨h.frames.ring, h.frames.slipPos⟩, fun h => absurd h Bool.false_ne_true⟩
  · dsimp only
    split
    · exact accounted_drainWrite (((booked_phaseTick ctx _).trans
        (booked_slipAsked _ _)).accounted h) pass
    · exact accounted_drainWrite ((booked_slipAsked ctx _).accounted h) pass

/-- Playout starts with the books empty. -/
theorem accounted_start (h : ctx.WholeFrames) (ptMode : Bool) (errNs : Nat) :
    (ctx.drainStart ptMode errNs).Accounted := by
  have hlate : 8 ∣ ctx.lateBytes ptMode errNs := Nat.dvd_sub_mod _
  refine ⟨⟨h.ring.advance hlate (ctx.lateBytes_le ptMode errNs), h.slipPos⟩, fun _ => ?_⟩
  cases hout : ctx.srcOut with
  | true => simp [StreamDrain.unbooked, handed, drainStart, streamInPhaseLock, hout]
  | false => simp [StreamDrain.unbooked, handed, drainStart, streamInPhaseLock, hout]

theorem accounted_pass (h : ctx.Accounted) (pass : DrainTurn) :
    (ctx.streamInDrainBody cfg pass).Accounted := by
  unfold streamInDrainBody
  split
  · exact accounted_lockedPass h pass
  · rename_i hunlocked
    have hfree := Bool.eq_false_of_not_eq_true hunlocked
    split
    · exact h
    · exact ⟨⟨h.frames.ring, h.frames.slipPos⟩, fun hlocked => absurd hlocked hunlocked⟩
    · exact accounted_flush h.frames rfl hfree
    · split
      · exact h
      · exact accounted_lockedPass (accounted_start h.frames _ _) pass

end StreamDrain

/-! ### Runs -/

open StreamDrain

theorem accounted_playStep (p : ConcealParams) (cfg : DrainConfig) {ctx : StreamDrain}
    (h : ctx.Accounted) (event : PlayEvent) : (playStep p cfg ctx event).Accounted := by
  cases event with
  | pass pass => exact accounted_pass h pass
  | packet frame clock =>
      obtain ⟨hlocked, n, hn, happended⟩ := avbStreamRxHandler_appends p ctx.rx frame clock
      refine ⟨⟨h.frames.ring.appended happended hn, h.frames.slipPos⟩, fun hafter => ?_⟩
      have hmoved : (playStep p cfg ctx (.packet frame clock)).unbooked = ctx.unbooked :=
        congrArg (fun tail => tail - ctx.phaseLockPos - ctx.handed - ctx.phaseTrimmed
          - ctx.phaseSlipped) happended.tail
      exact hmoved.trans (h.books (hlocked.symm.trans hafter))

/-- A drain of single frames, untrimmed. -/
def directDrain : DrainConfig :=
  { unitFrames := 1, unitFrames_pos := Nat.one_pos, windowS := 0, marginUs := 0, table := fun _ => 0
    srcMaxFrames := 0 }

/-- A pass in which the DMA takes one frame and nothing else is due. -/
def quietTurn (gate : GateDecision) : DrainTurn :=
  { gate, regate := false, tick := none, rateSlip := none, rateQ32 := 0, room := [1], starved := false }

namespace JitterRing

variable (r : JitterRing)

/-- What waits in the ring, the oldest octet first. -/
def queue : List UInt8 := r.peek r.readable

@[simp]
theorem length_peek (count : Nat) : (r.peek count).length = count := by
  rw [peek, List.length_map, List.length_range]

theorem getElem?_peek (count i : Nat) :
    (r.peek count)[i]? = if i < count then some (r.buf ((r.tail.toNat + i) % r.capacity)) else none := by
  rw [peek, List.getElem?_map]
  by_cases hi : i < count
  · rw [List.getElem?_range hi, if_pos hi]
    rfl
  · rw [List.getElem?_eq_none (by simpa using hi), if_neg hi]
    rfl

/-- The front of the queue is taken off. -/
theorem queue_advance {n : Nat} (h : n ≤ r.readable) :
    r.peek n ++ (r.advance n h).queue = r.queue := by
  have hreadable : (r.advance n h).readable = r.readable - n := r.toNat_advance h
  apply List.ext_getElem?
  intro i
  by_cases hi : i < n
  · rw [List.getElem?_append_left (by simpa using hi), getElem?_peek, if_pos hi, queue,
      getElem?_peek, if_pos (hi.trans_le h)]
  · have hge : n ≤ i := Nat.le_of_not_lt hi
    have hcell : ((r.tail + UInt32.ofNat n).toNat + (i - n)) % r.capacity
        = (r.tail.toNat + i) % r.capacity := by
      rw [Nat.add_mod, r.toNat_mod, ← Nat.add_mod, Nat.add_assoc, Nat.add_sub_cancel' hge]
    rw [List.getElem?_append_right (by simpa using hge), length_peek, queue, queue, getElem?_peek,
      getElem?_peek, hreadable]
    by_cases hqueued : i < r.readable
    · rw [if_pos (by omega), if_pos hqueued]
      exact congrArg (fun cell => some (r.buf cell)) hcell
    · rw [if_neg (by omega), if_neg hqueued]

end JitterRing

/-- What is appended goes behind what waits. -/
theorem RingAppended.queue {r r' : JitterRing} {n : Nat} (h : RingAppended r r' n) :
    r.queue ++ r'.queue.drop r.readable = r'.queue := by
  have hfront : r'.queue.take r.readable = r.queue := by
    apply List.ext_getElem?
    intro i
    rw [List.getElem?_take, JitterRing.queue, JitterRing.queue, JitterRing.getElem?_peek,
      JitterRing.getElem?_peek, h.readable]
    by_cases hi : i < r.readable
    · rw [if_pos hi, if_pos hi, if_pos (hi.trans_le (Nat.le_add_right _ _)), h.tail, h.capacity,
        h.queued hi]
    · rw [if_neg hi, if_neg hi]
  calc r.queue ++ r'.queue.drop r.readable
      = r'.queue.take r.readable ++ r'.queue.drop r.readable := by rw [hfront]
    _ = r'.queue := List.take_append_drop _ _

/-- A pass that neither trims nor slips nor ends playout. -/
structure SteadyPass (cfg : DrainConfig) (pass : DrainTurn) : Prop where
  regate : pass.regate = false
  starved : pass.starved = false
  rateSlip : pass.rateSlip = none
  heldSlip : ∀ tick, pass.tick = some tick → tick.heldSlip = none
  untrimmed : cfg.windowS = 0 ∨ pass.tick = none

/-- Playout runs without the converter, and no slip is on. -/
structure Steady (ctx : StreamDrain) : Prop where
  locked : ctx.rx.drainLocked = true
  direct : ctx.srcOut = false
  slipless : ctx.slipDir = 0

/-- What arrives in the events of a run. -/
def arrivals (p : ConcealParams) (cfg : DrainConfig) : StreamDrain → List PlayEvent → List UInt8
  | _, [] => []
  | ctx, .packet frame clock :: events =>
      let ctx' := playStep p cfg ctx (.packet frame clock)
      ctx'.ring.queue.drop ctx.ring.readable ++ arrivals p cfg ctx' events
  | ctx, .pass pass :: events => arrivals p cfg (playStep p cfg ctx (.pass pass)) events

section

variable {cfg : DrainConfig} {ctx : StreamDrain}

theorem slipLand_steady (h : Steady ctx) : ctx.streamInSlipLand = ctx := if_pos (Or.inl h.slipless)

theorem phaseTick_steady (h : Steady ctx) (hwindow : cfg.windowS = 0) {tick : PhaseTick}
    (hslip : tick.heldSlip = none) : ctx.streamInPhaseTick cfg tick = ctx := by
  have hresidual : ctx.lockResidual tick.residualFrames = ctx := by
    refine if_neg fun hdue => ?_
    exact Bool.false_ne_true (h.direct.symm.trans hdue.1)
  unfold streamInPhaseTick slipAsked
  rw [hslip]
  dsimp only
  rw [hresidual]
  exact if_pos (Or.inr (Or.inr (Or.inr hwindow)))

/-- A steady pass hands the front of the queue on. -/
theorem drainWrite_steady (h : Steady ctx) {pass : DrainTurn} (hstarved : pass.starved = false) :
    Steady (ctx.drainWrite cfg pass) ∧
      (ctx.drainWrite cfg pass).dma ++ (ctx.drainWrite cfg pass).ring.queue
        = ctx.dma ++ ctx.ring.queue := by
  have hempty : ctx.streamInDrainEmpty pass.starved = ctx :=
    if_neg fun hon => Bool.false_ne_true (hstarved.symm.trans hon)
  have hfade : ctx.streamInSlipFade = ctx := if_pos h.slipless
  unfold drainWrite
  rw [slipLand_steady h, hfade]
  dsimp only
  rw [hempty]
  split
  · exact ⟨h, rfl⟩
  split
  · exact ⟨h, rfl⟩
  split
  · rename_i hout
    exact absurd (h.direct.symm.trans hout) Bool.false_ne_true
  split
  · exact ⟨h, rfl⟩
  · have hdrained : Steady (ctx.drainRing cfg pass) := ⟨h.locked, h.direct, h.slipless⟩
    rw [slipLand_steady hdrained]
    refine ⟨hdrained, ?_⟩
    have hle := (ctx.dmaTakes_le (ctx.drainRead cfg) pass.room).trans (ctx.drainRead_le cfg)
    calc (ctx.drainRing cfg pass).dma ++ (ctx.drainRing cfg pass).ring.queue
        = ctx.dma ++ (ctx.ring.peek (ctx.dmaTakes (ctx.drainRead cfg) pass.room)
            ++ (ctx.ring.advance _ hle).queue) := List.append_assoc _ _ _
      _ = ctx.dma ++ ctx.ring.queue := by rw [ctx.ring.queue_advance hle]

theorem streamInDrainBody_steady (h : Steady ctx) {pass : DrainTurn} (hpass : SteadyPass cfg pass) :
    ctx.streamInDrainBody cfg pass = ctx.drainWrite cfg pass := by
  have hregate : ¬(pass.regate = true ∧ ctx.rx.diagGateMode = 2) := fun hdue =>
    Bool.false_ne_true (hpass.regate.symm.trans hdue.1)
  unfold streamInDrainBody drainLockedPass
  rw [if_pos h.locked, if_neg hregate, hpass.rateSlip]
  cases htick : pass.tick with
  | none => rfl
  | some tick =>
      have hwindow := hpass.untrimmed.resolve_right fun hnone => by
        rw [htick] at hnone
        cases hnone
      dsimp only
      rw [phaseTick_steady h hwindow (hpass.heldSlip tick htick)]
      rfl

theorem pass_steady (h : Steady ctx) {pass : DrainTurn} (hpass : SteadyPass cfg pass) :
    Steady (ctx.streamInDrainBody cfg pass) ∧
      (ctx.streamInDrainBody cfg pass).dma ++ (ctx.streamInDrainBody cfg pass).ring.queue
        = ctx.dma ++ ctx.ring.queue := by
  rw [streamInDrainBody_steady h hpass]
  exact drainWrite_steady h hpass.starved

end

/-- While playout runs without a trim or a slip, the DMA gets the octets that waited at the start and
those that arrived since, each once and in order, whatever it takes at a time. -/
theorem playout_in_order (p : ConcealParams) (cfg : DrainConfig) (ctx : StreamDrain)
    (h : Steady ctx) (events : List PlayEvent)
    (hevents : ∀ pass, .pass pass ∈ events → SteadyPass cfg pass) :
    (run (playStep p cfg) ctx events).dma ++ (run (playStep p cfg) ctx events).ring.queue
      = ctx.dma ++ ctx.ring.queue ++ arrivals p cfg ctx events := by
  induction events generalizing ctx with
  | nil => exact (List.append_nil _).symm
  | cons event events ih =>
      have hrest : ∀ pass, .pass pass ∈ events → SteadyPass cfg pass := fun pass hpass =>
        hevents pass (List.mem_cons_of_mem _ hpass)
      cases event with
      | packet frame clock =>
          obtain ⟨hlocked, n, -, happended⟩ := avbStreamRxHandler_appends p ctx.rx frame clock
          have hsteady : Steady (playStep p cfg ctx (.packet frame clock)) :=
            ⟨hlocked.trans h.locked, h.direct, h.slipless⟩
          have hqueue : ctx.ring.queue ++ (playStep p cfg ctx (.packet frame clock)).ring.queue.drop
              ctx.ring.readable = (playStep p cfg ctx (.packet frame clock)).ring.queue :=
            happended.queue
          rw [run_cons, ih _ hsteady hrest, ← hqueue]
          simp only [arrivals, List.append_assoc]
          rfl
      | pass pass =>
          obtain ⟨hsteady, hhanded⟩ := pass_steady h (hevents pass List.mem_cons_self)
          rw [run_cons, ih (playStep p cfg ctx (.pass pass)) hsteady hrest, arrivals]
          exact congrArg (· ++ _) hhanded

/-- Playout is on and the ring is empty. -/
def playingCtx : StreamDrain :=
  { startStreamIn crossfadingCtx false with
    rx := { (startStreamIn crossfadingCtx false).rx with drainLocked := true } }

theorem playout_in_order_once :
    let events : List PlayEvent := [.packet (stereoFrame 32) quietClock, .pass (quietTurn .hold)]
    let ctx := run (playStep noRepeat directDrain) playingCtx events
    ctx.dma.length = 8 ∧ ctx.dma ++ ctx.ring.queue
      = playingCtx.dma ++ playingCtx.ring.queue
        ++ arrivals noRepeat directDrain playingCtx events := by
  intro events ctx
  refine ⟨by decide +kernel,
    playout_in_order noRepeat directDrain playingCtx ⟨rfl, rfl, rfl⟩ events fun pass hpass => ?_⟩
  have hturn : pass = quietTurn .hold := by
    rcases List.mem_cons.mp hpass with hpacket | hpass
    · cases hpacket
    · exact PlayEvent.pass.inj (List.mem_singleton.mp hpass)
  rw [hturn]
  exact ⟨rfl, rfl, rfl, fun tick htick => absurd htick (Option.some_ne_none tick).symm, Or.inl rfl⟩

end EspAvb
