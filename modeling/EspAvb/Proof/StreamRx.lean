import EspAvb.StreamRx

/-!
# What a stream frame does to the jitter ring

A packet goes into the ring whole or not at all, behind a concealment insert of whole slots, and
what was queued before stays. The frames of the packet hold the samples that the frame itself
carries; while a crossfade is owed they are mixed with the repetition.
-/

namespace EspAvb

open Traced RingCells

/-- `stream_data_len` of the header. -/
def RxFrame.streamDataLen (frame : RxFrame) : Nat := Octets.value [frame.octet 20, frame.octet 21]

/-! ### Positions of the ring -/

namespace JitterRing

variable (r : JitterRing)

/-- The capacity divides 2^32, so a wrapped position has the cell of the unwrapped one. -/
theorem toNat_mod (pos : UInt32) (n : Nat) :
    (pos + UInt32.ofNat n).toNat % r.capacity = (pos.toNat + n) % r.capacity := by
  obtain ⟨k, hk, hcap⟩ := r.power
  have hdvd : r.capacity ∣ 2 ^ 32 := by
    rw [hcap]
    exact pow_dvd_pow 2 (by omega)
  rw [UInt32.toNat_add, UInt32.toNat_ofNat', Nat.mod_mod_of_dvd _ hdvd, Nat.add_mod,
    Nat.mod_mod_of_dvd _ hdvd, ← Nat.add_mod]

theorem head_mod (n : Nat) :
    (r.head.toNat + n) % r.capacity = (r.tail.toNat + r.readable + n) % r.capacity := by
  have hhead : r.head = r.tail + UInt32.ofNat r.readable := by
    rw [readable, UInt32.ofNat_toNat, UInt32.add_comm, UInt32.sub_add_cancel]
  have hcell := r.toNat_mod r.tail r.readable
  rw [← hhead] at hcell
  rw [Nat.add_mod, hcell, ← Nat.add_mod]

/-- The cells behind the head are none of the queued ones. -/
theorem outside_of_readable {n i : Nat} (hfit : n ≤ r.writable) (hi : i < r.readable) :
    Outside r.capacity r.head.toNat n ((r.tail.toNat + i) % r.capacity) := by
  have hfill : r.readable ≤ r.capacity := r.fill_le
  have hout : Outside r.capacity (r.tail.toNat + r.readable) n
      ((r.tail.toNat + i) % r.capacity) := by
    refine outside_of_lt (by omega) ?_
    simp only [writable] at hfit
    omega
  refine hout.congr ?_
  simpa using (r.head_mod 0).symm

end JitterRing

/-- `n` octets are appended behind the head; what was queued stays. -/
structure RingAppended (before after : JitterRing) (n : Nat) : Prop where
  fits : n ≤ before.writable
  capacity : after.capacity = before.capacity
  tail : after.tail = before.tail
  head : after.head = before.head + UInt32.ofNat n
  kept : AgreeOutside before.capacity before.head.toNat n before.buf after.buf

theorem RingAppended.queued {before after : JitterRing} {n i : Nat} (h : RingAppended before after n)
    (hi : i < before.readable) :
    after.buf ((before.tail.toNat + i) % before.capacity)
      = before.buf ((before.tail.toNat + i) % before.capacity) :=
  h.kept _ (before.outside_of_readable h.fits hi)

theorem RingAppended.readable {before after : JitterRing} {n : Nat} (h : RingAppended before after n) :
    after.readable = before.readable + n := by
  have hpush := before.toNat_push h.fits
  rw [JitterRing.readable, h.head, h.tail, hpush]

theorem ringAppended_push {r : JitterRing} {buf : Nat → UInt8} {n : Nat} (h : n ≤ r.writable)
    (hkept : AgreeOutside r.capacity r.head.toNat n r.buf buf) : RingAppended r (r.push buf n h) n :=
  ⟨h, rfl, rfl, rfl, hkept⟩

theorem RingAppended.trans {a b c : JitterRing} {n m : Nat} (h : RingAppended a b n) (h' : RingAppended b c m) :
    RingAppended a c (n + m) := by
  have hfits := h'.fits
  simp only [JitterRing.writable, h.readable, h.capacity] at hfits
  refine ⟨?_, h'.capacity.trans h.capacity, h'.tail.trans h.tail, ?_, ?_⟩
  · have := h.fits
    simp only [JitterRing.writable] at this ⊢
    omega
  · rw [h'.head, h.head, UInt32.add_assoc, ← UInt32.ofNat_add]
  · have hkept := h'.kept
    have hpos : b.head.toNat % a.capacity = (a.head.toNat + n) % a.capacity := by
      rw [h.head, a.toNat_mod]
    rw [h.capacity] at hkept
    refine (h.kept.mono le_rfl (by omega)).trans ?_
    exact (hkept.congr hpos).mono (by omega) (by omega)

/-! ### The frames of the packet -/

/-- What ring slot `ch` of frame `s` is to hold: the sample of the stream channel that the mapping
names, or silence. -/
def wireSlot (inputMap : Nat → UInt16) (frame : RxFrame) (subtype : UInt8) (layout : PcmLayout)
    (s ch : Nat) : List UInt8 :=
  let srcCh := (inputMap ch).toNat
  let sample := layout.start + (s * layout.channels + srcCh) * 4
    + if subtype.toNat = avtpSubtypeAaf then 0 else 1
  if srcCh < layout.channels then
    [frame.octet sample, frame.octet (sample + 1), frame.octet (sample + 2), 0]
  else [0, 0, 0, 0]

/-- The announced audio holds every frame that is counted. -/
structure PcmLayout.Sound (layout : PcmLayout) (frame : RxFrame) : Prop where
  inside : layout.start + layout.len = 24 + frame.streamDataLen
  room : layout.samples * layout.channels * 4 ≤ layout.len

theorem rxParse_sound {frame : RxFrame} {subtype : UInt8} {layout : PcmLayout}
    (h : (rxParse frame subtype).value = some layout) : layout.Sound frame := by
  have hdiv : ∀ n c : Nat, n / (c * 4) * c * 4 ≤ n := by
    intro n c
    rw [Nat.mul_assoc]
    exact Nat.div_mul_le_self n (c * 4)
  have hlen : Octets.value (octets frame.octet 20 2).value = frame.streamDataLen := rfl
  unfold rxParse at h
  split at h
  · rw [value_bind, hlen] at h
    dsimp only at h
    split at h
    · cases h
    · obtain rfl := Option.some.inj h
      exact ⟨rfl, hdiv _ _⟩
  · split at h
    · rw [value_bind, hlen] at h
      dsimp only at h
      split at h
      · cases h
      · obtain rfl := Option.some.inj h
        refine ⟨?_, hdiv _ _⟩
        change 32 + (frame.streamDataLen - 8) = 24 + frame.streamDataLen
        omega
    · cases h

/-- A frame that is counted has each of its channels inside the audio. -/
theorem PcmLayout.Sound.room_of_lt {layout : PcmLayout} {frame : RxFrame} (h : layout.Sound frame)
    {s srcCh : Nat} (hs : s < layout.samples) (hch : srcCh < layout.channels) :
    (s * layout.channels + srcCh) * 4 + 4 ≤ layout.len := by
  have hroom := h.room
  have hrow : (s + 1) * layout.channels ≤ layout.samples * layout.channels :=
    Nat.mul_le_mul_right _ hs
  rw [Nat.add_mul, Nat.one_mul] at hrow
  omega

theorem value_rxSlot {ctx : StreamRxCtx} {frame : RxFrame} {subtype : UInt8} {layout : PcmLayout}
    (hsound : layout.Sound frame) {s : Nat} (hs : s < layout.samples) (ch : Nat) :
    (rxSlot frame subtype layout s (ctx.inputMap ch).toNat).value
      = wireSlot ctx.inputMap frame subtype layout s ch := by
  by_cases hch : (ctx.inputMap ch).toNat < layout.channels
  · have hroom := hsound.room_of_lt hs hch
    have hin : (s * layout.channels + (ctx.inputMap ch).toNat) * 4
        + (if subtype.toNat = avtpSubtypeAaf then 0 else 1) + 2 < layout.len := by
      split <;> omega
    simp only [rxSlot, wireSlot, if_pos hch, if_pos hin]
    simp [octets, List.range_succ, Nat.add_assoc]
  · have hin : ¬ layout.len + (if subtype.toNat = avtpSubtypeAaf then 0 else 1) + 2 < layout.len := by
      omega
    simp only [rxSlot, wireSlot, if_neg hch, if_neg hin, value_pure]

@[simp]
theorem length_wireSlot (inputMap : Nat → UInt16) (frame : RxFrame) (subtype : UInt8)
    (layout : PcmLayout) (s ch : Nat) : (wireSlot inputMap frame subtype layout s ch).length = 4 := by
  unfold wireSlot
  dsimp only
  split <;> rfl

/-- One more frame of the loop: its two slots, left one first. -/
theorem value_rxFrames_succ {ctx : StreamRxCtx} {frame : RxFrame} {subtype : UInt8}
    {layout : PcmLayout} (hsound : layout.Sound frame) {s : Nat} (hs : s < layout.samples) :
    (rxFrames ctx frame subtype layout (s + 1)).value
      = store ctx.ring.capacity (rxFrames ctx frame subtype layout s).value
          (ctx.ring.head.toNat + s * 8)
          (wireSlot ctx.inputMap frame subtype layout s 0 ++ wireSlot ctx.inputMap frame subtype layout s 1) := by
  rw [store_append, length_wireSlot, ← value_rxSlot hsound hs 0, ← value_rxSlot hsound hs 1]
  rfl

theorem rxFrames_kept {ctx : StreamRxCtx} {frame : RxFrame} {subtype : UInt8} {layout : PcmLayout}
    (hsound : layout.Sound frame) {count : Nat} (hcount : count ≤ layout.samples) :
    AgreeOutside ctx.ring.capacity ctx.ring.head.toNat (count * 8) ctx.ring.buf
      (rxFrames ctx frame subtype layout count).value := by
  induction count with
  | zero => exact AgreeOutside.refl _ _ _
  | succ s ih =>
      rw [value_rxFrames_succ hsound hcount]
      have hstep : AgreeOutside ctx.ring.capacity (ctx.ring.head.toNat + s * 8) _ _ _ :=
        agreeOutside_store (rxFrames ctx frame subtype layout s).value _
          (wireSlot ctx.inputMap frame subtype layout s 0 ++ wireSlot ctx.inputMap frame subtype layout s 1)
      simp only [List.length_append, length_wireSlot] at hstep
      exact ((ih (by omega)).mono le_rfl (by omega)).trans (hstep.mono (by omega) (by omega))

/-- After `count` frames of the loop each of them holds both its slots. -/
theorem rxFrames_holds {ctx : StreamRxCtx} {frame : RxFrame} (subtype : UInt8) {layout : PcmLayout}
    (hsound : layout.Sound frame) {count : Nat} (hcount : count ≤ layout.samples)
    (hfit : count * 8 ≤ ctx.ring.capacity) {s : Nat} (hs : s < count) :
    HoldsAt ctx.ring.capacity (rxFrames ctx frame subtype layout count).value
      (ctx.ring.head.toNat + s * 8)
      (wireSlot ctx.inputMap frame subtype layout s 0 ++ wireSlot ctx.inputMap frame subtype layout s 1) := by
  induction count with
  | zero => exact absurd hs (Nat.not_lt_zero s)
  | succ last ih =>
      rw [value_rxFrames_succ hsound hcount]
      rcases Nat.lt_succ_iff_lt_or_eq.1 hs with hbefore | rfl
      · have hheld := ih (by omega) (by omega) hbefore
        refine hheld.of_agreeOutside (agreeOutside_store _ _ _) ?_
        intro i hi
        simp only [List.length_append, length_wireSlot] at hi ⊢
        exact outside_of_lt (by omega) (by omega)
      · refine holdsAt_store _ _ ?_
        simp only [List.length_append, length_wireSlot]
        omega

/-! ### The crossfade -/

@[simp]
theorem length_slotOfSample (sample : Int) : (slotOfSample sample).length = 4 := rfl

theorem streamConcealSample_congr {c c' : ConcealState} (hsrc : c'.concealSrc = c.concealSrc)
    (hperiod : c'.concealPeriod = c.concealPeriod) (cap : Nat) (buf : Nat → UInt8)
    (produced ch : Nat) :
    streamConcealSample c' cap buf produced ch = streamConcealSample c cap buf produced ch := by
  simp only [streamConcealSample, hsrc, hperiod]

/-- How many frames the crossfade takes. -/
def ConcealState.owed (c : ConcealState) : Nat := if c.concealPeriod = 0 then 0 else c.concealCrossfade

/-- The slot that frame `s` has after the crossfade, from the sample it had: mixed with a repetition
that is read in the ring while only the `count` octets from `pos` on have changed in it. -/
def CrossfadedSlot (c : ConcealState) (cap pos count : Nat) (before : Nat → UInt8) (s ch : Nat)
    (real : Int) (slot : List UInt8) : Prop :=
  ∃ buf, AgreeOutside cap pos count before buf
    ∧ slot = slotOfSample (concealMix (c.concealCrossfade - s) real
        (streamConcealSample c cap buf (c.concealProduced + s) ch))

theorem concealCrossfadeSlot_kept (c : ConcealState) (cap : Nat) (buf : Nat → UInt8) (pos ch : Nat) :
    AgreeOutside cap (pos + ch * 4) 4 buf (concealCrossfadeSlot c cap buf pos ch) := by
  unfold concealCrossfadeSlot ringSamplePut
  exact agreeOutside_store _ _ (slotOfSample _)

theorem ringSampleGet_congr {cap pos : Nat} {buf buf' : Nat → UInt8}
    (h : ∀ i < 4, buf' ((pos + i) % cap) = buf ((pos + i) % cap)) :
    ringSampleGet cap buf' pos = ringSampleGet cap buf pos := by
  simp only [ringSampleGet, h 1 (by norm_num), h 2 (by norm_num)]
  have := h 0 (by norm_num)
  rw [Nat.add_zero] at this
  rw [this]

/-- One frame of the loop changes its own eight octets only. -/
theorem crossfadeFrame_kept (c : ConcealState) (cap : Nat) (buf : Nat → UInt8) (pos : Nat) :
    AgreeOutside cap pos 8 buf
      (concealCrossfadeSlot c cap (concealCrossfadeSlot c cap buf pos 0) pos 1) :=
  ((concealCrossfadeSlot_kept c cap buf pos 0).mono (by omega) (by omega)).trans
    ((concealCrossfadeSlot_kept c cap _ pos 1).mono (by omega) (by omega))

theorem streamConcealAfterWrite_kept (cap frames pos : Nat) (c : ConcealState) (buf : Nat → UInt8) :
    AgreeOutside cap pos (frames * 8) buf (streamConcealAfterWrite cap frames pos c buf).2 := by
  induction frames generalizing pos c buf with
  | zero => exact AgreeOutside.refl _ _ _
  | succ frames ih =>
      rw [streamConcealAfterWrite]
      split
      · exact ((crossfadeFrame_kept c cap buf pos).mono le_rfl (by omega)).trans
          ((ih _ _ _).mono (Nat.le_add_right _ _) (by simp only [concealFrameBytes]; omega))
      · exact AgreeOutside.refl _ _ _

/-- Frames that the crossfade does not reach are left as they were written. -/
theorem streamConcealAfterWrite_beyond {cap frames pos : Nat} {c : ConcealState} {buf : Nat → UInt8}
    (hfit : frames * 8 ≤ cap) {s i : Nat} (hs : s < frames) (hi : i < 8) (howed : c.owed ≤ s) :
    (streamConcealAfterWrite cap frames pos c buf).2 ((pos + s * 8 + i) % cap)
      = buf ((pos + s * 8 + i) % cap) := by
  induction frames generalizing pos c buf s with
  | zero => exact absurd hs (Nat.not_lt_zero s)
  | succ frames ih =>
      rw [streamConcealAfterWrite]
      split
      case isTrue hgo =>
        have howe : c.owed = c.concealCrossfade := if_neg hgo.2
        obtain ⟨s, rfl⟩ : ∃ t, s = t + 1 := ⟨s - 1, by omega⟩
        have hpos : pos + (s + 1) * 8 + i = pos + concealFrameBytes + s * 8 + i := by
          simp only [concealFrameBytes]
          omega
        have hrest : ({ c with
            concealProduced := c.concealProduced + 1
            concealCrossfade := c.concealCrossfade - 1 } : ConcealState).owed ≤ s := by
          simp only [ConcealState.owed, if_neg hgo.2]
          omega
        rw [hpos, ih (by omega) (by omega) hrest]
        exact crossfadeFrame_kept c cap buf pos _ (outside_of_le
          (by simp only [concealFrameBytes]; omega) (by simp only [concealFrameBytes]; omega))
      case isFalse => rfl

/-- The first frame of the loop: each of its slots is crossfaded, whatever the frames behind it do. -/
theorem crossfadeFrame_slot {c : ConcealState} {cap pos : Nat} {buf : Nat → UInt8} (hcap : 8 ≤ cap)
    {ch : Nat} (hch : ch < 2) :
    ∃ buf', AgreeOutside cap pos 8 buf buf'
      ∧ HoldsAt cap (concealCrossfadeSlot c cap (concealCrossfadeSlot c cap buf pos 0) pos 1)
          (pos + ch * 4)
          (slotOfSample (concealMix c.concealCrossfade (ringSampleGet cap buf (pos + ch * 4))
            (streamConcealSample c cap buf' c.concealProduced ch))) := by
  have hput : ∀ (b : Nat → UInt8) (k : Nat), HoldsAt cap (concealCrossfadeSlot c cap b pos k)
      (pos + k * 4) (slotOfSample (concealMix c.concealCrossfade (ringSampleGet cap b (pos + k * 4))
        (streamConcealSample c cap b c.concealProduced k))) := by
    intro b k
    exact holdsAt_store _ _ (by rw [length_slotOfSample]; omega)
  have hleft := concealCrossfadeSlot_kept c cap buf pos 0
  obtain rfl | rfl : ch = 0 ∨ ch = 1 := by omega
  · refine ⟨buf, AgreeOutside.refl _ _ _, ?_⟩
    refine (hput buf 0).of_agreeOutside (concealCrossfadeSlot_kept c cap _ pos 1) ?_
    intro i hi
    rw [length_slotOfSample] at hi
    exact outside_of_lt (by omega) (by omega)
  · refine ⟨_, hleft.mono (by omega) (by omega), ?_⟩
    have hreal : ringSampleGet cap (concealCrossfadeSlot c cap buf pos 0) (pos + 1 * 4)
        = ringSampleGet cap buf (pos + 1 * 4) := by
      refine ringSampleGet_congr ?_
      intro i hi
      exact hleft _ (outside_of_le (by omega) (by omega))
    rw [← hreal]
    exact hput _ 1

theorem streamConcealAfterWrite_within {cap frames pos : Nat} {c : ConcealState}
    {buf : Nat → UInt8} (hfit : frames * 8 ≤ cap) {s ch : Nat} (hs : s < frames) (hch : ch < 2)
    (howed : s < c.owed) :
    ∃ slot, CrossfadedSlot c cap pos (frames * 8) buf s ch
        (ringSampleGet cap buf (pos + s * 8 + ch * 4)) slot
      ∧ HoldsAt cap (streamConcealAfterWrite cap frames pos c buf).2 (pos + s * 8 + ch * 4) slot := by
  induction frames generalizing pos c buf s with
  | zero => exact absurd hs (Nat.not_lt_zero s)
  | succ frames ih =>
      have hgo : 0 < c.concealCrossfade ∧ c.concealPeriod ≠ 0 := by
        simp only [ConcealState.owed] at howed
        split at howed
        · omega
        · exact ⟨by omega, ‹_›⟩
      have howe : c.owed = c.concealCrossfade := if_neg hgo.2
      rw [streamConcealAfterWrite, if_pos hgo]
      have hframe := crossfadeFrame_kept c cap buf pos
      cases s with
      | zero =>
          obtain ⟨buf', hagree, hslot⟩ :=
            @crossfadeFrame_slot c cap pos buf (by omega) ch hch
          refine ⟨_, ⟨buf', hagree.mono le_rfl (by omega), rfl⟩, ?_⟩
          rw [Nat.zero_mul, Nat.add_zero]
          refine hslot.of_agreeOutside (streamConcealAfterWrite_kept _ _ _ _ _) ?_
          intro i hi
          rw [length_slotOfSample] at hi
          exact outside_of_lt (by simp only [concealFrameBytes]; omega)
            (by simp only [concealFrameBytes]; omega)
      | succ s =>
          have hpos : pos + (s + 1) * 8 + ch * 4 = pos + concealFrameBytes + s * 8 + ch * 4 := by
            simp only [concealFrameBytes]
            omega
          have hrest : s < ({ c with
              concealProduced := c.concealProduced + 1
              concealCrossfade := c.concealCrossfade - 1 } : ConcealState).owed := by
            simp only [ConcealState.owed, if_neg hgo.2]
            omega
          obtain ⟨slot, ⟨buf', hagree, rfl⟩, hslot⟩ := @ih (pos + concealFrameBytes) _
            (concealCrossfadeSlot c cap (concealCrossfadeSlot c cap buf pos 0) pos 1) (by omega) s
            (by omega) hrest
          rw [hpos]
          refine ⟨_, ⟨buf', ?_, ?_⟩, hslot⟩
          · exact (hframe.mono le_rfl (by omega)).trans
              (hagree.mono (Nat.le_add_right _ _) (by simp only [concealFrameBytes]; omega))
          · have hreal : ringSampleGet cap
                (concealCrossfadeSlot c cap (concealCrossfadeSlot c cap buf pos 0) pos 1)
                (pos + concealFrameBytes + s * 8 + ch * 4)
                = ringSampleGet cap buf (pos + concealFrameBytes + s * 8 + ch * 4) := by
              refine ringSampleGet_congr ?_
              intro i hi
              exact hframe _ (outside_of_le (by simp only [concealFrameBytes]; omega)
                (by simp only [concealFrameBytes]; omega))
            rw [hreal]
            simp only [Nat.sub_sub, Nat.add_assoc, Nat.add_comm 1 s]
            rfl

/-- The sample in a slot. -/
def slotSample (slot : List UInt8) : Int :=
  sampleOfOctets (slot.getD 0 0) (slot.getD 1 0) (slot.getD 2 0)

theorem ringSampleGet_of_holdsAt {cap pos : Nat} {buf : Nat → UInt8} {slot : List UInt8}
    (h : HoldsAt cap buf pos slot) (hlen : slot.length = 4) :
    ringSampleGet cap buf pos = slotSample slot := by
  have hcell : ∀ i < 4, buf ((pos + i) % cap) = slot.getD i 0 := by
    intro i hi
    rw [h i (by omega), List.getD_eq_getElem _ _ (by omega)]
  have hfirst := hcell 0 (by norm_num)
  rw [Nat.add_zero] at hfirst
  rw [ringSampleGet, slotSample, hfirst, hcell 1 (by norm_num), hcell 2 (by norm_num)]

/-- What a slot holds in the end: the sample of the frame, crossfaded while a crossfade is owed. -/
def SlotWritten (c : ConcealState) (cap pos count : Nat) (before : Nat → UInt8) (s ch : Nat)
    (wire slot : List UInt8) : Prop :=
  if s < c.owed then CrossfadedSlot c cap pos count before s ch (slotSample wire) slot
  else slot = wire

theorem rxFrames_slot {ctx : StreamRxCtx} {frame : RxFrame} (subtype : UInt8) {layout : PcmLayout}
    (hsound : layout.Sound frame) (hfit : layout.total ≤ ctx.ring.capacity) {s ch : Nat}
    (hs : s < layout.samples) (hch : ch < 2) :
    HoldsAt ctx.ring.capacity (rxFrames ctx frame subtype layout layout.samples).value
      (ctx.ring.head.toNat + s * 8 + ch * 4) (wireSlot ctx.inputMap frame subtype layout s ch) := by
  obtain ⟨hleft, hright⟩ := (rxFrames_holds subtype hsound le_rfl hfit hs).append
  rw [length_wireSlot] at hright
  obtain rfl | rfl : ch = 0 ∨ ch = 1 := by omega
  · exact hleft
  · exact hright

/-- The ring write of one packet: its octets are appended, and each slot of each frame is written. -/
theorem rxStore_spec {ctx : StreamRxCtx} {frame : RxFrame} (subtype : UInt8) {layout : PcmLayout}
    (hsound : layout.Sound frame) (hfit : layout.total ≤ ctx.ring.writable) :
    RingAppended ctx.ring (rxStore ctx frame subtype layout hfit).value.ring layout.total
      ∧ ∀ s < layout.samples, ∀ ch < 2, ∃ slot,
        SlotWritten ctx.conceal ctx.ring.capacity ctx.ring.head.toNat layout.total ctx.ring.buf s ch
            (wireSlot ctx.inputMap frame subtype layout s ch) slot
          ∧ HoldsAt ctx.ring.capacity (rxStore ctx frame subtype layout hfit).value.ring.buf
            (ctx.ring.head.toNat + s * 8 + ch * 4) slot := by
  have hcap : layout.total ≤ ctx.ring.capacity := by
    simp only [JitterRing.writable] at hfit
    omega
  have hraw : AgreeOutside ctx.ring.capacity ctx.ring.head.toNat layout.total ctx.ring.buf
      (rxFrames ctx frame subtype layout layout.samples).value := rxFrames_kept hsound le_rfl
  constructor
  · exact ringAppended_push hfit (hraw.trans (streamConcealAfterWrite_kept _ _ _ _ _))
  · intro s hs ch hch
    have hwire := rxFrames_slot subtype hsound hcap hs hch
    by_cases howed : s < ctx.conceal.owed
    · obtain ⟨slot, ⟨buf, hagree, hslot⟩, hheld⟩ :=
        @streamConcealAfterWrite_within _ _ ctx.ring.head.toNat _
          (rxFrames ctx frame subtype layout layout.samples).value hcap s ch hs hch howed
      rw [ringSampleGet_of_holdsAt hwire (length_wireSlot _ _ _ _ _ _)] at hslot
      refine ⟨slot, ?_, hheld⟩
      rw [SlotWritten, if_pos howed]
      exact ⟨buf, hraw.trans hagree, hslot⟩
    · refine ⟨_, by rw [SlotWritten, if_neg howed], ?_⟩
      intro i hi
      have hi' := hi
      rw [length_wireSlot] at hi'
      have hbeyond := @streamConcealAfterWrite_beyond _ _ ctx.ring.head.toNat _
        (rxFrames ctx frame subtype layout layout.samples).value hcap s (ch * 4 + i) hs (by omega)
        (Nat.le_of_not_lt howed)
      rw [← hwire i hi, Nat.add_assoc _ (ch * 4) i]
      exact hbeyond

/-! ### The concealment insert -/

theorem concealRepeat_kept (c : ConcealState) (cap head : Nat) (buf : Nat → UInt8) (frames : Nat) :
    AgreeOutside cap head (frames * 8) buf (concealRepeat c cap head buf frames) := by
  induction frames with
  | zero => exact AgreeOutside.refl _ _ _
  | succ frame ih =>
      have hslot : ∀ (b : Nat → UInt8) (pos : Nat) (sample : Int), head + frame * 8 ≤ pos →
          pos + 4 ≤ head + (frame + 1) * 8 →
          AgreeOutside cap head ((frame + 1) * 8) b (ringSamplePut cap b pos sample) := by
        intro b pos sample hlow hhigh
        exact (agreeOutside_store b pos (slotOfSample sample)).mono (by omega)
          (by rw [length_slotOfSample]; omega)
      rw [concealRepeat]
      refine (ih.mono le_rfl (by omega)).trans ((hslot _ _ _ ?_ ?_).trans (hslot _ _ _ ?_ ?_))
      all_goals simp only [concealFrameBytes]; omega

theorem streamConcealFill_kept (p : ConcealParams) (c : ConcealState) (r : JitterRing)
    (fillBytes : Nat) :
    AgreeOutside r.capacity r.head.toNat fillBytes r.buf (streamConcealFill p c r fillBytes).2 := by
  unfold streamConcealFill
  dsimp only
  split
  · have hrepeated : min (fillBytes / concealFrameBytes) concealFadeFrames * 8 ≤ fillBytes := by
      simp only [concealFrameBytes]
      omega
    refine AgreeOutside.trans (b := ?_) ?repeated ?zeros
    case zeros =>
      refine (agreeOutside_store _ _ _).mono (Nat.le_add_right _ _) ?_
      rw [List.length_replicate]
      simp only [concealFrameBytes] at hrepeated ⊢
      omega
    case repeated =>
      exact (concealRepeat_kept _ _ _ _ _).mono le_rfl (Nat.add_le_add_left hrepeated _)
  · have hzero : AgreeOutside r.capacity r.head.toNat _ r.buf _ :=
      agreeOutside_store r.buf r.head.toNat (List.replicate fillBytes (0 : UInt8))
    rwa [List.length_replicate] at hzero

/-- The concealment state once an insert of `fillBytes`, or none, is queued. -/
def queuedConceal (p : ConcealParams) (ctx : StreamRxCtx) (fillBytes : Nat) : ConcealState :=
  if fillBytes = 0 then ctx.conceal else (streamConcealFill p ctx.conceal ctx.ring fillBytes).1

/-- The insert is queued whole, with room left for the packet, or not at all. -/
theorem rxConceal_spec (p : ConcealParams) (ctx : StreamRxCtx) (total : Nat) {fillBytes : Nat}
    (hfill : 8 ∣ fillBytes) :
    (rxConceal p ctx total fillBytes).inputMap = ctx.inputMap
      ∧ ∃ fill, 8 ∣ fill ∧ RingAppended ctx.ring (rxConceal p ctx total fillBytes).ring fill
        ∧ (fill ≠ 0 → total ≤ (rxConceal p ctx total fillBytes).ring.writable)
        ∧ (fill = 0 → (rxConceal p ctx total fillBytes).ring = ctx.ring)
        ∧ (rxConceal p ctx total fillBytes).conceal = queuedConceal p ctx fill := by
  by_cases h : 0 < fillBytes ∧ fillBytes + total ≤ ctx.ring.writable
  · have hmade : rxConceal p ctx total fillBytes = { ctx with
        conceal := (streamConcealFill p ctx.conceal ctx.ring fillBytes).1
        ring := ctx.ring.push (streamConcealFill p ctx.conceal ctx.ring fillBytes).2 fillBytes
          (by omega) } := dif_pos h
    have hpush := ringAppended_push (r := ctx.ring) (n := fillBytes) (by omega)
      (streamConcealFill_kept p ctx.conceal ctx.ring fillBytes)
    rw [hmade]
    refine ⟨rfl, fillBytes, hfill, hpush, ?_, ?_, ?_⟩
    · intro _
      dsimp only
      rw [JitterRing.writable, hpush.readable, hpush.capacity]
      have hroom := h.2
      simp only [JitterRing.writable] at hroom
      omega
    · omega
    · exact (if_neg (by omega)).symm
  · have hnone : rxConceal p ctx total fillBytes = ctx := dif_neg h
    rw [hnone]
    refine ⟨rfl, 0, dvd_zero 8, ?_, ?_, ?_, rfl⟩
    · exact ⟨Nat.zero_le _, rfl, rfl, by simp, AgreeOutside.refl _ _ _⟩
    · omega
    · exact fun _ => rfl

/-! ### What the other steps leave alone -/

/-- The part of the context that the audio path works on. -/
def StreamRxCtx.audio (ctx : StreamRxCtx) : JitterRing × ConcealState × (Nat → UInt16) :=
  (ctx.ring, ctx.conceal, ctx.inputMap)

theorem audio_rxSequence {ctx ctx' : StreamRxCtx} {seqNum : UInt8} {lost : Nat}
    (h : rxSequence ctx seqNum = some (ctx', lost)) : ctx'.audio = ctx.audio := by
  unfold rxSequence at h
  dsimp only at h
  split_ifs at h
  all_goals
    obtain ⟨rfl, -⟩ := Prod.mk.inj (Option.some.inj h)
    rfl

theorem audio_rxRateCheck {ctx ctx' : StreamRxCtx} {frame : RxFrame} {subtype : UInt8}
    (h : (rxRateCheck ctx frame subtype).value = some ctx') : ctx'.audio = ctx.audio := by
  unfold rxRateCheck at h
  split at h
  · rw [value_bind] at h
    split at h
    · cases h
    · cases h
      rfl
  · cases h
    rfl

@[simp]
theorem audio_rxDiagCapture (ctx : StreamRxCtx) (frame : RxFrame) (layout : PcmLayout) :
    (rxDiagCapture ctx frame layout).value.audio = ctx.audio := by
  unfold rxDiagCapture
  split <;> rfl

@[simp]
theorem audio_rxStandingDepth (ctx : StreamRxCtx) (lost : Nat) :
    (rxStandingDepth ctx lost).audio = ctx.audio := by
  unfold rxStandingDepth
  split
  · rfl
  · split
    · rfl
    · split <;> rfl

@[simp]
theorem audio_rxMark (ctx : StreamRxCtx) (frame : RxFrame) (pos : UInt32) :
    (rxMark ctx frame pos).value.audio = ctx.audio := by
  unfold rxMark
  rw [value_bind]
  split <;> rfl

@[simp]
theorem audio_rxAnchor (ctx : StreamRxCtx) (frame : RxFrame) (clock : RxClock) (preFill : Nat) :
    (rxAnchor ctx frame clock preFill).value.audio = ctx.audio := by
  unfold rxAnchor
  split
  · rw [value_bind]
    split <;> rfl
  · rfl

@[simp]
theorem audio_rxStash (ctx : StreamRxCtx) (frame : RxFrame) (clock : RxClock) :
    (rxStash ctx frame clock).value.audio = ctx.audio := by
  unfold rxStash
  split <;> rfl

theorem StreamRxCtx.ring_of_audio {ctx ctx' : StreamRxCtx} (h : ctx'.audio = ctx.audio) :
    ctx'.ring = ctx.ring := congrArg Prod.fst h

theorem StreamRxCtx.conceal_of_audio {ctx ctx' : StreamRxCtx} (h : ctx'.audio = ctx.audio) :
    ctx'.conceal = ctx.conceal := congrArg (fun audio => audio.2.1) h

theorem StreamRxCtx.inputMap_of_audio {ctx ctx' : StreamRxCtx} (h : ctx'.audio = ctx.audio) :
    ctx'.inputMap = ctx.inputMap := congrArg (fun audio => audio.2.2) h

theorem ring_rxWrite {ctx : StreamRxCtx} {frame : RxFrame} {clock : RxClock} {subtype : UInt8}
    {layout : PcmLayout} (h : layout.total ≤ ctx.ring.writable) :
    (rxWrite ctx frame clock subtype layout).value.ring
      = (rxStore ctx frame subtype layout h).value.ring := by
  rw [rxWrite, dif_pos h]
  apply StreamRxCtx.ring_of_audio
  simp only [value_bind, audio_rxAnchor, audio_rxMark]

/-- Inserts come in whole frames. -/
theorem dvd_rxFillBytes (ctx : StreamRxCtx) (frame : RxFrame) (clock : RxClock)
    (layout : PcmLayout) (lost : Nat) :
    8 ∣ (rxFillBytes ctx frame clock layout.total lost).value := by
  have hresidue : ∀ pauseUs, 8 ∣ rxResidueFill ctx pauseUs layout.total lost := by
    intro pauseUs
    unfold rxResidueFill
    split <;> exact Dvd.dvd.mul_left (Dvd.intro_left _ rfl) _
  have haligned : ∀ pktTs now32, 8 ∣ rxAlignedFill ctx pktTs now32 := by
    intro pktTs now32
    unfold rxAlignedFill
    dsimp only
    split
    · exact Dvd.intro_left _ rfl
    · exact dvd_zero 8
  have hcap : ∀ pauseUs fill, 8 ∣ fill → 8 ∣ rxStandingCap ctx pauseUs fill := by
    intro pauseUs fill hfill
    unfold rxStandingCap
    dsimp only
    split
    · rcases min_choice fill _ with h | h <;> rw [h]
      · exact hfill
      · exact Dvd.intro_left _ rfl
    · exact hfill
  unfold rxFillBytes
  split
  case isFalse => exact dvd_zero 8
  rw [value_bind]
  split
  case isFalse => exact dvd_zero 8
  refine hcap _ _ ?_
  unfold rxLostTime
  split
  · split
    · split
      · exact dvd_zero 8
      · exact haligned _ _
    · exact dvd_zero 8
  · split
    · exact hresidue _
    · exact dvd_zero 8

/-! ### The packet as a whole -/

/-- A concealment insert of `fill` octets, or none, and behind it the frames of one packet. -/
structure PacketWritten (p : ConcealParams) (ctx : StreamRxCtx) (frame : RxFrame) (subtype : UInt8)
    (layout : PcmLayout) (fill : Nat) (after : JitterRing) : Prop where
  aligned : 8 ∣ fill
  appended : RingAppended ctx.ring after (fill + layout.total)
  slots : ∀ s < layout.samples, ∀ ch < 2, ∃ slot,
    SlotWritten (queuedConceal p ctx fill) ctx.ring.capacity ctx.ring.head.toNat
        (fill + layout.total) ctx.ring.buf s ch (wireSlot ctx.inputMap frame subtype layout s ch) slot
      ∧ HoldsAt ctx.ring.capacity after.buf (ctx.ring.head.toNat + fill + s * 8 + ch * 4) slot

theorem SlotWritten.widen {c : ConcealState} {cap pos count pos' count' : Nat}
    {before before' : Nat → UInt8} {s ch : Nat} {wire slot : List UInt8}
    (h : SlotWritten c cap pos count before s ch wire slot)
    (hbefore : AgreeOutside cap pos' count' before' before)
    (hcells : ∀ buf, AgreeOutside cap pos count before buf → AgreeOutside cap pos' count' before buf) :
    SlotWritten c cap pos' count' before' s ch wire slot := by
  unfold SlotWritten at h ⊢
  split at h
  · rw [if_pos ‹_›]
    obtain ⟨buf, hagree, hslot⟩ := h
    exact ⟨buf, hbefore.trans (hcells buf hagree), hslot⟩
  · rwa [if_neg ‹_›]

theorem rxAudio_ring (p : ConcealParams) (ctx : StreamRxCtx) {frame : RxFrame} (clock : RxClock)
    (subtype : UInt8) {layout : PcmLayout} (hsound : layout.Sound frame) (lost : Nat) :
    (rxAudio p ctx frame clock subtype layout lost).value.ring = ctx.ring
      ∨ ∃ fill, PacketWritten p ctx frame subtype layout fill
        (rxAudio p ctx frame clock subtype layout lost).value.ring := by
  generalize hcaptured : (rxDiagCapture ctx frame layout).value = captured
  have haudio : captured.audio = ctx.audio := hcaptured ▸ audio_rxDiagCapture ctx frame layout
  generalize hfillBytes : (rxFillBytes captured frame clock layout.total lost).value = fillBytes
  have hdvd : 8 ∣ fillBytes := hfillBytes ▸ dvd_rxFillBytes captured frame clock layout lost
  generalize hqueued : rxConceal p captured layout.total fillBytes = queued
  have hdepth := audio_rxStandingDepth queued lost
  have hout : (rxAudio p ctx frame clock subtype layout lost).value.ring
      = (rxWrite (rxStandingDepth queued lost) frame clock subtype layout).value.ring := by
    rw [← hqueued, ← hfillBytes, ← hcaptured]
    apply StreamRxCtx.ring_of_audio
    simp only [rxAudio, value_bind, audio_rxStash]
  rw [hout]
  generalize rxStandingDepth queued lost = ready at hdepth
  obtain ⟨hmap, fill, hfill, hinsert, hroom, hnone, hconceal⟩ :=
    rxConceal_spec p captured layout.total hdvd
  rw [hqueued] at hmap hinsert hroom hnone hconceal
  have hring := StreamRxCtx.ring_of_audio haudio
  by_cases hfit : layout.total ≤ ready.ring.writable
  · right
    obtain ⟨hstored, hslots⟩ := rxStore_spec subtype hsound hfit
    rw [ring_rxWrite hfit]
    generalize (rxStore ready frame subtype layout hfit).value.ring = after at hstored hslots
    rw [StreamRxCtx.ring_of_audio hdepth] at hstored hslots
    rw [StreamRxCtx.conceal_of_audio hdepth, StreamRxCtx.inputMap_of_audio hdepth, hconceal, hmap,
      StreamRxCtx.inputMap_of_audio haudio] at hslots
    have hqueuedConceal : queuedConceal p captured fill = queuedConceal p ctx fill := by
      rw [queuedConceal, queuedConceal, hring, StreamRxCtx.conceal_of_audio haudio]
    rw [hqueuedConceal] at hslots
    rw [hring] at hinsert
    have hcell : queued.ring.head.toNat % ctx.ring.capacity
        = (ctx.ring.head.toNat + fill) % ctx.ring.capacity := by
      rw [hinsert.head, ctx.ring.toNat_mod]
    rw [hinsert.capacity] at hslots
    refine ⟨fill, hfill, hinsert.trans hstored, ?_⟩
    intro s hs ch hch
    obtain ⟨slot, hwritten, hheld⟩ := hslots s hs ch hch
    refine ⟨slot, hwritten.widen (hinsert.kept.mono le_rfl (by omega)) ?_, hheld.congr ?_⟩
    · intro buf hagree
      exact (hagree.congr hcell).mono (Nat.le_add_right _ _) (by omega)
    · rw [Nat.add_assoc queued.ring.head.toNat, Nat.add_mod, hcell, ← Nat.add_mod,
        ← Nat.add_assoc]
  · left
    have hunfit : ¬ layout.total ≤ queued.ring.writable := by
      rwa [← StreamRxCtx.ring_of_audio hdepth]
    have hzero : fill = 0 := by
      by_contra hne
      exact hunfit (hroom hne)
    rw [rxWrite, dif_neg hfit, value_pure, StreamRxCtx.ring_of_audio hdepth, hnone hzero, hring]

/-! ### Reads -/

/-- The header came whole, and so did the data that it announces. -/
structure RxFrame.Received (frame : RxFrame) : Prop where
  header : 24 ≤ frame.len
  announced : 24 + frame.streamDataLen ≤ frame.len

section Reads

variable {ctx : StreamRxCtx} {frame : RxFrame} {subtype : UInt8}

theorem within_rxRateCheck (h : frame.Received) :
    Within frame.len (rxRateCheck ctx frame subtype) := by
  have hlen := h.header
  refine within_ite (fun _ => Within.bind ?_ (within_ite ?_ ?_)) (fun _ => within_pure _)
  · refine within_ite (fun _ => ?_) (fun _ => within_ite (fun hin => ?_) (fun _ => within_pure _))
    · exact (within_octet (by omega)).bind (within_pure _)
    · exact (within_octet hin).bind (within_pure _)
  · exact fun _ => within_pure _
  · exact fun _ => within_pure _

theorem within_rxParse (h : frame.Received) : Within frame.len (rxParse frame subtype) := by
  have hlen := h.header
  have hdata := h.announced
  refine within_ite (fun _ => ?_) (fun _ => within_ite (fun _ => ?_) (fun _ => within_pure _))
  · refine (within_octets (by omega)).bind (within_ite (fun _ => within_pure _) (fun _ => ?_))
    exact (within_octet (by omega)).bind (within_pure _)
  · refine (within_octets (by omega)).bind (within_ite (fun _ => within_pure _) (fun hlong => ?_))
    -- more than the eight octets of the CIP header are announced, and they came
    have hcip : ¬ frame.streamDataLen ≤ 8 := hlong
    exact (within_octet (by omega)).bind (within_pure _)

theorem within_rxDiagCapture {layout : PcmLayout} (h : frame.Received)
    (hsound : layout.Sound frame) : Within frame.len (rxDiagCapture ctx frame layout) := by
  have hdata := h.announced
  have hin := hsound.inside
  refine within_ite (fun _ => within_pure _) (fun _ => (within_octets ?_).bind (within_pure _))
  omega

theorem within_rxFillBytes (h : frame.Received) (clock : RxClock) (total lost : Nat) :
    Within frame.len (rxFillBytes ctx frame clock total lost) := by
  have hlen := h.header
  refine within_ite (fun _ => ?_) (fun _ => within_pure _)
  refine (within_octet (by omega)).bind (within_ite (fun _ => ?_) (fun _ => within_pure _))
  refine Within.bind (within_ite (fun _ => ?_) (fun _ => ?_)) (within_pure _)
  · refine within_ite (fun _ => ?_) (fun _ => within_pure _)
    split
    · exact within_pure _
    · exact (within_octets (by omega)).bind (within_pure _)
  · exact within_ite (fun _ => within_pure _) (fun _ => within_pure _)

/-- The payload loop bounds itself by the announced length. -/
theorem within_rxSlot {layout : PcmLayout} (h : frame.Received) (hsound : layout.Sound frame)
    (s srcCh : Nat) : Within frame.len (rxSlot frame subtype layout s srcCh) := by
  have hdata := h.announced
  have hin := hsound.inside
  refine within_ite (fun hbound => (within_octets ?_).bind (within_pure _)) (fun _ => within_pure _)
  omega

theorem within_rxFrames {layout : PcmLayout} (h : frame.Received) (hsound : layout.Sound frame)
    (count : Nat) : Within frame.len (rxFrames ctx frame subtype layout count) := by
  induction count with
  | zero => exact within_pure _
  | succ s ih =>
      refine ih.bind ?_
      exact (within_rxSlot h hsound _ _).bind ((within_rxSlot h hsound _ _).bind (within_pure _))

theorem within_rxMark (h : frame.Received) (pos : UInt32) :
    Within frame.len (rxMark ctx frame pos) := by
  have hlen := h.header
  refine (within_octet (by omega)).bind (within_ite (fun _ => ?_) (fun _ => within_pure _))
  exact (within_octets (by omega)).bind (within_pure _)

theorem within_rxAnchor (h : frame.Received) (clock : RxClock) (preFill : Nat) :
    Within frame.len (rxAnchor ctx frame clock preFill) := by
  have hlen := h.header
  refine within_ite (fun _ => ?_) (fun _ => within_pure _)
  refine (within_octet (by omega)).bind (within_ite (fun _ => within_pure _) (fun _ => ?_))
  exact (within_octets (by omega)).bind (within_pure _)

theorem within_rxStash (h : frame.Received) (clock : RxClock) :
    Within frame.len (rxStash ctx frame clock) := by
  have hlen := h.header
  exact within_ite (fun _ => (within_octets (by omega)).bind (within_pure _))
    (fun _ => within_pure _)

theorem within_rxWrite {layout : PcmLayout} (h : frame.Received) (hsound : layout.Sound frame)
    (clock : RxClock) : Within frame.len (rxWrite ctx frame clock subtype layout) := by
  unfold rxWrite
  split
  · refine Within.bind ((within_rxFrames h hsound _).bind (within_pure _)) ?_
    exact (within_rxMark h _).bind (within_rxAnchor h clock _)
  · exact within_pure _

theorem within_rxAudio {layout : PcmLayout} (p : ConcealParams) (h : frame.Received)
    (hsound : layout.Sound frame) (clock : RxClock) (lost : Nat) :
    Within frame.len (rxAudio p ctx frame clock subtype layout lost) := by
  refine (within_rxDiagCapture h hsound).bind ((within_rxFillBytes h clock _ _).bind ?_)
  exact (within_rxWrite h hsound clock).bind (within_rxStash h clock)

theorem within_avbStreamRxHandler (p : ConcealParams) (h : frame.Received) (clock : RxClock) :
    Within frame.len (avbStreamRxHandler p ctx frame clock) := by
  have hlen := h.header
  refine within_ite (fun _ => within_pure _) (fun _ => (within_octets (by omega)).bind ?_)
  refine within_ite (fun _ => within_pure _) (fun _ => (within_octet (by omega)).bind ?_)
  split
  · exact within_pure _
  · refine (within_octet (by omega)).bind ((within_octet (by omega)).bind ?_)
    refine (within_rxRateCheck h).bind ?_
    split
    · exact within_pure _
    · refine (within_rxParse h).bind ?_
      split
      · exact within_pure _
      · exact within_ite (fun _ => within_pure _)
          (fun _ => within_rxAudio p h (rxParse_sound ‹_›) clock _)

end Reads

/-! ### The handler -/

/-- The subtype of a frame. -/
def RxFrame.subtype (frame : RxFrame) : UInt8 := frame.octet 0 &&& 0x7f

/-- A frame whose announced data was received is read inside what was received, and the ring is
either left alone or gets the packet whole behind a concealment insert. -/
theorem stream_rx_appends_packet (p : ConcealParams) (ctx : StreamRxCtx) (frame : RxFrame)
    (clock : RxClock) (hreceived : frame.Received) :
    Within frame.len (avbStreamRxHandler p ctx frame clock)
      ∧ ((avbStreamRxHandler p ctx frame clock).value.ring = ctx.ring
        ∨ ∃ layout fill, (rxParse frame frame.subtype).value = some layout ∧ 0 < layout.samples
          ∧ PacketWritten p ctx frame frame.subtype layout fill
            (avbStreamRxHandler p ctx frame clock).value.ring) := by
  refine ⟨within_avbStreamRxHandler p hreceived clock, ?_⟩
  rw [avbStreamRxHandler, if_neg (Nat.not_lt.2 hreceived.header), value_bind]
  split
  case isTrue => exact .inl rfl
  rw [value_bind]
  split
  case h_1 => exact .inl rfl
  case h_2 sequenced lost hsequence =>
    have hsequenced := audio_rxSequence hsequence
    simp only [value_bind]
    split
    case h_1 => exact .inl (StreamRxCtx.ring_of_audio hsequenced)
    case h_2 checked hcheck =>
      have hchecked := (audio_rxRateCheck hcheck).trans hsequenced
      have hring := StreamRxCtx.ring_of_audio hchecked
      rw [value_bind]
      split
      case h_1 => exact .inl hring
      case h_2 layout hparse =>
        split
        case isTrue => exact .inl hring
        case isFalse hsamples =>
          rcases rxAudio_ring p checked clock frame.subtype (rxParse_sound hparse) lost with
            hsame | ⟨fill, hwritten⟩
          · exact .inl (hsame.trans hring)
          · refine .inr ⟨layout, fill, hparse, Nat.pos_of_ne_zero hsamples, hwritten.aligned, ?_, ?_⟩
            · rw [← hring]
              exact hwritten.appended
            · have hslots := hwritten.slots
              rw [hring, StreamRxCtx.inputMap_of_audio hchecked] at hslots
              have hconceal : queuedConceal p checked fill = queuedConceal p ctx fill := by
                rw [queuedConceal, queuedConceal, hring, StreamRxCtx.conceal_of_audio hchecked]
              rw [hconceal] at hslots
              exact hslots

/-- The same with every frame of the packet stored as it came, and for every length. -/
def StoresAsReceived (p : ConcealParams) (ctx : StreamRxCtx) (frame : RxFrame) (clock : RxClock) :
    Prop :=
  let after := (avbStreamRxHandler p ctx frame clock).value.ring
  Within frame.len (avbStreamRxHandler p ctx frame clock)
    ∧ (after = ctx.ring
      ∨ ∃ layout fill, (rxParse frame frame.subtype).value = some layout ∧ 8 ∣ fill
        ∧ RingAppended ctx.ring after (fill + layout.total)
        ∧ ∀ s < layout.samples, ∀ ch < 2, HoldsAt ctx.ring.capacity after.buf
          (ctx.ring.head.toNat + fill + s * 8 + ch * 4)
          (wireSlot ctx.inputMap frame frame.subtype layout s ch))

/-- A ring of two frames that a repetition was put into and drained from, with one frame of its
crossfade owed. -/
def crossfadingCtx : StreamRxCtx :=
  { expectedStreamId := List.replicate 8 0
    rateCheckPending := false
    expectedSubtype := 2
    expectedRateCode := 5
    inputMap := UInt16.ofNat
    seqNumValid := true
    lastSeqNum := 255
    diagCaptured := true
    diagFirstAudio := []
    ring :=
      { capacity := 16
        buf := fun _ => 0
        head := 8
        tail := 8
        power := ⟨4, by decide, rfl⟩
        fill_le := by decide }
    conceal :=
      { concealProduced := 100
        concealPeriod := 48
        concealCrossfade := 24 }
    standingDepthQ4 := 0
    standingDepthSamples := 0
    standingDepthHold := 0
    ringBytesPerSec := 384000
    extraLatencyNs := 0
    outputDelayNs := 0
    learnedLatencyNs := 0
    drainLocked := true
    diagGateMode := 2
    gateArmed := true
    gateAvtpTs := 0
    gateArmUs := 0
    ptUnarmedArrivals := 0
    ptMarkers := fun _ => ⟨0, 0⟩
    ptMarkerCount := 0
    lastPacketUs := 0
    pktCount := 0 }

/-- One stereo AAF frame, of which `len` octets came. -/
def stereoFrame (len : Nat) : RxFrame :=
  { octet := fun i =>
      [0x02, 0x80, 0x00, 0x00, 0, 0, 0, 0, 0, 0, 0, 0, 0, 0, 0, 0, 0x02, 0x50, 0x02, 0x18, 0x00, 0x08,
        0x00, 0x00, 0x40, 0x00, 0x00, 0x00, 0x40, 0x00, 0x00, 0x00].getD i 0
    len }

def quietClock : RxClock := ⟨0, none, 0, 0⟩

def noRepeat : ConcealParams := ⟨false, fun _ _ _ => 48⟩

/-- A frame that lies within its length is stored crossfaded, and one cut off behind its header has
its announced samples read all the same. -/
theorem stores_crossfaded_and_reads_beyond :
    ¬ StoresAsReceived noRepeat crossfadingCtx (stereoFrame 32) quietClock
      ∧ ¬ StoresAsReceived noRepeat crossfadingCtx (stereoFrame 24) quietClock := by
  constructor
  · rintro ⟨-, hsame | ⟨layout, fill, hparse, -, happended, hslots⟩⟩
    · have hhead : (avbStreamRxHandler noRepeat crossfadingCtx (stereoFrame 32)
          quietClock).value.ring.head = 16 := by decide +kernel
      rw [hsame] at hhead
      exact absurd hhead (by decide)
    · have hlayout : (rxParse (stereoFrame 32) (stereoFrame 32).subtype).value
          = some ⟨2, 1, 24, 8⟩ := rfl
      obtain rfl := Option.some.inj (hlayout.symm.trans hparse)
      have hhead := happended.readable
      have hreadable : (avbStreamRxHandler noRepeat crossfadingCtx (stereoFrame 32)
          quietClock).value.ring.readable = 8 := by decide +kernel
      have hempty : crossfadingCtx.ring.readable = 0 := by decide
      have hfill : fill = 0 := by
        rw [hreadable, hempty] at hhead
        simp only [PcmLayout.total] at hhead
        omega
      subst hfill
      have hcell := hslots 0 (by decide) 0 (by decide) 0 (by decide)
      have hstored : (avbStreamRxHandler noRepeat crossfadingCtx (stereoFrame 32)
          quietClock).value.ring.buf 8 ≠ 0x40 := by decide +kernel
      exact hstored hcell
  · rintro ⟨hwithin, -⟩
    have hread : 26 ∈ (avbStreamRxHandler noRepeat crossfadingCtx (stereoFrame 24)
        quietClock).reads := by decide +kernel
    exact absurd (hwithin 26 hread) (by decide)

theorem stream_rx_appends_stereo :
    (stereoFrame 32).Received
      ∧ Within 32 (avbStreamRxHandler noRepeat crossfadingCtx (stereoFrame 32) quietClock) := by
  have hreceived : (stereoFrame 32).Received := ⟨by decide, by decide⟩
  exact ⟨hreceived,
    (stream_rx_appends_packet noRepeat crossfadingCtx (stereoFrame 32) quietClock hreceived).1⟩

end EspAvb
