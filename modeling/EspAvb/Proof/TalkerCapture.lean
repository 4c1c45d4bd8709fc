import EspAvb.TalkerCapture

/-!
# What the talker takes of the capture

Whatever the interleaving of the RX interrupt with the talker's loop, a packet gets the octets that were
captured at one position, or silence. Nothing is taken twice or overwritten while it is taken.
-/

namespace EspAvb

open RingTape Machine

/-! ### The ring's sizes -/

namespace CaptureConfig

/-- Class A or Class B, at a rate of a codec. -/
structure Playable (cfg : CaptureConfig) : Prop where
  interval : cfg.params.interval = 125 ∨ cfg.params.interval = 250
  sampleRate : 8000 ≤ cfg.params.sampleRate

variable {cfg : CaptureConfig}

theorem Playable.readSize_le (h : cfg.Playable) :
    cfg.readSize ≤ 8 * (cfg.params.sampleRate / 4000 + 1) := by
  have hspp : cfg.sppMax ≤ cfg.params.sampleRate / 4000 + 1 := by
    rw [sppMax, StreamOutParams.sppBase, StreamOutParams.sppDen]
    rcases h.interval with hinterval | hinterval <;> rw [hinterval] <;> split <;> omega
  rw [readSize, i2sFrameBytes]
  omega

theorem Playable.ringSize_pos (h : cfg.Playable) : 0 < cfg.ringSize := by
  have hrate := h.sampleRate
  unfold ringSize i2sFrameBytes
  split <;> dsimp only <;> omega

/-- The setpoint leaves the interrupt more room than it is given before audio is given up. -/
theorem Playable.margin (h : cfg.Playable) (hring : cfg.captureRing = true) :
    cfg.ringSetpoint + 7 + 2 * cfg.readSize ≤ cfg.ringSize := by
  have hrate := h.sampleRate
  have hread := h.readSize_le
  rw [ringSetpoint, ringSize, if_pos hring, i2sFrameBytes]
  dsimp only
  omega

end CaptureConfig

/-! ### The invariant -/

def CaptureBlock.audio? : CaptureBlock → Option (Nat × List UInt8)
  | .audio pos octets => some (pos, octets)
  | .silence _ => none

namespace TalkerCapture

variable {cfg : CaptureConfig} {s : TalkerCapture}

/-- The audio the packets were given, each with its position in the capture. -/
def taken (s : TalkerCapture) : List (Nat × List UInt8) := s.blocks.filterMap CaptureBlock.audio?

def takenOctets (s : TalkerCapture) : List UInt8 := (s.taken.map Prod.snd).flatten

/-- A copy under way has the first of its octets, and the interrupt has not come round to the rest. -/
structure Copying (cfg : CaptureConfig) (s : TalkerCapture) (len : Nat) (done : List UInt8) : Prop where
  len_le : len ≤ s.ringAvail
  dvd_len : 8 ∣ len
  done_le : done.length ≤ len
  done_eq : done = slice s.tape s.i2sRingTail done.length
  behind : s.tape.length ≤ s.i2sRingTail + cfg.ringSize
  room : cfg.captureRing = true → s.ringAvail + 2 * cfg.readSize ≤ cfg.ringSize

structure Sound (cfg : CaptureConfig) (s : TalkerCapture) : Prop where
  holds : Holds cfg.ringSize s.ring s.tape (max s.i2sRingTail (s.tape.length - cfg.ringSize))
  inside : ∀ cell, cfg.ringSize ≤ cell → s.ring cell = 0
  tail_le : s.i2sRingTail ≤ s.i2sRingHead
  head_le : s.i2sRingHead ≤ s.tape.length
  dvd_tail : 8 ∣ s.i2sRingTail
  filled : cfg.captureRing = true →
    s.captureHead = s.tape.length ∧ s.captureWritePos = s.captureHead % cfg.ringSize
  polled : cfg.captureRing = false →
    s.i2sRingHead = s.tape.length ∧ s.ringAvail ≤ cfg.ringSize ∧ 8 ∣ s.i2sRingHead
  idle : s.running = false →
    s.copy = none ∧ s.blocks = [] ∧ s.captureDropped = 0 ∧ s.i2sRingTail = 0
  copying : ∀ len done, s.copy = some (len, done) → Copying cfg s len done
  captured : ∀ block ∈ s.taken, 8 ∣ block.1 ∧ block.2 = slice s.tape block.1 block.2.length ∧
    block.1 + block.2.length ≤ s.i2sRingTail
  ordered : s.taken.Pairwise fun a b => a.1 + a.2.length ≤ b.1
  accounted : s.begun + s.takenOctets.length + s.captureDropped = s.i2sRingTail
  whole : s.captureDropped = 0 →
    s.takenOctets = slice s.tape s.begun (s.i2sRingTail - s.begun)

theorem sound_init : Sound cfg init where
  holds := fun pos h => absurd h (Nat.not_lt_zero pos)
  inside := fun _ _ => rfl
  tail_le := le_rfl
  head_le := le_rfl
  dvd_tail := Nat.dvd_zero 8
  filled := fun _ => ⟨rfl, (Nat.zero_mod cfg.ringSize).symm⟩
  polled := fun _ => ⟨rfl, Nat.zero_le _, Nat.dvd_zero 8⟩
  idle := fun _ => ⟨rfl, rfl, rfl, rfl⟩
  copying := fun _ _ h => by cases h
  captured := fun _ h => by cases h
  ordered := .nil
  accounted := rfl
  whole := fun _ => rfl

/-- What is captured later leaves the audio that was taken as it is. -/
theorem Sound.captured_append (h : Sound cfg s) (later : List UInt8) :
    ∀ block ∈ s.taken, 8 ∣ block.1 ∧ block.2 = slice (s.tape ++ later) block.1 block.2.length ∧
      block.1 + block.2.length ≤ s.i2sRingTail := by
  intro block hblock
  obtain ⟨hdvd, heq, hle⟩ := h.captured block hblock
  have hin : block.1 + block.2.length ≤ s.tape.length := (hle.trans h.tail_le).trans h.head_le
  exact ⟨hdvd, by rw [slice_append hin]; exact heq, hle⟩

theorem Sound.whole_append (h : Sound cfg s) (later : List UInt8) (hkept : s.captureDropped = 0) :
    s.takenOctets = slice (s.tape ++ later) s.begun (s.i2sRingTail - s.begun) := by
  have haccounted := h.accounted
  have hin : s.begun + (s.i2sRingTail - s.begun) ≤ s.tape.length := by
    have := h.tail_le
    have := h.head_le
    omega
  rw [slice_append hin]
  exact h.whole hkept

/-! ### The interrupt and the driver's queue -/

/-- The interrupt's buffer goes behind the tape, round the end of the ring. -/
theorem Sound.recv_ring (h : Sound cfg s) (hcfg : cfg.Playable) (hring : cfg.captureRing = true)
    {dmaBuf : List UInt8} (hfit : dmaBuf.length ≤ cfg.ringSize) :
    (i2sRxOnRecv cfg s dmaBuf).ring
      = RingCells.store cfg.ringSize s.ring s.tape.length dmaBuf := by
  obtain ⟨hhead, hpos⟩ := h.filled hring
  have hlt : s.captureWritePos < cfg.ringSize := by
    rw [hpos]
    exact Nat.mod_lt _ hcfg.ringSize_pos
  have hcell : s.captureWritePos % cfg.ringSize = s.tape.length % cfg.ringSize := by
    rw [hpos, Nat.mod_mod, hhead]
  rw [i2sRxOnRecv, if_pos hring]
  exact (blit_wrap s.ring hlt hfit).trans (store_congr s.ring dmaBuf hcell)

theorem Sound.recv (h : Sound cfg s) (hcfg : cfg.Playable) {dmaBuf : List UInt8}
    (hfit : dmaBuf.length ≤ cfg.ringSize)
    (htimely : s.copy.isSome → s.captureHead + dmaBuf.length ≤ s.i2sRingHead + 2 * cfg.readSize) :
    Sound cfg (i2sRxOnRecv cfg s dmaBuf) := by
  rcases Bool.eq_false_or_eq_true cfg.captureRing with hring | hpolled
  · have hcells := h.recv_ring hcfg hring hfit
    obtain ⟨hhead, hpos⟩ := h.filled hring
    have hsize := hcfg.ringSize_pos
    have hlt : s.captureWritePos < cfg.ringSize := by
      rw [hpos]
      exact Nat.mod_lt _ hsize
    have htail := h.tail_le
    have hle := h.head_le
    rw [i2sRxOnRecv, if_pos hring] at hcells ⊢
    dsimp only at hcells ⊢
    refine
      { holds := ?_, inside := ?_, tail_le := htail, head_le := ?_, dvd_tail := h.dvd_tail,
        filled := fun _ => ⟨?_, ?_⟩, polled := fun hno => absurd (hring.symm.trans hno) (by simp),
        idle := h.idle, copying := ?_, captured := h.captured_append dmaBuf, ordered := h.ordered,
        accounted := h.accounted, whole := h.whole_append dmaBuf }
    · dsimp only
      rw [hcells]
      have hstored := (h.holds.mono (show _ ≤ max s.i2sRingTail
        ((s.tape ++ dmaBuf).length - cfg.ringSize) by rw [List.length_append]; omega)).store hfit
          (by rw [List.length_append]; omega) dmaBuf.length
      rwa [List.take_length] at hstored
    · intro cell hcell
      dsimp only
      rw [hcells, store_beyond _ _ hsize hcell]
      exact h.inside cell hcell
    · dsimp only
      rw [List.length_append]
      omega
    · dsimp only
      rw [List.length_append, hhead]
    · dsimp only
      rw [wrap_mod hlt hfit, hpos, Nat.mod_add_mod]
    · intro len done hcopy
      have hcopying := h.copying len done hcopy
      have hnear := htimely (by rw [hcopy]; rfl)
      have hroom := hcopying.room hring
      have hin : s.i2sRingTail + done.length ≤ s.tape.length := by
        have := hcopying.len_le
        have := hcopying.done_le
        rw [ringAvail] at *
        omega
      exact
        { len_le := hcopying.len_le, dvd_len := hcopying.dvd_len, done_le := hcopying.done_le,
          done_eq := by
            dsimp only
            rw [slice_append hin]
            exact hcopying.done_eq
          behind := by
            dsimp only
            rw [List.length_append]
            rw [ringAvail] at hroom
            omega
          room := hcopying.room }
  · rw [i2sRxOnRecv, if_neg (by simp [hpolled])]
    exact h

theorem length_read_le (dma : List UInt8) :
    (dma.take (s.chunk cfg)).length ≤ cfg.ringSize - s.i2sRingHead % cfg.ringSize ∧
      (dma.take (s.chunk cfg)).length ≤ cfg.ringSize - s.ringAvail := by
  have hchunk : s.chunk cfg ≤
      min (cfg.ringSize - s.i2sRingHead % cfg.ringSize) (cfg.ringSize - s.ringAvail) :=
    Nat.sub_le _ _
  rw [List.length_take]
  omega

/-- What a read of the driver's queue puts into the ring, and how much of it counts. -/
theorem refill_eq (hcfg : cfg.Playable) (dma : List UInt8) :
    refill cfg s dma = s ∨ ∃ read bytesRead, 8 ∣ bytesRead ∧ bytesRead ≤ read.length ∧
      s.ringAvail + read.length ≤ cfg.ringSize ∧
      refill cfg s dma =
        { s with
          ring := RingCells.store cfg.ringSize s.ring s.i2sRingHead read
          i2sRingHead := s.i2sRingHead + bytesRead
          tape := s.tape ++ read.take bytesRead } := by
  unfold refill
  split
  · rename_i hroom
    obtain ⟨hend, hfree⟩ := @length_read_le cfg s dma
    have hlt := Nat.mod_lt s.i2sRingHead hcfg.ringSize_pos
    have hcells : blit s.ring (s.i2sRingHead % cfg.ringSize) (dma.take (s.chunk cfg)) =
        RingCells.store cfg.ringSize s.ring s.i2sRingHead (dma.take (s.chunk cfg)) :=
      (blit_eq_store s.ring hlt (by omega)).trans
        (store_congr s.ring _ (Nat.mod_mod s.i2sRingHead cfg.ringSize))
    have hwhole : ∀ n : Nat, 8 ∣ n - n % i2sFrameBytes := fun n => by
      rw [i2sFrameBytes]
      omega
    refine .inr ⟨dma.take (s.chunk cfg), _, hwhole _, Nat.sub_le _ _, by omega, ?_⟩
    dsimp only
    rw [hcells]
  · exact .inl rfl

theorem Sound.refill (h : Sound cfg s) (hcfg : cfg.Playable) (hpolled : cfg.captureRing = false)
    (hcopy : s.copy = none) (dma : List UInt8) : Sound cfg (refill cfg s dma) := by
  rcases @refill_eq cfg s hcfg dma with heq | ⟨read, bytesRead, hdvd, hread, hroom, heq⟩
  · rw [heq]
    exact h
  · obtain ⟨hhead, havail, haligned⟩ := h.polled hpolled
    have htail := h.tail_le
    have hlen : (s.tape ++ read.take bytesRead).length = s.tape.length + bytesRead := by
      rw [List.length_append, List.length_take, min_eq_left hread]
    rw [ringAvail] at hroom havail
    rw [heq]
    refine
      { holds := ?_, inside := ?_, tail_le := ?_, head_le := ?_, dvd_tail := h.dvd_tail,
        filled := fun hno => absurd (hpolled.symm.trans hno) (by simp),
        polled := fun _ => ⟨?_, ?_, haligned.add hdvd⟩, idle := h.idle, copying := ?_,
        captured := h.captured_append _, ordered := h.ordered, accounted := h.accounted,
        whole := h.whole_append _ }
    · dsimp only
      rw [hhead]
      refine (h.holds.mono ?_).store (by omega) ?_ bytesRead
      · rw [hlen]
        omega
      · rw [hlen]
        omega
    · intro cell hcell
      dsimp only
      rw [store_beyond _ _ hcfg.ringSize_pos hcell]
      exact h.inside cell hcell
    · dsimp only
      omega
    · dsimp only
      rw [hlen, hhead]
    · dsimp only
      rw [hlen, hhead]
    · rw [ringAvail]
      dsimp only
      omega
    · intro len done hsome
      dsimp only at hsome
      rw [hcopy] at hsome
      cases hsome

/-! ### The task -/

/-- The task looks at the interrupt's head and moves its own tail on, over audio it gives up. -/
theorem Sound.moveTail (h : Sound cfg s) (hring : cfg.captureRing = true) {tail begun dropped : Nat}
    (hcopy : s.copy = none) (hdvd : 8 ∣ tail) (hle : s.i2sRingTail ≤ tail)
    (hhead : tail ≤ s.captureHead)
    (haccounted : begun + s.takenOctets.length + dropped = tail)
    (hwhole : dropped = 0 → s.takenOctets = slice s.tape begun (tail - begun)) :
    Sound cfg
      { s with
        i2sRingHead := s.captureHead, i2sRingTail := tail, captureDropped := dropped, running := true,
        begun := begun } := by
  obtain ⟨htape, hpos⟩ := h.filled hring
  exact
    { holds := h.holds.mono (by dsimp only; omega)
      inside := h.inside
      tail_le := hhead
      head_le := htape.le
      dvd_tail := hdvd
      filled := fun _ => ⟨htape, hpos⟩
      polled := fun hno => absurd (hring.symm.trans hno) (by simp)
      idle := fun hno => by cases hno
      copying := fun len done hsome => by
        dsimp only at hsome
        rw [hcopy] at hsome
        cases hsome
      captured := fun block hblock => by
        obtain ⟨hstart, heq, hend⟩ := h.captured block hblock
        exact ⟨hstart, heq, hend.trans hle⟩
      ordered := h.ordered
      accounted := haccounted
      whole := hwhole }

theorem Sound.begin (h : Sound cfg s) (hidle : s.running = false) : Sound cfg (start cfg s) := by
  obtain ⟨hcopy, hblocks, hdropped, htail⟩ := h.idle hidle
  have hnone : s.takenOctets = [] := by
    rw [takenOctets, taken, hblocks]
    rfl
  unfold start
  split
  · rename_i hring
    apply h.moveTail hring hcopy
    · rw [htail, i2sFrameBytes]
      split
      · dsimp only
        omega
      · exact Nat.dvd_zero 8
    · rw [htail]
      exact Nat.zero_le _
    · rw [htail]
      split
      · dsimp only
        omega
      · exact Nat.zero_le _
    · rw [hnone, hdropped]
      rfl
    · intro _
      rw [hnone, Nat.sub_self]
      rfl
  · have hbegun : takenOctets { s with running := true, begun := s.i2sRingTail } = [] := hnone
    exact
      { h with
        idle := fun hno => by cases hno
        copying := fun len done hsome => by
          dsimp only at hsome
          rw [hcopy] at hsome
          cases hsome
        accounted := by
          rw [hbegun]
          exact hdropped ▸ rfl
        whole := fun _ => by
          rw [hbegun]
          dsimp only
          rw [Nat.sub_self, slice_zero] }

/-- A state the task takes a packet from: the head it read is the latest. -/
structure Looked (cfg : CaptureConfig) (s : TalkerCapture) : Prop where
  sound : Sound cfg s
  running : s.running = true
  copy : s.copy = none
  latest : s.tape.length = s.i2sRingHead
  avail_le : s.ringAvail ≤ cfg.ringSize
  room : cfg.captureRing = true → s.ringAvail + 2 * cfg.readSize ≤ cfg.ringSize

theorem Sound.look (h : Sound cfg s) (hcfg : cfg.Playable) (hring : cfg.captureRing = true)
    (hrunning : s.running = true) (hcopy : s.copy = none) : Looked cfg (skip cfg s) := by
  obtain ⟨htape, hpos⟩ := h.filled hring
  have hmargin := hcfg.margin hring
  have htail := h.tail_le
  have hhead := h.head_le
  have haccounted := h.accounted
  unfold skip
  dsimp only
  split
  · rename_i hfull
    simp only [ringAvail] at hfull
    rw [i2sFrameBytes]
    set resume := s.captureHead - cfg.ringSetpoint - (s.captureHead - cfg.ringSetpoint) % 8
      with hresume
    have hmoved : s.i2sRingTail ≤ resume := by omega
    have hsound := @Sound.moveTail cfg s h hring resume s.begun
      (s.captureDropped + (resume - s.i2sRingTail)) hcopy (by omega) hmoved (by omega) (by omega)
      (fun hkept => by
        rw [show resume = s.i2sRingTail by omega]
        exact h.whole (by omega))
    rw [← hrunning] at hsound
    exact
      { sound := hsound, running := hrunning, copy := hcopy, latest := htape.symm
        avail_le := by
          rw [ringAvail]
          dsimp only
          omega
        room := fun _ => by
          rw [ringAvail]
          dsimp only
          omega }
  · rename_i hfull
    simp only [ringAvail] at hfull
    have hsound := @Sound.moveTail cfg s h hring s.i2sRingTail s.begun s.captureDropped hcopy
      h.dvd_tail le_rfl (by omega) haccounted h.whole
    rw [← hrunning] at hsound
    exact
      { sound := hsound, running := hrunning, copy := hcopy, latest := htape.symm
        avail_le := by
          rw [ringAvail]
          dsimp only
          omega
        room := fun _ => by
          rw [ringAvail]
          dsimp only
          omega }

theorem Sound.lookPolled (h : Sound cfg s) (hcfg : cfg.Playable) (hpolled : cfg.captureRing = false)
    (hrunning : s.running = true) (hcopy : s.copy = none) (dma : List UInt8) :
    Looked cfg (TalkerCapture.refill cfg s dma) := by
  have hsound := h.refill hcfg hpolled hcopy dma
  obtain ⟨hlatest, havail, -⟩ := hsound.polled hpolled
  have hkept : (TalkerCapture.refill cfg s dma).running = s.running ∧
      (TalkerCapture.refill cfg s dma).copy = s.copy := by
    rw [TalkerCapture.refill]
    split <;> exact ⟨rfl, rfl⟩
  exact
    { sound := hsound, running := hkept.1.trans hrunning, copy := hkept.2.trans hcopy,
      latest := hlatest.symm, avail_le := havail,
      room := fun hno => absurd (hpolled.symm.trans hno) (by simp) }

theorem Looked.take (h : Looked cfg s) {len : Nat} (hlen : 8 ∣ len) : Sound cfg (take s len) := by
  have hsound := h.sound
  have htail := hsound.tail_le
  have havail := h.avail_le
  unfold TalkerCapture.take
  split
  · rename_i hle
    exact
      { hsound with
        idle := fun hno => absurd (h.running.symm.trans hno) (by simp)
        copying := fun len' done hsome => by
          cases hsome
          exact
            { len_le := hle, dvd_len := hlen, done_le := Nat.zero_le _, done_eq := rfl
              behind := by
                dsimp only
                rw [ringAvail] at havail
                rw [h.latest]
                omega
              room := h.room } }
  · have htaken : taken
        { s with blocks := s.blocks ++ [.silence len], ringUnderruns := s.ringUnderruns + 1 }
          = s.taken := by
      simp [taken, CaptureBlock.audio?]
    have hoctets : takenOctets
        { s with blocks := s.blocks ++ [.silence len], ringUnderruns := s.ringUnderruns + 1 }
          = s.takenOctets := by
      rw [takenOctets, htaken, takenOctets]
    exact
      { hsound with
        idle := fun hno => absurd (h.running.symm.trans hno) (by simp)
        copying := fun _ _ hsome => by
          dsimp only at hsome
          rw [h.copy] at hsome
          cases hsome
        captured := fun block hblock => hsound.captured block (htaken ▸ hblock)
        ordered := by
          rw [htaken]
          exact hsound.ordered
        accounted := by
          rw [hoctets]
          exact hsound.accounted
        whole := fun hkept => by
          rw [hoctets]
          exact hsound.whole hkept }

/-- One octet of a copy. -/
theorem Sound.copyOctet (h : Sound cfg s) (hcfg : cfg.Playable) {len : Nat} {done : List UInt8}
    (hcopy : s.copy = some (len, done)) (hmore : done.length < len) :
    Sound cfg
      { s with
        copy := some (len, done ++
          [s.ring (wrapAt cfg.ringSize (s.i2sRingTail % cfg.ringSize) done.length)]) } := by
  have hcopying := h.copying len done hcopy
  have hsize := hcfg.ringSize_pos
  have havail := hcopying.len_le
  have hbehind := hcopying.behind
  have hhead := h.head_le
  rw [ringAvail] at havail
  have hin : s.i2sRingTail + done.length < s.tape.length := by omega
  have hoctet : s.ring (wrapAt cfg.ringSize (s.i2sRingTail % cfg.ringSize) done.length)
      = s.tape[s.i2sRingTail + done.length] := by
    rw [wrapAt_mod (Nat.mod_lt _ hsize) (by omega), Nat.mod_add_mod]
    exact h.holds _ hin (by omega)
  refine
    { h with
      idle := fun hno => absurd ((h.idle hno).1.symm.trans hcopy) (by simp)
      copying := fun len' done' hsome => ?_ }
  cases hsome
  exact
    { len_le := hcopying.len_le, dvd_len := hcopying.dvd_len
      done_le := by
        rw [List.length_append, List.length_singleton]
        exact hmore
      done_eq := by
        rw [List.length_append, List.length_singleton, slice_succ hin, ← hcopying.done_eq, hoctet]
      behind := hbehind, room := hcopying.room }

/-- The end of a copy gives the packet its audio. -/
theorem Sound.copied (h : Sound cfg s) {len : Nat} {done : List UInt8}
    (hcopy : s.copy = some (len, done)) (hdone : ¬ done.length < len) :
    Sound cfg
      { s with
        copy := none, i2sRingTail := s.i2sRingTail + len,
        blocks := s.blocks ++ [.audio s.i2sRingTail done] } := by
  have hcopying := h.copying len done hcopy
  have hlen : done.length = len := le_antisymm hcopying.done_le (Nat.le_of_not_lt hdone)
  have havail := hcopying.len_le
  have htail := h.tail_le
  have haccounted := h.accounted
  rw [ringAvail] at havail
  set s' : TalkerCapture :=
    { s with
      copy := none, i2sRingTail := s.i2sRingTail + len,
      blocks := s.blocks ++ [.audio s.i2sRingTail done] } with hs'
  have htaken : s'.taken = s.taken ++ [(s.i2sRingTail, done)] := by
    simp [hs', taken, CaptureBlock.audio?]
  have hoctets : s'.takenOctets = s.takenOctets ++ done := by
    rw [takenOctets, htaken, List.map_append, List.flatten_append]
    simp [takenOctets]
  exact
    { holds := h.holds.mono (by simp only [hs']; omega)
      inside := h.inside
      tail_le := by
        simp only [hs']
        omega
      head_le := h.head_le
      dvd_tail := h.dvd_tail.add hcopying.dvd_len
      filled := h.filled
      polled := fun hpolled => by
        obtain ⟨hlatest, hfits, hdvd⟩ := h.polled hpolled
        rw [ringAvail] at hfits
        refine ⟨hlatest, ?_, hdvd⟩
        simp only [hs', ringAvail]
        omega
      idle := fun hno => absurd ((h.idle hno).1.symm.trans hcopy) (by simp)
      copying := fun _ _ hsome => by cases hsome
      captured := by
        rw [htaken]
        intro block hblock
        rcases List.mem_append.mp hblock with hold | hnew
        · obtain ⟨hdvd, heq, hle⟩ := h.captured block hold
          exact ⟨hdvd, heq, hle.trans (Nat.le_add_right _ _)⟩
        · rw [List.mem_singleton.mp hnew]
          exact ⟨h.dvd_tail, hcopying.done_eq, by simp only [hs']; omega⟩
      ordered := by
        rw [htaken, List.pairwise_append]
        refine ⟨h.ordered, List.pairwise_singleton _ _, fun block hblock last hlast => ?_⟩
        rw [List.mem_singleton.mp hlast]
        exact (h.captured block hblock).2.2
      accounted := by
        rw [hoctets, List.length_append]
        simp only [hs']
        omega
      whole := fun hkept => by
        have hbegun : s.begun + (s.i2sRingTail - s.begun) = s.i2sRingTail := by omega
        calc s'.takenOctets
            = slice s.tape s.begun (s.i2sRingTail - s.begun) ++ slice s.tape s.i2sRingTail len := by
              rw [hoctets, h.whole hkept, ← hlen, ← hcopying.done_eq]
          _ = slice s.tape s.begun (s.i2sRingTail - s.begun + len) := by
              rw [slice_add, hbegun]
          _ = slice s'.tape s'.begun (s'.i2sRingTail - s'.begun) := by
              rw [show s'.i2sRingTail - s'.begun = s.i2sRingTail - s.begun + len by
                simp only [hs']
                omega] }

/-! ### The runs -/

/-- The interrupt's buffers fit the ring, and while a packet's audio is copied out it captures no more
than two packets take. A packet takes whole frames. -/
def Timely (cfg : CaptureConfig) (s : TalkerCapture) : CaptureEvent → Prop
  | .recv dmaBuf =>
      dmaBuf.length ≤ cfg.ringSize ∧
        (s.copy.isSome → s.captureHead + dmaBuf.length ≤ s.i2sRingHead + 2 * cfg.readSize)
  | .packet len _ => 8 ∣ len
  | _ => True

instance Timely.decidable (cfg : CaptureConfig) (s : TalkerCapture) (e : CaptureEvent) :
    Decidable (Timely cfg s e) :=
  match e with
  | .recv dmaBuf => inferInstanceAs (Decidable (dmaBuf.length ≤ cfg.ringSize ∧
      (s.copy.isSome → s.captureHead + dmaBuf.length ≤ s.i2sRingHead + 2 * cfg.readSize)))
  | .packet len _ => inferInstanceAs (Decidable (8 ∣ len))
  | .prefill _ | .start | .copy => inferInstanceAs (Decidable True)

theorem Sound.step (h : Sound cfg s) (hcfg : cfg.Playable) (e : CaptureEvent)
    (htimely : Timely cfg s e) : Sound cfg (TalkerCapture.step cfg s e) := by
  cases e with
  | recv dmaBuf => exact h.recv hcfg htimely.1 htimely.2
  | prefill dma =>
      rw [TalkerCapture.step]
      split
      · exact h
      · rename_i hpre
        simp only [not_or, Bool.not_eq_true] at hpre
        exact h.refill hcfg hpre.2 (h.idle hpre.1).1 dma
  | start =>
      rw [TalkerCapture.step]
      split
      · exact h
      · rename_i hidle
        exact h.begin (Bool.not_eq_true _ ▸ hidle)
  | packet len dma =>
      rw [TalkerCapture.step]
      split
      · rename_i hready
        obtain ⟨hrunning, hcopy⟩ := hready
        rw [Option.isNone_iff_eq_none] at hcopy
        rw [packet]
        split
        · rename_i hring
          exact (h.look hcfg hring hrunning hcopy).take htimely
        · rename_i hpolled
          exact (h.lookPolled hcfg (Bool.not_eq_true _ ▸ hpolled) hrunning hcopy dma).take htimely
      · exact h
  | copy =>
      rw [TalkerCapture.step, copyStep]
      split
      · exact h
      · rename_i len done hcopy
        split
        · rename_i hmore
          exact h.copyOctet hcfg hcopy hmore
        · rename_i hdone
          exact h.copied hcopy hdone

end TalkerCapture

open TalkerCapture in
/-- In every interleaving of the RX interrupt with the talker's loop the ring's memory is kept to, and
the audio a packet is given is what was captured at one position, in whole frames, none of it taken
before. Audio taken and audio given up account for how far the talker has come; while none is given up,
the packets' audio is the capture without a gap. -/
theorem capture_in_order (cfg : CaptureConfig) (hcfg : cfg.Playable) (events : List CaptureEvent)
    (htimely : RunMeets (Timely cfg) (TalkerCapture.step cfg) init events) :
    let s := run (TalkerCapture.step cfg) init events
    (∀ cell, cfg.ringSize ≤ cell → s.ring cell = 0) ∧
      (∀ block ∈ s.taken, 8 ∣ block.1 ∧ block.2 = slice s.tape block.1 block.2.length ∧
        block.1 + block.2.length ≤ s.tape.length) ∧
      (s.taken.Pairwise fun a b => a.1 + a.2.length ≤ b.1) ∧
      s.begun + s.takenOctets.length + s.captureDropped = s.i2sRingTail ∧
      (s.captureDropped = 0 → s.takenOctets = slice s.tape s.begun s.takenOctets.length) := by
  intro s
  have hsound : Sound cfg s :=
    htimely.invariant (Sound cfg) (fun _ e he hs => hs.step hcfg e he) sound_init
  have haccounted := hsound.accounted
  refine ⟨hsound.inside, fun block hblock => ?_, hsound.ordered, haccounted, fun hkept => ?_⟩
  · obtain ⟨hdvd, heq, hle⟩ := hsound.captured block hblock
    exact ⟨hdvd, heq, (hle.trans hsound.tail_le).trans hsound.head_le⟩
  · have hlength : s.takenOctets.length = s.i2sRingTail - s.begun := by omega
    rw [hlength]
    exact hsound.whole hkept

/-- One packet of one frame at 48 kHz, with the interrupt between two octets of its copy. -/
theorem capture_in_order_packet :
    let cfg : CaptureConfig :=
      { params :=
          { formatSubtype := avtpSubtype61883, channels := 1, bitDepth := 24, sampleRate := 48000,
            interval := 125 }
        captureRing := true }
    let s := run (TalkerCapture.step cfg) TalkerCapture.init
      ([.recv [1, 2, 3, 0, 4, 5, 6, 0], .start, .packet 8 [], .copy, .recv [7, 8, 9, 0, 7, 8, 9, 0]] ++
        List.replicate 8 .copy)
    s.taken = [(0, [1, 2, 3, 0, 4, 5, 6, 0])] ∧
      s.takenOctets = slice s.tape s.begun s.takenOctets.length := by
  intro cfg s
  have horder := capture_in_order cfg ⟨Or.inl rfl, by decide⟩ _
    (by decide : RunMeets (TalkerCapture.Timely cfg) (TalkerCapture.step cfg) TalkerCapture.init
      ([.recv [1, 2, 3, 0, 4, 5, 6, 0], .start, .packet 8 [], .copy, .recv [7, 8, 9, 0, 7, 8, 9, 0]] ++
        List.replicate 8 .copy))
  exact ⟨by decide, horder.2.2.2.2 (by decide)⟩

end EspAvb
