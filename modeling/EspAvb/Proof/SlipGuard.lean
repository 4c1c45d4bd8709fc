import EspAvb.Lib.SlidingSum
import EspAvb.TalkerAudio
import EspAvb.Proof.TalkerCapture

/-!
# The guard against capture slips

The guard's ring and counters do what its text says: three pulses within the last packets of the window
mute the output, half a second after the last such packet it fades in again, and otherwise the packets
are those of a talker without the guard.
-/

namespace EspAvb

open Finset

/-! ### The mute -/

namespace MicDsp

variable {step level : Int} {st st' : MicDsp}

/-- What the mute leaves alone. -/
def filter (st : MicDsp) : Int × Int × Int := (st.xPrev, st.yPrev, st.gainQ16)

def Opened (st : MicDsp) : Prop := st.muteQ16 = 65536 ∧ st.muteStep = 0

def Held (st : MicDsp) : Prop := st.muteQ16 = 0 ∧ st.muteStep = 0

/-- The output is open, or fading in and at `level` at least. -/
def Rising (step level : Int) (st : MicDsp) : Prop :=
  st.Opened ∨ level ≤ st.muteQ16 ∧ st.muteQ16 < 65536 ∧ st.muteStep = step

/-- The mute with `hold` packets left. -/
structure Mute (step : Int) (hold : Nat) (st : MicDsp) : Prop where
  rising : hold = 0 → st.Rising step 0
  held : 0 < hold → st.Held

theorem eq_of_opened (hfilter : st.filter = st'.filter) (h : st.Opened) (h' : st'.Opened) :
    st = st' := by
  obtain ⟨x, y, gain, mute, muteStep⟩ := st
  obtain ⟨x', y', gain', mute', muteStep'⟩ := st'
  simp only [filter, Prod.mk.injEq] at hfilter
  simp only [Opened] at h h'
  simp only [mk.injEq]
  exact ⟨hfilter.1, hfilter.2.1, hfilter.2.2, h.1.trans h'.1.symm, h.2.trans h'.2.symm⟩

theorem filter_sample (st : MicDsp) (x : Int) :
    (micDspSample st x).1.filter
      = (x, max (-2 ^ 31) (min (2 ^ 31 - 1) (x - st.xPrev + st.yPrev * 32735 / 2 ^ 15)),
        st.gainQ16) := by
  unfold micDspSample
  dsimp only
  split_ifs <;> rfl

theorem sample_congr (h : st.filter = st'.filter) (x : Int) :
    (micDspSample st x).1.filter = (micDspSample st' x).1.filter := by
  simp only [filter, Prod.mk.injEq] at h
  rw [filter_sample, filter_sample, h.1, h.2.1, h.2.2]

theorem Opened.sample (h : st.Opened) (x : Int) : (micDspSample st x).1.Opened := by
  have hopen : ¬ st.muteQ16 < 65536 := by
    rw [h.1]
    omega
  unfold micDspSample
  dsimp only
  rw [if_neg hopen]
  exact h

/-- While the mute is held a sample is zero. -/
theorem Held.sample (h : st.Held) (x : Int) :
    (micDspSample st x).1.Held ∧ (micDspSample st x).2 = 0 := by
  simp [micDspSample, Held, h.1, h.2]

theorem Held.fadeIn (h : st.Held) (step : Int) :
    Rising step 0 { st with muteStep := step } := by
  refine .inr ⟨h.1.ge, ?_, rfl⟩
  dsimp only
  rw [h.1]
  norm_num

theorem Rising.sample (h : st.Rising step level) (hstep : 0 < step) (x : Int) :
    (micDspSample st x).1.Rising step (level + step) := by
  rcases h with hopen | ⟨hlow, hhigh, hmute⟩
  · exact .inl (hopen.sample x)
  · unfold micDspSample
    dsimp only
    rw [if_pos hhigh, if_neg (by omega)]
    split
    · exact .inl ⟨rfl, rfl⟩
    · rename_i hbelow
      refine .inr ⟨?_, ?_, hmute⟩
      · dsimp only
        omega
      · dsimp only
        omega

end MicDsp

/-! ### The DSP over a packet -/

/-- The DSP after the frames of a packet. -/
def micDspFrames (dsp : MicDsp) (frames : List SrcFrame) : MicDsp :=
  frames.foldl (fun dsp frame => (micDspSample dsp frame.left).1) dsp

theorem i2s24ToMono_dsp (octets : SrcSlot → List UInt8) {channels : Nat} (hchannels : 0 < channels)
    (frames : List SrcFrame) (dsp : MicDsp) :
    (i2s24ToMono octets channels frames dsp).1 = micDspFrames dsp frames := by
  induction frames generalizing dsp with
  | nil => rfl
  | cons frame rest ih =>
      obtain ⟨n, rfl⟩ := Nat.exists_eq_succ_of_ne_zero hchannels.ne'
      exact ih _

theorem i2s24ToMono_silent (octets : SrcSlot → List UInt8) {channels : Nat}
    (hchannels : 0 < channels) (frames : List SrcFrame) {dsp : MicDsp} (h : dsp.Held) :
    (i2s24ToMono octets channels frames dsp).2
      = (List.replicate (frames.length * channels) (octets .zero)).flatten := by
  induction frames generalizing dsp with
  | nil => simp [i2s24ToMono]
  | cons frame rest ih =>
      obtain ⟨n, rfl⟩ := Nat.exists_eq_succ_of_ne_zero hchannels.ne'
      obtain ⟨hheld, hzero⟩ := h.sample frame.left
      have hslot : (micDspBe24 dsp frame).2 = .zero := by
        calc (micDspBe24 dsp frame).2 = slotOf24 (micDspSample dsp frame.left).2 := rfl
          _ = .zero := by
              rw [hzero]
              rfl
      have hcount : (frame :: rest).length * (n + 1) = n + 1 + rest.length * (n + 1) := by
        rw [List.length_cons]
        ring
      calc (i2s24ToMono octets (n + 1) (frame :: rest) dsp).2
          = octets (micDspBe24 dsp frame).2 ++ (List.replicate n (octets .zero)).flatten
              ++ (i2s24ToMono octets (n + 1) rest (micDspSample dsp frame.left).1).2 := rfl
        _ = (List.replicate (n + 1) (octets .zero)).flatten
              ++ (List.replicate (rest.length * (n + 1)) (octets .zero)).flatten := by
            rw [hslot, ih hheld, List.replicate_succ, List.flatten_cons]
        _ = (List.replicate ((frame :: rest).length * (n + 1)) (octets .zero)).flatten := by
            rw [hcount, ← List.flatten_append, List.replicate_append_replicate]

theorem MicDsp.frames_congr {dsp dsp' : MicDsp} (h : dsp.filter = dsp'.filter)
    (frames : List SrcFrame) : (micDspFrames dsp frames).filter = (micDspFrames dsp' frames).filter := by
  induction frames generalizing dsp dsp' with
  | nil => exact h
  | cons frame rest ih => exact ih (sample_congr h frame.left)

theorem MicDsp.Opened.frames {dsp : MicDsp} (h : dsp.Opened) (frames : List SrcFrame) :
    (micDspFrames dsp frames).Opened := by
  induction frames generalizing dsp with
  | nil => exact h
  | cons frame rest ih => exact ih (h.sample frame.left)

theorem MicDsp.Held.frames {dsp : MicDsp} (h : dsp.Held) (frames : List SrcFrame) :
    (micDspFrames dsp frames).Held := by
  induction frames generalizing dsp with
  | nil => exact h
  | cons frame rest ih => exact ih (h.sample frame.left).1

/-- Each frame of a packet takes the fade-in a step on. -/
theorem MicDsp.Rising.frames {step level : Int} {dsp : MicDsp} (h : dsp.Rising step level)
    (hstep : 0 < step) (frames : List SrcFrame) :
    (micDspFrames dsp frames).Rising step (level + step * frames.length) := by
  induction frames generalizing dsp level with
  | nil =>
      rw [List.length_nil, Nat.cast_zero, Int.mul_zero, Int.add_zero]
      exact h
  | cons frame rest ih =>
      have hlevel : level + step * (frame :: rest).length = level + step + step * rest.length := by
        rw [List.length_cons]
        push_cast
        ring
      rw [hlevel]
      exact ih (h.sample hstep frame.left)

theorem MicDsp.Rising.mono {step level level' : Int} {dsp : MicDsp} (h : dsp.Rising step level)
    (hle : level' ≤ level) : dsp.Rising step level' :=
  h.imp_right fun ⟨hlow, hrest⟩ => ⟨hle.trans hlow, hrest⟩

theorem MicDsp.Mute.frames {step : Int} {hold : Nat} {dsp : MicDsp} (h : dsp.Mute step hold)
    (hstep : 0 < step) (frames : List SrcFrame) : (micDspFrames dsp frames).Mute step hold where
  rising := fun hzero => ((h.rising hzero).frames hstep frames).mono (by positivity)
  held := fun hpos => (h.held hpos).frames frames

/-! ### The window -/

namespace SlipGuard

def slide (g : SlipGuard) : SlidingSum := { cells := g.window, pos := g.windowPos, sum := g.windowSum }

theorem feed_kept (state : SlipGuard × Nat) (x : Int) :
    (feed state x).1.slide = state.1.slide ∧ (feed state x).1.muteHold = state.1.muteHold := by
  obtain ⟨g, pulses⟩ := state
  rw [feed]
  dsimp only
  split_ifs <;> exact ⟨rfl, rfl⟩

theorem foldl_feed_kept (xs : List Int) (state : SlipGuard × Nat) :
    (xs.foldl feed state).1.slide = state.1.slide ∧
      (xs.foldl feed state).1.muteHold = state.1.muteHold := by
  induction xs generalizing state with
  | nil => exact ⟨rfl, rfl⟩
  | cons x rest ih =>
      obtain ⟨hslide, hhold⟩ := ih (feed state x)
      exact ⟨hslide.trans (feed_kept state x).1, hhold.trans (feed_kept state x).2⟩

theorem slide_enter (windowLen : Nat) (g : SlipGuard) (pulses : Nat) :
    (g.enter windowLen pulses).slide = g.slide.push windowLen (min pulses 255) := by
  have hentry : (if 255 < pulses then 255 else pulses) = min pulses 255 := by
    split <;> omega
  rw [enter, hentry]
  rfl

end SlipGuard

/-! ### A packet -/

namespace TalkerMedia

variable (cfg : TalkerMedia)

/-- The talker without the guard. -/
def plain : TalkerMedia := { cfg with slipMute := false }

def wireOctets : SrcSlot → List UInt8 := if cfg.isAm824 then am824Octets else aafOctets

theorem muteStep_pos : 0 < cfg.muteStep := Int.lt_of_lt_of_le Int.one_pos (le_max_right _ _)

theorem windowLen_pos : 0 < cfg.windowLen := by
  unfold windowLen
  omega

theorem windowLen_le : cfg.windowLen ≤ 512 := Nat.min_le_right _ _

end TalkerMedia

namespace TalkerAudio

variable (cfg : TalkerMedia)

/-- The pulses that the frames of a packet put into the window. -/
def pulses (st : TalkerAudio) (frames : List SrcFrame) : Nat :=
  min ((frames.map SrcFrame.left).foldl SlipGuard.feed (st.guard, 0)).2 255

theorem slipGuard_slide (st : TalkerAudio) (frames : List SrcFrame) :
    (st.slipGuard cfg frames).guard.slide
      = st.guard.slide.push cfg.windowLen (st.pulses frames) := by
  have hkept := (SlipGuard.foldl_feed_kept (frames.map SrcFrame.left) (st.guard, 0)).1
  calc (st.slipGuard cfg frames).guard.slide
      = (SlipGuard.enter cfg.windowLen
          ((frames.map SrcFrame.left).foldl SlipGuard.feed (st.guard, 0)).1
          ((frames.map SrcFrame.left).foldl SlipGuard.feed (st.guard, 0)).2).slide := rfl
    _ = st.guard.slide.push cfg.windowLen (st.pulses frames) := by
        rw [SlipGuard.slide_enter, hkept, pulses]

/-- The packets the mute is still held, this one with them, by the window's sum. -/
def holdBy (st : TalkerAudio) (sum : Nat) : Nat :=
  if 3 ≤ sum then cfg.muteHold else st.guard.muteHold

/-- The DSP, cut off where an episode begins. -/
def cutBy (st : TalkerAudio) (sum : Nat) : MicDsp :=
  if 3 ≤ sum ∧ st.guard.muteHold = 0 then { st.dsp with muteQ16 := 0, muteStep := 0 } else st.dsp

theorem slipGuard_eq (st : TalkerAudio) (frames : List SrcFrame) :
    let sum := (st.slipGuard cfg frames).guard.slide.sum
    (st.slipGuard cfg frames).guard.muteHold = st.holdBy cfg sum - 1 ∧
      (st.slipGuard cfg frames).dsp
        = if st.holdBy cfg sum = 1 then { st.cutBy sum with muteStep := cfg.muteStep }
          else st.cutBy sum := by
  have hkept := (SlipGuard.foldl_feed_kept (frames.map SrcFrame.left) (st.guard, 0)).2
  intro sum
  simp only [sum, holdBy, cutBy, slipGuard, SlipGuard.enter, SlipGuard.slide, hkept]
  exact ⟨trivial, trivial⟩

theorem cutBy_of_quiet {st : TalkerAudio} {sum : Nat} (hquiet : ¬ 3 ≤ sum) :
    st.cutBy sum = st.dsp := if_neg fun h => hquiet h.1

/-- In an episode the output is held, from before or from now on. -/
theorem cutBy_held {st : TalkerAudio} {step : Int} (h : st.dsp.Mute step st.guard.muteHold)
    {sum : Nat} (hepisode : 3 ≤ sum) : (st.cutBy sum).Held := by
  unfold cutBy
  split
  · exact ⟨rfl, rfl⟩
  · rename_i hrunning
    exact h.held (by omega)

theorem slipGuard_filter (st : TalkerAudio) (frames : List SrcFrame) :
    (st.slipGuard cfg frames).dsp.filter = st.dsp.filter := by
  have hcut : ∀ sum, (st.cutBy sum).filter = st.dsp.filter := by
    intro sum
    unfold cutBy
    split <;> rfl
  rw [(slipGuard_eq cfg st frames).2]
  split
  · exact hcut _
  · exact hcut _

/-- The hold and the mute go together. -/
theorem slipGuard_mute {st : TalkerAudio} (hhold : 0 < cfg.muteHold)
    (h : st.dsp.Mute cfg.muteStep st.guard.muteHold) (frames : List SrcFrame) :
    (st.slipGuard cfg frames).dsp.Mute cfg.muteStep (st.slipGuard cfg frames).guard.muteHold := by
  obtain ⟨hleft, hdsp⟩ := slipGuard_eq cfg st frames
  generalize (st.slipGuard cfg frames).guard.slide.sum = sum at hleft hdsp
  have hheld : 0 < st.holdBy cfg sum → (st.cutBy sum).Held := by
    intro hpos
    by_cases hepisode : 3 ≤ sum
    · exact cutBy_held h hepisode
    · rw [cutBy_of_quiet hepisode]
      rw [holdBy, if_neg hepisode] at hpos
      exact h.held hpos
  rw [hleft, hdsp]
  split
  · rename_i hlast
    exact ⟨fun _ => (hheld (by omega)).fadeIn _, fun hpos => by omega⟩
  · rename_i hmore
    refine ⟨fun hzero => ?_, fun hpos => hheld (by omega)⟩
    have hquiet : ¬ 3 ≤ sum := fun hepisode => by
      rw [holdBy, if_pos hepisode] at hzero hmore
      omega
    rw [cutBy_of_quiet hquiet]
    rw [holdBy, if_neg hquiet] at hzero hmore
    exact h.rising (by omega)

/-- Without an episode or a hold the guard leaves the output as it is. -/
theorem slipGuard_quiet {st : TalkerAudio} {frames : List SrcFrame}
    (hquiet : ¬ 3 ≤ (st.slipGuard cfg frames).guard.slide.sum) (hzero : st.guard.muteHold = 0) :
    (st.slipGuard cfg frames).dsp = st.dsp := by
  have hnone : st.holdBy cfg (st.slipGuard cfg frames).guard.slide.sum = 0 :=
    (if_neg hquiet).trans hzero
  rw [(slipGuard_eq cfg st frames).2, hnone, if_neg Nat.zero_ne_one, cutBy_of_quiet hquiet]

/-! ### A packet with the guard and without -/

/-- The frames a packet carries, and the state behind the converter. -/
def taken (st : TalkerAudio) (input : TalkerInput) : TalkerAudio × List SrcFrame :=
  st.convert cfg (framesOf input.octets) input.spp input.rateQ32

/-- The state behind the guard. -/
def guarded (st : TalkerAudio) (input : TalkerInput) : TalkerAudio :=
  if cfg.slipMute then (st.taken cfg input).1.slipGuard cfg (st.taken cfg input).2
  else (st.taken cfg input).1

def toneOctets (st : TalkerAudio) (spp : Nat) : List UInt8 :=
  ((copySineFromLut cfg.lut cfg.lutSamples spp st.lutPos).2.flatten.map cfg.wireOctets).flatten

theorem taken_kept (st : TalkerAudio) (input : TalkerInput) :
    (st.taken cfg input).1.dsp = st.dsp ∧ (st.taken cfg input).1.guard = st.guard ∧
      (st.taken cfg input).1.lutPos = st.lutPos := by
  unfold taken convert
  split <;> exact ⟨rfl, rfl, rfl⟩

theorem taken_congr {st st' : TalkerAudio} (h : st.src = st'.src) (input : TalkerInput) :
    (st.taken cfg input).1.src = (st'.taken cfg input).1.src ∧
      (st.taken cfg input).2 = (st'.taken cfg input).2 := by
  unfold taken convert
  split
  · dsimp only
    rw [h]
    exact ⟨rfl, rfl⟩
  · exact ⟨h, rfl⟩

theorem guarded_kept (st : TalkerAudio) (input : TalkerInput) :
    (st.guarded cfg input).src = (st.taken cfg input).1.src ∧
      (st.guarded cfg input).lutPos = st.lutPos ∧
      (st.guarded cfg input).dsp.filter = st.dsp.filter := by
  obtain ⟨hdsp, -, hlut⟩ := taken_kept cfg st input
  unfold guarded
  split
  · exact ⟨rfl, hlut, (slipGuard_filter cfg _ _).trans (congrArg MicDsp.filter hdsp)⟩
  · exact ⟨rfl, hlut, congrArg MicDsp.filter hdsp⟩

theorem sine_eq (st : TalkerAudio) (spp : Nat) :
    st.sine cfg spp = ({ st with lutPos := (copySineFromLut cfg.lut cfg.lutSamples spp st.lutPos).1 },
      st.toneOctets cfg spp) := by
  cases ham824 : cfg.isAm824 <;>
    simp [sine, toneOctets, TalkerMedia.wireOctets, ham824, be32ToAm824, be32ToAaf]

theorem mono_eq (st : TalkerAudio) (frames : List SrcFrame) :
    st.mono cfg frames =
      ({ st with dsp := (i2s24ToMono cfg.wireOctets cfg.params.channels frames st.dsp).1 },
        (i2s24ToMono cfg.wireOctets cfg.params.channels frames st.dsp).2) := by
  cases ham824 : cfg.isAm824 <;>
    simp [mono, TalkerMedia.wireOctets, ham824, i2s24ToAm824Mono, i2s24ToAafMono]

/-- The stages of a packet, of a source with a microphone. -/
theorem fill_eq (hmic : cfg.useSineWave = false) (st : TalkerAudio) (input : TalkerInput) :
    let frames := (st.taken cfg input).2
    let g := st.guarded cfg input
    let out := i2s24ToMono cfg.wireOctets cfg.params.channels frames g.dsp
    let lutPos := (copySineFromLut cfg.lut cfg.lutSamples input.spp g.lutPos).1
    st.fill cfg input =
      ({ g with dsp := out.1, lutPos := if input.testTone then lutPos else g.lutPos },
        if input.testTone then g.toneOctets cfg input.spp else out.2) := by
  intro frames g out lutPos
  rw [fill, if_neg (by simp [hmic])]
  simp only [mono_eq, sine_eq]
  cases htone : input.testTone
  · rfl
  · rfl

end TalkerAudio

end EspAvb
