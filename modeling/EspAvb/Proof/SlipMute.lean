import EspAvb.Proof.SlipGuard

/-!
# When the talker is muted

The guard over a stream's packets, against the window's own terms: which packets it silences, and from
when on the stream is again that of a talker without it.
-/

namespace EspAvb

open Finset

namespace TalkerAudio

variable (cfg : TalkerMedia) (st : TalkerAudio) (input : Nat → TalkerInput)

/-- The frames that packet `n` carries. -/
def carried (n : Nat) : List SrcFrame := ((st.before cfg input n).taken cfg (input n)).2

/-- The pulses found in packet `n`. -/
def found (n : Nat) : Nat :=
  ((st.before cfg input n).taken cfg (input n)).1.pulses (st.carried cfg input n)

/-- The window that ends with packet `n` has three pulses. -/
def Episode (n : Nat) : Prop :=
  3 ≤ ∑ i ∈ Ico (n + 1 - cfg.windowLen) (n + 1), st.found cfg input i

instance Episode.decidable (n : Nat) : Decidable (st.Episode cfg input n) :=
  inferInstanceAs (Decidable (3 ≤ _))

/-- The octets of packet `n`. -/
def sent (n : Nat) : List UInt8 := ((st.before cfg input n).fill cfg (input n)).2

/-- The state behind the guard in packet `n`. -/
def guardedAt (n : Nat) : TalkerAudio := (st.before cfg input n).guarded cfg (input n)

section

variable {cfg} {st} {input} {n : Nat}

theorem before_succ (hmic : cfg.useSineWave = false) (hchannels : 0 < cfg.params.channels) (n : Nat) :
    (st.before cfg input (n + 1)).dsp
        = micDspFrames (st.guardedAt cfg input n).dsp (st.carried cfg input n) ∧
      (st.before cfg input (n + 1)).guard = (st.guardedAt cfg input n).guard ∧
      (st.before cfg input (n + 1)).src = (st.guardedAt cfg input n).src := by
  rw [before, fill_eq cfg hmic, ← i2s24ToMono_dsp cfg.wireOctets hchannels]
  exact ⟨rfl, rfl, rfl⟩

/-! ### The guard's counters -/

/-- The guard before packet `n`: its window and its hold are those of the packets so far. -/
structure Follows (cfg : TalkerMedia) (st : TalkerAudio) (input : Nat → TalkerInput) (n : Nat) :
    Prop where
  window : SlidingSum.Follows cfg.windowLen (st.found cfg input) n
    (st.before cfg input n).guard.slide
  hold : ∀ k, k < (st.before cfg input n).guard.muteHold ↔
    ∃ m < n, st.Episode cfg input m ∧ n + k < m + cfg.muteHold
  mute : (st.before cfg input n).dsp.Mute cfg.muteStep (st.before cfg input n).guard.muteHold

theorem guardedAt_eq (hguard : cfg.slipMute = true) (n : Nat) :
    st.guardedAt cfg input n
      = ((st.before cfg input n).taken cfg (input n)).1.slipGuard cfg (st.carried cfg input n) := by
  rw [guardedAt, guarded, if_pos hguard]
  rfl

theorem Follows.slide (h : Follows cfg st input n) (hguard : cfg.slipMute = true) :
    SlidingSum.Follows cfg.windowLen (st.found cfg input) (n + 1)
      (st.guardedAt cfg input n).guard.slide := by
  obtain ⟨-, hkept, -⟩ := taken_kept cfg (st.before cfg input n) (input n)
  rw [guardedAt_eq hguard, slipGuard_slide, hkept]
  exact h.window.push cfg.windowLen_pos

theorem Follows.episode_iff (h : Follows cfg st input n) (hguard : cfg.slipMute = true) :
    3 ≤ (st.guardedAt cfg input n).guard.slide.sum ↔ st.Episode cfg input n := by
  rw [(h.slide hguard).sum, Episode]

theorem Follows.hold_succ (h : Follows cfg st input n) (hguard : cfg.slipMute = true) (k : Nat) :
    k < (st.guardedAt cfg input n).guard.muteHold ↔
      ∃ m < n + 1, st.Episode cfg input m ∧ n + 1 + k < m + cfg.muteHold := by
  have hepisode := h.episode_iff hguard
  obtain ⟨-, hkept, -⟩ := taken_kept cfg (st.before cfg input n) (input n)
  have hleft := (slipGuard_eq cfg ((st.before cfg input n).taken cfg (input n)).1
    (st.carried cfg input n)).1
  rw [← guardedAt_eq hguard, holdBy, hkept] at hleft
  rw [hleft]
  by_cases hfound : st.Episode cfg input n
  · rw [if_pos (hepisode.mpr hfound)]
    constructor
    · intro hlt
      exact ⟨n, Nat.lt_succ_self n, hfound, by omega⟩
    · rintro ⟨m, hm, -, hlt⟩
      omega
  · rw [if_neg (fun hsum => hfound (hepisode.mp hsum))]
    have hbefore := h.hold (k + 1)
    constructor
    · intro hlt
      obtain ⟨m, hm, hearlier, hnear⟩ := hbefore.mp (by omega)
      exact ⟨m, by omega, hearlier, by omega⟩
    · rintro ⟨m, hm, hearlier, hnear⟩
      have hne : m ≠ n := by
        rintro rfl
        exact hfound hearlier
      have := hbefore.mpr ⟨m, by omega, hearlier, by omega⟩
      omega

theorem Follows.guarded_mute (h : Follows cfg st input n) (hguard : cfg.slipMute = true)
    (hhold : 0 < cfg.muteHold) :
    (st.guardedAt cfg input n).dsp.Mute cfg.muteStep
      (st.guardedAt cfg input n).guard.muteHold := by
  obtain ⟨hdsp, hkept, -⟩ := taken_kept cfg (st.before cfg input n) (input n)
  rw [guardedAt_eq hguard]
  apply slipGuard_mute cfg hhold
  rw [hdsp, hkept]
  exact h.mute

/-- A microphone's talker with the guard. -/
structure Guards (cfg : TalkerMedia) : Prop where
  slipMute : cfg.slipMute = true
  mic : cfg.useSineWave = false
  channels : 0 < cfg.params.channels
  playable : cfg.capture.Playable

theorem Guards.muteHold_pos (h : Guards cfg) : 0 < cfg.muteHold := by
  have hinterval : cfg.params.interval = 125 ∨ cfg.params.interval = 250 := h.playable.interval
  unfold TalkerMedia.muteHold
  rcases hinterval with hinterval | hinterval <;> rw [hinterval] <;> norm_num

theorem Follows.step (h : Follows cfg st input n) (hcfg : Guards cfg) :
    Follows cfg st input (n + 1) := by
  obtain ⟨hdsp, hkept, -⟩ := @before_succ cfg st input hcfg.mic hcfg.channels n
  exact
    { window := by
        rw [hkept]
        exact h.slide hcfg.slipMute
      hold := by
        rw [hkept]
        exact h.hold_succ hcfg.slipMute
      mute := by
        rw [hkept, hdsp]
        exact (h.guarded_mute hcfg.slipMute hcfg.muteHold_pos).frames cfg.muteStep_pos _ }

/-- The guard has found nothing yet and the output is open. -/
structure Idle (st : TalkerAudio) : Prop where
  slide : st.guard.slide = .empty
  muteHold : st.guard.muteHold = 0
  opened : st.dsp.Opened

theorem init_idle (src : AvbSrc) (gainQ16 : Int) : (init src gainQ16).Idle := ⟨rfl, rfl, rfl, rfl⟩

theorem Idle.follows (hidle : st.Idle) (hcfg : Guards cfg) (n : Nat) : Follows cfg st input n := by
  induction n with
  | zero =>
      exact
        { window := hidle.slide ▸ SlidingSum.follows_empty
          hold := fun k => by
            constructor
            · intro hlt
              exact absurd (hidle.muteHold ▸ hlt) (Nat.not_lt_zero k)
            · rintro ⟨m, hm, -⟩
              exact absurd hm (Nat.not_lt_zero m)
          mute := ⟨fun _ => .inl hidle.opened, fun hpos => absurd hidle.muteHold hpos.ne'⟩ }
  | succ n ih => exact ih.step hcfg

/-! ### When the output is open -/

theorem Follows.released (h : Follows cfg st input n) (hcfg : Guards cfg) {a : Nat} (ha : a ≤ n)
    (hpast : ∀ m ≤ n, st.Episode cfg input m → m + cfg.muteHold ≤ a + 1) :
    (st.guardedAt cfg input n).guard.muteHold = 0 := by
  by_contra hne
  obtain ⟨m, hm, hepisode, hnear⟩ := (h.hold_succ hcfg.slipMute 0).mp (by omega)
  have := hpast m (by omega) hepisode
  omega

/-- A packet outside every hold and without an episode is not touched by the guard. -/
theorem Follows.untouched (h : Follows cfg st input n) (hcfg : Guards cfg)
    (hquiet : ¬ st.Episode cfg input n) (hzero : (st.before cfg input n).guard.muteHold = 0) :
    (st.guardedAt cfg input n).dsp = (st.before cfg input n).dsp := by
  obtain ⟨hdsp, hkept, -⟩ := taken_kept cfg (st.before cfg input n) (input n)
  have hsum := (h.episode_iff hcfg.slipMute).not.mpr hquiet
  rw [guardedAt_eq hcfg.slipMute] at hsum ⊢
  rw [slipGuard_quiet cfg hsum (by rw [hkept]; exact hzero), hdsp]

theorem opened_of_quiet (hcfg : Guards cfg) (hfollows : ∀ n, Follows cfg st input n)
    (hinit : st.dsp.Opened) {n : Nat} (hquiet : ∀ m ≤ n, ¬ st.Episode cfg input m) :
    (st.guardedAt cfg input n).dsp.Opened := by
  induction n with
  | zero =>
      have hzero : (st.before cfg input 0).guard.muteHold = 0 := by
        by_contra hne
        obtain ⟨m, hm, -⟩ := ((hfollows 0).hold 0).mp (by omega)
        omega
      rw [(hfollows 0).untouched hcfg (hquiet 0 le_rfl) hzero]
      exact hinit
  | succ n ih =>
      obtain ⟨hdsp, -, -⟩ := @before_succ cfg st input hcfg.mic hcfg.channels n
      have hzero : (st.before cfg input (n + 1)).guard.muteHold = 0 := by
        by_contra hne
        obtain ⟨m, hm, hepisode, -⟩ := ((hfollows (n + 1)).hold 0).mp (by omega)
        exact hquiet m (by omega) hepisode
      rw [(hfollows (n + 1)).untouched hcfg (hquiet (n + 1) le_rfl) hzero, hdsp]
      exact (ih fun m hm => hquiet m (by omega)).frames _

/-- The fade-in from packet `a` on, which no later episode stops. -/
theorem rising_of_released (hcfg : Guards cfg) (hfollows : ∀ n, Follows cfg st input n)
    {a n : Nat} (ha : a ≤ n)
    (hpast : ∀ m ≤ n, st.Episode cfg input m → m + cfg.muteHold ≤ a + 1) :
    (st.guardedAt cfg input n).dsp.Rising cfg.muteStep
      (cfg.muteStep * ∑ i ∈ Ico a n, (st.carried cfg input i).length) := by
  induction n, ha using Nat.le_induction with
  | base =>
      have hmute := (hfollows a).guarded_mute hcfg.slipMute hcfg.muteHold_pos
      rw [Ico_self, sum_empty, Nat.cast_zero, Int.mul_zero]
      exact hmute.rising ((hfollows a).released hcfg le_rfl hpast)
  | succ n ha ih =>
      obtain ⟨hdsp, hkept, -⟩ := @before_succ cfg st input hcfg.mic hcfg.channels n
      have hearlier : ∀ m ≤ n, st.Episode cfg input m → m + cfg.muteHold ≤ a + 1 :=
        fun m hm => hpast m (by omega)
      have hquiet : ¬ st.Episode cfg input (n + 1) := fun hepisode => by
        have := hpast (n + 1) le_rfl hepisode
        have := hcfg.muteHold_pos
        omega
      have hzero : (st.before cfg input (n + 1)).guard.muteHold = 0 := by
        rw [hkept]
        exact (hfollows n).released hcfg ha hearlier
      have hlevel : cfg.muteStep * ((∑ i ∈ Ico a (n + 1), (st.carried cfg input i).length : Nat) : Int)
          = cfg.muteStep * ((∑ i ∈ Ico a n, (st.carried cfg input i).length : Nat) : Int)
            + cfg.muteStep * (st.carried cfg input n).length := by
        rw [sum_Ico_succ_top ha, Nat.cast_add, Int.mul_add]
      rw [(hfollows (n + 1)).untouched hcfg hquiet hzero, hdsp]
      push_cast at hlevel ih ⊢
      rw [hlevel]
      exact (ih hearlier).frames cfg.muteStep_pos _

/-! ### Beside the talker without the guard -/

/-- The two talkers before packet `n`: all but the mute is the same, and one is never muted. -/
structure Beside (cfg : TalkerMedia) (st : TalkerAudio) (input : Nat → TalkerInput) (n : Nat) :
    Prop where
  src : (st.before cfg input n).src = (st.before cfg.plain input n).src
  lutPos : (st.before cfg input n).lutPos = (st.before cfg.plain input n).lutPos
  filter : (st.before cfg input n).dsp.filter = (st.before cfg.plain input n).dsp.filter
  opened : (st.before cfg.plain input n).dsp.Opened

theorem guardedAt_plain (n : Nat) :
    st.guardedAt cfg.plain input n = ((st.before cfg.plain input n).taken cfg (input n)).1 := rfl

theorem Beside.step (h : Beside cfg st input n) (hcfg : Guards cfg) :
    Beside cfg st input (n + 1) := by
  obtain ⟨hdsp, -, hsrc⟩ := @before_succ cfg st input hcfg.mic hcfg.channels n
  obtain ⟨hdsp', -, hsrc'⟩ := @before_succ cfg.plain st input hcfg.mic hcfg.channels n
  obtain ⟨hgsrc, hglut, hgfilter⟩ := guarded_kept cfg (st.before cfg input n) (input n)
  obtain ⟨hpdsp, -, hplut⟩ := taken_kept cfg (st.before cfg.plain input n) (input n)
  obtain ⟨htaken, hframes⟩ := taken_congr cfg h.src (input n)
  have hcarried : st.carried cfg input n = st.carried cfg.plain input n := hframes
  rw [guardedAt_plain] at hdsp' hsrc'
  rw [hpdsp] at hdsp'
  exact
    { src := by
        rw [hsrc, hsrc']
        exact hgsrc.trans htaken
      lutPos := by
        rw [before, before, fill_eq cfg hcfg.mic, fill_eq cfg.plain hcfg.mic]
        have hlut : ((st.before cfg input n).guarded cfg (input n)).lutPos
            = ((st.before cfg.plain input n).guarded cfg.plain (input n)).lutPos :=
          hglut.trans (h.lutPos.trans hplut.symm)
        dsimp only
        rw [hlut]
        rfl
      filter := by
        rw [hdsp, hdsp', hcarried]
        exact MicDsp.frames_congr (hgfilter.trans h.filter) _
      opened := by
        rw [hdsp']
        exact h.opened.frames _ }

theorem beside (hcfg : Guards cfg) (hinit : st.dsp.Opened) (n : Nat) : Beside cfg st input n := by
  induction n with
  | zero => exact ⟨rfl, rfl, rfl, hinit⟩
  | succ n ih => exact ih.step hcfg

/-- An open packet is the one without the guard. -/
theorem Beside.sent_eq (h : Beside cfg st input n) (hcfg : Guards cfg)
    (hopen : (st.guardedAt cfg input n).dsp.Opened) :
    st.sent cfg input n = st.sent cfg.plain input n := by
  obtain ⟨-, hglut, hgfilter⟩ := guarded_kept cfg (st.before cfg input n) (input n)
  obtain ⟨hpdsp, -, hplut⟩ := taken_kept cfg (st.before cfg.plain input n) (input n)
  obtain ⟨-, hframes⟩ := taken_congr cfg h.src (input n)
  have hdsp : (st.guardedAt cfg input n).dsp = (st.guardedAt cfg.plain input n).dsp := by
    rw [guardedAt_plain, hpdsp]
    exact MicDsp.eq_of_opened (hgfilter.trans h.filter) hopen h.opened
  have hlut : (st.guardedAt cfg input n).lutPos = (st.guardedAt cfg.plain input n).lutPos :=
    hglut.trans (h.lutPos.trans hplut.symm)
  rw [sent, sent, fill_eq cfg hcfg.mic, fill_eq cfg.plain hcfg.mic]
  rw [guardedAt, guardedAt] at hdsp hlut
  dsimp only [toneOctets]
  rw [hdsp, hlut, hframes]
  rfl

end

end TalkerAudio

open TalkerAudio in
/-- Of a talker with the guard against capture slips, over any packets: the guard's ring keeps to its
memory and its running sum is that of the pulses in the window; from a packet whose window has three
pulses on, all but the last packet of 500 ms are silence; and a packet is the one of a talker without the
guard if there was no such window so far, or 1 ms of audio went out since the last one's hold ended. -/
theorem slip_guard_mutes (cfg : TalkerMedia) (hcfg : Guards cfg) (st : TalkerAudio) (hidle : st.Idle)
    (input : Nat → TalkerInput) (n : Nat) :
    let guard := (st.before cfg input n).guard
    (guard.windowPos < 512 ∧ guard.window guard.windowPos ≤ guard.windowSum ∧
        guard.windowSum = ∑ i ∈ Ico (n - cfg.windowLen) n, st.found cfg input i) ∧
      ((∃ m ≤ n, st.Episode cfg input m ∧ n + 1 < m + cfg.muteHold) → (input n).testTone = false →
        st.sent cfg input n = (List.replicate
          ((st.carried cfg input n).length * cfg.params.channels) (cfg.wireOctets .zero)).flatten) ∧
      (((∀ m ≤ n, ¬ st.Episode cfg input m) ∨ ∃ a ≤ n,
          (∀ m ≤ n, st.Episode cfg input m → m + cfg.muteHold ≤ a + 1) ∧
            65536 ≤ cfg.muteStep * ∑ i ∈ Ico a n, ((st.carried cfg input i).length : Int)) →
        st.sent cfg input n = st.sent cfg.plain input n) := by
  intro guard
  have hfollows : ∀ n, Follows cfg st input n := hidle.follows hcfg
  refine ⟨⟨?_, ?_, (hfollows n).window.sum⟩, ?_, ?_⟩
  · have hpos : guard.windowPos = n % cfg.windowLen := (hfollows n).window.pos
    have hlt := Nat.mod_lt n cfg.windowLen_pos
    have hle := cfg.windowLen_le
    omega
  · exact (hfollows n).window.leaving_le cfg.windowLen_pos
  · rintro ⟨m, hm, hepisode, hnear⟩ htone
    have hheld := ((hfollows n).guarded_mute hcfg.slipMute hcfg.muteHold_pos).held
      (((hfollows n).hold_succ hcfg.slipMute 0).mpr ⟨m, by omega, hepisode, by omega⟩)
    rw [sent, fill_eq cfg hcfg.mic, htone]
    exact i2s24ToMono_silent cfg.wireOctets hcfg.channels _ hheld
  · intro hopen
    apply (beside hcfg hidle.opened n).sent_eq hcfg
    rcases hopen with hquiet | ⟨a, ha, hpast, hfade⟩
    · exact opened_of_quiet hcfg hfollows hidle.opened hquiet
    · have hrising := rising_of_released hcfg hfollows ha hpast
      push_cast at hrising
      rcases hrising with hopen | ⟨hlow, hhigh, -⟩
      · exact hopen
      · omega

/-- Three pulses in a packet of 12 frames at 96 kHz, which leaves as silence. -/
theorem slip_guard_mutes_packet :
    let cfg : TalkerMedia :=
      { capture :=
          { params :=
              { formatSubtype := avtpSubtype61883, channels := 1, bitDepth := 24,
                sampleRate := 96000, interval := 125 }
            captureRing := true }
        slipMute := true, resample := false, useSineWave := false, lut := fun _ => [],
        lutSamples := 1, table := fun _ => 0 }
    let st : TalkerAudio :=
      { TalkerAudio.init avbSrcInit 65536 with guard := { SlipGuard.init with armedPkts := 401 } }
    let loud : List UInt8 := [0x40, 0, 0, 0, 0, 0, 0, 0]
    let quiet : List UInt8 := [0, 0, 0, 0, 0, 0, 0, 0]
    let input : Nat → TalkerInput := fun _ =>
      { octets := (List.replicate 4 (loud ++ loud ++ quiet)).flatten, spp := 12, rateQ32 := 0,
        testTone := false }
    st.Episode cfg input 0 ∧
      st.sent cfg input 0 = (List.replicate 12 [0x40, 0, 0, 0]).flatten := by
  intro cfg st loud quiet input
  have hepisode : st.Episode cfg input 0 := by decide +kernel
  have hmutes := slip_guard_mutes cfg ⟨rfl, rfl, Nat.one_pos, ⟨Or.inl rfl, by decide⟩⟩ st
    ⟨rfl, rfl, rfl, rfl⟩ input 0
  exact ⟨hepisode, hmutes.2.1 ⟨0, le_rfl, hepisode, by decide⟩ rfl⟩

end EspAvb
