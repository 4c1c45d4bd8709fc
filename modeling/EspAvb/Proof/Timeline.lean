import EspAvb.Lib.Machine
import EspAvb.Proof.PllRate
import EspAvb.Timeline

/-!
# The books of the timeline

Every accumulator but one keeps what it does not yet pass on, so each sum is the exact one less what
is carried. The cadence takes whole nanoseconds of the lock's correction and leaves the rest behind
with every packet; what it has left behind is on the books too.
-/

namespace EspAvb

open Machine

variable {params : TimelineParams}

theorem i32_of_small {x : Int} (hlow : -2 ^ 31 ≤ x) (hhigh : x < 2 ^ 31) : i32 x = x := by
  obtain ⟨⟨k, hk⟩, hlow', hhigh'⟩ := i32_spec x
  omega

/-! ### One packet -/

/-- The part of a nanosecond that a packet leaves of the lock's correction. -/
def CadenceCorrection.dropped (c : CadenceCorrection) : Int := c.schedNsAdjQ16 % 65536

def cadenceNsQ16 (params : TimelineParams) (c : CadenceCorrection) : Int :=
  params.interval * 1000 * 65536 + c.schedNsAdjQ16 + c.fillAdjQ16

theorem interval_range (params : TimelineParams) : 125 ≤ params.interval ∧ params.interval ≤ 250 := by
  obtain h | h := params.interval_eq <;> omega

structure CarriesInRange (st : TimelineState) : Prop where
  fill : 0 ≤ st.fillFracQ16 ∧ st.fillFracQ16 < 65536
  carry : -1000 < st.schedNsCarry ∧ st.schedNsCarry < 1000
  base : st.tsBaseFracQ16 < 65536
  rate : 0 ≤ st.tsRateFracQ16 ∧ st.tsRateFracQ16 < 65536

/-- What a packet adds to the send time, with both carries, is the exact interval less the part
dropped. -/
theorem cadence_books (c : CadenceCorrection) {st : TimelineState} (h : CarriesInRange st) :
    ((timelineCadence params c st).nextSendTime * 1000
          + (timelineCadence params c st).schedNsCarry) * 65536
        + (timelineCadence params c st).fillFracQ16
      = (st.nextSendTime * 1000 + st.schedNsCarry) * 65536 + st.fillFracQ16
        + cadenceNsQ16 params c - c.dropped
      ∧ 0 ≤ (timelineCadence params c st).fillFracQ16
      ∧ (timelineCadence params c st).fillFracQ16 < 65536
      ∧ -1000 < (timelineCadence params c st).schedNsCarry
      ∧ (timelineCadence params c st).schedNsCarry < 1000 := by
  obtain ⟨hfill, hcarry, -, -⟩ := h
  have hsched := abs_le.mp c.sched_le
  have hadj := abs_le.mp c.fill_le
  have hinterval := interval_range params
  unfold nsQ16 at hsched hadj
  unfold timelineCadence cadenceNsQ16 CadenceCorrection.dropped
  dsimp only
  rw [@i32_of_small c.fillAdjQ16 (by omega) (by omega),
    @i32_of_small (st.fillFracQ16 + c.fillAdjQ16) (by omega) (by omega)]
  generalize hns : (st.fillFracQ16 + c.fillAdjQ16) / 65536 = fillNs
  generalize hadjNs : c.schedNsAdjQ16 / 65536 = adjNs
  generalize htotal : (params.interval * 1000 + adjNs + fillNs + st.schedNsCarry : Int) = totalNs
  have hrange : -2 ^ 31 ≤ totalNs ∧ totalNs < 2 ^ 31 := by
    constructor <;> omega
  have hdivision := Int.mul_tdiv_add_tmod totalNs 1000
  have hpos := Int.tmod_lt_of_pos totalNs (show (0 : Int) < 1000 by decide)
  have hneg := Int.lt_tmod_of_pos totalNs (show (0 : Int) < 1000 by decide)
  have hwait : -2 ^ 31 ≤ totalNs.tdiv 1000 ∧ totalNs.tdiv 1000 < 2 ^ 31 := by
    constructor <;> omega
  rw [i32_of_small hwait.1 hwait.2,
    @i32_of_small (st.fillFracQ16 + c.fillAdjQ16 - fillNs * 65536) (by omega) (by omega),
    @i32_of_small (totalNs - totalNs.tdiv 1000 * 1000) (by omega) (by omega)]
  refine ⟨?_, ?_, ?_, ?_, ?_⟩ <;> omega

theorem sppDen_pos (params : TimelineParams) : 0 < params.sppDen := by
  unfold TimelineParams.sppDen
  obtain h | h := params.interval_eq <;> rw [h] <;> decide

/-- The packets of a second, and the interval of each, make up the second. -/
theorem sppDen_mul_interval (params : TimelineParams) : params.sppDen * params.interval = 1000000 := by
  unfold TimelineParams.sppDen
  obtain h | h := params.interval_eq <;> rw [h]

theorem spp_books (params : TimelineParams) {sppAcc : Nat} (h : sppAcc < params.sppDen) :
    (timelineSpp params sppAcc).1 * params.sppDen + (timelineSpp params sppAcc).2
        = sppAcc + params.sampleRate
      ∧ (timelineSpp params sppAcc).2 < params.sppDen := by
  have hrate := Nat.div_add_mod params.sampleRate params.sppDen
  have hrem := Nat.mod_lt params.sampleRate (sppDen_pos params)
  unfold timelineSpp TimelineParams.sppBase TimelineParams.sppRem
  dsimp only
  split
  · dsimp only
    rw [Nat.add_mul, Nat.one_mul, Nat.mul_comm]
    omega
  · dsimp only
    rw [Nat.mul_comm]
    omega

theorem uint32_ofInt_natCast (k : Nat) : UInt32.ofInt (k : Int) = UInt32.ofNat k := by
  apply UInt32.toNat_inj.mp
  simp [UInt32.ofInt]
  omega

/-- What a packet adds to the media clock, with both carries. -/
theorem media_books (c : CadenceCorrection) {st : TimelineState} (h : CarriesInRange st) :
    (timelineMedia params c st).rateTsNs * 65536 + (timelineMedia params c st).tsBaseFracQ16
        + (timelineMedia params c st).tsRateFracQ16
      = st.rateTsNs * 65536 + st.tsBaseFracQ16 + st.tsRateFracQ16
        + ((timelineSpp params st.sppAcc).1 * params.nsPerSampleQ16 : Nat) + c.tsRateCorrQ16
      ∧ (timelineMedia params c st).tsBaseFracQ16 < 65536
      ∧ 0 ≤ (timelineMedia params c st).tsRateFracQ16
      ∧ (timelineMedia params c st).tsRateFracQ16 < 65536
      ∧ (timelineMedia params c st).avtpMediaTs
        = st.avtpMediaTs
          + UInt32.ofInt ((timelineMedia params c st).rateTsNs - st.rateTsNs) := by
  obtain ⟨-, -, hbase, hrate⟩ := h
  have hcorr := abs_le.mp c.rate_le
  unfold nsQ16 at hcorr
  unfold timelineMedia
  dsimp only
  rw [@i32_of_small (st.tsRateFracQ16 + c.tsRateCorrQ16) (by omega) (by omega)]
  generalize (timelineSpp params st.sppAcc).1 * params.nsPerSampleQ16 = step
  generalize hns : (st.tsRateFracQ16 + c.tsRateCorrQ16) / 65536 = wholeNs
  rw [@i32_of_small (st.tsRateFracQ16 + c.tsRateCorrQ16 - wholeNs * 65536) (by omega) (by omega)]
  refine ⟨?_, ?_, ?_, ?_, ?_⟩
  · omega
  · omega
  · omega
  · omega
  · have hadvance : st.rateTsNs + ((st.tsBaseFracQ16 + step) / 65536 : Nat) + wholeNs - st.rateTsNs
        = (((st.tsBaseFracQ16 + step) / 65536 : Nat) : Int) + wholeNs := by
      ring
    rw [hadvance, UInt32.ofInt_add, UInt32.add_assoc, uint32_ofInt_natCast]

/-! ### A run of packets -/

/-- The state after the packets of `cs`, against the exact sums. -/
structure TimelineBooks (params : TimelineParams) (start : TimelineState)
    (cs : List CadenceCorrection) (st : TimelineState) : Prop where
  inRange : CarriesInRange st
  acc_lt : st.sppAcc < params.sppDen
  samples : st.rateSamples * params.sppDen + st.sppAcc = cs.length * params.sampleRate
  cadence : (st.nextSendTime - start.nextSendTime) * 1000 * 65536 + st.schedNsCarry * 65536
      + st.fillFracQ16 + (cs.map CadenceCorrection.dropped).sum
    = (cs.map (cadenceNsQ16 params)).sum
  media : st.rateTsNs * 65536 + st.tsBaseFracQ16 + st.tsRateFracQ16
    = (st.rateSamples * params.nsPerSampleQ16 : Nat) + (cs.map (·.tsRateCorrQ16)).sum
  stamp : st.avtpMediaTs = start.avtpMediaTs + UInt32.ofInt st.rateTsNs

theorem timelineStep_books {start st : TimelineState} {cs : List CadenceCorrection}
    (h : TimelineBooks params start cs st) (c : CadenceCorrection) :
    TimelineBooks params start (cs ++ [c]) (timelineStep params st c) := by
  obtain ⟨hrange, hacc, hsamples, hcadence, hmedia, hstamp⟩ := h
  obtain ⟨hsum, hfill, hfill', hcarry, hcarry'⟩ := @cadence_books params c st hrange
  have hrange' : CarriesInRange (timelineCadence params c st) :=
    ⟨⟨hfill, hfill'⟩, ⟨hcarry, hcarry'⟩, hrange.base, hrange.rate⟩
  obtain ⟨hts, hbase, hrate, hrate', hstamp'⟩ := @media_books params c (timelineCadence params c st) hrange'
  obtain ⟨hspp, hspp'⟩ := spp_books params hacc
  have hcount : (timelineStep params st c).rateSamples
      = st.rateSamples + (timelineSpp params st.sppAcc).1 := rfl
  have haccumulator : (timelineStep params st c).sppAcc = (timelineSpp params st.sppAcc).2 := rfl
  refine ⟨⟨⟨hfill, hfill'⟩, ⟨hcarry, hcarry'⟩, hbase, ⟨hrate, hrate'⟩⟩, hspp', ?_, ?_, ?_, ?_⟩
  · rw [hcount, haccumulator, List.length_append, List.length_singleton, Nat.add_mul, Nat.add_mul]
    omega
  · rw [List.map_append, List.map_append, List.sum_append, List.sum_append, List.map_singleton,
      List.map_singleton, List.sum_singleton, List.sum_singleton, ← hcadence]
    have hnext : (timelineStep params st c).nextSendTime
        = (timelineCadence params c st).nextSendTime := rfl
    have hcarryEq : (timelineStep params st c).schedNsCarry
        = (timelineCadence params c st).schedNsCarry := rfl
    have hfillEq : (timelineStep params st c).fillFracQ16
        = (timelineCadence params c st).fillFracQ16 := rfl
    rw [hnext, hcarryEq, hfillEq]
    linarith
  · rw [List.map_append, List.sum_append, List.map_singleton, List.sum_singleton, hcount,
      Nat.add_mul, Nat.cast_add]
    have hstep : timelineStep params st c = timelineMedia params c (timelineCadence params c st) :=
      rfl
    have hkept : (timelineCadence params c st).rateTsNs = st.rateTsNs
        ∧ (timelineCadence params c st).tsBaseFracQ16 = st.tsBaseFracQ16
        ∧ (timelineCadence params c st).tsRateFracQ16 = st.tsRateFracQ16
        ∧ (timelineCadence params c st).sppAcc = st.sppAcc := ⟨rfl, rfl, rfl, rfl⟩
    rw [hstep, hts, hkept.1, hkept.2.1, hkept.2.2.1, hkept.2.2.2]
    linarith
  · have hstep : timelineStep params st c = timelineMedia params c (timelineCadence params c st) :=
      rfl
    have hkept : (timelineCadence params c st).rateTsNs = st.rateTsNs
        ∧ (timelineCadence params c st).avtpMediaTs = st.avtpMediaTs := ⟨rfl, rfl⟩
    rw [hstep, hstamp', hkept.1, hkept.2, hstamp, UInt32.add_assoc, ← UInt32.ofInt_add]
    congr 2
    ring

theorem timeline_books (params : TimelineParams) (nextSendTime : Int) (avtpMediaTs : UInt32)
    (cs : List CadenceCorrection) :
    TimelineBooks params (.start nextSendTime avtpMediaTs) cs
      (run (timelineStep params) (.start nextSendTime avtpMediaTs) cs) := by
  induction cs using List.reverseRecOn with
  | nil =>
      have hrange : CarriesInRange (.start nextSendTime avtpMediaTs) := by
        constructor <;> simp [TimelineState.start]
      refine ⟨hrange, sppDen_pos params, ?_, ?_, ?_, ?_⟩
      · simp [TimelineState.start]
      · simp [TimelineState.start]
      · simp [TimelineState.start]
      · exact (UInt32.add_zero avtpMediaTs).symm
  | append_singleton cs c ih =>
      rw [run_append]
      exact timelineStep_books ih c

/-! ### The timeline as it is meant -/

/-- After the packets of `cs`, all sums in Q16 nanoseconds. `kept` is the send time with what the
cadence carries over to the next packet. -/
structure TimelineMeets (params : TimelineParams) (start : TimelineState)
    (cs : List CadenceCorrection) : Prop where
  samples : (run (timelineStep params) start cs).rateSamples
    = cs.length * (params.sampleRate * params.interval) / 1000000
  media : |((run (timelineStep params) start cs).rateSamples * params.nsPerSampleQ16 : Nat)
      + (cs.map (·.tsRateCorrQ16)).sum - (run (timelineStep params) start cs).rateTsNs * 65536|
    < 2 * nsQ16
  stamp : (run (timelineStep params) start cs).avtpMediaTs
    = start.avtpMediaTs + UInt32.ofInt (run (timelineStep params) start cs).rateTsNs
  send : |(cs.map (cadenceNsQ16 params)).sum
      - ((run (timelineStep params) start cs).nextSendTime - start.nextSendTime) * 1000 * 65536|
    ≤ 1000 * nsQ16
  kept : (cs.map (cadenceNsQ16 params)).sum
    = (((run (timelineStep params) start cs).nextSendTime - start.nextSendTime) * 1000
        + (run (timelineStep params) start cs).schedNsCarry) * 65536
      + (run (timelineStep params) start cs).fillFracQ16

theorem dropped_nonneg (c : CadenceCorrection) : 0 ≤ c.dropped := Int.emod_nonneg _ (by decide)

theorem sum_dropped_eq_zero_iff (cs : List CadenceCorrection) :
    (cs.map CadenceCorrection.dropped).sum = 0 ↔ ∀ c ∈ cs, (65536 : Int) ∣ c.schedNsAdjQ16 := by
  induction cs with
  | nil => simp
  | cons c cs ih =>
      have hrest : 0 ≤ (cs.map CadenceCorrection.dropped).sum := by
        apply List.sum_nonneg
        intro x hx
        obtain ⟨c', -, rfl⟩ := List.mem_map.mp hx
        exact dropped_nonneg c'
      have hfirst := dropped_nonneg c
      have hdvd : (65536 : Int) ∣ c.schedNsAdjQ16 ↔ c.dropped = 0 := Int.dvd_iff_emod_eq_zero
      rw [List.map_cons, List.sum_cons, List.forall_mem_cons, ← ih, hdvd]
      omega

/-- Samples and timestamps are always exact; the cadence is exactly where the lock's correction is
in whole nanoseconds on every packet. -/
theorem timeline_exact_iff (params : TimelineParams) (nextSendTime : Int) (avtpMediaTs : UInt32)
    (cs : List CadenceCorrection) :
    TimelineMeets params (.start nextSendTime avtpMediaTs) cs
      ↔ ∀ c ∈ cs, (65536 : Int) ∣ c.schedNsAdjQ16 := by
  obtain ⟨⟨hfill, hcarry, hbase, hrate⟩, hacc, hsamples, hcadence, hmedia, hstamp⟩ :=
    timeline_books params nextSendTime avtpMediaTs cs
  rw [← sum_dropped_eq_zero_iff]
  constructor
  · intro hmeets
    have hkept := hmeets.kept
    linarith
  · intro hdropped
    rw [hdropped] at hcadence
    refine ⟨?_, ?_, hstamp, ?_, ?_⟩
    · have hfloor : (run (timelineStep params) (.start nextSendTime avtpMediaTs) cs).rateSamples
          = cs.length * params.sampleRate / params.sppDen := by
        rw [← hsamples, Nat.add_comm, Nat.add_mul_div_right _ _ (sppDen_pos params),
          Nat.div_eq_of_lt hacc, Nat.zero_add]
      have hinterval := interval_range params
      calc (run (timelineStep params) (.start nextSendTime avtpMediaTs) cs).rateSamples
          = cs.length * params.sampleRate / params.sppDen := hfloor
        _ = cs.length * params.sampleRate * params.interval / (params.sppDen * params.interval) :=
          (Nat.mul_div_mul_right _ _ (by omega)).symm
        _ = cs.length * (params.sampleRate * params.interval) / 1000000 := by
          rw [sppDen_mul_interval, Nat.mul_assoc]
    · rw [abs_lt]
      unfold nsQ16
      omega
    · rw [abs_le]
      unfold nsQ16
      omega
    · linarith

/-- Half a nanosecond a packet. -/
def halfNs : CadenceCorrection :=
  { schedNsAdjQ16 := 32768, fillAdjQ16 := 0, tsRateCorrQ16 := 0, sched_le := by decide,
    fill_le := by decide, rate_le := by decide }

def classA48k : TimelineParams :=
  { sampleRate := 48000, interval := 125, rate_pos := by decide, rate_lt := by decide,
    interval_eq := by decide }

/-- None of it is ever waited. -/
theorem timeline_drops_half :
    ¬ ∀ (params : TimelineParams) (nextSendTime : Int) (avtpMediaTs : UInt32)
      (cs : List CadenceCorrection), TimelineMeets params (.start nextSendTime avtpMediaTs) cs := by
  intro h
  have hsend := (h classA48k 0 0 (List.replicate 5000 halfNs)).send
  obtain ⟨⟨⟨hfill, -⟩, ⟨hcarry, -⟩, -, -⟩, -, -, hcadence, -, -⟩ :=
    timeline_books classA48k 0 0 (List.replicate 5000 halfNs)
  have hdropped : ((List.replicate 5000 halfNs).map CadenceCorrection.dropped).sum
      = 5000 * 32768 := by
    rw [List.map_replicate, List.sum_replicate]
    decide
  have hlate := (abs_le.mp hsend).2
  unfold nsQ16 at hlate
  omega

end EspAvb
