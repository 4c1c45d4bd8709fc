import EspAvb.Lib.Machine
import EspAvb.Pll

/-!
# The rate arithmetic of the servo

`compute_ppm_q16` in 64-bit integers: how far the octets of a window are from what its length lets
expect. It is right where the products fit, where at least one octet is expected, and where the
narrowing to 32 bits does not bring a far error back near zero. The octets expected are rounded down
to a whole number before they are compared, so the error found is the one against that number.
-/

namespace EspAvb

open Machine

/-- 65536 · 10⁶: one, in ppm in Q16. -/
def onePpmQ16 : Int := 65536 * 1000000

def FitsI64 (x : Int) : Prop := -2 ^ 63 ≤ x ∧ x < 2 ^ 63

theorem i64_of_fits {x : Int} (h : FitsI64 x) : i64 x = x := by
  unfold i64
  obtain ⟨hlow, hhigh⟩ := h
  exact Int.bmod_eq_of_le (by omega) (by omega)

/-- The narrowing takes a multiple of 2³² away. -/
theorem i32_spec (x : Int) :
    (∃ k, i32 x = x - k * 2 ^ 32) ∧ -2 ^ 31 ≤ i32 x ∧ i32 x < 2 ^ 31 := by
  unfold i32
  refine ⟨⟨Int.bdiv x (2 ^ 32), ?_⟩, ?_, ?_⟩
  · have h := Int.bdiv_add_bmod x (2 ^ 32)
    push_cast at h ⊢
    linarith
  · have h := @Int.le_bmod x (2 ^ 32) (by decide)
    omega
  · have h := @Int.bmod_lt x (2 ^ 32) (by decide)
    omega

theorem i32_eq_iff {x t : Int} (ht : |t| < 2 ^ 31) : i32 x = t ↔ (2 : Int) ^ 32 ∣ x - t := by
  obtain ⟨⟨k, hk⟩, hlow, hhigh⟩ := i32_spec x
  obtain ⟨htlow, hthigh⟩ := abs_lt.mp ht
  constructor
  · intro h
    exact ⟨k, by omega⟩
  · rintro ⟨j, hj⟩
    omega

theorem lt_abs_i32_iff {x limit : Int} (hlimit : limit < 2 ^ 31) :
    limit < |i32 x| ↔ ∀ k : Int, limit < |x - k * 2 ^ 32| := by
  obtain ⟨⟨j, hj⟩, hlow, hhigh⟩ := i32_spec x
  constructor
  · intro h k
    rw [lt_abs] at h ⊢
    omega
  · intro h
    rw [hj]
    exact h j

/-! ### The exact error -/

/-- Numerator and denominator of the exact error in ppm in Q16: the octets that came, less those the
byte rate gives for the time, by the latter. -/
def exactNum (byterate bytesDelta elapsedNs : Nat) : Int :=
  ((bytesDelta : Int) * 1000000000 - byterate * elapsedNs) * onePpmQ16

def exactDen (byterate elapsedNs : Nat) : Int := byterate * elapsedNs

/-- A window of no time in which octets came is off by more than any limit. -/
def ExactWithin (limit : Int) (byterate bytesDelta elapsedNs : Nat) : Prop :=
  |exactNum byterate bytesDelta elapsedNs| ≤ limit * exactDen byterate elapsedNs

def exactPpmQ16 (byterate bytesDelta elapsedNs : Nat) : Int :=
  (exactNum byterate bytesDelta elapsedNs).tdiv (exactDen byterate elapsedNs)

/-- The whole octets expected, and the error against them. -/
def expectedOctets (byterate elapsedNs : Nat) : Int := ((byterate * elapsedNs / 1000000000 : Nat) : Int)

def octetPpmQ16 (byterate bytesDelta elapsedNs : Nat) : Int :=
  ((bytesDelta - expectedOctets byterate elapsedNs) * onePpmQ16).tdiv
    (expectedOctets byterate elapsedNs)

/-- What `compute_ppm_q16` forms in 64 bits on its way. -/
def ppmIntermediates (byterate bytesDelta elapsedNs : Nat) : List Int :=
  [elapsedNs, byterate * elapsedNs, expectedOctets byterate elapsedNs, bytesDelta,
    bytesDelta - expectedOctets byterate elapsedNs,
    (bytesDelta - expectedOctets byterate elapsedNs) * 1000000,
    (bytesDelta - expectedOctets byterate elapsedNs) * 1000000 * 65536]

/-- The computation as it is meant, with the limit the tick compares with. -/
structure PpmSound (env : PllEnv) (limit : Int) (bytesDelta elapsedNs : Nat) : Prop where
  divisor : elapsedNs ≠ 0 → bytesDelta ≠ 0 →
    (i64 (byterateOf env * i64 elapsedNs)).tdiv 1000000000 ≠ 0
  noOverflow : elapsedNs ≠ 0 → bytesDelta ≠ 0 →
    ∀ x ∈ ppmIntermediates (byterateOf env) bytesDelta elapsedNs, FitsI64 x
  inside : ExactWithin limit (byterateOf env) bytesDelta elapsedNs →
    computePpmQ16 env bytesDelta elapsedNs = exactPpmQ16 (byterateOf env) bytesDelta elapsedNs
  outside : ¬ ExactWithin limit (byterateOf env) bytesDelta elapsedNs →
    limit < |computePpmQ16 env bytesDelta elapsedNs|

/-- Nothing came in no time; or octets came, at least one was expected, the products fit, and the
error against the whole octets expected is, modulo 2³², the exact one where that is within the limit
and off the limit where it is not. -/
def PpmWindowOk (limit : Int) (byterate bytesDelta elapsedNs : Nat) : Prop :=
  (bytesDelta = 0 ∧ elapsedNs = 0)
    ∨ (bytesDelta ≠ 0 ∧ 1000000000 ≤ byterate * elapsedNs ∧ byterate * elapsedNs < 2 ^ 63
      ∧ |(bytesDelta - expectedOctets byterate elapsedNs) * onePpmQ16| < 2 ^ 63
      ∧ (ExactWithin limit byterate bytesDelta elapsedNs →
        (2 : Int) ^ 32 ∣ octetPpmQ16 byterate bytesDelta elapsedNs
          - exactPpmQ16 byterate bytesDelta elapsedNs)
      ∧ (¬ ExactWithin limit byterate bytesDelta elapsedNs →
        ∀ k : Int, limit < |octetPpmQ16 byterate bytesDelta elapsedNs - k * 2 ^ 32|))

theorem byterateOf_pos (env : PllEnv) : 0 < byterateOf env := by
  unfold byterateOf
  split
  · decide
  · omega

/-- Where nothing overflows the result is the error against the whole octets, narrowed. -/
theorem computePpmQ16_eq {env : PllEnv} {bytesDelta elapsedNs : Nat} (helapsed : elapsedNs ≠ 0)
    (hbytes : bytesDelta ≠ 0)
    (hfits : ∀ x ∈ ppmIntermediates (byterateOf env) bytesDelta elapsedNs, FitsI64 x) :
    computePpmQ16 env bytesDelta elapsedNs
      = i32 (octetPpmQ16 (byterateOf env) bytesDelta elapsedNs) := by
  have hexpected : (i64 (byterateOf env * i64 elapsedNs)).tdiv 1000000000
      = expectedOctets (byterateOf env) elapsedNs := by
    rw [i64_of_fits (hfits elapsedNs (by simp [ppmIntermediates])),
      i64_of_fits (hfits (byterateOf env * elapsedNs) (by simp [ppmIntermediates]))]
    unfold expectedOctets
    push_cast
    exact Int.tdiv_eq_ediv_of_nonneg (by positivity)
  unfold computePpmQ16
  rw [if_neg (by simp [helapsed, hbytes])]
  dsimp only
  rw [hexpected, i64_of_fits (hfits bytesDelta (by simp [ppmIntermediates])),
    i64_of_fits (hfits (bytesDelta - expectedOctets (byterateOf env) elapsedNs)
      (by simp [ppmIntermediates])),
    i64_of_fits (hfits ((bytesDelta - expectedOctets (byterateOf env) elapsedNs) * 1000000 * 65536)
      (by simp [ppmIntermediates]))]
  have hscale : ∀ x : Int, x * 1000000 * 65536 = x * onePpmQ16 := by
    intro x
    unfold onePpmQ16
    ring
  rw [hscale]
  rfl

theorem intermediates_fit_iff {byterate bytesDelta elapsedNs : Nat} (hbyterate : 0 < byterate) :
    (∀ x ∈ ppmIntermediates byterate bytesDelta elapsedNs, FitsI64 x)
      ↔ byterate * elapsedNs < 2 ^ 63
        ∧ |(bytesDelta - expectedOctets byterate elapsedNs) * onePpmQ16| < 2 ^ 63 := by
  have helapsed : elapsedNs ≤ byterate * elapsedNs := Nat.le_mul_of_pos_left elapsedNs hbyterate
  have hexpected : expectedOctets byterate elapsedNs
      = ((byterate * elapsedNs / 1000000000 : Nat) : Int) := rfl
  have hle := Nat.div_mul_le_self (byterate * elapsedNs) 1000000000
  simp only [ppmIntermediates, List.forall_mem_cons, List.not_mem_nil, false_imp_iff,
    implies_true, and_true, FitsI64, onePpmQ16, abs_lt, ← Nat.cast_mul]
  generalize byterate * elapsedNs = product at helapsed hexpected hle ⊢
  rw [hexpected]
  generalize product / 1000000000 = expected at hle ⊢
  constructor
  · rintro ⟨-, ⟨-, hproduct⟩, -, -, -, -, hlow, hhigh⟩
    refine ⟨?_, ?_, ?_⟩ <;> omega
  · rintro ⟨hproduct, hlow, hhigh⟩
    refine ⟨?_, ?_, ?_, ?_, ?_, ?_, ?_⟩ <;> omega

theorem exactPpmQ16_le {limit : Int} {byterate bytesDelta elapsedNs : Nat} (hlimit : 0 ≤ limit)
    (h : ExactWithin limit byterate bytesDelta elapsedNs) :
    |exactPpmQ16 byterate bytesDelta elapsedNs| ≤ limit := by
  unfold ExactWithin exactPpmQ16 at *
  have hden : 0 ≤ exactDen byterate elapsedNs := by
    unfold exactDen
    positivity
  generalize exactNum byterate bytesDelta elapsedNs = num at *
  generalize exactDen byterate elapsedNs = den at *
  rw [Int.abs_eq_natAbs, Int.natAbs_tdiv]
  rw [Int.abs_eq_natAbs] at h
  have hnat : num.natAbs ≤ limit.natAbs * den.natAbs := by
    zify
    rw [abs_of_nonneg hlimit, abs_of_nonneg hden, ← Int.natCast_natAbs]
    exact h
  have hdiv : num.natAbs.div den.natAbs ≤ limit.natAbs :=
    Nat.div_le_of_le_mul (by rwa [Nat.mul_comm])
  calc ((num.natAbs.div den.natAbs : Nat) : Int) ≤ (limit.natAbs : Int) := by exact_mod_cast hdiv
    _ = limit := Int.natAbs_of_nonneg hlimit

/-- A window without octets is off by all of it. -/
theorem not_exactWithin_of_none {limit : Int} {byterate elapsedNs : Nat} (hlimit : limit < 2 ^ 31)
    (hbyterate : 0 < byterate) (helapsed : elapsedNs ≠ 0) :
    ¬ ExactWithin limit byterate 0 elapsedNs := by
  unfold ExactWithin exactNum exactDen onePpmQ16
  have hden : 0 < (byterate : Int) * elapsedNs := by positivity
  generalize (byterate : Int) * elapsedNs = den at hden ⊢
  rw [not_le, lt_abs]
  right
  push_cast
  nlinarith

theorem not_exactWithin_of_instant {limit : Int} {byterate bytesDelta : Nat}
    (hbytes : bytesDelta ≠ 0) : ¬ ExactWithin limit byterate bytesDelta 0 := by
  unfold ExactWithin exactNum exactDen onePpmQ16
  rw [not_le, lt_abs]
  left
  push_cast
  simp
  omega

theorem ppm_sound_iff_of_limit {env : PllEnv} {limit : Int} (hnonneg : 0 ≤ limit)
    (hlimit : limit < 2 ^ 31) (bytesDelta elapsedNs : Nat) :
    PpmSound env limit bytesDelta elapsedNs
      ↔ PpmWindowOk limit (byterateOf env) bytesDelta elapsedNs := by
  have hbyterate := byterateOf_pos env
  by_cases helapsed : elapsedNs = 0
  · subst helapsed
    have hzero : computePpmQ16 env bytesDelta 0 = 0 := by
      unfold computePpmQ16
      rw [if_pos (Or.inl rfl)]
    by_cases hbytes : bytesDelta = 0
    · subst hbytes
      refine ⟨fun _ => Or.inl ⟨rfl, rfl⟩, fun _ => ⟨fun h => absurd rfl h, fun h => absurd rfl h, ?_, ?_⟩⟩
      · intro _
        rw [hzero]
        simp [exactPpmQ16, exactDen]
      · intro houtside
        exact absurd (by simp [ExactWithin, exactNum, exactDen]) houtside
    · constructor
      · intro hsound
        have hout := hsound.outside (not_exactWithin_of_instant hbytes)
        rw [hzero, abs_zero] at hout
        omega
      · rintro (⟨hnone, -⟩ | ⟨-, hexpected, -⟩)
        · exact absurd hnone hbytes
        · omega
  by_cases hbytes : bytesDelta = 0
  · subst hbytes
    have hzero : computePpmQ16 env 0 elapsedNs = 0 := by
      unfold computePpmQ16
      rw [if_pos (Or.inr rfl)]
    constructor
    · intro hsound
      have hout := hsound.outside (not_exactWithin_of_none hlimit hbyterate helapsed)
      rw [hzero, abs_zero] at hout
      omega
    · rintro (⟨-, hnone⟩ | ⟨hsome, -⟩)
      · exact absurd hnone helapsed
      · exact absurd rfl hsome
  · have hfit := @intermediates_fit_iff (byterateOf env) bytesDelta elapsedNs hbyterate
    constructor
    · rintro ⟨hdivisor, hoverflow, hinside, houtside⟩
      have hfits := hoverflow helapsed hbytes
      obtain ⟨hproduct, hscaled⟩ := hfit.mp hfits
      have heq := computePpmQ16_eq helapsed hbytes hfits
      rw [heq] at hinside houtside
      refine Or.inr ⟨hbytes, ?_, hproduct, hscaled, ?_, ?_⟩
      · have hdiv := hdivisor helapsed hbytes
        rw [i64_of_fits (hfits elapsedNs (by simp [ppmIntermediates])),
          i64_of_fits (hfits (byterateOf env * elapsedNs) (by simp [ppmIntermediates])),
          ← Nat.cast_mul] at hdiv
        by_contra hnone
        apply hdiv
        exact Int.tdiv_eq_zero_of_lt (by positivity) (by omega)
      · intro hwithin
        exact (i32_eq_iff (lt_of_le_of_lt (exactPpmQ16_le hnonneg hwithin) hlimit)).mp
          (hinside hwithin)
      · intro hnot
        exact (lt_abs_i32_iff hlimit).mp (houtside hnot)
    · rintro (⟨hnone, -⟩ | ⟨-, hexpected, hproduct, hscaled, hinside, houtside⟩)
      · exact absurd hnone hbytes
      · have hfits := hfit.mpr ⟨hproduct, hscaled⟩
        have heq := computePpmQ16_eq helapsed hbytes hfits
        refine ⟨?_, fun _ _ => hfits, ?_, ?_⟩
        · intro _ _
          rw [i64_of_fits (hfits elapsedNs (by simp [ppmIntermediates])),
            i64_of_fits (hfits (byterateOf env * elapsedNs) (by simp [ppmIntermediates])),
            Int.tdiv_eq_ediv_of_nonneg (by positivity)]
          omega
        · intro hwithin
          rw [heq]
          exact (i32_eq_iff (lt_of_le_of_lt (exactPpmQ16_le hnonneg hwithin) hlimit)).mpr
            (hinside hwithin)
        · intro hnot
          rw [heq]
          exact (lt_abs_i32_iff hlimit).mpr (houtside hnot)

theorem sanityLimitQ16_range {cfg : PllConfig} (hmax : cfg.maxPpm ≤ 300) (mode : PllMode) :
    0 ≤ sanityLimitQ16 cfg mode ∧ sanityLimitQ16 cfg mode < 2 ^ 31 := by
  unfold sanityLimitQ16 PllConfig.maxAppliedPpmQ16 avbPllCumulSanityLimitPpmQ16 ppmQ16
  split <;> constructor <;> omega

/-- The windows a tick in state `st` measures: since the last tick, and since the baseline. -/
def pllWindows (cfg : PllConfig) (env : PllEnv) (st : PllState) : List (Nat × Nat) :=
  if env.nowUs < st.nextPrintUs then []
  else
    match pllReferenceGate env (pllDue cfg env st) with
    | .done _ => []
    | .next st =>
        match readSample cfg env st with
        | (_, none) => []
        | (st', some (bytes, ns)) =>
            match pllSeed env (pllMode cfg env st) bytes ns st' with
            | .done _ => []
            | .next st =>
                [(subU64 bytes st.prevBytes, subU64 ns st.prevNs),
                  (subU64 bytes st.baseBytes, subU64 ns st.baseNs)]

def crfConfig : PllConfig :=
  { apll := true, apllMinHz := 0, maxPpm := 150, correctionIntervalS := 30,
    autoCrfClockSource := false, streamClockRecovery := false }

/-- A tick on the CRF reference. -/
def crfTick (nowUs : Int) (crfNs bytes : Nat) : PllEnv :=
  { nowUs
    gptpNs := some crfNs
    crfAnchor := some (crfNs, bytes)
    clockSourceValid := true
    btcId := .zero 8
    streamInActive := true
    crfStreamValid := true
    streamRefHeld := false
    streamPhase := none
    streamPhaseEpoch := 0
    streamRefEpoch := 0
    streamAnchor := none
    pair := fun _ => none
    listenerByterate := 288000
    adcErrorStampMs := 0
    adcErrorPpmQ8 := 0
    coeffCalc := fun hz => hz }

end EspAvb
