import EspAvb.CrfOut
import EspAvb.Lib.FloorGrid

/-!
# The CRF grid

The context's next timestamp and accumulator are the whole part and the rest of one tick of the
media clock. The anchor enters that grid and a step stays on it, so the state between two PDUs is
one number, the index of the tick that is due.
-/

namespace EspAvb

/-- When tick `n` of the media clock is, in whole nanoseconds. -/
def crfTime (n : Nat) : Nat := FloorGrid.time 1000000000 avbCrfBaseFreqHz.toNat n

/-- What it is past them, in parts of the clock's rate. -/
def crfRest (n : Nat) : Nat := FloorGrid.rest 1000000000 avbCrfBaseFreqHz.toNat n

/-- Ticks between two timestamps. -/
def crfInterval : Nat := 96

/-- The time a timestamp is to be near. -/
def Timespec.target (ts : Timespec) : Nat := ts.ns + avbCrfMaxTransitNs.toNat

/-- `e` stamps tick `n` where `due` is the tick the grid goes on to, if it was entered. -/
structure CrfEmissionAt (due : Option Nat) (n : Nat) (e : CrfEmission) : Prop where
  timestamp : e.slots.map Octets.toNat = [crfTime n]
  goes_on : e.anchored = false → due = some n
  anchored_iff : e.anchored = true ↔
    ∀ m, due = some m →
      (avbCrfGridResyncNs.toNat : Int) < |(crfTime m : Int) - (e.reading.target : Int)|
  le_anchor : e.anchored = true → e.reading.target ≤ crfTime n
  anchor_lt : e.anchored = true →
    (crfTime n - e.reading.target) * avbCrfBaseFreqHz.toNat < 1000000000

/-- The PDUs of a run stamp ticks of the media clock, each the one due or an anchor. -/
def CrfGrid (readings : List (Option Timespec)) : Prop :=
  ∃ index : Nat → Nat, ∀ i (h : i < (crfEmissions .start readings).length),
    CrfEmissionAt (if i = 0 then none else some (index (i - 1) + crfInterval)) (index i)
      (crfEmissions .start readings)[i]

/-- A reading from which no sum of the callback leaves 64 bits. -/
def Timespec.Representable (ts : Timespec) : Prop := ts.ns + 24000000 < 2 ^ 64

instance (ts : Timespec) : Decidable ts.Representable :=
  inferInstanceAs (Decidable (ts.ns + 24000000 < 2 ^ 64))

/-! ### The grid in the context -/

/-- What the start sets and nothing changes: the step is one of `crfInterval` ticks. -/
structure CrfOutCtx.Stepped (ctx : CrfOutCtx) : Prop where
  rate : ctx.rate = avbCrfBaseFreqHz
  stepNs : ctx.stepNs.toNat = crfTime crfInterval
  stepRem : ctx.stepRem.toNat = crfRest crfInterval

/-- The next timestamp is tick `n`. -/
structure CrfOutCtx.Due (ctx : CrfOutCtx) (n : Nat) : Prop where
  nextTsNs : ctx.nextTsNs.toNat = crfTime n
  fracAcc : ctx.fracAcc.toNat = crfRest n

/-- The state between two callbacks. -/
structure CrfOutCtx.Tracks (ctx : CrfOutCtx) (due : Option Nat) : Prop where
  stepped : ctx.Stepped
  gridValid : ctx.gridValid = due.isSome
  due : ∀ n, due = some n → ctx.Due n ∧ crfTime n + avbCrfGridResyncNs.toNat < 2 ^ 64

theorem crfOutCtx_start_tracks : CrfOutCtx.start.Tracks none where
  stepped := ⟨rfl, rfl, rfl⟩
  gridValid := rfl
  due := nofun

theorem crfTime_interval : crfTime crfInterval = 2000000 := by decide

theorem crfRest_lt (n : Nat) : crfRest n < 48000 := FloorGrid.rest_lt _ _ (by decide) n

theorem crfTime_add_interval (n : Nat) : crfTime (n + crfInterval) = crfTime n + 2000000 := by
  have hrest : crfRest crfInterval = 0 := by decide
  have hlt : crfRest n + crfRest crfInterval < avbCrfBaseFreqHz.toNat := by
    rw [hrest, Nat.add_zero]
    exact crfRest_lt n
  calc crfTime (n + crfInterval)
      = crfTime n + crfTime crfInterval := (FloorGrid.advance_of_lt _ _ hlt).1
    _ = crfTime n + 2000000 := by rw [crfTime_interval]

namespace CrfOutCtx

variable {ctx : CrfOutCtx}

theorem advance_due (hs : ctx.Stepped) {n : Nat} (h : ctx.Due n)
    (hfits : crfTime n + 2000001 < 2 ^ 64) : ctx.advance.Due (n + crfInterval) := by
  have hrest := crfRest_lt n
  have hstepRest := crfRest_lt crfInterval
  have hnext : (ctx.nextTsNs + ctx.stepNs.toUInt64).toNat = crfTime n + crfTime crfInterval := by
    rw [UInt64.toNat_add, h.nextTsNs, UInt32.toNat_toUInt64, hs.stepNs, crfTime_interval]
    exact Nat.mod_eq_of_lt (by omega)
  have hacc : (ctx.fracAcc + ctx.stepRem).toNat = crfRest n + crfRest crfInterval := by
    rw [UInt32.toNat_add, h.fracAcc, hs.stepRem]
    exact Nat.mod_eq_of_lt (by omega)
  unfold advance
  by_cases hcarry : ctx.rate ≤ ctx.fracAcc + ctx.stepRem
  · have hle : avbCrfBaseFreqHz.toNat ≤ crfRest n + crfRest crfInterval := by
      rw [← hs.rate, ← hacc]
      exact UInt32.le_iff_toNat_le.mp hcarry
    have hgrid : crfTime (n + crfInterval) = crfTime n + crfTime crfInterval + 1 ∧
        crfRest (n + crfInterval) = crfRest n + crfRest crfInterval - avbCrfBaseFreqHz.toNat :=
      FloorGrid.advance_of_le _ _ (by decide) hle
    rw [if_pos hcarry]
    constructor
    · calc (ctx.nextTsNs + ctx.stepNs.toUInt64 + 1).toNat
          = (crfTime n + crfTime crfInterval + 1) % 2 ^ 64 := by rw [UInt64.toNat_add, hnext]; rfl
        _ = crfTime n + crfTime crfInterval + 1 := Nat.mod_eq_of_lt (by rw [crfTime_interval]; omega)
        _ = crfTime (n + crfInterval) := hgrid.1.symm
    · calc (ctx.fracAcc + ctx.stepRem - ctx.rate).toNat
          = crfRest n + crfRest crfInterval - avbCrfBaseFreqHz.toNat := by
            rw [UInt32.toNat_sub_of_le _ _ hcarry, hacc, hs.rate]
        _ = crfRest (n + crfInterval) := hgrid.2.symm
  · have hlt : crfRest n + crfRest crfInterval < avbCrfBaseFreqHz.toNat := by
      rw [← hs.rate, ← hacc]
      exact UInt32.lt_iff_toNat_lt.mp (UInt32.not_le.mp hcarry)
    have hgrid : crfTime (n + crfInterval) = crfTime n + crfTime crfInterval ∧
        crfRest (n + crfInterval) = crfRest n + crfRest crfInterval :=
      FloorGrid.advance_of_lt _ _ hlt
    rw [if_neg hcarry]
    exact ⟨hnext.trans hgrid.1.symm, hacc.trans hgrid.2.symm⟩

theorem advance_stepped (hs : ctx.Stepped) : ctx.advance.Stepped := by
  unfold advance
  by_cases hcarry : ctx.rate ≤ ctx.fracAcc + ctx.stepRem
  · rw [if_pos hcarry]
    exact ⟨hs.rate, hs.stepNs, hs.stepRem⟩
  · rw [if_neg hcarry]
    exact ⟨hs.rate, hs.stepNs, hs.stepRem⟩

theorem advance_gridValid : ctx.advance.gridValid = ctx.gridValid := by
  unfold advance
  exact (apply_ite gridValid _ _ _).trans (ite_self _)

/-! ### The anchor -/

/-- The tick the anchor enters the grid at. -/
def firstTick (target : Nat) : Nat :=
  FloorGrid.firstTick 1000000000 avbCrfBaseFreqHz.toNat target

theorem firstTick_eq (target : Nat) : firstTick target = target / 1000000000 * 48000
    + (target % 1000000000 * 48000 + 999999999) / 1000000000 := rfl

/-- The seconds keep every intermediate of the anchor in 64 bits, whatever the target is. -/
theorem anchor_index (target : UInt64) :
    (target / 1000000000 * 48000 + (target % 1000000000 * 48000 + 999999999) / 1000000000).toNat
      = firstTick target.toNat := by
  have hlt := target.toNat_lt
  have hns : (target % 1000000000 * 48000 + 999999999).toNat
      = target.toNat % 1000000000 * 48000 + 999999999 := by
    simp only [UInt64.toNat_add, UInt64.toNat_mul, UInt64.toNat_mod, UInt64.reduceToNat]
    omega
  rw [firstTick_eq, ← hns]
  simp only [UInt64.toNat_add, UInt64.toNat_mul, UInt64.toNat_div, UInt64.reduceToNat]
  have := (target % 1000000000 * 48000 + 999999999).toNat_lt
  omega

/-- Whole seconds of ticks are whole nanoseconds, only the last second is divided. -/
theorem anchor_time {n : UInt64} (hfits : crfTime n.toNat < 2 ^ 64) :
    (n / 48000 * 1000000000 + n % 48000 * 1000000000 / 48000).toNat = crfTime n.toNat ∧
      (n % 48000 * 1000000000 % 48000).toUInt32.toNat = crfRest n.toNat := by
  have hturns : crfTime n.toNat
      = n.toNat / 48000 * 1000000000 + n.toNat % 48000 * 1000000000 / 48000 ∧
      crfRest n.toNat = n.toNat % 48000 * 1000000000 % 48000 :=
    FloorGrid.time_eq_turns _ _ (by decide) _
  have hrem : (n % 48000 * 1000000000).toNat = n.toNat % 48000 * 1000000000 := by
    simp only [UInt64.toNat_mul, UInt64.toNat_mod, UInt64.reduceToNat]
    omega
  rw [hturns.1] at hfits
  rw [hturns.1, hturns.2, ← hrem]
  constructor
  · rw [← hrem] at hfits
    simp only [UInt64.toNat_add, UInt64.toNat_mul, UInt64.toNat_div, UInt64.reduceToNat] at hfits ⊢
    omega
  · simp only [UInt64.toNat_toUInt32, UInt64.toNat_mod, UInt64.reduceToNat]
    omega

theorem le_crfTime_firstTick (target : Nat) : target ≤ crfTime (firstTick target) :=
  FloorGrid.le_time_firstTick _ _ (by decide) (by decide) target

theorem crfTime_firstTick_lt (target : Nat) :
    (crfTime (firstTick target) - target) * avbCrfBaseFreqHz.toNat < 1000000000 :=
  FloorGrid.time_firstTick_lt _ _ (by decide) (by decide) target

theorem crfTime_firstTick_le (target : Nat) : crfTime (firstTick target) ≤ target + 20833 := by
  have hperiod : (crfTime (firstTick target) - target) * 48000 < 1000000000 :=
    crfTime_firstTick_lt target
  omega

theorem anchor_due (hs : ctx.Stepped) {target : UInt64} (hfits : target.toNat + 20833 < 2 ^ 64) :
    (ctx.anchor target).Due (firstTick target.toNat) := by
  have hrate : ctx.rate.toUInt64 = 48000 := by rw [hs.rate]; rfl
  have hlast := crfTime_firstTick_le target.toNat
  rw [← anchor_index] at hlast ⊢
  obtain ⟨htime, hrest⟩ := anchor_time (lt_of_le_of_lt hlast hfits)
  unfold anchor
  rw [hrate]
  exact ⟨htime, hrest⟩

/-! ### One callback -/

theorem timespec_target_lt {ts : Timespec} (h : ts.Representable) :
    ts.target + 22000000 < 2 ^ 64 := by
  have hroom : ts.ns + 24000000 < 2 ^ 64 := h
  have htransit : avbCrfMaxTransitNs.toNat = 2000000 := rfl
  rw [Timespec.target, htransit, Nat.add_assoc]
  exact hroom

theorem toNat_target {ts : Timespec} (h : ts.Representable) :
    (ts.tvSec * 1000000000 + ts.tvNsec + avbCrfMaxTransitNs).toNat = ts.target := by
  have hfits : ts.tvSec.toNat * 1000000000 + ts.tvNsec.toNat + 24000000 < 2 ^ 64 := h
  calc (ts.tvSec * 1000000000 + ts.tvNsec + avbCrfMaxTransitNs).toNat
      = ((ts.tvSec.toNat * 1000000000 % 2 ^ 64 + ts.tvNsec.toNat) % 2 ^ 64 + 2000000) % 2 ^ 64 := by
        rw [UInt64.toNat_add, UInt64.toNat_add, UInt64.toNat_mul]
        rfl
    _ = ts.tvSec.toNat * 1000000000 + ts.tvNsec.toNat + 2000000 := by omega

/-- The grid is entered when it was not or when it is off by more than the limit. -/
theorem offGrid_iff {due : Option Nat} (h : ctx.Tracks due) (target : UInt64)
    (hfits : target.toNat + avbCrfGridResyncNs.toNat < 2 ^ 64) :
    ctx.offGrid target = true ↔ ∀ m, due = some m →
      (avbCrfGridResyncNs.toNat : Int) < |(crfTime m : Int) - (target.toNat : Int)| := by
  unfold offGrid
  rw [h.gridValid]
  cases due with
  | none => simp
  | some m =>
      obtain ⟨hdue, hroom⟩ := h.due m rfl
      have hahead : (target + avbCrfGridResyncNs).toNat
          = target.toNat + avbCrfGridResyncNs.toNat := by
        rw [UInt64.toNat_add]
        exact Nat.mod_eq_of_lt hfits
      have hbehind : (ctx.nextTsNs + avbCrfGridResyncNs).toNat
          = crfTime m + avbCrfGridResyncNs.toNat := by
        rw [UInt64.toNat_add, hdue.nextTsNs]
        exact Nat.mod_eq_of_lt hroom
      simp only [Option.isSome_some, Bool.not_true, Bool.false_or, Bool.or_eq_true, decide_eq_true_eq,
        UInt64.lt_iff_toNat_lt, hahead, hbehind, hdue.nextTsNs, Option.some.injEq, forall_eq', lt_abs]
      omega

theorem anchor_stepped (hs : ctx.Stepped) (target : UInt64) : (ctx.anchor target).Stepped := by
  unfold anchor
  constructor
  · exact hs.rate
  · exact hs.stepNs
  · exact hs.stepRem

/-- The timestamp that goes out is tick `n`, and the grid is left one interval further on. -/
theorem slots_due (hs : ctx.Stepped) {n : Nat} (h : ctx.Due n) (hvalid : ctx.gridValid = true)
    (hfits : crfTime n + 2000000 + avbCrfGridResyncNs.toNat < 2 ^ 64) :
    (ctx.slots avbCrfTsPerPdu).1.map Octets.toNat = [crfTime n] ∧
      (ctx.slots avbCrfTsPerPdu).2.Tracks (some (n + crfInterval)) := by
  constructor
  · calc (ctx.slots avbCrfTsPerPdu).1.map Octets.toNat
        = [(Octets.ofNat 8 ctx.nextTsNs.toNat).toNat] := rfl
      _ = [crfTime n % 256 ^ 8] := by rw [Octets.toNat_ofNat, h.nextTsNs]
      _ = [crfTime n] := by rw [Nat.mod_eq_of_lt (by omega)]
  · have hresync : avbCrfGridResyncNs.toNat = 10000000 := rfl
    have hdue := advance_due hs h (by omega)
    constructor
    · exact advance_stepped hs
    · exact advance_gridValid.trans hvalid
    · rintro m ⟨⟩
      refine ⟨hdue, ?_⟩
      have hstep := crfTime_add_interval n
      omega

/-- The tick the next PDU stamps: the one that is due, or the first one from the target on. -/
theorem resync_due {due : Option Nat} (h : ctx.Tracks due) {target : UInt64}
    (hfits : target.toNat + 22000000 < 2 ^ 64) :
    ∃ n, (ctx.resync target).Stepped ∧ (ctx.resync target).gridValid = true ∧
      (ctx.resync target).Due n ∧ crfTime n ≤ target.toNat + avbCrfGridResyncNs.toNat ∧
      (ctx.offGrid target = true → n = firstTick target.toNat) ∧
      (ctx.offGrid target = false → due = some n) := by
  have hresync : avbCrfGridResyncNs.toNat = 10000000 := rfl
  unfold resync
  cases hoff : ctx.offGrid target with
  | true =>
      have hlast := crfTime_firstTick_le target.toNat
      rw [if_pos rfl]
      refine ⟨firstTick target.toNat, anchor_stepped h.stepped target, rfl,
        anchor_due h.stepped (by omega), by omega, fun _ => rfl, ?_⟩
      intro hfalse
      cases hfalse
  | false =>
      rw [if_neg Bool.false_ne_true]
      have hnear := (offGrid_iff h target (by omega)).not.mp (ne_true_of_eq_false hoff)
      push Not at hnear
      obtain ⟨n, hdue, hnear⟩ := hnear
      have hvalid : ctx.gridValid = true := by rw [h.gridValid, hdue, Option.isSome_some]
      have hle : crfTime n ≤ target.toNat + avbCrfGridResyncNs.toNat := by
        rw [abs_le] at hnear
        omega
      refine ⟨n, h.stepped, hvalid, (h.due n hdue).1, hle, ?_, fun _ => hdue⟩
      intro htrue
      cases htrue

theorem resync_slots {due : Option Nat} (h : ctx.Tracks due) {target : UInt64}
    (hfits : target.toNat + 22000000 < 2 ^ 64) :
    ∃ n, ((ctx.resync target).slots avbCrfTsPerPdu).1.map Octets.toNat = [crfTime n] ∧
      ((ctx.resync target).slots avbCrfTsPerPdu).2.Tracks (some (n + crfInterval)) ∧
      (ctx.offGrid target = true → n = firstTick target.toNat) ∧
      (ctx.offGrid target = false → due = some n) := by
  have hresync : avbCrfGridResyncNs.toNat = 10000000 := rfl
  obtain ⟨n, hstepped, hvalid, hdue, hle, hanchor, hgoes⟩ := resync_due h hfits
  obtain ⟨hslots, htracks⟩ := slots_due hstepped hdue hvalid (by omega)
  exact ⟨n, hslots, htracks, hanchor, hgoes⟩

theorem Tracks.withSeqNum {due : Option Nat} (h : ctx.Tracks due) (seqNum : UInt8) :
    ({ ctx with seqNum } : CrfOutCtx).Tracks due where
  stepped := ⟨h.stepped.rate, h.stepped.stepNs, h.stepped.stepRem⟩
  gridValid := h.gridValid
  due := by
    intro n hn
    obtain ⟨hdue, hroom⟩ := h.due n hn
    exact ⟨⟨hdue.nextTsNs, hdue.fracAcc⟩, hroom⟩

end CrfOutCtx

/-- A callback with a reading sends one PDU, at the tick that is due or at an anchor. -/
theorem avbCrfSendCb_tracks {ctx : CrfOutCtx} {due : Option Nat} (h : ctx.Tracks due)
    {ts : Timespec} (hts : ts.Representable) :
    ∃ n e, (avbCrfSendCb ctx (some ts)).2 = some e ∧ CrfEmissionAt due n e ∧
      (avbCrfSendCb ctx (some ts)).1.Tracks (some (n + crfInterval)) := by
  have htarget := CrfOutCtx.toNat_target hts
  have hfits := CrfOutCtx.timespec_target_lt hts
  unfold avbCrfSendCb
  dsimp only
  generalize ts.tvSec * 1000000000 + ts.tvNsec + avbCrfMaxTransitNs = target at htarget ⊢
  rw [← htarget] at hfits
  have hresync : avbCrfGridResyncNs.toNat = 10000000 := rfl
  have hoff := CrfOutCtx.offGrid_iff h target (by omega)
  rw [htarget] at hoff
  obtain ⟨n, hslots, htracks, hanchor, hgoes⟩ := CrfOutCtx.resync_slots h hfits
  rw [htarget] at hanchor
  refine ⟨n, _, rfl, ?_, ?_⟩
  · constructor
    · exact hslots
    · exact hgoes
    · exact hoff
    · intro hanchored
      rw [hanchor hanchored]
      exact CrfOutCtx.le_crfTime_firstTick _
    · intro hanchored
      rw [hanchor hanchored]
      exact CrfOutCtx.crfTime_firstTick_lt _
  · exact htracks.withSeqNum _

/-! ### A run -/

/-- Each PDU of a run stamps the tick that is due behind the one before it, or an anchor. -/
theorem crfEmissions_at {ctx : CrfOutCtx} {due : Option Nat} (h : ctx.Tracks due)
    (readings : List (Option Timespec)) (hreadings : ∀ ts, some ts ∈ readings → ts.Representable) :
    ∃ index : Nat → Nat, ∀ i (hi : i < (crfEmissions ctx readings).length),
      CrfEmissionAt (if i = 0 then due else some (index (i - 1) + crfInterval)) (index i)
        (crfEmissions ctx readings)[i] := by
  induction readings generalizing ctx due with
  | nil => exact ⟨fun _ => 0, fun i hi => absurd hi (Nat.not_lt_zero i)⟩
  | cons reading readings ih =>
      have hrest : ∀ ts, some ts ∈ readings → ts.Representable := by
        intro ts hts
        exact hreadings ts (List.mem_cons_of_mem _ hts)
      cases reading with
      | none => exact ih h hrest
      | some ts =>
          obtain ⟨n, e, hsend, hat, htracks⟩ :=
            avbCrfSendCb_tracks h (hreadings ts List.mem_cons_self)
          obtain ⟨index, hindex⟩ := ih htracks hrest
          have hsplit : crfEmissions ctx (some ts :: readings)
              = e :: crfEmissions (avbCrfSendCb ctx (some ts)).1 readings := by
            rw [crfEmissions, hsend]
            rfl
          refine ⟨fun i => i.casesOn n index, ?_⟩
          rw [hsplit]
          intro i hi
          rcases i with _ | _ | i
          · exact hat
          · exact hindex 0 (Nat.lt_of_succ_lt_succ hi)
          · exact hindex (i + 1) (Nat.lt_of_succ_lt_succ hi)

/-- However many PDUs are sent and whatever the clock reads, they stamp ticks of one grid. -/
theorem crf_grid (readings : List (Option Timespec))
    (hreadings : ∀ ts, some ts ∈ readings → ts.Representable) : CrfGrid readings :=
  crfEmissions_at crfOutCtx_start_tracks readings hreadings

/-- A callback that is skipped, one that comes late and a step of the clock. -/
theorem crf_grid_steps : CrfGrid [some ⟨10, 999999999⟩, none, some ⟨11, 999⟩, some ⟨5, 0⟩] := by
  apply crf_grid
  intro ts hts
  simp only [List.mem_cons, Option.some.injEq, reduceCtorEq, List.not_mem_nil, or_false,
    false_or] at hts
  rcases hts with rfl | rfl | rfl <;> decide

/-- Near the end of 64 bits the target wraps, and the anchor lies before it. -/
theorem crf_grid_wraps : ¬ CrfGrid [some ⟨18446744073, 709551615⟩] := by
  rintro ⟨index, hindex⟩
  have hat := hindex 0 (by decide)
  have hstamp : [2000000] = [crfTime (index 0)] := hat.timestamp
  have hle := hat.le_anchor (by decide)
  rw [← List.singleton_injective hstamp] at hle
  exact absurd hle (by decide)

end EspAvb
