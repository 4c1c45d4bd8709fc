import EspAvb.Fqtss

/-!
# What the shaper lets out

A class is charged for each octet it sends and its credit never leaves a band of one MTU to either
side. What it sends over a window is paid by what it earns in it and by the width of that band.
-/

namespace EspAvb

variable {numPorts : Nat}

/-- 802.1Qav credit is counted in 1/256 octets, and the slope in bits for each second. -/
def fqtssPerByte : Int := 8 * 1000000

def fqtssBytes (frames : List FqtssFrame) : Int := (frames.map fun f => (f.length.toNat : Int)).sum

theorem fqtssBytes_append (frames : List FqtssFrame) (f : FqtssFrame) :
    fqtssBytes (frames ++ [f]) = fqtssBytes frames + f.length.toNat := by
  simp [fqtssBytes]

/-! ### One class -/

/-- A class and its logs. -/
structure FqtssLog where
  c : FqtssClassState
  accepted : List FqtssFrame
  sent : List FqtssFrame
  offered : Int

def FqtssRun.at (r : FqtssRun numPorts) (p : Fin numPorts) (cl : Fin avbSrClassCount) : FqtssLog :=
  { c := r.classes p cl, accepted := r.accepted p cl, sent := r.sent p cl, offered := r.offered p cl }

/-- The product of a credit update fits the `int64_t` it is computed in. -/
def FqtssFits (r : FqtssRun numPorts) : FqtssEvent numPorts → Prop
  | .advance p cl dtUs => (r.classes p cl).idleSlopeBps * dtUs < 2 ^ 63
  | _ => True

/-- What a step does to a class. -/
inductive FqtssMove (fits : Prop) (l : FqtssLog) : FqtssLog → Prop
  | stay : FqtssMove fits l l
  | accept (f : FqtssFrame) (hlength : f.length.toNat ≤ fqtssMtuBytes) : FqtssMove fits l
      { l with c := { l.c with queue := l.c.queue ++ [f] }, accepted := l.accepted ++ [f] }
  | slope (bps : Nat) : FqtssMove fits l { l with c := { l.c with idleSlopeBps := bps } }
  | rate (linkRateBps : Int) : FqtssMove fits l { l with c := { l.c with linkRateBps } }
  | advance (dtUs : Nat) (hfits : fits → l.c.idleSlopeBps * dtUs < 2 ^ 63) : FqtssMove fits l
      { l with c := fqtssCreditAdvance l.c dtUs, offered := l.offered + l.c.idleSlopeBps * dtUs }
  | send (c : FqtssClassState) (f : FqtssFrame) (hsend : fqtssTrySendOne l.c = (c, some f)) :
      FqtssMove fits l { l with c, sent := l.sent ++ [f] }

theorem FqtssTable.modify_self {α : Type} (table : FqtssTable numPorts α) (p : Fin numPorts)
    (cl : Fin avbSrClassCount) (f : α → α) : table.modify p cl f p cl = f (table p cl) :=
  if_pos ⟨rfl, rfl⟩

theorem FqtssTable.modify_of_ne {α : Type} (table : FqtssTable numPorts α) {p q : Fin numPorts}
    {cl dl : Fin avbSrClassCount} (h : ¬(q = p ∧ dl = cl)) (f : α → α) :
    table.modify p cl f q dl = table q dl :=
  if_neg h

/-- An accepted frame is queued, a refused one changes nothing. -/
theorem avbFqtssEnqueue_cases (s : FqtssTable numPorts FqtssClassState) (portIndex srClass : Int)
    (frame : List UInt8) (allocated : Bool) :
    ((avbFqtssEnqueue s portIndex srClass frame allocated).2 ≠ 0 ∧
        (avbFqtssEnqueue s portIndex srClass frame allocated).1 = s) ∨
      ∃ p cl, fqtssEntry numPorts portIndex srClass = some (p, cl) ∧ frame.length ≤ fqtssMtuBytes ∧
        avbFqtssEnqueue s portIndex srClass frame allocated =
          (s.modify p cl fun cs => { cs with queue := cs.queue ++ [fqtssFrame p cl frame] }, 0) := by
  unfold avbFqtssEnqueue
  cases hentry : fqtssEntry numPorts portIndex srClass with
  | none => exact Or.inl ⟨by simp, rfl⟩
  | some entry =>
      obtain ⟨p, cl⟩ := entry
      dsimp only
      split_ifs with hlength hslope hallocated hfull
      · exact Or.inl ⟨by simp, rfl⟩
      · exact Or.inl ⟨by simp, rfl⟩
      · exact Or.inl ⟨by simp, rfl⟩
      · exact Or.inl ⟨by simp, rfl⟩
      · exact Or.inr ⟨p, cl, rfl, not_lt.mp (not_or.mp hlength).2, rfl⟩

/-- An attempt sends the head of the queue or changes nothing. -/
theorem fqtssTrySendOne_none {c c' : FqtssClassState} (h : fqtssTrySendOne c = (c', none)) :
    c' = c := by
  unfold fqtssTrySendOne at h
  split at h
  · cases h
    rfl
  · split at h
    · cases h
      rfl
    · cases h

theorem fqtssStep_move (r : FqtssRun numPorts) (e : FqtssEvent numPorts) (q : Fin numPorts)
    (dl : Fin avbSrClassCount) : FqtssMove (FqtssFits r e) (r.at q dl) ((fqtssStep r e).at q dl) := by
  cases e with
  | enqueue portIndex srClass frame allocated =>
      unfold fqtssStep FqtssRun.at
      dsimp only
      rcases avbFqtssEnqueue_cases r.classes portIndex srClass frame allocated with
        ⟨hresult, hsame⟩ | ⟨p, cl, hentry, hlength, heq⟩
      · rw [hsame, if_neg fun h => hresult h.1]
        exact .stay
      · rw [heq, hentry]
        dsimp only
        by_cases hat : q = p ∧ dl = cl
        · obtain ⟨rfl, rfl⟩ := hat
          rw [FqtssTable.modify_self, if_pos ⟨rfl, rfl⟩]
          apply FqtssMove.accept
          rw [fqtssFrame, UInt16.toNat_ofNat']
          exact (Nat.mod_le _ _).trans hlength
        · rw [FqtssTable.modify_of_ne _ hat, if_neg]
          · exact .stay
          · rintro ⟨-, hsame⟩
            cases hsame
            exact hat ⟨rfl, rfl⟩
  | setIdleSlope portIndex srClass idleSlopeBps =>
      unfold fqtssStep FqtssRun.at avbFqtssSetIdleSlope
      dsimp only
      cases fqtssEntry numPorts portIndex srClass with
      | none => exact .stay
      | some entry =>
          obtain ⟨p, cl⟩ := entry
          dsimp only
          split_ifs
          · exact .stay
          · dsimp only
            by_cases hat : q = p ∧ dl = cl
            · obtain ⟨rfl, rfl⟩ := hat
              rw [FqtssTable.modify_self]
              exact .slope idleSlopeBps
            · rw [FqtssTable.modify_of_ne _ hat]
              exact .stay
  | setLinkRate portIndex linkRateBps =>
      unfold fqtssStep FqtssRun.at avbFqtssSetLinkRate
      dsimp only
      split_ifs with hport hneg
      · exact .stay
      · by_cases hat : q = ⟨portIndex.toNat, by omega⟩
        · subst hat
          dsimp only
          rw [Function.update_self]
          exact .rate linkRateBps
        · dsimp only
          rw [Function.update_of_ne hat]
          exact .stay
      · exact .stay
  | advance p cl dtUs =>
      unfold fqtssStep FqtssRun.at
      dsimp only
      by_cases hat : q = p ∧ dl = cl
      · obtain ⟨rfl, rfl⟩ := hat
        rw [FqtssTable.modify_self, FqtssTable.modify_self]
        exact .advance dtUs id
      · rw [FqtssTable.modify_of_ne _ hat, FqtssTable.modify_of_ne _ hat]
        exact .stay
  | trySend p cl =>
      unfold fqtssStep FqtssRun.at
      dsimp only
      by_cases hat : q = p ∧ dl = cl
      · obtain ⟨rfl, rfl⟩ := hat
        rw [FqtssTable.modify_self, FqtssTable.modify_self]
        cases hsend : fqtssTrySendOne (r.classes q dl) with
        | mk c frame =>
            cases frame with
            | none =>
                obtain rfl := fqtssTrySendOne_none hsend
                rw [Option.toList_none, List.append_nil]
                exact .stay
            | some f => exact .send c f hsend
      · rw [FqtssTable.modify_of_ne _ hat, FqtssTable.modify_of_ne _ hat]
        exact .stay

/-! ### The worker's turn is a part of a run -/

theorem fqtssTrySendOne_some {c c' : FqtssClassState} {f : FqtssFrame}
    (h : fqtssTrySendOne c = (c', some f)) : c.queue = f :: c'.queue := by
  unfold fqtssTrySendOne at h
  split at h
  · cases h
  · rename_i head rest hqueue
    split at h
    · cases h
    · cases h
      exact hqueue

/-- The loop ends because it sends nothing more. -/
theorem fqtssDrain_rests {fuel : Nat} {c : FqtssClassState} (hfuel : c.queue.length ≤ fuel) :
    (fqtssTrySendOne (fqtssDrain fuel c).1).2 = none := by
  induction fuel generalizing c with
  | zero =>
      have hqueue : c.queue = [] := List.length_eq_zero_iff.mp (Nat.le_zero.mp hfuel)
      simp [fqtssDrain, fqtssTrySendOne, hqueue]
  | succ fuel ih =>
      unfold fqtssDrain
      rcases hsend : fqtssTrySendOne c with ⟨c', _ | f⟩
      · obtain rfl := fqtssTrySendOne_none hsend
        exact congrArg Prod.snd hsend
      · apply ih
        rw [fqtssTrySendOne_some hsend, List.length_cons] at hfuel
        exact Nat.le_of_succ_le_succ hfuel

theorem FqtssTable.modify_modify {α : Type} (table : FqtssTable numPorts α) (p : Fin numPorts)
    (cl : Fin avbSrClassCount) (f g : α → α) :
    (table.modify p cl f).modify p cl g = table.modify p cl (g ∘ f) := by
  funext q dl
  by_cases hat : q = p ∧ dl = cl
  · obtain ⟨rfl, rfl⟩ := hat
    rw [modify_self, modify_self, modify_self, Function.comp_apply]
  · rw [modify_of_ne _ hat, modify_of_ne _ hat, modify_of_ne _ hat]

theorem FqtssTable.modify_congr {α : Type} (table : FqtssTable numPorts α) (p : Fin numPorts)
    (cl : Fin avbSrClassCount) {f g : α → α} (h : f (table p cl) = g (table p cl)) :
    table.modify p cl f = table.modify p cl g := by
  funext q dl
  by_cases hat : q = p ∧ dl = cl
  · obtain ⟨rfl, rfl⟩ := hat
    rw [modify_self, modify_self, h]
  · rw [modify_of_ne _ hat, modify_of_ne _ hat]

theorem fqtssDrain_of_none {c : FqtssClassState} (h : (fqtssTrySendOne c).2 = none) (fuel : Nat) :
    fqtssDrain fuel c = (c, []) := by
  cases fuel with
  | zero => rfl
  | succ fuel =>
      unfold fqtssDrain
      rcases hsend : fqtssTrySendOne c with ⟨c', _ | f⟩
      · rw [fqtssTrySendOne_none hsend]
      · rw [hsend] at h
        cases h

/-- Attempts in a row do what the loop does. -/
theorem fqtssDrain_run (fuel : Nat) (r : FqtssRun numPorts) (p : Fin numPorts)
    (cl : Fin avbSrClassCount) : Machine.run fqtssStep r (List.replicate fuel (.trySend p cl)) =
      { r with
        classes := r.classes.modify p cl fun c => (fqtssDrain fuel c).1
        sent := r.sent.modify p cl (· ++ (fqtssDrain fuel (r.classes p cl)).2) } := by
  induction fuel generalizing r with
  | zero =>
      have hclasses : r.classes.modify p cl (fun c => (fqtssDrain 0 c).1) = r.classes := by
        funext q dl
        exact ite_eq_right_iff.mpr fun h => by rw [h.1, h.2]; rfl
      have hsent : r.sent.modify p cl (· ++ (fqtssDrain 0 (r.classes p cl)).2) = r.sent := by
        funext q dl
        refine ite_eq_right_iff.mpr fun h => ?_
        rw [h.1, h.2]
        exact List.append_nil _
      rw [hclasses, hsent]
      rfl
  | succ fuel ih =>
      rw [List.replicate_succ, Machine.run_cons, ih, fqtssStep]
      dsimp only
      rw [FqtssTable.modify_modify, FqtssTable.modify_modify, FqtssTable.modify_self]
      congr 1
      · apply FqtssTable.modify_congr
        rw [Function.comp_apply]
        rcases hsend : fqtssTrySendOne (r.classes p cl) with ⟨c', _ | f⟩
        · obtain rfl := fqtssTrySendOne_none hsend
          rw [fqtssDrain_of_none (congrArg Prod.snd hsend), fqtssDrain_of_none (congrArg Prod.snd hsend)]
        · rw [fqtssDrain, hsend]
      · apply FqtssTable.modify_congr
        rw [Function.comp_apply, List.append_assoc]
        rcases hsend : fqtssTrySendOne (r.classes p cl) with ⟨c', _ | f⟩
        · obtain rfl := fqtssTrySendOne_none hsend
          rw [fqtssDrain_of_none (congrArg Prod.snd hsend), fqtssDrain_of_none (congrArg Prod.snd hsend)]
          rfl
        · rw [fqtssDrain, hsend]
          rfl

/-- A class's turn in a tick is a credit update and attempts of one run. -/
theorem fqtssWorkerTurn_run (r : FqtssRun numPorts) (p : Fin numPorts) (cl : Fin avbSrClassCount)
    (dtUs : Nat) :
    let turn := fqtssWorkerTurn (r.classes p cl) dtUs
    let r' := Machine.run fqtssStep r (.advance p cl dtUs ::
      List.replicate (r.classes p cl).queue.length (.trySend p cl))
    r'.classes p cl = turn.1 ∧ r'.sent p cl = r.sent p cl ++ turn.2 ∧
      (fqtssTrySendOne turn.1).2 = none := by
  intro turn r'
  have hlength : (fqtssCreditAdvance (r.classes p cl) dtUs).queue.length =
      (r.classes p cl).queue.length := rfl
  have hrun : r' = _ := fqtssDrain_run (r.classes p cl).queue.length
    (fqtssStep r (.advance p cl dtUs)) p cl
  rw [hrun]
  refine ⟨?_, ?_, fqtssDrain_rests le_rfl⟩
  · simp only [FqtssTable.modify_self, fqtssStep]
    rfl
  · simp only [FqtssTable.modify_self, fqtssStep]
    rfl

/-! ### What every run keeps -/

def fqtssBand : Int := fqtssMtuBytes * 256

/-- The limits of the credit are one MTU to either side, what is queued fits an MTU, and what was
accepted left or is queued, in that order. -/
structure FqtssLog.Sound (l : FqtssLog) : Prop where
  max_eq : l.c.creditMaxX256Bytes = fqtssBand
  min_eq : l.c.creditMinX256Bytes = -fqtssBand
  slope_nonneg : 0 ≤ l.c.idleSlopeBps
  credit_le : l.c.creditX256Bytes ≤ fqtssBand
  length_le : ∀ f ∈ l.c.queue, f.length.toNat ≤ fqtssMtuBytes
  fifo : l.accepted = l.sent ++ l.c.queue

theorem i64_of_lt {x : Int} (hlow : -(2 ^ 63) ≤ x) (hhigh : x < 2 ^ 63) : i64 x = x :=
  Int.bmod_eq_of_le (by omega) (by omega)

/-- A frame leaves from the head of the queue, and is charged in full: the credit is not negative, so
one MTU does not take it below its minimum. -/
theorem FqtssLog.Sound.send {l : FqtssLog} (h : l.Sound) {c : FqtssClassState} {f : FqtssFrame}
    (hsend : fqtssTrySendOne l.c = (c, some f)) : 0 ≤ l.c.creditX256Bytes ∧
      f.length.toNat ≤ fqtssMtuBytes ∧ ∃ rest, l.c.queue = f :: rest ∧
      c = { l.c with queue := rest, creditX256Bytes := l.c.creditX256Bytes - f.length.toNat * 256 } := by
  unfold fqtssTrySendOne at hsend
  cases hqueue : l.c.queue with
  | nil =>
      rw [hqueue] at hsend
      cases hsend
  | cons head rest =>
      rw [hqueue] at hsend
      dsimp only at hsend
      by_cases hcredit : l.c.creditX256Bytes < 0
      · rw [if_pos hcredit] at hsend
        cases hsend
      · rw [if_neg hcredit] at hsend
        have hlength := h.length_le head (hqueue ▸ List.mem_cons_self)
        have hle := h.credit_le
        have hfloor : -fqtssBand ≤ l.c.creditX256Bytes - head.length.toNat * 256 := by
          simp only [fqtssBand, fqtssMtuBytes] at hlength ⊢
          omega
        have hfits : i64 (l.c.creditX256Bytes - head.length.toNat * 256) =
            l.c.creditX256Bytes - head.length.toNat * 256 := by
          simp only [fqtssBand, fqtssMtuBytes] at hfloor hle
          exact i64_of_lt (by omega) (by omega)
        rw [hfits, if_neg (not_lt.mpr (h.min_eq ▸ hfloor))] at hsend
        cases hsend
        exact ⟨not_lt.mp hcredit, hlength, rest, rfl, rfl⟩

theorem FqtssMove.sound {fits : Prop} {l l' : FqtssLog} (hmove : FqtssMove fits l l') (h : l.Sound) :
    l'.Sound := by
  cases hmove with
  | stay => exact h
  | accept f hlength =>
      refine { h with length_le := ?_, fifo := ?_ }
      · intro g hg
        rcases List.mem_append.mp hg with hg | hg
        · exact h.length_le g hg
        · rw [List.mem_singleton.mp hg]
          exact hlength
      · rw [h.fifo, List.append_assoc]
  | slope bps => exact { h with slope_nonneg := Int.natCast_nonneg bps }
  | rate linkRateBps => exact { h with }
  | advance dtUs hfits =>
      refine { h with credit_le := ?_ }
      unfold fqtssCreditAdvance
      dsimp only
      split_ifs with hmax
      · exact h.max_eq.le
      · rw [← h.max_eq]
        exact not_lt.mp hmax
  | send c f hsend =>
      obtain ⟨hcredit, hlength, rest, hqueue, rfl⟩ := h.send hsend
      have hle := h.credit_le
      refine { h with credit_le := ?_, length_le := ?_, fifo := ?_ }
      · dsimp only
        omega
      · intro g hg
        exact h.length_le g (hqueue ▸ List.mem_cons_of_mem f hg)
      · rw [h.fifo, hqueue, List.append_assoc]
        rfl

/-- A class earns at most what it is offered, and nothing beyond the band. -/
theorem FqtssLog.Sound.advance {l : FqtssLog} (h : l.Sound) (hband : -fqtssBand ≤ l.c.creditX256Bytes)
    {dtUs : Nat} (hfits : l.c.idleSlopeBps * dtUs < 2 ^ 63) :
    l.c.creditX256Bytes ≤ (fqtssCreditAdvance l.c dtUs).creditX256Bytes ∧
      31250 * ((fqtssCreditAdvance l.c dtUs).creditX256Bytes - l.c.creditX256Bytes) ≤
        l.c.idleSlopeBps * dtUs := by
  have hle := h.credit_le
  have hproduct : 0 ≤ l.c.idleSlopeBps * dtUs := mul_nonneg h.slope_nonneg (Int.natCast_nonneg _)
  unfold fqtssCreditAdvance
  rw [h.max_eq]
  dsimp only
  rw [i64_of_lt (by omega) hfits, Int.tdiv_eq_ediv_of_nonneg hproduct]
  generalize l.c.idleSlopeBps * dtUs = product at hproduct hfits
  simp only [fqtssBand, fqtssMtuBytes] at hband hle ⊢
  rw [i64_of_lt (by omega) (by omega)]
  split_ifs <;> constructor <;> omega

/-- Since `l`, what left and the credit that is left over are paid by what was offered. -/
structure FqtssLog.Paid (l l' : FqtssLog) : Prop where
  band : -fqtssBand ≤ l'.c.creditX256Bytes
  paid : fqtssPerByte * (fqtssBytes l'.sent - fqtssBytes l.sent)
    + 31250 * (l'.c.creditX256Bytes - l.c.creditX256Bytes) ≤ l'.offered - l.offered

theorem FqtssMove.paid {fits : Prop} {l₀ l l' : FqtssLog} (hmove : FqtssMove fits l l') (h : l.Sound)
    (hfits : fits) (hpaid : l₀.Paid l) : l₀.Paid l' := by
  have hband := hpaid.band
  have hbook := hpaid.paid
  cases hmove with
  | stay => exact hpaid
  | accept f hlength => exact ⟨hband, hbook⟩
  | slope bps => exact ⟨hband, hbook⟩
  | rate linkRateBps => exact ⟨hband, hbook⟩
  | advance dtUs hproduct =>
      obtain ⟨hearned, hoffered⟩ := h.advance hband (hproduct hfits)
      constructor
      · exact hband.trans hearned
      · dsimp only
        linarith
  | send c f hsend =>
      obtain ⟨hcredit, hlength, rest, hqueue, rfl⟩ := h.send hsend
      constructor
      · dsimp only
        simp only [fqtssBand, fqtssMtuBytes] at hlength ⊢
        omega
      · dsimp only
        rw [fqtssBytes_append]
        simp only [fqtssPerByte] at hbook ⊢
        linarith

/-! ### Runs -/

def fqtssRun (medium : Fin numPorts → AvbPortMedium) (events : List (FqtssEvent numPorts)) :
    FqtssRun numPorts :=
  Machine.run fqtssStep (.start medium) events

/-- The frames of a class leave in the order they were accepted, none lost or duplicated, and the
minimum of the credit never changes what a frame is charged. -/
structure FqtssInOrder (r : FqtssRun numPorts) (p : Fin numPorts) (cl : Fin avbSrClassCount) :
    Prop where
  fifo : r.accepted p cl = r.sent p cl ++ (r.classes p cl).queue
  charged : ∀ c f, fqtssTrySendOne (r.classes p cl) = (c, some f) →
    c.creditX256Bytes = (r.classes p cl).creditX256Bytes - f.length.toNat * 256

/-- The credit keeps within an MTU, and over each window of the run the class sends at most what its
slopes offer in the window, and two MTUs. -/
structure FqtssShaped (medium : Fin numPorts → AvbPortMedium) (events : List (FqtssEvent numPorts))
    (p : Fin numPorts) (cl : Fin avbSrClassCount) : Prop where
  credit : |((fqtssRun medium events).classes p cl).creditX256Bytes| ≤ fqtssMtuBytes * 256
  bytes : ∀ first window, events = first ++ window →
    fqtssPerByte * (fqtssBytes ((fqtssRun medium events).sent p cl)
        - fqtssBytes ((fqtssRun medium first).sent p cl))
      ≤ ((fqtssRun medium events).offered p cl - (fqtssRun medium first).offered p cl)
        + fqtssPerByte * (2 * fqtssMtuBytes)

theorem FqtssRun.start_sound (medium : Fin numPorts → AvbPortMedium) (p : Fin numPorts)
    (cl : Fin avbSrClassCount) : ((FqtssRun.start medium).at p cl).Sound where
  max_eq := rfl
  min_eq := rfl
  slope_nonneg := le_rfl
  credit_le := by simp [FqtssRun.start, FqtssRun.at, avbFqtssInit, fqtssBand]
  length_le := by
    intro f hf
    cases hf
  fifo := rfl

theorem fqtssRun_sound (medium : Fin numPorts → AvbPortMedium) (events : List (FqtssEvent numPorts))
    (p : Fin numPorts) (cl : Fin avbSrClassCount) : ((fqtssRun medium events).at p cl).Sound := by
  refine Machine.run_invariant (fun r : FqtssRun numPorts => (r.at p cl).Sound) ?_ (FqtssRun.start_sound medium p cl) events
  intro r e h
  exact (fqtssStep_move r e p cl).sound h

/-- Over a run whose products fit. -/
theorem FqtssLog.Paid.run {r : FqtssRun numPorts} {p : Fin numPorts} {cl : Fin avbSrClassCount}
    {events : List (FqtssEvent numPorts)} (hsound : (r.at p cl).Sound)
    (hband : -fqtssBand ≤ (r.at p cl).c.creditX256Bytes)
    (hfits : Machine.RunMeets FqtssFits fqtssStep r events) :
    (r.at p cl).Paid ((Machine.run fqtssStep r events).at p cl) := by
  refine (hfits.invariant (fun r' => (r'.at p cl).Sound ∧ (r.at p cl).Paid (r'.at p cl)) ?_
    ⟨hsound, hband, by simp⟩).2
  rintro r' e hfit ⟨hsound', hpaid⟩
  have hmove := fqtssStep_move r' e p cl
  exact ⟨hmove.sound hsound', hmove.paid hsound' hfit hpaid⟩

theorem fqtss_shaped {medium : Fin numPorts → AvbPortMedium} {events : List (FqtssEvent numPorts)}
    (hfits : Machine.RunMeets FqtssFits fqtssStep (.start medium) events) (p : Fin numPorts)
    (cl : Fin avbSrClassCount) : FqtssShaped medium events p cl := by
  have hband : ∀ first : List (FqtssEvent numPorts),
      Machine.RunMeets FqtssFits fqtssStep (.start medium) first →
        -fqtssBand ≤ ((fqtssRun medium first).at p cl).c.creditX256Bytes := fun first hfirst =>
    (FqtssLog.Paid.run (FqtssRun.start_sound medium p cl)
      (by simp [FqtssRun.start, FqtssRun.at, avbFqtssInit, fqtssBand]) hfirst).band
  constructor
  · exact abs_le.mpr ⟨hband events hfits, (fqtssRun_sound medium events p cl).credit_le⟩
  · rintro first window rfl
    have hpaid := FqtssLog.Paid.run (fqtssRun_sound medium first p cl)
      (hband first hfits.of_append_left) hfits.of_append
    rw [fqtssRun, ← Machine.run_append] at hpaid
    have hlow := hpaid.band
    have hhigh := (fqtssRun_sound medium first p cl).credit_le
    have hbook := hpaid.paid
    simp only [FqtssRun.at, fqtssRun, fqtssPerByte, fqtssBand, fqtssMtuBytes] at *
    omega

/-- The order of the frames and their charge hold in every run, the credit's limits and the bound on
what is sent in every run in which the products of the credit updates fit. -/
theorem fqtss_conforms (medium : Fin numPorts → AvbPortMedium) (events : List (FqtssEvent numPorts))
    (p : Fin numPorts) (cl : Fin avbSrClassCount) : FqtssInOrder (fqtssRun medium events) p cl ∧
      (Machine.RunMeets FqtssFits fqtssStep (.start medium) events →
        FqtssShaped medium events p cl) := by
  have hsound := fqtssRun_sound medium events p cl
  refine ⟨⟨hsound.fifo, fun c f hsend => ?_⟩, fun hfits => fqtss_shaped hfits p cl⟩
  obtain ⟨-, -, rest, -, rfl⟩ := hsound.send hsend
  rfl

/-- A frame of two octets over a gigabit port, with a slope of 8 Mb/s. -/
theorem fqtss_conforms_wired :
    FqtssShaped (fun _ : Fin 1 => .ethHwts)
      [.setIdleSlope 0 0 8000000, .enqueue 0 0 [1, 2] true,
        .advance ⟨0, Nat.one_pos⟩ ⟨0, Nat.two_pos⟩ 1000, .trySend ⟨0, Nat.one_pos⟩ ⟨0, Nat.two_pos⟩]
      ⟨0, Nat.one_pos⟩ ⟨0, Nat.two_pos⟩ := by
  apply (fqtss_conforms _ _ _ _).2
  have hfits : (8000000 : Int) * (1000 : Nat) < 2 ^ 63 := by norm_num
  exact ⟨trivial, trivial, hfits, trivial, trivial⟩

/-- A Wi-Fi port has no link rate at first and takes any slope. -/
def fqtssOverflow : List (FqtssEvent 1) :=
  [.setIdleSlope 0 0 (2 ^ 62), .advance ⟨0, Nat.one_pos⟩ ⟨0, Nat.two_pos⟩ 2]

theorem fqtss_overflows : ¬ ∀ (medium : Fin 1 → AvbPortMedium) (events : List (FqtssEvent 1))
    (p : Fin 1) (cl : Fin avbSrClassCount),
      FqtssInOrder (fqtssRun medium events) p cl ∧ FqtssShaped medium events p cl := by
  intro h
  have hcredit := (h (fun _ => .wifiFtm) fqtssOverflow ⟨0, Nat.one_pos⟩ ⟨0, Nat.two_pos⟩).2.credit
  revert hcredit
  decide

end EspAvb
