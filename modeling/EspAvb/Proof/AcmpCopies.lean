import EspAvb.AcmpCopies

/-!
# An ACMP message is answered once

A message is passed over exactly when it is one of the last eight that were taken, again, less than
100 ms later. So each command is answered once, its copies are not, and a retry is.
-/

namespace EspAvb

namespace AcmpCopies

variable {own : UniqueId} {arrivals : Nat → AcmpArrival} {n : Nat}

/-- The messages taken before message `n`, in order. -/
def taken (own : UniqueId) (arrivals : Nat → AcmpArrival) (n : Nat) : List Nat :=
  (List.range n).filter (handled own arrivals)

/-- Those of them that are still kept. -/
def kept (own : UniqueId) (arrivals : Nat → AcmpArrival) (n : Nat) : List Nat :=
  (taken own arrivals n).drop ((taken own arrivals n).length - acmpRecentCount)

theorem taken_succ (n : Nat) : taken own arrivals (n + 1)
    = taken own arrivals n ++ if handled own arrivals n then [n] else [] := by
  rw [taken, List.range_succ, List.filter_append, taken, List.filter_singleton, Bool.cond_eq_ite]

theorem mem_taken {m : Nat} :
    m ∈ taken own arrivals n ↔ m < n ∧ handled own arrivals m = true := by
  rw [taken, List.mem_filter, List.mem_range]

/-- The ring has the messages last taken, and zero times behind them. -/
structure Follows (own : UniqueId) (arrivals : Nat → AcmpArrival) (n : Nat) (s : AcmpCopies) : Prop where
  nextRecent : s.nextRecent = (taken own arrivals n).length % acmpRecentCount
  held : ∀ j m, (taken own arrivals n)[j]? = some m →
    (taken own arrivals n).length ≤ j + acmpRecentCount →
      s.recent (j % acmpRecentCount) = acmpMessage (arrivals m).frame ∧
        s.recentUs (j % acmpRecentCount) = (arrivals m).nowUs
  unused : ∀ i, (taken own arrivals n).length ≤ i → s.recentUs i = 0

theorem follows_init : Follows own arrivals 0 init where
  nextRecent := rfl
  held := fun j m h => by cases h
  unused := fun _ _ => rfl

/-- A message is found in the ring when it is among those kept. -/
theorem Follows.keeps_iff {s : AcmpCopies} (h : Follows own arrivals n s)
    (hclock : ∀ m, 0 < (arrivals m).nowUs) (nowUs : Int) (msg : Buf) :
    s.keeps nowUs msg = true ↔
      ∃ m ∈ kept own arrivals n, nowUs - (arrivals m).nowUs < acmpCopyWindowUs ∧
        acmpMessage (arrivals m).frame = msg := by
  have hheld := h.held
  rw [keeps, kept, List.any_eq_true]
  simp only [acmpRecentCount] at hheld ⊢
  constructor
  · rintro ⟨i, hi, hfound⟩
    rw [List.mem_range] at hi
    obtain ⟨hused, hnear, hsame⟩ := of_decide_eq_true hfound
    have hlt : i < (taken own arrivals n).length := by
      by_contra hout
      exact hused (h.unused i (Nat.le_of_not_lt hout))
    set j := i + 8 * (((taken own arrivals n).length - 1 - i) / 8) with hj
    have hin : j < (taken own arrivals n).length := by omega
    have hcell : j % 8 = i := by omega
    obtain ⟨hmsg, hus⟩ := hheld j _ (List.getElem?_eq_getElem hin) (by omega)
    rw [hcell] at hmsg hus
    refine ⟨_, ?_, hus ▸ hnear, hmsg.symm.trans hsame⟩
    rw [List.mem_iff_getElem?]
    refine ⟨j - ((taken own arrivals n).length - 8), ?_⟩
    rw [List.getElem?_drop, Nat.add_sub_cancel' (by omega), List.getElem?_eq_getElem hin]
  · rintro ⟨m, hm, hnear, hsame⟩
    obtain ⟨i, hi⟩ := List.mem_iff_getElem?.mp hm
    rw [List.getElem?_drop] at hi
    obtain ⟨hmsg, hus⟩ := hheld _ _ hi (by omega)
    refine ⟨((taken own arrivals n).length - 8 + i) % 8, List.mem_range.mpr (Nat.mod_lt _ (by omega)),
      decide_eq_true ⟨?_, ?_, ?_⟩⟩
    · rw [hus]
      exact (hclock m).ne'
    · rw [hus]
      exact hnear
    · rw [hmsg]
      exact hsame

theorem Follows.same {s : AcmpCopies} (h : Follows own arrivals n s)
    (hpassed : handled own arrivals n = false) : Follows own arrivals (n + 1) s := by
  have htaken : taken own arrivals (n + 1) = taken own arrivals n := by
    rw [taken_succ, hpassed, if_neg Bool.false_ne_true, List.append_nil]
  exact
    { nextRecent := htaken ▸ h.nextRecent
      held := htaken ▸ h.held
      unused := htaken ▸ h.unused }

theorem Follows.note {s : AcmpCopies} (h : Follows own arrivals n s)
    (hhandled : handled own arrivals n = true) :
    Follows own arrivals (n + 1) (s.note (arrivals n).nowUs (acmpMessage (arrivals n).frame)) := by
  have hnext : s.nextRecent = (taken own arrivals n).length % 8 := h.nextRecent
  have htaken : taken own arrivals (n + 1) = taken own arrivals n ++ [n] := by
    rw [taken_succ, if_pos hhandled]
  have hlength : (taken own arrivals (n + 1)).length = (taken own arrivals n).length + 1 := by
    rw [htaken, List.length_append, List.length_singleton]
  refine { nextRecent := ?_, held := fun j m hj hnear => ?_, unused := fun i hi => ?_ }
  · simp only [AcmpCopies.note, acmpRecentCount]
    omega
  · simp only [AcmpCopies.note]
    have hnear' : (taken own arrivals (n + 1)).length ≤ j + 8 := hnear
    rcases Nat.lt_or_ge j (taken own arrivals n).length with hold | hlast
    · rw [htaken, List.getElem?_append_left hold] at hj
      have hne : j % acmpRecentCount ≠ s.nextRecent := by
        rw [acmpRecentCount]
        omega
      rw [Function.update_of_ne hne, Function.update_of_ne hne]
      exact h.held j m hj (by omega)
    · rw [htaken, List.getElem?_append_right hlast] at hj
      have hzero : j - (taken own arrivals n).length = 0 := by
        by_contra hne
        rw [List.getElem?_eq_none (by rw [List.length_singleton]; omega)] at hj
        cases hj
      rw [hzero] at hj
      cases hj
      have hcell : j % acmpRecentCount = s.nextRecent := by
        rw [acmpRecentCount]
        omega
      rw [hcell, Function.update_self, Function.update_self]
      exact ⟨rfl, rfl⟩
  · simp only [AcmpCopies.note]
    rw [Function.update_of_ne (by omega)]
    exact h.unused i (by omega)

/-- What one message does. -/
theorem avbProcessAcmp_eq (own : UniqueId) (s : AcmpCopies) (arrival : AcmpArrival) :
    avbProcessAcmp own s arrival =
      if acmpTargetEntityId arrival.frame = some own then
        if s.keeps arrival.nowUs (acmpMessage arrival.frame) then (s, false)
        else (s.note arrival.nowUs (acmpMessage arrival.frame), true)
      else (s, true) := by
  rw [avbProcessAcmp, avbAcmpReceivedTwice]
  by_cases hkept : s.keeps arrival.nowUs (acmpMessage arrival.frame) = true
  · rw [if_pos hkept, if_pos hkept]
    rfl
  · rw [if_neg hkept, if_neg hkept]
    rfl

theorem handled_iff_new : handled own arrivals n = true ↔ ForStation own arrivals n ∧
    ¬ (before own arrivals n).keeps (arrivals n).nowUs (acmpMessage (arrivals n).frame) = true := by
  rw [handled, passes, avbProcessAcmp_eq, decide_eq_true_eq]
  refine and_congr_right fun hmine => ?_
  rw [if_pos hmine]
  split
  case isTrue hkept => exact iff_of_false Bool.false_ne_true (not_not_intro hkept)
  case isFalse hnew => exact iff_of_true rfl hnew

theorem before_succ (n : Nat) : before own arrivals (n + 1) =
    if handled own arrivals n then
      (before own arrivals n).note (arrivals n).nowUs (acmpMessage (arrivals n).frame)
    else before own arrivals n := by
  rw [before, avbProcessAcmp_eq]
  by_cases hhandled : handled own arrivals n = true
  · obtain ⟨hmine, hnew⟩ := handled_iff_new.mp hhandled
    rw [if_pos hmine, if_neg hnew, if_pos hhandled]
  · rw [if_neg hhandled]
    split_ifs with hmine hkept
    · rfl
    · exact absurd (handled_iff_new.mpr ⟨hmine, hkept⟩) hhandled
    · rfl

theorem follows (own : UniqueId) (arrivals : Nat → AcmpArrival) (n : Nat) :
    Follows own arrivals n (before own arrivals n) := by
  induction n with
  | zero => exact follows_init
  | succ n ih =>
      rw [before_succ]
      split
      case isTrue hhandled => exact ih.note hhandled
      case isFalse hpassed => exact ih.same (Bool.eq_false_iff.mpr hpassed)

/-- A message for the station is handled unless it is one of the last that were, within the window. -/
theorem handled_iff (hclock : ∀ m, 0 < (arrivals m).nowUs) (hmine : ForStation own arrivals n) :
    handled own arrivals n = true ↔ ¬ ∃ m ∈ kept own arrivals n,
      (arrivals n).nowUs - (arrivals m).nowUs < acmpCopyWindowUs ∧
        acmpMessage (arrivals m).frame = acmpMessage (arrivals n).frame := by
  rw [handled_iff_new, and_iff_right hmine, (follows own arrivals n).keeps_iff hclock]

/-! ### Commands and their copies -/

/-- The first arrival of a command. -/
def First (own : UniqueId) (arrivals : Nat → AcmpArrival) (command : Nat → Nat) (n : Nat) : Prop :=
  ∀ m < n, ForStation own arrivals m → command m ≠ command n

instance First.decidable (command : Nat → Nat) (n : Nat) : Decidable (First own arrivals command n) :=
  inferInstanceAs (Decidable (∀ m < n, _ → _))

/-- How an access point delivers the commands for a station: the copies of one differ in nothing but the
destination and come within the copy window, with fewer than eight other commands begun between; the
same message sent again arrives after the window. -/
structure Delivers (own : UniqueId) (arrivals : Nat → AcmpArrival) (command : Nat → Nat) : Prop where
  copy : ∀ m n, m < n → ForStation own arrivals m → ForStation own arrivals n →
    command m = command n →
    (arrivals m).frame.drop 6 = (arrivals n).frame.drop 6 ∧
      (arrivals n).nowUs - (arrivals m).nowUs < acmpCopyWindowUs ∧
      ((List.range' (m + 1) (n - (m + 1))).filter fun k =>
        ForStation own arrivals k ∧ First own arrivals command k).length < acmpRecentCount
  retry : ∀ m n, m < n → ForStation own arrivals m → ForStation own arrivals n →
    command m ≠ command n →
    acmpMessage (arrivals m).frame = acmpMessage (arrivals n).frame →
    acmpCopyWindowUs ≤ (arrivals n).nowUs - (arrivals m).nowUs

theorem acmpMessage_congr {frame frame' : Buf} (h : frame.drop 6 = frame'.drop 6) :
    acmpMessage frame = acmpMessage frame' := by
  have hdrop : ∀ f : Buf, f.drop 14 = (f.drop 6).drop 8 := fun f => by rw [List.drop_drop]
  rw [acmpMessage, acmpMessage, hdrop, hdrop, h]

theorem forStation_of_handled (h : handled own arrivals n = true) : ForStation own arrivals n :=
  (handled_iff_new.mp h).1

/-- A message that was taken is still kept while fewer than eight were taken since. -/
theorem mem_kept {m : Nat} (hm : m < n) (hhandled : handled own arrivals m = true)
    (hfew : ((List.range' (m + 1) (n - (m + 1))).filter (handled own arrivals)).length
      < acmpRecentCount) : m ∈ kept own arrivals n := by
  have hsplit : taken own arrivals n = taken own arrivals m ++
      m :: (List.range' (m + 1) (n - (m + 1))).filter (handled own arrivals) := by
    have hrange : List.range n = List.range (m + 1) ++ List.range' (m + 1) (n - (m + 1)) := by
      have happend := @List.range'_append_1 0 (m + 1) (n - (m + 1))
      rw [Nat.zero_add, Nat.add_sub_cancel' hm] at happend
      rw [List.range_eq_range', List.range_eq_range', happend]
    rw [taken, hrange, List.filter_append, ← taken, taken_succ, if_pos hhandled, List.append_assoc]
    rfl
  rw [kept, hsplit, List.drop_append_of_le_length
    (by rw [List.length_append, List.length_cons]; omega)]
  exact List.mem_append_right _ List.mem_cons_self

/-- A copy has the first arrival of its command before it. -/
theorem exists_first {command : Nat → Nat} (hcopy : ¬ First own arrivals command n) :
    ∃ m < n, ForStation own arrivals m ∧ command m = command n ∧ First own arrivals command m := by
  have hearlier : ∃ m, m < n ∧ ForStation own arrivals m ∧ command m = command n := by
    unfold First at hcopy
    push Not at hcopy
    exact hcopy
  classical
  obtain ⟨hlt, hmine, hcommand⟩ := Nat.find_spec hearlier
  refine ⟨_, hlt, hmine, hcommand, fun k hk hmineK heq => ?_⟩
  exact Nat.find_min hearlier hk ⟨hk.trans hlt, hmineK, heq.trans hcommand⟩

/-- Of each command the first arrival is handled and no other. -/
theorem Delivers.handled_iff_first {command : Nat → Nat} (hclock : ∀ m, 0 < (arrivals m).nowUs)
    (h : Delivers own arrivals command) :
    ForStation own arrivals n → (handled own arrivals n = true ↔ First own arrivals command n) := by
  induction n using Nat.strong_induction_on with
  | _ n ih =>
      intro hmine
      rw [handled_iff hclock hmine]
      constructor
      · intro hfresh
        by_contra hcopy
        -- The first arrival of the command was handled, and its message is still kept.
        obtain ⟨m, hm, hmineM, hcommand, hfirst⟩ := exists_first hcopy
        obtain ⟨hsame, hnear, hfew⟩ := h.copy m n hm hmineM hmine hcommand
        have hkept := mem_kept hm ((ih m hm hmineM).mpr hfirst) (lt_of_le_of_lt ?_ hfew)
        · exact hfresh ⟨m, hkept, hnear, acmpMessage_congr hsame⟩
        · rw [← List.countP_eq_length_filter, ← List.countP_eq_length_filter]
          refine List.countP_mono_left fun k hk hhandled => decide_eq_true ?_
          obtain ⟨-, hlt⟩ := List.mem_range'_1.mp hk
          have hmineK := forStation_of_handled hhandled
          exact ⟨hmineK, (ih k (by omega) hmineK).mp hhandled⟩
      · rintro hfirst ⟨m, hm, hnear, hsame⟩
        obtain ⟨hlt, hhandled⟩ := mem_taken.mp (List.mem_of_mem_drop hm)
        have hmineM := forStation_of_handled hhandled
        have hlate := h.retry m n hlt hmineM hmine (hfirst m hlt hmineM) hsame
        omega

/-- The messages before message `n` that a station is to act on: all but the copies. -/
def once (own : UniqueId) (arrivals : Nat → AcmpArrival) (command : Nat → Nat) (n : Nat) : List Nat :=
  (List.range n).filter fun m => ForStation own arrivals m → First own arrivals command m

theorem passes_iff :
    passes own arrivals n = true ↔ (ForStation own arrivals n → handled own arrivals n = true) := by
  rw [handled, decide_eq_true_eq]
  constructor
  · exact fun hpasses hmine => ⟨hmine, hpasses⟩
  · intro hmust
    by_cases hmine : ForStation own arrivals n
    · exact (hmust hmine).2
    · rw [passes, avbProcessAcmp_eq, if_neg hmine]

/-- The handlers see the messages to act on and no others. -/
theorem Delivers.stationBefore_eq {σ : Type*} {command : Nat → Nat}
    (hclock : ∀ m, 0 < (arrivals m).nowUs) (h : Delivers own arrivals command)
    (handlers : σ → Int → Buf → σ) (st : σ) (n : Nat) :
    stationBefore handlers st own arrivals n =
      (once own arrivals command n).foldl
        (fun station m =>
          handlers station (arrivals m).nowUs (acmpMessage (arrivals m).frame)) st := by
  induction n with
  | zero => rfl
  | succ n ih =>
      have hpasses : passes own arrivals n =
          decide (ForStation own arrivals n → First own arrivals command n) := by
        rw [Bool.eq_iff_iff, decide_eq_true_eq, passes_iff]
        exact forall_congr' fun hmine => h.handled_iff_first hclock hmine
      rw [stationBefore, once, List.range_succ, List.filter_append, List.foldl_append, ← once, ← ih,
        List.filter_singleton, ← hpasses]
      cases passes own arrivals n with
      | true => rfl
      | false => rfl

end AcmpCopies

open AcmpCopies in
/-- An ACMP message for a wireless station goes to its handlers unless it is, octet for octet, one of the
last eight that did, less than 100 ms earlier. So where a command may arrive several times it is answered
once, at its first arrival, a retry is answered again, and the station is always in the state that the
commands delivered once would have left. -/
theorem acmp_answered_once {σ : Type*} (handlers : σ → Int → Buf → σ) (st : σ) (own : UniqueId)
    (arrivals : Nat → AcmpArrival) (hclock : ∀ n, 0 < (arrivals n).nowUs) (n : Nat) :
    (ForStation own arrivals n →
        (handled own arrivals n = true ↔ ¬ ∃ m ∈ kept own arrivals n,
          (arrivals n).nowUs - (arrivals m).nowUs < acmpCopyWindowUs ∧
            acmpMessage (arrivals m).frame = acmpMessage (arrivals n).frame)) ∧
      ∀ command, Delivers own arrivals command →
        (ForStation own arrivals n →
            (handled own arrivals n = true ↔ First own arrivals command n)) ∧
          stationBefore handlers st own arrivals n =
            (once own arrivals command n).foldl
              (fun station m =>
                handlers station (arrivals m).nowUs (acmpMessage (arrivals m).frame)) st :=
  ⟨handled_iff hclock, fun _ h =>
    ⟨h.handled_iff_first hclock, h.stationBefore_eq hclock handlers st n⟩⟩

/-- A CONNECT_RX command. -/
def connectRxFrame (da : Buf) (listener : UInt8) : Buf :=
  da ++ [2, 0, 0, 0, 0, 9, 0x22, 0xF0, 0xFC, 6, 0, 44] ++ List.replicate 24 0 ++
    List.replicate 8 listener ++ List.replicate 20 0

/-- One command for the station and its copy, the command again 300 ms later, then commands for others. -/
def connectRxArrivals (n : Nat) : AcmpArrival :=
  if n = 0 then { nowUs := 1000, frame := connectRxFrame [0x91, 0xE0, 0xF0, 1, 0, 0] 7 }
  else if n = 1 then { nowUs := 3000, frame := connectRxFrame [2, 0, 0, 0, 0, 7] 7 }
  else if n = 2 then { nowUs := 301000, frame := connectRxFrame [0x91, 0xE0, 0xF0, 1, 0, 0] 7 }
  else { nowUs := 400000, frame := connectRxFrame [0x91, 0xE0, 0xF0, 1, 0, 0] 8 }

def connectRxStation : UniqueId := ⟨List.replicate 8 7, rfl⟩

open AcmpCopies in
/-- The copy is passed over and the retry is answered: the station answers twice. -/
theorem acmp_answered_once_copy :
    handled connectRxStation connectRxArrivals 1 = false ∧
      handled connectRxStation connectRxArrivals 2 = true ∧
      stationBefore (fun answers _ _ => answers + 1) 0 connectRxStation connectRxArrivals 3 = 2 := by
  have hclock : ∀ n, 0 < (connectRxArrivals n).nowUs := by
    intro n
    unfold connectRxArrivals
    split_ifs <;> decide
  have hmine : ∀ n, ForStation connectRxStation connectRxArrivals n → n < 3 := by
    intro n hn
    by_contra hout
    have hother : connectRxArrivals n =
        { nowUs := 400000, frame := connectRxFrame [0x91, 0xE0, 0xF0, 1, 0, 0] 8 } := by
      rw [connectRxArrivals, if_neg (by omega), if_neg (by omega), if_neg (by omega)]
    rw [ForStation, hother] at hn
    exact absurd hn (by decide)
  have hdelivers : Delivers connectRxStation connectRxArrivals fun n => if n = 2 then 1 else 0 := by
    refine ⟨fun m n hlt hm hn => ?_, fun m n hlt hm hn => ?_⟩
    all_goals
      have hm := hmine m hm
      have hn := hmine n hn
      interval_cases n <;> interval_cases m <;> decide
  have hanswered := fun n => (acmp_answered_once (fun answers _ _ => answers + 1) 0 connectRxStation
    connectRxArrivals hclock n).2 _ hdelivers
  refine ⟨?_, ((hanswered 2).1 (by decide)).mpr (by decide), (hanswered 3).2.trans (by decide)⟩
  by_contra hcopy
  exact absurd (((hanswered 1).1 (by decide)).mp (Bool.eq_true_of_not_eq_false hcopy)) (by decide)

end EspAvb
