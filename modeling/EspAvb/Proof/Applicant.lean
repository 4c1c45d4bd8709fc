import EspAvb.Mrp
import EspAvb.Lib.Machine

/-!
# One attribute over time

What the Applicant tables promise about a single attribute outside AVB Lite, for every order of
local, received and timer events: when a withdrawal reaches the wire, and when a peer's Leave is
answered. Both fail for some states, and the theorems say for which.
-/

namespace EspAvb

open MrpApplicantState

/-- One event fed to one attribute outside AVB Lite, and the 3pe value it sends if it is a transmit
opportunity. -/
def attrStep (sm : MrpSm) (now : Nat) : MrpEvent → MrpSm × Option Nat
  | .new => (mrpApplicantStep sm .new, none)
  | .join => (mrpApplicantStep sm .join, none)
  | .lv => (mrpWithdrawStep false sm, none)
  | .tx => mrpFlushSm sm .tx
  | .txLA => mrpFlushSm sm .txLA
  | .periodic => (mrpApplicantStep sm .periodic, none)
  | ev => (mrpSmStep now sm ev, none)

/-- An attribute with its history: `standing`, the most recent transmission was New or Join and no
Leave was received since; `declared`, a New! or Join! came after the last Lv!. -/
structure AttrHistory where
  sm : MrpSm
  standing : Bool
  declared : Bool
  deriving DecidableEq

def AttrHistory.begin : AttrHistory := { sm := .fresh, standing := false, declared := false }

def AttrHistory.step (h : AttrHistory) (timed : Nat × MrpEvent) : AttrHistory :=
  let (sm, sent) := attrStep h.sm timed.1 timed.2
  { sm
    standing :=
      match sent with
      | some code => code ≠ 5
      | none => h.standing ∧ timed.2 ≠ .rLv ∧ timed.2 ≠ .rLA
    declared :=
      match timed.2 with
      | .new | .join => true
      | .lv => false
      | _ => h.declared }

def attrRun (events : List (Nat × MrpEvent)) : AttrHistory :=
  Machine.run AttrHistory.step .begin events

theorem attrRun_append (first second : List (Nat × MrpEvent)) :
    attrRun (first ++ second) = Machine.run AttrHistory.step (attrRun first) second :=
  Machine.run_append _ _ _ _

/-! ### What one event does -/

@[simp]
theorem attrStep_applicant (sm : MrpSm) (now : Nat) (ev : MrpEvent) :
    (attrStep sm now ev).1.applicant = mrpApplicantNext sm.applicant ev := by
  cases ev <;> simp [attrStep, mrpWithdrawStep]

@[simp]
theorem AttrHistory.step_applicant (h : AttrHistory) (timed : Nat × MrpEvent) :
    (h.step timed).sm.applicant = mrpApplicantNext h.sm.applicant timed.2 :=
  attrStep_applicant h.sm timed.1 timed.2

theorem attrStep_pendingTx {sm : MrpSm} (hpending : sm.pendingTx = .none) (now : Nat)
    (ev : MrpEvent) : (attrStep sm now ev).1.pendingTx = .none := by
  cases ev <;>
    simp [attrStep, mrpApplicantStep, mrpApplicantTx, mrpSmStep, mrpWithdrawStep, hpending]

theorem attrRun_pendingTx (events : List (Nat × MrpEvent)) :
    (attrRun events).sm.pendingTx = .none := by
  apply Machine.run_invariant (fun h : AttrHistory => h.sm.pendingTx = .none)
  · intro h timed hpending
    exact attrStep_pendingTx hpending timed.1 timed.2
  · rfl

theorem attrStep_sent {sm : MrpSm} (hpending : sm.pendingTx = .none) (now : Nat) {txEv : MrpEvent}
    (htx : txEv = .tx ∨ txEv = .txLA) :
    (attrStep sm now txEv).2
      = mrpResolve3pe ((mrpApplicantTx sm.applicant txEv).getD .none) sm.registrar := by
  obtain rfl | rfl := htx <;> simp [attrStep, mrpFlushSm, mrpApplicantStep, hpending]

/-- The rule the run lemmas below share: a set of Applicant states closed under a run's events. -/
theorem run_applicant_mem (P : MrpApplicantState → Prop) {h : AttrHistory}
    {events : List (Nat × MrpEvent)}
    (hclosed : ∀ s, ∀ e ∈ events, P s → P (mrpApplicantNext s e.2)) (hinit : P h.sm.applicant) :
    P (Machine.run AttrHistory.step h events).sm.applicant := by
  apply Machine.run_invariant_of_forall_mem (fun h : AttrHistory => P h.sm.applicant)
  · intro h e hmem hinv
    rw [AttrHistory.step_applicant]
    exact hclosed _ e hmem hinv
  · exact hinit

/-! ### Withdrawal -/

/-- What may come between a withdrawal and the next transmit opportunity. -/
def NoLocalNoTx (post : List (Nat × MrpEvent)) : Prop :=
  ∀ e ∈ post, e.2 ≠ .new ∧ e.2 ≠ .join ∧ e.2 ≠ .tx ∧ e.2 ≠ .txLA

theorem run_leaving {h : AttrHistory} {post : List (Nat × MrpEvent)} (hpost : NoLocalNoTx post)
    (hleaving : h.sm.applicant = LA) :
    (Machine.run AttrHistory.step h post).sm.applicant = LA := by
  apply run_applicant_mem (fun s => s = LA)
  · intro s e hmem hs
    have hkind := hpost e hmem
    subst hs
    obtain ⟨now, ev⟩ := e
    cases ev <;> simp_all [mrpApplicantNext]
  · exact hleaving

/-- The states a forgotten declaration is left in, none of which sends. -/
def Forgotten (s : MrpApplicantState) : Prop := s = VO ∨ s = LO ∨ s = AO ∨ s = QO

theorem run_forgotten {h : AttrHistory} {post : List (Nat × MrpEvent)} (hpost : NoLocalNoTx post)
    (hforgotten : Forgotten h.sm.applicant) :
    Forgotten (Machine.run AttrHistory.step h post).sm.applicant := by
  apply run_applicant_mem Forgotten
  · intro s e hmem hs
    have hkind := hpost e hmem
    obtain ⟨now, ev⟩ := e
    cases s <;> cases ev <;> simp_all [mrpApplicantNext, Forgotten]
  · exact hforgotten

theorem applicantNext_lv (s : MrpApplicantState) :
    ((s = AA ∨ s = QA ∨ s = LA) ∧ mrpApplicantNext s .lv = LA)
      ∨ (¬ (s = AA ∨ s = QA ∨ s = LA) ∧ Forgotten (mrpApplicantNext s .lv)) := by
  cases s <;> simp [mrpApplicantNext, Forgotten]

/-- **When a withdrawal reaches the wire.** A standing declaration that the application withdraws is
taken back with an Lv at the next transmit opportunity exactly when the Applicant had reached AA or
QA, or was already leaving. From VN and AN the Lv is forgotten, and so it is from the passive states
a Join! over a pending Lv leads to. -/
theorem withdrawal_sends_lv_iff (pre post : List (Nat × MrpEvent)) (t now : Nat) {txEv : MrpEvent}
    (htx : txEv = .tx ∨ txEv = .txLA) (_hstanding : (attrRun pre).standing = true)
    (hpost : NoLocalNoTx post) :
    (attrStep (attrRun (pre ++ (t, .lv) :: post)).sm now txEv).2 = some 5
      ↔ (attrRun pre).sm.applicant = AA ∨ (attrRun pre).sm.applicant = QA
        ∨ (attrRun pre).sm.applicant = LA := by
  rw [attrStep_sent (attrRun_pendingTx _) now htx, attrRun_append, Machine.run_cons]
  set h := attrRun pre
  have hlv : (h.step (t, .lv)).sm.applicant = mrpApplicantNext h.sm.applicant .lv :=
    h.step_applicant (t, .lv)
  obtain ⟨hsettled, hnext⟩ | ⟨hunsettled, hnext⟩ := applicantNext_lv h.sm.applicant
  · have hla := run_leaving hpost (hlv.trans hnext)
    rw [hla]
    obtain rfl | rfl := htx <;> simp [mrpApplicantTx, mrpResolve3pe, hsettled]
  · have hforgotten := run_forgotten hpost (hlv ▸ hnext)
    rw [iff_false_right hunsettled]
    obtain rfl | rfl := htx <;> obtain hs | hs | hs | hs := hforgotten <;>
      simp [hs, mrpApplicantTx, mrpResolve3pe]

theorem withdrawal_sends_lv_iff_joined :
    (attrStep (attrRun ([(0, .join), (1, .tx)] ++ (2, .lv) :: [(3, .rJoinMt)])).sm 4 .tx).2 = some 5
      ↔ (attrRun [(0, .join), (1, .tx)]).sm.applicant = AA
        ∨ (attrRun [(0, .join), (1, .tx)]).sm.applicant = QA
        ∨ (attrRun [(0, .join), (1, .tx)]).sm.applicant = LA :=
  withdrawal_sends_lv_iff [(0, .join), (1, .tx)] [(3, .rJoinMt)] 2 4 (.inl rfl) (by decide)
    (by simp [NoLocalNoTx])

/-- A declaration sent once as New and then withdrawn is forgotten: no Lv goes out. -/
theorem withdrawal_after_new_silent :
    (attrRun [(0, .new), (1, .tx)]).standing = true
      ∧ (attrStep (attrRun [(0, .new), (1, .tx), (2, .lv)]).sm 3 .tx).2 = none
      ∧ (attrStep (attrRun [(0, .new), (1, .tx), (2, .lv)]).sm 3 .txLA).2 = none := by
  decide

/-! ### Answering a Leave -/

theorem applicantNext_declaring {s : MrpApplicantState} {ev : MrpEvent} (hlv : ev ≠ .lv)
    (hs : mrpApplicantDeclaring s = true) :
    mrpApplicantDeclaring (mrpApplicantNext s ev) = true := by
  cases s <;> cases ev <;> simp_all [mrpApplicantDeclaring, mrpApplicantNext]

theorem applicantNext_local_declaring (s : MrpApplicantState) :
    mrpApplicantDeclaring (mrpApplicantNext s .new) = true
      ∧ mrpApplicantDeclaring (mrpApplicantNext s .join) = true := by
  cases s <;> exact ⟨rfl, rfl⟩

theorem attrRun_declaring (events : List (Nat × MrpEvent))
    (hdeclared : (attrRun events).declared = true) :
    mrpApplicantDeclaring (attrRun events).sm.applicant = true := by
  revert hdeclared
  apply Machine.run_invariant
    (fun h : AttrHistory => h.declared = true → mrpApplicantDeclaring h.sm.applicant = true)
  · intro h timed hinv hnow
    rw [AttrHistory.step_applicant]
    obtain ⟨now, ev⟩ := timed
    cases ev with
    | new => exact (applicantNext_local_declaring _).1
    | join => exact (applicantNext_local_declaring _).2
    | lv => simp [AttrHistory.step] at hnow
    | _ => exact applicantNext_declaring (by simp) (hinv hnow)
  · decide

theorem run_declared {h : AttrHistory} {post : List (Nat × MrpEvent)}
    (hpost : ∀ e ∈ post, e.2 ≠ .lv) (hdeclared : h.declared = true) :
    (Machine.run AttrHistory.step h post).declared = true := by
  apply Machine.run_invariant_of_forall_mem (fun h : AttrHistory => h.declared = true)
  · intro h e hmem hinv
    have hlv := hpost e hmem
    obtain ⟨now, ev⟩ := e
    cases ev <;> simp_all [AttrHistory.step]
  · exact hdeclared

/-- What may come between a Leave and the transmit opportunity that should answer it. -/
def Between (mid : List (Nat × MrpEvent)) : Prop :=
  ∀ e ∈ mid, e.2 ≠ .lv ∧ e.2 ≠ .rLv ∧ e.2 ≠ .rLA ∧ e.2 ≠ .tx ∧ e.2 ≠ .txLA

section Answer

variable {h : AttrHistory} {mid : List (Nat × MrpEvent)}

theorem run_between_of_vn (hmid : Between mid) (hvn : h.sm.applicant = VN) :
    (Machine.run AttrHistory.step h mid).sm.applicant = VN := by
  apply run_applicant_mem (fun s => s = VN)
  · intro s e hmem hs
    have hkind := hmid e hmem
    subst hs
    obtain ⟨now, ev⟩ := e
    cases ev <;> simp_all [mrpApplicantNext]
  · exact hvn

theorem run_between_of_new (hmid : Between mid) (hnew : ∃ e ∈ mid, e.2 = .new) :
    (Machine.run AttrHistory.step h mid).sm.applicant = VN := by
  obtain ⟨e, hmem, he⟩ := hnew
  obtain ⟨before, after, rfl⟩ := List.append_of_mem hmem
  rw [Machine.run_append, Machine.run_cons]
  apply run_between_of_vn
  · intro e' hmem'
    exact hmid e' (by simp [hmem'])
  · rw [AttrHistory.step_applicant, he]
    rfl

theorem run_between_of_vp (hmid : Between mid) (hnew : ∀ e ∈ mid, e.2 ≠ .new)
    (hjoin : ∀ e ∈ mid, e.2 ≠ .rJoinIn) (hvp : h.sm.applicant = VP) :
    (Machine.run AttrHistory.step h mid).sm.applicant = VP := by
  apply run_applicant_mem (fun s => s = VP)
  · intro s e hmem hs
    have hkind := hmid e hmem
    have hnotNew := hnew e hmem
    have hnotJoin := hjoin e hmem
    subst hs
    obtain ⟨now, ev⟩ := e
    cases ev <;> simp_all [mrpApplicantNext]
  · exact hvp

/-- A peer's JoinIn parks a passive declaration in AP or QP. -/
theorem run_between_of_joinIn (hmid : Between mid) (hnew : ∀ e ∈ mid, e.2 ≠ .new)
    (hjoin : ∃ e ∈ mid, e.2 = .rJoinIn) (hvp : h.sm.applicant = VP) :
    (Machine.run AttrHistory.step h mid).sm.applicant = AP
      ∨ (Machine.run AttrHistory.step h mid).sm.applicant = QP := by
  obtain ⟨e, hmem, he⟩ := hjoin
  obtain ⟨before, after, rfl⟩ := List.append_of_mem hmem
  have hbefore : (fun s => s = VP ∨ s = AP ∨ s = QP)
      (Machine.run AttrHistory.step h before).sm.applicant := by
    apply run_applicant_mem (fun s => s = VP ∨ s = AP ∨ s = QP)
    · intro s e' hmem' hs
      have hkind := hmid e' (by simp [hmem'])
      have hnotNew := hnew e' (by simp [hmem'])
      obtain ⟨now, ev⟩ := e'
      obtain rfl | rfl | rfl := hs <;> cases ev <;> simp_all [mrpApplicantNext]
    · exact Or.inl hvp
  rw [Machine.run_append, Machine.run_cons]
  apply run_applicant_mem (fun s => s = AP ∨ s = QP)
  · intro s e' hmem' hs
    have hkind := hmid e' (by simp [hmem'])
    have hnotNew := hnew e' (by simp [hmem'])
    obtain ⟨now, ev⟩ := e'
    obtain rfl | rfl := hs <;> cases ev <;> simp_all [mrpApplicantNext]
  · rw [AttrHistory.step_applicant, he]
    obtain hs | hs | hs := hbefore <;> simp [hs, mrpApplicantNext]

end Answer

theorem applicantNext_leave {s : MrpApplicantState} {leave : MrpEvent}
    (hleave : leave = .rLv ∨ leave = .rLA) (hs : mrpApplicantDeclaring s = true) :
    ((s = VN ∨ s = AN) ∧ mrpApplicantNext s leave = VN)
      ∨ (¬ (s = VN ∨ s = AN) ∧ mrpApplicantNext s leave = VP) := by
  obtain rfl | rfl := hleave <;> cases s <;> simp_all [mrpApplicantNext, mrpApplicantDeclaring]

/-- A 3pe value that declares: New, JoinIn or JoinMt. -/
def Declares (sent : Option Nat) : Prop := sent = some 0 ∨ sent = some 1 ∨ sent = some 3

theorem declares_sent {s : MrpApplicantState} {reg : MrpRegistrarState} {txEv : MrpEvent}
    (htx : txEv = .tx ∨ txEv = .txLA) (hs : s = VN ∨ s = VP) :
    Declares (mrpResolve3pe ((mrpApplicantTx s txEv).getD .none) reg) := by
  obtain rfl | rfl := htx <;> obtain rfl | rfl := hs <;> cases reg <;>
    simp [mrpApplicantTx, mrpResolve3pe, Declares]

theorem not_declares_sent {s : MrpApplicantState} {reg : MrpRegistrarState} {txEv : MrpEvent}
    (htx : txEv = .tx ∨ txEv = .txLA) (hs : s = AP ∨ s = QP) :
    ¬ Declares (mrpResolve3pe ((mrpApplicantTx s txEv).getD .none) reg) := by
  obtain rfl | rfl := htx <;> obtain rfl | rfl := hs <;>
    simp [mrpApplicantTx, mrpResolve3pe, Declares]

/-- **When a Leave is answered.** A locally declared attribute stays in a declaring state for as long
as it is not withdrawn. After a received Leave or LeaveAll, the last one before the transmit
opportunity, it is declared again exactly when it was still going out as New, a New! came in
between, or no JoinIn did: a JoinIn parks a VP declaration in AP or QP, and neither sends. -/
theorem leave_answered_iff (pre : List (Nat × MrpEvent))
    (hdeclared : (attrRun pre).declared = true) :
    (∀ post : List (Nat × MrpEvent), (∀ e ∈ post, e.2 ≠ .lv) →
        mrpApplicantDeclaring (attrRun (pre ++ post)).sm.applicant = true)
      ∧ ∀ (t now : Nat) (leave txEv : MrpEvent) (mid : List (Nat × MrpEvent)),
        leave = .rLv ∨ leave = .rLA → txEv = .tx ∨ txEv = .txLA → Between mid →
        (Declares (attrStep (attrRun (pre ++ (t, leave) :: mid)).sm now txEv).2
          ↔ ((attrRun pre).sm.applicant = VN ∨ (attrRun pre).sm.applicant = AN)
            ∨ (∃ e ∈ mid, e.2 = .new) ∨ ∀ e ∈ mid, e.2 ≠ .rJoinIn) := by
  constructor
  · intro post hpost
    apply attrRun_declaring
    rw [attrRun_append]
    exact run_declared hpost hdeclared
  · intro t now leave txEv mid hleave htx hmid
    rw [attrStep_sent (attrRun_pendingTx _) now htx, attrRun_append, Machine.run_cons]
    have hdeclaring := attrRun_declaring pre hdeclared
    set h := attrRun pre
    have hstep : (h.step (t, leave)).sm.applicant = mrpApplicantNext h.sm.applicant leave :=
      h.step_applicant (t, leave)
    obtain ⟨hgoing, hnext⟩ | ⟨hsent, hnext⟩ := applicantNext_leave hleave hdeclaring
    · have hvn := run_between_of_vn hmid (hstep.trans hnext)
      exact iff_of_true (declares_sent htx (Or.inl hvn)) (Or.inl hgoing)
    · by_cases hnew : ∃ e ∈ mid, e.2 = .new
      · have hvn := run_between_of_new (h := h.step (t, leave)) hmid hnew
        exact iff_of_true (declares_sent htx (Or.inl hvn)) (Or.inr (Or.inl hnew))
      have hno : ∀ e ∈ mid, e.2 ≠ .new := by
        intro e hmem he
        exact hnew ⟨e, hmem, he⟩
      by_cases hjoin : ∃ e ∈ mid, e.2 = .rJoinIn
      · have hpassive := run_between_of_joinIn hmid hno hjoin (hstep.trans hnext)
        apply iff_of_false (not_declares_sent htx hpassive)
        rintro (hgoing | hex | hnoJoin)
        · exact hsent hgoing
        · exact hnew hex
        · obtain ⟨e, hmem, he⟩ := hjoin
          exact hnoJoin e hmem he
      · have hnoJoin : ∀ e ∈ mid, e.2 ≠ .rJoinIn := by
          intro e hmem he
          exact hjoin ⟨e, hmem, he⟩
        have hvp := run_between_of_vp hmid hno hnoJoin (hstep.trans hnext)
        exact iff_of_true (declares_sent htx (Or.inr hvp)) (Or.inr (Or.inr hnoJoin))

theorem leave_answered_iff_quiet :
    (∀ post : List (Nat × MrpEvent), (∀ e ∈ post, e.2 ≠ .lv) →
        mrpApplicantDeclaring (attrRun ([(0, .join), (1, .tx)] ++ post)).sm.applicant = true)
      ∧ (Declares (attrStep (attrRun ([(0, .join), (1, .tx)] ++ (2, .rLA) :: [(3, .rMt)])).sm 4 .tx).2
        ↔ ((attrRun [(0, .join), (1, .tx)]).sm.applicant = VN
            ∨ (attrRun [(0, .join), (1, .tx)]).sm.applicant = AN)
          ∨ (∃ e ∈ [(3, MrpEvent.rMt)], e.2 = .new) ∨ ∀ e ∈ [(3, MrpEvent.rMt)], e.2 ≠ .rJoinIn) :=
  have h := leave_answered_iff [(0, .join), (1, .tx)] (by decide)
  ⟨h.1, h.2 2 4 .rLA .tx [(3, .rMt)] (.inr rfl) (.inl rfl) (by simp [Between])⟩

/-- One JoinIn from another participant after the LeaveAll silences the declaration. -/
theorem leave_unanswered_after_joinIn :
    (attrRun [(0, .join), (1, .tx)]).declared = true
      ∧ (attrStep (attrRun [(0, .join), (1, .tx), (2, .rLA), (3, .rJoinIn)]).sm 4 .tx).2 = none
      ∧ (attrStep (attrRun [(0, .join), (1, .tx), (2, .rLA), (3, .rJoinIn)]).sm 4 .txLA).2
        = none := by
  decide

end EspAvb
