import Mathlib.Logic.Basic

/-!
# The generic MRP state machines

`mrp.c` §1: one Applicant and one Registrar for each attribute, the same for MSRP and MVRP, for
endpoints and bridges. The tables and the timers that drive them are in the modules above this one.

Every handler reads the clock (`esp_timer_get_time`) as an argument here: microseconds since boot.
-/

namespace EspAvb

/-- Applicant states: V very anxious, A anxious, Q quiet, L leaving; O observer, P passive, N new,
A active. -/
inductive MrpApplicantState where
  | VO | VP | VN | AN | AA | QA | LA | AO | QO | AP | QP | LO
  deriving DecidableEq, Repr

/-- Registrar states: the peer's declaration is registered, being torn down, or absent. -/
inductive MrpRegistrarState where
  | IN | LV | MT
  deriving DecidableEq, Repr

/-- What steps an Applicant and a Registrar: what a peer sent, what the application asks for, and
what a timer fires. -/
inductive MrpEvent where
  | rNew | rJoinIn | rIn | rJoinMt | rMt | rLv | rLA
  | new | join | lv
  | tx | txLA | periodic | leaveTimer
  deriving DecidableEq, Repr

/-- What the Applicant leaves for the encoder to send. -/
inductive MrpTxAction where
  | none | new | join | leave
  deriving DecidableEq, Repr

/-- `mrp_sm_state_t`: the state each attribute table entry carries. -/
structure MrpSm where
  applicant : MrpApplicantState
  registrar : MrpRegistrarState
  leaveTimerUs : Nat
  pendingTx : MrpTxAction
  deriving DecidableEq, Repr

/-- The state a slot is handed out in: zeroed, then VO, MT and nothing to send. -/
def MrpSm.fresh : MrpSm :=
  { applicant := .VO, registrar := .MT, leaveTimerUs := 0, pendingTx := .none }

def mrpLeaveTimerUs : Nat := 1000 * 1000

open MrpApplicantState in
/-- The Applicant state column of `mrp_applicant_step`, event by event. -/
def mrpApplicantNext (s : MrpApplicantState) : MrpEvent → MrpApplicantState
  | .new => VN
  | .join =>
      match s with
      | VO | LA | LO => VP
      | AO => AP
      | QO => QP
      | s => s
  | .lv =>
      match s with
      | VO | VN | AN => LO
      | VP => VO
      | AA | QA => LA
      | AP => AO
      | QP => QO
      | s => s
  | .rNew => s
  | .rJoinIn =>
      match s with
      | VO => AO
      | VP => AP
      | AA => QA
      | AO => QO
      | AP => QP
      | s => s
  | .rIn => if s = AA then QA else s
  | .rJoinMt | .rMt => if s = QA then AA else s
  | .rLv | .rLA =>
      match s with
      | VO | AO | QO => LO
      | AN => VN
      | AA | QA | AP | QP => VP
      | LO => VO
      | s => s
  | .tx =>
      match s with
      | VP => AA
      | VN => AN
      | AN | AA => QA
      | LA | LO => VO
      | s => s
  | .txLA =>
      match s with
      | VP | QA => AA
      | VN => AN
      | AN | AA => QA
      | LA | LO => VO
      | s => s
  | .periodic =>
      match s with
      | QA => AA
      | QO => AO
      | QP => AP
      | s => s
  | .leaveTimer => s

open MrpApplicantState in
/-- The action column of `mrp_applicant_step`: what a `tx!` or `txLA!` queues, `none` where the
queued action stays. -/
def mrpApplicantTx (s : MrpApplicantState) : MrpEvent → Option MrpTxAction
  | .tx =>
      match s with
      | VP | AA => some .join
      | VN | AN => some .new
      | LA => some .leave
      | _ => none
  | .txLA =>
      match s with
      | VP | AA | QA => some .join
      | VN | AN => some .new
      | LA => some .leave
      | _ => none
  | _ => none

def mrpApplicantStep (sm : MrpSm) (ev : MrpEvent) : MrpSm :=
  { sm with
    applicant := mrpApplicantNext sm.applicant ev
    pendingTx := (mrpApplicantTx sm.applicant ev).getD sm.pendingTx }

/-- `now` is read only where the LeaveTimer starts. -/
def mrpRegistrarStep (now : Nat) (sm : MrpSm) (ev : MrpEvent) : MrpSm :=
  match ev with
  | .rNew | .rJoinIn | .rJoinMt | .rIn => { sm with registrar := .IN, leaveTimerUs := 0 }
  | .rLv | .rLA =>
      if sm.registrar = .IN ∨ sm.registrar = .LV then
        { sm with registrar := .LV, leaveTimerUs := now + mrpLeaveTimerUs }
      else sm
  | .leaveTimer =>
      if sm.registrar = .LV then { sm with registrar := .MT, leaveTimerUs := 0 } else sm
  | _ => sm

/-- A decoded 3pe component to the peer event; values past 5 are malformed and change nothing. -/
def mrp3peToEvent : Nat → MrpEvent
  | 0 => .rNew
  | 1 => .rJoinIn
  | 2 => .rIn
  | 3 => .rJoinMt
  | 4 => .rMt
  | 5 => .rLv
  | _ => .rMt

def mrpSmStep (now : Nat) (sm : MrpSm) (ev : MrpEvent) : MrpSm :=
  mrpRegistrarStep now (mrpApplicantStep sm ev) ev

/-- Registrar edges that the application callbacks act on. -/
inductive MrpRegTransition where
  | none | register | deregister
  deriving DecidableEq, Repr

def mrpRegTransition (before after : MrpRegistrarState) : MrpRegTransition :=
  if before ≠ .IN ∧ after = .IN then .register
  else if before = .IN ∧ after ≠ .IN then .deregister
  else .none

/-- An entry that is neither registered nor declared; its slot may be handed out again. -/
def mrpSmIdle (sm : MrpSm) : Bool :=
  sm.registrar = .MT ∧ sm.applicant = .VO ∧ sm.pendingTx = .none

/-- Applicant states that send on the next `tx!`. -/
def mrpApplicantWillSend (applicant : MrpApplicantState) : Bool :=
  applicant = .VP ∨ applicant = .VN ∨ applicant = .AN ∨ applicant = .AA ∨ applicant = .LA

/-- Applicant states that hold an active local declaration. -/
def mrpApplicantDeclaring : MrpApplicantState → Bool
  | .VN | .AN | .AA | .QA | .VP | .AP | .QP => true
  | _ => false

/-- Local withdrawal. In AVB Lite, `lite`, a declaration that may already be out sends its Lv. -/
def mrpWithdrawStep (lite : Bool) (sm : MrpSm) : MrpSm :=
  let stepped := mrpApplicantStep sm .lv
  if lite ∧ (sm.applicant = .VN ∨ sm.applicant = .AN) then { stepped with applicant := .LA }
  else stepped

/-- A first declaration is a New!, a repeated one only refreshes. -/
def mrpDeclareEvent (sm : MrpSm) : MrpEvent :=
  match sm.applicant with
  | .VO | .AO | .QO | .LO => .new
  | _ => .join

def mrpSmResetForNewValue : MrpSm := .fresh

/-- The 3pe value an action goes out as, given what the Registrar holds. -/
def mrpResolve3pe (action : MrpTxAction) (reg : MrpRegistrarState) : Option Nat :=
  match action with
  | .new => some 0
  | .join => some (if reg = .IN then 1 else 3)
  | .leave => some 5
  | .none => Option.none

/-- One entry's turn in `mrp_tx_flush_port`: `tx!`, then whatever is queued goes out. -/
def mrpFlushSm (sm : MrpSm) (txEv : MrpEvent) : MrpSm × Option Nat :=
  let stepped := mrpApplicantStep sm txEv
  ({ stepped with pendingTx := .none }, mrpResolve3pe stepped.pendingTx stepped.registrar)

/-! ### Small facts about the steps -/

@[simp]
theorem mrpApplicantStep_applicant (sm : MrpSm) (ev : MrpEvent) :
    (mrpApplicantStep sm ev).applicant = mrpApplicantNext sm.applicant ev := rfl

@[simp]
theorem mrpApplicantStep_registrar (sm : MrpSm) (ev : MrpEvent) :
    (mrpApplicantStep sm ev).registrar = sm.registrar := rfl

@[simp]
theorem mrpApplicantStep_leaveTimerUs (sm : MrpSm) (ev : MrpEvent) :
    (mrpApplicantStep sm ev).leaveTimerUs = sm.leaveTimerUs := rfl

@[simp]
theorem mrpRegistrarStep_applicant (now : Nat) (sm : MrpSm) (ev : MrpEvent) :
    (mrpRegistrarStep now sm ev).applicant = sm.applicant := by
  cases ev <;> simp only [mrpRegistrarStep] <;> split <;> rfl

@[simp]
theorem mrpRegistrarStep_pendingTx (now : Nat) (sm : MrpSm) (ev : MrpEvent) :
    (mrpRegistrarStep now sm ev).pendingTx = sm.pendingTx := by
  cases ev <;> simp only [mrpRegistrarStep] <;> split <;> rfl

@[simp]
theorem mrpSmStep_applicant (now : Nat) (sm : MrpSm) (ev : MrpEvent) :
    (mrpSmStep now sm ev).applicant = mrpApplicantNext sm.applicant ev := by
  simp [mrpSmStep]

@[simp]
theorem mrpWithdrawStep_registrar (lite : Bool) (sm : MrpSm) :
    (mrpWithdrawStep lite sm).registrar = sm.registrar := by
  unfold mrpWithdrawStep
  split <;> rfl

@[simp]
theorem mrpWithdrawStep_pendingTx (lite : Bool) (sm : MrpSm) :
    (mrpWithdrawStep lite sm).pendingTx = sm.pendingTx := by
  unfold mrpWithdrawStep
  split <;> rfl

@[simp]
theorem mrpFlushSm_applicant (sm : MrpSm) (txEv : MrpEvent) :
    (mrpFlushSm sm txEv).1.applicant = mrpApplicantNext sm.applicant txEv := rfl

@[simp]
theorem mrpFlushSm_registrar (sm : MrpSm) (txEv : MrpEvent) :
    (mrpFlushSm sm txEv).1.registrar = sm.registrar := rfl

@[simp]
theorem mrpFlushSm_pendingTx (sm : MrpSm) (txEv : MrpEvent) :
    (mrpFlushSm sm txEv).1.pendingTx = .none := rfl

@[simp]
theorem mrpSmIdle_iff {sm : MrpSm} :
    mrpSmIdle sm = true ↔ sm.registrar = .MT ∧ sm.applicant = .VO ∧ sm.pendingTx = .none := by
  simp [mrpSmIdle]

end EspAvb
