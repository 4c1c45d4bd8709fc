import EspAvb.Lib.Machine
import EspAvb.Persist

/-!
# No settings are lost between the main loop and the snapshot task

The main loop marks the snapshot dirty after it has gathered it; the task takes the marks away before
it copies. Whatever the order of their accesses, what was gathered last is marked, about to be marked,
about to be copied, or on its way to flash.
-/

namespace EspAvb

variable {α : Type}

namespace SnapshotState

variable {s : SnapshotState α}

/-! ### What is gathered is not forgotten -/

/-- The task is about to copy, or what it has copied or handed on is what was gathered last. -/
def TakenAt (persist handed : α) : PersistTaskPc α → Prop
  | .copy => True
  | .write snapshot => snapshot = persist
  | _ => handed = persist

def Covered (s : SnapshotState α) : Prop :=
  s.dirty = true ∨ s.request ≠ .idle ∨ TakenAt s.persist s.handed s.task

theorem Covered.requestStep (h : s.Covered) : s.requestStep.Covered := by
  cases hrequest : s.request with
  | idle =>
      unfold SnapshotState.requestStep
      rwa [hrequest]
  | setDirty =>
      left
      unfold SnapshotState.requestStep
      rw [hrequest]
  | readDirty isLazy =>
      right; left
      unfold SnapshotState.requestStep
      rw [hrequest]
      cases isLazy <;> cases s.dirty <;> simp
  | readLazy =>
      right; left
      unfold SnapshotState.requestStep
      rw [hrequest]
      cases s.lazySave <;> simp
  | stamp | clearLazy | setLazy =>
      right; left
      unfold SnapshotState.requestStep
      rw [hrequest]
      simp

theorem Covered.taskStep (h : s.Covered) : s.avbPersistTaskStep.Covered := by
  unfold Covered at h ⊢
  unfold avbPersistTaskStep
  cases htask : s.task with
  | clearDirty => exact .inr (.inr trivial)
  | copy => exact .inr (.inr rfl)
  | write snapshot =>
      rw [htask] at h
      exact h
  | readDirty | readStreaming | readLazy | readAge =>
      rw [htask] at h
      dsimp only
      split <;> exact h
  | clearLazy =>
      rw [htask] at h
      exact h

theorem Covered.step (h : s.Covered) (ev : SnapshotEvent α) : (snapshotStep s ev).Covered := by
  cases ev with
  | requestStep => exact h.requestStep
  | taskStep => exact h.taskStep
  | requestSave isLazy =>
      by_cases hidle : s.request = .idle
      · right; left
        simp only [snapshotStep, avbPersistRequestSave, if_pos hidle]
        exact SaveRequestPc.noConfusion
      · simp only [snapshotStep, avbPersistRequestSave, if_neg hidle]
        exact h
  | change | elapse | setStreaming => exact h

/-! ### The task gets there -/

/-- Nothing keeps the task from writing. -/
def GateOpen (s : SnapshotState α) : Prop :=
  s.streaming = false ∨
    (s.lazySave = false ∧ avbPersistForcedFlushMsec ≤ s.tick - s.dirtySinceTick)

/-- Some steps of the task alone bring it to rest with what was gathered last in flash. -/
def Flushes (s : SnapshotState α) (bound : Nat) : Prop :=
  ∃ n ≤ bound, (avbPersistTaskStep^[n] s).task = .readDirty ∧
    (avbPersistTaskStep^[n] s).handed = s.persist

theorem Flushes.mono {bound bound' : Nat} (h : s.Flushes bound) (hle : bound ≤ bound') :
    s.Flushes bound' := by
  obtain ⟨n, hn, hflushed⟩ := h
  exact ⟨n, hn.trans hle, hflushed⟩

theorem Flushes.before {bound : Nat} (h : s.avbPersistTaskStep.Flushes bound)
    (hpersist : s.avbPersistTaskStep.persist = s.persist) : s.Flushes (bound + 1) := by
  obtain ⟨n, hn, htask, hhanded⟩ := h
  refine ⟨n + 1, Nat.succ_le_succ hn, htask, ?_⟩
  rw [← hpersist]
  exact hhanded

theorem persist_taskStep (s : SnapshotState α) : s.avbPersistTaskStep.persist = s.persist := by
  unfold avbPersistTaskStep
  cases s.task <;> rfl

theorem flushes_rest (htask : s.task = .readDirty) (hhanded : s.handed = s.persist) :
    s.Flushes 0 := ⟨0, le_rfl, htask, hhanded⟩

theorem flushes_write (htask : s.task = .write s.persist) : s.Flushes 1 := by
  refine (flushes_rest ?_ ?_).before s.persist_taskStep
  · simp only [avbPersistTaskStep, htask]
  · simp only [avbPersistTaskStep, htask]

theorem flushes_copy (htask : s.task = .copy) : s.Flushes 2 := by
  refine (flushes_write ?_).before s.persist_taskStep
  simp only [avbPersistTaskStep, htask]

theorem flushes_clearDirty (htask : s.task = .clearDirty) : s.Flushes 3 := by
  refine (flushes_copy ?_).before s.persist_taskStep
  simp only [avbPersistTaskStep, htask]

theorem flushes_clearLazy (htask : s.task = .clearLazy) : s.Flushes 4 := by
  refine (flushes_clearDirty ?_).before s.persist_taskStep
  simp only [avbPersistTaskStep, htask]

theorem flushes_readAge (hold : avbPersistForcedFlushMsec ≤ s.tick - s.dirtySinceTick)
    (htask : s.task = .readAge) : s.Flushes 5 := by
  refine (flushes_clearLazy ?_).before s.persist_taskStep
  simp only [avbPersistTaskStep, htask]
  exact if_neg (UInt32.not_lt.mpr hold)

theorem flushes_readLazy (hhard : s.lazySave = false)
    (hold : avbPersistForcedFlushMsec ≤ s.tick - s.dirtySinceTick) (htask : s.task = .readLazy) :
    s.Flushes 6 := by
  refine (flushes_readAge ?_ ?_).before s.persist_taskStep
  · simp only [avbPersistTaskStep, htask]
    exact hold
  · simp only [avbPersistTaskStep, htask, hhard, Bool.false_eq_true, if_false]

theorem flushes_readStreaming (hopen : s.GateOpen) (htask : s.task = .readStreaming) :
    s.Flushes 7 := by
  cases hstreaming : s.streaming with
  | false =>
      refine ((flushes_clearLazy ?_).before s.persist_taskStep).mono (by omega)
      simp only [avbPersistTaskStep, htask, hstreaming, Bool.false_eq_true, if_false]
  | true =>
      obtain ⟨hhard, hold⟩ := hopen.resolve_left (ne_false_of_eq_true hstreaming)
      refine (flushes_readLazy ?_ ?_ ?_).before s.persist_taskStep
      · simp only [avbPersistTaskStep, htask]
        exact hhard
      · simp only [avbPersistTaskStep, htask]
        exact hold
      · simp only [avbPersistTaskStep, htask, hstreaming, if_true]

theorem flushes_readDirty (hopen : s.GateOpen) (hcovered : s.dirty = true ∨ s.handed = s.persist)
    (htask : s.task = .readDirty) : s.Flushes 8 := by
  cases hdirty : s.dirty with
  | true =>
      refine (flushes_readStreaming ?_ ?_).before s.persist_taskStep
      · simp only [GateOpen, avbPersistTaskStep, htask]
        exact hopen
      · simp only [avbPersistTaskStep, htask, hdirty, if_true]
  | false =>
      have hhanded : s.handed = s.persist :=
        hcovered.resolve_left (ne_true_of_eq_false hdirty)
      exact (flushes_rest htask hhanded).mono (Nat.zero_le 8)

/-- From a step that ends the poll. -/
theorem flushes_polled (hopen : s.avbPersistTaskStep.GateOpen)
    (htaken : s.avbPersistTaskStep.dirty = true ∨ s.avbPersistTaskStep.handed = s.persist)
    (htask : s.avbPersistTaskStep.task = .readDirty) : s.Flushes 9 := by
  rw [← s.persist_taskStep] at htaken
  exact (flushes_readDirty hopen htaken htask).before s.persist_taskStep

theorem flushes_reachesAge (hopen : s.GateOpen) (htaken : s.dirty = true ∨ s.handed = s.persist)
    (htask : s.task = .readAge) : s.Flushes 9 := by
  by_cases hold : avbPersistForcedFlushMsec ≤ s.tick - s.dirtySinceTick
  · exact (flushes_readAge hold htask).mono (by omega)
  · have hback : s.avbPersistTaskStep = { s with task := .readDirty } := by
      simp only [avbPersistTaskStep, htask, if_pos (UInt32.not_le.mp hold)]
    apply flushes_polled
    · rw [hback]
      exact hopen
    · rw [hback]
      exact htaken
    · rw [hback]

theorem flushes_reachesLazy (hopen : s.GateOpen) (htaken : s.dirty = true ∨ s.handed = s.persist)
    (htask : s.task = .readLazy) : s.Flushes 10 := by
  cases hlazy : s.lazySave with
  | true =>
      have hback : s.avbPersistTaskStep = { s with task := .readDirty } := by
        simp only [avbPersistTaskStep, htask, hlazy, if_true]
      refine (flushes_polled ?_ ?_ ?_).mono (by omega)
      · rw [hback]
        exact hopen
      · rw [hback]
        exact htaken
      · rw [hback]
  | false =>
      have hnext : s.avbPersistTaskStep = { s with task := .readAge } := by
        simp only [avbPersistTaskStep, htask, hlazy, Bool.false_eq_true, if_false]
      refine Flushes.before ?_ s.persist_taskStep
      rw [hnext]
      exact flushes_reachesAge hopen htaken rfl

theorem flushes_reachesWrite {snapshot : α} (hopen : s.GateOpen)
    (htaken : s.dirty = true ∨ snapshot = s.persist) (htask : s.task = .write snapshot) :
    s.Flushes 9 := by
  have hwritten : s.avbPersistTaskStep = { s with handed := snapshot, task := .readDirty } := by
    simp only [avbPersistTaskStep, htask]
  apply flushes_polled
  · rw [hwritten]
    exact hopen
  · rw [hwritten]
    exact htaken
  · rw [hwritten]

/-- Wherever the task is, an open gate lets it finish. -/
theorem flushes_of_gateOpen (hcovered : s.Covered) (hidle : s.request = .idle) (hopen : s.GateOpen) :
    s.Flushes 10 := by
  have htaken : s.dirty = true ∨ TakenAt s.persist s.handed s.task :=
    hcovered.imp_right (·.resolve_left (not_not.mpr hidle))
  cases htask : s.task with
  | readDirty =>
      rw [htask] at htaken
      exact (flushes_readDirty hopen htaken htask).mono (by omega)
  | readStreaming => exact (flushes_readStreaming hopen htask).mono (by omega)
  | readLazy =>
      rw [htask] at htaken
      exact flushes_reachesLazy hopen htaken htask
  | readAge =>
      rw [htask] at htaken
      exact (flushes_reachesAge hopen htaken htask).mono (by omega)
  | clearLazy => exact (flushes_clearLazy htask).mono (by omega)
  | clearDirty => exact (flushes_clearDirty htask).mono (by omega)
  | copy => exact (flushes_copy htask).mono (by omega)
  | write snapshot =>
      rw [htask] at htaken
      exact (flushes_reachesWrite hopen htaken htask).mono (by omega)

end SnapshotState

/-! ### A save that is not lazy

It must not wait for the streams to end, so no later lazy one may hide it. -/

def PersistTaskPc.isCopy : PersistTaskPc α → Bool
  | .copy => true
  | _ => false

/-- `saving` is the kind of the request being made, `hard` that a request that was not lazy came to its
end after the task copied last. -/
structure SnapshotRun (α : Type) where
  state : SnapshotState α
  saving : Bool
  hard : Bool

namespace SnapshotRun

open SnapshotState

variable {run : SnapshotRun α}

def boot (loaded : α) : SnapshotRun α :=
  { state := .boot loaded, saving := false, hard := false }

def step (run : SnapshotRun α) (ev : SnapshotEvent α) : SnapshotRun α :=
  { state := snapshotStep run.state ev
    saving :=
      match ev with
      | .requestSave isLazy => if run.state.request = .idle then !isLazy else run.saving
      | _ => run.saving
    hard :=
      match ev with
      | .requestStep => run.hard || (run.saving && run.state.request = .setDirty)
      | .taskStep => run.hard && !run.state.task.isCopy
      | _ => run.hard }

/-- A request that is not lazy goes its own way, and clears the lazy mark before it sets dirty. -/
structure Requesting (run : SnapshotRun α) : Prop where
  notLazy : run.saving = true → run.state.request ≠ .readDirty true
  notSetLazy : run.saving = true → run.state.request ≠ .setLazy
  cleared : run.saving = true → run.state.request = .setDirty → run.state.lazySave = false

/-- Until the task copies, the mark stands. -/
def Marked (run : SnapshotRun α) : Prop :=
  run.hard = true → run.state.task = .copy ∨
    (run.state.dirty = true ∧ run.state.lazySave = false ∧ run.state.request ≠ .setLazy)

theorem Requesting.requestStep (h : run.Requesting) : (run.step .requestStep).Requesting := by
  obtain ⟨hlazy, hset, hcleared⟩ := h
  simp only [step, snapshotStep]
  cases hrequest : run.state.request with
  | readDirty isLazy =>
      cases isLazy with
      | true =>
          have hsaving : run.saving ≠ true := fun hsaving => hlazy hsaving hrequest
          exact ⟨fun h => absurd h hsaving, fun h => absurd h hsaving, fun h => absurd h hsaving⟩
      | false =>
          simp only [SnapshotState.requestStep, hrequest]
          constructor <;> intro hsaving <;> cases run.state.dirty <;> simp
  | readLazy =>
      simp only [SnapshotState.requestStep, hrequest]
      constructor <;> intro hsaving <;> cases run.state.lazySave <;> simp
  | setLazy => exact
      ⟨fun h => absurd hrequest (hset h), fun h => absurd hrequest (hset h),
        fun h => absurd hrequest (hset h)⟩
  | idle | stamp | clearLazy | setDirty =>
      simp only [SnapshotState.requestStep, hrequest]
      constructor <;> intro hsaving <;> simp [hrequest]

theorem Requesting.taskStep (h : run.Requesting) : (run.step .taskStep).Requesting := by
  obtain ⟨hlazy, hset, hcleared⟩ := h
  simp only [step, snapshotStep]
  have hrequest : run.state.avbPersistTaskStep.request = run.state.request := by
    unfold avbPersistTaskStep
    cases run.state.task <;> rfl
  refine ⟨?_, ?_, fun hsaving hdirty => ?_⟩
  · rw [hrequest]
    exact hlazy
  · rw [hrequest]
    exact hset
  · rw [hrequest] at hdirty
    have hfalse := hcleared hsaving hdirty
    unfold avbPersistTaskStep
    cases run.state.task <;> first | exact hfalse | rfl

theorem Requesting.step (h : run.Requesting) (ev : SnapshotEvent α) : (run.step ev).Requesting := by
  cases ev with
  | requestStep => exact h.requestStep
  | taskStep => exact h.taskStep
  | requestSave isLazy =>
      by_cases hidle : run.state.request = .idle
      · simp only [SnapshotRun.step, snapshotStep, avbPersistRequestSave, if_pos hidle]
        cases isLazy
        all_goals constructor <;> simp
      · simp only [SnapshotRun.step, snapshotStep, avbPersistRequestSave, if_neg hidle]
        exact ⟨h.notLazy, h.notSetLazy, h.cleared⟩
  | change | elapse | setStreaming => exact ⟨h.notLazy, h.notSetLazy, h.cleared⟩

theorem Marked.requestStep (h : run.Marked) (hrequesting : run.Requesting) :
    (run.step .requestStep).Marked := by
  intro hhard
  have htask : (run.step .requestStep).state.task = run.state.task := by
    simp only [SnapshotRun.step, snapshotStep, SnapshotState.requestStep]
    cases run.state.request with
    | readDirty isLazy => cases isLazy <;> rfl
    | _ => rfl
  rw [htask]
  rcases Bool.or_eq_true_iff.mp hhard with hhard | hsaved
  · refine (h hhard).imp_right ?_
    rintro ⟨hdirty, hlazy, hset⟩
    simp only [SnapshotRun.step, snapshotStep, SnapshotState.requestStep]
    cases hrequest : run.state.request with
    | readDirty isLazy => cases isLazy <;> simp [hdirty, hlazy]
    | setLazy => exact absurd hrequest hset
    | _ => simp [hdirty, hlazy, hrequest]
  · obtain ⟨hsaving, hrequest⟩ := Bool.and_eq_true_iff.mp hsaved
    have hsetDirty := of_decide_eq_true hrequest
    right
    simp only [SnapshotRun.step, snapshotStep, SnapshotState.requestStep, hsetDirty]
    exact ⟨trivial, hrequesting.cleared hsaving hsetDirty, SaveRequestPc.noConfusion⟩

theorem ne_copy {task : PersistTaskPc α} (h : task.isCopy = false) : task ≠ .copy := by
  rintro rfl
  exact Bool.noConfusion h

theorem Marked.taskStep (h : run.Marked) : (run.step .taskStep).Marked := by
  intro hhard
  obtain ⟨hbefore, hcopy⟩ := Bool.and_eq_true_iff.mp hhard
  obtain ⟨hdirty, hlazy, hset⟩ :=
    (h hbefore).resolve_left (ne_copy (Bool.eq_false_of_not_eq_true' hcopy))
  simp only [SnapshotRun.step, snapshotStep, avbPersistTaskStep]
  cases htask : run.state.task with
  | copy =>
      rw [htask] at hcopy
      exact absurd hcopy Bool.false_ne_true
  | clearDirty => exact .inl rfl
  | clearLazy => exact .inr ⟨hdirty, rfl, hset⟩
  | readDirty | readStreaming | readLazy | readAge | write => exact .inr ⟨hdirty, hlazy, hset⟩

theorem Marked.requestSave (h : run.Marked) (isLazy : Bool) :
    (run.step (.requestSave isLazy)).Marked := by
  intro hhard
  by_cases hidle : run.state.request = .idle
  · simp only [SnapshotRun.step, snapshotStep, avbPersistRequestSave, if_pos hidle]
    refine (h hhard).imp_right ?_
    rintro ⟨hdirty, hlazy, -⟩
    exact ⟨hdirty, hlazy, SaveRequestPc.noConfusion⟩
  · simp only [SnapshotRun.step, snapshotStep, avbPersistRequestSave, if_neg hidle]
    exact h hhard

theorem Marked.step (h : run.Marked) (hrequesting : run.Requesting) (ev : SnapshotEvent α) :
    (run.step ev).Marked := by
  cases ev with
  | requestStep => exact h.requestStep hrequesting
  | taskStep => exact h.taskStep
  | requestSave isLazy => exact h.requestSave isLazy
  | change | elapse | setStreaming => exact h

/-- The invariants together. -/
structure Sound (run : SnapshotRun α) : Prop where
  covered : run.state.Covered
  requesting : run.Requesting
  marked : run.Marked

theorem sound_boot (loaded : α) : (boot loaded).Sound :=
  { covered := .inr (.inr rfl)
    requesting :=
      ⟨fun _ => SaveRequestPc.noConfusion, fun _ => SaveRequestPc.noConfusion, fun _ _ => rfl⟩
    marked := fun h => absurd h Bool.false_ne_true }

theorem Sound.step (h : run.Sound) (ev : SnapshotEvent α) : (run.step ev).Sound :=
  { covered := h.covered.step ev
    requesting := h.requesting.step ev
    marked := h.marked.step h.requesting ev }

/-- A save that is not lazy passes the gate when it is old enough, lazy ones after it or not. -/
theorem Sound.flushes_hard (h : run.Sound) (hidle : run.state.request = .idle)
    (hhard : run.hard = true)
    (hold : avbPersistForcedFlushMsec ≤ run.state.tick - run.state.dirtySinceTick) :
    run.state.Flushes 10 := by
  rcases h.marked hhard with hcopy | ⟨-, hlazy, -⟩
  · exact (flushes_copy hcopy).mono (by omega)
  · exact flushes_of_gateOpen h.covered hidle (.inr ⟨hlazy, hold⟩)

end SnapshotRun

end EspAvb
