import EspAvb.Lib.Machine
import EspAvb.Persist
import EspAvb.Proof.Restore

/-!
# How long a write waits

What is asked for under heavy ingress is written by the first tick that finds it calm, or by the first
one more than three seconds after the oldest request that waits.
-/

namespace EspAvb

variable {cfg : AudioConfig} {listing : NvsListing} {s : EntityState} {env : PersistEnv}

/-! ## What the calls do -/

theorem writes_writeRate (s : EntityState) (flash : PersistFlash) :
    (avbPersistWriteRate s flash).2.writes = flash.writes := by
  unfold avbPersistWriteRate
  split
  · split <;> rfl
  · rfl

/-- Whatever becomes of the write, it is the one more. -/
theorem writes_writeItem (s : EntityState) (item : PersistItem) (flash : PersistFlash) :
    (persistWriteItem cfg listing s item flash).2.writes = flash.writes ++ [item] := by
  cases item with
  | rate => exact writes_writeRate s _
  | inputMap => rfl
  | stream stream => rfl

def persistWriteItems (cfg : AudioConfig) (listing : NvsListing) (s : EntityState)
    (flash : PersistFlash) (items : List PersistItem) : PersistFlash :=
  items.foldl (fun flash item => (persistWriteItem cfg listing s item flash).2) flash

theorem writes_writeItems (items : List PersistItem) (flash : PersistFlash) :
    (persistWriteItems cfg listing s flash items).writes = flash.writes ++ items := by
  induction items generalizing flash with
  | nil => exact (List.append_nil _).symm
  | cons item items ih =>
      refine (ih _).trans ?_
      rw [writes_writeItem, List.append_assoc, List.singleton_append]

theorem nodup_outputsThenInputs : outputsThenInputs.Nodup := by decide

theorem mem_outputsThenInputs (stream : JournalStream) : stream ∈ outputsThenInputs := by
  obtain ⟨input, index⟩ := stream
  cases input <;> simp [outputsThenInputs]

theorem PersistItem.nodup_all : PersistItem.all.Nodup := by
  have hstreams : (outputsThenInputs.map PersistItem.stream).Nodup :=
    nodup_outputsThenInputs.map fun _ _ h => PersistItem.stream.inj h
  simp [PersistItem.all, hstreams]

theorem PersistItem.mem_all (item : PersistItem) : item ∈ PersistItem.all := by
  cases item with
  | rate => exact List.mem_cons_self
  | inputMap => exact List.mem_cons_of_mem _ List.mem_cons_self
  | stream stream =>
      exact List.mem_cons_of_mem _ (List.mem_cons_of_mem _
        (List.mem_map_of_mem (mem_outputsThenInputs stream)))

/-- With these items written. -/
def PersistDeferral.without (d : PersistDeferral) (items : List PersistItem) : PersistDeferral :=
  { d with pending := fun item => if item ∈ items then false else d.pending item }

theorem PersistDeferral.without_cons (d : PersistDeferral) (item : PersistItem)
    (items : List PersistItem) :
    { d with pending := Function.update d.pending item false : PersistDeferral }.without items
      = d.without (item :: items) := by
  apply congrArg fun pending => { d with pending : PersistDeferral }
  funext other
  by_cases hother : other = item
  · rw [hother, if_pos List.mem_cons_self]
    dsimp only
    rw [Function.update_self, ite_self]
  · simp only [List.mem_cons, hother, false_or, Function.update_of_ne hother]

/-- The items of a list are written in its order, those of them that wait, and wait no more. -/
theorem writePending_items {items : List PersistItem} (hnodup : items.Nodup) (device : PersistDevice) :
    let written := items.foldl (persistWritePending cfg listing s) device
    written.flash
        = persistWriteItems cfg listing s device.flash (items.filter device.deferral.pending) ∧
      written.deferral = device.deferral.without items := by
  induction items generalizing device with
  | nil => simp [PersistDeferral.without, persistWriteItems]
  | cons item items ih =>
      obtain ⟨hnew, hnodup⟩ := List.nodup_cons.mp hnodup
      have hrest := ih hnodup (persistWritePending cfg listing s device item)
      intro written
      cases hpending : device.deferral.pending item with
      | false =>
          have hskip : persistWritePending cfg listing s device item = device := by
            unfold persistWritePending
            rw [hpending]
            rfl
          have hsame : Function.update device.deferral.pending item false = device.deferral.pending := by
            rw [← hpending, Function.update_eq_self]
          rw [hskip] at hrest
          simp only [written, List.foldl_cons, hskip]
          refine ⟨?_, hrest.2.trans ?_⟩
          · rw [hrest.1, List.filter_cons_of_neg (ne_true_of_eq_false hpending)]
          · rw [← PersistDeferral.without_cons, hsame]
      | true =>
          have hwrite : persistWritePending cfg listing s device item =
              { deferral := { device.deferral with
                  pending := Function.update device.deferral.pending item false }
                flash := (persistWriteItem cfg listing s item device.flash).2 } := by
            unfold persistWritePending
            rw [hpending]
            rfl
          have hothers : items.filter (Function.update device.deferral.pending item false)
              = items.filter device.deferral.pending := by
            apply List.filter_congr
            rintro other hother
            have hne : other ≠ item := by
              rintro rfl
              exact hnew hother
            rw [Function.update_of_ne hne]
          rw [hwrite] at hrest
          simp only [written, List.foldl_cons, hwrite]
          refine ⟨?_, hrest.2.trans (PersistDeferral.without_cons _ _ _)⟩
          rw [hrest.1, hothers, List.filter_cons_of_pos hpending]
          rfl

def PersistCall.item : PersistCall → Option PersistItem
  | .appendStream input index =>
      if h : index < 8 then some (.stream ⟨input, ⟨index, h⟩⟩) else none
  | .saveInputMap => some .inputMap
  | .saveRate => some .rate
  | .journalTick => none

theorem PersistCall.item_journalTick : PersistCall.journalTick.item = none := rfl

/-- What a call does to the deferral, and which items it hands to flash. -/
inductive PersistMove (env : PersistEnv) (d : PersistDeferral) :
    PersistCall → PersistDeferral → List PersistItem → Prop
  | refused {call : PersistCall} (hitem : call.item = none) (htick : call ≠ .journalTick) :
      PersistMove env d call d []
  | atOnce {call : PersistCall} {item : PersistItem} (hitem : call.item = some item)
      (hquiet : (avbPersistSampleIngress env d).ingressQuiet = true) :
      PersistMove env d call (avbPersistSampleIngress env d) [item]
  | deferred {call : PersistCall} {item : PersistItem} (hitem : call.item = some item)
      (hbusy : (avbPersistSampleIngress env d).ingressQuiet = false) :
      PersistMove env d call ((avbPersistSampleIngress env d).defer env item) []
  | waits (hwaits : (avbPersistSampleIngress env d).pendingSinceUs = 0 ∨
        ((avbPersistSampleIngress env d).ingressQuiet = false ∧
          env.nowUs - (avbPersistSampleIngress env d).pendingSinceUs ≤ avbPersistQuietMaxUs)) :
      PersistMove env d .journalTick (avbPersistSampleIngress env d) []
  | flushed (hsince : (avbPersistSampleIngress env d).pendingSinceUs ≠ 0)
      (hdue : (avbPersistSampleIngress env d).ingressQuiet = true ∨
        avbPersistQuietMaxUs < env.nowUs - (avbPersistSampleIngress env d).pendingSinceUs) :
      PersistMove env d .journalTick
        ({ avbPersistSampleIngress env d with pendingSinceUs := 0 : PersistDeferral }.without
          PersistItem.all)
        (PersistItem.all.filter (avbPersistSampleIngress env d).pending)

theorem persistSaveItem_move (item : PersistItem) (device : PersistDevice) {call : PersistCall}
    (hitem : call.item = some item) :
    let saved := (persistSaveItem env cfg listing s item device).2
    ∃ written, PersistMove env device.deferral call saved.deferral written ∧
      saved.flash = persistWriteItems cfg listing s device.flash written := by
  intro saved
  cases hquiet : (avbPersistSampleIngress env device.deferral).ingressQuiet with
  | true =>
      have hsaved : saved = ⟨avbPersistSampleIngress env device.deferral,
          (persistWriteItem cfg listing s item device.flash).2⟩ := by
        simp only [saved, persistSaveItem, hquiet, if_true]
      rw [hsaved]
      exact ⟨[item], .atOnce hitem hquiet, rfl⟩
  | false =>
      have hsaved : saved = { device with
          deferral := (avbPersistSampleIngress env device.deferral).defer env item } := by
        simp only [saved, persistSaveItem, hquiet, Bool.false_eq_true, if_false]
      rw [hsaved]
      exact ⟨[], .deferred hitem hquiet, rfl⟩

theorem journalTick_move (device : PersistDevice) :
    let ticked := avbPersistJournalTick env cfg listing s device
    ∃ written, PersistMove env device.deferral .journalTick ticked.deferral written ∧
      ticked.flash = persistWriteItems cfg listing s device.flash written := by
  intro ticked
  generalize hsampled : avbPersistSampleIngress env device.deferral = sampled
  by_cases hwaits : sampled.pendingSinceUs = 0 ∨
      (sampled.ingressQuiet = false ∧ env.nowUs - sampled.pendingSinceUs ≤ avbPersistQuietMaxUs)
  · have hticked : ticked = { device with deferral := sampled } := by
      simp only [ticked, avbPersistJournalTick, hsampled]
      rcases hwaits with hnone | ⟨hbusy, hyoung⟩
      · rw [if_pos hnone]
      · rw [ite_eq_left_iff]
        intro _
        rw [if_pos ⟨ne_true_of_eq_false hbusy, hyoung⟩]
    rw [hticked]
    refine ⟨[], ?_, rfl⟩
    subst hsampled
    exact .waits hwaits
  · obtain ⟨hsince, hdue⟩ := not_or.mp hwaits
    have hdue' : sampled.ingressQuiet = true ∨
        avbPersistQuietMaxUs < env.nowUs - sampled.pendingSinceUs := by
      cases hquiet : sampled.ingressQuiet with
      | true => exact .inl rfl
      | false => exact .inr (not_le.mp fun hle => hdue ⟨hquiet, hle⟩)
    have hgoes : ¬ (¬ sampled.ingressQuiet = true ∧
        env.nowUs - sampled.pendingSinceUs ≤ avbPersistQuietMaxUs) := by
      rintro ⟨hbusy, hyoung⟩
      exact hdue ⟨Bool.eq_false_of_not_eq_true hbusy, hyoung⟩
    have hticked : ticked = PersistItem.all.foldl (persistWritePending cfg listing s)
        { device with deferral := { sampled with pendingSinceUs := 0 } } := by
      simp only [ticked, avbPersistJournalTick, hsampled]
      rw [if_neg hsince, if_neg hgoes]
    obtain ⟨hwrites, hdeferral⟩ := @writePending_items cfg listing s _ PersistItem.nodup_all
      { device with deferral := { sampled with pendingSinceUs := 0 } }
    rw [hticked]
    refine ⟨_, ?_, hwrites⟩
    rw [hdeferral]
    subst hsampled
    exact .flushed hsince hdue'

theorem persistCall_move (call : PersistCall) (device : PersistDevice) :
    let device' := persistCall cfg listing s env device call
    ∃ written, PersistMove env device.deferral call device'.deferral written ∧
      device'.flash = persistWriteItems cfg listing s device.flash written := by
  cases call with
  | appendStream input index =>
      by_cases hindex : index < 8
      · simp only [persistCall, avbPersistAppendStream, dif_pos hindex]
        exact persistSaveItem_move _ _ (dif_pos hindex)
      · simp only [persistCall, avbPersistAppendStream, dif_neg hindex]
        exact ⟨[], .refused (dif_neg hindex) PersistCall.noConfusion, rfl⟩
  | saveInputMap => exact persistSaveItem_move _ _ rfl
  | saveRate => exact persistSaveItem_move _ _ rfl
  | journalTick => exact journalTick_move device

/-! ## Runs -/

/-- Since power came on: the clock, what was asked for and read at which call, and for each item when
it was first asked for since it was last written. -/
structure DeferralRun where
  device : PersistDevice
  nowUs : Int
  lastTickUs : Int
  requests : List (PersistItem × Int)
  readings : List PersistEnv
  asked : PersistItem → Option Int

namespace DeferralRun

variable {run : DeferralRun}

def powerOn (device : PersistDevice) : DeferralRun :=
  { device := { device with deferral := .init }, nowUs := 0, lastTickUs := 0, requests := []
    readings := [], asked := fun _ => none }

/-- What a step hands to flash. -/
def written (run : DeferralRun) (device : PersistDevice) : List PersistItem :=
  device.flash.writes.drop run.device.flash.writes.length

def called (run : DeferralRun) (device : PersistDevice) (call : PersistCall) (env : PersistEnv) :
    DeferralRun :=
  { device
    nowUs := env.nowUs
    lastTickUs := if call = .journalTick then env.nowUs else run.lastTickUs
    requests := run.requests ++ (call.item.map (·, env.nowUs)).toList
    readings := run.readings ++ [env]
    asked := fun item =>
      if item ∈ run.written device then none
      else if call.item = some item then some ((run.asked item).getD env.nowUs)
      else run.asked item }

def otherwise (run : DeferralRun) (device : PersistDevice) : JournalEvent → DeferralRun
  | .boot _ _ => powerOn device
  | _ => { run with device }

def step (cfg : AudioConfig) (listing : NvsListing) (run : DeferralRun) (ev : PersistEvent) :
    DeferralRun :=
  let device := persistStep cfg listing run.device ev
  match ev with
  | .call call _ env _ => run.called device call env
  | .other event => run.otherwise device event

/-- The clock runs on. -/
def Timed (run : DeferralRun) : PersistEvent → Prop
  | .call _ _ env _ => 0 < env.nowUs ∧ run.nowUs ≤ env.nowUs
  | .other _ => True

instance (run : DeferralRun) (ev : PersistEvent) : Decidable (run.Timed ev) :=
  match ev with
  | .call _ _ _ _ => inferInstanceAs (Decidable (_ ∧ _))
  | .other _ => inferInstanceAs (Decidable True)

/-- More than 1000 frames a second came in between two readings at least 50 ms apart. -/
def Heavy (first last : PersistEnv) : Prop :=
  first.nowUs + avbPersistIngressSampleUs ≤ last.nowUs ∧
    avbPersistBusyFramesPerS * (last.nowUs - first.nowUs) <
      ((last.rxTotal - first.rxTotal).toNat : Int) * 1000000

/-- The deferral's statics come from the readings. -/
structure Sampled (d : PersistDeferral) (readings : List PersistEnv) : Prop where
  sample : d.ingressSampleUs = 0 ∨ ⟨d.ingressSampleUs, d.ingressSampleCount⟩ ∈ readings
  heavy : d.ingressBusyUntilUs = 0 ∨ ∃ first ∈ readings, ∃ last ∈ readings,
    Heavy first last ∧ d.ingressBusyUntilUs = last.nowUs + avbPersistQuietUs
  quiet : d.ingressQuiet = decide (d.ingressBusyUntilUs ≤ d.ingressSampleUs)
  sample_nonneg : 0 ≤ d.ingressSampleUs

/-- The items that wait and the time since when. -/
structure Waiting (run : DeferralRun) : Prop where
  since : run.device.deferral.pendingSinceUs = 0 ∨
    (0 < run.device.deferral.pendingSinceUs ∧ run.device.deferral.pendingSinceUs ≤ run.nowUs ∧
      ∃ item, run.device.deferral.pending item = true ∧
        (item, run.device.deferral.pendingSinceUs) ∈ run.requests)
  pending : ∀ item, run.device.deferral.pending item = true →
    run.device.deferral.pendingSinceUs ≠ 0 ∧ ∃ atUs, (item, atUs) ∈ run.requests
  asked : ∀ item atUs, run.asked item = some atUs →
    run.device.deferral.pending item = true ∧ run.device.deferral.pendingSinceUs ≤ atUs
  tick : run.device.deferral.pendingSinceUs ≠ 0 →
    run.lastTickUs ≤ run.device.deferral.pendingSinceUs + avbPersistQuietMaxUs
  tick_le : run.lastTickUs ≤ run.nowUs

theorem sampled_init (readings : List PersistEnv) : Sampled .init readings :=
  ⟨.inl rfl, .inl rfl, rfl, le_rfl⟩

theorem waiting_powerOn (device : PersistDevice) : (powerOn device).Waiting :=
  { since := .inl rfl
    pending := fun _ h => absurd h Bool.false_ne_true
    asked := fun _ _ h => absurd h.symm (Option.some_ne_none _)
    tick := fun h => absurd rfl h
    tick_le := le_rfl }

/-! ### Sampling -/

theorem Sampled.mono {d : PersistDeferral} {readings : List PersistEnv} (h : Sampled d readings)
    (env : PersistEnv) : Sampled d (readings ++ [env]) where
  sample := h.sample.imp_right (List.mem_append_left _)
  heavy := h.heavy.imp_right fun ⟨first, hfirst, last, hlast, hheavy⟩ =>
    ⟨first, List.mem_append_left _ hfirst, last, List.mem_append_left _ hlast, hheavy⟩
  quiet := h.quiet
  sample_nonneg := h.sample_nonneg

theorem Sampled.reading {d : PersistDeferral} {readings : List PersistEnv} (h : Sampled d readings)
    (hpos : 0 < env.nowUs) : Sampled (avbPersistSampleIngress env d) (readings ++ [env]) := by
  unfold avbPersistSampleIngress
  dsimp only
  split
  · exact h.mono env
  · rename_i hapart
    have hlast : env ∈ readings ++ [env] := List.mem_append_right _ List.mem_cons_self
    refine ⟨.inr hlast, ?_, rfl, hpos.le⟩
    dsimp only
    split
    · rename_i hheavy
      obtain ⟨hsecond, hframes⟩ := hheavy
      have hfirst := h.sample.resolve_left hsecond
      refine .inr ⟨_, List.mem_append_left _ hfirst, env, hlast, ⟨?_, hframes⟩, rfl⟩
      dsimp only
      omega
    · exact (h.mono env).heavy

@[simp]
theorem sampleIngress_pending (env : PersistEnv) (d : PersistDeferral) :
    (avbPersistSampleIngress env d).pending = d.pending := by
  unfold avbPersistSampleIngress
  dsimp only
  split <;> rfl

@[simp]
theorem sampleIngress_pendingSinceUs (env : PersistEnv) (d : PersistDeferral) :
    (avbPersistSampleIngress env d).pendingSinceUs = d.pendingSinceUs := by
  unfold avbPersistSampleIngress
  dsimp only
  split <;> rfl

theorem Sampled.move {d d' : PersistDeferral} {call : PersistCall} {written : List PersistItem}
    {readings : List PersistEnv} (h : Sampled d readings) (hpos : 0 < env.nowUs)
    (hmove : PersistMove env d call d' written) : Sampled d' (readings ++ [env]) := by
  have hreading := h.reading hpos
  cases hmove with
  | refused => exact h.mono env
  | atOnce | waits => exact hreading
  | deferred | flushed =>
      exact ⟨hreading.sample, hreading.heavy, hreading.quiet, hreading.sample_nonneg⟩

/-! ### Waiting -/

theorem written_eq {device : PersistDevice} {written : List PersistItem}
    (h : device.flash.writes = run.device.flash.writes ++ written) : run.written device = written := by
  unfold DeferralRun.written
  rw [h, List.drop_left]

variable {device : PersistDevice} {call : PersistCall} {written : List PersistItem}

theorem mem_requests {item : PersistItem} {atUs : Int} (h : (item, atUs) ∈ run.requests) :
    (item, atUs) ∈ (run.called device call env).requests :=
  List.mem_append_left _ h

theorem mem_requests_called {item : PersistItem} (hitem : call.item = some item) :
    (item, env.nowUs) ∈ (run.called device call env).requests := by
  apply List.mem_append_right
  rw [hitem]
  exact List.mem_cons_self

theorem asked_called (hwritten : run.written device = written) (item : PersistItem) :
    (run.called device call env).asked item =
      if item ∈ written then none
      else if call.item = some item then some ((run.asked item).getD env.nowUs)
      else run.asked item := by
  rw [← hwritten]
  rfl

/-- A call that leaves what waits as it is, and asks for nothing or writes it at once. -/
theorem Waiting.kept (h : run.Waiting) (hle : run.nowUs ≤ env.nowUs)
    (hpending : device.deferral.pending = run.device.deferral.pending)
    (hsince : device.deferral.pendingSinceUs = run.device.deferral.pendingSinceUs)
    (hasked : ∀ item atUs, (run.called device call env).asked item = some atUs →
      run.asked item = some atUs)
    (htick : call = .journalTick → device.deferral.pendingSinceUs ≠ 0 →
      env.nowUs ≤ device.deferral.pendingSinceUs + avbPersistQuietMaxUs) :
    (run.called device call env).Waiting where
  since := by
    refine hsince ▸ h.since.imp_right ?_
    rintro ⟨hpos, hbefore, item, hitem, hmem⟩
    exact ⟨hpos, hbefore.trans hle, item, hpending ▸ hitem, mem_requests hmem⟩
  pending item hitem := by
    obtain ⟨hne, atUs, hmem⟩ := h.pending item (hpending ▸ hitem)
    exact ⟨hsince ▸ hne, atUs, mem_requests hmem⟩
  asked item atUs hatUs := by
    obtain ⟨hitem, hafter⟩ := h.asked item atUs (hasked item atUs hatUs)
    exact ⟨hpending ▸ hitem, hsince ▸ hafter⟩
  tick hne := by
    by_cases hcall : call = .journalTick
    · simp only [DeferralRun.called, if_pos hcall]
      exact htick hcall hne
    · simp only [DeferralRun.called, if_neg hcall]
      exact hsince ▸ h.tick (hsince ▸ hne)
  tick_le := by
    simp only [DeferralRun.called]
    split
    · exact le_rfl
    · exact h.tick_le.trans hle

theorem Waiting.deferred (h : run.Waiting) (hpos : 0 < env.nowUs) (hle : run.nowUs ≤ env.nowUs)
    {item : PersistItem} (hitem : call.item = some item)
    (hd : device.deferral = (avbPersistSampleIngress env run.device.deferral).defer env item)
    (hwritten : run.written device = []) : (run.called device call env).Waiting := by
  obtain ⟨hsince, hpending, hasked, htick, htickLe⟩ := h
  have hpend : device.deferral.pending
      = Function.update run.device.deferral.pending item true := by
    simp only [hd, PersistDeferral.defer, sampleIngress_pending]
  have hself : device.deferral.pending item = true := by rw [hpend, Function.update_self]
  have hother : ∀ other ≠ item,
      device.deferral.pending other = run.device.deferral.pending other := by
    intro other hne
    rw [hpend, Function.update_of_ne hne]
  have hsinceEq : device.deferral.pendingSinceUs =
      if run.device.deferral.pendingSinceUs = 0 then env.nowUs
      else run.device.deferral.pendingSinceUs := by
    simp only [hd, PersistDeferral.defer, sampleIngress_pendingSinceUs]
  have hnotTick : call ≠ .journalTick := by
    rintro rfl
    exact Option.some_ne_none item hitem.symm
  have hsinceLe : 0 < device.deferral.pendingSinceUs ∧ device.deferral.pendingSinceUs ≤ env.nowUs := by
    rw [hsinceEq]
    rcases hsince with hnone | ⟨hafter, hbefore, -⟩
    · rw [if_pos hnone]
      exact ⟨hpos, le_rfl⟩
    · rw [if_neg hafter.ne']
      exact ⟨hafter, hbefore.trans hle⟩
  constructor
  · refine .inr ⟨hsinceLe.1, hsinceLe.2, ?_⟩
    rcases hsince with hnone | ⟨hafter, -, oldest, holdest, hmem⟩
    · refine ⟨item, hself, ?_⟩
      simp only [DeferralRun.called]
      rw [hsinceEq, if_pos hnone]
      exact @mem_requests_called env run device call item hitem
    · refine ⟨oldest, ?_, ?_⟩
      · by_cases hsame : oldest = item
        · exact hsame ▸ hself
        · exact (hother oldest hsame).trans holdest
      · simp only [DeferralRun.called]
        rw [hsinceEq, if_neg hafter.ne']
        exact @mem_requests env run device call oldest _ hmem
  · intro waiting hwaiting
    refine ⟨hsinceLe.1.ne', ?_⟩
    by_cases hsame : waiting = item
    · rw [hsame]
      exact ⟨env.nowUs, @mem_requests_called env run device call item hitem⟩
    · obtain ⟨-, atUs, hmem⟩ := hpending waiting ((hother waiting hsame).symm.trans hwaiting)
      exact ⟨atUs, mem_requests hmem⟩
  · intro waiting atUs hatUs
    rw [asked_called hwritten, if_neg List.not_mem_nil] at hatUs
    by_cases hsame : waiting = item
    · subst hsame
      rw [if_pos hitem] at hatUs
      refine ⟨hself, ?_⟩
      cases hbefore : run.asked waiting with
      | none =>
          rw [hbefore] at hatUs
          obtain rfl := Option.some.inj hatUs
          exact hsinceLe.2
      | some first =>
          rw [hbefore] at hatUs
          obtain rfl := Option.some.inj hatUs
          obtain ⟨hwaiting, hfirst⟩ := hasked waiting first hbefore
          simp only [DeferralRun.called]
          rw [hsinceEq, if_neg (hpending waiting hwaiting).1]
          exact hfirst
    · have hnotAsked : call.item ≠ some waiting := by
        rw [hitem]
        exact fun h => hsame (Option.some.inj h).symm
      rw [if_neg hnotAsked] at hatUs
      obtain ⟨hwaiting, hfirst⟩ := hasked waiting atUs hatUs
      refine ⟨(hother waiting hsame).trans hwaiting, ?_⟩
      simp only [DeferralRun.called]
      rw [hsinceEq, if_neg (hpending waiting hwaiting).1]
      exact hfirst
  · intro _
    simp only [DeferralRun.called, if_neg hnotTick]
    rw [hsinceEq]
    split
    · simp only [avbPersistQuietMaxUs]
      omega
    · rename_i hne
      exact htick hne
  · simp only [DeferralRun.called, if_neg hnotTick]
    exact htickLe.trans hle

theorem Waiting.flushed (h : run.Waiting) {d : PersistDeferral}
    (hpending : d.pending = run.device.deferral.pending)
    (hd : device.deferral = { d with pendingSinceUs := 0 : PersistDeferral }.without PersistItem.all)
    (hwritten : run.written device = PersistItem.all.filter d.pending) :
    (run.called device .journalTick env).Waiting := by
  have hnone : ∀ item, device.deferral.pending item = false := by
    intro item
    rw [hd]
    exact if_pos item.mem_all
  have hsince : device.deferral.pendingSinceUs = 0 := by rw [hd]; rfl
  constructor
  · exact .inl hsince
  · intro item hitem
    exact absurd hitem (ne_true_of_eq_false (hnone item))
  · intro item atUs hatUs
    rw [asked_called hwritten, PersistCall.item_journalTick,
      if_neg (Option.some_ne_none item).symm] at hatUs
    split at hatUs
    · exact absurd hatUs.symm (Option.some_ne_none atUs)
    · rename_i hkept
      have hwaits := (h.asked item atUs hatUs).1
      rw [← hpending] at hwaits
      exact absurd (List.mem_filter.mpr ⟨item.mem_all, hwaits⟩) hkept
  · intro hne
    exact absurd hsince hne
  · exact le_rfl

theorem Waiting.called (h : run.Waiting) (hpos : 0 < env.nowUs) (hle : run.nowUs ≤ env.nowUs)
    (hmove : PersistMove env run.device.deferral call device.deferral written)
    (hwrites : device.flash.writes = run.device.flash.writes ++ written) :
    (run.called device call env).Waiting := by
  have hwritten := written_eq hwrites
  generalize hd : device.deferral = d' at hmove
  cases hmove with
  | refused hitem hnotTick =>
      refine h.kept hle (by rw [hd]) (by rw [hd]) ?_ fun htick => absurd htick hnotTick
      intro item atUs hatUs
      rw [asked_called hwritten, if_neg List.not_mem_nil, hitem,
        if_neg (Option.some_ne_none item).symm] at hatUs
      exact hatUs
  | @atOnce call item hitem hquiet =>
      have hnotTick : call ≠ .journalTick := by
        rintro rfl
        exact Option.some_ne_none item hitem.symm
      refine h.kept hle (by rw [hd, sampleIngress_pending]) (by rw [hd, sampleIngress_pendingSinceUs])
        ?_ fun htick => absurd htick hnotTick
      intro other atUs hatUs
      rw [asked_called hwritten] at hatUs
      split at hatUs
      · exact absurd hatUs.symm (Option.some_ne_none atUs)
      · rename_i hother
        have hnotAsked : call.item ≠ some other := by
          rw [hitem]
          rintro hsame
          exact hother (List.mem_singleton.mpr (Option.some.inj hsame).symm)
        rwa [if_neg hnotAsked] at hatUs
  | deferred hitem hbusy => exact h.deferred hpos hle hitem hd hwritten
  | waits hwaits =>
      refine h.kept hle (by rw [hd, sampleIngress_pending]) (by rw [hd, sampleIngress_pendingSinceUs])
        ?_ fun _ hne => ?_
      · intro item atUs hatUs
        rw [asked_called hwritten, if_neg List.not_mem_nil, PersistCall.item_journalTick,
          if_neg (Option.some_ne_none item).symm] at hatUs
        exact hatUs
      · rw [hd] at hne ⊢
        obtain ⟨-, hyoung⟩ := hwaits.resolve_left hne
        omega
  | flushed hne hdue => exact h.flushed (sampleIngress_pending env _) hd hwritten

/-! ### What a call may write -/

/-- Heavy ingress was measured less than 350 ms before `nowUs`. -/
def HeavyAt (readings : List PersistEnv) (nowUs : Int) : Prop :=
  ∃ first ∈ readings, ∃ last ∈ readings, Heavy first last ∧
    nowUs < last.nowUs + avbPersistQuietUs + avbPersistIngressSampleUs

theorem Sampled.heavyAt {d : PersistDeferral} {readings : List PersistEnv} (h : Sampled d readings)
    (hbusy : d.ingressQuiet = false) {nowUs : Int}
    (hfresh : nowUs < d.ingressSampleUs + avbPersistIngressSampleUs) : HeavyAt readings nowUs := by
  rw [h.quiet] at hbusy
  have hbefore : d.ingressSampleUs < d.ingressBusyUntilUs := not_le.mp (of_decide_eq_false hbusy)
  have hnonneg := h.sample_nonneg
  rcases h.heavy with hnone | ⟨first, hfirst, last, hlast, hheavy, huntil⟩
  · omega
  · exact ⟨first, hfirst, last, hlast, hheavy, by omega⟩

theorem sampleIngress_fresh (env : PersistEnv) (d : PersistDeferral) :
    env.nowUs < (avbPersistSampleIngress env d).ingressSampleUs + avbPersistIngressSampleUs := by
  unfold avbPersistSampleIngress
  dsimp only
  split
  · omega
  · simp only [avbPersistIngressSampleUs]
    omega

/-- What a call hands to flash: nothing out of order or unasked; what it is asked for, unless the
ingress is heavy; and while it is heavy, nothing before three seconds have passed. -/
structure WritesInTime (run' : DeferralRun) (call : PersistCall) (written : List PersistItem) :
    Prop where
  ordered : written.Sublist PersistItem.all
  asked : ∀ item ∈ written, ∃ atUs, (item, atUs) ∈ run'.requests
  atOnce : ∀ item, call.item = some item → item ∈ written ∨ HeavyAt run'.readings run'.nowUs
  calm : written = [] ∨ run'.device.deferral.ingressQuiet = true ∨
    ∃ item ∈ written, ∃ atUs, (item, atUs) ∈ run'.requests ∧
      atUs + avbPersistQuietMaxUs < run'.nowUs

theorem writesInTime (hwaiting : run.Waiting) (hsampled : Sampled run.device.deferral run.readings)
    (hpos : 0 < env.nowUs)
    (hmove : PersistMove env run.device.deferral call device.deferral written) :
    WritesInTime (run.called device call env) call written := by
  have hreading := hsampled.reading hpos
  generalize hd : device.deferral = d' at hmove
  cases hmove with
  | refused hitem hnotTick =>
      exact ⟨List.nil_sublist _, fun _ h => absurd h List.not_mem_nil,
        fun item h => absurd (hitem.symm.trans h).symm (Option.some_ne_none item), .inl rfl⟩
  | @atOnce call item hitem hquiet =>
      refine ⟨List.singleton_sublist.mpr item.mem_all, ?_, ?_, .inr (.inl (hd ▸ hquiet))⟩
      · intro other hother
        rw [List.mem_singleton.mp hother]
        exact ⟨env.nowUs, @mem_requests_called env run device call item hitem⟩
      · intro other hother
        rw [hitem] at hother
        exact .inl (List.mem_singleton.mpr (Option.some.inj hother).symm)
  | deferred hitem hbusy =>
      exact ⟨List.nil_sublist _, fun _ h => absurd h List.not_mem_nil,
        fun _ _ => .inr (hreading.heavyAt hbusy (sampleIngress_fresh env _)), .inl rfl⟩
  | waits hwaits =>
      exact ⟨List.nil_sublist _, fun _ h => absurd h List.not_mem_nil,
        fun item h => absurd h.symm (Option.some_ne_none item), .inl rfl⟩
  | flushed hne hdue =>
      rw [sampleIngress_pendingSinceUs] at hne hdue
      rw [sampleIngress_pending]
      refine ⟨List.filter_sublist, ?_, fun item h => absurd h.symm (Option.some_ne_none item), ?_⟩
      · intro item hitem
        obtain ⟨-, atUs, hmem⟩ := hwaiting.pending item (List.mem_filter.mp hitem).2
        exact ⟨atUs, mem_requests hmem⟩
      · right
        refine hdue.imp (fun hquiet => ?_) fun hlate => ?_
        · simp only [DeferralRun.called, hd]
          exact hquiet
        · obtain ⟨-, -, item, hitem, hmem⟩ := hwaiting.since.resolve_left hne
          refine ⟨item, List.mem_filter.mpr ⟨item.mem_all, hitem⟩, _, mem_requests hmem, ?_⟩
          simp only [DeferralRun.called]
          omega

/-! ### Every run -/

structure Sound (run : DeferralRun) : Prop where
  sampled : Sampled run.device.deferral run.readings
  waiting : run.Waiting

theorem sound_powerOn (device : PersistDevice) : (powerOn device).Sound :=
  ⟨sampled_init [], waiting_powerOn device⟩

theorem Sound.step (h : run.Sound) {ev : PersistEvent} (htimed : run.Timed ev) :
    (run.step cfg listing ev).Sound := by
  cases ev with
  | call call s env results =>
      obtain ⟨hpos, hle⟩ := htimed
      obtain ⟨written, hmove, hflash⟩ := @persistCall_move cfg listing s env call
        (run.device.script results)
      exact ⟨h.sampled.move hpos hmove,
        h.waiting.called hpos hle hmove ((congrArg _ hflash).trans (writes_writeItems _ _))⟩
  | other event =>
      cases event with
      | boot => exact sound_powerOn _
      | append | compact | saveSnapshot | saveInputMap | foreignSnapshot =>
          exact ⟨h.sampled, ⟨h.waiting.since, h.waiting.pending, h.waiting.asked, h.waiting.tick,
            h.waiting.tick_le⟩⟩

end DeferralRun

open DeferralRun

/-- A device on an empty namespace. -/
def PersistDevice.empty : PersistDevice :=
  { deferral := .init
    flash :=
      { journal :=
          { seq := 0, nvs := { blobs := ∅, results := [], writes := [] }, restored := fun _ => none }
        rate := none
        writes := [] } }

end EspAvb
