import EspAvb.Proof.Deferral
import EspAvb.Proof.Durability
import EspAvb.Proof.Restore

/-!
# What a stream comes back with

The record of a stream, its way through the deferral and the journal, and what a boot makes of it.
-/

namespace EspAvb

/-! ## The record -/

theorem blobField_here {n : Nat} (a : Octets n) (rest : NvsBlob) :
    blobField n (a.bytes ++ rest) 0 = a := Octets.read_append a rest

theorem blobField_past {n m place : Nat} (a : Octets m) (rest : NvsBlob) (h : m ≤ place) :
    blobField n (a.bytes ++ rest) place = blobField n rest (place - m) := by
  unfold blobField
  rw [Octets.drop_append_of_le a rest h]

theorem getD_past {m place : Nat} (a : Octets m) (rest : NvsBlob) (h : m ≤ place) :
    (a.bytes ++ rest).getD place 0 = rest.getD (place - m) 0 :=
  Octets.getD_append_of_le a rest h 0

theorem flagOctet_ne_zero (flag : Bool) : decide (flagOctet flag ≠ 0) = flag := by
  cases flag <;> rfl

theorem length_inputRecord (record : InputStreamRecord) :
    record.journalRecord.length = JOURNAL_RECORD_LEN := by
  simp [InputStreamRecord.journalRecord, Octets.length_eq, JOURNAL_RECORD_LEN]

theorem length_outputRecord (stream : AvbTalkerStream) :
    stream.journalRecord.length = JOURNAL_RECORD_LEN := by
  simp [AvbTalkerStream.journalRecord, Octets.length_eq, JOURNAL_RECORD_LEN]

/-- Every record that is written has the length that a boot reads. -/
theorem length_journalRecordOf (cfg : AudioConfig) (s : EntityState) (stream : JournalStream) :
    (journalRecordOf cfg s stream).length = JOURNAL_RECORD_LEN := by
  unfold journalRecordOf avbPersistFillOutputStreamRecord
  split
  · exact length_inputRecord _
  · split
    · split
      · exact length_outputRecord _
      · exact List.length_replicate
    · exact List.length_replicate

/-- The fields of a record are where the boot reads them. -/
theorem inputStreamAt_journalRecord (record : InputStreamRecord) :
    inputStreamAt record.journalRecord 0 = record := by
  have huid : UInt16.ofNat (Octets.ofNat 2 record.talkerUid.toNat).toNat = record.talkerUid := by
    have hlt : record.talkerUid.toNat < 256 ^ 2 := record.talkerUid.toNat_lt
    rw [Octets.toNat_ofNat, Nat.mod_eq_of_lt hlt, UInt16.ofNat_toNat]
  obtain ⟨talkerId, talkerUid, controllerId, streamFormat, connected, streamingWait, classB⟩ := record
  simp (disch := omega) only [inputStreamAt, InputStreamRecord.journalRecord, blobField_past,
    getD_past, Nat.zero_add, Nat.reduceSub, blobField_here]
  simp only [InputStreamRecord.mk.injEq, true_and]
  exact ⟨huid, flagOctet_ne_zero connected, flagOctet_ne_zero streamingWait, flagOctet_ne_zero classB⟩

theorem outputStreamAt_journalRecord (stream : AvbTalkerStream) :
    outputStreamAt stream.journalRecord 0
      = ⟨stream.streamFormat, stream.presentationTimeOffsetNs⟩ := by
  have hlength : (Octets.ofNat 4 stream.presentationTimeOffsetNs.toNat).bytes.reverse.length = 4 := by
    rw [List.length_reverse, Octets.length_eq]
  have hoffset : blobField 4 stream.journalRecord 8
      = ⟨(Octets.ofNat 4 stream.presentationTimeOffsetNs.toNat).bytes.reverse, hlength⟩ := by
    unfold AvbTalkerStream.journalRecord
    rw [blobField_past _ _ le_rfl]
    exact blobField_here ⟨_, hlength⟩ _
  have hlt : stream.presentationTimeOffsetNs.toNat < 256 ^ 4 :=
    stream.presentationTimeOffsetNs.toNat_lt
  have hnumber : Octets.value (Octets.ofNat 4 stream.presentationTimeOffsetNs.toNat).bytes
      = stream.presentationTimeOffsetNs.toNat := by
    calc Octets.value (Octets.ofNat 4 stream.presentationTimeOffsetNs.toNat).bytes
      _ = stream.presentationTimeOffsetNs.toNat % 256 ^ 4 := Octets.toNat_ofNat 4 _
      _ = stream.presentationTimeOffsetNs.toNat := Nat.mod_eq_of_lt hlt
  unfold outputStreamAt
  rw [Nat.zero_add, hoffset]
  dsimp only
  rw [List.reverse_reverse, hnumber, UInt32.ofNat_toNat]
  exact congrArg (OutputStreamRecord.mk · _) (blobField_here stream.streamFormat _)

/-! ## The ledger

For each stream the record whose append last reported success, and the state it was built in. -/

structure PersistLedger where
  records : JournalLedger
  saved : JournalStream → Option EntityState

variable {cfg : AudioConfig} {listing : NvsListing} {s : EntityState}

def PersistLedger.write (cfg : AudioConfig) (s : EntityState) (ledger : PersistLedger) (err : EspErr) :
    PersistItem → PersistLedger
  | .stream x =>
      if err = .ok then
        { records := Function.update ledger.records x (some (journalRecordOf cfg s x))
          saved := Function.update ledger.saved x (some s) }
      else ledger
  | _ => ledger

def writeLogged (cfg : AudioConfig) (listing : NvsListing) (s : EntityState)
    (st : PersistFlash × PersistLedger) (item : PersistItem) : PersistFlash × PersistLedger :=
  let written := persistWriteItem cfg listing s item st.1
  (written.2, st.2.write cfg s written.1 item)

theorem writesLogged_fst (items : List PersistItem) (st : PersistFlash × PersistLedger) :
    (Machine.run (writeLogged cfg listing s) st items).1 = persistWriteItems cfg listing s st.1 items := by
  induction items generalizing st with
  | nil => rfl
  | cons item items ih => exact ih _

/-- The append of a record, as an event of the journal. -/
def appendEvent (cfg : AudioConfig) (s : EntityState) (flash : PersistFlash) (x : JournalStream) :
    JournalEvent :=
  .append x.input x.index.val (journalRecordOf cfg s x) flash.journal.nvs.results

/-- What durability asks of a write, where a stream's record is appended. -/
def ItemMeets (cfg : AudioConfig) (listing : NvsListing) (s : EntityState)
    (st : PersistFlash × PersistLedger) : PersistItem → Prop
  | .stream x =>
      JournalEventMeets (cfg.persist listing) (st.1.journal, st.2.records) (appendEvent cfg s st.1 x)
  | _ => True

instance (st : PersistFlash × PersistLedger) (item : PersistItem) :
    Decidable (ItemMeets cfg listing s st item) :=
  match item with
  | .stream x => inferInstanceAs (Decidable (JournalEventMeets (cfg.persist listing)
      (st.1.journal, st.2.records) (appendEvent cfg s st.1 x)))
  | .rate | .inputMap => inferInstanceAs (Decidable True)

/-- The journal holds what the ledger says, and the ledger what was written. -/
structure PersistDurable (st : PersistFlash × PersistLedger) (cfg : AudioConfig) : Prop where
  durable : JournalDurable (st.1.journal, st.2.records)
  saved : ∀ x s, st.2.saved x = some s → st.2.records x = some (journalRecordOf cfg s x)

theorem blobs_writeRate (s : EntityState) (flash : PersistFlash) :
    (avbPersistWriteRate s flash).2.journal.nvs.blobs = flash.journal.nvs.blobs := by
  unfold avbPersistWriteRate
  split
  · rename_i nvs hopen
    obtain rfl := (Prod.mk.inj hopen).2
    split
    · rename_i nvs' hcall
      obtain rfl := (Prod.mk.inj hcall).2
      rfl
    · rename_i err nvs' hcall
      obtain rfl := (Prod.mk.inj hcall).2
      rfl
  · rename_i err nvs hopen
    obtain rfl := (Prod.mk.inj hopen).2
    rfl

theorem records_write (ledger : PersistLedger) (err : EspErr) (x : JournalStream)
    (results : List EspErr) :
    (ledger.write cfg s err (.stream x)).records
      = ledger.records.step err (.append x.input x.index.val (journalRecordOf cfg s x) results) := by
  simp only [PersistLedger.write, JournalLedger.step, dif_pos x.index.isLt]
  split <;> rfl

theorem PersistDurable.write {st : PersistFlash × PersistLedger} (h : PersistDurable st cfg)
    {item : PersistItem} (hmeets : ItemMeets cfg listing s st item) :
    PersistDurable (writeLogged cfg listing s st item) cfg := by
  cases item with
  | rate =>
      refine ⟨?_, h.saved⟩
      unfold JournalDurable
      have hblobs : (writeLogged cfg listing s st .rate).1.journal.nvs.blobs
          = st.1.journal.nvs.blobs := blobs_writeRate s _
      simp only [hblobs]
      exact h.durable
  | inputMap =>
      have hevent : JournalEventMeets (cfg.persist listing) (st.1.journal, st.2.records)
          (.saveInputMap (inputMapBlob s) st.1.journal.nvs.results) := trivial
      exact ⟨JournalDurable.step hevent h.durable, h.saved⟩
  | stream x =>
      have hevent : JournalEventMeets (cfg.persist listing) (st.1.journal, st.2.records)
          (appendEvent cfg s st.1 x) := hmeets
      have hstep := JournalDurable.step hevent h.durable
      constructor
      · have hsame : ((writeLogged cfg listing s st (.stream x)).1.journal,
              (writeLogged cfg listing s st (.stream x)).2.records)
            = journalStep (cfg.persist listing) (st.1.journal, st.2.records)
                (appendEvent cfg s st.1 x) := 
              Prod.ext rfl (records_write st.2 _ x st.1.journal.nvs.results)
        rw [hsame]
        exact hstep
      · intro y s' hy
        simp only [writeLogged, PersistLedger.write] at hy ⊢
        split at hy
        · rename_i hok
          rw [if_pos hok]
          dsimp only at hy ⊢
          by_cases hyx : y = x
          · subst hyx
            rw [Function.update_self] at hy ⊢
            obtain rfl := Option.some.inj hy
            rfl
          · rw [Function.update_of_ne hyx] at hy ⊢
            exact h.saved y s' hy
        · rename_i hfailed
          rw [if_neg hfailed]
          exact h.saved y s' hy

/-! ## Runs -/

structure PersistRun where
  device : PersistDevice
  ledger : PersistLedger

namespace PersistRun

/-- Power comes on over what an earlier run left. -/
def start (cfg : AudioConfig) (listing : NvsListing) (blobs : NvsBlobs) : PersistRun :=
  let journal := journalStart (cfg.persist listing) blobs
  { device := { deferral := .init, flash := { journal := journal.1, rate := none, writes := [] } }
    ledger := { records := journal.2, saved := fun _ => none } }

/-- What a call hands to flash. -/
def written (cfg : AudioConfig) (listing : NvsListing) (run : PersistRun) (s : EntityState)
    (env : PersistEnv) (results : List EspErr) (call : PersistCall) : List PersistItem :=
  (persistCall cfg listing s env (run.device.script results) call).flash.writes.drop
    run.device.flash.writes.length

def step (cfg : AudioConfig) (listing : NvsListing) (run : PersistRun) (ev : PersistEvent) :
    PersistRun :=
  { device := persistStep cfg listing run.device ev
    ledger :=
      match ev with
      | .call call s env results =>
          (Machine.run (writeLogged cfg listing s)
            ((run.device.script results).flash, run.ledger)
            (run.written cfg listing s env results call)).2
      | .other _ => run.ledger }

end PersistRun

def JournalEvent.isAppend : JournalEvent → Bool
  | .append _ _ _ _ => true
  | _ => false

/-- Every record that a step appends meets the condition under which the journal is durable, and
records are appended by the calls alone. -/
def PersistMeets (cfg : AudioConfig) (listing : NvsListing) (run : PersistRun) : PersistEvent → Prop
  | .call call s env results =>
      Machine.RunMeets (ItemMeets cfg listing s) (writeLogged cfg listing s)
        ((run.device.script results).flash, run.ledger) (run.written cfg listing s env results call)
  | .other event =>
      event.isAppend = false ∧
        JournalEventMeets (cfg.persist listing) (run.device.flash.journal, run.ledger.records) event

instance (run : PersistRun) (ev : PersistEvent) : Decidable (PersistMeets cfg listing run ev) :=
  match ev with
  | .call call s env results => inferInstanceAs (Decidable (Machine.RunMeets (ItemMeets cfg listing s)
      (writeLogged cfg listing s) ((run.device.script results).flash, run.ledger)
      (run.written cfg listing s env results call)))
  | .other _ => inferInstanceAs (Decidable (_ ∧ _))

namespace PersistRun

variable {run : PersistRun}

def Durable (run : PersistRun) (cfg : AudioConfig) : Prop :=
  PersistDurable (run.device.flash, run.ledger) cfg

theorem durable_start (earlier : List JournalEvent) :
    (start cfg listing (journalContent (cfg.persist listing) earlier)).Durable cfg := by
  have hwf : JournalWellFormed (journalContent (cfg.persist listing) earlier) :=
    journalWellFormed_content earlier
  exact ⟨⟨hwf, isNewest_journalScan hwf listing true⟩,
    fun _ _ h => absurd h.symm (Option.some_ne_none _)⟩

theorem Durable.called (h : run.Durable cfg) {call : PersistCall} {env : PersistEnv}
    {results : List EspErr}
    (hmeets : PersistMeets cfg listing run (.call call s env results)) :
    (run.step cfg listing (.call call s env results)).Durable cfg := by
  obtain ⟨items, -, hflash⟩ :=
    @persistCall_move cfg listing s env call (run.device.script results)
  have hwritten : run.written cfg listing s env results call = items := by
    unfold PersistRun.written
    rw [hflash, writes_writeItems]
    exact List.drop_left
  have hmeets' : Machine.RunMeets (ItemMeets cfg listing s) (writeLogged cfg listing s)
      ((run.device.script results).flash, run.ledger) items := hwritten ▸ hmeets
  have hdurable := hmeets'.invariant (PersistDurable · cfg) (fun _ _ hitem hst => hst.write hitem)
    (⟨h.durable, h.saved⟩ : PersistDurable ((run.device.script results).flash, run.ledger) cfg)
  unfold Durable PersistRun.step
  dsimp only
  rw [hwritten]
  have hdevice : (persistStep cfg listing run.device (.call call s env results)).flash
      = (Machine.run (writeLogged cfg listing s)
          ((run.device.script results).flash, run.ledger) items).1 :=
    hflash.trans (writesLogged_fst items ((run.device.script results).flash, run.ledger)).symm
  rw [hdevice]
  exact hdurable

theorem step_other (ledger : JournalLedger) (err : EspErr) {event : JournalEvent}
    (h : event.isAppend = false) : ledger.step err event = ledger := by
  cases event with
  | append => exact absurd h.symm Bool.false_ne_true
  | _ => rfl

theorem Durable.step (h : run.Durable cfg) {ev : PersistEvent}
    (hmeets : PersistMeets cfg listing run ev) : (run.step cfg listing ev).Durable cfg := by
  cases ev with
  | call call s env results => exact h.called hmeets
  | other event =>
      obtain ⟨hother, hevent⟩ := hmeets
      have hstep := JournalDurable.step hevent h.durable
      refine ⟨?_, h.saved⟩
      have hsame : (journalStep (cfg.persist listing) (run.device.flash.journal, run.ledger.records)
          event).2 = run.ledger.records := step_other _ _ hother
      have hpair : journalStep (cfg.persist listing)
          (run.device.flash.journal, run.ledger.records) event
          = ((journalEvent (cfg.persist listing) run.device.flash.journal event).2,
              run.ledger.records) := Prod.ext rfl hsame
      rw [hpair] at hstep
      exact hstep

/-- What the journal reads as at a boot is the record that was written last. -/
theorem Durable.journalAtBoot (h : run.Durable cfg) {x : JournalStream}
    (hx : (cfg.persist listing).hasStream x = true) (hsaved : run.ledger.saved x = some s) :
    journalAtBoot cfg listing run.device.flash.journal.nvs x = some (journalRecordOf cfg s x) := by
  have hreplay := replayRestores_of_isNewest h.durable.1 hx (h.durable.2 x)
  exact hreplay.trans (h.saved x s hsaved)

end PersistRun

/-! ## The boot -/

theorem journalIndex_val {n : Nat} (h : n < 8) : (journalIndex n).val = n := Nat.mod_eq_of_lt h

theorem hasStream_index (listing : NvsListing) (input : Bool) {n : Nat} (hindex : n < 8)
    (h : n < cfg.numStreams (!input)) :
    (cfg.persist listing).hasStream ⟨input, journalIndex n⟩ = true := by
  apply decide_eq_true
  dsimp only
  rw [journalIndex_val hindex]
  cases input <;> exact h

theorem applyInputStream_restores {rate : Nat} {u : Fin avbMaxNumInputStreams}
    {src : InputStreamRecord} (h : EntryUsable cfg rate u src) (dst : AcmpListenerStream) :
    ∃ dst', applyInputStream cfg rate u src dst = restoreBinding src dst' := by
  unfold applyInputStream
  split
  · exact ⟨_, rfl⟩
  · rename_i hnone
    obtain ⟨hformat, htalker⟩ := h.resolve_left (by simp [hnone])
    rw [if_neg (not_or.mpr ⟨not_not.mpr hformat, not_not.mpr htalker⟩)]
    exact ⟨_, rfl⟩

theorem applyOutputStream_offset {rate : Nat} {version : UInt8} {u : Fin avbMaxNumOutputStreams}
    {src : OutputStreamRecord} (hsaved : 3 ≤ version ∨ src.presentationTimeOffsetNs ≠ 0)
    (hsmall : src.presentationTimeOffsetNs ≤ 0x7fffffff) (dst : AvbTalkerStream) :
    (applyOutputStream cfg rate version u src dst).presentationTimeOffsetNs
      = src.presentationTimeOffsetNs := by
  have hold : ¬ (version < 3 ∧ src.presentationTimeOffsetNs = 0) := by
    rintro ⟨hversion, hzero⟩
    rcases hsaved with hnew | hnonzero
    · exact absurd hversion (UInt8.not_lt.mpr hnew)
    · exact hnonzero hzero
  unfold applyOutputStream
  dsimp only
  rw [if_neg hold, if_pos hsmall]

theorem loadStreams_usable {nvs : Nvs} {snapshot : NvsBlob} {fresh : EntityState}
    (hlookup : nvs.blobs.lookup AVB_NVS_KEY = some snapshot) (husable : snapshotUsable nvs.blobs = true) :
    loadStreams cfg listing nvs fresh
      = applyStreams cfg ((persistStreams snapshot).replay (journalAtBoot cfg listing nvs))
          (applyStreams cfg (persistStreams snapshot) fresh) := by
  unfold loadStreams
  rw [hlookup]
  exact if_pos husable

/-- The record of an input holds its stream. -/
theorem fillInput_eq {u : Fin avbMaxNumInputStreams} (hhas : cfg.has (.input u) = true)
    (s : EntityState) :
    let stream := s.listener.inputStreams u
    avbPersistFillInputStreamRecord cfg s (journalIndex u.val) =
      { talkerId := stream.talkerId, talkerUid := stream.talkerUid
        controllerId := stream.controllerId, streamFormat := stream.streamFormat
        connected := stream.connected, streamingWait := stream.streamingWait
        classB := stream.classB } := by
  intro stream
  have hindex : u.val < 8 := u.isLt.trans (by decide)
  have hslot : inputSlot (UInt16.ofNat (journalIndex u.val).val) = some u := by
    have htoNat : (UInt16.ofNat (journalIndex u.val).val).toNat = u.val := by
      rw [journalIndex_val hindex, UInt16.toNat_ofNat_of_lt' (hindex.trans (by decide))]
    have hlt : (UInt16.ofNat (journalIndex u.val).val).toNat < avbMaxNumInputStreams := by
      rw [htoNat]
      exact u.isLt
    exact (dif_pos hlt).trans (congrArg some (Fin.ext htoNat))
  have hlt : u.val < cfg.entity.acmp.numInputStreams := of_decide_eq_true hhas
  unfold avbPersistFillInputStreamRecord inputStreamRecord
  rw [hslot]
  simp only [hlt, if_true, stream]

theorem fillOutput_eq {u : Fin avbMaxNumOutputStreams} (hhas : cfg.has (.output u) = true)
    (s : EntityState) : avbPersistFillOutputStreamRecord cfg s (journalIndex u.val)
      = (s.talker.outputStreams u).journalRecord := by
  have hindex : u.val < 8 := u.isLt.trans (by decide)
  have hval := journalIndex_val hindex
  have hlt : (journalIndex u.val).val < cfg.numStreams true := by
    rw [hval]
    exact of_decide_eq_true hhas
  have hslot : (journalIndex u.val).val < avbMaxNumOutputStreams := by
    rw [hval]
    exact u.isLt
  unfold avbPersistFillOutputStreamRecord
  rw [dif_pos hslot, if_pos hlt]
  exact congrArg (fun u => (s.talker.outputStreams u).journalRecord) (Fin.ext hval)

/-- An input stream is bound as it was when its record was written, at the registered address of its
talker. -/
def BoundAs (restored saved : AcmpListenerStream) : Prop :=
  restored.savedBinding =
      (avbRegistryTranslateEntityId saved.talkerId, saved.talkerUid, saved.controllerId) ∧
    restored.streamingWait = saved.streamingWait ∧ restored.classB = saved.classB

theorem boundAs_restored {nvs : Nvs} {snapshot : NvsBlob} {fresh : EntityState}
    (hlookup : nvs.blobs.lookup AVB_NVS_KEY = some snapshot)
    (husable : snapshotUsable nvs.blobs = true) {u : Fin avbMaxNumInputStreams}
    (hhas : cfg.has (.input u) = true)
    (hread : journalAtBoot cfg listing nvs ⟨true, journalIndex u.val⟩
      = some (journalRecordOf cfg s ⟨true, journalIndex u.val⟩))
    (hformat : EntryUsable cfg fresh.sampleRate u
      (avbPersistFillInputStreamRecord cfg s (journalIndex u.val))) :
    BoundAs ((loadStreams cfg listing nvs fresh).listener.inputStreams u)
      (s.listener.inputStreams u) := by
  have hentry : ((persistStreams snapshot).replay (journalAtBoot cfg listing nvs)).inputs
      (journalIndex u.val) = avbPersistFillInputStreamRecord cfg s (journalIndex u.val) := by
    simp only [PersistStreams.replay, hread, Option.map_some, Option.getD_some]
    exact inputStreamAt_journalRecord _
  obtain ⟨dst, hdst⟩ := applyInputStream_restores hformat
    ((applyStreams cfg (persistStreams snapshot) fresh).listener.inputStreams u)
  have hstream : (loadStreams cfg listing nvs fresh).listener.inputStreams u
      = restoreBinding (avbPersistFillInputStreamRecord cfg s (journalIndex u.val)) dst := by
    rw [loadStreams_usable hlookup husable, ← hdst, ← hentry]
    simp only [applyStreams, hhas, if_true]
  rw [hstream, fillInput_eq hhas]
  exact ⟨rfl, rfl, rfl⟩

theorem offset_restored {nvs : Nvs} {snapshot : NvsBlob} {fresh : EntityState}
    (hlookup : nvs.blobs.lookup AVB_NVS_KEY = some snapshot)
    (husable : snapshotUsable nvs.blobs = true) {u : Fin avbMaxNumOutputStreams}
    (hhas : cfg.has (.output u) = true)
    (hread : journalAtBoot cfg listing nvs ⟨false, journalIndex u.val⟩
      = some (journalRecordOf cfg s ⟨false, journalIndex u.val⟩))
    (hsaved : 3 ≤ snapshot.headD 0 ∨ (s.talker.outputStreams u).presentationTimeOffsetNs ≠ 0)
    (hsmall : (s.talker.outputStreams u).presentationTimeOffsetNs ≤ 0x7fffffff) :
    ((loadStreams cfg listing nvs fresh).talker.outputStreams u).presentationTimeOffsetNs
      = (s.talker.outputStreams u).presentationTimeOffsetNs := by
  have hentry : ((persistStreams snapshot).replay (journalAtBoot cfg listing nvs)).outputs
      (journalIndex u.val) = ⟨(s.talker.outputStreams u).streamFormat,
        (s.talker.outputStreams u).presentationTimeOffsetNs⟩ := by
    simp only [PersistStreams.replay, hread, Option.map_some, Option.getD_some]
    rw [← outputStreamAt_journalRecord, ← fillOutput_eq hhas]
    rfl
  have hstream : (loadStreams cfg listing nvs fresh).talker.outputStreams u
      = applyOutputStream cfg fresh.sampleRate (snapshot.headD 0) u
          (((persistStreams snapshot).replay (journalAtBoot cfg listing nvs)).outputs
            (journalIndex u.val))
          ((applyStreams cfg (persistStreams snapshot) fresh).talker.outputStreams u) := by
    rw [loadStreams_usable hlookup husable]
    exact if_pos hhas
  rw [hstream, hentry]
  exact applyOutputStream_offset hsaved hsmall _

/-- Both inputs bound, in the format of the build. -/
def boundState : EntityState :=
  { EntityState.blank with
    listener := { EntityState.blank.listener with
      inputStreams := fun _ => { AcmpListenerStream.zero with
        talkerId := .ofNat 8 0x020000fffe000002, talkerUid := 1, controllerId := .ofNat 8 7
        streamFormat := aafFormat 24 5 8 6, streamingWait := true } } }

/-- A snapshot, and a binding whose record waits for heavy ingress to pass. -/
def boundEvents : List PersistEvent :=
  [.other (.saveSnapshot (List.replicate 1395 0) []), .call .journalTick .blank ⟨100000, 0⟩ [],
    .call (.appendStream true 0) boundState ⟨200000, 1000⟩ [],
    .call .journalTick boundState ⟨700000, 1000⟩ []]

end EspAvb
