import EspAvb.Restore

/-!
# When settings go to flash

`avb.c`: a flash write disables the caches for milliseconds, so nothing is written while the ingress
is heavy. Journal records, the sample rate and the input map wait for a calm moment, three seconds at
the most; the snapshot of everything else is written by a task of its own, which runs beside the main
loop. A record is built when it is written.
-/

namespace EspAvb

/-! ## Journal records -/

def flagOctet (flag : Bool) : UInt8 := if flag then 1 else 0

/-- `avb_persist_input_stream_journal_s`. The last three octets are reserved. -/
def InputStreamRecord.journalRecord (record : InputStreamRecord) : NvsBlob :=
  record.talkerId.bytes ++ ((Octets.ofNat 2 record.talkerUid.toNat).bytes ++
    (record.controllerId.bytes ++ (record.streamFormat.bytes ++
      [flagOctet record.connected, flagOctet record.streamingWait, flagOctet record.classB, 0, 0, 0])))

/-- `avb_persist_output_stream_journal_s`, with `class_valid` set. The offset is in the order of the
processor. -/
def AvbTalkerStream.journalRecord (stream : AvbTalkerStream) : NvsBlob :=
  stream.streamFormat.bytes ++
    ((Octets.ofNat 4 stream.presentationTimeOffsetNs.toNat).bytes.reverse ++
      (1 :: flagOctet stream.classB :: List.replicate 18 0))

section

variable (cfg : AudioConfig)

def avbPersistFillInputStreamRecord (s : EntityState) (index : Fin 8) : InputStreamRecord :=
  inputStreamRecord cfg.entity.acmp s.listener (UInt16.ofNat index.val)

def avbPersistFillOutputStreamRecord (s : EntityState) (index : Fin 8) : NvsBlob :=
  if h : index.val < avbMaxNumOutputStreams then
    if index.val < cfg.numStreams true then (s.talker.outputStreams ⟨index.val, h⟩).journalRecord
    else List.replicate JOURNAL_RECORD_LEN 0
  else List.replicate JOURNAL_RECORD_LEN 0

def journalRecordOf (s : EntityState) (stream : JournalStream) : NvsBlob :=
  if stream.input then (avbPersistFillInputStreamRecord cfg s stream.index).journalRecord
  else avbPersistFillOutputStreamRecord cfg s stream.index

end

/-! ## Writing -/

/-- What waits, in the order in which a tick writes it. -/
inductive PersistItem where
  | rate
  | inputMap
  | stream (stream : JournalStream)
  deriving DecidableEq

def outputsThenInputs : List JournalStream :=
  (List.finRange 8).map (⟨false, ·⟩) ++ (List.finRange 8).map (⟨true, ·⟩)

def PersistItem.all : List PersistItem :=
  .rate :: .inputMap :: outputsThenInputs.map .stream

/-- The namespace with the journal's counter, and the rate under its own key. `writes` are the items
handed to flash so far, whether or not the write succeeded. -/
structure PersistFlash where
  journal : JournalState
  rate : Option Nat
  writes : List PersistItem

/-- A 16-bit number in the order of the processor. -/
def processorOctets (number : UInt16) : NvsBlob := (Octets.ofNat 2 number.toNat).bytes.reverse

def inputMapBlob (s : EntityState) : NvsBlob := (List.ofFn s.inputMap).flatMap processorOctets

section

variable (cfg : AudioConfig) (listing : NvsListing)

/-- The journal's configuration of an entity. -/
def AudioConfig.persist : PersistConfig := ⟨listing, cfg.numStreams false, cfg.numStreams true⟩

/-- `nvs_set_u32` of the rate's key; the key of the rate is none that the journal lists. -/
def avbPersistWriteRate (s : EntityState) (flash : PersistFlash) : EspErr × PersistFlash :=
  match nvsOpen flash.journal.nvs with
  | (.ok, nvs) =>
      match nvs.call with
      | (.ok, nvs) => (.ok, { flash with journal := { flash.journal with nvs }, rate := s.sampleRate })
      | (err, nvs) => (err, { flash with journal := { flash.journal with nvs } })
  | (err, nvs) => (err, { flash with journal := { flash.journal with nvs } })

def avbPersistWriteJournal (s : EntityState) (stream : JournalStream) (flash : PersistFlash) :
    EspErr × PersistFlash :=
  let appended := avbPersistAppendStreamRecord (cfg.persist listing) flash.journal stream.input
    stream.index.val (journalRecordOf cfg s stream)
  (appended.1, { flash with journal := appended.2 })

def persistWriteItem (s : EntityState) (item : PersistItem) (flash : PersistFlash) :
    EspErr × PersistFlash :=
  let flash := { flash with writes := flash.writes ++ [item] }
  match item with
  | .rate => avbPersistWriteRate s flash
  | .inputMap =>
      let written := avbPersistWriteInputMap flash.journal.nvs (inputMapBlob s)
      (written.1, { flash with journal := { flash.journal with nvs := written.2 } })
  | .stream stream => avbPersistWriteJournal cfg listing s stream flash

end

/-! ## Waiting for a calm moment -/

def avbPersistBusyFramesPerS : Int := 1000
def avbPersistQuietUs : Int := 300 * 1000
def avbPersistQuietMaxUs : Int := 3 * 1000 * 1000
def avbPersistIngressSampleUs : Int := 50 * 1000

/-- `esp_timer_get_time`, and the count of received frames. -/
structure PersistEnv where
  nowUs : Int
  rxTotal : UInt32

/-- The statics of the deferral. A `pendingSinceUs` of zero is none. -/
structure PersistDeferral where
  ingressQuiet : Bool
  ingressBusyUntilUs : Int
  ingressSampleUs : Int
  ingressSampleCount : UInt32
  pending : PersistItem → Bool
  pendingSinceUs : Int

def PersistDeferral.init : PersistDeferral :=
  { ingressQuiet := true, ingressBusyUntilUs := 0, ingressSampleUs := 0, ingressSampleCount := 0
    pending := fun _ => false, pendingSinceUs := 0 }

structure PersistDevice where
  deferral : PersistDeferral
  flash : PersistFlash

section

variable (env : PersistEnv)

/-- The first sample has nothing to compare with. -/
def avbPersistSampleIngress (d : PersistDeferral) : PersistDeferral :=
  let elapsedUs := env.nowUs - d.ingressSampleUs
  if elapsedUs < avbPersistIngressSampleUs then d
  else
    let frames : Int := (env.rxTotal - d.ingressSampleCount).toNat
    let busyUntilUs :=
      if d.ingressSampleUs ≠ 0 ∧ frames * 1000000 > avbPersistBusyFramesPerS * elapsedUs then
        env.nowUs + avbPersistQuietUs
      else d.ingressBusyUntilUs
    { d with
      ingressQuiet := busyUntilUs ≤ env.nowUs
      ingressBusyUntilUs := busyUntilUs
      ingressSampleUs := env.nowUs
      ingressSampleCount := env.rxTotal }

def PersistDeferral.defer (d : PersistDeferral) (item : PersistItem) : PersistDeferral :=
  { d with
    pending := Function.update d.pending item true
    pendingSinceUs := if d.pendingSinceUs = 0 then env.nowUs else d.pendingSinceUs }

variable (cfg : AudioConfig) (listing : NvsListing) (s : EntityState)

/-- `avb_persist_save_rate` and `avb_persist_save_input_map`, and `avb_persist_append_stream` for a
stream whose index is in range. -/
def persistSaveItem (item : PersistItem) (device : PersistDevice) : EspErr × PersistDevice :=
  let deferral := avbPersistSampleIngress env device.deferral
  if deferral.ingressQuiet then
    let written := persistWriteItem cfg listing s item device.flash
    (written.1, { deferral, flash := written.2 })
  else (.ok, { device with deferral := deferral.defer env item })

def avbPersistAppendStream (input : Bool) (index : Nat) (device : PersistDevice) :
    EspErr × PersistDevice :=
  if h : index < 8 then persistSaveItem env cfg listing s (.stream ⟨input, ⟨index, h⟩⟩) device
  else (.invalidArg, device)

def avbPersistSaveInputMap (device : PersistDevice) : EspErr × PersistDevice :=
  persistSaveItem env cfg listing s .inputMap device

def avbPersistSaveRate (device : PersistDevice) : EspErr × PersistDevice :=
  persistSaveItem env cfg listing s .rate device

def persistWritePending (device : PersistDevice) (item : PersistItem) : PersistDevice :=
  if device.deferral.pending item then
    { deferral := { device.deferral with pending := Function.update device.deferral.pending item false }
      flash := (persistWriteItem cfg listing s item device.flash).2 }
  else device

def avbPersistJournalTick (device : PersistDevice) : PersistDevice :=
  let deferral := avbPersistSampleIngress env device.deferral
  if deferral.pendingSinceUs = 0 then { device with deferral }
  else if ¬ deferral.ingressQuiet ∧ env.nowUs - deferral.pendingSinceUs ≤ avbPersistQuietMaxUs then
    { device with deferral }
  else
    PersistItem.all.foldl (persistWritePending cfg listing s)
      { device with deferral := { deferral with pendingSinceUs := 0 } }

end

/-- What the rest of the firmware calls, besides the snapshot task. -/
inductive PersistCall where
  | appendStream (input : Bool) (index : Nat)
  | saveInputMap
  | saveRate
  | journalTick
  deriving DecidableEq

inductive PersistEvent where
  /-- A call in a state; `results` are the results of its flash operations. -/
  | call (call : PersistCall) (s : EntityState) (env : PersistEnv) (results : List EspErr)
  /-- A write of the snapshot, a compaction, a boot. -/
  | other (event : JournalEvent)

def PersistDevice.script (device : PersistDevice) (results : List EspErr) : PersistDevice :=
  { device with flash := { device.flash with journal := device.flash.journal.script results } }

/-- What waits at a boot is lost. -/
def PersistDeferral.after (d : PersistDeferral) : JournalEvent → PersistDeferral
  | .boot _ _ => .init
  | _ => d

section

variable (cfg : AudioConfig) (listing : NvsListing)

def persistCall (s : EntityState) (env : PersistEnv) (device : PersistDevice) :
    PersistCall → PersistDevice
  | .appendStream input index => (avbPersistAppendStream env cfg listing s input index device).2
  | .saveInputMap => (avbPersistSaveInputMap env cfg listing s device).2
  | .saveRate => (avbPersistSaveRate env cfg listing s device).2
  | .journalTick => avbPersistJournalTick env cfg listing s device

def persistStep (device : PersistDevice) : PersistEvent → PersistDevice
  | .call call s env results => persistCall cfg listing s env (device.script results) call
  | .other event =>
      { deferral := device.deferral.after event
        flash := { device.flash with
          journal := (journalEvent (cfg.persist listing) device.flash.journal event).2 } }

end

/-! ## The snapshot task

The main loop asks for a save, and `avb_persist_task` polls and writes. A step is one access of either
to what they share; what is shared is `persist`, behind its mutex, and the flags beside it. -/

/-- In ticks of a millisecond. -/
def avbPersistForcedFlushMsec : UInt32 := 10 * 60 * 1000

/-- The next access of `avb_persist_request_save`, or of `avb_persist_request_lazy_save`. -/
inductive SaveRequestPc where
  | idle
  | readDirty (isLazy : Bool)
  | readLazy
  | stamp
  | clearLazy
  | setLazy
  | setDirty
  deriving DecidableEq, Repr

/-- The next access of `avb_persist_task`. -/
inductive PersistTaskPc (α : Type) where
  | readDirty
  | readStreaming
  | readLazy
  | readAge
  | clearLazy
  | clearDirty
  | copy
  | write (snapshot : α)
  deriving DecidableEq, Repr

/-- `live` is what `avb_persist_gather` would collect, `handed` the snapshot that went to flash last.
`streaming` holds while a stream runs or the ingress is heavy. -/
structure SnapshotState (α : Type) where
  live : α
  persist : α
  dirty : Bool
  lazySave : Bool
  dirtySinceTick : UInt32
  tick : UInt32
  streaming : Bool
  request : SaveRequestPc
  task : PersistTaskPc α
  handed : α

namespace SnapshotState

variable {α : Type} (s : SnapshotState α)

/-- After the boot has loaded or written a snapshot. -/
def boot (loaded : α) : SnapshotState α :=
  { live := loaded, persist := loaded, dirty := false, lazySave := false, dirtySinceTick := 0
    tick := 0, streaming := false, request := .idle, task := .readDirty, handed := loaded }

/-- `avb_persist_gather_locked` comes first. -/
def avbPersistRequestSave (isLazy : Bool) : SnapshotState α :=
  if s.request = .idle then { s with persist := s.live, request := .readDirty isLazy } else s

def requestStep : SnapshotState α :=
  match s.request with
  | .idle => s
  | .readDirty true => { s with request := if s.dirty then .setDirty else .setLazy }
  | .readDirty false => { s with request := if s.dirty then .readLazy else .stamp }
  | .readLazy => { s with request := if s.lazySave then .stamp else .clearLazy }
  | .stamp => { s with dirtySinceTick := s.tick, request := .clearLazy }
  | .clearLazy => { s with lazySave := false, request := .setDirty }
  | .setLazy => { s with lazySave := true, request := .setDirty }
  | .setDirty => { s with dirty := true, request := .idle }

def avbPersistTaskStep : SnapshotState α :=
  match s.task with
  | .readDirty => { s with task := if s.dirty then .readStreaming else .readDirty }
  | .readStreaming => { s with task := if s.streaming then .readLazy else .clearLazy }
  | .readLazy => { s with task := if s.lazySave then .readDirty else .readAge }
  | .readAge =>
      { s with
        task :=
          if s.tick - s.dirtySinceTick < avbPersistForcedFlushMsec then .readDirty else .clearLazy }
  | .clearLazy => { s with lazySave := false, task := .clearDirty }
  | .clearDirty => { s with dirty := false, task := .copy }
  | .copy => { s with task := .write s.persist }
  | .write snapshot => { s with handed := snapshot, task := .readDirty }

end SnapshotState

inductive SnapshotEvent (α : Type) where
  /-- The settings change. -/
  | change (live : α)
  | elapse (ticks : UInt32)
  | setStreaming (streaming : Bool)
  | requestSave (isLazy : Bool)
  | requestStep
  | taskStep

def snapshotStep {α : Type} (s : SnapshotState α) : SnapshotEvent α → SnapshotState α
  | .change live => { s with live }
  | .elapse ticks => { s with tick := s.tick + ticks }
  | .setStreaming streaming => { s with streaming }
  | .requestSave isLazy => s.avbPersistRequestSave isLazy
  | .requestStep => s.requestStep
  | .taskStep => s.avbPersistTaskStep

end EspAvb
