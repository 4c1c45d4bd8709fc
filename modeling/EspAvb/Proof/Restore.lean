import EspAvb.Proof.StreamFormat
import EspAvb.Restore

/-!
# What boot restores

The scan of the journal leaves a stream with its newest readable record, under whatever shorter blobs
were read after it. What the two applies make of that record and of the snapshot's entry is the binding
a stream has after boot.
-/

namespace EspAvb

variable {cfg : AudioConfig} {stream : JournalStream} {seq seq' : Nat} {record record' : NvsBlob}
  {entries later later' : List (Nat × NvsBlob)}

/-! ## The newest record -/

theorem newestRecord_unique (h : IsNewestRecord entries seq record later)
    (h' : IsNewestRecord entries seq' record' later') :
    (seq, record) = (seq', record') ∧ later = later' := by
  obtain ⟨hread, earlier, heq, hearlier, hlater⟩ := h
  obtain ⟨hread', earlier', heq', hearlier', hlater'⟩ := h'
  rw [heq] at heq'
  rcases List.append_eq_append_iff.mp heq' with ⟨between, hleft, hright⟩ | ⟨between, hleft, hright⟩
  · cases between with
    | nil => exact List.cons.inj hright
    | cons entry between =>
        obtain ⟨rfl, hrest⟩ := List.cons.inj hright
        have hbelow : seq ≤ seq' := hearlier' (seq, record) (by simp [hleft]) hread
        have habove : seq' < seq := hlater (seq', record') (by simp [hrest]) hread'
        exact absurd habove (Nat.not_lt.mpr hbelow)
  · cases between with
    | nil =>
        obtain ⟨hsame, hrest⟩ := List.cons.inj hright
        exact ⟨hsame.symm, hrest.symm⟩
    | cons entry between =>
        obtain ⟨rfl, hrest⟩ := List.cons.inj hright
        have hbelow : seq' ≤ seq := hearlier (seq', record') (by simp [hleft]) hread'
        have habove : seq < seq' := hlater' (seq, record) (by simp [hrest]) hread
        exact absurd habove (Nat.not_lt.mpr hbelow)

/-- Where there is a readable record, there is a newest. -/
theorem exists_newestRecord (h : ∃ entry ∈ entries, ReadableRecord entry) :
    ∃ seq record later, IsNewestRecord entries seq record later := by
  induction entries with
  | nil =>
      obtain ⟨entry, hmem, -⟩ := h
      exact absurd hmem List.not_mem_nil
  | cons first entries ih =>
      by_cases hrest : ∃ entry ∈ entries, ReadableRecord entry
      · obtain ⟨seq, record, later, hread, earlier, rfl, hearlier, hlater⟩ := ih hrest
        by_cases hfirst : ReadableRecord first ∧ seq < first.1
        · refine ⟨first.1, first.2, earlier ++ (seq, record) :: later, hfirst.1, [], rfl,
            fun entry hmem => absurd hmem List.not_mem_nil, fun entry hmem hentry => ?_⟩
          rcases List.mem_append.mp hmem with hmem | hmem
          · exact (hearlier entry hmem hentry).trans_lt hfirst.2
          · rcases List.mem_cons.mp hmem with rfl | hmem
            · exact hfirst.2
            · exact (hlater entry hmem hentry).trans hfirst.2
        · refine ⟨seq, record, later, hread, first :: earlier, rfl, fun entry hmem hentry => ?_, hlater⟩
          rcases List.mem_cons.mp hmem with rfl | hmem
          · exact Nat.not_lt.mp fun hlt => hfirst ⟨hentry, hlt⟩
          · exact hearlier entry hmem hentry
      · obtain ⟨entry, hmem, hentry⟩ := h
        rcases List.mem_cons.mp hmem with rfl | hmem
        · exact ⟨entry.1, entry.2, entries, hentry, [], rfl,
            fun e he => absurd he List.not_mem_nil, fun e he hread => absurd ⟨e, he, hread⟩ hrest⟩
        · exact absurd ⟨entry, hmem, hentry⟩ hrest

/-! ## The scan -/

/-- What one entry about a stream does to its buffer. -/
def visitEntry (state : Nat × NvsBlob) (entry : Nat × NvsBlob) : Nat × NvsBlob :=
  if state.1 ≤ entry.1 ∧ entry.2.length ≤ state.2.length then
    (if entry.2.length = JOURNAL_RECORD_LEN then entry.1 else state.1,
      entry.2 ++ state.2.drop entry.2.length)
  else state

/-- What one entry of the listing does to a stream. -/
theorem visit_stream (scan : JournalScan) (entry : NvsEntry) (stream : JournalStream) :
    scan.visit true entry stream
      = (streamEntries [entry] stream).foldl visitEntry (scan stream) := by
  unfold JournalScan.visit streamEntries
  cases hparse : avbPersistParseStreamJournalKey entry.1 with
  | none => simp [hparse]
  | some parsed =>
      obtain ⟨stream', seq⟩ := parsed
      by_cases hstream : stream' = stream
      · subst hstream
        simp only [List.filterMap_cons, hparse, Option.bind_some, if_true, List.filterMap_nil,
          List.foldl_cons, List.foldl_nil, visitEntry, nvsGetBlob]
        by_cases hseq : (scan stream').1 ≤ seq
        · by_cases hlen : entry.2.length ≤ (scan stream').2.length
          · rw [if_pos hseq, if_pos hlen, if_pos ⟨hseq, hlen⟩]
            dsimp only
            rw [Function.update_self]
            by_cases hexact : entry.2.length = JOURNAL_RECORD_LEN
            · rw [if_pos hexact, if_neg fun h => h.2 hexact]
            · rw [if_neg hexact, if_pos ⟨trivial, hexact⟩]
          · rw [if_pos hseq, if_neg hlen, if_neg fun h => hlen h.2]
        · rw [if_neg hseq, if_neg fun h => hseq h.1]
      · have hkept : ∀ value : Nat × NvsBlob,
            Function.update scan stream' value stream = scan stream :=
          fun value => Function.update_of_ne (Ne.symm hstream) value scan
        simp only [List.filterMap_cons, hparse, Option.bind_some, if_neg hstream, List.filterMap_nil,
          List.foldl_nil]
        split
        · cases nvsGetBlob entry.2 (scan stream').2 with
          | none => rfl
          | some read => exact hkept _
        · rfl

/-- The scan seen by one stream. -/
theorem journalScan_stream (entries : List NvsEntry) (scan : JournalScan) (stream : JournalStream) :
    entries.foldl (JournalScan.visit true) scan stream
      = (streamEntries entries stream).foldl visitEntry (scan stream) := by
  induction entries generalizing scan with
  | nil => rfl
  | cons entry entries ih =>
      have hsplit : streamEntries (entry :: entries) stream
          = streamEntries [entry] stream ++ streamEntries entries stream := by
        unfold streamEntries
        rw [← List.filterMap_append, List.singleton_append]
      rw [List.foldl_cons, ih, visit_stream, hsplit, List.foldl_append]

/-- The buffer stays as long as a record. -/
theorem length_visitEntry {state entry : Nat × NvsBlob}
    (h : state.2.length = JOURNAL_RECORD_LEN) :
    (visitEntry state entry).2.length = JOURNAL_RECORD_LEN := by
  unfold visitEntry
  split
  · rename_i hvisit
    rw [List.length_append, List.length_drop, h]
    have hlen := hvisit.2
    omega
  · exact h

theorem length_visitEntries (entries : List (Nat × NvsBlob)) {state : Nat × NvsBlob}
    (h : state.2.length = JOURNAL_RECORD_LEN) :
    (entries.foldl visitEntry state).2.length = JOURNAL_RECORD_LEN := by
  induction entries generalizing state with
  | nil => exact h
  | cons entry entries ih => exact ih (length_visitEntry h)

/-- Entries that are unreadable, or no newer, do not raise the number. -/
theorem visitEntries_le {state : Nat × NvsBlob} (hstate : state.1 ≤ seq)
    (h : ∀ entry ∈ entries, ReadableRecord entry → entry.1 ≤ seq) :
    (entries.foldl visitEntry state).1 ≤ seq := by
  induction entries generalizing state with
  | nil => exact hstate
  | cons entry entries ih =>
      refine ih ?_ fun e he => h e (List.mem_cons_of_mem entry he)
      unfold visitEntry
      split
      · split
        · rename_i hread
          exact h entry List.mem_cons_self hread
        · exact hstate
      · exact hstate

/-- Past the newest record, shorter blobs alone are laid over the buffer. -/
theorem visitEntries_later {buffer : NvsBlob} (hbuffer : buffer.length = JOURNAL_RECORD_LEN)
    (h : ∀ entry ∈ later, ReadableRecord entry → entry.1 < seq) :
    later.foldl visitEntry (seq, buffer) = (seq, laidOver seq buffer later) := by
  induction later generalizing buffer with
  | nil => rfl
  | cons entry later ih =>
      have hrest := fun e he => h e (List.mem_cons_of_mem entry he)
      unfold laidOver
      rw [List.foldl_cons, List.foldl_cons]
      have hlength := @length_visitEntry (seq, buffer) entry hbuffer
      by_cases hvisit : seq ≤ entry.1 ∧ entry.2.length ≤ buffer.length
      · have hshort : ¬ entry.2.length = JOURNAL_RECORD_LEN := fun hread =>
          absurd (h entry List.mem_cons_self hread) (Nat.not_lt.mpr hvisit.1)
        have hentry : visitEntry (seq, buffer) entry
            = (seq, entry.2 ++ buffer.drop entry.2.length) := by
          unfold visitEntry
          rw [if_pos hvisit, if_neg hshort]
        rw [hentry] at hlength
        rw [if_pos hvisit, hentry]
        exact ih hlength hrest
      · have hentry : visitEntry (seq, buffer) entry = (seq, buffer) := by
          unfold visitEntry
          exact if_neg hvisit
        rw [if_neg hvisit, hentry]
        exact ih hbuffer hrest

/-- With no readable record the number stays 0. -/
theorem visitEntries_none {buffer : NvsBlob} (h : ∀ entry ∈ entries, ¬ ReadableRecord entry) :
    (entries.foldl visitEntry (0, buffer)).1 = 0 :=
  Nat.le_zero.mp (visitEntries_le le_rfl fun entry hmem hread => absurd hread (h entry hmem))

/-- The newest record comes out of the scan, under the shorter blobs read after it. -/
theorem visitEntries_newest {buffer : NvsBlob} (hbuffer : buffer.length = JOURNAL_RECORD_LEN)
    (h : IsNewestRecord entries seq record later) :
    entries.foldl visitEntry (0, buffer) = (seq, laidOver seq record later) := by
  obtain ⟨hread, earlier, rfl, hearlier, hlater⟩ := h
  rw [List.foldl_append, List.foldl_cons]
  have hlength : (earlier.foldl visitEntry (0, buffer)).2.length = JOURNAL_RECORD_LEN :=
    length_visitEntries earlier hbuffer
  have hle : (earlier.foldl visitEntry (0, buffer)).1 ≤ seq :=
    visitEntries_le (Nat.zero_le seq) hearlier
  generalize earlier.foldl visitEntry (0, buffer) = state at hlength hle ⊢
  have hwhole : state.2.drop record.length = [] :=
    List.drop_eq_nil_of_le (hlength.trans hread.symm).le
  have hrecord : visitEntry state (seq, record) = (seq, record) := by
    have hrecordLength : record.length = JOURNAL_RECORD_LEN := hread
    unfold visitEntry
    rw [if_pos ⟨hle, (hread.trans hlength.symm).le⟩]
    dsimp only
    rw [if_pos hrecordLength, hwhole, List.append_nil]
  rw [hrecord]
  exact visitEntries_later hread hlater

section Boot

variable {listing : NvsListing} {nvs : Nvs}

theorem journalAtBoot_eq (hhas : stream.index.val < cfg.numStreams (!stream.input)) :
    journalAtBoot cfg listing nvs stream
      = (journalScan true (listing.order nvs.blobs)).record stream := by
  refine if_pos (decide_eq_true ?_)
  cases hinput : stream.input with
  | true =>
      rw [hinput] at hhas
      exact hhas
  | false =>
      rw [hinput] at hhas
      exact hhas

theorem journalAtBoot_none (hhas : stream.index.val < cfg.numStreams (!stream.input))
    (h : ∀ entry ∈ streamEntries (listing.order nvs.blobs) stream, ¬ ReadableRecord entry) :
    journalAtBoot cfg listing nvs stream = none := by
  rw [journalAtBoot_eq hhas]
  unfold JournalScan.record journalScan
  rw [journalScan_stream]
  exact if_pos (visitEntries_none h)

theorem journalAtBoot_newest (hhas : stream.index.val < cfg.numStreams (!stream.input))
    (h : IsNewestRecord (streamEntries (listing.order nvs.blobs) stream) seq record later) :
    journalAtBoot cfg listing nvs stream
      = if seq = 0 then none else some (laidOver seq record later) := by
  rw [journalAtBoot_eq hhas]
  unfold JournalScan.record journalScan
  rw [journalScan_stream]
  have hscan : (streamEntries (listing.order nvs.blobs) stream).foldl visitEntry
      (JournalScan.init stream) = (seq, laidOver seq record later) :=
    visitEntries_newest List.length_replicate h
  rw [hscan]

end Boot

/-! ## Applying -/

section Apply

variable {rate : Nat} {u : Fin avbMaxNumInputStreams} {src : InputStreamRecord}
  {dst : AcmpListenerStream}

/-- A usable entry restores its binding. -/
theorem applyInputStream_usable (h : EntryUsable cfg rate u src) :
    (applyInputStream cfg rate u src dst).savedBinding = src.savedBinding := by
  unfold EntryUsable at h
  unfold applyInputStream
  split
  · rfl
  · rename_i hnone
    rw [hnone] at h
    obtain ⟨hformat, htalker⟩ := h.resolve_left Bool.false_ne_true
    have hneither : ¬ (src.streamFormat ≠ .zero 8 ∨ src.talkerId ≠ .zero 8) :=
      not_or.mpr ⟨not_not.mpr hformat, not_not.mpr htalker⟩
    rw [if_neg hneither]
    rfl

/-- Another leaves the stream as it is. -/
theorem applyInputStream_unusable (h : ¬ EntryUsable cfg rate u src) :
    applyInputStream cfg rate u src dst = dst := by
  unfold EntryUsable at h
  obtain ⟨hformat, hsaved⟩ := not_or.mp h
  unfold applyInputStream
  split
  · rename_i hsome
    rw [hsome] at hformat
    exact absurd rfl hformat
  · exact if_pos (not_and_or.mp hsaved)

end Apply

/-! ## Bindings -/

/-- The binding after boot: none, that of the newest readable record, or where there is no readable
record the snapshot's. -/
def BindingRestored (entries : List (Nat × NvsBlob)) (saved : InputStreamRecord)
    (binding : SavedBinding) : Prop :=
  binding.Empty ∨
    (∃ seq record later, IsNewestRecord entries seq record later ∧
      binding = (inputStreamAt record 0).savedBinding) ∨
    ((∀ entry ∈ entries, ¬ ReadableRecord entry) ∧ binding = saved.savedBinding)

/-- The newest readable record stands. It is taken, under a number other than 0, in a usable format and
with no binding but its own laid over it; or it is passed over, and the snapshot's entry is unusable,
empty or of the same binding. -/
def NewestStands (cfg : AudioConfig) (rate : Nat) (u : Fin avbMaxNumInputStreams)
    (entries : List (Nat × NvsBlob)) (saved : InputStreamRecord) : Prop :=
  ∀ seq record later, IsNewestRecord entries seq record later →
    let read := inputStreamAt (laidOver seq record later) 0
    let newest := (inputStreamAt record 0).savedBinding
    if seq ≠ 0 ∧ EntryUsable cfg rate u read then
      read.savedBinding.Empty ∨ read.savedBinding = newest
    else EntryUsable cfg rate u saved → saved.savedBinding.Empty ∨ saved.savedBinding = newest

section Binding

variable {rate : Nat} {u : Fin avbMaxNumInputStreams} {saved : InputStreamRecord}
  {dst : AcmpListenerStream}

/-- A snapshot's entry that is applied, and then one that is passed over, or the same again. -/
theorem apply_passedOver {next : InputStreamRecord} (hempty : dst.savedBinding.Empty)
    (hnext : next = saved ∨ ¬ EntryUsable cfg rate u next) :
    let bound := (applyInputStream cfg rate u next
      (applyInputStream cfg rate u saved dst)).savedBinding
    (EntryUsable cfg rate u saved → bound = saved.savedBinding) ∧
      (¬ EntryUsable cfg rate u saved → bound.Empty) := by
  intro bound
  constructor
  · intro husable
    rcases hnext with rfl | hnext
    · exact applyInputStream_usable husable
    · simp only [bound]
      rw [applyInputStream_unusable hnext]
      exact applyInputStream_usable husable
  · intro hunusable
    have hnext' : ¬ EntryUsable cfg rate u next := by
      rcases hnext with rfl | hnext
      · exact hunusable
      · exact hnext
    simp only [bound]
    rw [applyInputStream_unusable hnext', applyInputStream_unusable hunusable]
    exact hempty

theorem bindingRestored_newest {binding : SavedBinding}
    (h : IsNewestRecord entries seq record later) :
    BindingRestored entries saved binding ↔
      binding.Empty ∨ binding = (inputStreamAt record 0).savedBinding := by
  refine or_congr_right ⟨?_, fun heq => Or.inl ⟨seq, record, later, h, heq⟩⟩
  rintro (⟨seq', record', later', h', heq⟩ | ⟨hnone, -⟩)
  · obtain ⟨-, hrecord⟩ := Prod.mk.inj (newestRecord_unique h h').1
    rw [hrecord]
    exact heq
  · obtain ⟨hread, earlier, heq, -⟩ := h
    exact absurd hread (hnone (seq, record) (by simp [heq]))

theorem newestStands_newest (h : IsNewestRecord entries seq record later) :
    NewestStands cfg rate u entries saved ↔
      let read := inputStreamAt (laidOver seq record later) 0
      let newest := (inputStreamAt record 0).savedBinding
      if seq ≠ 0 ∧ EntryUsable cfg rate u read then
        read.savedBinding.Empty ∨ read.savedBinding = newest
      else EntryUsable cfg rate u saved → saved.savedBinding.Empty ∨ saved.savedBinding = newest := by
  constructor
  · exact fun hstands => hstands seq record later h
  · intro hstands seq' record' later' h'
    obtain ⟨hpair, rfl⟩ := newestRecord_unique h h'
    obtain ⟨rfl, rfl⟩ := Prod.mk.inj hpair
    exact hstands

/-- What boot makes of a stream, from what it reads of the journal. -/
theorem bindingRestored_iff {found : Option NvsBlob} (hempty : dst.savedBinding.Empty)
    (hnone : (∀ entry ∈ entries, ¬ ReadableRecord entry) → found = none)
    (hnewest : ∀ seq record later, IsNewestRecord entries seq record later →
      found = if seq = 0 then none else some (laidOver seq record later)) :
    BindingRestored entries saved
        (applyInputStream cfg rate u ((found.map (inputStreamAt · 0)).getD saved)
          (applyInputStream cfg rate u saved dst)).savedBinding
      ↔ NewestStands cfg rate u entries saved := by
  by_cases hread : ∃ entry ∈ entries, ReadableRecord entry
  · obtain ⟨seq, record, later, h⟩ := exists_newestRecord hread
    rw [bindingRestored_newest h, newestStands_newest h, hnewest seq record later h]
    dsimp only
    by_cases htaken : seq ≠ 0 ∧ EntryUsable cfg rate u (inputStreamAt (laidOver seq record later) 0)
    · rw [if_pos htaken, if_neg htaken.1, Option.map_some, Option.getD_some,
        applyInputStream_usable htaken.2]
    · rw [if_neg htaken]
      have hpassed : ((if seq = 0 then none else some (laidOver seq record later)).map
          (inputStreamAt · 0)).getD saved = saved ∨ ¬ EntryUsable cfg rate u
            (((if seq = 0 then none else some (laidOver seq record later)).map
              (inputStreamAt · 0)).getD saved) := by
        by_cases hzero : seq = 0
        · rw [if_pos hzero]
          exact Or.inl rfl
        · rw [if_neg hzero]
          exact Or.inr fun husable => htaken ⟨hzero, husable⟩
      obtain ⟨hbound, hunbound⟩ := apply_passedOver hempty hpassed
      by_cases husable : EntryUsable cfg rate u saved
      · rw [hbound husable]
        exact (imp_iff_right husable).symm
      · exact iff_of_true (Or.inl (hunbound husable)) fun husable' => absurd husable' husable
  · have hunread : ∀ entry ∈ entries, ¬ ReadableRecord entry :=
      fun entry hmem hentry => hread ⟨entry, hmem, hentry⟩
    have hstands : NewestStands cfg rate u entries saved := by
      rintro seq record later ⟨hrecord, earlier, heq, -⟩
      exact absurd hrecord (hunread (seq, record) (by simp [heq]))
    refine iff_of_true ?_ hstands
    rw [hnone hunread]
    obtain ⟨hbound, hunbound⟩ :=
      @apply_passedOver cfg rate u saved dst saved hempty (Or.inl rfl)
    by_cases husable : EntryUsable cfg rate u saved
    · exact Or.inr (Or.inr ⟨hunread, hbound husable⟩)
    · exact Or.inl (hunbound husable)

end Binding

/-! ## Formats -/

/-- A format that is restored for a saved one: supported, and of its family at the rate (the CRF format
itself at a CRF stream); or the saved one, where no supported format has the rate. -/
def FormatKept (cfg : AudioConfig) (rate : Nat) (key : StreamKey) (saved f : Octets 8) : Prop :=
  (cfg.formatSupported key.isOutput key.index rate f = true ∧
    if cfg.isCrf key.isOutput key.index then f = saved
    else avbStreamFormatsSameFamily saved f = true ∧ avbStreamFormatRateHz f = rate) ∨
  (f = saved ∧ ∀ supported ∈ cfg.supportedFormats, avbStreamFormatRateHz supported ≠ rate)

theorem sameFamily_self {f : Octets 8} (h : IsAudioFormat f) :
    avbStreamFormatsSameFamily f f = true := by
  unfold avbStreamFormatsSameFamily
  rw [if_neg (not_not.mpr rfl)]
  rcases h with hsub | hsub
  · rw [if_pos hsub]
    exact decide_eq_true rfl
  · rw [hsub]
    simp [avtpSubtypeAaf, avtpSubtype61883]

theorem normalize_kept {rate : Nat} {key : StreamKey} {saved f : Octets 8}
    (h : avbPersistNormalize cfg rate key saved = some f) : FormatKept cfg rate key saved f := by
  unfold avbPersistNormalize at h
  split at h
  · cases h
  · rename_i hnot
    simp only [Bool.or_eq_true, decide_eq_true_eq, Bool.not_eq_eq_eq_not, Bool.not_true, not_or,
      Bool.not_eq_false] at hnot
    obtain ⟨-, hsupported⟩ := hnot
    unfold FormatKept
    split at h
    · rename_i hcrf
      cases h
      rw [if_pos hcrf]
      exact Or.inl ⟨hsupported, rfl⟩
    · rename_i hcrf
      rw [if_neg hcrf]
      rw [Bool.not_eq_true] at hcrf
      split at h
      · rename_i hrate
        cases h
        exact Or.inl ⟨hsupported, sameFamily_self (formatSupported_audio hcrf hsupported), hrate⟩
      · split at h
        · rename_i candidate hfamily
          cases h
          have hfound := List.find?_some hfamily
          simp only [Bool.and_eq_true, decide_eq_true_eq] at hfound
          refine Or.inl ⟨?_, hfound.2, hfound.1⟩
          unfold AudioConfig.formatSupported
          rw [hcrf, if_neg Bool.false_ne_true, List.any_eq_true]
          exact ⟨f, List.mem_of_find?_eq_some hfamily, by simp⟩
        · split at h
          · cases h
          · rename_i henum
            cases h
            refine Or.inr ⟨rfl, fun supported hmem hrate => henum ?_⟩
            exact List.any_eq_true.mpr ⟨supported, hmem, decide_eq_true hrate⟩

/-- The saved format of a stream. -/
def PersistStreams.formatOf (p : PersistStreams) : StreamKey → Octets 8
  | .input u => (p.inputs (journalIndex u.val)).streamFormat
  | .output u => (p.outputs (journalIndex u.val)).streamFormat

theorem applyInputStream_format (rate : Nat) (u : Fin avbMaxNumInputStreams)
    (src : InputStreamRecord) (dst : AcmpListenerStream) :
    (applyInputStream cfg rate u src dst).streamFormat = dst.streamFormat ∨
      FormatKept cfg rate (.input u) src.streamFormat
        (applyInputStream cfg rate u src dst).streamFormat := by
  unfold applyInputStream
  split
  · rename_i hformat
    exact Or.inr (normalize_kept hformat)
  · split
    · exact Or.inl rfl
    · exact Or.inl rfl

theorem applyOutputStream_format (rate : Nat) (version : UInt8) (u : Fin avbMaxNumOutputStreams)
    (src : OutputStreamRecord) (dst : AvbTalkerStream) :
    (applyOutputStream cfg rate version u src dst).streamFormat = dst.streamFormat ∨
      FormatKept cfg rate (.output u) src.streamFormat
        (applyOutputStream cfg rate version u src dst).streamFormat := by
  unfold applyOutputStream
  cases hformat : avbPersistNormalize cfg rate (.output u) src.streamFormat with
  | some f =>
      right
      dsimp only
      split_ifs <;> exact normalize_kept hformat
  | none =>
      left
      dsimp only
      split_ifs <;> rfl

/-- Each format an apply puts in a stream is kept from the saved one. -/
theorem applyStreams_format (p : PersistStreams) (s : EntityState) (key : StreamKey) :
    (applyStreams cfg p s).formatOf key = s.formatOf key ∨
      FormatKept cfg s.sampleRate key (p.formatOf key) ((applyStreams cfg p s).formatOf key) := by
  cases key with
  | input u =>
      by_cases hhas : cfg.has (.input u) = true
      · simp only [applyStreams, EntityState.formatOf, if_pos hhas]
        exact applyInputStream_format _ _ _ _
      · simp only [applyStreams, EntityState.formatOf, if_neg hhas]
        exact Or.inl trivial
  | output u =>
      by_cases hhas : cfg.has (.output u) = true
      · simp only [applyStreams, EntityState.formatOf, if_pos hhas]
        exact applyOutputStream_format _ _ _ _ _
      · simp only [applyStreams, EntityState.formatOf, if_neg hhas]
        exact Or.inl trivial

/-! ## Boot -/

/-- The entries of the journal about an input. -/
def inputEntries (listing : NvsListing) (nvs : Nvs) (u : Fin avbMaxNumInputStreams) :
    List (Nat × NvsBlob) :=
  streamEntries (listing.order nvs.blobs) ⟨true, journalIndex u.val⟩

/-- The snapshot's entry of an input. -/
def snapshotInput (snapshot : NvsBlob) (u : Fin avbMaxNumInputStreams) : InputStreamRecord :=
  (persistStreams snapshot).inputs (journalIndex u.val)

/-- What boot restores in a state: each input has the binding it should, and each format that is put
in is kept from one that was applied, of the snapshot or of the journal over it. -/
structure StreamsRestored (cfg : AudioConfig) (listing : NvsListing) (nvs : Nvs)
    (snapshot : NvsBlob) (s s' : EntityState) : Prop where
  bindings : ∀ u, cfg.has (.input u) = true →
    BindingRestored (inputEntries listing nvs u) (snapshotInput snapshot u)
      (s'.listener.inputStreams u).savedBinding
  formats : ∀ key, s'.formatOf key = s.formatOf key ∨
    FormatKept cfg s.sampleRate key ((persistStreams snapshot).formatOf key) (s'.formatOf key) ∨
    FormatKept cfg s.sampleRate key
      (((persistStreams snapshot).replay (journalAtBoot cfg listing nvs)).formatOf key)
      (s'.formatOf key)

/-- With a usable snapshot, boot restores the streams as it should just if every input's newest
readable record stands. -/
theorem streams_restored_iff (cfg : AudioConfig) (listing : NvsListing) (nvs : Nvs)
    (s : EntityState) {snapshot : NvsBlob}
    (hsnapshot : nvs.blobs.lookup AVB_NVS_KEY = some snapshot)
    (husable : snapshotUsable nvs.blobs = true)
    (hempty : ∀ u, (s.listener.inputStreams u).savedBinding.Empty) :
    StreamsRestored cfg listing nvs snapshot s (loadStreams cfg listing nvs s) ↔
      ∀ u, cfg.has (.input u) = true →
        NewestStands cfg s.sampleRate u (inputEntries listing nvs u) (snapshotInput snapshot u) := by
  have hload : loadStreams cfg listing nvs s
      = applyStreams cfg ((persistStreams snapshot).replay (journalAtBoot cfg listing nvs))
          (applyStreams cfg (persistStreams snapshot) s) := by
    unfold loadStreams
    rw [hsnapshot]
    exact if_pos husable
  have hbinding : ∀ u, cfg.has (.input u) = true →
      (BindingRestored (inputEntries listing nvs u) (snapshotInput snapshot u)
          ((loadStreams cfg listing nvs s).listener.inputStreams u).savedBinding
        ↔ NewestStands cfg s.sampleRate u (inputEntries listing nvs u)
          (snapshotInput snapshot u)) := by
    intro u hhas
    have hstream : (loadStreams cfg listing nvs s).listener.inputStreams u
        = applyInputStream cfg s.sampleRate u
            (((journalAtBoot cfg listing nvs ⟨true, journalIndex u.val⟩).map (inputStreamAt · 0)).getD
              (snapshotInput snapshot u))
            (applyInputStream cfg s.sampleRate u (snapshotInput snapshot u)
              (s.listener.inputStreams u)) := by
      rw [hload]
      simp only [applyStreams, if_pos hhas]
      rfl
    have hindex : (journalIndex u.val).val < cfg.numStreams false :=
      (Nat.mod_le u.val 8).trans_lt (of_decide_eq_true hhas)
    rw [hstream]
    exact bindingRestored_iff (hempty u) (journalAtBoot_none hindex)
      fun seq record later h => journalAtBoot_newest hindex h
  constructor
  · exact fun h u hhas => (hbinding u hhas).mp (h.bindings u hhas)
  · intro h
    refine ⟨fun u hhas => (hbinding u hhas).mpr (h u hhas), fun key => ?_⟩
    rw [hload]
    rcases applyStreams_format
        ((persistStreams snapshot).replay (journalAtBoot cfg listing nvs))
        (applyStreams cfg (persistStreams snapshot) s) key with hsame | hkept
    · rw [hsame]
      exact (applyStreams_format (persistStreams snapshot) s key).imp_right Or.inl
    · exact Or.inr (Or.inr hkept)

/-- An entry with a talker, or none, and a format, as it is written to flash. -/
def inputEntryBytes (talkerId : UniqueId) (streamFormat : Octets 8) : NvsBlob :=
  talkerId.bytes ++ List.replicate 10 0 ++ streamFormat.bytes ++ List.replicate 6 0

/-- A snapshot with input 0 bound, in the format of the build. -/
def boundSnapshot : NvsBlob :=
  AVB_PERSIST_VERSION :: (List.replicate 1027 0 ++
    inputEntryBytes (.ofNat 8 0x020000fffe000002) (aafFormat 24 5 8 6))

/-- The namespace after input 0 has been unbound, in a format. -/
def unboundNvs (streamFormat : Octets 8) : Nvs :=
  { blobs := (AList.singleton AVB_NVS_KEY boundSnapshot).insert
      (streamJournalKey ⟨true, journalIndex 0⟩ 1) (inputEntryBytes (.zero 8) streamFormat)
    results := []
    writes := [] }

theorem writtenOrder_perm (blobs : NvsBlobs) : blobs.entries.Perm blobs.entries :=
  List.Perm.refl blobs.entries

/-- The blobs in the order they were written. -/
def writtenOrder : NvsListing := ⟨fun blobs => blobs.entries, writtenOrder_perm⟩

def firstInput : Fin avbMaxNumInputStreams := ⟨0, Nat.two_pos⟩

theorem unbound_newest (streamFormat : Octets 8) :
    IsNewestRecord (inputEntries writtenOrder (unboundNvs streamFormat) firstInput) 1
      (inputEntryBytes (.zero 8) streamFormat) [] := by
  have hread : ReadableRecord (1, inputEntryBytes (.zero 8) streamFormat) := by
    unfold ReadableRecord inputEntryBytes
    simp [streamFormat.length_eq, (Octets.zero 8).length_eq, JOURNAL_RECORD_LEN]
  have hentries : inputEntries writtenOrder (unboundNvs streamFormat) firstInput
      = [] ++ (1, inputEntryBytes (.zero 8) streamFormat) :: [] := rfl
  refine ⟨hread, [], hentries, ?_, ?_⟩
  · exact fun entry hmem => absurd hmem List.not_mem_nil
  · exact fun entry hmem => absurd hmem List.not_mem_nil

/-- The CRF input has no record. -/
theorem unbound_others (streamFormat : Octets 8) {u : Fin avbMaxNumInputStreams}
    (hu : u ≠ firstInput) : inputEntries writtenOrder (unboundNvs streamFormat) u = [] := by
  have hsecond : u = ⟨1, Nat.one_lt_two⟩ := by
    apply Fin.ext
    have hlt : u.val < 2 := u.isLt
    have hne : u.val ≠ 0 := fun h => hu (Fin.ext h)
    show u.val = 1
    omega
  subst hsecond
  rfl

/-- The record that unbinds, in a format the entity has. -/
theorem streams_restored_unbound :
    StreamsRestored wiredAudio writtenOrder (unboundNvs (aafFormat 24 5 8 6)) boundSnapshot .blank
      (loadStreams wiredAudio writtenOrder (unboundNvs (aafFormat 24 5 8 6)) .blank) := by
  refine (streams_restored_iff wiredAudio writtenOrder _ .blank (by decide +kernel)
    (by decide +kernel) fun u => rfl).mpr fun u _ => ?_
  by_cases hu : u = firstInput
  · subst hu
    rw [newestStands_newest (unbound_newest _)]
    dsimp only
    rw [if_pos ⟨by decide, by decide +kernel⟩]
    exact Or.inl (by decide +kernel)
  · rw [unbound_others _ hu]
    rintro seq record later ⟨-, earlier, heq, -⟩
    simp at heq

/-- The record that unbinds input 0 is in a format that no build has, and the snapshot's binding comes
back. -/
theorem cleared_binding_returns :
    ¬ StreamsRestored wiredAudio writtenOrder (unboundNvs (aafFormat 24 5 7 6)) boundSnapshot .blank
      (loadStreams wiredAudio writtenOrder (unboundNvs (aafFormat 24 5 7 6)) .blank) := by
  intro h
  have hbinding := h.bindings firstInput (by decide +kernel)
  rw [bindingRestored_newest (unbound_newest _)] at hbinding
  revert hbinding
  decide +kernel

end EspAvb
