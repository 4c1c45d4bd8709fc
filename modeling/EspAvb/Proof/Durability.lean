import EspAvb.Proof.Journal

/-!
# Durability of the journal

What compaction writes, and what a boot restores after any prefix of those writes. A compaction
whose calls all succeed keeps every stream's record; one that is cut short after its erasures has
lost them all. Over a run of appends, compactions and boots the restored record of a stream is the
last one appended, where each append gets a sequence number that its stream has not passed yet.
-/

namespace EspAvb

variable {cfg : PersistConfig}

/-! ### Calls and writes -/

/-- From one state of the namespace to another only writes of a kind were carried out. -/
def Wrote (P : NvsWrite → Prop) (nvs nvs' : Nvs) : Prop :=
  ∃ ws, nvs'.writes = nvs.writes ++ ws ∧ nvs'.blobs = ws.foldl NvsWrite.apply nvs.blobs ∧
    ∀ w ∈ ws, P w

namespace Wrote

variable {P : NvsWrite → Prop} {nvs nvs' nvs'' : Nvs}

theorem refl (nvs : Nvs) : Wrote P nvs nvs := ⟨[], by simp, rfl, by simp⟩

theorem trans (h : Wrote P nvs nvs') (h' : Wrote P nvs' nvs'') : Wrote P nvs nvs'' := by
  obtain ⟨ws, hwrites, hblobs, hP⟩ := h
  obtain ⟨ws', hwrites', hblobs', hP'⟩ := h'
  refine ⟨ws ++ ws', ?_, ?_, ?_⟩
  · rw [hwrites', hwrites, List.append_assoc]
  · rw [hblobs', hblobs, List.foldl_append]
  · intro w hw
    rcases List.mem_append.mp hw with hw | hw
    · exact hP w hw
    · exact hP' w hw

theorem write {w : NvsWrite} (hw : P w) : Wrote P nvs (nvs.write w).2 := by
  unfold Nvs.write
  split
  case h_1 nvs' hcall =>
    obtain ⟨-, rfl⟩ := Prod.mk.inj hcall
    exact ⟨[w], rfl, rfl, by simpa using hw⟩
  case h_2 hcall =>
    exact ⟨[], by simp [Nvs.call], rfl, by simp⟩

/-- What every such write keeps, they keep together, however many of them are carried out. -/
theorem foldl_keeps {Inv : NvsBlobs → Prop} (hkeep : ∀ blobs w, P w → Inv blobs → Inv (w.apply blobs))
    {ws : List NvsWrite} (hws : ∀ w ∈ ws, P w) {blobs : NvsBlobs} (hinit : Inv blobs) :
    Inv (ws.foldl NvsWrite.apply blobs) :=
  Machine.run_invariant_of_forall_mem Inv (fun blobs w hw => hkeep blobs w (hws w hw)) hinit

theorem keeps {Inv : NvsBlobs → Prop} (h : Wrote P nvs nvs')
    (hkeep : ∀ blobs w, P w → Inv blobs → Inv (w.apply blobs)) (hinit : Inv nvs.blobs) :
    Inv nvs'.blobs := by
  obtain ⟨ws, -, hblobs, hP⟩ := h
  rw [hblobs]
  exact foldl_keeps hkeep hP hinit

end Wrote

/-- The next calls all succeed. -/
def Nvs.Healthy (nvs : Nvs) (calls : Nat) : Prop := ∀ err ∈ nvs.results.take calls, err = .ok

/-- The namespace after a write that succeeds. -/
def Nvs.written (nvs : Nvs) (w : NvsWrite) : Nvs :=
  { blobs := w.apply nvs.blobs, results := nvs.results.tail, writes := nvs.writes ++ [w] }

theorem Nvs.write_healthy {nvs : Nvs} {w : NvsWrite} {calls : Nat} (h : nvs.Healthy (calls + 1)) :
    nvs.write w = (.ok, nvs.written w) ∧ (nvs.written w).Healthy calls := by
  have hhead : nvs.results.headD .ok = .ok := by
    cases hresults : nvs.results with
    | nil => rfl
    | cons err rest => exact h err (by simp [hresults])
  have heq : nvs.write w = (.ok, nvs.written w) := by
    simp only [Nvs.write, Nvs.call, hhead, Nvs.written]
  refine ⟨heq, ?_⟩
  intro err herr
  apply h err
  cases hresults : nvs.results with
  | nil => simp [Nvs.written, hresults] at herr
  | cons first rest =>
      simp only [Nvs.written, hresults, List.tail_cons] at herr
      rw [List.take_succ_cons]
      exact List.mem_cons_of_mem first herr

/-! ### The erase loop -/

def isJournalKey (key : NvsKey) : Bool := (avbPersistParseStreamJournalKey key).isSome

def journalKeyCount (blobs : NvsBlobs) : Nat := blobs.keys.countP isJournalKey

def IsErase (w : NvsWrite) : Prop := ∃ key, w = .eraseKey key

theorem find_victim (cfg : PersistConfig) (blobs : NvsBlobs) :
    (cfg.listing.order blobs).find? isJournalEntry = none ∧ journalKeyCount blobs = 0 ∨
      ∃ victim : NvsEntry, (cfg.listing.order blobs).find? isJournalEntry = some victim ∧
        victim.1 ∈ blobs ∧ journalKeyCount blobs = journalKeyCount (blobs.erase victim.1) + 1 := by
  cases hfind : (cfg.listing.order blobs).find? isJournalEntry with
  | none =>
      refine Or.inl ⟨rfl, List.countP_eq_zero.mpr ?_⟩
      intro key hkey
      obtain ⟨value, hlookup⟩ := Option.isSome_iff_exists.mp (AList.lookup_isSome.mpr hkey)
      exact List.find?_eq_none.mp hfind ⟨key, value⟩ ((mem_order_iff cfg.listing).mpr hlookup)
  | some victim =>
      obtain ⟨key, value⟩ := victim
      have hmem := (mem_order_iff cfg.listing).mp (List.mem_of_find?_eq_some hfind)
      have hjournal : isJournalEntry ⟨key, value⟩ = true := List.find?_some hfind
      have hkey : key ∈ blobs := AList.lookup_isSome.mp (by simp [hmem])
      refine Or.inr ⟨_, rfl, hkey, ?_⟩
      have hpos : 0 < journalKeyCount blobs :=
        List.countP_pos_iff.mpr ⟨key, AList.mem_keys.mp hkey, hjournal⟩
      have herase : journalKeyCount (blobs.erase key) = journalKeyCount blobs - 1 := by
        rw [journalKeyCount, AList.keys_erase,
          @List.countP_erase NvsKey instBEqOfDecidableEq _ isJournalKey blobs.keys key,
          if_pos ⟨AList.mem_keys.mp hkey, hjournal⟩]
        rfl
      simp only
      omega

theorem eraseStreamJournal_wrote (cfg : PersistConfig) (fuel : Nat) (nvs : Nvs) :
    Wrote IsErase nvs (eraseStreamJournal cfg fuel nvs) := by
  induction fuel generalizing nvs with
  | zero => exact .refl nvs
  | succ fuel ih =>
      unfold eraseStreamJournal
      split
      case h_1 => exact .refl nvs
      case h_2 victim _ =>
        have herase : Wrote IsErase nvs (nvsEraseKey nvs victim.1).2 := by
          unfold nvsEraseKey
          split
          · exact .write ⟨_, rfl⟩
          · exact .refl nvs
        split
        case h_1 heq =>
          rw [heq] at herase
          exact herase.trans (ih _)
        case h_2 heq =>
          rw [heq] at herase
          exact herase

/-- With enough fuel and calls that succeed the loop leaves no journal key. -/
theorem eraseStreamJournal_healthy (cfg : PersistConfig) {fuel calls : Nat} {nvs : Nvs}
    (hfuel : journalKeyCount nvs.blobs ≤ fuel)
    (hok : nvs.Healthy (journalKeyCount nvs.blobs + calls)) :
    journalKeyCount (eraseStreamJournal cfg fuel nvs).blobs = 0 ∧
      (eraseStreamJournal cfg fuel nvs).Healthy calls := by
  induction fuel generalizing nvs with
  | zero =>
      have hzero := Nat.le_zero.mp hfuel
      rw [hzero, zero_add] at hok
      exact ⟨hzero, hok⟩
  | succ fuel ih =>
      rcases find_victim cfg nvs.blobs with ⟨hnone, hzero⟩ | ⟨victim, hsome, hmem, hcount⟩
      · rw [hzero, zero_add] at hok
        simp only [eraseStreamJournal, hnone]
        exact ⟨hzero, hok⟩
      · rw [hcount, add_right_comm] at hok
        obtain ⟨hwrite, hrest⟩ := Nvs.write_healthy (w := .eraseKey victim.1) hok
        simp only [eraseStreamJournal, hsome, nvsEraseKey, if_pos hmem, hwrite]
        refine ih ?_ hrest
        simp only [Nvs.written, NvsWrite.apply]
        omega

theorem not_recorded {blobs : NvsBlobs} (h : journalKeyCount blobs = 0) (x : JournalStream) (s : Nat)
    (b : NvsBlob) : ¬Recorded blobs x s b := by
  rintro ⟨-, hlookup⟩
  have hkey : streamJournalKey x s ∈ blobs := AList.lookup_isSome.mp (by simp [hlookup])
  have hnot := List.countP_eq_zero.mp h _ (AList.mem_keys.mp hkey)
  simp [isJournalKey, parse_streamJournalKey] at hnot

/-! ### The rewrite -/

def IsRewrite (scan : JournalScan) (w : NvsWrite) : Prop :=
  ∃ x s b, w = .setBlob (streamJournalKey x s) b ∧ s < 2 ^ 24 ∧ scan.record x = some b

theorem journalSeqBits_lt (seq : Nat) : journalSeqBits seq < 2 ^ 24 := Nat.mod_lt seq (by norm_num)

theorem rewrite_wrote (scan : JournalScan) (streams : List JournalStream) (st : Nat × Nvs) :
    Wrote (IsRewrite scan) st.2 (streams.foldl (rewriteRecord scan) st).2 := by
  induction streams generalizing st with
  | nil => exact .refl st.2
  | cons x streams ih =>
      have hfirst : Wrote (IsRewrite scan) st.2 (rewriteRecord scan st x).2 := by
        unfold rewriteRecord
        split
        case h_1 => exact .refl st.2
        case h_2 b hrecord => exact .write ⟨x, _, b, rfl, journalSeqBits_lt _, hrecord⟩
      exact hfirst.trans (ih _)

/-- The streams the rewrite has a record for. -/
def liveCount (scan : JournalScan) (streams : List JournalStream) : Nat :=
  streams.countP fun x => (scan.record x).isSome

/-- What the rewrite of a list of streams leaves, from a counter and a namespace on. -/
structure Rewritten (scan : JournalScan) (streams : List JournalStream) (start : Nat) (nvs : Nvs)
    (calls : Nat) (st : Nat × Nvs) : Prop where
  start_le : start ≤ st.1
  le_length : st.1 ≤ start + streams.length
  healthy : st.2.Healthy calls
  newest : ∀ x ∈ streams, IsNewest st.2.blobs x (scan.record x)
  bounded : ∀ x ∈ streams, ∀ s b, Recorded st.2.blobs x s b → s ≤ st.1
  other : ∀ x ∉ streams, ∀ s b, Recorded st.2.blobs x s b ↔ Recorded nvs.blobs x s b

theorem rewrite_healthy {scan : JournalScan} {streams : List JournalStream} (hnodup : streams.Nodup)
    {start calls : Nat} {nvs : Nvs} (hstart : start + streams.length < 2 ^ 24)
    (hok : nvs.Healthy (liveCount scan streams + calls))
    (hnone : ∀ x ∈ streams, ∀ s b, ¬Recorded nvs.blobs x s b) :
    Rewritten scan streams start nvs calls (streams.foldl (rewriteRecord scan) (start, nvs)) := by
  induction streams generalizing start nvs with
  | nil => exact ⟨le_rfl, le_rfl, by simpa [liveCount] using hok, by simp, by simp, by simp⟩
  | cons x streams ih =>
      obtain ⟨hx, hnodup⟩ := List.nodup_cons.mp hnodup
      rw [List.length_cons] at hstart
      cases hrecord : scan.record x with
      | none =>
          have hlive : liveCount scan (x :: streams) = liveCount scan streams := by
            simp [liveCount, hrecord]
          rw [hlive] at hok
          have hrest : Rewritten scan streams start nvs calls
              (streams.foldl (rewriteRecord scan) (start, nvs)) :=
            ih hnodup (by omega) hok fun y hy => hnone y (List.mem_cons_of_mem x hy)
          have hsame := hrest.other x hx
          rw [List.foldl_cons, show rewriteRecord scan (start, nvs) x = (start, nvs) by
            simp [rewriteRecord, hrecord]]
          refine ⟨hrest.start_le, ?_, hrest.healthy, ?_, ?_, ?_⟩
          · exact hrest.le_length.trans (by simp)
          · intro y hy
            rcases List.mem_cons.mp hy with rfl | hy
            · rw [hrecord]
              intro s b hb
              exact absurd ((hsame s b).mp hb) (hnone y List.mem_cons_self s b)
            · exact hrest.newest y hy
          · intro y hy s b hb
            rcases List.mem_cons.mp hy with rfl | hy
            · exact absurd ((hsame s b).mp hb) (hnone y List.mem_cons_self s b)
            · exact hrest.bounded y hy s b hb
          · intro y hy
            exact hrest.other y fun h => hy (List.mem_cons_of_mem x h)
      | some record =>
          have hlive : liveCount scan (x :: streams) = liveCount scan streams + 1 := by
            simp [liveCount, hrecord]
          rw [hlive, add_right_comm] at hok
          have hseq : nextJournalSeq start = start + 1 := Nat.mod_eq_of_lt (by omega)
          have hbits : journalSeqBits (start + 1) = start + 1 := Nat.mod_eq_of_lt (by omega)
          have hlt : start + 1 < 2 ^ 24 := by omega
          let w : NvsWrite := .setBlob (streamJournalKey x (start + 1)) record
          obtain ⟨hwrite, hok'⟩ := Nvs.write_healthy (w := w) hok
          have hstep : rewriteRecord scan (start, nvs) x = (start + 1, nvs.written w) := by
            simp only [rewriteRecord, hrecord, hseq, hbits, nvsSetBlob]
            rw [hwrite]
          have hother : ∀ y ≠ x, ∀ s b, Recorded (nvs.written w).blobs y s b ↔
              Recorded nvs.blobs y s b := fun y hy s b =>
            recorded_insert_ne hlt fun h => hy h.1
          have hrest : Rewritten scan streams (start + 1) (nvs.written w) calls
              (streams.foldl (rewriteRecord scan) (start + 1, nvs.written w)) := by
            refine ih hnodup (by omega) hok' ?_
            intro y hy s b hb
            have hne : y ≠ x := fun h => hx (h ▸ hy)
            exact hnone y (List.mem_cons_of_mem x hy) s b ((hother y hne s b).mp hb)
          have hsame := hrest.other x hx
          have htop : ∀ s b, Recorded (nvs.written w).blobs x s b → s = start + 1 := by
            intro s b hb
            by_contra hne
            exact hnone x List.mem_cons_self s b
              ((recorded_insert_ne hlt fun h => hne h.2).mp hb)
          rw [List.foldl_cons, hstep]
          refine ⟨(Nat.le_succ start).trans hrest.start_le, ?_, hrest.healthy, ?_, ?_, ?_⟩
          · exact hrest.le_length.trans (by rw [List.length_cons]; omega)
          · intro y hy
            rcases List.mem_cons.mp hy with rfl | hy
            · rw [hrecord, IsNewest.congr hsame]
              exact isNewest_insert hlt (Nat.succ_ne_zero start) fun t c ht =>
                absurd ht (hnone y List.mem_cons_self t c)
            · exact hrest.newest y hy
          · intro y hy s b hb
            rcases List.mem_cons.mp hy with rfl | hy
            · rw [htop s b ((hsame s b).mp hb)]
              exact hrest.start_le
            · exact hrest.bounded y hy s b hb
          · intro y hy s b
            have hne : y ≠ x := fun h => hy (h ▸ List.mem_cons_self)
            exact (hrest.other y (fun h => hy (List.mem_cons_of_mem x h)) s b).trans (hother y hne s b)

/-! ### Compaction -/

def IsCompactionWrite (scan : JournalScan) (w : NvsWrite) : Prop := IsErase w ∨ IsRewrite scan w

theorem Wrote.mono {P Q : NvsWrite → Prop} {nvs nvs' : Nvs} (h : Wrote P nvs nvs')
    (hPQ : ∀ w, P w → Q w) : Wrote Q nvs nvs' := by
  obtain ⟨ws, hwrites, hblobs, hP⟩ := h
  exact ⟨ws, hwrites, hblobs, fun w hw => hPQ w (hP w hw)⟩

theorem compactionPasses_wrote (nvs : Nvs) :
    Wrote (IsCompactionWrite (journalScan false (cfg.listing.order nvs.blobs))) nvs
      (compactionPasses cfg nvs).2 :=
  ((eraseStreamJournal_wrote cfg _ nvs).mono fun _ => Or.inl).trans
    ((rewrite_wrote _ _ (0, _)).mono fun _ => Or.inr)

theorem avbPersistCompact_refused {seq : Nat} {nvs : Nvs} (h : (nvsOpen nvs).1 ≠ .ok) :
    avbPersistCompactStreamJournal cfg seq nvs = ((nvsOpen nvs).1, seq, (nvsOpen nvs).2) :=
  if_pos h

theorem avbPersistCompact_opened {seq : Nat} {nvs : Nvs} (h : (nvsOpen nvs).1 = .ok) :
    avbPersistCompactStreamJournal cfg seq nvs = (.ok, compactionPasses cfg (nvsOpen nvs).2) :=
  if_neg (not_not.mpr h)

theorem avbPersistCompact_wrote (cfg : PersistConfig) (seq : Nat) (nvs : Nvs) :
    Wrote (IsCompactionWrite (journalScan false (cfg.listing.order nvs.blobs))) nvs
      (avbPersistCompactStreamJournal cfg seq nvs).2.2 := by
  by_cases hopen : (nvsOpen nvs).1 = .ok
  · rw [avbPersistCompact_opened hopen]
    exact compactionPasses_wrote (nvsOpen nvs).2
  · rw [avbPersistCompact_refused hopen]
    exact ⟨[], by simp [nvsOpen, Nvs.call], rfl, by simp⟩

theorem record_length {blobs : NvsBlobs} (hwf : JournalWellFormed blobs) {exact : Bool}
    {x : JournalStream} {b : NvsBlob}
    (h : (journalScan exact (cfg.listing.order blobs)).record x = some b) :
    b.length = JOURNAL_RECORD_LEN := by
  obtain ⟨s, -, hrec, -⟩ := (record_eq_iff hwf cfg.listing exact x (some b)).mp h
  exact hrec.length hwf

/-- Whatever compaction writes of one namespace keeps any other well formed. -/
theorem JournalWellFormed.compactionWrite {origin blobs : NvsBlobs} (horigin : JournalWellFormed origin)
    {w : NvsWrite} (hw : IsCompactionWrite (journalScan false (cfg.listing.order origin)) w)
    (hwf : JournalWellFormed blobs) : JournalWellFormed (w.apply blobs) := by
  rcases hw with ⟨key, rfl⟩ | ⟨x, s, b, rfl, hs, hrecord⟩
  · exact hwf.erase key
  · exact hwf.insert_record (record_length horigin hrecord) hs

theorem JournalWellFormed.compact {nvs : Nvs} (hwf : JournalWellFormed nvs.blobs) (seq : Nat) :
    JournalWellFormed (avbPersistCompactStreamJournal cfg seq nvs).2.2.blobs :=
  (avbPersistCompact_wrote cfg seq nvs).keeps (fun _ _ hw => hwf.compactionWrite hw) hwf

def compactionCalls (cfg : PersistConfig) (blobs : NvsBlobs) : Nat :=
  journalKeyCount blobs
    + liveCount (journalScan false (cfg.listing.order blobs)) JournalStream.all

theorem JournalStream.mem_all (x : JournalStream) : x ∈ JournalStream.all := by
  obtain ⟨input, index⟩ := x
  cases input <;> simp [JournalStream.all]

theorem JournalStream.nodup_all : JournalStream.all.Nodup := by decide

theorem journalKeyCount_le (blobs : NvsBlobs) : journalKeyCount blobs ≤ blobs.entries.length := by
  refine List.countP_le_length.trans (le_of_eq ?_)
  simp [AList.keys, List.keys]

/-- A compaction whose calls succeed keeps every stream's record, and its counter is past every
sequence number it left. -/
theorem compactionPasses_healthy (nvs : Nvs) {calls : Nat} (hwf : JournalWellFormed nvs.blobs)
    (hok : nvs.Healthy (compactionCalls cfg nvs.blobs + calls)) :
    (∀ x r, IsNewest nvs.blobs x r → IsNewest (compactionPasses cfg nvs).2.blobs x r) ∧
      (∀ x s b, Recorded (compactionPasses cfg nvs).2.blobs x s b →
        s ≤ (compactionPasses cfg nvs).1) ∧
      (compactionPasses cfg nvs).1 ≤ 16 := by
  rw [compactionCalls, add_assoc] at hok
  obtain ⟨hempty, herased⟩ := eraseStreamJournal_healthy cfg (journalKeyCount_le nvs.blobs) hok
  have hstart : 0 + JournalStream.all.length < 2 ^ 24 := by decide
  have hrewritten := rewrite_healthy JournalStream.nodup_all hstart herased
    fun x _ s b => not_recorded hempty x s b
  refine ⟨?_, ?_, hrewritten.le_length⟩
  · intro x r hr
    have hnewest := hrewritten.newest x x.mem_all
    rwa [(record_eq_iff hwf cfg.listing false x r).mpr hr] at hnewest
  · intro x s b hb
    exact hrewritten.bounded x x.mem_all s b hb

/-- A compaction that does not get to open the namespace, or whose calls then succeed. -/
def CompactionHealthy (cfg : PersistConfig) (blobs : NvsBlobs) (results : List EspErr) : Prop :=
  results.headD .ok = .ok → ∀ err ∈ results.tail.take (compactionCalls cfg blobs), err = .ok

theorem avbPersistCompact_healthy {seq : Nat} {nvs : Nvs} (hwf : JournalWellFormed nvs.blobs)
    (hok : CompactionHealthy cfg nvs.blobs nvs.results) {x : JournalStream} {r : Option NvsBlob}
    (hr : IsNewest nvs.blobs x r) :
    IsNewest (avbPersistCompactStreamJournal cfg seq nvs).2.2.blobs x r := by
  by_cases hopen : (nvsOpen nvs).1 = .ok
  · have hhealthy : (nvsOpen nvs).2.Healthy (compactionCalls cfg (nvsOpen nvs).2.blobs + 0) :=
      hok hopen
    rw [avbPersistCompact_opened hopen]
    exact (compactionPasses_healthy (nvsOpen nvs).2 hwf hhealthy).1 x r hr
  · rw [avbPersistCompact_refused hopen]
    exact hr

/-! ### Power loss during a compaction -/

/-- The state a boot starts from. -/
def poweredOff (blobs : NvsBlobs) : JournalState :=
  { seq := 0, nvs := { blobs, results := [], writes := [] }, restored := fun _ => none }

/-- What a boot that replays the journal restores. -/
def replayRestores (cfg : PersistConfig) (blobs : NvsBlobs) (x : JournalStream) : Option NvsBlob :=
  (avbPersistReplayStreamJournal cfg (poweredOff blobs)).restored x

/-- The writes of a compaction whose calls return these results. -/
def compactionWrites (cfg : PersistConfig) (blobs : NvsBlobs) (seq : Nat) (results : List EspErr) :
    List NvsWrite :=
  (avbPersistCompactStreamJournal cfg seq { blobs, results, writes := [] }).2.2.writes

theorem replayRestores_eq (blobs : NvsBlobs) (x : JournalStream) : replayRestores cfg blobs x =
    if cfg.hasStream x then (journalScan true (cfg.listing.order blobs)).record x else none := rfl

theorem replayRestores_of_isNewest {blobs : NvsBlobs} (hwf : JournalWellFormed blobs)
    {x : JournalStream} (hx : cfg.hasStream x = true) {r : Option NvsBlob} (h : IsNewest blobs x r) :
    replayRestores cfg blobs x = r := by
  rw [replayRestores_eq, if_pos hx]
  exact (record_eq_iff hwf cfg.listing true x r).mpr h

/-- The namespace that a compaction leaves when the power fails after `n` writes. -/
def cutShort (cfg : PersistConfig) (blobs : NvsBlobs) (seq : Nat) (results : List EspErr) (n : Nat) :
    NvsBlobs :=
  ((compactionWrites cfg blobs seq results).take n).foldl NvsWrite.apply blobs

/-- What the writes of a compaction keep holds wherever the compaction is cut short. -/
theorem cutShort_keeps {blobs : NvsBlobs} (Inv : NvsBlobs → Prop)
    (hkeep : ∀ blobs' w, IsCompactionWrite (journalScan false (cfg.listing.order blobs)) w →
      Inv blobs' → Inv (w.apply blobs'))
    (hinit : Inv blobs) (seq : Nat) (results : List EspErr) (n : Nat) :
    Inv (cutShort cfg blobs seq results n) := by
  obtain ⟨ws, hwrites, -, hws⟩ := avbPersistCompact_wrote cfg seq
    { blobs, results, writes := [] }
  refine Wrote.foldl_keeps hkeep ?_ hinit
  intro w hw
  rw [compactionWrites, hwrites] at hw
  exact hws w (List.mem_of_mem_take hw)

theorem JournalWellFormed.cutShort {blobs : NvsBlobs} (hwf : JournalWellFormed blobs) (seq : Nat)
    (results : List EspErr) (n : Nat) : JournalWellFormed (cutShort cfg blobs seq results n) :=
  cutShort_keeps JournalWellFormed (fun _ _ hw => hwf.compactionWrite hw) hwf seq results n

/-- A stream without a record does not get one. -/
theorem isNewest_none_cutShort {blobs : NvsBlobs} (hwf : JournalWellFormed blobs) {x : JournalStream}
    (hnone : IsNewest blobs x none) (seq : Nat) (results : List EspErr) (n : Nat) :
    IsNewest (cutShort cfg blobs seq results n) x none := by
  have hscan := (record_eq_iff hwf cfg.listing false x none).mpr hnone
  refine cutShort_keeps (IsNewest · x none) ?_ hnone seq results n
  rintro blobs' w (⟨key, rfl⟩ | ⟨y, s, b, rfl, hs, hrecord⟩) hinv t c hc
  · exact hinv t c hc.of_erase
  · have hne : x ≠ y := by
      rintro rfl
      rw [hscan] at hrecord
      cases hrecord
    exact hinv t c ((recorded_insert_ne hs fun h => hne h.1).mp hc)

/-- The erasures come first: after them nothing of the journal is left. -/
theorem cutShort_erased (cfg : PersistConfig) (blobs : NvsBlobs) :
    ∃ n, journalKeyCount (cutShort cfg blobs 0 [] n) = 0 := by
  let nvs : Nvs := { blobs, results := [], writes := [] }
  let erased := eraseStreamJournal cfg blobs.entries.length nvs
  have hhealthy : nvs.Healthy (journalKeyCount nvs.blobs + 0) := by simp [nvs, Nvs.Healthy]
  obtain ⟨hempty, -⟩ := eraseStreamJournal_healthy cfg (journalKeyCount_le blobs) hhealthy
  obtain ⟨ws, hwrites, hblobs, -⟩ := eraseStreamJournal_wrote cfg blobs.entries.length nvs
  obtain ⟨ws', hwrites', -, -⟩ := rewrite_wrote
    (journalScan false (cfg.listing.order blobs)) JournalStream.all (0, erased)
  have hall : compactionWrites cfg blobs 0 [] = ws ++ ws' := by
    calc compactionWrites cfg blobs 0 [] = (compactionPasses cfg nvs).2.writes := rfl
      _ = erased.writes ++ ws' := hwrites'
      _ = ws ++ ws' := by rw [hwrites]; rfl
  refine ⟨ws.length, ?_⟩
  rw [cutShort, hall, List.take_left, ← hblobs]
  exact hempty

/-- Every compaction, wherever it is cut short and whatever fails, restores what was restored before
exactly where there is nothing to restore. -/
theorem compaction_powerSafe_iff {blobs : NvsBlobs} (hwf : JournalWellFormed blobs) :
    (∀ seq results n x, replayRestores cfg (cutShort cfg blobs seq results n) x
        = replayRestores cfg blobs x)
      ↔ ∀ x s b, cfg.hasStream x = true → Recorded blobs x s b → s = 0 := by
  constructor
  · intro hsafe x s b hx hb
    obtain ⟨n, hempty⟩ := cutShort_erased cfg blobs
    have hlost : IsNewest (cutShort cfg blobs 0 [] n) x none := fun t c hc =>
      absurd hc (not_recorded hempty x t c)
    have hnone : replayRestores cfg blobs x = none := by
      rw [← hsafe 0 [] n x]
      exact replayRestores_of_isNewest (hwf.cutShort 0 [] n) hx hlost
    rw [replayRestores_eq, if_pos hx] at hnone
    exact (record_eq_iff hwf cfg.listing true x none).mp hnone s b hb
  · intro hzero seq results n x
    by_cases hx : cfg.hasStream x = true
    · have hnone : IsNewest blobs x none := fun s b hb => hzero x s b hx hb
      calc replayRestores cfg (cutShort cfg blobs seq results n) x = none :=
            replayRestores_of_isNewest (hwf.cutShort seq results n) hx
              (isNewest_none_cutShort hwf hnone seq results n)
        _ = replayRestores cfg blobs x := (replayRestores_of_isNewest hwf hx hnone).symm
    · rw [replayRestores_eq, replayRestores_eq, if_neg hx, if_neg hx]

/-- A store that lists its latest blob first, in a device of two input and two output streams. -/
def latestFirst : PersistConfig where
  listing := ⟨AList.entries, fun _ => .refl _⟩
  numInputStreams := 2
  numOutputStreams := 2

theorem journalIndex_pos : 0 < 8 := by decide

/-- Two bindings of the first input, an older and a newer one. -/
def reboundJournal : NvsBlobs :=
  ((∅ : NvsBlobs).insert (streamJournalKey ⟨true, ⟨0, journalIndex_pos⟩⟩ 1)
    (List.replicate 32 0xa1)).insert (streamJournalKey ⟨true, ⟨0, journalIndex_pos⟩⟩ 2)
      (List.replicate 32 0xb2)

theorem journalWellFormed_empty : JournalWellFormed ∅ := by
  intro key value hlookup
  cases hlookup

theorem journalWellFormed_rebound : JournalWellFormed reboundJournal :=
  (journalWellFormed_empty.insert_record rfl (by norm_num)).insert_record rfl (by norm_num)

/-- A journal with a record is never safe. -/
theorem compaction_powerSafe_iff_rebound :
    ¬∀ seq results n x, replayRestores latestFirst (cutShort latestFirst reboundJournal seq results n) x
      = replayRestores latestFirst reboundJournal x := by
  rw [compaction_powerSafe_iff journalWellFormed_rebound]
  intro hzero
  have hrecorded : Recorded reboundJournal ⟨true, 0⟩ 2 (List.replicate 32 0xb2) :=
    (recorded_insert_same (by norm_num)).mpr rfl
  cases hzero ⟨true, 0⟩ 2 _ rfl hrecorded

/-- The first erasure brings the older binding back, the second loses both. -/
theorem compaction_loses_bindings :
    replayRestores latestFirst reboundJournal ⟨true, 0⟩ = some (List.replicate 32 0xb2) ∧
      replayRestores latestFirst (cutShort latestFirst reboundJournal 2 [] 1) ⟨true, 0⟩
        = some (List.replicate 32 0xa1) ∧
      replayRestores latestFirst (cutShort latestFirst reboundJournal 2 [] 2) ⟨true, 0⟩ = none := by
  decide +kernel

/-! ### Over a run -/

/-- For each stream the record whose append last reported success. -/
abbrev JournalLedger := JournalStream → Option NvsBlob

def JournalLedger.step (ledger : JournalLedger) (err : EspErr) : JournalEvent → JournalLedger
  | .append input index record _ =>
      if h : index < 8 then
        if err = .ok then Function.update ledger ⟨input, ⟨index, h⟩⟩ (some record) else ledger
      else ledger
  | _ => ledger

theorem JournalLedger.step_append (ledger : JournalLedger) (err : EspErr) {input : Bool} {index : Nat}
    (hindex : index < 8) {record : NvsBlob} (results : List EspErr) (x : JournalStream) :
    ledger.step err (.append input index record results) x
      = if x = ⟨input, ⟨index, hindex⟩⟩ ∧ err = .ok then some record else ledger x := by
  simp only [JournalLedger.step, dif_pos hindex]
  by_cases herr : err = .ok
  · rw [if_pos herr, Function.update_apply]
    simp only [herr, and_true]
  · rw [if_neg herr, if_neg fun h => herr h.2]

def journalStep (cfg : PersistConfig) (st : JournalState × JournalLedger) (ev : JournalEvent) :
    JournalState × JournalLedger :=
  let (err, journal) := journalEvent cfg st.1 ev
  (journal, st.2.step err ev)

/-- The content of the namespace after a run on an empty one. -/
def journalContent (cfg : PersistConfig) (events : List JournalEvent) : NvsBlobs :=
  (Machine.run (fun st ev => (journalEvent cfg st ev).2) (poweredOff ∅) events).nvs.blobs

/-- Power comes on over some content; a stream's last record is the one the content holds. -/
def journalStart (cfg : PersistConfig) (blobs : NvsBlobs) : JournalState × JournalLedger :=
  (poweredOff blobs, fun x => (journalScan true (cfg.listing.order blobs)).record x)

/-- The sequence number the next append gets reads as a record, and no record of the stream is past
it. -/
def nextSeqFits (cfg : PersistConfig) (st : JournalState) (x : JournalStream) : Bool :=
  let seq := journalSeqBits (nextJournalSeq st.seq)
  seq ≠ 0 ∧ (cfg.listing.order st.nvs.blobs).all fun entry =>
    match avbPersistParseStreamJournalKey entry.1 with
    | none => true
    | some (y, s) => y = x → s ≤ seq

/-- What durability asks of an event. The first result of an append is that of the opening, the second
that of the write. -/
def JournalEventMeets (cfg : PersistConfig) (st : JournalState × JournalLedger) : JournalEvent → Prop
  | .append input index record results =>
      ∀ h : index < 8, record.length = JOURNAL_RECORD_LEN → results.headD .ok = .ok →
        (results.tail.headD .ok = .ok → nextSeqFits cfg st.1 ⟨input, ⟨index, h⟩⟩) ∧
        (results.tail.headD .ok = .nvsNotEnoughSpace →
          CompactionHealthy cfg st.1.nvs.blobs results.tail.tail)
  | .compact results => CompactionHealthy cfg st.1.nvs.blobs results
  | .boot _ results =>
      snapshotUsable st.1.nvs.blobs = true → CompactionHealthy cfg st.1.nvs.blobs results
  | _ => True

instance (blobs : NvsBlobs) (results : List EspErr) :
    Decidable (CompactionHealthy cfg blobs results) :=
  inferInstanceAs (Decidable (_ → _))

instance (st : JournalState × JournalLedger) (ev : JournalEvent) :
    Decidable (JournalEventMeets cfg st ev) :=
  match ev with
  | .append _ _ _ _ => inferInstanceAs (Decidable (∀ _ : _ < 8, _))
  | .compact _ => inferInstanceAs (Decidable (CompactionHealthy _ _ _))
  | .boot _ _ => inferInstanceAs (Decidable (_ → CompactionHealthy _ _ _))
  | .saveSnapshot _ _ | .saveInputMap _ _ | .foreignSnapshot _ => inferInstanceAs (Decidable True)

theorem le_of_nextSeqFits {st : JournalState} {x : JournalStream} (h : nextSeqFits cfg st x = true) {s : Nat} {b : NvsBlob}
    (hb : Recorded st.nvs.blobs x s b) : s ≤ journalSeqBits (nextJournalSeq st.seq) := by
  simp only [nextSeqFits, decide_eq_true_eq, List.all_eq_true] at h
  have hentry := h.2 _ ((mem_order_iff cfg.listing).mpr hb.2)
  rw [parse_streamJournalKey, Nat.mod_eq_of_lt hb.1] at hentry
  exact of_decide_eq_true hentry rfl

theorem Nvs.write_cases (nvs : Nvs) (w : NvsWrite) :
    nvs.results.headD .ok = .ok ∧ nvs.write w = (.ok, nvs.written w) ∨
      nvs.results.headD .ok ≠ .ok ∧
        nvs.write w = (nvs.results.headD .ok, { nvs with results := nvs.results.tail }) := by
  unfold Nvs.write Nvs.call
  cases nvs.results.headD .ok <;> simp [Nvs.written]

/-- An append's effect: where it reports success the stream's record is the one appended, and every
other record stays. -/
def Appended (x : JournalStream) (record : NvsBlob) (err : EspErr) (blobs blobs' : NvsBlobs) : Prop :=
  ∀ y r, IsNewest blobs y r → IsNewest blobs' y (if y = x ∧ err = .ok then some record else r)

theorem Appended.of_refused {x : JournalStream} {record : NvsBlob} {err : EspErr}
    {blobs blobs' : NvsBlobs} (herr : err ≠ .ok)
    (hkeep : ∀ y r, IsNewest blobs y r → IsNewest blobs' y r) : Appended x record err blobs blobs' := by
  intro y r hr
  rw [if_neg fun h => herr h.2]
  exact hkeep y r hr

theorem appendUnderNextSeq_appended (st : JournalState) (x : JournalStream) (record : NvsBlob)
    (hfits : st.nvs.results.headD .ok = .ok → journalSeqBits (nextJournalSeq st.seq) ≠ 0 ∧
      ∀ s b, Recorded st.nvs.blobs x s b → s ≤ journalSeqBits (nextJournalSeq st.seq)) :
    Appended x record (appendUnderNextSeq st x record).1 st.nvs.blobs
      (appendUnderNextSeq st x record).2.nvs.blobs := by
  rcases Nvs.write_cases st.nvs (.setBlob (streamJournalKey x (journalSeqBits (nextJournalSeq st.seq)))
    record) with ⟨hok, hwrite⟩ | ⟨hne, hwrite⟩
  · obtain ⟨hzero, htop⟩ := hfits hok
    have hlt := journalSeqBits_lt (nextJournalSeq st.seq)
    intro y r hr
    simp only [appendUnderNextSeq, nvsSetBlob, hwrite, Nvs.written, NvsWrite.apply]
    by_cases hy : y = x
    · subst hy
      simp only [and_self, if_true]
      exact isNewest_insert hlt hzero htop
    · rw [if_neg fun h => hy h.1, isNewest_insert_other hlt hy]
      exact hr
  · simp only [appendUnderNextSeq, nvsSetBlob, hwrite]
    exact .of_refused hne fun _ _ hr => hr

theorem appendUnderNextSeq_wellFormed {st : JournalState} {x : JournalStream} {record : NvsBlob}
    (hwf : JournalWellFormed st.nvs.blobs) (hlen : record.length = JOURNAL_RECORD_LEN) :
    JournalWellFormed (appendUnderNextSeq st x record).2.nvs.blobs := by
  rcases Nvs.write_cases st.nvs (.setBlob (streamJournalKey x (journalSeqBits (nextJournalSeq st.seq)))
    record) with ⟨-, hwrite⟩ | ⟨-, hwrite⟩
  · simp only [appendUnderNextSeq, nvsSetBlob, hwrite]
    exact hwf.insert_record hlen (journalSeqBits_lt _)
  · simp only [appendUnderNextSeq, nvsSetBlob, hwrite]
    exact hwf

theorem JournalWellFormed.append {st : JournalState} (hwf : JournalWellFormed st.nvs.blobs)
    {input : Bool} {index : Nat} {record : NvsBlob} :
    JournalWellFormed (avbPersistAppendStreamRecord cfg st input index record).2.nvs.blobs := by
  unfold avbPersistAppendStreamRecord
  split
  case isFalse => exact hwf
  case isTrue h =>
    have hfirst : JournalWellFormed
        (appendUnderNextSeq st.opened ⟨input, ⟨index, h.1⟩⟩ record).2.nvs.blobs :=
      appendUnderNextSeq_wellFormed hwf h.2
    dsimp only
    split_ifs
    · exact hwf
    · exact hfirst
    · exact hfirst.compact _
    · exact hfirst.compact _
    · exact appendUnderNextSeq_wellFormed (hfirst.compact _) h.2

/-- After a compaction whose calls succeed the next sequence number fits every stream. -/
theorem nextSeq_fits_compacted {st : JournalState} (hwf : JournalWellFormed st.nvs.blobs)
    (hok : CompactionHealthy cfg st.nvs.blobs st.nvs.results)
    (hopen : (avbPersistCompactStreamJournal cfg st.seq st.nvs).1 = .ok) :
    journalSeqBits (nextJournalSeq (st.compacted cfg).seq) ≠ 0 ∧
      ∀ x s b, Recorded (st.compacted cfg).nvs.blobs x s b →
        s ≤ journalSeqBits (nextJournalSeq (st.compacted cfg).seq) := by
  have hopened : (nvsOpen st.nvs).1 = .ok := by
    by_contra hne
    rw [avbPersistCompact_refused hne] at hopen
    exact hne hopen
  have hhealthy : (nvsOpen st.nvs).2.Healthy (compactionCalls cfg (nvsOpen st.nvs).2.blobs + 0) :=
    hok hopened
  obtain ⟨-, hbound, hcounter⟩ := compactionPasses_healthy (nvsOpen st.nvs).2 hwf hhealthy
  have hst : (st.compacted cfg).seq = (compactionPasses cfg (nvsOpen st.nvs).2).1 ∧
      (st.compacted cfg).nvs = (compactionPasses cfg (nvsOpen st.nvs).2).2 := by
    simp only [JournalState.compacted, avbPersistCompact_opened hopened, and_self]
  rw [hst.1, hst.2]
  have hnext : journalSeqBits (nextJournalSeq (compactionPasses cfg (nvsOpen st.nvs).2).1)
      = (compactionPasses cfg (nvsOpen st.nvs).2).1 + 1 := by
    unfold journalSeqBits nextJournalSeq
    omega
  rw [hnext]
  exact ⟨Nat.succ_ne_zero _, fun x s b hb => (hbound x s b hb).trans (Nat.le_succ _)⟩

theorem appendUnderNextSeq_refused {st : JournalState} {x : JournalStream} {record : NvsBlob}
    (h : (appendUnderNextSeq st x record).1 ≠ .ok) :
    st.nvs.results.headD .ok = (appendUnderNextSeq st x record).1 ∧
      (appendUnderNextSeq st x record).2.nvs = { st.nvs with results := st.nvs.results.tail } := by
  rcases Nvs.write_cases st.nvs (.setBlob (streamJournalKey x (journalSeqBits (nextJournalSeq st.seq)))
    record) with ⟨-, hwrite⟩ | ⟨-, hwrite⟩
  · simp [appendUnderNextSeq, nvsSetBlob, hwrite] at h
  · simp only [appendUnderNextSeq, nvsSetBlob, hwrite, and_self]

theorem avbPersistAppend_appended {st : JournalState} (hwf : JournalWellFormed st.nvs.blobs)
    {input : Bool} {index : Nat} {record : NvsBlob} (hindex : index < 8)
    (hlen : record.length = JOURNAL_RECORD_LEN)
    (hmeets : st.nvs.results.headD .ok = .ok →
      (st.nvs.results.tail.headD .ok = .ok → nextSeqFits cfg st ⟨input, ⟨index, hindex⟩⟩ = true) ∧
      (st.nvs.results.tail.headD .ok = .nvsNotEnoughSpace →
        CompactionHealthy cfg st.nvs.blobs st.nvs.results.tail.tail)) :
    Appended ⟨input, ⟨index, hindex⟩⟩ record
      (avbPersistAppendStreamRecord cfg st input index record).1 st.nvs.blobs
      (avbPersistAppendStreamRecord cfg st input index record).2.nvs.blobs := by
  let x : JournalStream := ⟨input, ⟨index, hindex⟩⟩
  unfold avbPersistAppendStreamRecord
  rw [dif_pos ⟨hindex, hlen⟩]
  dsimp only
  by_cases hopen : (nvsOpen st.nvs).1 = .ok
  case neg =>
    rw [if_pos hopen]
    exact .of_refused hopen fun _ _ hr => hr
  obtain ⟨hfits, hhealthy⟩ := hmeets hopen
  rw [if_neg (not_not.mpr hopen)]
  by_cases herr : (appendUnderNextSeq st.opened x record).1 = .nvsNotEnoughSpace
  case neg =>
    rw [if_pos herr]
    refine appendUnderNextSeq_appended st.opened x record fun hok => ?_
    have hfit := hfits hok
    exact ⟨(of_decide_eq_true hfit).1, fun s b hb => le_of_nextSeqFits hfit hb⟩
  -- the first attempt changed nothing but the script, so the compaction starts from the same blobs
  have hne : (appendUnderNextSeq st.opened x record).1 ≠ .ok := by
    rw [herr]
    decide
  obtain ⟨hresult, hnvs⟩ := appendUnderNextSeq_refused hne
  rw [herr] at hresult
  have hwf' : JournalWellFormed (appendUnderNextSeq st.opened x record).2.nvs.blobs := by
    rw [hnvs]
    exact hwf
  have hok : CompactionHealthy cfg (appendUnderNextSeq st.opened x record).2.nvs.blobs
      (appendUnderNextSeq st.opened x record).2.nvs.results := by
    rw [hnvs]
    exact hhealthy hresult
  have hkeep : ∀ y r, IsNewest st.nvs.blobs y r →
      IsNewest ((appendUnderNextSeq st.opened x record).2.compacted cfg).nvs.blobs y r := by
    intro y r hr
    refine avbPersistCompact_healthy hwf' hok ?_
    rw [hnvs]
    exact hr
  rw [if_neg (not_not.mpr herr)]
  by_cases hcompact : (avbPersistCompactStreamJournal cfg (appendUnderNextSeq st.opened x record).2.seq
      (appendUnderNextSeq st.opened x record).2.nvs).1 = .ok
  case neg =>
    rw [if_pos hcompact]
    exact .of_refused hne hkeep
  rw [if_neg (not_not.mpr hcompact)]
  split_ifs
  · exact .of_refused hne hkeep
  · obtain ⟨hzero, htop⟩ := nextSeq_fits_compacted hwf' hok hcompact
    intro y r hr
    exact appendUnderNextSeq_appended ((appendUnderNextSeq st.opened x record).2.compacted cfg).opened x
      record (fun _ => ⟨hzero, htop x⟩) y r (hkeep y r hr)

/-! The other events keep to keys of their own. -/

theorem parse_nvsKey : avbPersistParseStreamJournalKey AVB_NVS_KEY = none := by decide

theorem parse_nvsInputMapKey : avbPersistParseStreamJournalKey AVB_NVS_INPUT_MAP_KEY = none := by
  decide

/-- The blobs are the same but for one whose key is none of the journal's. -/
def SameJournal (blobs blobs' : NvsBlobs) : Prop :=
  (JournalWellFormed blobs → JournalWellFormed blobs') ∧
    ∀ x r, IsNewest blobs x r → IsNewest blobs' x r

theorem SameJournal.insert (blobs : NvsBlobs) {key : NvsKey} (value : NvsBlob)
    (hkey : avbPersistParseStreamJournalKey key = none) : SameJournal blobs (blobs.insert key value) :=
  ⟨fun hwf => hwf.insert_other hkey,
    fun _ _ hr => (IsNewest.congr fun _ _ => recorded_insert_other hkey).mpr hr⟩

theorem SameJournal.erase (blobs : NvsBlobs) {key : NvsKey}
    (hkey : avbPersistParseStreamJournalKey key = none) : SameJournal blobs (blobs.erase key) :=
  ⟨fun hwf => hwf.erase key, fun _ _ hr => (IsNewest.congr fun _ _ => recorded_erase_other hkey).mpr hr⟩

theorem SameJournal.setBlob (nvs : Nvs) {key : NvsKey} (value : NvsBlob)
    (hkey : avbPersistParseStreamJournalKey key = none) :
    SameJournal nvs.blobs (nvsSetBlob nvs key value).2.blobs := by
  rcases Nvs.write_cases nvs (.setBlob key value) with ⟨-, hwrite⟩ | ⟨-, hwrite⟩
  · rw [nvsSetBlob, hwrite]
    exact .insert nvs.blobs value hkey
  · rw [nvsSetBlob, hwrite]
    exact ⟨id, fun _ _ => id⟩

theorem SameJournal.save (nvs : Nvs) (gathered : NvsBlob) :
    SameJournal nvs.blobs (avbPersistSave nvs gathered).2.blobs := by
  unfold avbPersistSave nvsOpen Nvs.call
  split
  case h_1 hcall =>
    obtain ⟨-, rfl⟩ := Prod.mk.inj hcall
    exact SameJournal.setBlob (nvsOpen nvs).2 (AVB_PERSIST_VERSION :: gathered) parse_nvsKey
  case h_2 => exact ⟨id, fun _ _ => id⟩

theorem SameJournal.inputMap (nvs : Nvs) (map : NvsBlob) :
    SameJournal nvs.blobs (avbPersistWriteInputMap nvs map).2.blobs := by
  unfold avbPersistWriteInputMap nvsOpen Nvs.call
  split
  case h_1 hcall =>
    obtain ⟨-, rfl⟩ := Prod.mk.inj hcall
    exact SameJournal.setBlob (nvsOpen nvs).2 map parse_nvsInputMapKey
  case h_2 => exact ⟨id, fun _ _ => id⟩

/-- No event, whatever fails in it, writes anything but the journal's own form. -/
theorem JournalWellFormed.event {st : JournalState} (hwf : JournalWellFormed st.nvs.blobs)
    (ev : JournalEvent) : JournalWellFormed (journalEvent cfg st ev).2.nvs.blobs := by
  have hscript : ∀ results, JournalWellFormed (st.script results).nvs.blobs := fun _ => hwf
  cases ev with
  | append input index record results => exact (hscript results).append
  | compact results => exact (hscript results).compact _
  | boot gathered results =>
      simp only [journalEvent, avbPersistLoad]
      split
      · exact (hscript results).compact _
      · exact (SameJournal.save (st.script results).nvs gathered).1 hwf
  | saveSnapshot gathered results => exact (SameJournal.save (st.script results).nvs gathered).1 hwf
  | saveInputMap map results => exact (SameJournal.inputMap (st.script results).nvs map).1 hwf
  | foreignSnapshot snapshot =>
      cases snapshot with
      | none => exact (SameJournal.erase st.nvs.blobs parse_nvsKey).1 hwf
      | some snapshot => exact (SameJournal.insert st.nvs.blobs snapshot parse_nvsKey).1 hwf

theorem journalWellFormed_content (events : List JournalEvent) :
    JournalWellFormed (journalContent cfg events) :=
  Machine.run_invariant (fun st : JournalState => JournalWellFormed st.nvs.blobs) (fun _ ev hwf => hwf.event ev)
    journalWellFormed_empty events

/-- The ledger is what the journal reads as. -/
def JournalDurable (st : JournalState × JournalLedger) : Prop :=
  JournalWellFormed st.1.nvs.blobs ∧ ∀ x, IsNewest st.1.nvs.blobs x (st.2 x)

theorem JournalDurable.step {st : JournalState × JournalLedger} {ev : JournalEvent}
    (hmeets : JournalEventMeets cfg st ev) (h : JournalDurable st) :
    JournalDurable (journalStep cfg st ev) := by
  obtain ⟨hwf, hledger⟩ := h
  have hscript : ∀ results, JournalWellFormed (st.1.script results).nvs.blobs := fun _ => hwf
  refine ⟨hwf.event ev, ?_⟩
  intro x
  have hx := hledger x
  cases ev with
  | append input index record results =>
      by_cases hvalid : index < 8 ∧ record.length = JOURNAL_RECORD_LEN
      case neg =>
        have hrefused : journalEvent cfg st.1 (.append input index record results)
            = (.invalidArg, st.1.script results) := dif_neg hvalid
        have hsame : st.2.step .invalidArg (.append input index record results) = st.2 := by
          simp [JournalLedger.step]
        simp only [journalStep, hrefused, hsame]
        exact hx
      obtain ⟨hindex, hlen⟩ := hvalid
      have happended := avbPersistAppend_appended (hscript results) hindex hlen (hmeets hindex hlen)
        x (st.2 x) hx
      rw [← JournalLedger.step_append st.2 _ hindex results] at happended
      exact happended
  | compact results => exact avbPersistCompact_healthy (hscript results) hmeets hx
  | boot gathered results =>
      simp only [journalStep, journalEvent, avbPersistLoad, JournalLedger.step]
      split
      case isTrue husable => exact avbPersistCompact_healthy (hscript results) (hmeets husable) hx
      case isFalse => exact (SameJournal.save (st.1.script results).nvs gathered).2 x _ hx
  | saveSnapshot gathered results =>
      exact (SameJournal.save (st.1.script results).nvs gathered).2 x _ hx
  | saveInputMap map results => exact (SameJournal.inputMap (st.1.script results).nvs map).2 x _ hx
  | foreignSnapshot snapshot =>
      cases snapshot with
      | none => exact (SameJournal.erase st.1.nvs.blobs parse_nvsKey).2 x _ hx
      | some snapshot => exact (SameJournal.insert st.1.nvs.blobs snapshot parse_nvsKey).2 x _ hx

/-- From whatever content an earlier run left, in a run whose events meet the condition, a boot that
replays the journal restores for every stream the record whose append last reported success. -/
theorem journal_durable {earlier events : List JournalEvent}
    (hmeets : Machine.RunMeets (JournalEventMeets cfg) (journalStep cfg)
      (journalStart cfg (journalContent cfg earlier)) events) {x : JournalStream}
    (hx : cfg.hasStream x = true) :
    let st := Machine.run (journalStep cfg) (journalStart cfg (journalContent cfg earlier)) events
    replayRestores cfg st.1.nvs.blobs x = st.2 x := by
  have hstart : JournalDurable (journalStart cfg (journalContent cfg earlier)) := by
    have hwf : JournalWellFormed (journalContent cfg earlier) := journalWellFormed_content earlier
    exact ⟨hwf, isNewest_journalScan hwf cfg.listing true⟩
  obtain ⟨hwf, hledger⟩ := hmeets.invariant JournalDurable (fun _ _ => JournalDurable.step) hstart
  exact replayRestores_of_isNewest hwf hx (hledger x)

/-- Two bindings and a full namespace: the third is written after a compaction, and the next boot
restores it. -/
theorem journal_durable_full :
    let record : UInt8 → NvsBlob := List.replicate 32
    let events : List JournalEvent := [.boot [] [], .append true 0 (record 1) [],
      .append true 0 (record 2) [], .append true 0 (record 3) [.ok, .nvsNotEnoughSpace], .boot [] []]
    let st := Machine.run (journalStep latestFirst) (journalStart latestFirst (journalContent latestFirst []))
      events
    replayRestores latestFirst st.1.nvs.blobs ⟨true, 0⟩ = st.2 ⟨true, 0⟩ := by
  apply journal_durable
  · decide +kernel
  · rfl

/-- Another firmware version left its snapshot: the counter starts at 0 over a journal that reaches
number 2, and the record appended next is outranked. -/
theorem stale_record_outranks :
    let record : UInt8 → NvsBlob := List.replicate 32
    let earlier : List JournalEvent := [.boot [] [], .append true 0 (record 1) [],
      .append true 0 (record 2) [], .foreignSnapshot (some [7])]
    let st := Machine.run (journalStep latestFirst) (journalStart latestFirst
      (journalContent latestFirst earlier)) [.boot [] [], .append true 0 (record 3) []]
    st.2 ⟨true, 0⟩ = some (record 3) ∧
      replayRestores latestFirst st.1.nvs.blobs ⟨true, 0⟩ = some (record 2) := by
  decide +kernel

end EspAvb
