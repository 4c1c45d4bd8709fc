import EspAvb.AudioMap
import EspAvb.Lib.Machine
import EspAvb.Proof.StreamFormat

/-!
# What the audio map holds

A command on the map applies all of its mappings or none, from any state. What GET_AUDIO_MAP reports
exists, and can be removed, just if the map fits the format of the audio input; only a format that the
input takes, or a stored map, can leave it not to.
-/

namespace EspAvb

open Machine

variable {cfg : AudioConfig} {env : EntityEnv} {s s' : EntityState} {m : AemAudioMapping}
  {map : Fin avbInputClusterChannels → UInt16} {kind : Fin avbInputClusterChannels → Bool}

/-! ## Formats and their channels -/

theorem avbStreamFormatChannels_lt (f : Octets 8) : avbStreamFormatChannels f < 65535 := by
  have hoctet : ∀ i, formatOctet f i < 256 := fun i => UInt8.toNat_lt _
  have h3 := hoctet 3
  have h4 := hoctet 4
  have h5 := hoctet 5
  unfold avbStreamFormatChannels
  split
  · omega
  · split <;> omega

/-- The formats of a family have as many channels. -/
theorem channels_sameFamily {f g : Octets 8} (h : avbStreamFormatsSameFamily f g = true) :
    avbStreamFormatChannels g = avbStreamFormatChannels f := by
  unfold avbStreamFormatsSameFamily at h
  unfold avbStreamFormatChannels
  split at h
  · cases h
  · rename_i hsubtype
    rw [not_not] at hsubtype
    rw [← hsubtype]
    split at h
    · rename_i ham824
      rw [if_pos ham824, if_pos ham824]
      exact (of_decide_eq_true h).symm
    · split at h
      · cases h
      · simp only [Bool.and_eq_true, decide_eq_true_eq] at h
        obtain ⟨⟨⟨-, h4⟩, h5⟩, -⟩ := h
        rename_i hneither _
        rw [h4, h5, if_neg hneither, if_neg hneither]

theorem channels_formatAtRate {isOutput : Bool} {index : UInt16} {f g : Octets 8} {rate : Nat}
    (hcrf : cfg.isCrf isOutput index = false) (h : cfg.formatAtRate isOutput index f rate = some g) :
    avbStreamFormatChannels g = avbStreamFormatChannels f := by
  unfold AudioConfig.formatAtRate at h
  rw [hcrf, if_neg Bool.false_ne_true] at h
  split at h
  · rw [Option.some.inj h]
  · have hfamily := List.find?_some h
    simp only [Bool.and_eq_true] at hfamily
    exact channels_sameFamily hfamily.2

/-! ## One mapping -/

theorem mem_avbFillInputMappings : m ∈ avbFillInputMappings map kind ↔
    ∃ channel, kind channel = true ∧ m = ⟨0, map channel, 0, UInt16.ofNat channel.val⟩ := by
  unfold avbFillInputMappings
  simp only [List.mem_map, List.mem_filter, List.mem_finRange, true_and]
  constructor
  · rintro ⟨channel, hkind, rfl⟩
    exact ⟨channel, hkind, rfl⟩
  · rintro ⟨channel, hkind, rfl⟩
    exact ⟨channel, hkind, rfl⟩

theorem toNat_clusterChannel (channel : Fin avbInputClusterChannels) :
    (UInt16.ofNat channel.val).toNat = channel.val :=
  UInt16.toNat_ofNat_of_lt' (lt_trans channel.isLt (by decide))

theorem nodup_avbFillInputMappings : (avbFillInputMappings map kind).Nodup := by
  unfold avbFillInputMappings
  apply List.Nodup.map
  · intro channel channel' heq
    have hcluster := congrArg (fun m => m.clusterChannel.toNat) heq
    simp only [toNat_clusterChannel] at hcluster
    exact Fin.ext hcluster
  · exact (List.nodup_finRange _).filter _

theorem length_avbFillInputMappings : (avbFillInputMappings map kind).length ≤ avbAemMaxMsgMappings := by
  unfold avbFillInputMappings
  rw [List.length_map]
  calc ((List.finRange avbInputClusterChannels).filter kind).length
      ≤ (List.finRange avbInputClusterChannels).length := List.length_filter_le _ _
    _ = avbInputClusterChannels := List.length_finRange
    _ ≤ avbAemMaxMsgMappings := by decide

/-- What a valid mapping names: the audio input, a channel of its format, and a channel of the
cluster. -/
theorem avbInputMappingValid_eq_some {channel : Fin avbInputClusterChannels} :
    avbInputMappingValid cfg.withChannels.aecp s m = some channel ↔
      cfg.audio audioIn = true ∧ m.streamIndex = 0 ∧ m.clusterOffset = 0 ∧
        m.clusterChannel.toNat = channel.val ∧
        m.streamChannel.toNat < avbStreamFormatChannels (s.formatOf audioIn) := by
  have haudio : cfg.audio audioIn = true ↔
      ¬ (cfg.entity.acmp.numInputStreams = 0 ∨ avbGetCrfInputIndex cfg.entity = 0) := by
    rw [audio_iff, not_or]
    refine and_congr ?_ ?_
    · exact decide_eq_true_iff.trans Nat.pos_iff_ne_zero
    · exact decide_eq_false_iff_not.trans (not_congr eq_comm)
  have hlt : channel.val < avbInputClusterChannels := channel.isLt
  unfold avbInputMappingValid
  split
  · rename_i hstream
    simp only [reduceCtorEq, false_iff]
    rintro ⟨hinput, hindex, -⟩
    exact hstream.elim (absurd hindex) (haudio.mp hinput)
  · rename_i hstream
    rw [not_or, not_not] at hstream
    have hinput := haudio.mpr hstream.2
    split
    · rename_i hoffset
      simp only [reduceCtorEq, false_iff]
      rintro ⟨-, -, hzero, -⟩
      exact hoffset hzero
    · rename_i hoffset
      rw [not_not] at hoffset
      split
      · rename_i hchannel
        simp only [reduceCtorEq, false_iff]
        rintro ⟨-, -, -, -, hin⟩
        exact absurd hin (Nat.not_lt.mpr hchannel)
      · rename_i hchannel
        rw [Nat.not_le] at hchannel
        split
        · rename_i hcluster
          rw [Option.some.injEq, Fin.ext_iff]
          exact ⟨fun heq => ⟨hinput, hstream.1, hoffset, heq, hchannel⟩, fun h => h.2.2.2.1⟩
        · rename_i hcluster
          simp only [reduceCtorEq, false_iff]
          rintro ⟨-, -, -, heq, -⟩
          exact hcluster (heq ▸ hlt)

theorem source_ne_unmapped {channel : Fin avbInputClusterChannels}
    (h : avbInputMappingValid cfg.withChannels.aecp s m = some channel) :
    m.streamChannel ≠ avbInputMapUnmapped := by
  intro heq
  obtain ⟨-, -, -, -, hlt⟩ := avbInputMappingValid_eq_some.mp h
  rw [heq] at hlt
  exact absurd (hlt.trans (avbStreamFormatChannels_lt _)) (by decide)

/-! ## The mappings of a command -/

/-- The sources a command has to agree with: what an addition has named, what a removal finds. -/
def AudioMapPass.sources (pass : AudioMapPass) (s : EntityState) (add : Bool) :
    Fin avbInputClusterChannels → UInt16 :=
  if add then pass.named else s.inputMap

/-- What a channel plays once a command has named it. -/
def playsAfter (add : Bool) (m : AemAudioMapping) : UInt16 :=
  if add then m.streamChannel else avbInputMapUnmapped

theorem audioMappingStep_spec {add : Bool} {pass pass' : AudioMapPass}
    (h : audioMappingStep cfg.withChannels.aecp s add pass m = some pass') :
    ∃ channel, avbInputMappingValid cfg.withChannels.aecp s m = some channel ∧
      pass'.next = Function.update pass.next channel (playsAfter add m) ∧
      pass'.sources s add = Function.update (pass.sources s add) channel m.streamChannel ∧
      (pass.sources s add channel ≠ avbInputMapUnmapped →
        pass.sources s add channel = m.streamChannel) := by
  unfold audioMappingStep at h
  split at h
  · cases h
  · rename_i channel hvalid
    refine ⟨channel, hvalid, ?_⟩
    dsimp only at h
    split at h
    · rename_i hadd
      subst hadd
      split at h
      · cases h
      · rename_i hagrees
        simp only [Bool.and_eq_true, bne_iff_ne, not_and, not_not] at hagrees
        cases h
        exact ⟨rfl, rfl, hagrees⟩
    · rename_i hremove
      rw [Bool.not_eq_true] at hremove
      subst hremove
      split at h
      · cases h
      · rename_i hpresent
        rw [ne_eq, not_not] at hpresent
        cases h
        refine ⟨rfl, ?_, fun _ => hpresent⟩
        rw [← hpresent]
        exact (Function.update_eq_self _ _).symm

/-- The pass after a part of the command: what its mappings name is done, and nothing else. -/
structure MapPassed (cfg : AudioConfig) (s : EntityState) (add : Bool)
    (done : List AemAudioMapping) (pass : AudioMapPass) : Prop where
  named : ∀ m ∈ done, ∃ channel, avbInputMappingValid cfg.withChannels.aecp s m = some channel ∧
    pass.next channel = playsAfter add m ∧ pass.sources s add channel = m.streamChannel
  others : ∀ channel, (∀ m ∈ done, m.clusterChannel.toNat ≠ channel.val) →
    pass.next channel = s.inputMap channel

theorem MapPassed.step {add : Bool} {done : List AemAudioMapping} {pass pass' : AudioMapPass}
    (h : MapPassed cfg s add done pass)
    (hstep : audioMappingStep cfg.withChannels.aecp s add pass m = some pass') :
    MapPassed cfg s add (done ++ [m]) pass' := by
  obtain ⟨channel, hvalid, hnext, hsources, hagrees⟩ := audioMappingStep_spec hstep
  refine ⟨fun m' hm' => ?_, fun channel' hnot => ?_⟩
  · rcases List.mem_append.mp hm' with hm' | hm'
    · obtain ⟨channel', hvalid', hplays, hsource⟩ := h.named m' hm'
      refine ⟨channel', hvalid', ?_⟩
      by_cases hsame : channel' = channel
      · -- named twice: the second source is the first
        subst hsame
        have hsource' : m'.streamChannel = m.streamChannel := by
          rw [← hsource]
          exact hagrees (hsource ▸ source_ne_unmapped hvalid')
        rw [hnext, hsources, Function.update_self, Function.update_self, playsAfter, playsAfter,
          hsource']
        exact ⟨rfl, rfl⟩
      · rw [hnext, hsources, Function.update_of_ne hsame, Function.update_of_ne hsame]
        exact ⟨hplays, hsource⟩
    · rw [List.mem_singleton.mp hm']
      refine ⟨channel, hvalid, ?_⟩
      rw [hnext, hsources, Function.update_self, Function.update_self]
      exact ⟨rfl, rfl⟩
  · have hne : channel' ≠ channel := by
      rintro rfl
      exact hnot m (List.mem_append_right _ (List.mem_singleton_self m))
        (avbInputMappingValid_eq_some.mp hvalid).2.2.2.1
    rw [hnext, Function.update_of_ne hne]
    exact h.others channel' fun m' hm' => hnot m' (List.mem_append_left _ hm')

theorem MapPassed.steps {add : Bool} {done rest : List AemAudioMapping} {pass pass' : AudioMapPass}
    (h : MapPassed cfg s add done pass)
    (hsteps : rest.foldlM (audioMappingStep cfg.withChannels.aecp s add) pass = some pass') :
    MapPassed cfg s add (done ++ rest) pass' := by
  induction rest generalizing done pass with
  | nil =>
      cases hsteps
      rwa [List.append_nil]
  | cons m rest ih =>
      rw [List.foldlM_cons] at hsteps
      obtain ⟨pass₁, hfirst, hrest⟩ := Option.bind_eq_some_iff.mp hsteps
      rw [List.append_cons]
      exact ih (h.step hfirst) hrest

theorem mapPassed_foldlM {add : Bool} {mappings : List AemAudioMapping} {pass : AudioMapPass}
    (h : mappings.foldlM (audioMappingStep cfg.withChannels.aecp s add)
      { next := s.inputMap, named := fun _ => avbInputMapUnmapped } = some pass) :
    MapPassed cfg s add mappings pass := by
  have hnone : MapPassed cfg s add [] { next := s.inputMap, named := fun _ => avbInputMapUnmapped } :=
    ⟨fun m hm => absurd hm List.not_mem_nil, fun _ _ => rfl⟩
  exact hnone.steps h

/-- A removal of mappings that are valid and present goes through. -/
theorem foldlM_remove {mappings : List AemAudioMapping}
    (h : ∀ m ∈ mappings, ∃ channel, avbInputMappingValid cfg.withChannels.aecp s m = some channel ∧
      s.inputMap channel = m.streamChannel) (pass : AudioMapPass) :
    ∃ pass', mappings.foldlM (audioMappingStep cfg.withChannels.aecp s false) pass = some pass' := by
  induction mappings generalizing pass with
  | nil => exact ⟨pass, rfl⟩
  | cons m mappings ih =>
      obtain ⟨channel, hvalid, hpresent⟩ := h m List.mem_cons_self
      have hstep : audioMappingStep cfg.withChannels.aecp s false pass m
          = some { pass with next := Function.update pass.next channel avbInputMapUnmapped } := by
        unfold audioMappingStep
        rw [hvalid]
        exact if_neg (not_not.mpr hpresent)
      rw [List.foldlM_cons, hstep]
      exact ih (fun m' hm' => h m' (List.mem_cons_of_mem m hm')) _

/-! ## The commands on the map -/

/-- What a mapping command does where it is not refused. An addition announces each mapping it
replaces, once. -/
structure MappingsApplied (env : EntityEnv) (s s' : EntityState) (add : Bool)
    (mappings : List AemAudioMapping) : Prop where
  named : ∀ m ∈ mappings, ∃ channel : Fin avbInputClusterChannels,
    m.clusterChannel.toNat = channel.val ∧
      if add then s'.inputMap channel = m.streamChannel
      else s.inputMap channel = m.streamChannel ∧ s'.inputMap channel = avbInputMapUnmapped
  others : ∀ channel : Fin avbInputClusterChannels,
    (∀ m ∈ mappings, m.clusterChannel.toNat ≠ channel.val) → s'.inputMap channel = s.inputMap channel
  rest : s' = { s with inputMap := s'.inputMap, effects := s'.effects }
  announced : ∃ removed : List AemAudioMapping, removed.Nodup ∧
    (∀ m, m ∈ removed ↔ add = true ∧ ∃ channel, s.inputMap channel ≠ avbInputMapUnmapped ∧
      s'.inputMap channel ≠ s.inputMap channel ∧
      m = ⟨0, s.inputMap channel, 0, UInt16.ofNat channel.val⟩) ∧
    s'.effects = s.effects ++ (if removed = [] then [] else [.mappingsRemoved removed]) ++
      (if env.aecpSends then [.response .success .nothing] else []) ++
      (if s'.inputMap = s.inputMap then [] else [.unsolNotify, .saveInputMap])

theorem effects_effectIf (s : EntityState) (c : Bool) (e : AecpEffect) :
    (s.effectIf c e).effects = s.effects ++ (if c then [e] else []) := by
  unfold EntityState.effectIf
  split
  · rfl
  · exact (List.append_nil _).symm

theorem inputMap_effectIf (s : EntityState) (c : Bool) (e : AecpEffect) :
    (s.effectIf c e).inputMap = s.inputMap := by
  unfold EntityState.effectIf
  split <;> rfl

theorem effectIf_rest (s : EntityState) (c : Bool) (e : AecpEffect) :
    s.effectIf c e = { s with effects := (s.effectIf c e).effects } := by
  unfold EntityState.effectIf
  split <;> rfl

/-- Beside the map, what is said in answer. -/
theorem applyMap_rest (s : EntityState) (c : Bool) (e : AecpEffect)
    (next : Fin avbInputClusterChannels → UInt16) :
    let s' := ((aecpRespond env { s.effectIf c e with inputMap := next } .success .nothing).effect
      .unsolNotify).effect .saveInputMap
    s' = { s with inputMap := next, effects := s'.effects } := by
  intro s'
  simp only [s', aecpRespond, EntityState.effect, EntityState.effectIf]
  split <;> split <;> rfl

theorem applyMap_effects (s : EntityState) (c : Bool) (e : AecpEffect)
    (next : Fin avbInputClusterChannels → UInt16) :
    (((aecpRespond env { s.effectIf c e with inputMap := next } .success .nothing).effect
      .unsolNotify).effect .saveInputMap).effects
      = s.effects ++ (if c then [e] else []) ++
        (if env.aecpSends then [.response .success .nothing] else []) ++
        [.unsolNotify, .saveInputMap] := by
  simp only [EntityState.effect, aecpRespond, effects_effectIf, List.append_assoc, List.cons_append,
    List.nil_append]

/-- What is announced as removed where the map becomes `next`. -/
def announcedRemoved (add : Bool) (s : EntityState)
    (next : Fin avbInputClusterChannels → UInt16) : List AemAudioMapping :=
  if add then replacedMappings s next else []

theorem mem_announcedRemoved {add : Bool} {next : Fin avbInputClusterChannels → UInt16} :
    m ∈ announcedRemoved add s next ↔ add = true ∧ ∃ channel,
      s.inputMap channel ≠ avbInputMapUnmapped ∧ next channel ≠ s.inputMap channel ∧
      m = ⟨0, s.inputMap channel, 0, UInt16.ofNat channel.val⟩ := by
  unfold announcedRemoved replacedMappings
  split
  · rename_i hadd
    simp only [mem_avbFillInputMappings, Bool.and_eq_true, bne_iff_ne, hadd, true_and, and_assoc]
  · rename_i hadd
    simp only [List.not_mem_nil, hadd, Bool.false_eq_true, false_and]

theorem nodup_announcedRemoved {add : Bool} {next : Fin avbInputClusterChannels → UInt16} :
    (announcedRemoved add s next).Nodup := by
  unfold announcedRemoved
  split
  · exact nodup_avbFillInputMappings
  · exact List.nodup_nil

theorem MapPassed.applied {add : Bool} {mappings : List AemAudioMapping} {pass : AudioMapPass}
    (h : MapPassed cfg s add mappings pass) (hmap : s'.inputMap = pass.next)
    (hrest : s' = { s with inputMap := s'.inputMap, effects := s'.effects })
    (heffects : s'.effects = s.effects ++
      (if announcedRemoved add s s'.inputMap = [] then []
        else [.mappingsRemoved (announcedRemoved add s s'.inputMap)]) ++
      (if env.aecpSends then [.response .success .nothing] else []) ++
      (if s'.inputMap = s.inputMap then [] else [.unsolNotify, .saveInputMap])) :
    MappingsApplied env s s' add mappings := by
  refine ⟨fun m hm => ?_, fun channel hnot => ?_, hrest, _, nodup_announcedRemoved,
    fun m => mem_announcedRemoved, heffects⟩
  · obtain ⟨channel, hvalid, hnext, hsource⟩ := h.named m hm
    refine ⟨channel, (avbInputMappingValid_eq_some.mp hvalid).2.2.2.1, ?_⟩
    rw [hmap]
    cases add with
    | true => exact hnext
    | false => exact ⟨hsource, hnext⟩
  · rw [hmap]
    exact h.others channel hnot

/-- The pass over the mappings of a command. -/
def mapPass (cfg : AudioConfig) (s : EntityState) (add : Bool) (mappings : List AemAudioMapping) :
    Option AudioMapPass :=
  mappings.foldlM (audioMappingStep cfg.withChannels.aecp s add)
    { next := s.inputMap, named := fun _ => avbInputMapUnmapped }

section Command

variable {add : Bool} {descriptorType descriptorIndex : UInt16} {numberOfMappings : Nat}
  {mappings : List AemAudioMapping}

/-- A command whose mappings all pass. -/
theorem audioMappings_done {pass : AudioMapPass}
    (hport : avbAudioMapPortStatus cfg.withChannels.aecp descriptorType descriptorIndex = .success)
    (hcount : ¬ (avbAemMaxMsgMappings < numberOfMappings ∨ mappings.length < numberOfMappings))
    (hpass : mapPass cfg s add (mappings.take numberOfMappings) = some pass) :
    let s' := avbProcessAecpCmdAudioMappings cfg.withChannels.aecp env s add descriptorType
      descriptorIndex numberOfMappings mappings
    s'.inputMap = pass.next ∧ MappingsApplied env s s' add (mappings.take numberOfMappings) := by
  intro s'
  have hpassed := mapPassed_foldlM hpass
  unfold mapPass at hpass
  simp only [s', avbProcessAecpCmdAudioMappings]
  rw [if_neg (not_not.mpr hport), if_neg hcount, hpass]
  dsimp only
  split
  · rename_i hsame
    have hmap : (aecpRespond env s .success .nothing).inputMap = pass.next :=
      (inputMap_effectIf _ _ _).trans hsame.symm
    have hnone : announcedRemoved add s s.inputMap = [] := by
      refine List.eq_nil_iff_forall_not_mem.mpr fun m hm => ?_
      obtain ⟨-, channel, -, hne, -⟩ := mem_announcedRemoved.mp hm
      exact hne rfl
    refine ⟨hmap, hpassed.applied hmap ?_ ?_⟩
    · rw [hmap, hsame]
      exact effectIf_rest _ _ _
    · rw [hmap, hsame, hnone, if_pos rfl, if_pos rfl, List.append_nil, List.append_nil]
      exact effects_effectIf _ _ _
  · rename_i hchanged
    have hmap : ∀ s₁ : EntityState, (((aecpRespond env { s₁ with inputMap := pass.next } .success
        .nothing).effect .unsolNotify).effect .saveInputMap).inputMap = pass.next :=
      fun s₁ => inputMap_effectIf _ _ _
    refine ⟨hmap _, hpassed.applied (hmap _) ?_ ?_⟩
    · rw [hmap]
      exact applyMap_rest _ _ _ _
    · rw [hmap, applyMap_effects, if_neg hchanged, announcedRemoved]
      cases add with
      | true => cases replacedMappings s pass.next <;> rfl
      | false => rfl

/-- A command on the map applies all of its mappings, or none. -/
theorem audioMappings_outcome (cfg : AudioConfig) (env : EntityEnv) (s : EntityState) (add : Bool)
    (descriptorType descriptorIndex : UInt16) (numberOfMappings : Nat)
    (mappings : List AemAudioMapping) :
    let s' := avbProcessAecpCmdAudioMappings cfg.withChannels.aecp env s add descriptorType
      descriptorIndex numberOfMappings mappings
    CommandRefused env s s' ∨
      ∃ pass, mapPass cfg s add (mappings.take numberOfMappings) = some pass ∧
        s'.inputMap = pass.next ∧ MappingsApplied env s s' add (mappings.take numberOfMappings) := by
  intro s'
  by_cases hport :
      avbAudioMapPortStatus cfg.withChannels.aecp descriptorType descriptorIndex = .success
  · by_cases hcount : avbAemMaxMsgMappings < numberOfMappings ∨ mappings.length < numberOfMappings
    · refine Or.inl ⟨AecpStatus.badArguments, .nothing, by decide, ?_⟩
      simp only [s', avbProcessAecpCmdAudioMappings]
      rw [if_neg (not_not.mpr hport), if_pos hcount]
    · cases hpass : mapPass cfg s add (mappings.take numberOfMappings) with
      | none =>
          refine Or.inl ⟨AecpStatus.badArguments, .nothing, by decide, ?_⟩
          unfold mapPass at hpass
          simp only [s', avbProcessAecpCmdAudioMappings]
          rw [if_neg (not_not.mpr hport), if_neg hcount, hpass]
      | some pass =>
          exact Or.inr ⟨pass, rfl, audioMappings_done hport hcount hpass⟩
  · refine Or.inl ⟨_, .nothing, hport, ?_⟩
    simp only [s', avbProcessAecpCmdAudioMappings]
    rw [if_pos hport]

end Command

/-! ## What is reported -/

/-- The mappings that GET_AUDIO_MAP reports. -/
def reportedMappings (s : EntityState) : List AemAudioMapping :=
  avbFillInputMappings s.inputMap fun channel => s.inputMap channel != avbInputMapUnmapped

theorem mem_reportedMappings : m ∈ reportedMappings s ↔
    ∃ channel, s.inputMap channel ≠ avbInputMapUnmapped ∧
      m = ⟨0, s.inputMap channel, 0, UInt16.ofNat channel.val⟩ := by
  unfold reportedMappings
  simp only [mem_avbFillInputMappings, bne_iff_ne]

theorem getAudioMap_reported {descriptorType descriptorIndex mapIndex : UInt16}
    (h : m ∈ (avbProcessAecpCmdGetAudioMap cfg s descriptorType descriptorIndex mapIndex).2) :
    m ∈ reportedMappings s := by
  unfold avbProcessAecpCmdGetAudioMap at h
  dsimp only at h
  split at h
  · exact absurd h List.not_mem_nil
  · split at h
    · exact absurd h List.not_mem_nil
    · exact h

/-- What GET_AUDIO_MAP reports is there: each mapping names a stream, the cluster and one of its
channels, and a channel of the stream's format; and removing the reported ones leaves none. -/
structure MapReported (cfg : AudioConfig) (s : EntityState) : Prop where
  exist : ∀ descriptorType descriptorIndex mapIndex,
    ∀ m ∈ (avbProcessAecpCmdGetAudioMap cfg s descriptorType descriptorIndex mapIndex).2,
      m.clusterOffset = 0 ∧ m.clusterChannel.toNat < avbInputClusterChannels ∧
        ∃ u, m.streamIndex.toNat = u.val ∧ cfg.has (.input u) = true ∧
          m.streamChannel.toNat < avbStreamFormatChannels (s.formatOf (.input u))
  removed : ∀ env,
    let reported := (avbProcessAecpCmdGetAudioMap cfg s aemDescTypeStreamPortInput 0 0).2
    let s' := avbProcessAecpCmdAudioMappings cfg.withChannels.aecp env s false
      aemDescTypeStreamPortInput 0 reported.length reported
    MappingsApplied env s s' false reported ∧ ∀ channel, s'.inputMap channel = avbInputMapUnmapped

/-- In a map that fits, what is reported is valid and present. -/
theorem MapFits.valid (h : MapFits cfg s) (hm : m ∈ reportedMappings s) :
    ∃ channel, avbInputMappingValid cfg.withChannels.aecp s m = some channel ∧
      s.inputMap channel = m.streamChannel := by
  obtain ⟨channel, hmapped, rfl⟩ := mem_reportedMappings.mp hm
  rcases h with hnone | ⟨haudio, hwithin⟩
  · exact absurd (hnone channel) hmapped
  · refine ⟨channel, avbInputMappingValid_eq_some.mpr ⟨haudio, rfl, rfl, ?_, ?_⟩, rfl⟩
    · exact toNat_clusterChannel channel
    · exact (hwithin channel).resolve_left hmapped

theorem mapReported_of_fits (h : MapFits cfg s) : MapReported cfg s where
  exist descriptorType descriptorIndex mapIndex m hm := by
    obtain ⟨channel, hvalid, -⟩ := h.valid (getAudioMap_reported hm)
    obtain ⟨haudio, hindex, hoffset, hcluster, hchannel⟩ := avbInputMappingValid_eq_some.mp hvalid
    refine ⟨hoffset, hcluster ▸ channel.isLt, ⟨0, Nat.two_pos⟩, ?_, ?_, hchannel⟩
    · rw [hindex]
      rfl
    · exact ((audio_iff audioIn).mp haudio).1
  removed env := by
    intro reported s'
    obtain ⟨pass, hpass⟩ := foldlM_remove (fun m hm => h.valid hm)
      { next := s.inputMap, named := fun _ => avbInputMapUnmapped }
    have hport : avbAudioMapPortStatus cfg.withChannels.aecp aemDescTypeStreamPortInput 0
        = .success := rfl
    have hcount : ¬ (avbAemMaxMsgMappings < reported.length ∨ reported.length < reported.length) := by
      rintro (hmany | hself)
      · exact absurd length_avbFillInputMappings (Nat.not_le.mpr hmany)
      · exact lt_irrefl _ hself
    have hall : mapPass cfg s false (reported.take reported.length) = some pass := by
      rw [List.take_length]
      exact hpass
    have hdone : MappingsApplied env s s' false (reported.take reported.length) :=
      (audioMappings_done hport hcount hall).2
    rw [List.take_length] at hdone
    refine ⟨hdone, fun channel => ?_⟩
    by_cases hmapped : s.inputMap channel = avbInputMapUnmapped
    · rw [← hmapped]
      refine hdone.others channel fun m hm hsame => ?_
      obtain ⟨channel', hmapped', rfl⟩ := mem_reportedMappings.mp hm
      rw [toNat_clusterChannel] at hsame
      exact hmapped' (Fin.ext hsame ▸ hmapped)
    · obtain ⟨channel', hcluster, -, hunmapped⟩ :=
        hdone.named _ (mem_reportedMappings.mpr ⟨channel, hmapped, rfl⟩)
      rw [toNat_clusterChannel] at hcluster
      rwa [Fin.ext hcluster]

theorem mapFits_of_reported (h : MapReported cfg s) : MapFits cfg s := by
  by_cases hnone : ∀ channel, s.inputMap channel = avbInputMapUnmapped
  · exact Or.inl hnone
  · rw [not_forall] at hnone
    obtain ⟨channel₀, hmapped₀⟩ := hnone
    have hvalid : ∀ channel, s.inputMap channel ≠ avbInputMapUnmapped →
        cfg.audio audioIn = true ∧
          (s.inputMap channel).toNat < avbStreamFormatChannels (s.formatOf audioIn) := by
      intro channel hmapped
      obtain ⟨happlied, hunmapped⟩ := h.removed (.at 0)
      have hmem := mem_reportedMappings.mpr ⟨channel, hmapped, rfl⟩
      rcases audioMappings_outcome cfg (.at 0) s false aemDescTypeStreamPortInput 0
          (reportedMappings s).length (reportedMappings s)
        with ⟨status, value, -, hrefused⟩ | ⟨pass, hpass, -, -⟩
      · -- a refused removal leaves the channel mapped
        have hkept := congrArg (fun s' => s'.inputMap channel) hrefused
        rw [aecpRespond, inputMap_effectIf] at hkept
        exact absurd (hkept.symm.trans (hunmapped channel)) hmapped
      · rw [List.take_length] at hpass
        obtain ⟨_, hchannel, -⟩ := (mapPassed_foldlM hpass).named _ hmem
        obtain ⟨haudio, -, -, -, hlt⟩ := avbInputMappingValid_eq_some.mp hchannel
        exact ⟨haudio, hlt⟩
    exact Or.inr ⟨(hvalid channel₀ hmapped₀).1, fun channel =>
      or_iff_not_imp_left.mpr fun hmapped => (hvalid channel hmapped).2⟩

theorem mapReported_iff : MapReported cfg s ↔ MapFits cfg s :=
  ⟨mapFits_of_reported, mapReported_of_fits⟩

/-! ## What moves under the map -/

theorem MapFits.of_same (h : MapFits cfg s) (hmap : s'.inputMap = s.inputMap)
    (hchannels : cfg.audio audioIn = true →
      avbStreamFormatChannels (s'.formatOf audioIn) = avbStreamFormatChannels (s.formatOf audioIn)) :
    MapFits cfg s' := by
  unfold MapFits MapWithin at h ⊢
  rw [hmap]
  refine h.imp_right fun ⟨haudio, hwithin⟩ => ⟨haudio, ?_⟩
  rwa [hchannels haudio]

theorem MapFits.audioMappings (h : MapFits cfg s) (add : Bool)
    (descriptorType descriptorIndex : UInt16) (numberOfMappings : Nat)
    (mappings : List AemAudioMapping) :
    MapFits cfg (avbProcessAecpCmdAudioMappings cfg.withChannels.aecp env s add descriptorType
      descriptorIndex numberOfMappings mappings) := by
  rcases audioMappings_outcome cfg env s add descriptorType descriptorIndex numberOfMappings mappings
    with ⟨status, value, -, hrefused⟩ | ⟨pass, hpass, hmap, happlied⟩
  · rw [hrefused]
    exact h.of_same (inputMap_effectIf _ _ _) fun _ =>
      congrArg _ ((sameFormats_respond env s status value).format audioIn)
  · have hpassed := mapPassed_foldlM hpass
    have hformat : ∀ key, (avbProcessAecpCmdAudioMappings cfg.withChannels.aecp env s add
        descriptorType descriptorIndex numberOfMappings mappings).formatOf key = s.formatOf key := by
      intro key
      rw [happlied.rest]
      cases key <;> rfl
    -- each channel plays what a valid mapping names, or what it did
    have hfits : ∀ channel, pass.next channel = avbInputMapUnmapped ∨ (cfg.audio audioIn = true ∧
        (pass.next channel).toNat < avbStreamFormatChannels (s.formatOf audioIn)) := by
      intro channel
      by_cases hnamed : ∃ m ∈ mappings.take numberOfMappings, m.clusterChannel.toNat = channel.val
      · obtain ⟨m, hm, hcluster⟩ := hnamed
        obtain ⟨channel', hvalid, hplays, -⟩ := hpassed.named m hm
        obtain ⟨haudio, -, -, hcluster', hlt⟩ := avbInputMappingValid_eq_some.mp hvalid
        rw [← Fin.ext (hcluster'.symm.trans hcluster), hplays, playsAfter]
        split
        · exact Or.inr ⟨haudio, hlt⟩
        · exact Or.inl rfl
      · rw [not_exists] at hnamed
        rw [hpassed.others channel fun m hm hsame => hnamed m ⟨hm, hsame⟩]
        rcases h with hnone | ⟨haudio, hwithin⟩
        · exact Or.inl (hnone channel)
        · exact (hwithin channel).imp_right fun hlt => ⟨haudio, hlt⟩
    by_cases hnone : ∀ channel, pass.next channel = avbInputMapUnmapped
    · refine Or.inl fun channel => ?_
      rw [hmap]
      exact hnone channel
    · rw [not_forall] at hnone
      obtain ⟨channel₀, hmapped₀⟩ := hnone
      refine Or.inr ⟨((hfits channel₀).resolve_left hmapped₀).1, fun channel => ?_⟩
      rw [hmap, hformat]
      exact (hfits channel).imp_right And.right

/-- The map of one state in another. -/
theorem inputMap_declareNow (ecfg : EntityConfig) (s : EntityState)
    (u : Fin avbMaxNumOutputStreams) : (declareNow ecfg env s u).inputMap = s.inputMap := rfl

theorem inputMap_foldl {α : Type*} {f : EntityState → α → EntityState}
    (h : ∀ s a, (f s a).inputMap = s.inputMap) (l : List α) (s : EntityState) :
    (l.foldl f s).inputMap = s.inputMap := by
  induction l generalizing s with
  | nil => rfl
  | cons a l ih => exact (ih (f s a)).trans (h s a)

theorem inputMap_setFormat (s : EntityState) (key : StreamKey) (f : Octets 8) :
    (s.setFormat key f).inputMap = s.inputMap := by
  cases key <;> rfl

theorem inputMap_foldlM_atRate {rate : Nat} {l : List StreamKey}
    (h : l.foldlM (atRate cfg rate) s = some s') : s'.inputMap = s.inputMap := by
  induction l generalizing s with
  | nil => rw [← Option.some.inj h]
  | cons key l ih =>
      rw [List.foldlM_cons] at h
      obtain ⟨s₁, hfirst, hrest⟩ := Option.bind_eq_some_iff.mp h
      rw [ih hrest]
      unfold atRate at hfirst
      split at hfirst
      · obtain ⟨f, -, rfl⟩ := Option.map_eq_some_iff.mp hfirst
        exact inputMap_setFormat s key f
      · rw [← Option.some.inj hfirst]

theorem inputMap_announceRate (ecfg : EntityConfig) (s : EntityState) :
    (announceRate ecfg s).inputMap = s.inputMap := by
  unfold announceRate
  refine (inputMap_foldl (fun s u => ?_) _ _).trans (inputMap_foldl (fun s u => ?_) _ _)
  · split <;> rfl
  · split <;> rfl

theorem inputMap_declareOutputs (ecfg : EntityConfig) (s : EntityState) :
    (declareOutputs ecfg env s).inputMap = s.inputMap := by
  unfold declareOutputs
  refine inputMap_foldl (fun s u => ?_) _ _
  split <;> rfl

theorem inputMap_samplingRate (s : EntityState) (isSet : Bool)
    (descriptorType descriptorIndex : UInt16) (rate : Nat) :
    (avbProcessAecpCmdSamplingRate cfg.aecp env s isSet descriptorType descriptorIndex
      rate).inputMap = s.inputMap := by
  unfold avbProcessAecpCmdSamplingRate
  split
  · exact inputMap_effectIf _ _ _
  split
  · exact inputMap_effectIf _ _ _
  split
  · exact inputMap_effectIf _ _ _
  split
  · exact inputMap_effectIf _ _ _
  · split
    · exact inputMap_effectIf _ _ _
    · rename_i moved hmoved
      rw [streamsAtRate_eq] at hmoved
      split
      · exact inputMap_effectIf _ _ _
      · dsimp only
        rw [inputMap_announceRate]
        have hmap : moved.inputMap = s.inputMap := inputMap_foldlM_atRate hmoved
        exact ((inputMap_effectIf _ _ _).trans (inputMap_declareOutputs _ _)).trans hmap

theorem inputMap_takeFormatRate (ecfg : EntityConfig) (s : EntityState) (isOutput : Bool)
    (index : UInt16) (f : Octets 8) :
    (takeFormatRate ecfg s isOutput index f).inputMap = s.inputMap := by
  unfold takeFormatRate
  dsimp only
  split <;> rfl

theorem inputMap_setOutputFormat (ecfg : EntityConfig) (s : EntityState)
    (u : Fin avbMaxNumOutputStreams) (f : Octets 8) :
    (setOutputFormat ecfg env s u f).inputMap = s.inputMap := by
  have hclass : ∀ s : EntityState,
      (avbOutputStreamClassFromFormat env s u).inputMap = s.inputMap := by
    intro s
    unfold avbOutputStreamClassFromFormat
    dsimp only
    split <;> rfl
  unfold setOutputFormat
  dsimp only
  split <;> split <;> first | rfl | exact hclass _

theorem inputMap_setStreamFormat (ecfg : EntityConfig) (s : EntityState)
    (descriptorType descriptorIndex : UInt16) (f : Octets 8) :
    (avbProcessAecpCmdSetStreamFormat ecfg env s descriptorType descriptorIndex f).inputMap
      = s.inputMap := by
  unfold avbProcessAecpCmdSetStreamFormat
  split
  · split
    · exact inputMap_effectIf _ _ _
    · dsimp only
      split
      · exact inputMap_effectIf _ _ _
      · exact (inputMap_effectIf _ _ _).trans ((inputMap_effectIf _ _ _).trans
          ((inputMap_setOutputFormat _ _ _ _).trans (inputMap_takeFormatRate _ _ _ _ _)))
  · split
    · split
      · exact inputMap_effectIf _ _ _
      · dsimp only
        split
        · exact inputMap_effectIf _ _ _
        · exact (inputMap_effectIf _ _ _).trans ((inputMap_effectIf _ _ _).trans
            (inputMap_takeFormatRate _ _ _ _ _))
    · exact inputMap_effectIf _ _ _

/-- The answer to a format that is taken, and its record, keep the formats. -/
theorem formatOf_answeredOutput (s : EntityState) (f : Octets 8) (c : Bool) (index : UInt16)
    (key : StreamKey) :
    (persistOutput ((aecpRespond env s .success (.format f)).effectIf c .unsolNotify) index).formatOf
      key = s.formatOf key :=
  ((sameFormats_respond env s .success (.format f)).trans
    ((sameFormats_effectIf _ c .unsolNotify).trans (sameFormats_persistOutput _ index))).format key

theorem formatOf_answeredInput (ecfg : EntityConfig) (s : EntityState) (f : Octets 8) (c : Bool)
    (index : UInt16) (key : StreamKey) :
    (persistInput ecfg ((aecpRespond env s .success (.format f)).effectIf c .unsolNotify)
      index).formatOf key = s.formatOf key :=
  ((sameFormats_respond env s .success (.format f)).trans
    ((sameFormats_effectIf _ c .unsolNotify).trans (sameFormats_persistInput ecfg _ index))).format key

theorem inputDescriptor_zero (hhas : 0 < cfg.entity.acmp.numInputStreams) :
    inputDescriptor cfg.withChannels.aecp 0 = some ⟨0, Nat.two_pos⟩ :=
  Option.filter_eq_some_iff.mpr ⟨rfl, decide_eq_true hhas⟩

/-- What SET_STREAM_FORMAT leaves at the audio input. -/
theorem setStreamFormat_audioIn (s : EntityState) (descriptorType descriptorIndex : UInt16)
    (f : Octets 8) :
    let s' := avbProcessAecpCmdSetStreamFormat cfg.withChannels.aecp env s descriptorType
      descriptorIndex f
    (TakesInputFormat cfg env s descriptorType descriptorIndex f → s'.formatOf audioIn = f) ∧
      (¬ TakesInputFormat cfg env s descriptorType descriptorIndex f →
        s'.formatOf audioIn = s.formatOf audioIn) := by
  intro s'
  simp only [s', avbProcessAecpCmdSetStreamFormat]
  have hrespond : ∀ (s : EntityState) status value,
      (aecpRespond env s status value).formatOf audioIn = s.formatOf audioIn :=
    fun s status value => (sameFormats_respond env s status value).format audioIn
  split
  · rename_i houtput
    have hnot : ¬ TakesInputFormat cfg env s descriptorType descriptorIndex f := by
      rintro ⟨hinput, -⟩
      exact absurd (houtput.symm.trans hinput) (by decide)
    refine ⟨fun h => absurd h hnot, fun _ => ?_⟩
    split
    · exact hrespond _ _ _
    · rename_i u hu
      split
      · exact hrespond _ _ _
      · refine (formatOf_answeredOutput _ f _ descriptorIndex audioIn).trans ?_
        rw [(sameFormats_setOutputFormat env cfg.withChannels.aecp _ u f).format audioIn,
          formatOf_setFormat, takeFormatRate_formatOf]
        exact if_neg StreamKey.noConfusion
  · split
    · rename_i hinput
      split
      · rename_i hmissing
        refine ⟨?_, fun _ => hrespond _ _ _⟩
        rintro ⟨-, rfl, hhas, -⟩
        rw [inputDescriptor_zero hhas] at hmissing
        cases hmissing
      · rename_i u hu
        obtain ⟨hhas, hindex⟩ := @index_of_inputDescriptor cfg.withChannels _ _ hu
        split
        · rename_i status hstatus
          refine ⟨?_, fun _ => hrespond _ _ _⟩
          rintro ⟨-, rfl, hzero, hnone⟩
          rw [inputDescriptor_zero hzero] at hu
          cases hu
          rw [hnone] at hstatus
          cases hstatus
        · rename_i hnone
          have hformat : ∀ key, (persistInput cfg.withChannels.aecp ((aecpRespond env
              ((takeFormatRate cfg.withChannels.aecp s false descriptorIndex f).setInput u
                { s.listener.inputStreams u with streamFormat := f }) .success (.format f)).effectIf
              ((s.listener.inputStreams u).streamFormat != f) .unsolNotify) descriptorIndex).formatOf
                key = if key = .input u then f else s.formatOf key := by
            intro key
            rw [formatOf_answeredInput, ← takeFormatRate_listener cfg.withChannels.aecp s false
              descriptorIndex f]
            refine (formatOf_setFormat _ (.input u) key f).trans ?_
            rw [takeFormatRate_formatOf]
          refine ⟨?_, fun hnot => ?_⟩
          · rintro ⟨-, rfl, hzero, -⟩
            rw [inputDescriptor_zero hzero] at hu
            cases hu
            exact (hformat audioIn).trans (if_pos rfl)
          · refine (hformat audioIn).trans (if_neg ?_)
            rintro ⟨⟩
            rw [← hindex] at hnone
            exact hnot ⟨hinput, hindex.symm, of_decide_eq_true hhas, hnone⟩
    · rename_i hneither
      exact ⟨fun h => absurd h.1 hneither, fun _ => hrespond _ _ _⟩

/-! ## Runs -/

/-- A map that fits goes on fitting just if the format the input takes keeps it. -/
theorem mapFits_step_iff (h : MapFits cfg s) (ev : MapEvent) :
    MapFits cfg (mapStep cfg s ev) ↔ FormatKeepsMap cfg s ev := by
  cases ev with
  | audioMappings env add descriptorType descriptorIndex numberOfMappings mappings =>
      refine iff_of_true ?_ fun _ _ _ _ hev => absurd hev MapEvent.noConfusion
      exact h.audioMappings add descriptorType descriptorIndex numberOfMappings mappings
  | setStreamFormat env descriptorType descriptorIndex f =>
      obtain ⟨htaken, hkept⟩ := @setStreamFormat_audioIn cfg env s descriptorType descriptorIndex f
      have hmap := @inputMap_setStreamFormat env cfg.withChannels.aecp s descriptorType
        descriptorIndex f
      by_cases htakes : TakesInputFormat cfg env s descriptorType descriptorIndex f
      · constructor
        · rintro hfits _ _ _ _ ⟨⟩ -
          unfold MapFits MapWithin at hfits
          rw [mapStep, hmap, htaken htakes] at hfits
          rcases hfits with hnone | ⟨-, hwithin⟩
          · exact fun channel => Or.inl (hnone channel)
          · exact hwithin
        · intro hkeeps
          have hwithin := hkeeps env descriptorType descriptorIndex f rfl htakes
          unfold MapFits
          rw [mapStep, hmap, htaken htakes]
          exact h.imp_right fun ⟨haudio, _⟩ => ⟨haudio, hwithin⟩
      · refine iff_of_true (h.of_same hmap fun _ => congrArg _ (hkept htakes)) ?_
        rintro _ _ _ _ ⟨⟩ htakes'
        exact absurd htakes' htakes
  | samplingRate env isSet descriptorType descriptorIndex rate =>
      refine iff_of_true (h.of_same (inputMap_samplingRate _ _ _ _ _) fun haudio => ?_)
        fun _ _ _ _ hev => absurd hev MapEvent.noConfusion
      obtain ⟨hhas, hcrf⟩ := (audio_iff audioIn).mp haudio
      rcases @samplingRate_outcome cfg.withChannels env s isSet descriptorType descriptorIndex rate with
        ⟨status, value, -, heq⟩ | ⟨-, heq⟩ | htaken
      · rw [mapStep, heq]
        exact congrArg _ ((sameFormats_respond env s status value).format audioIn)
      · rw [mapStep, heq]
        exact congrArg _ ((sameFormats_respond env s _ _).format audioIn)
      · exact @channels_formatAtRate cfg false _ _ _ _ hcrf (htaken.format audioIn hhas)
  | other s' =>
      refine iff_of_true (h.of_same rfl fun _ => congrArg _ ?_)
        fun _ _ _ _ hev => absurd hev MapEvent.noConfusion
      exact (sameFormats_keepFormats s s').format audioIn

/-- The mapping commands are all or nothing, and what is reported is there. -/
structure MapSound (cfg : AudioConfig) (s : EntityState) : Prop where
  applied : ∀ env add descriptorType descriptorIndex numberOfMappings mappings,
    let s' := avbProcessAecpCmdAudioMappings cfg.withChannels.aecp env s add descriptorType
      descriptorIndex numberOfMappings mappings
    CommandRefused env s s' ∨ MappingsApplied env s s' add (mappings.take numberOfMappings)
  reported : MapReported cfg s

theorem mapSound_iff : MapSound cfg s ↔ MapFits cfg s := by
  constructor
  · exact fun h => mapFits_of_reported h.reported
  · intro h
    refine ⟨fun env add descriptorType descriptorIndex numberOfMappings mappings => ?_,
      mapReported_of_fits h⟩
    exact (audioMappings_outcome cfg env s add descriptorType descriptorIndex numberOfMappings
      mappings).imp_right fun ⟨_, _, _, happlied⟩ => happlied

/-- From any boot, the map is sound after boot and after every step just if what boot restores fits
the format of the audio input, and every format that the input takes keeps the map. -/
theorem audio_map_sound_iff (cfg : AudioConfig) (store : AudioStore)
    (stored : Option (Fin avbInputClusterChannels → UInt16)) (built : EntityState)
    (events : List MapEvent) :
    let booted := mapBoot cfg store stored built
    (MapSound cfg booted ∧
        RunMeets (fun s ev => MapSound cfg (mapStep cfg s ev)) (mapStep cfg) booted events) ↔
      MapFits cfg booted ∧ RunMeets (FormatKeepsMap cfg) (mapStep cfg) booted events := by
  intro booted
  rw [mapSound_iff]
  refine and_congr_right fun hfits => ?_
  refine RunMeets.iff_of_invariant (MapFits cfg) (fun s ev h => ?_) (fun s ev hkeeps h => ?_) hfits
    events
  · exact mapSound_iff.trans (mapFits_step_iff h ev)
  · exact (mapFits_step_iff h ev).mpr hkeeps

/-- A controller maps channel 5 of eight, and then gives the input two channels. -/
theorem mapping_outlives_format : ∃ built, avbInitializeFormats wiredAudio .blank = some built ∧
    let booted := mapBoot wiredAudio .empty none built
    ¬ (MapSound wiredAudio booted ∧
      RunMeets (fun s ev => MapSound wiredAudio (mapStep wiredAudio s ev)) (mapStep wiredAudio) booted
        [.audioMappings (.at 0) true aemDescTypeStreamPortInput 0 1 [⟨0, 5, 0, 0⟩],
          .setStreamFormat (.at 0) aemDescTypeStreamInput 0 (aafFormat 24 5 2 6)]) := by
  refine ⟨_, rfl, ?_⟩
  intro booted hsound
  obtain ⟨-, -, hafter, -⟩ := hsound
  have hfits := mapFits_of_reported hafter.reported
  unfold MapFits MapWithin at hfits
  revert hfits
  decide +kernel

end EspAvb
