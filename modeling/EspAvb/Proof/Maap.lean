import EspAvb.Maap

/-!
# No two devices acquire one address

A stream claims its address from the first probe that a timer sends for it on, until it gives the
address up. A claim that meets another one is short-lived: the probe that made it is on its way to the
other device, or the other device's defend is on its way back, and timers wait for both.
-/

namespace EspAvb

variable {n : Nat} {cfg : MaapConfig n}

/-! ### One stream -/

/-- It owns the address, or has sent a probe for it from a timer. -/
def MaapStreamState.Claims (m : MaapStreamState) : Prop :=
  m.state = .defend ∨ m.state = .probe ∧ m.probeCount < MAAP_PROBE_RETRANSMITS

theorem maapReselect_not_claims {mac : EthAddr} {i now : Nat} {m : MaapStreamState}
    (h : m.state = .probe) : ¬(maapReselect mac i now m).Claims := by
  simp [MaapStreamState.Claims, maapReselect, h]

theorem maapInitStream_not_claims (mac : EthAddr) (i now : Nat) (m : MaapStreamState) :
    ¬(maapInitStream mac i now m).1.Claims := by
  simp [MaapStreamState.Claims, maapInitStream]

/-- A message changes a stream only by making it give its address up. -/
theorem maapProcessStream_eq_or (mac : EthAddr) (i now : Nat) (msg : MaapMessage)
    (m : MaapStreamState) :
    (maapProcessStream mac i now msg m).1 = m ∨ ¬(maapProcessStream mac i now msg m).1.Claims := by
  unfold maapProcessStream
  split
  · exact Or.inl rfl
  · split
    case h_1 => exact Or.inl rfl
    case h_2 hstate => exact Or.inr (maapReselect_not_claims hstate)
    case h_3 hstate => exact Or.inr (maapReselect_not_claims hstate)
    case h_4 => exact Or.inr (by simp [MaapStreamState.Claims, maapReselect])
    case h_5 => exact Or.inl rfl

/-- A probe for a claimed address makes a probing stream give it up and an owner defend it. -/
theorem maapProcessStream_probe (mac : EthAddr) (i now : Nat) {msg : MaapMessage}
    {m : MaapStreamState} (hmsg : msg.msgType = .probe) (haddr : m.acquiredAddr = msg.reqStartAddr)
    (hclaims : m.Claims) :
    ¬(maapProcessStream mac i now msg m).1.Claims ∨
      ∃ reply ∈ (maapProcessStream mac i now msg m).2, reply.msgType = .defend ∧
        reply.reqStartAddr = m.acquiredAddr := by
  unfold maapProcessStream
  rw [if_neg (not_not.mpr haddr), hmsg]
  rcases hclaims with hstate | ⟨hstate, -⟩
  · rw [hstate]
    exact Or.inr ⟨_, List.mem_singleton_self _, rfl, haddr.symm⟩
  · rw [hstate]
    exact Or.inl (maapReselect_not_claims hstate)

theorem maapProcessStream_defend {mac : EthAddr} {i now : Nat} {msg : MaapMessage}
    {m : MaapStreamState} (hmsg : msg.msgType = .defend) (haddr : m.acquiredAddr = msg.reqStartAddr)
    (hstate : m.state = .probe) : ¬(maapProcessStream mac i now msg m).1.Claims := by
  unfold maapProcessStream
  rw [if_neg (not_not.mpr haddr), hmsg, hstate]
  exact maapReselect_not_claims hstate

/-- What a timer does to a stream: nothing, the last probe's end, a probe, an announce. -/
theorem maapTickStream_cases (now : Nat) (m : MaapStreamState) :
    maapTickStream now m = (m, []) ∨
      (m.state = .probe ∧ m.probeCount = 1 ∧ (maapTickStream now m).1.state = .defend ∧
        (maapTickStream now m).1.acquiredAddr = m.acquiredAddr) ∨
      (m.state = .probe ∧ maapTickStream now m
        = ({ m with probeCount := m.probeCount - 1, timerExpiryUs := maapProbeTimer now },
          [maapMsg .probe m.acquiredAddr])) ∨
      (m.state = .defend ∧ (maapTickStream now m).1
        = { m with timerExpiryUs := maapAnnounceTimer now }) := by
  by_cases hwait : now < m.timerExpiryUs
  · exact Or.inl (if_pos hwait)
  obtain ⟨state, addr, count, timer, acquired, reselect⟩ := m
  cases state with
  | initial => exact Or.inl (if_neg hwait)
  | defend => exact Or.inr (Or.inr (Or.inr ⟨rfl, by simp [maapTickStream, hwait]⟩))
  | probe =>
      by_cases hzero : count - 1 = 0
      · have hone : count = 1 := by
          rw [← UInt8.sub_add_cancel count 1, hzero]
          rfl
        exact Or.inr (Or.inl ⟨rfl, hone, by simp [maapTickStream, hwait, hzero]⟩)
      · exact Or.inr (Or.inr (Or.inl ⟨rfl, by simp [maapTickStream, hwait, hzero]⟩))

/-- A timer keeps the address; a claim it makes comes with a probe. -/
theorem maapTickStream_claims {now : Nat} {m : MaapStreamState}
    (hclaims : (maapTickStream now m).1.Claims) :
    (maapTickStream now m).1.acquiredAddr = m.acquiredAddr ∧
      (m.Claims ∨ (maapTickStream now m).1.state = .probe ∧
        maapMsg .probe m.acquiredAddr ∈ (maapTickStream now m).2) := by
  rcases maapTickStream_cases now m with heq | ⟨hstate, hone, -, haddr⟩ | ⟨hstate, heq⟩ | ⟨hstate, heq⟩
  · rw [heq] at hclaims ⊢
    exact ⟨rfl, Or.inl hclaims⟩
  · refine ⟨haddr, Or.inl (Or.inr ⟨hstate, ?_⟩)⟩
    rw [hone]
    decide
  · rw [heq]
    exact ⟨rfl, Or.inr ⟨hstate, List.mem_singleton_self _⟩⟩
  · rw [heq]
    exact ⟨rfl, Or.inl (Or.inl hstate)⟩

/-! ### The acquired flag -/

def MaapStreamState.FlagOk (m : MaapStreamState) : Prop := m.acquired = true → m.state = .defend

theorem flagOk_init (mac : EthAddr) (i now : Nat) (m : MaapStreamState) :
    (maapInitStream mac i now m).1.FlagOk := by
  simp [MaapStreamState.FlagOk, maapInitStream]

theorem MaapStreamState.FlagOk.tick {now : Nat} {m : MaapStreamState} (h : m.FlagOk) :
    (maapTickStream now m).1.FlagOk := by
  rcases maapTickStream_cases now m with heq | ⟨-, -, hdefend, -⟩ | ⟨-, heq⟩ | ⟨hstate, heq⟩
  · rw [heq]
    exact h
  · exact fun _ => hdefend
  · rw [heq]
    exact h
  · rw [heq]
    exact fun _ => hstate

theorem MaapStreamState.FlagOk.process {mac : EthAddr} {i now : Nat} {msg : MaapMessage}
    {m : MaapStreamState} (h : m.FlagOk) : (maapProcessStream mac i now msg m).1.FlagOk := by
  unfold maapProcessStream
  split
  · exact h
  · split
    case h_4 => simp [MaapStreamState.FlagOk]
    all_goals exact h

/-! ### The network -/

def MaapNet.stream (net : MaapNet cfg) (d : Fin n) (i : Fin (cfg.numOutputStreams d)) :
    MaapStreamState :=
  (net.nodes d).maap i

/-- The claim of a probing stream is about to be answered by another device: its probe has not arrived
there yet, or that device's defend is on its way back. -/
def MaapNet.Answering (net : MaapNet cfg) (d e : Fin n) (i : Fin (cfg.numOutputStreams d)) : Prop :=
  (net.stream d i).state = .probe ∧
    ((∃ msg : MaapMessage, msg.msgType = .probe ∧ msg.reqStartAddr = (net.stream d i).acquiredAddr ∧
        (e, msg) ∈ net.inFlight) ∨
      ∃ msg : MaapMessage, msg.msgType = .defend ∧ msg.reqStartAddr = (net.stream d i).acquiredAddr ∧
        (d, msg) ∈ net.inFlight)

/-- Two devices claim one address only while the claim of one of them is being answered. -/
structure MaapNet.Safe (net : MaapNet cfg) : Prop where
  flag : ∀ d i, (net.stream d i).FlagOk
  answered : ∀ d e, d ≠ e → ∀ i j, (net.stream d i).Claims → (net.stream e j).Claims →
    (net.stream d i).acquiredAddr = (net.stream e j).acquiredAddr →
      net.Answering d e i ∨ net.Answering e d j

theorem maapSafe_boot : (MaapNet.boot cfg).Safe where
  flag d i := by simp [MaapNet.stream, MaapNet.boot, MaapStreamState.zero, MaapStreamState.FlagOk]
  answered d e _ i := by
    simp [MaapNet.stream, MaapNet.boot, MaapStreamState.zero, MaapStreamState.Claims]

/-- Where nothing is on its way, claims are exclusive. -/
theorem MaapNet.Safe.exclusive {net : MaapNet cfg} (h : net.Safe) (hquiet : net.inFlight = [])
    {d e : Fin n} (hne : d ≠ e) {i : Fin (cfg.numOutputStreams d)} {j : Fin (cfg.numOutputStreams e)}
    (hi : (net.stream d i).Claims) (hj : (net.stream e j).Claims) :
    (net.stream d i).acquiredAddr ≠ (net.stream e j).acquiredAddr := by
  intro haddr
  rcases h.answered d e hne i j hi hj haddr with ⟨-, h⟩ | ⟨-, h⟩
  · simp [hquiet] at h
  · simp [hquiet] at h

theorem MaapNet.Answering.keeps {net net' : MaapNet cfg} {d e : Fin n}
    {i : Fin (cfg.numOutputStreams d)} (h : net.Answering d e i)
    (hstream : net'.stream d i = net.stream d i)
    (hflight : ∀ p ∈ net.inFlight, p ∈ net'.inFlight) : net'.Answering d e i := by
  obtain ⟨hstate, h⟩ := h
  refine ⟨by rwa [hstream], ?_⟩
  rw [hstream]
  rcases h with ⟨msg, htype, haddr, hmem⟩ | ⟨msg, htype, haddr, hmem⟩
  · exact Or.inl ⟨msg, htype, haddr, hflight _ hmem⟩
  · exact Or.inr ⟨msg, htype, haddr, hflight _ hmem⟩

/-! ### Steps -/

section Steps

variable {net : MaapNet cfg} {d e : Fin n} {i : Fin (cfg.numOutputStreams d)}
  {j : Fin (cfg.numOutputStreams e)}

theorem stream_act_other {f : MaapDevice (cfg.numOutputStreams e) → _} (h : d ≠ e)
    (i : Fin (cfg.numOutputStreams d)) : MaapNet.stream (net.act e f) d i = net.stream d i := by
  rw [MaapNet.stream, Broadcast.Net.act_other net f h]
  rfl

theorem stream_init (now : Nat) (i : Fin (cfg.numOutputStreams d)) :
    MaapNet.stream (net.act d (avbMaapInit now)) d i
      = (maapInitStream (net.nodes d).internalMacAddr i now (net.stream d i)).1 := by
  rw [MaapNet.stream, Broadcast.Net.act_same]
  rfl

theorem stream_tick (now : Nat) (i : Fin (cfg.numOutputStreams d)) :
    MaapNet.stream (net.act d (avbMaapTick now)) d i = (maapTickStream now (net.stream d i)).1 := by
  rw [MaapNet.stream, Broadcast.Net.act_same]
  rfl

theorem stream_process (now : Nat) (msg : MaapMessage) (i : Fin (cfg.numOutputStreams d)) :
    MaapNet.stream (net.act d (avbProcessMaap now msg)) d i
      = (maapProcessStream (net.nodes d).internalMacAddr i now msg (net.stream d i)).1 := by
  rw [MaapNet.stream, Broadcast.Net.act_same]
  rfl

/-- What one of a device's streams sends, the device sends. -/
theorem mem_forStreams {k : Nat} {dev : MaapDevice k}
    {turn : Fin k → MaapStreamState → MaapStreamState × List MaapMessage} {i : Fin k}
    {msg : MaapMessage} (h : msg ∈ (turn i (dev.maap i)).2) : msg ∈ (dev.forStreams turn).2 :=
  List.mem_flatMap.mpr ⟨i, List.mem_finRange i, h⟩

theorem MaapNet.Safe.init (h : net.Safe) (a : Fin n) (now : Nat) :
    MaapNet.Safe (net.act a (avbMaapInit now)) where
  flag d i := by
    by_cases hd : d = a
    · subst hd
      rw [stream_init]
      exact flagOk_init _ _ _ _
    · rw [stream_act_other hd]
      exact h.flag d i
  answered d e hne i j hi hj haddr := by
    have hold : ∀ d (i : Fin (cfg.numOutputStreams d)),
        (MaapNet.stream (net.act a (avbMaapInit now)) d i).Claims → d ≠ a := by
      rintro d i hclaims rfl
      rw [stream_init] at hclaims
      exact maapInitStream_not_claims _ _ _ _ hclaims
    have hd := hold d i hi
    have he := hold e j hj
    rw [stream_act_other hd] at hi haddr
    rw [stream_act_other he] at hj haddr
    have hflight : ∀ p ∈ net.inFlight, p ∈ (net.act a (avbMaapInit now)).inFlight := fun _ =>
      Broadcast.Net.mem_act_of_mem net _
    exact (h.answered d e hne i j hi hj haddr).imp
      (fun hans => hans.keeps (stream_act_other hd i) hflight)
      (fun hans => hans.keeps (stream_act_other he j) hflight)

/-- A timer that makes a claim sends its probe to every other device. -/
theorem answering_tick (h : net.Safe) (hquiet : net.inFlight = []) {now : Nat} (hne : d ≠ e)
    (hi : (MaapNet.stream (net.act d (avbMaapTick now)) d i).Claims)
    (hj : (net.stream e j).Claims)
    (haddr : (MaapNet.stream (net.act d (avbMaapTick now)) d i).acquiredAddr
      = (net.stream e j).acquiredAddr) :
    MaapNet.Answering (net.act d (avbMaapTick now)) d e i := by
  rw [stream_tick] at hi haddr
  obtain ⟨hkeep, hclaims | ⟨hstate, hsent⟩⟩ := maapTickStream_claims hi
  · rw [hkeep] at haddr
    exact absurd haddr (h.exclusive hquiet hne hclaims hj)
  · refine ⟨by rwa [stream_tick],
      Or.inl ⟨maapMsg .probe (net.stream d i).acquiredAddr, rfl, ?_, ?_⟩⟩
    · rw [stream_tick, hkeep]
      rfl
    · exact Broadcast.Net.mem_act_of_sent net _ hne.symm (mem_forStreams hsent)

theorem MaapNet.Safe.tick (h : net.Safe) (hquiet : net.inFlight = []) (a : Fin n) (now : Nat) :
    MaapNet.Safe (net.act a (avbMaapTick now)) where
  flag d i := by
    by_cases hd : d = a
    · subst hd
      rw [stream_tick]
      exact (h.flag d i).tick
    · rw [stream_act_other hd]
      exact h.flag d i
  answered d e hne i j hi hj haddr := by
    by_cases hd : d = a
    · subst hd
      rw [stream_act_other hne.symm] at hj haddr
      exact Or.inl (answering_tick h hquiet hne hi hj haddr)
    · rw [stream_act_other hd] at hi haddr
      by_cases he : e = a
      · subst he
        exact Or.inr (answering_tick h hquiet hne.symm hj hi haddr.symm)
      · rw [stream_act_other he] at hj haddr
        exact absurd haddr (h.exclusive hquiet hne hi hj)

/-- The arrival of a message, whichever is taken. -/
def MaapNet.arrival (net : MaapNet cfg) (k : Nat) (a : Fin n) (msg : MaapMessage) (now : Nat) :
    MaapNet cfg :=
  (net.take k).act a (avbProcessMaap now msg)

theorem stream_arrival {k now : Nat} {a : Fin n} {msg : MaapMessage}
    (h : ((net.arrival k a msg now).stream d i).Claims) :
    (net.arrival k a msg now).stream d i = net.stream d i := by
  by_cases hd : d = a
  · subst hd
    have heq : (net.arrival k d msg now).stream d i
        = (maapProcessStream (net.nodes d).internalMacAddr i now msg (net.stream d i)).1 :=
      stream_process now msg i
    rw [heq] at h ⊢
    rcases maapProcessStream_eq_or (net.nodes d).internalMacAddr i now msg (net.stream d i)
      with hsame | hnot
    · exact hsame
    · exact absurd h hnot
  · exact stream_act_other hd i

/-- An answer under way goes on: the probe that arrives is defended, the defend that arrives ends the
claim. -/
theorem MaapNet.Answering.arrival {k now : Nat} {a : Fin n} {msg : MaapMessage}
    (htaken : net.inFlight[k]? = some (a, msg)) (hne : d ≠ e)
    (hi : ((net.arrival k a msg now).stream d i).Claims)
    (hj : ((net.arrival k a msg now).stream e j).Claims)
    (haddr : (net.stream d i).acquiredAddr = (net.stream e j).acquiredAddr)
    (h : net.Answering d e i) : (net.arrival k a msg now).Answering d e i := by
  have hsame := stream_arrival hi
  have hother := stream_arrival hj
  have hflight : ∀ p ∈ net.inFlight, p ∈ (net.arrival k a msg now).inFlight ∨ p = (a, msg) := by
    intro p hp
    rcases Broadcast.Net.mem_take_or_eq htaken hp with hp | rfl
    · exact Or.inl (Broadcast.Net.mem_act_of_mem (net.take k) _ hp)
    · exact Or.inr rfl
  obtain ⟨hstate, h⟩ := h
  refine ⟨by rwa [hsame], ?_⟩
  rw [hsame]
  rcases h with ⟨m, htype, hreq, hmem⟩ | ⟨m, htype, hreq, hmem⟩
  · rcases hflight _ hmem with hmem | heq
    · exact Or.inl ⟨m, htype, hreq, hmem⟩
    · -- the probe arrives: its receiver answers, as it still claims the address
      obtain ⟨rfl, rfl⟩ := Prod.mk.inj heq
      have hclaims : (net.stream e j).Claims := hother ▸ hj
      rcases maapProcessStream_probe (net.nodes e).internalMacAddr j now htype
        (haddr.symm.trans hreq.symm) hclaims with hnot | ⟨reply, hreply, hdefend, hto⟩
      · have heq : (net.arrival k e m now).stream e j
            = (maapProcessStream (net.nodes e).internalMacAddr j now m (net.stream e j)).1 :=
          stream_process now m j
        exact absurd (heq ▸ hj) hnot
      · refine Or.inr ⟨reply, hdefend, hto.trans haddr.symm, ?_⟩
        exact Broadcast.Net.mem_act_of_sent (net.take k) _ hne (mem_forStreams hreply)
  · rcases hflight _ hmem with hmem | heq
    · exact Or.inr ⟨m, htype, hreq, hmem⟩
    · -- the defend arrives: the stream would have given its address up
      obtain ⟨rfl, rfl⟩ := Prod.mk.inj heq
      have heq : (net.arrival k d m now).stream d i
          = (maapProcessStream (net.nodes d).internalMacAddr i now m (net.stream d i)).1 :=
        stream_process now m i
      exact absurd (heq ▸ hi) (maapProcessStream_defend htype hreq.symm hstate)

theorem MaapNet.Safe.arrival (h : net.Safe) {k now : Nat} {a : Fin n} {msg : MaapMessage}
    (htaken : net.inFlight[k]? = some (a, msg)) : (net.arrival k a msg now).Safe where
  flag d i := by
    by_cases hd : d = a
    · subst hd
      have heq : (net.arrival k d msg now).stream d i
          = (maapProcessStream (net.nodes d).internalMacAddr i now msg (net.stream d i)).1 :=
        stream_process now msg i
      rw [heq]
      exact (h.flag d i).process
    · have heq : (net.arrival k a msg now).stream d i = net.stream d i := stream_act_other hd i
      rw [heq]
      exact h.flag d i
  answered d e hne i j hi hj haddr := by
    have hsame := stream_arrival hi
    have hother := stream_arrival hj
    rw [hsame, hother] at haddr
    exact (h.answered d e hne i j (hsame ▸ hi) (hother ▸ hj) haddr).imp
      (fun hans => hans.arrival htaken hne hi hj haddr)
      (fun hans => hans.arrival htaken hne.symm hj hi haddr.symm)

end Steps

/-! ### Runs -/

/-- Timers run only when every message sent has arrived everywhere. -/
def TimersWait (net : MaapNet cfg) : MaapEvent n → Prop
  | .tick _ _ => net.inFlight = []
  | _ => True

instance (net : MaapNet cfg) (ev : MaapEvent n) : Decidable (TimersWait net ev) :=
  match ev with
  | .tick _ _ => inferInstanceAs (Decidable (_ = []))
  | .init _ _ | .deliver _ _ => inferInstanceAs (Decidable True)

theorem MaapNet.Safe.step {net : MaapNet cfg} {ev : MaapEvent n} (hwait : TimersWait net ev)
    (h : net.Safe) : MaapNet.Safe (maapStep cfg net ev) := by
  cases ev with
  | init d now => exact h.init d now
  | tick d now => exact h.tick hwait d now
  | deliver k now =>
      rw [maapStep, Broadcast.Net.deliver]
      cases htaken : net.inFlight[k]? with
      | none => exact h
      | some p => exact h.arrival htaken

/-- In a run whose timers wait for the deliveries no two devices ever own the same address. -/
theorem maap_acquired_exclusive {events : List (MaapEvent n)}
    (hmeets : Machine.RunMeets TimersWait (maapStep cfg) (.boot cfg) events) {d e : Fin n} (hne : d ≠ e)
    (i : Fin (cfg.numOutputStreams d)) (j : Fin (cfg.numOutputStreams e)) :
    let net : MaapNet cfg := Machine.run (maapStep cfg) (.boot cfg) events
    ¬((net.stream d i).acquired = true ∧ (net.stream e j).acquired = true ∧
      (net.stream d i).acquiredAddr = (net.stream e j).acquiredAddr) := by
  rintro net ⟨hi, hj, haddr⟩
  have hsafe : net.Safe := hmeets.invariant MaapNet.Safe (fun _ _ => MaapNet.Safe.step) maapSafe_boot
  have hdefend := hsafe.flag d i hi
  have hdefend' := hsafe.flag e j hj
  rcases hsafe.answered d e hne i j (Or.inl hdefend) (Or.inl hdefend') haddr
    with ⟨hprobe, -⟩ | ⟨hprobe, -⟩
  · rw [hdefend] at hprobe
    cases hprobe
  · rw [hdefend'] at hprobe
    cases hprobe

/-- Two devices whose MACs agree in the last four octets, of one output stream each. -/
def twinMacs : MaapConfig 2 where
  numOutputStreams _ := 1
  mac d := .ofNat 6 (0x020000000000 + d * 0x10000000000 + 0x01020304)

/-- The first device owns its address when the second one starts; its first probe is defended. -/
def twinRun : List (MaapEvent 2) :=
  let d0 : Fin 2 := ⟨0, Nat.two_pos⟩
  let d1 : Fin 2 := ⟨1, Nat.one_lt_two⟩
  [.init d0 0, .deliver 0 0, .tick d0 1000000, .deliver 0 0, .tick d0 2000000, .deliver 0 0,
    .tick d0 3000000, .deliver 0 0, .init d1 3000000, .deliver 0 3000000, .deliver 0 3000000,
    .tick d1 4000000, .deliver 0 4000000, .tick d1 5000000, .deliver 0 5000000, .tick d1 6000000,
    .deliver 0 6000000]

def twinStream (d : Fin 2) : Fin (twinMacs.numOutputStreams d) := ⟨0, Nat.one_pos⟩

/-- Both own an address in the end. -/
theorem maap_acquired_exclusive_twins :
    let net : MaapNet twinMacs := Machine.run (maapStep twinMacs) (.boot twinMacs) twinRun
    let first := net.stream 0 (twinStream 0)
    let second := net.stream 1 (twinStream 1)
    first.acquired = true ∧ second.acquired = true ∧
      ¬(first.acquired = true ∧ second.acquired = true ∧
        first.acquiredAddr = second.acquiredAddr) := by
  have hmeets : Machine.RunMeets TimersWait (maapStep twinMacs) (.boot twinMacs) twinRun := by
    decide +kernel
  refine ⟨?_, ?_, maap_acquired_exclusive hmeets (by decide) (twinStream 0) (twinStream 1)⟩
  · decide +kernel
  · decide +kernel

end EspAvb
