import Mathlib.Tactic

/-!
# Nodes that broadcast

Finitely many nodes, each with a local state, and the messages on their way. Where a node acts it
may send messages; each goes to every other node, and each of these receives it in a step of its own,
in any order.
-/

namespace Broadcast

variable {n : Nat} {σ : Fin n → Type*} {μ : Type*}

structure Net (n : Nat) (σ : Fin n → Type*) (μ : Type*) where
  nodes : ∀ i, σ i
  inFlight : List (Fin n × μ)

def toOthers (sender : Fin n) (msgs : List μ) : List (Fin n × μ) :=
  msgs.flatMap fun m => ((List.finRange n).filter (· ≠ sender)).map (·, m)

@[simp]
theorem mem_toOthers {sender i : Fin n} {msgs : List μ} {m : μ} :
    (i, m) ∈ toOthers sender msgs ↔ i ≠ sender ∧ m ∈ msgs := by
  simp [toOthers, and_comm]

namespace Net

/-- A node's step: its next state, and what it sends. -/
def act (net : Net n σ μ) (i : Fin n) (f : σ i → σ i × List μ) : Net n σ μ :=
  { nodes := Function.update net.nodes i (f (net.nodes i)).1
    inFlight := net.inFlight ++ toOthers i (f (net.nodes i)).2 }

def take (net : Net n σ μ) (k : Nat) : Net n σ μ :=
  { net with inFlight := net.inFlight.eraseIdx k }

/-- The `k`-th message on its way arrives. -/
def deliver (net : Net n σ μ) (k : Nat) (handle : ∀ i, μ → σ i → σ i × List μ) : Net n σ μ :=
  match net.inFlight[k]? with
  | none => net
  | some (i, m) => (net.take k).act i (handle i m)

variable (net : Net n σ μ) {i j : Fin n} (f : σ i → σ i × List μ)

@[simp]
theorem act_same : (net.act i f).nodes i = (f (net.nodes i)).1 := by
  simp [act]

theorem act_other (h : j ≠ i) : (net.act i f).nodes j = net.nodes j := by
  simp [act, h]

theorem mem_act_of_mem {p : Fin n × μ} (h : p ∈ net.inFlight) : p ∈ (net.act i f).inFlight :=
  List.mem_append_left _ h

theorem mem_act_of_sent {m : μ} (hj : j ≠ i) (h : m ∈ (f (net.nodes i)).2) :
    (j, m) ∈ (net.act i f).inFlight :=
  List.mem_append_right _ (mem_toOthers.mpr ⟨hj, h⟩)

variable {net}

/-- What is on its way either still is after one message was taken, or was that message. -/
theorem mem_take_or_eq {k : Nat} {taken p : Fin n × μ} (htaken : net.inFlight[k]? = some taken)
    (h : p ∈ net.inFlight) : p ∈ (net.take k).inFlight ∨ p = taken := by
  obtain ⟨l, hl⟩ := List.mem_iff_getElem?.mp h
  by_cases hlk : l = k
  · subst hlk
    rw [htaken] at hl
    exact Or.inr (Option.some.inj hl).symm
  · exact Or.inl (List.mem_eraseIdx_iff_getElem?.mpr ⟨l, hlk, hl⟩)

end Net

end Broadcast
