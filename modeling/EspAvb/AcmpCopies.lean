import EspAvb.BridgeRx

/-!
# ACMP messages that arrive twice

`avb_process_acmp` in `atdecc.c` on a wireless end station: the access point delivers each ACMP message
group addressed and again individually addressed, and the station answers once. A message for the station
is compared octet for octet with the last ones that it took; times are those of `esp_timer`, above zero.
-/

namespace EspAvb

def acmpCopyWindowUs : Int := 100000

def acmpRecentCount : Nat := 8

/-- The `acmp_message_s` behind the Ethernet header. -/
def acmpMessage (frame : Buf) : Buf := (frame.drop 14).take 56

/-- The statics of `avb_acmp_received_twice`. -/
structure AcmpCopies where
  recent : Nat → Buf
  recentUs : Nat → Int
  nextRecent : Nat

structure AcmpArrival where
  nowUs : Int
  frame : Buf

namespace AcmpCopies

def init : AcmpCopies := { recent := fun _ => [], recentUs := fun _ => 0, nextRecent := 0 }

/-- The message is one of those kept, and the copy window has not passed. -/
def keeps (s : AcmpCopies) (nowUs : Int) (msg : Buf) : Bool :=
  (List.range acmpRecentCount).any fun i =>
    s.recentUs i ≠ 0 ∧ nowUs - s.recentUs i < acmpCopyWindowUs ∧ s.recent i = msg

def note (s : AcmpCopies) (nowUs : Int) (msg : Buf) : AcmpCopies :=
  { recent := Function.update s.recent s.nextRecent msg
    recentUs := Function.update s.recentUs s.nextRecent nowUs
    nextRecent := (s.nextRecent + 1) % acmpRecentCount }

def avbAcmpReceivedTwice (s : AcmpCopies) (nowUs : Int) (msg : Buf) : AcmpCopies × Bool :=
  if s.keeps nowUs msg then (s, true) else (s.note nowUs msg, false)

/-- `avb_process_acmp` up to its handlers, and whether the message goes to them. -/
def avbProcessAcmp (own : UniqueId) (s : AcmpCopies) (arrival : AcmpArrival) : AcmpCopies × Bool :=
  if acmpTargetEntityId arrival.frame = some own then
    let (s, twice) := s.avbAcmpReceivedTwice arrival.nowUs (acmpMessage arrival.frame)
    (s, !twice)
  else (s, true)

/-- The state before message `n`. -/
def before (own : UniqueId) (arrivals : Nat → AcmpArrival) : Nat → AcmpCopies
  | 0 => init
  | n + 1 => (avbProcessAcmp own (before own arrivals n) (arrivals n)).1

abbrev ForStation (own : UniqueId) (arrivals : Nat → AcmpArrival) (n : Nat) : Prop :=
  acmpTargetEntityId (arrivals n).frame = some own

/-- Whether message `n` goes to the handlers. -/
def passes (own : UniqueId) (arrivals : Nat → AcmpArrival) (n : Nat) : Bool :=
  (avbProcessAcmp own (before own arrivals n) (arrivals n)).2

/-- Whether message `n` is for the station and goes to the handlers. -/
def handled (own : UniqueId) (arrivals : Nat → AcmpArrival) (n : Nat) : Bool :=
  ForStation own arrivals n ∧ passes own arrivals n

/-- The station before message `n`, from `st`; the handlers see the time and the message. -/
def stationBefore {σ : Type*} (handlers : σ → Int → Buf → σ) (st : σ) (own : UniqueId)
    (arrivals : Nat → AcmpArrival) : Nat → σ
  | 0 => st
  | n + 1 =>
      let station := stationBefore handlers st own arrivals n
      if passes own arrivals n then
        handlers station (arrivals n).nowUs (acmpMessage (arrivals n).frame)
      else station

end AcmpCopies

end EspAvb
