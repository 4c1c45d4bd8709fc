import EspAvb.Lib.Octets
import Mathlib.Tactic

/-!
# ADDRESS_ACCESS

`atdecc.c`, `avb_process_aecp_addr_access`: a controller reads the logo image out of the entity. The
TLVs of the command are walked in place, and what a TLV asks for is copied behind its header in the
same buffer, which is then sent back.

Octets are counted from the start of `tlv_data`. The buffer goes on behind a short command, and the
walk does not know where the command ends; each access is written down, so that it can be said where
they fall.
-/

namespace EspAvb

/-- `sizeof(aecp_addr_access_s)`, the `tlv_data` of it, and what stands before that. -/
def addrAccessBufLen : Nat := 624
def addrAccessTlvDataLen : Nat := 600
def addrAccessHeadLen : Nat := 24

def addrAccessMaxTlvs : Nat := 4
def tlvHeaderLen : Nat := 10

/-- The logo linked into the image, at `logo_start`; flash is not mapped at the bottom of memory. -/
structure LogoImage where
  base : Nat
  octets : List UInt8
  mapped : 4096 ≤ base
  fits : base + octets.length ≤ 2 ^ 32

/-- A received ADDRESS_ACCESS command of at most `AVB_MAX_MSG_LEN` octets, and what the receive
buffer holds behind it. -/
structure AddrAccessCommand where
  tlvCount : UInt16
  controlDataLen : Fin (2 ^ 11)
  data : List UInt8
  behind : Nat → UInt8
  received : addrAccessHeadLen + data.length ≤ 600

/-- The TLV data of the command itself: what its header announces and what was received, so that
neither the padding of a short frame counts nor what never came. -/
def AddrAccessCommand.tlvDataLen (cmd : AddrAccessCommand) : Nat :=
  min cmd.data.length (cmd.controlDataLen - 12)

def AddrAccessCommand.tlvData (cmd : AddrAccessCommand) (i : Nat) : UInt8 :=
  cmd.data.getD i (cmd.behind i)

inductive TlvAccess where
  /-- `tlv[0]` and on, `count` octets -/
  | read (tlv count : Nat)
  | write (tlv count : Nat)
  /-- `memcpy` of `count` octets from `offset` of the image, for a TLV that announced `length` -/
  | copy (tlv length offset count : Nat)
  | advance (tlv length next : Nat)
  deriving DecidableEq, Repr

structure AddrAccessState where
  tlvData : Nat → UInt8
  tlv : Nat
  status : Nat
  accesses : List TlvAccess

def tlvMode (tlvData : Nat → UInt8) (tlv : Nat) : Nat := (tlvData tlv).toNat / 16

def tlvLength (tlvData : Nat → UInt8) (tlv : Nat) : Nat :=
  (tlvData tlv).toNat % 16 * 256 + (tlvData (tlv + 1)).toNat

def tlvAddress (tlvData : Nat → UInt8) (tlv : Nat) : Nat :=
  (List.range 8).foldl (fun address b => address * 256 + (tlvData (tlv + 2 + b)).toNat) 0

/-- The clamped length, written back over the announced one. -/
def tlvWriteLength (tlvData : Nat → UInt8) (tlv mode length : Nat) : Nat → UInt8 := fun i =>
  if i = tlv then UInt8.ofNat (mode * 16 + length / 256 % 16)
  else if i = tlv + 1 then UInt8.ofNat (length % 256)
  else tlvData i

def copyLogo (logo : LogoImage) (tlvData : Nat → UInt8) (tlv offset length : Nat) : Nat → UInt8 :=
  fun i =>
    if tlv + tlvHeaderLen ≤ i ∧ i < tlv + tlvHeaderLen + length then
      logo.octets.getD (offset + (i - (tlv + tlvHeaderLen))) 0
    else tlvData i

/-- `memcpy`, and on to the next TLV, with the length as it was announced and as it is by now. -/
def addrAccessCopy (logo : LogoImage) (st : AddrAccessState) (announced offset length : Nat) :
    AddrAccessState :=
  { tlvData := copyLogo logo st.tlvData st.tlv offset length
    tlv := st.tlv + tlvHeaderLen + length
    status := 0
    accesses := st.accesses ++ [.copy st.tlv announced offset length,
      .advance st.tlv announced (st.tlv + tlvHeaderLen + length)] }

/-- One pass of the loop, and whether it goes on. -/
def addrAccessTlv (logo : LogoImage) (st : AddrAccessState) : AddrAccessState × Bool :=
  let mode := tlvMode st.tlvData st.tlv
  let length := tlvLength st.tlvData st.tlv
  let address := tlvAddress st.tlvData st.tlv
  let st := { st with accesses := st.accesses ++ [.read st.tlv tlvHeaderLen] }
  if mode = 0 then
    if address < logo.base then ({ st with status := 2 }, false)
    else
      let offset := address - logo.base
      if logo.octets.length < (offset + length) % 2 ^ 64 then
        if offset < logo.octets.length then
          let clamped := logo.octets.length - offset
          let st :=
            { st with
              status := 3
              tlvData := tlvWriteLength st.tlvData st.tlv mode clamped
              accesses := st.accesses ++ [.write st.tlv 2] }
          (addrAccessCopy logo st length offset clamped, true)
        else ({ st with status := 3 }, false)
      else (addrAccessCopy logo st length offset length, true)
  else ({ st with status := 1 }, false)

def addrAccessWalk (logo : LogoImage) : Nat → AddrAccessState → AddrAccessState
  | 0, st => st
  | count + 1, st =>
      match addrAccessTlv logo st with
      | (st, true) => addrAccessWalk logo count st
      | (st, false) => st

/-- What goes back: the buffer's first `msgLen` octets, with the status of the last TLV. -/
structure AddrAccessResponse where
  walk : AddrAccessState
  msgLen : Nat

/-- The length sent is the one the command's header gave. -/
def avbProcessAecpAddrAccess (logo : LogoImage) (cmd : AddrAccessCommand) : AddrAccessResponse :=
  { walk := addrAccessWalk logo (min cmd.tlvCount.toNat addrAccessMaxTlvs)
      { tlvData := cmd.tlvData, tlv := 0, status := 0, accesses := [] }
    msgLen := 4 + 8 + cmd.controlDataLen }

end EspAvb
