import EspAvb.WifiBundle

/-!
# Octets and integers

`avbutils.c`: the fields of a wire format are read with `octets_to_uint` and written with
`int_to_octets`, on a target that keeps an integer's least significant octet first. Buffers are there.
-/

namespace EspAvb

/-- The loop of `octets_to_uint` after `i` octets. -/
def octetsLoop (buffer : Buf) (size : Nat) : Nat → UInt64
  | 0 => 0
  | i + 1 =>
      octetsLoop buffer size i ||| (buffer.getD i 0).toUInt64 <<< UInt64.ofNat (8 * (size - 1 - i))

/-- `octets_to_uint` -/
def octetsToUint (buffer : Buf) (size : Nat) : UInt64 :=
  let result : UInt64 := 0
  if size = 0 ∨ 8 < size then result
  else if size = 1 then result.toUInt8.toUInt64
  else
    let result := octetsLoop buffer size size
    if size = 2 then result.toUInt16.toUInt64
    else if size ≤ 4 then result.toUInt32.toUInt64
    else result

/-- One turn of the loop of `reverse_octets`. -/
def swapOctets (size i : Nat) (buffer : Buf) : Buf :=
  let temp := buffer.getD i 0
  (buffer.set i (buffer.getD (size - 1 - i) 0)).set (size - 1 - i) temp

def reverseLoop (size : Nat) : Nat → Buf → Buf
  | 0, buffer => buffer
  | i + 1, buffer => swapOctets size i (reverseLoop size i buffer)

/-- `reverse_octets` -/
def reverseOctets (buffer : Buf) (size : Nat) : Buf :=
  if size ≤ 1 then buffer else reverseLoop size (size / 2) buffer

/-- The octets of an integer in memory. -/
def memoryOctets (value : UInt64) : Buf :=
  (List.range 8).map fun i => (value >>> UInt64.ofNat (8 * i)).toUInt8

/-- `int_to_octets`, with `value` in the low octets of a word. -/
def intToOctets (value : UInt64) (size : Nat) : Buf :=
  reverseOctets ((memoryOctets value).take size) size

end EspAvb
