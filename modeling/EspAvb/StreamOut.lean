import EspAvb.StreamFormat

/-!
# The packets of an output stream

`avtp.c`: the parameters that `avb_start_stream_out` takes from a stream's format and class, and the
lengths of the packets its task then sends. A CRF stream is sent from a timer.
-/

namespace EspAvb

def txAvtpHdrLen : Nat := 24
def txCipHdrLen : Nat := 8
def avbCrfPduLen : Nat := 20 + avbCrfTsPerPdu * 8

/-- The period of the CRF timer, at 500 timestamps a second. -/
def avbCrfPeriodUs : Nat := 1000000 * avbCrfTsPerPdu / 500

/-- Of `stream_out_params_s` what the packets are sized by. -/
structure StreamOutParams where
  formatSubtype : Nat
  channels : Nat
  bitDepth : Nat
  sampleRate : Nat
  interval : Nat
  deriving DecidableEq, Repr

/-- `avb_start_stream_out`, for a stream that is not CRF. -/
def avbStreamOutParams (stream : AvbTalkerStream) : StreamOutParams :=
  let fmt := stream.streamFormat
  let am824 := formatSubtype fmt == avtpSubtype61883
  let sampleRate :=
    if am824 then cipSfcToSampleRate (formatOctet fmt 2 % 8)
    else aafCodeToSampleRate (formatOctet fmt 1 % 16)
  let formatSpf := formatSamplesPerFrame fmt
  let milanSpf := (sampleRate + 7999) / 8000
  let classInterval := if stream.classB then 250 else 125
  { formatSubtype := formatSubtype fmt
    channels :=
      if am824 then formatOctet fmt 3 else formatOctet fmt 4 * 4 + formatOctet fmt 5 / 64
    bitDepth := if am824 then 24 else formatOctet fmt 3
    sampleRate
    interval :=
      if formatSubtype fmt = avtpSubtypeAaf ∧ formatSpf ≠ 0 then
        if milanSpf < formatSpf then 250 else 125
      else classInterval }

namespace StreamOutParams

variable (params : StreamOutParams)

def sppDen : Nat := 1000000 / params.interval
def sppBase : Nat := params.sampleRate / params.sppDen
def sppRem : Nat := params.sampleRate % params.sppDen

/-- Samples of the next packet, and the accumulator after it. -/
def thisSpp (sppAcc : Nat) : Nat × Nat :=
  let acc := sppAcc + params.sppRem
  if params.sppDen ≤ acc then (params.sppBase + 1, acc - params.sppDen)
  else (params.sppBase, acc)

/-- A packet behind the VLAN tag. Every sample takes four octets, whatever the bit depth. -/
def avtpduLen (spp : Nat) : Nat :=
  txAvtpHdrLen + (if params.formatSubtype = avtpSubtype61883 then txCipHdrLen else 0)
    + spp * params.channels * 4

/-- The lengths of the packets from an accumulator on. -/
def avtpduLens : Nat → Nat → List Nat
  | 0, _ => []
  | n + 1, sppAcc =>
      let (spp, sppAcc) := params.thisSpp sppAcc
      params.avtpduLen spp :: avtpduLens n sppAcc

end StreamOutParams

/-- The lengths of the first packets a stream sends. -/
def streamOutLens (stream : AvbTalkerStream) (n : Nat) : List Nat :=
  if formatSubtype stream.streamFormat = avtpSubtypeCrf then List.replicate n avbCrfPduLen
  else (avbStreamOutParams stream).avtpduLens n 0

/-- The time from one packet to the next. -/
def streamOutPeriodUs (stream : AvbTalkerStream) : Nat :=
  if formatSubtype stream.streamFormat = avtpSubtypeCrf then avbCrfPeriodUs
  else (avbStreamOutParams stream).interval

end EspAvb
