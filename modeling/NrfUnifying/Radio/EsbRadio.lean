import NrfUnifying.Lib.Bytes

/-!
# The ESB radio driver

The driver keeps its buffers, a packet id and the address encoding; what an
attempt on air leads to is up to the board.
-/

namespace NrfUnifying.Radio

open Lib.Bytes

def maxPayloadLen : Nat := 32

def dmaHeader : Nat := 2

/-- The driver's fields and the registers that select address and channel. -/
structure EsbRadio where
  txBuf : List UInt8 := List.replicate (dmaHeader + maxPayloadLen) 0
  rxBuf : List UInt8 := List.replicate (dmaHeader + maxPayloadLen) 0
  pid : UInt8 := 0
  retransmitCount : UInt8 := 15
  retransmitDelay : UInt8 := 15
  rxLen : UInt8 := 0
  addrEncoding : UInt8 := 1
  base0 : UInt32 := 0
  prefix0 : UInt8 := 0
  frequency : UInt8 := 0
  deriving DecidableEq, Repr

def EsbRadio.addrEncodings : Nat := 4

/-- One transmission and its wait for an ACK: what the receive buffer holds afterwards, whether a
frame ended in time, and whether its CRC was right. -/
structure Attempt where
  rxBuf : List UInt8
  ended : Bool
  crcOk : Bool
  deriving DecidableEq, Repr

/-- Time, air and power, as the firmware meets them; `W` is the state of the world. -/
class Board (W : Type) where
  /-- Ticks of the monotonic timer. -/
  now : W → UInt64 × W
  /-- A wait of some microseconds. -/
  delay : W → Nat → W
  attempt : W → EsbRadio → Attempt × W
  disableRadio : W → W
  pofWarning : W → Bool
  clearPofWarning : W → W

def reverseBits (byte : UInt8) : UInt8 := .ofBitVec byte.toBitVec.reverse

/-- Four bytes on air, most significant first, each with its bits reversed. -/
def packBase (a b c d : UInt8) : UInt32 :=
  ofLe32 [reverseBits d, reverseBits c, reverseBits b, reverseBits a]

/-- The registers that put an address on air; `encoding` selects the byte order. -/
def hwAddress (address : Vector UInt8 5) (encoding : UInt8) : UInt32 × UInt8 :=
  let rev := address.reverse
  match encoding with
  | 0 => (packBase rev[0] rev[1] rev[2] rev[3], reverseBits rev[4])
  | 1 => (packBase rev[1] rev[2] rev[3] rev[4], reverseBits rev[0])
  | 2 => (packBase address[0] address[1] address[2] address[3], reverseBits address[4])
  | _ => (packBase address[1] address[2] address[3] address[4], reverseBits address[0])

def EsbRadio.setAddrEncoding (radio : EsbRadio) (encoding : UInt8) : EsbRadio :=
  { radio with addrEncoding := encoding }

def EsbRadio.setAddress (radio : EsbRadio) (address : Vector UInt8 5) : EsbRadio :=
  let (base0, prefix0) := hwAddress address radio.addrEncoding
  { radio with base0, prefix0 }

def EsbRadio.setChannel (radio : EsbRadio) (channel : UInt8) : EsbRadio :=
  { radio with frequency := min channel 100 }

section Board

variable {W : Type} [Board W]

/-- Transmit the frame once; `true` when a frame with a right CRC came back. -/
def EsbRadio.txOnce (radio : EsbRadio) (world : W) : Bool × EsbRadio × W :=
  let (attempt, world) := Board.attempt world radio
  let radio := { radio with rxBuf := attempt.rxBuf }
  if attempt.ended = false then (false, radio, world)
  else if attempt.crcOk = false then (false, { radio with rxLen := 0 }, world)
  else
    let length := radio.rxBuf.getD 0 0
    let rxLen := if 0 < length ∧ length.toNat ≤ maxPayloadLen then length else 0
    (true, { radio with rxLen }, world)

/-- The frame of a new packet: its length, the next packet id, the payload. -/
def EsbRadio.frame (radio : EsbRadio) (payload : List UInt8) : EsbRadio :=
  let length := min payload.length maxPayloadLen
  let pid := (radio.pid + 1) &&& 0x03
  { radio with
    pid
    txBuf := [length.toUInt8, (pid <<< 1) ||| 0x01] ++ payload.take length ++
      radio.txBuf.drop (dmaHeader + length)
    rxLen := 0 }

/-- One attempt outside the protocol, for the self-test. -/
def EsbRadio.probeOnce (radio : EsbRadio) (payload : List UInt8) (world : W) :
    Bool × EsbRadio × W :=
  (radio.frame payload).txOnce world

/-- The gap before a retransmission, in microseconds. -/
def EsbRadio.retryGap (radio : EsbRadio) : Nat := min (radio.retransmitDelay.toNat * 250) 1500

/-- Transmit the packet until it is acknowledged, at most `attempts` times. -/
def EsbRadio.transmitAttempts : (attempts : Nat) → EsbRadio → W → Bool × EsbRadio × W
  | 0, radio, world => (false, radio, world)
  | attempts + 1, radio, world =>
      match radio.txOnce world with
      | (true, radio, world) => (true, radio, world)
      | (false, radio, world) =>
          transmitAttempts attempts radio
            (if 0 < attempts then Board.delay world radio.retryGap else world)

/-- A new packet, with `retransmitCount` retries behind the first attempt. -/
def EsbRadio.transmitPayload (radio : EsbRadio) (payload : List UInt8) (world : W) :
    Bool × EsbRadio × W :=
  (radio.frame payload).transmitAttempts (radio.retransmitCount.toNat + 1) world

end Board

/-- Copy the ACK payload into the caller's buffer and clear it; the count comes with the buffer. -/
def EsbRadio.receivePayload (radio : EsbRadio) (payload : List UInt8) :
    (UInt8 × List UInt8) × EsbRadio :=
  let len := min radio.rxLen.toNat payload.length
  ((len.toUInt8, (radio.rxBuf.drop dmaHeader).take len ++ payload.drop len),
    { radio with rxLen := 0 })

def EsbRadio.payloadAvailable (radio : EsbRadio) : Bool := radio.rxLen ≠ 0

def EsbRadio.setRetries (radio : EsbRadio) (delay count : UInt8) : EsbRadio :=
  { radio with retransmitDelay := delay, retransmitCount := count }

end NrfUnifying.Radio
