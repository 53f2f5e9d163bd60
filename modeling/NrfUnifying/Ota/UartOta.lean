import NrfUnifying.Lib.Bytes
import NrfUnifying.Lib.Crc

/-!
# Numbered, stop-and-wait UART DFU

The image is stored chunk by chunk, read back for its CRC and then committed.
The storage is a parameter; any of its operations may fail at any call.
-/

namespace NrfUnifying.UartOta

open Lib.Bytes

def limit : Nat := 480 * 1024

/-- What an image is written to, read back from and committed in. -/
class Storage (S : Type) where
  write : S → Nat → List UInt8 → Bool × S
  read : S → Nat → Nat → Option (List UInt8) × S
  commit : S → Bool × S

/-! ## CRC-32 -/

def crcShift (crc : UInt32) : UInt32 :=
  (crc >>> 1) ^^^ (0xEDB88320 &&& (0 - (crc &&& 1)))

def crcUpdate (crc : UInt32) (bytes : List UInt8) : UInt32 :=
  bytes.foldl (fun crc byte => crcShift^[8] (crc ^^^ byte.toUInt32)) crc

/-- CRC-32 of an image: the inverted register of its bit stream. -/
def crc32 (image : List UInt8) : UInt32 :=
  ~~~ UInt32.ofBitVec
    (Lib.Crc.register 0xEDB88320#32 0xFFFFFFFF#32 (image.map UInt8.toBitVec))

/-! ## Tokens -/

def hexDigit (byte : UInt8) : Option UInt32 :=
  if 0x30 ≤ byte ∧ byte ≤ 0x39 then some (byte - 0x30).toUInt32
  else if 0x41 ≤ byte ∧ byte ≤ 0x46 then some (byte - 0x41 + 10).toUInt32
  else if 0x61 ≤ byte ∧ byte ≤ 0x66 then some (byte - 0x61 + 10).toUInt32
  else none

def hex (token : List UInt8) : Option UInt32 :=
  if token.isEmpty ∨ token.length > 8 then none
  else token.foldlM (fun value byte => (hexDigit byte).map fun digit => (value <<< 4) ||| digit) 0

/-- A payload of whole bytes, two digits each. -/
def hexBytes : List UInt8 → Option (List UInt8)
  | [] => some []
  | [digit] => (hex [digit]).map fun value => [value.toUInt8]
  | high :: low :: rest => do
      let value ← hex [high, low]
      let bytes ← hexBytes rest
      return value.toUInt8 :: bytes

/-! ## Replies -/

inductive Reply where
  | errCmd | cap | errArg | errSize | ready | errNoImage | ok | errOffset | errVector | errWrite
  | errIncomplete | errRead | errCrc | errMark | reboot | aborted
  deriving DecidableEq, Repr

def Reply.text : Reply → List UInt8
  | .errCmd => ascii "ERR CMD\r\n"
  | .cap => ascii "OTA UART1 BLOCK64 CRC32\r\n"
  | .errArg => ascii "ERR ARG\r\n"
  | .errSize => ascii "ERR SIZE\r\n"
  | .ready => ascii "READY\r\n"
  | .errNoImage => ascii "ERR NOIMAGE\r\n"
  | .ok => ascii "OK\r\n"
  | .errOffset => ascii "ERR OFFSET\r\n"
  | .errVector => ascii "ERR VECTOR\r\n"
  | .errWrite => ascii "ERR WRITE\r\n"
  | .errIncomplete => ascii "ERR INCOMPLETE\r\n"
  | .errRead => ascii "ERR READ\r\n"
  | .errCrc => ascii "ERR CRC\r\n"
  | .errMark => ascii "ERR MARK\r\n"
  | .reboot => ascii "REBOOT\r\n"
  | .aborted => ascii "ABORTED\r\n"

/-! ## The update session -/

structure Ota where
  active : Bool := false
  size : Nat := 0
  received : Nat := 0
  expectedCrc : UInt32 := 0
  deriving DecidableEq, Repr

def Ota.abort (ota : Ota) : Ota := { ota with active := false, received := 0 }

/-- `BEGIN size crc` -/
def Ota.begin (ota : Ota) (args : List (List UInt8)) : Reply × Ota :=
  match args[0]?.bind hex, args[1]?.bind hex with
  | some size, some crc =>
      if args[2]?.isSome ∨ size < 256 ∨ size.toNat > limit ∨ size % 4 ≠ 0 then (.errSize, ota)
      else (.ready, { size := size.toNat, expectedCrc := crc, received := 0, active := true })
  | _, _ => (.errArg, ota)

/-- The stack pointer and reset handler at the start of an image of `size` bytes. -/
def legalVectors (size : Nat) (image : List UInt8) : Bool :=
  let sp := ofLe32 image
  let reset := ofLe32 (image.drop 4)
  0x20000000 ≤ sp && sp ≤ 0x20040000 && sp % 8 == 0 && reset &&& 1 != 0 &&
    0x7100 ≤ reset &&& ~~~1 && reset &&& ~~~1 < 0x7000 + size.toUInt32

/-- What a request line leads to; the board reboots when `reboot` is set. -/
structure Outcome (S : Type) where
  reply : Reply
  reboot : Bool := false
  ota : Ota
  storage : S

section Handle

variable {S : Type} [Storage S]

/-- Only identical already accepted chunks may be retried after a lost reply. -/
def Ota.retry (ota : Ota) (offset : Nat) (bytes : List UInt8) (storage : S) : Outcome S :=
  if offset + bytes.length ≤ ota.received then
    match Storage.read storage offset bytes.length with
    | (some old, storage) => { reply := if old = bytes then .ok else .errOffset, ota, storage }
    | (none, storage) => { reply := .errOffset, ota, storage }
  else { reply := .errOffset, ota, storage }

def Ota.store (ota : Ota) (offset : Nat) (bytes : List UInt8) (storage : S) : Outcome S :=
  if offset + bytes.length ≥ 2 ^ 32 ∨ offset + bytes.length > ota.size then
    { reply := .errOffset, ota, storage }
  else if offset < ota.received then ota.retry offset bytes storage
  else if offset ≠ ota.received then { reply := .errOffset, ota, storage }
  else if offset = 0 ∧ (bytes.length < 8 ∨ legalVectors ota.size bytes = false) then
    { reply := .errVector, ota, storage }
  else
    match Storage.write storage offset bytes with
    | (false, storage) => { reply := .errWrite, ota := ota.abort, storage }
    | (true, storage) =>
        { reply := .ok, ota := { ota with received := ota.received + bytes.length }, storage }

/-- `DATA offset payload` -/
def Ota.data (ota : Ota) (args : List (List UInt8)) (storage : S) : Outcome S :=
  if ota.active = false then { reply := .errNoImage, ota, storage }
  else
    match args[0]?.bind hex, args[1]? with
    | some offset, some payload =>
        if args[2]?.isSome ∨ payload.isEmpty ∨ payload.length > 128 ∨ payload.length % 8 ≠ 0 then
          { reply := .errArg, ota, storage }
        else
          match hexBytes payload with
          | none => { reply := .errArg, ota, storage }
          | some bytes => ota.store offset.toNat bytes storage
    | _, _ => { reply := .errArg, ota, storage }

/-- Read the image back in blocks of 64 bytes; `none` is a read that failed. -/
def readBack (size : Nat) : (blocks offset : Nat) → UInt32 → S → Option UInt32 × S
  | 0, _, crc, storage => (some crc, storage)
  | blocks + 1, offset, crc, storage =>
      match Storage.read storage offset (min (size - offset) 64) with
      | (none, storage) => (none, storage)
      | (some bytes, storage) => readBack size blocks (offset + 64) (crcUpdate crc bytes) storage

def Ota.commit (ota : Ota) (storage : S) : Outcome S :=
  if ota.active = false ∨ ota.received ≠ ota.size then { reply := .errIncomplete, ota, storage }
  else
    match readBack ota.size ((ota.size + 63) / 64) 0 0xFFFFFFFF storage with
    | (none, storage) => { reply := .errRead, ota := ota.abort, storage }
    | (some crc, storage) =>
        if ~~~crc ≠ ota.expectedCrc then { reply := .errCrc, ota := ota.abort, storage }
        else
          match Storage.commit storage with
          | (false, storage) => { reply := .errMark, ota := ota.abort, storage }
          | (true, storage) =>
              { reply := .reboot, reboot := true, ota := { ota with active := false }, storage }

/-- The commands behind the `OTA` token. -/
def Ota.command (ota : Ota) (tokens : List (List UInt8)) (storage : S) : Outcome S :=
  match tokens with
  | [] => { reply := .errArg, ota, storage }
  | name :: args =>
      if name = ascii "CAP" ∧ args = [] then { reply := .cap, ota, storage }
      else if name = ascii "BEGIN" then
        { reply := (ota.begin args).1, ota := (ota.begin args).2, storage }
      else if name = ascii "DATA" then ota.data args storage
      else if name = ascii "COMMIT" ∧ args = [] then ota.commit storage
      else if name = ascii "ABORT" ∧ args = [] then
        { reply := .aborted, ota := ota.abort, storage }
      else { reply := .errArg, ota, storage }

/-- One request line. -/
def Ota.handle (ota : Ota) (line : List UInt8) (storage : S) : Outcome S :=
  match line.splitOn 0x20 with
  | [] => { reply := .errCmd, ota, storage }
  | first :: tokens =>
      if first ≠ ascii "OTA" then { reply := .errCmd, ota, storage }
      else ota.command tokens storage

end Handle

/-! ## The register of the source is the CRC-32 register -/

theorem low_bit (crc : UInt32) :
    (crc &&& 1).toBitVec = (BitVec.ofBool (crc.toBitVec.getLsbD 0)).setWidth 32 := by
  rw [UInt32.toBitVec_and]
  exact BitVec.and_one_eq_setWidth_ofBool_getLsbD

theorem crcShift_toBitVec (crc : UInt32) :
    (crcShift crc).toBitVec = Lib.Crc.shift 0xEDB88320#32 crc.toBitVec := by
  have mask : (0 - (crc &&& 1)).toBitVec =
      if crc.toBitVec.getLsbD 0 then BitVec.allOnes 32 else 0#32 := by
    rw [UInt32.toBitVec_sub, low_bit]
    cases crc.toBitVec.getLsbD 0 <;> decide
  rw [crcShift, UInt32.toBitVec_xor, UInt32.toBitVec_and, mask]
  unfold Lib.Crc.shift
  cases crc.toBitVec.getLsbD 0
  · simp
  · simp

theorem crcShift_iterate_toBitVec (crc : UInt32) (n : Nat) :
    (crcShift^[n] crc).toBitVec = (Lib.Crc.shift 0xEDB88320#32)^[n] crc.toBitVec := by
  induction n generalizing crc with
  | zero => rfl
  | succ n ih =>
      rw [Function.iterate_succ_apply, Function.iterate_succ_apply, ih, crcShift_toBitVec]

theorem crcUpdate_toBitVec (crc : UInt32) (bytes : List UInt8) :
    (crcUpdate crc bytes).toBitVec =
      Lib.Crc.register 0xEDB88320#32 crc.toBitVec (bytes.map UInt8.toBitVec) := by
  rw [Lib.Crc.register_eq_foldl _ _ _ (by decide)]
  induction bytes generalizing crc with
  | nil => rfl
  | cons byte rest ih =>
      change (crcUpdate (crcShift^[8] (crc ^^^ byte.toUInt32)) rest).toBitVec = _
      rw [ih, crcShift_iterate_toBitVec, UInt32.toBitVec_xor]
      rfl

theorem crcUpdate_append (crc : UInt32) (first second : List UInt8) :
    crcUpdate crc (first ++ second) = crcUpdate (crcUpdate crc first) second :=
  List.foldl_append

/-- The inverted register of the source is the CRC-32. -/
theorem not_crcUpdate (image : List UInt8) : ~~~crcUpdate 0xFFFFFFFF image = crc32 image := by
  rw [crc32, ← UInt32.toBitVec_inj, UInt32.toBitVec_not, UInt32.toBitVec_not, crcUpdate_toBitVec]
  rfl

example : crc32 (ascii "123456789") = 0xCBF43926 := by
  rw [← not_crcUpdate]
  decide +kernel

/-! ## What a request line can do -/

/-- The size and CRC that a `BEGIN` line announces. -/
def announced (line : List UInt8) : Option (UInt32 × UInt32) :=
  match line.splitOn 0x20 with
  | [first, name, size, crc] =>
      if first = ascii "OTA" ∧ name = ascii "BEGIN" then
        (hex size).bind fun size => (hex crc).map fun crc => (size, crc)
      else none
  | _ => none

/-- The offset and whole bytes that a `DATA` line carries. -/
def chunk (line : List UInt8) : Option (Nat × List UInt8) :=
  match line.splitOn 0x20 with
  | [first, name, offset, payload] =>
      if first = ascii "OTA" ∧ name = ascii "DATA" ∧ payload.length % 2 = 0 then
        (hex offset).bind fun offset => (hexBytes payload).map fun bytes => (offset.toNat, bytes)
      else none
  | _ => none

/-- Replies after which nothing has changed. -/
def Reply.refuses : Reply → Bool
  | .errCmd | .cap | .errArg | .errSize | .errNoImage | .errOffset | .errVector
  | .errIncomplete => true
  | _ => false

/-- Replies that end an update. -/
def Reply.ends : Reply → Bool
  | .errWrite | .errRead | .errCrc | .errMark | .aborted => true
  | _ => false

/-- A chunk that `Ota.store` writes. -/
structure Ota.Accepts (ota : Ota) (bytes : List UInt8) : Prop where
  active : ota.active = true
  fits : ota.received + bytes.length ≤ ota.size
  positive : 0 < bytes.length
  short : bytes.length ≤ 64
  whole : bytes.length % 4 = 0
  vectors : ota.received = 0 → 8 ≤ bytes.length ∧ legalVectors ota.size bytes = true

variable {S : Type} [Storage S]

/-- Everything a request line can do to a session and its storage. -/
inductive Ota.Handled (ota : Ota) (line : List UInt8) (storage : S) : Outcome S → Prop where
  | refused (reply : Reply) (refuses : reply.refuses = true) :
      Handled ota line storage { reply, ota, storage }
  | began (size crc : UInt32) (args : announced line = some (size, crc))
      (large : 256 ≤ size.toNat) (small : size.toNat ≤ limit) (whole : size.toNat % 4 = 0) :
      Handled ota line storage {
        reply := .ready
        ota := { size := size.toNat, expectedCrc := crc, received := 0, active := true }
        storage }
  | retried (offset : Nat) (bytes : List UInt8) (args : chunk line = some (offset, bytes))
      (active : ota.active = true) (inside : offset + bytes.length ≤ ota.received) :
      Handled ota line storage {
        reply := if (Storage.read storage offset bytes.length).1 = some bytes then .ok
          else .errOffset
        ota
        storage := (Storage.read storage offset bytes.length).2 }
  | stored (bytes : List UInt8) (args : chunk line = some (ota.received, bytes))
      (accepts : ota.Accepts bytes)
      (written : (Storage.write storage ota.received bytes).1 = true) :
      Handled ota line storage {
        reply := .ok
        ota := { ota with received := ota.received + bytes.length }
        storage := (Storage.write storage ota.received bytes).2 }
  | writeFailed (bytes : List UInt8) (args : chunk line = some (ota.received, bytes))
      (accepts : ota.Accepts bytes)
      (failed : (Storage.write storage ota.received bytes).1 = false) :
      Handled ota line storage {
        reply := .errWrite
        ota := ota.abort
        storage := (Storage.write storage ota.received bytes).2 }
  | committed (active : ota.active = true) (complete : ota.received = ota.size) :
      Handled ota line storage (ota.commit storage)
  | aborted : Handled ota line storage { reply := .aborted, ota := ota.abort, storage }

section Cases

variable {line : List UInt8} {storage : S}

theorem Ota.begin_cases (ota : Ota) {args : List (List UInt8)}
    (tokens : line.splitOn 0x20 = ascii "OTA" :: ascii "BEGIN" :: args) :
    Ota.Handled ota line storage
      { reply := (ota.begin args).1, ota := (ota.begin args).2, storage } := by
  rw [Ota.begin]
  split
  next size crc sizeArg crcArg =>
    split
    next bad => exact .refused .errSize rfl
    next good =>
      simp only [not_or, UInt32.not_lt, Nat.not_lt, gt_iff_lt, ne_eq, Decidable.not_not,
        Bool.not_eq_true, Option.isSome_eq_false_iff, Option.isNone_iff_eq_none] at good
      obtain ⟨last, large, small, whole⟩ := good
      match args, sizeArg, crcArg, last with
      | [a, b], sizeArg, crcArg, _ =>
          refine .began size crc ?_ (UInt32.le_iff_toNat_le.mp large) small ?_
          · simp only [announced, tokens, and_self, if_true]
            simp only [List.getElem?_cons_zero, List.getElem?_cons_succ, Option.bind_some]
              at sizeArg crcArg
            simp [sizeArg, crcArg]
          · simpa using congrArg UInt32.toNat whole
  · exact .refused .errArg rfl

theorem Ota.store_cases (ota : Ota) {offset : Nat} {bytes : List UInt8}
    (args : chunk line = some (offset, bytes)) (active : ota.active = true)
    (positive : 0 < bytes.length) (short : bytes.length ≤ 64) (whole : bytes.length % 4 = 0) :
    Ota.Handled ota line storage (ota.store offset bytes storage) := by
  rw [Ota.store]
  split
  · exact .refused .errOffset rfl
  next fits =>
    split
    next old =>
      rw [Ota.retry]
      split
      next inside =>
        have step : ota.Handled line storage _ := .retried offset bytes args active inside
        cases read : Storage.read storage offset bytes.length with
        | mk found after =>
            rw [read] at step
            cases found with
            | none => exact step
            | some found => simpa using step
      · exact .refused .errOffset rfl
    next new =>
      split
      · exact .refused .errOffset rfl
      next same =>
        obtain rfl : offset = ota.received := by omega
        split
        · exact .refused .errVector rfl
        next legal =>
          have accepts : ota.Accepts bytes := {
            active, positive, short, whole
            fits := by omega
            vectors := fun start => by
              simp only [start, true_and, not_or, Nat.not_lt, Bool.not_eq_false] at legal
              exact legal }
          cases write : Storage.write storage ota.received bytes with
          | mk written after =>
              cases written with
              | false =>
                  have step : ota.Handled line storage _ :=
                    .writeFailed bytes args accepts (by rw [write])
                  rw [write] at step
                  exact step
              | true =>
                  have step : ota.Handled line storage _ :=
                    .stored bytes args accepts (by rw [write])
                  rw [write] at step
                  exact step

theorem hexBytes_length {payload bytes : List UInt8} (count : Nat)
    (whole : payload.length = 2 * count) (decoded : hexBytes payload = some bytes) :
    bytes.length = count := by
  induction count generalizing payload bytes with
  | zero =>
      obtain rfl := List.eq_nil_of_length_eq_zero whole
      cases decoded
      rfl
  | succ count ih =>
      match payload, whole with
      | high :: low :: rest, whole =>
          rw [hexBytes] at decoded
          cases value : hex [high, low] with
          | none => simp [value] at decoded
          | some value =>
              cases tail : hexBytes rest with
              | none => simp [tail] at decoded
              | some tailBytes =>
                  simp only [*, bind, Option.bind, pure, Option.some.injEq] at decoded
                  subst decoded
                  rw [List.length_cons, ih _ tail]
                  simp only [List.length_cons] at whole
                  omega

theorem Ota.data_cases (ota : Ota) {args : List (List UInt8)}
    (tokens : line.splitOn 0x20 = ascii "OTA" :: ascii "DATA" :: args) :
    Ota.Handled ota line storage (ota.data args storage) := by
  rw [Ota.data]
  split
  · exact .refused .errNoImage rfl
  next active =>
    split
    next offset payload offsetArg payloadArg =>
      split
      · exact .refused .errArg rfl
      next good =>
        simp only [not_or, Nat.not_lt, gt_iff_lt, ne_eq, Decidable.not_not, Bool.not_eq_true,
          Option.isSome_eq_false_iff, Option.isNone_iff_eq_none, List.isEmpty_eq_false_iff] at good
        obtain ⟨last, nonempty, short, whole⟩ := good
        split
        · exact .refused .errArg rfl
        next bytes decoded =>
          have positive := List.length_pos_iff.mpr nonempty
          have length := hexBytes_length (payload.length / 2) (by omega) decoded
          match args, offsetArg, payloadArg, last with
          | [a, b], offsetArg, payloadArg, _ =>
              refine ota.store_cases ?_ (by simpa using active) (by omega) (by omega) (by omega)
              simp only [List.getElem?_cons_zero, List.getElem?_cons_succ, Option.bind_some,
                Option.some.injEq] at offsetArg payloadArg
              subst payloadArg
              have even : b.length % 2 = 0 := by omega
              simp [chunk, tokens, even, offsetArg, decoded]
    · exact .refused .errArg rfl

theorem Ota.commit_cases (ota : Ota) :
    Ota.Handled ota line storage (ota.commit storage) := by
  by_cases ready : ota.active = false ∨ ota.received ≠ ota.size
  · rw [Ota.commit, if_pos ready]
    exact .refused .errIncomplete rfl
  · simp only [not_or, Bool.not_eq_false, ne_eq, Decidable.not_not] at ready
    exact .committed ready.1 ready.2

/-- `handle` takes one of the listed steps, whatever the line and the storage. -/
theorem Ota.handle_cases (ota : Ota) (line : List UInt8) (storage : S) :
    Ota.Handled ota line storage (ota.handle line storage) := by
  rw [Ota.handle]
  split
  · exact .refused .errCmd rfl
  next first tokens split =>
    split
    · exact .refused .errCmd rfl
    next isOta =>
      simp only [ne_eq, Decidable.not_not] at isOta
      subst isOta
      match tokens, split with
      | [], _ => exact .refused .errArg rfl
      | name :: args, split =>
          rw [Ota.command]
          by_cases cap : name = ascii "CAP" ∧ args = []
          · rw [if_pos cap]
            exact .refused .cap rfl
          by_cases isBegin : name = ascii "BEGIN"
          · rw [if_neg cap, if_pos isBegin]
            exact ota.begin_cases (isBegin ▸ split)
          by_cases isData : name = ascii "DATA"
          · rw [if_neg cap, if_neg isBegin, if_pos isData]
            exact ota.data_cases (isData ▸ split)
          rw [if_neg cap, if_neg isBegin, if_neg isData]
          by_cases isCommit : name = ascii "COMMIT" ∧ args = []
          · rw [if_pos isCommit]
            exact ota.commit_cases
          rw [if_neg isCommit]
          split
          · exact .aborted
          · exact .refused .errArg rfl

/-- How a commit line ends that is not refused: the image could not be read back, its CRC is not the
announced one, or the storage has been asked to mark it. -/
inductive Ota.Commits (ota : Ota) (storage : S) : Outcome S → Prop where
  | unread (after : S)
      (read : readBack ota.size ((ota.size + 63) / 64) 0 0xFFFFFFFF storage = (none, after)) :
      Commits ota storage { reply := .errRead, ota := ota.abort, storage := after }
  | differs (crc : UInt32) (after : S)
      (read : readBack ota.size ((ota.size + 63) / 64) 0 0xFFFFFFFF storage = (some crc, after))
      (wrong : ~~~crc ≠ ota.expectedCrc) :
      Commits ota storage { reply := .errCrc, ota := ota.abort, storage := after }
  | unmarked (crc : UInt32) (before : S)
      (read : readBack ota.size ((ota.size + 63) / 64) 0 0xFFFFFFFF storage = (some crc, before))
      (right : ~~~crc = ota.expectedCrc) (failed : (Storage.commit before).1 = false) :
      Commits ota storage {
        reply := .errMark, ota := ota.abort, storage := (Storage.commit before).2 }
  | marked (crc : UInt32) (before : S)
      (read : readBack ota.size ((ota.size + 63) / 64) 0 0xFFFFFFFF storage = (some crc, before))
      (right : ~~~crc = ota.expectedCrc) (done : (Storage.commit before).1 = true) :
      Commits ota storage {
        reply := .reboot, reboot := true, ota := { ota with active := false }
        storage := (Storage.commit before).2 }

theorem Ota.commits (ota : Ota) (storage : S) (active : ota.active = true)
    (complete : ota.received = ota.size) : ota.Commits storage (ota.commit storage) := by
  rw [Ota.commit, if_neg (by simp [active, complete])]
  split
  next after read => exact .unread after read
  next crc before read =>
    split
    next wrong => exact .differs crc before read wrong
    next right =>
      have right := Decidable.not_not.mp right
      split
      next after failed =>
        obtain rfl : (Storage.commit before).2 = after := congrArg Prod.snd failed
        exact .unmarked crc before read right (congrArg Prod.fst failed)
      next after done =>
        obtain rfl : (Storage.commit before).2 = after := congrArg Prod.snd done
        exact .marked crc before read right (congrArg Prod.fst done)

/-- A commit line ends the session unless it is refused. -/
theorem Ota.commit_inactive (ota : Ota) (active : ota.active = true)
    (complete : ota.received = ota.size) : (ota.commit storage).ota.active = false := by
  have commits := ota.commits storage active complete
  generalize ota.commit storage = outcome at commits
  cases commits with
  | unread | differs | unmarked | marked => rfl

theorem chunk_eq_some {offset : Nat} {bytes : List UInt8}
    (args : chunk line = some (offset, bytes)) :
    ∃ start payload, line.splitOn 0x20 = [ascii "OTA", ascii "DATA", start, payload] ∧
      (hex start).map UInt32.toNat = some offset ∧ payload.length = 2 * bytes.length ∧
      hexBytes payload = some bytes := by
  unfold chunk at args
  split at args
  next first name start payload split =>
    split at args
    next named =>
      obtain ⟨rfl, rfl, even⟩ := named
      cases value : hex start with
      | none => simp [value] at args
      | some value' =>
          cases decoded : hexBytes payload with
          | none => simp [value, decoded] at args
          | some found =>
              simp only [value, decoded, Option.bind_some, Option.map_some, Option.some.injEq,
                Prod.mk.injEq] at args
              obtain ⟨rfl, rfl⟩ := args
              refine ⟨start, payload, split, by simp [value], ?_, decoded⟩
              have length := hexBytes_length (payload.length / 2) (by omega) decoded
              omega
    · cases args
  · cases args

theorem Ota.handle_begin (ota : Ota) {args : List (List UInt8)}
    (tokens : line.splitOn 0x20 = ascii "OTA" :: ascii "BEGIN" :: args) :
    ota.handle line storage =
      { reply := (ota.begin args).1, ota := (ota.begin args).2, storage } := by
  rw [Ota.handle, tokens]
  change (if ascii "OTA" ≠ ascii "OTA" then _ else
    ota.command (ascii "BEGIN" :: args) storage) = _
  rw [if_neg (by simp), Ota.command, if_neg (fun cap => absurd cap.1 (by decide)), if_pos rfl]

theorem Ota.handle_data (ota : Ota) {args : List (List UInt8)}
    (tokens : line.splitOn 0x20 = ascii "OTA" :: ascii "DATA" :: args) :
    ota.handle line storage = ota.data args storage := by
  rw [Ota.handle, tokens]
  change (if ascii "OTA" ≠ ascii "OTA" then _ else
    ota.command (ascii "DATA" :: args) storage) = _
  rw [if_neg (by simp), Ota.command, if_neg (fun cap => absurd cap.1 (by decide)),
    if_neg (by decide), if_pos rfl]

theorem Ota.handle_commit (ota : Ota) (tokens : line.splitOn 0x20 = [ascii "OTA", ascii "COMMIT"]) :
    ota.handle line storage = ota.commit storage := by
  rw [Ota.handle, tokens]
  change (if ascii "OTA" ≠ ascii "OTA" then _ else ota.command [ascii "COMMIT"] storage) = _
  rw [if_neg (by simp), Ota.command, if_neg (fun cap => absurd cap.1 (by decide)),
    if_neg (by decide), if_neg (by decide), if_pos ⟨rfl, rfl⟩]

theorem announced_eq_some {size crc : UInt32} (args : announced line = some (size, crc)) :
    ∃ sizeArg crcArg, line.splitOn 0x20 = [ascii "OTA", ascii "BEGIN", sizeArg, crcArg] ∧
      hex sizeArg = some size ∧ hex crcArg = some crc := by
  unfold announced at args
  split at args
  next first name sizeArg crcArg split =>
    split at args
    next named =>
      obtain ⟨rfl, rfl⟩ := named
      cases sizeValue : hex sizeArg with
      | none => simp [sizeValue] at args
      | some size' =>
          cases crcValue : hex crcArg with
          | none => simp [sizeValue, crcValue] at args
          | some crc' =>
              simp only [sizeValue, crcValue, Option.bind_some, Option.map_some, Option.some.injEq,
                Prod.mk.injEq] at args
              obtain ⟨rfl, rfl⟩ := args
              exact ⟨sizeArg, crcArg, split, sizeValue, crcValue⟩
    · cases args
  · cases args

/-- A `BEGIN` line with a legal size starts an update. -/
theorem Ota.handle_begins (ota : Ota) {size crc : UInt32}
    (args : announced line = some (size, crc)) (large : 256 ≤ size.toNat)
    (small : size.toNat ≤ limit) (whole : size.toNat % 4 = 0) :
    ota.handle line storage = {
      reply := .ready
      ota := { size := size.toNat, expectedCrc := crc, received := 0, active := true }
      storage } := by
  obtain ⟨sizeArg, crcArg, tokens, sizeValue, crcValue⟩ := announced_eq_some args
  have good : ¬(([] : List (List UInt8))[0]?.isSome ∨ size < 256 ∨
      size.toNat > limit ∨ size % 4 ≠ 0) := by
    rintro (extra | few | big | odd)
    · cases extra
    · exact absurd (UInt32.lt_iff_toNat_lt.mp few) (Nat.not_lt.mpr large)
    · omega
    · refine odd (UInt32.toNat_inj.mp ?_)
      rw [UInt32.toNat_mod]
      exact whole
  rw [ota.handle_begin tokens, Ota.begin]
  simp only [List.getElem?_cons_zero, List.getElem?_cons_succ, Option.bind_some, sizeValue,
    crcValue]
  rw [if_neg good]

/-- A line that carries a chunk of legal length is answered by `store`. -/
theorem Ota.handle_chunk (ota : Ota) {offset : Nat} {bytes : List UInt8}
    (args : chunk line = some (offset, bytes)) (active : ota.active = true)
    (positive : 0 < bytes.length) (short : bytes.length ≤ 64) (whole : bytes.length % 4 = 0) :
    ota.handle line storage = ota.store offset bytes storage := by
  obtain ⟨start, payload, tokens, offset, length, decoded⟩ := chunk_eq_some args
  cases value : hex start with
  | none => simp [value] at offset
  | some value' =>
      simp only [value, Option.map_some, Option.some.injEq] at offset
      have nonempty : payload.isEmpty = false := by
        rw [List.isEmpty_eq_false_iff, ← List.length_pos_iff]
        omega
      rw [ota.handle_data tokens, Ota.data]
      simp only [active, List.getElem?_cons_zero, List.getElem?_cons_succ, Option.bind_some,
        value, List.getElem?_nil, nonempty, decoded, offset]
      rw [if_neg (by simp), if_neg (by simp; omega)]

/-- A chunk that is already stored is compared with what is read back. -/
theorem Ota.handle_retries (ota : Ota) {offset : Nat} {bytes : List UInt8}
    (small : ota.size ≤ limit) (args : chunk line = some (offset, bytes))
    (active : ota.active = true) (positive : 0 < bytes.length) (short : bytes.length ≤ 64)
    (whole : bytes.length % 4 = 0) (old : offset + bytes.length ≤ ota.received)
    (inside : ota.received ≤ ota.size)
    (same : (Storage.read storage offset bytes.length).1 = some bytes) :
    ota.handle line storage = {
      reply := .ok, ota, storage := (Storage.read storage offset bytes.length).2 } := by
  change ota.size ≤ 480 * 1024 at small
  rw [ota.handle_chunk args active positive short whole, Ota.store, if_neg (by omega),
    if_pos (by omega), Ota.retry, if_pos old]
  cases result : Storage.read storage offset bytes.length with
  | mk found after =>
      rw [result] at same
      subst same
      simp

/-- A new chunk that the session accepts is written. -/
theorem Ota.handle_stores (ota : Ota) {bytes : List UInt8} (small : ota.size ≤ limit)
    (args : chunk line = some (ota.received, bytes)) (accepts : ota.Accepts bytes)
    (written : (Storage.write storage ota.received bytes).1 = true) :
    ota.handle line storage = {
      reply := .ok
      ota := { ota with received := ota.received + bytes.length }
      storage := (Storage.write storage ota.received bytes).2 } := by
  obtain ⟨active, fits, positive, short, whole, vectors⟩ := accepts
  change ota.size ≤ 480 * 1024 at small
  have legal : ¬(ota.received = 0 ∧
      (bytes.length < 8 ∨ legalVectors ota.size bytes = false)) := by
    rintro ⟨start, short | illegal⟩
    · exact absurd (vectors start).1 (by omega)
    · rw [(vectors start).2] at illegal
      cases illegal
  rw [ota.handle_chunk args active positive short whole, Ota.store, if_neg (by omega),
    if_neg (by omega), if_neg (by simp), if_neg legal]
  cases result : Storage.write storage ota.received bytes with
  | mk done after =>
      rw [result] at written
      subst written
      rfl

end Cases

end NrfUnifying.UartOta
