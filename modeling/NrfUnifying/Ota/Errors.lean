import NrfUnifying.Ota.AppendOnly

/-!
# Every error of a request line is clean

The handler once more, with every subtraction, addition and index of the source
checked: `Panic` is where the program would stop. In a reachable session no
check fails, and an error either leaves the session as it was or ends it.
-/

namespace NrfUnifying.UartOta

open Lib.Bytes

/-! ## Checked operations -/

/-- Why the program would stop. -/
inductive Panic where
  | overflow
  | bounds
  deriving DecidableEq, Repr

abbrev Checked := Except Panic

namespace Checked

/-- Addition of 32-bit numbers. -/
def add (first second : Nat) : Checked Nat :=
  if first + second < 2 ^ 32 then .ok (first + second) else .error .overflow

def sub (first second : Nat) : Checked Nat :=
  if second ≤ first then .ok (first - second) else .error .overflow

/-- Addition of bytes. -/
def add8 (first second : UInt8) : Checked UInt8 :=
  if first.toNat + second.toNat < 2 ^ 8 then .ok (first + second) else .error .overflow

def sub8 (first second : UInt8) : Checked UInt8 :=
  if second ≤ first then .ok (first - second) else .error .overflow

/-- `&buffer[start..stop]` -/
def slice (buffer : Vector UInt8 64) (start stop : Nat) : Checked (List UInt8) :=
  if start ≤ stop ∧ stop ≤ 64 then .ok ((buffer.toList.take stop).drop start) else .error .bounds

/-- `buffer[i] = value` -/
def set (buffer : Vector UInt8 64) (i : Nat) (value : UInt8) : Checked (Vector UInt8 64) :=
  if inside : i < 64 then .ok (buffer.set i value) else .error .bounds

theorem add_eq {first second : Nat} (small : first + second < 2 ^ 32) :
    add first second = .ok (first + second) := if_pos small

theorem sub_eq {first second : Nat} (inside : second ≤ first) :
    sub first second = .ok (first - second) := if_pos inside

theorem slice_eq (buffer : Vector UInt8 64) {start stop : Nat} (order : start ≤ stop)
    (inside : stop ≤ 64) : slice buffer start stop = .ok ((buffer.toList.take stop).drop start) :=
  if_pos ⟨order, inside⟩

theorem set_eq (buffer : Vector UInt8 64) {i : Nat} (value : UInt8) (inside : i < 64) :
    set buffer i value = .ok (buffer.set i value) := dif_pos inside

end Checked

/-! ## The handler with its checks -/

def checkedDigit (byte : UInt8) : Checked (Option UInt32) :=
  if 0x30 ≤ byte ∧ byte ≤ 0x39 then
    return some (← Checked.sub8 byte 0x30).toUInt32
  else if 0x41 ≤ byte ∧ byte ≤ 0x46 then
    return some (← Checked.add8 (← Checked.sub8 byte 0x41) 10).toUInt32
  else if 0x61 ≤ byte ∧ byte ≤ 0x66 then
    return some (← Checked.add8 (← Checked.sub8 byte 0x61) 10).toUInt32
  else return none

def checkedDigits (value : UInt32) : List UInt8 → Checked (Option UInt32)
  | [] => return some value
  | byte :: rest => do
      match ← checkedDigit byte with
      | none => return none
      | some digit => checkedDigits ((value <<< 4) ||| digit) rest

def checkedHex (token : List UInt8) : Checked (Option UInt32) :=
  if token.isEmpty ∨ token.length > 8 then return none else checkedDigits 0 token

/-- Decode a payload into the buffer, two digits for each byte. -/
def checkedBytes (i : Nat) (buffer : Vector UInt8 64) :
    List UInt8 → Checked (Option (Vector UInt8 64))
  | [] => return some buffer
  | [digit] => do
      match ← checkedHex [digit] with
      | none => return none
      | some value => return some (← Checked.set buffer i value.toUInt8)
  | high :: low :: rest => do
      match ← checkedHex [high, low] with
      | none => return none
      | some value => checkedBytes (i + 1) (← Checked.set buffer i value.toUInt8) rest

def Ota.checkedBegin (ota : Ota) (args : List (List UInt8)) : Checked (Reply × Ota) := do
  match ← args[0]?.mapM checkedHex, ← args[1]?.mapM checkedHex with
  | some (some size), some (some crc) =>
      if args[2]?.isSome ∨ size < 256 ∨ size.toNat > limit ∨ size % 4 ≠ 0 then
        return (.errSize, ota)
      else
        return (.ready, { size := size.toNat, expectedCrc := crc, received := 0, active := true })
  | _, _ => return (.errArg, ota)

def checkedVectors (size : Nat) (buffer : Vector UInt8 64) : Checked Bool := do
  let sp := ofLe32 (← Checked.slice buffer 0 4)
  let reset := ofLe32 (← Checked.slice buffer 4 8)
  let top ← Checked.add 0x7000 size
  return 0x20000000 ≤ sp && sp ≤ 0x20040000 && sp % 8 == 0 && reset &&& 1 != 0 &&
    0x7100 ≤ reset &&& ~~~1 && (reset &&& ~~~1).toNat < top

section Checks

variable {S : Type} [Storage S]

def Ota.checkedRetry (ota : Ota) (offset n : Nat) (buffer : Vector UInt8 64) (storage : S) :
    Checked (Outcome S) := do
  if (← Checked.add offset n) ≤ ota.received then
    let old ← Checked.slice (.replicate 64 0) 0 n
    match Storage.read storage offset old.length with
    | (some old, storage) =>
        return {
          reply := if old = (← Checked.slice buffer 0 n) then .ok else .errOffset
          ota, storage }
    | (none, storage) => return { reply := .errOffset, ota, storage }
  else return { reply := .errOffset, ota, storage }

def Ota.checkedWrite (ota : Ota) (offset n : Nat) (buffer : Vector UInt8 64) (storage : S) :
    Checked (Outcome S) := do
  match Storage.write storage offset (← Checked.slice buffer 0 n) with
  | (false, storage) => return { reply := .errWrite, ota := ota.abort, storage }
  | (true, storage) =>
      return {
        reply := .ok, ota := { ota with received := ← Checked.add ota.received n }, storage }

def Ota.checkedStore (ota : Ota) (offset n : Nat) (buffer : Vector UInt8 64) (storage : S) :
    Checked (Outcome S) := do
  if offset + n ≥ 2 ^ 32 ∨ offset + n > ota.size then
    return { reply := .errOffset, ota, storage }
  else if offset < ota.received then ota.checkedRetry offset n buffer storage
  else if offset ≠ ota.received then return { reply := .errOffset, ota, storage }
  else if offset = 0 then
    if n < 8 then return { reply := .errVector, ota, storage }
    else if ← checkedVectors ota.size buffer then ota.checkedWrite offset n buffer storage
    else return { reply := .errVector, ota, storage }
  else ota.checkedWrite offset n buffer storage

def Ota.checkedData (ota : Ota) (args : List (List UInt8)) (storage : S) :
    Checked (Outcome S) := do
  if ota.active = false then return { reply := .errNoImage, ota, storage }
  else
    match ← args[0]?.mapM checkedHex, args[1]? with
    | some (some offset), some payload =>
        if args[2]?.isSome ∨ payload.isEmpty ∨ payload.length > 128 ∨ payload.length % 8 ≠ 0 then
          return { reply := .errArg, ota, storage }
        else
          match ← checkedBytes 0 (.replicate 64 0) payload with
          | none => return { reply := .errArg, ota, storage }
          | some buffer => ota.checkedStore offset.toNat (payload.length / 2) buffer storage
    | _, _ => return { reply := .errArg, ota, storage }

def checkedReadBack (size : Nat) :
    (blocks offset : Nat) → UInt32 → S → Checked (Option UInt32 × S)
  | 0, _, crc, storage => return (some crc, storage)
  | blocks + 1, offset, crc, storage => do
      let n := min (← Checked.sub size offset) 64
      let buffer ← Checked.slice (.replicate 64 0) 0 n
      match Storage.read storage offset buffer.length with
      | (none, storage) => return (none, storage)
      | (some bytes, storage) =>
          checkedReadBack size blocks (offset + 64) (crcUpdate crc bytes) storage

def Ota.checkedCommit (ota : Ota) (storage : S) : Checked (Outcome S) := do
  if ota.active = false ∨ ota.received ≠ ota.size then
    return { reply := .errIncomplete, ota, storage }
  else
    match ← checkedReadBack ota.size ((ota.size + 63) / 64) 0 0xFFFFFFFF storage with
    | (none, storage) => return { reply := .errRead, ota := ota.abort, storage }
    | (some crc, storage) =>
        if ~~~crc ≠ ota.expectedCrc then return { reply := .errCrc, ota := ota.abort, storage }
        else
          match Storage.commit storage with
          | (false, storage) => return { reply := .errMark, ota := ota.abort, storage }
          | (true, storage) =>
              return {
                reply := .reboot, reboot := true, ota := { ota with active := false }, storage }

def Ota.checkedCommand (ota : Ota) (tokens : List (List UInt8)) (storage : S) :
    Checked (Outcome S) := do
  match tokens with
  | [] => return { reply := .errArg, ota, storage }
  | name :: args =>
      if name = ascii "CAP" ∧ args = [] then return { reply := .cap, ota, storage }
      else if name = ascii "BEGIN" then
        let (reply, ota) ← ota.checkedBegin args
        return { reply, ota, storage }
      else if name = ascii "DATA" then ota.checkedData args storage
      else if name = ascii "COMMIT" ∧ args = [] then ota.checkedCommit storage
      else if name = ascii "ABORT" ∧ args = [] then
        return { reply := .aborted, ota := ota.abort, storage }
      else return { reply := .errArg, ota, storage }

/-- One request line, or where handling it would stop. -/
def Ota.checkedHandle (ota : Ota) (line : List UInt8) (storage : S) : Checked (Outcome S) := do
  match line.splitOn 0x20 with
  | [] => return { reply := .errCmd, ota, storage }
  | first :: tokens =>
      if first ≠ ascii "OTA" then return { reply := .errCmd, ota, storage }
      else ota.checkedCommand tokens storage

end Checks

/-! ## No check fails -/

theorem checkedDigit_eq (byte : UInt8) : checkedDigit byte = .ok (hexDigit byte) := by
  have all : ∀ n < 256, checkedDigit (.ofNat n) = .ok (hexDigit (.ofNat n)) := by decide +kernel
  have here := all byte.toNat byte.toNat_lt
  rwa [UInt8.ofNat_toNat] at here

theorem checkedDigits_eq (value : UInt32) (token : List UInt8) :
    checkedDigits value token = .ok (token.foldlM
      (fun value byte => (hexDigit byte).map fun digit => (value <<< 4) ||| digit) value) := by
  induction token generalizing value with
  | nil => rfl
  | cons byte rest ih =>
      rw [checkedDigits, checkedDigit_eq, List.foldlM_cons]
      cases hexDigit byte with
      | none => rfl
      | some digit => exact ih _

theorem checkedHex_eq (token : List UInt8) : checkedHex token = .ok (hex token) := by
  unfold checkedHex hex
  split
  · rfl
  · exact checkedDigits_eq 0 token

theorem take_set {n : Nat} (buffer : Vector UInt8 n) {i : Nat} (value : UInt8) (inside : i < n) :
    (buffer.set i value).toList.take (i + 1) = buffer.toList.take i ++ [value] := by
  rw [Vector.toList_set, List.take_add_one, List.take_set_of_le (Nat.le_refl i),
    List.getElem?_set_self (by simpa using inside)]
  rfl

/-- Decoding into the buffer is decoding the payload behind what the buffer already holds. -/
theorem checkedBytes_eq {i : Nat} (buffer : Vector UInt8 64) (payload : List UInt8)
    (fits : i + (payload.length + 1) / 2 ≤ 64) :
    hexBytes payload = none ∧ checkedBytes i buffer payload = .ok none ∨
      ∃ bytes after, hexBytes payload = some bytes ∧
        checkedBytes i buffer payload = .ok (some after) ∧
        after.toList.take (i + bytes.length) = buffer.toList.take i ++ bytes := by
  induction payload using hexBytes.induct generalizing i buffer with
  | case1 => exact .inr ⟨[], buffer, rfl, rfl, (List.append_nil _).symm⟩
  | case2 digit =>
      have inside : i < 64 := by simp at fits; omega
      rw [checkedBytes, checkedHex_eq, hexBytes]
      cases hex [digit] with
      | none => exact .inl ⟨rfl, rfl⟩
      | some value =>
          refine .inr ⟨[value.toUInt8], buffer.set i value.toUInt8, rfl, ?_,
            take_set buffer _ inside⟩
          change Checked.set buffer i value.toUInt8 >>= (fun after => .ok (some after)) = _
          rw [Checked.set_eq buffer _ inside]
          rfl
  | case3 high low rest ih =>
      simp only [List.length_cons] at fits
      have inside : i < 64 := by omega
      rw [checkedBytes, checkedHex_eq, hexBytes]
      cases hex [high, low] with
      | none => exact .inl ⟨rfl, rfl⟩
      | some value =>
          have run : (Except.ok (some value) >>= fun found => match found with
              | none => return none
              | some value => do
                  checkedBytes (i + 1) (← Checked.set buffer i value.toUInt8) rest) =
              checkedBytes (i + 1) (buffer.set i value.toUInt8) rest := by
            change Checked.set buffer i value.toUInt8 >>= _ = _
            rw [Checked.set_eq buffer _ inside]
            rfl
          rw [run]
          rcases ih (i := i + 1) (buffer.set i value.toUInt8) (by omega) with
            ⟨missing, result⟩ | ⟨bytes, after, decoded, result, taken⟩
          · exact .inl ⟨by rw [missing]; rfl, result⟩
          · refine .inr ⟨value.toUInt8 :: bytes, after, by rw [decoded]; rfl, result, ?_⟩
            rw [List.length_cons, Nat.add_comm bytes.length, ← Nat.add_assoc, taken,
              take_set buffer _ inside, List.append_assoc]
            rfl

theorem getD_take (bytes : List UInt8) {n i : Nat} (inside : i < n) :
    (bytes.take n).getD i 0 = bytes.getD i 0 := by
  simp [List.getD_eq_getElem?_getD, inside]

theorem getD_drop (bytes : List UInt8) (n i : Nat) :
    (bytes.drop n).getD i 0 = bytes.getD (n + i) 0 := by
  simp [List.getD_eq_getElem?_getD]

theorem checkedVectors_eq {size : Nat} {bytes : List UInt8} (buffer : Vector UInt8 64)
    (small : size ≤ limit) (long : 8 ≤ bytes.length)
    (taken : buffer.toList.take bytes.length = bytes) :
    checkedVectors size buffer = .ok (legalVectors size bytes) := by
  change size ≤ 480 * 1024 at small
  have entry (i : Nat) (inside : i < bytes.length) : bytes.getD i 0 = buffer.toList.getD i 0 := by
    rw [← getD_take buffer.toList inside, taken]
  have sp : ofLe32 (buffer.toList.take 4) = ofLe32 bytes := by
    refine ofLe32_congr fun i inside => ?_
    rw [getD_take _ inside, entry i (by omega)]
  have reset : ofLe32 ((buffer.toList.take 8).drop 4) = ofLe32 (bytes.drop 4) := by
    refine ofLe32_congr fun i inside => ?_
    rw [getD_drop, getD_drop, getD_take _ (by omega), entry (4 + i) (by omega)]
  have top : (0x7000 + size.toUInt32).toNat = 0x7000 + size := by
    simp
    omega
  unfold checkedVectors legalVectors
  rw [Checked.slice_eq buffer (by omega) (by omega), Checked.slice_eq buffer (by omega) (by omega),
    Checked.add_eq (by omega)]
  change Except.ok _ = Except.ok _
  rw [List.drop_zero, sp, reset]
  simp only [UInt32.lt_iff_toNat_lt, top]

section Handle

variable {S : Type} [Storage S] {ota : Ota}

theorem Ota.checkedRetry_eq {bytes : List UInt8} (buffer : Vector UInt8 64) (storage : S)
    (offset : Nat) (small : offset + bytes.length < 2 ^ 32) (short : bytes.length ≤ 64)
    (taken : buffer.toList.take bytes.length = bytes) :
    ota.checkedRetry offset bytes.length buffer storage =
      .ok (ota.retry offset bytes storage) := by
  unfold checkedRetry retry
  rw [Checked.add_eq small, Checked.slice_eq buffer (Nat.zero_le _) short,
    Checked.slice_eq _ (Nat.zero_le _) short, List.drop_zero, List.drop_zero, taken]
  simp only [bind, Except.bind, pure, Except.pure, Vector.toList_replicate, List.length_take,
    List.length_replicate, Nat.min_eq_left short]
  split
  · rcases Storage.read storage offset bytes.length with ⟨_ | old, storage⟩ <;> rfl
  · rfl

theorem Ota.checkedWrite_eq {bytes : List UInt8} (buffer : Vector UInt8 64) (storage : S)
    (offset : Nat) (small : ota.received + bytes.length < 2 ^ 32) (short : bytes.length ≤ 64)
    (taken : buffer.toList.take bytes.length = bytes) :
    ota.checkedWrite offset bytes.length buffer storage = .ok
      (match Storage.write storage offset bytes with
        | (false, storage) => { reply := .errWrite, ota := ota.abort, storage }
        | (true, storage) =>
            { reply := .ok, ota := { ota with received := ota.received + bytes.length }
              storage }) := by
  unfold checkedWrite
  rw [Checked.slice_eq buffer (Nat.zero_le _) short, List.drop_zero, taken]
  simp only [bind, Except.bind, pure, Except.pure, Checked.add_eq small]
  split
  · rfl
  · rfl

theorem Ota.checkedStore_eq (bounded : ota.Bounded) {bytes : List UInt8}
    (buffer : Vector UInt8 64) (storage : S) (offset : Nat) (short : bytes.length ≤ 64)
    (taken : buffer.toList.take bytes.length = bytes) :
    ota.checkedStore offset bytes.length buffer storage =
      .ok (ota.store offset bytes storage) := by
  have small := bounded.small
  have inside := bounded.inside
  change ota.size ≤ 480 * 1024 at small
  unfold checkedStore store
  by_cases outside : offset + bytes.length ≥ 2 ^ 32 ∨ offset + bytes.length > ota.size
  · rw [if_pos outside, if_pos outside]
    rfl
  rw [if_neg outside, if_neg outside]
  by_cases old : offset < ota.received
  · rw [if_pos old, if_pos old]
    exact checkedRetry_eq buffer storage offset (by omega) short taken
  rw [if_neg old, if_neg old]
  by_cases gap : offset ≠ ota.received
  · rw [if_pos gap, if_pos gap]
    rfl
  rw [if_neg gap, if_neg gap, checkedWrite_eq buffer storage offset (by omega) short taken]
  by_cases first : offset = 0
  · rw [if_pos first]
    by_cases few : bytes.length < 8
    · rw [if_pos few, if_pos ⟨first, .inl few⟩]
      rfl
    · rw [if_neg few, checkedVectors_eq buffer bounded.small (by omega) taken]
      cases legal : legalVectors ota.size bytes with
      | true =>
          rw [if_neg (by simp [few])]
          rfl
      | false =>
          rw [if_pos ⟨first, .inr rfl⟩]
          rfl
  · rw [if_neg first]
    exact congrArg Except.ok (if_neg (by simp [first])).symm

theorem Ota.checkedData_eq (bounded : ota.Bounded) (args : List (List UInt8)) (storage : S) :
    ota.checkedData args storage = .ok (ota.data args storage) := by
  unfold checkedData data
  by_cases inactive : ota.active = false
  · rw [if_pos inactive, if_pos inactive]
    rfl
  rw [if_neg inactive, if_neg inactive]
  cases args with
  | nil => rfl
  | cons start args =>
      simp only [List.getElem?_cons_zero, List.getElem?_cons_succ, Option.mapM_some,
        checkedHex_eq, Option.bind_some]
      cases hex start with
      | none => rfl
      | some offset =>
          cases args with
          | nil => rfl
          | cons payload args =>
              simp only [List.getElem?_cons_zero, List.getElem?_cons_succ]
              by_cases bad : args[0]?.isSome ∨ payload.isEmpty ∨ payload.length > 128 ∨
                  payload.length % 8 ≠ 0
              · rw [if_pos bad]
                change (if _ then _ else _) = _
                rw [if_pos bad]
                rfl
              rw [if_neg bad]
              change (if _ then _ else _) = _
              rw [if_neg bad]
              simp only [not_or, Nat.not_lt, gt_iff_lt, ne_eq, Decidable.not_not] at bad
              obtain ⟨-, -, short, whole⟩ := bad
              rcases checkedBytes_eq (.replicate 64 0) payload (i := 0) (by omega) with
                ⟨missing, result⟩ | ⟨bytes, after, decoded, result, taken⟩
              · rw [missing, result]
                rfl
              · have length := hexBytes_length (payload.length / 2) (by omega) decoded
                rw [Nat.zero_add] at taken
                rw [decoded, result, ← length]
                exact checkedStore_eq bounded after storage offset.toNat (by omega) taken

theorem checkedReadBack_eq (size blocks offset : Nat) (crc : UInt32) (storage : S)
    (count : blocks = (size - offset + 63) / 64) :
    checkedReadBack size blocks offset crc storage =
      .ok (readBack size blocks offset crc storage) := by
  induction blocks generalizing offset crc storage with
  | zero => rfl
  | succ blocks ih =>
      rw [checkedReadBack, readBack, Checked.sub_eq (by omega)]
      simp only [bind, Except.bind, Checked.slice_eq _ (Nat.zero_le _) (Nat.min_le_right _ 64),
        List.drop_zero, Vector.toList_replicate, List.length_take, List.length_replicate,
        Nat.min_assoc, Nat.min_self]
      cases Storage.read storage offset (min (size - offset) 64) with
      | mk found after =>
          cases found with
          | none => rfl
          | some bytes => exact ih (offset + 64) _ after (by omega)

theorem Ota.checkedCommit_eq (ota : Ota) (storage : S) :
    ota.checkedCommit storage = .ok (ota.commit storage) := by
  unfold checkedCommit commit
  by_cases refused : ota.active = false ∨ ota.received ≠ ota.size
  · rw [if_pos refused, if_pos refused]
    rfl
  rw [if_neg refused, if_neg refused, checkedReadBack_eq _ _ _ _ _ (by omega)]
  cases readBack ota.size ((ota.size + 63) / 64) 0 0xFFFFFFFF storage with
  | mk found after =>
      cases found with
      | none => rfl
      | some crc =>
          by_cases wrong : ~~~crc ≠ ota.expectedCrc
          · simp only [if_pos wrong, bind, Except.bind, pure, Except.pure]
          · simp only [if_neg wrong, bind, Except.bind, pure, Except.pure]
            cases Storage.commit after with
            | mk done final => cases done <;> rfl

theorem Ota.checkedBegin_eq (ota : Ota) (args : List (List UInt8)) :
    ota.checkedBegin args = .ok (ota.begin args) := by
  have arg (i : Nat) : args[i]?.mapM checkedHex = .ok (args[i]?.map hex) := by
    cases args[i]? with
    | none => rfl
    | some token =>
        rw [Option.mapM_some, checkedHex_eq]
        rfl
  unfold checkedBegin begin
  rw [arg, arg]
  simp only [bind, Except.bind, pure, Except.pure]
  cases args[0]? with
  | none => rfl
  | some size =>
      cases args[1]? with
      | none =>
          simp only [Option.map_some, Option.bind_some]
          cases hex size <;> rfl
      | some crc =>
          simp only [Option.map_some, Option.bind_some]
          cases hex size with
          | none => rfl
          | some size =>
              cases hex crc with
              | none => rfl
              | some crc =>
                  simp only
                  split
                  · rfl
                  · rfl

/-- In a bounded session no request line makes the program stop. -/
theorem Ota.checkedHandle_eq (bounded : ota.Bounded) (line : List UInt8) (storage : S) :
    ota.checkedHandle line storage = .ok (ota.handle line storage) := by
  unfold checkedHandle handle
  cases line.splitOn 0x20 with
  | nil => rfl
  | cons first tokens =>
      by_cases other : first ≠ ascii "OTA"
      · simp only [if_pos other]
        rfl
      simp only [if_neg other]
      cases tokens with
      | nil => rfl
      | cons name args =>
          unfold checkedCommand command
          simp only [checkedBegin_eq, checkedData_eq bounded, checkedCommit_eq]
          split
          · rfl
          · split
            · rfl
            · split
              · rfl
              · split
                · rfl
                · split
                  · rfl
                  · rfl

end Handle

/-! ## What an error leaves behind -/

section Clean

variable {S : Type} [Storage S] {ota : Ota} {line : List UInt8} {storage : S}

/-- Replies that refuse a line. -/
def Reply.refusals : List Reply :=
  [.errCmd, .errArg, .errSize, .errNoImage, .errOffset, .errVector, .errIncomplete]

/-- Replies after a storage operation that failed, or a wrong CRC. -/
def Reply.failures : List Reply := [.errWrite, .errRead, .errCrc, .errMark]

/-- A refusal changes nothing, a failure ends the session, and a reboot is a commit. -/
structure Outcome.Clean (ota : Ota) (outcome : Outcome (Recorded S)) : Prop where
  refused : outcome.reply ∈ Reply.refusals → outcome.ota = ota ∧
    ∀ call ∈ outcome.storage.calls, call.isWrite = false ∧ call.isCommit = false
  failed : outcome.reply ∈ Reply.failures →
    outcome.ota.active = false ∧ outcome.ota.received = 0
  reboot : outcome.reboot = true ↔ outcome.reply = .reboot
  committed : outcome.reply = .reboot ↔ ∃ before, Call.commit before true ∈ outcome.storage.calls

omit [Storage S] in
/-- A reply that is neither a failure nor a reboot. -/
theorem Outcome.Clean.of_reply {outcome : Outcome (Recorded S)} (reboot : outcome.reboot = false)
    (reply : outcome.reply ∉ Reply.failures ∧ outcome.reply ≠ .reboot)
    (refused : outcome.reply ∈ Reply.refusals → outcome.ota = ota ∧
      ∀ call ∈ outcome.storage.calls, call.isWrite = false ∧ call.isCommit = false)
    (calls : ∀ call ∈ outcome.storage.calls, call.isCommit = false) : outcome.Clean ota where
  refused := refused
  failed failure := absurd failure reply.1
  reboot := by
    rw [reboot]
    exact ⟨fun impossible => (nomatch impossible), fun same => absurd same reply.2⟩
  committed := by
    refine ⟨fun same => absurd same reply.2, ?_⟩
    rintro ⟨before, member⟩
    cases calls _ member

omit [Storage S] in
theorem Ota.Closes.clean {outcome : Outcome (Recorded S)} (closes : ota.Closes outcome) :
    outcome.Clean ota := by
  cases closes with
  | failed reply reboot after calls =>
      refine ⟨fun refusal => ?_, fun _ => ?_, ?_, ?_⟩
      · rcases reply with read | crc | mark
        · rw [read] at refusal
          exact absurd refusal (by decide)
        · rw [crc] at refusal
          exact absurd refusal (by decide)
        · rw [mark] at refusal
          exact absurd refusal (by decide)
      · rw [after]
        exact ⟨rfl, rfl⟩
      · rw [reboot]
        rcases reply with read | crc | mark <;> simp [*]
      · constructor
        · intro rebooted
          rw [rebooted] at reply
          rcases reply with read | crc | mark <;> contradiction
        · rintro ⟨before, member⟩
          cases (calls _ member).2
  | rebooted reply reboot after reads before quiet calls =>
      refine ⟨fun refusal => ?_, fun failure => ?_, ?_, ?_⟩
      · rw [reply] at refusal
        exact absurd refusal (by decide)
      · rw [reply] at failure
        exact absurd failure (by decide)
      · rw [reboot, reply]
        exact ⟨fun _ => rfl, fun _ => rfl⟩
      · refine ⟨fun _ => ⟨before, ?_⟩, fun _ => reply⟩
        rw [calls]
        exact List.mem_append_right _ (List.mem_singleton_self _)

theorem Ota.Handled.clean {outcome : Outcome (Recorded S)}
    (handled : ota.Handled line ({ storage } : Recorded S) outcome) : outcome.Clean ota := by
  cases handled with
  | refused reply refuses =>
      have kind : reply ∉ Reply.failures ∧ reply ≠ .reboot := by
        revert refuses
        cases reply <;> decide
      exact .of_reply rfl kind (fun _ => ⟨rfl, by simp⟩) (by simp)
  | began size crc args large small whole =>
      exact .of_reply rfl (by simp [Reply.failures]) (by simp [Reply.refusals]) (by simp)
  | retried offset bytes args active inside =>
      simp only [Recorded.read_eq]
      refine .of_reply rfl ?_ (fun _ => ⟨rfl, ?_⟩) ?_
      · split <;> simp [Reply.failures]
      · simp [Call.isWrite, Call.isCommit]
      · simp [Call.isCommit]
  | stored bytes args accepts written =>
      exact .of_reply rfl (by simp [Reply.failures]) (by simp [Reply.refusals])
        (by simp [Recorded.write_eq, Call.isCommit])
  | writeFailed bytes args accepts failed =>
      refine ⟨fun refusal => ?_, fun _ => ⟨rfl, rfl⟩, by simp, by simp [Recorded.write_eq]⟩
      simp [Reply.refusals] at refusal
  | committed active complete => exact (ota.commit_closes storage active complete).clean
  | aborted =>
      exact .of_reply rfl (by simp [Reply.failures]) (by simp [Reply.refusals]) (by simp)

/-- While no session is active, a request line that is not answered `READY` starts none. -/
theorem Ota.handle_inactive (inactive : ota.active = false)
    (reply : (ota.handle line ({ storage } : Recorded S)).reply ≠ .ready) :
    (ota.handle line ({ storage } : Recorded S)).ota.active = false := by
  cases ota.handle_writes line storage with
  | chunk bytes done calls args accepts after reply =>
      rw [accepts.active] at inactive
      cases inactive
  | nothing quiet restarts after =>
      rcases after with ready | kept | ended
      · exact absurd ready reply
      · rwa [kept]
      · exact ended

/-- Until a `BEGIN` is accepted, `DATA` and `COMMIT` lines are refused. -/
theorem State.refuses_inactive {state : State S} (inactive : state.ota.active = false)
    {inputs : List Input} (waiting : ∀ event ∈ state.trace inputs, event.reply ≠ some .ready) :
    ∀ event ∈ state.trace inputs, ∀ line, event.input = .line line →
      (∀ args, line.splitOn 0x20 = ascii "OTA" :: ascii "DATA" :: args →
        event.reply = some .errNoImage) ∧
      (line.splitOn 0x20 = [ascii "OTA", ascii "COMMIT"] →
        event.reply = some .errIncomplete) := by
  induction inputs generalizing state with
  | nil => simp [State.trace]
  | cons input inputs ih =>
      obtain ⟨first, rest⟩ := List.forall_mem_cons.mp waiting
      rw [State.trace, List.forall_mem_cons]
      cases input with
      | abort =>
          refine ⟨fun line same => ?_, @ih (state.step .abort).2 rfl rest⟩
          cases same
      | line bytes =>
          refine ⟨fun line same => ?_, @ih (state.step (.line bytes)).2 ?_ rest⟩
          · obtain rfl := Input.line.inj same
            constructor
            · intro args tokens
              rw [State.step, state.ota.handle_data tokens, Ota.data, if_pos inactive]
            · intro tokens
              rw [State.step, state.ota.handle_commit tokens, Ota.commit, if_pos (.inl inactive)]
          · exact Ota.handle_inactive inactive fun ready => first (congrArg some ready)

/-- In a reachable session no line makes the program stop; a refusal changes nothing and calls
neither write nor commit; a failure ends the session, so that every `DATA` and `COMMIT` line is
refused until a `BEGIN` is accepted; and the board reboots exactly when a commit succeeded. -/
theorem handle_errors_clean (reachable : ota.Reachable) (line : List UInt8) (storage : S) :
    ∃ outcome, ota.checkedHandle line ({ storage } : Recorded S) = .ok outcome ∧
      (outcome.reply ∈ [.errCmd, .errArg, .errSize, .errNoImage, .errOffset, .errVector,
          .errIncomplete] →
        outcome.ota = ota ∧
        ∀ call ∈ outcome.storage.calls, call.isWrite = false ∧ call.isCommit = false) ∧
      (outcome.reply ∈ [.errWrite, .errRead, .errCrc, .errMark] →
        outcome.ota.active = false ∧ outcome.ota.received = 0 ∧
        ∀ {T : Type} [Storage T] (later : T) (inputs : List Input),
          (∀ event ∈ ({ ota := outcome.ota, storage := later } : State T).trace inputs,
            event.reply ≠ some .ready) →
          ∀ event ∈ ({ ota := outcome.ota, storage := later } : State T).trace inputs,
            ∀ line, event.input = .line line →
              (∀ args, line.splitOn 0x20 = ascii "OTA" :: ascii "DATA" :: args →
                event.reply = some .errNoImage) ∧
              (line.splitOn 0x20 = [ascii "OTA", ascii "COMMIT"] →
                event.reply = some .errIncomplete)) ∧
      (outcome.reboot = true ↔ outcome.reply = .reboot) ∧
      (outcome.reply = .reboot ↔
        ∃ before, Call.commit before true ∈ outcome.storage.calls) := by
  have clean := (ota.handle_cases line ({ storage } : Recorded S)).clean
  refine ⟨_, Ota.checkedHandle_eq reachable.bounded line _, clean.refused, fun failure => ?_,
    clean.reboot, clean.committed⟩
  obtain ⟨inactive, zero⟩ := clean.failed failure
  exact ⟨inactive, zero, fun later inputs waiting => State.refuses_inactive inactive waiting⟩

/-- A chunk that an empty storage cannot take ends the session. -/
theorem handle_errors_clean_smallUpload :
    ∃ outcome : Outcome (Recorded Memory),
      (({} : Ota).handle (ascii "OTA BEGIN 104 8674F5C3") (⟨[]⟩ : Memory)).ota.checkedHandle
        (ascii "OTA DATA 0 " ++ hexText (smallImage.take 64)) { storage := ⟨[]⟩ } = .ok outcome ∧
      outcome.reply = .errWrite ∧ outcome.ota.active = false ∧ outcome.ota.received = 0 := by
  have reachable : Ota.Reachable _ := .line .start (ascii "OTA BEGIN 104 8674F5C3") (⟨[]⟩ : Memory)
  obtain ⟨outcome, result, -, failed, -⟩ := handle_errors_clean reachable
    (ascii "OTA DATA 0 " ++ hexText (smallImage.take 64)) (⟨[]⟩ : Memory)
  have same := result.symm.trans (Ota.checkedHandle_eq reachable.bounded _ _)
  have reply : outcome.reply = .errWrite := by
    rw [Except.ok.inj same]
    decide +kernel
  obtain ⟨inactive, zero, -⟩ := failed (by simp [reply])
  exact ⟨outcome, result, reply, inactive, zero⟩

end Clean

end NrfUnifying.UartOta
