import NrfUnifying.Ota.Errors
import NrfUnifying.Serial.Session

/-!
# Staging of an upload

An image comes in packets of any lengths, and whole words of it are written as
they come; up to three bytes wait in the staging buffer. `checkedUpload` is the
handling of a packet with that buffer and every index into it.
-/

namespace NrfUnifying.Serial

open Lib.Bytes Updater UartOta

/-! ## Buffers -/

section Buffers

variable {n : Nat}

/-- Copy bytes into a buffer from `i` on. -/
def copyInto (i : Nat) (buffer : Vector UInt8 n) : List UInt8 → Checked (Vector UInt8 n)
  | [] => .ok buffer
  | byte :: rest =>
      if inside : i < n then copyInto (i + 1) (buffer.set i byte) rest else .error .bounds

/-- `&buffer[start..stop]` -/
def range (buffer : Vector UInt8 n) (start stop : Nat) : Checked (List UInt8) :=
  if start ≤ stop ∧ stop ≤ n then .ok ((buffer.toList.take stop).drop start) else .error .bounds

/-- `buffer[start..stop].copy_from_slice(bytes)` -/
def copyFromSlice (buffer : Vector UInt8 n) (start stop : Nat) (bytes : List UInt8) :
    Checked (Vector UInt8 n) := do
  let old ← range buffer start stop
  if old.length = bytes.length then copyInto start buffer bytes else .error .bounds

/-- `buffer.copy_within(start..stop, 0)` -/
def copyWithin (buffer : Vector UInt8 n) (start stop : Nat) : Checked (Vector UInt8 n) := do
  copyInto 0 buffer (← range buffer start stop)

/-- Move what is left behind the words that were written to the front. -/
def moveRest (buffer : Vector UInt8 n) (aligned total remaining : Nat) : Checked (Vector UInt8 n) :=
  if remaining > 0 then copyWithin buffer aligned total else .ok buffer

variable (buffer : Vector UInt8 n)

theorem copyInto_eq {i : Nat} {bytes : List UInt8} (fits : i + bytes.length ≤ n) :
    ∃ after, copyInto i buffer bytes = .ok after ∧
      after.toList.take (i + bytes.length) = buffer.toList.take i ++ bytes ∧
      after.toList.drop (i + bytes.length) = buffer.toList.drop (i + bytes.length) := by
  induction bytes generalizing i buffer with
  | nil => exact ⟨buffer, rfl, (List.append_nil _).symm, rfl⟩
  | cons byte rest ih =>
      rw [List.length_cons] at fits
      have inside : i < n := by omega
      obtain ⟨after, copied, front, back⟩ := ih (i := i + 1) (buffer.set i byte) (by omega)
      refine ⟨after, by rw [copyInto, dif_pos inside, copied], ?_⟩
      rw [List.length_cons, Nat.add_comm rest.length, ← Nat.add_assoc]
      constructor
      · rw [front, take_set buffer byte inside, List.append_assoc]
        rfl
      · rw [back, Vector.toList_set, List.drop_set_of_lt (by omega)]

theorem range_eq {start stop : Nat} (order : start ≤ stop) (inside : stop ≤ n) :
    range buffer start stop = .ok ((buffer.toList.take stop).drop start) :=
  if_pos ⟨order, inside⟩

theorem copyFromSlice_eq {start stop : Nat} {bytes : List UInt8}
    (length : start + bytes.length = stop) (fits : stop ≤ n) :
    ∃ after, copyFromSlice buffer start stop bytes = .ok after ∧
      after.toList.take stop = buffer.toList.take start ++ bytes ∧
      after.toList.drop stop = buffer.toList.drop stop := by
  subst length
  obtain ⟨after, copied, kept⟩ := copyInto_eq buffer fits
  refine ⟨after, ?_, kept⟩
  have length : ((buffer.toList.take (start + bytes.length)).drop start).length =
      bytes.length := by
    rw [List.length_drop, List.length_take, Vector.length_toList]
    omega
  rw [copyFromSlice, range_eq buffer (Nat.le_add_right _ _) fits]
  change (if _ = _ then _ else _) = _
  rw [if_pos length, copied]

theorem copyWithin_eq {start stop : Nat} (order : start ≤ stop) (inside : stop ≤ n) :
    ∃ after, copyWithin buffer start stop = .ok after ∧
      after.toList.take (stop - start) = (buffer.toList.take stop).drop start := by
  have length : ((buffer.toList.take stop).drop start).length = stop - start := by
    rw [List.length_drop, List.length_take, Vector.length_toList]
    omega
  have fits : 0 + ((buffer.toList.take stop).drop start).length ≤ n := by omega
  obtain ⟨after, copied, front, -⟩ := copyInto_eq buffer fits
  refine ⟨after, ?_, ?_⟩
  · rw [copyWithin, range_eq buffer order inside]
    exact copied
  · rw [Nat.zero_add, length] at front
    exact front

theorem moveRest_eq {aligned total : Nat} (order : aligned ≤ total) (inside : total ≤ n) :
    ∃ after, moveRest buffer aligned total (total - aligned) = .ok after ∧
      after.toList.take (total - aligned) = (buffer.toList.take total).drop aligned := by
  unfold moveRest
  split
  · exact copyWithin_eq buffer order inside
  next nothing =>
    have empty : total - aligned = 0 := Nat.eq_zero_of_not_pos nothing
    refine ⟨buffer, rfl, ?_⟩
    rw [empty, List.take_zero, List.drop_eq_nil_of_le]
    rw [List.length_take]
    omega

/-- A last word, filled up with ones. -/
theorem padded_eq {staged : List UInt8} (short : staged.length < 4) :
    ∃ padded, copyFromSlice (.replicate 4 0xFF : Vector UInt8 4) 0 staged.length staged =
        .ok padded ∧ padded.toList = staged ++ List.replicate (4 - staged.length) 0xFF := by
  obtain ⟨padded, copied, front, back⟩ :=
    copyFromSlice_eq (.replicate 4 0xFF : Vector UInt8 4) (Nat.zero_add _) (Nat.le_of_lt short)
  refine ⟨padded, copied, ?_⟩
  rw [← List.take_append_drop staged.length padded.toList, front, back, Vector.toList_replicate,
    List.drop_replicate]
  rfl

end Buffers

/-! ## A packet, with its buffer -/

section Checks

variable {F I : Type} [FirmwareUpdater F I]

/-- The end of an upload, with the padding done in a buffer of its own. -/
def Cdc.checkedFinish (cdc : Cdc F I) (staging : Vector UInt8 68) : Checked (Outcome F I) := do
  let stagingLen := cdc.session.staging.length
  let done (cdc : Cdc F I) : Outcome F I := {
    cdc := { cdc with
      session := { cdc.session with uploadActive := false, imageReady := true }
      uploading := false }
    reply := some .ok }
  if stagingLen > 0 then
    let padded ← copyFromSlice (.replicate 4 0xFF) 0 stagingLen (← range staging 0 stagingLen)
    match cdc.write padded.toList with
    | (false, cdc) => return { cdc, reply := some .errWrite }
    | (true, cdc) =>
        let uploadReceived ← Checked.add cdc.session.uploadReceived stagingLen
        return done { cdc with session := { cdc.session with uploadReceived, staging := [] } }
  else return done cdc

/-- Keep what is left of `total` staged bytes, and finish a complete image. -/
def Cdc.checkedStage (cdc : Cdc F I) (staging : Vector UInt8 68) (aligned total : Nat) :
    Checked (Outcome F I × Vector UInt8 68) := do
  let remaining ← Checked.sub total aligned
  let staging ← moveRest staging aligned total remaining
  let cdc := { cdc with session := { cdc.session with
    staging := staging.toList.take remaining } }
  if (← Checked.add cdc.session.uploadReceived remaining) ≥ cdc.session.uploadSize then
    return (← cdc.checkedFinish staging, staging)
  else return ({ cdc }, staging)

/-- `Cdc.upload` with the staging buffer, whose first bytes are the session's. -/
def Cdc.checkedUpload (cdc : Cdc F I) (staging : Vector UInt8 68) (packet : List UInt8) :
    Checked (Outcome F I × Vector UInt8 68) := do
  let stagingLen := cdc.session.staging.length
  let total ← Checked.add stagingLen packet.length
  let staging ← copyFromSlice staging stagingLen total packet
  let aligned := total / 4 * 4
  if aligned > 0 then
    match cdc.write (← range staging 0 aligned) with
    | (false, cdc) => return ({ cdc, reply := some .errWrite }, staging)
    | (true, cdc) =>
        let uploadReceived ← Checked.add cdc.session.uploadReceived aligned
        Cdc.checkedStage { cdc with session := { cdc.session with uploadReceived } }
          staging aligned total
  else cdc.checkedStage staging aligned total

/-- What holds of a session between packets: the staged bytes fill no word, and an upload that is
active is not complete. -/
structure Session.Bounded (session : Session) : Prop where
  short : session.staging.length < 4
  size : session.uploadSize ≤ activeImageLimit
  more : session.uploadActive = true →
    session.uploadReceived + session.staging.length < session.uploadSize

/-- The buffer starts with the staged bytes. -/
def Session.StagedIn (session : Session) (staging : Vector UInt8 68) : Prop :=
  staging.toList.take session.staging.length = session.staging

variable (cdc : Cdc F I)

theorem Cdc.write_session {bytes : List UInt8} {after : Cdc F I}
    (written : cdc.write bytes = (true, after)) : after.session = cdc.session := by
  unfold write at written
  split at written
  · obtain rfl := (Prod.mk.inj written).2
    rfl
  · cases (Prod.mk.inj written).1

/-- The session when a write has failed. -/
structure Session.Failed (session : Session) : Prop where
  staging : session.staging = []
  inactive : session.uploadActive = false
  imageReady : session.imageReady = false
  size : session.uploadSize = 0

theorem Cdc.write_failed {bytes : List UInt8} {after : Cdc F I}
    (failed : cdc.write bytes = (false, after)) : after.session.Failed := by
  unfold write at failed
  split at failed
  · cases (Prod.mk.inj failed).1
  · obtain rfl := (Prod.mk.inj failed).2
    exact ⟨rfl, rfl, rfl, rfl⟩

theorem Cdc.checkedFinish_eq {staging : Vector UInt8 68} (short : cdc.session.staging.length < 4)
    (staged : cdc.session.StagedIn staging)
    (small : cdc.session.uploadReceived + cdc.session.staging.length < 2 ^ 32) :
    cdc.checkedFinish staging = .ok cdc.finish := by
  unfold checkedFinish finish
  by_cases empty : cdc.session.staging = []
  · rw [empty]
    rfl
  obtain ⟨padded, copied, filled⟩ := padded_eq short
  have some : 0 < cdc.session.staging.length := List.length_pos_iff.mpr empty
  dsimp only
  rw [if_pos some, if_neg (by simpa using empty), range_eq staging (Nat.zero_le _) (by omega),
    List.drop_zero, staged]
  change (copyFromSlice _ _ _ _ >>= _) = _
  rw [copied]
  change (match cdc.write padded.toList with | (false, _) => _ | (true, _) => _) = _
  rw [filled]
  cases written : cdc.write _ with
  | mk done after =>
      cases done with
      | false => rfl
      | true =>
          have session := cdc.write_session written
          dsimp only
          rw [session, Checked.add_eq small]
          rfl

/-- The end of an upload leaves nothing staged. -/
theorem Cdc.finish_staging : cdc.finish.cdc.session.staging = [] := by
  unfold finish
  by_cases empty : cdc.session.staging = []
  · rw [empty]
    exact empty
  · dsimp only
    rw [if_neg (by simpa using empty), write]
    generalize FirmwareUpdater.writeFirmware cdc.updater cdc.flash _ _ = result
    obtain ⟨done, updater, flash⟩ := result
    cases done <;> rfl

omit [FirmwareUpdater F I] in
theorem Session.StagedIn.of_nil {session : Session} (empty : session.staging = [])
    (buffer : Vector UInt8 68) : session.StagedIn buffer := by
  rw [StagedIn, empty]
  rfl

theorem Cdc.checkedStage_eq (buffer : Vector UInt8 68) {staged : List UInt8} {aligned : Nat}
    (inside : staged.length ≤ 68) (before : aligned ≤ staged.length)
    (short : staged.length - aligned < 4) (small : cdc.session.uploadReceived + 4 ≤ 2 ^ 32)
    (taken : buffer.toList.take staged.length = staged) :
    ∃ after, cdc.checkedStage buffer aligned staged.length =
        .ok (cdc.stage (staged.drop aligned), after) ∧
      (cdc.stage (staged.drop aligned)).cdc.session.StagedIn after := by
  have length : (staged.drop aligned).length = staged.length - aligned := List.length_drop
  obtain ⟨after, moved, front⟩ := moveRest_eq buffer before inside
  rw [taken] at front
  refine ⟨after, ?_, ?_⟩
  · unfold checkedStage stage
    rw [Checked.sub_eq before]
    change (moveRest buffer aligned staged.length (staged.length - aligned) >>= _) = _
    rw [moved]
    change (Checked.add cdc.session.uploadReceived (staged.length - aligned) >>= _) = _
    rw [Checked.add_eq (by omega)]
    change (if _ ≥ _ then _ else _) = _
    rw [front]
    dsimp only
    rw [length]
    split
    · rw [Cdc.checkedFinish_eq]
      · rfl
      · exact length ▸ short
      · rw [Session.StagedIn, length]
        exact front
      · rw [length]
        dsimp only
        omega
    · rfl
  · unfold stage
    dsimp only
    split
    · exact .of_nil (Cdc.finish_staging _) after
    · rw [Session.StagedIn, length]
      exact front

/-- No index into the buffer fails, and the buffer holds what the session says. -/
theorem Cdc.checkedUpload_eq (bounded : cdc.session.Bounded)
    (active : cdc.session.uploadActive = true) {buffer : Vector UInt8 68}
    (staged : cdc.session.StagedIn buffer) {packet : List UInt8} (fits : packet.length ≤ 64) :
    ∃ after, cdc.checkedUpload buffer packet = .ok (cdc.upload packet, after) ∧
      (cdc.upload packet).cdc.session.StagedIn after := by
  have short := bounded.short
  have size := bounded.size
  have more := bounded.more active
  change _ ≤ 480 * 1024 at size
  have total : (cdc.session.staging ++ packet).length =
      cdc.session.staging.length + packet.length := List.length_append
  obtain ⟨filled, copied, front, -⟩ :=
    copyFromSlice_eq buffer total.symm (by omega : (cdc.session.staging ++ packet).length ≤ 68)
  rw [staged] at front
  have added : Checked.add cdc.session.staging.length packet.length =
      .ok (cdc.session.staging ++ packet).length := by
    rw [total]
    exact Checked.add_eq (by omega)
  unfold checkedUpload upload
  dsimp only
  rw [added]
  change ∃ after, (copyFromSlice buffer _ _ _ >>= _) = _ ∧ _
  rw [copied]
  change ∃ after, (if _ > 0 then _ else _) = _ ∧ _
  generalize aligned : (cdc.session.staging ++ packet).length / 4 * 4 = words
  by_cases none : words = 0
  · subst none
    rw [if_neg (Nat.lt_irrefl 0), if_pos rfl]
    exact cdc.checkedStage_eq filled (by omega) (Nat.zero_le _) (by omega) (by omega) front
  · rw [if_pos (Nat.pos_of_ne_zero none), if_neg none, range_eq filled (Nat.zero_le _) (by omega),
      List.drop_zero]
    have taken : filled.toList.take words = (cdc.session.staging ++ packet).take words := by
      rw [← front, List.take_take, Nat.min_eq_left (by omega)]
    rw [taken]
    dsimp only [bind, Except.bind]
    cases written : cdc.write _ with
    | mk done after =>
        cases done with
        | false => exact ⟨filled, rfl, .of_nil (cdc.write_failed written).staging filled⟩
        | true =>
            have session := cdc.write_session written
            dsimp only
            rw [session, Checked.add_eq (by omega)]
            exact Cdc.checkedStage_eq _ filled (by omega) (by omega) (by omega)
              (by dsimp only; omega) front

end Checks

/-! ## The calls of the updater -/

/-- A call of `write_firmware`. -/
structure WriteCall where
  offset : Nat
  bytes : List UInt8
  done : Bool
  deriving DecidableEq, Repr

/-- A partition with the writes that its updaters were asked for, the latest last. -/
structure Logged (F : Type) where
  flash : F
  writes : List WriteCall := []

instance {F I : Type} [FirmwareUpdater F I] : FirmwareUpdater (Logged F) I where
  create dfu := FirmwareUpdater.create dfu.flash
  writeFirmware updater dfu offset bytes :=
    let (done, updater, flash) := FirmwareUpdater.writeFirmware updater dfu.flash offset bytes
    (done, updater, { flash, writes := dfu.writes ++ [{ offset, bytes, done }] })
  readDfu updater dfu := FirmwareUpdater.readDfu updater dfu.flash
  markUpdated updater dfu :=
    let (done, updater, flash) := FirmwareUpdater.markUpdated updater dfu.flash
    (done, updater, { dfu with flash })
  getState updater dfu := FirmwareUpdater.getState updater dfu.flash

/-- The bytes that fill up the last word of an image. -/
def padding (length : Nat) : List UInt8 := List.replicate ((4 - length % 4) % 4) 0xFF

/-- The call for these bytes, if there are any. -/
def written (offset : Nat) (bytes : List UInt8) : List WriteCall :=
  if bytes = [] then [] else [{ offset, bytes, done := true }]

theorem Logged.writeFirmware_writes {F I : Type} [FirmwareUpdater F I] (updater : I)
    (dfu : Logged F) (offset : Nat) (bytes : List UInt8) :
    (FirmwareUpdater.writeFirmware updater dfu offset bytes).2.2.writes =
      dfu.writes ++
        [⟨offset, bytes, (FirmwareUpdater.writeFirmware updater dfu offset bytes).1⟩] := rfl

section Calls

variable {F I : Type} [FirmwareUpdater F I] (cdc : Cdc (Logged F) I)

/-- What a write leaves. -/
inductive Cdc.Wrote (bytes : List UInt8) : Bool × Cdc (Logged F) I → Prop where
  | done {after : Cdc (Logged F) I} (session : after.session = cdc.session)
      (writes : after.flash.writes =
        cdc.flash.writes ++ [⟨cdc.session.uploadReceived, bytes, true⟩]) :
      Wrote bytes (true, after)
  | failed {after : Cdc (Logged F) I} (failed : after.session.Failed)
      (writes : after.flash.writes =
        cdc.flash.writes ++ [⟨cdc.session.uploadReceived, bytes, false⟩]) :
      Wrote bytes (false, after)

theorem Cdc.write_wrote (bytes : List UInt8) : cdc.Wrote bytes (cdc.write bytes) := by
  have writes := Logged.writeFirmware_writes cdc.updater cdc.flash cdc.session.uploadReceived bytes
  unfold write
  generalize FirmwareUpdater.writeFirmware cdc.updater cdc.flash _ _ = result at writes
  obtain ⟨done, updater, flash⟩ := result
  cases done with
  | true => exact .done rfl writes
  | false => exact .failed ⟨rfl, rfl, rfl, rfl⟩ writes

/-- What a packet does to an upload: staged bytes and packet are words and a rest, the words are
written, and so is the rest when the image is complete. -/
inductive Cdc.Uploads (packet : List UInt8) (outcome : Outcome (Logged F) I) : Prop where
  | more {words rest : List UInt8} (split : cdc.session.staging ++ packet = words ++ rest)
      (whole : words.length % 4 = 0) (reply : outcome.reply = none)
      (session : outcome.cdc.session = { cdc.session with
        uploadReceived := cdc.session.uploadReceived + words.length, staging := rest })
      (short : rest.length < 4)
      (more : cdc.session.uploadReceived + words.length + rest.length < cdc.session.uploadSize)
      (writes : outcome.cdc.flash.writes =
        cdc.flash.writes ++ written cdc.session.uploadReceived words)
  | complete {words rest : List UInt8} (split : cdc.session.staging ++ packet = words ++ rest)
      (whole : words.length % 4 = 0) (reply : outcome.reply = some .ok)
      (staging : outcome.cdc.session.staging = [])
      (inactive : outcome.cdc.session.uploadActive = false)
      (size : outcome.cdc.session.uploadSize = cdc.session.uploadSize)
      (enough : cdc.session.uploadSize ≤
        cdc.session.uploadReceived + words.length + rest.length)
      (writes : outcome.cdc.flash.writes =
        cdc.flash.writes ++ written cdc.session.uploadReceived words ++
          written (cdc.session.uploadReceived + words.length) (rest ++ padding rest.length))
  | failed (reply : outcome.reply = some .errWrite) (failed : outcome.cdc.session.Failed)
      (calls : List WriteCall) (writes : outcome.cdc.flash.writes = cdc.flash.writes ++ calls)
      (call : ∃ call ∈ calls, call.done = false)

theorem padding_eq {length : Nat} (some : 0 < length) (short : length < 4) :
    padding length = List.replicate (4 - length) 0xFF := by
  rw [padding, Nat.mod_eq_of_lt short, Nat.mod_eq_of_lt (by omega)]

/-- What is left of an image is written as one word. -/
inductive Cdc.Finishes (outcome : Outcome (Logged F) I) : Prop where
  | done (reply : outcome.reply = some .ok)
      (inactive : outcome.cdc.session.uploadActive = false)
      (size : outcome.cdc.session.uploadSize = cdc.session.uploadSize)
      (writes : outcome.cdc.flash.writes = cdc.flash.writes ++
        written cdc.session.uploadReceived
          (cdc.session.staging ++ padding cdc.session.staging.length)) :
      Finishes outcome
  | failed (reply : outcome.reply = some .errWrite) (failed : outcome.cdc.session.Failed)
      (call : WriteCall) (writes : outcome.cdc.flash.writes = cdc.flash.writes ++ [call])
      (refused : call.done = false) : Finishes outcome

theorem Cdc.finish_finishes (short : cdc.session.staging.length < 4) :
    cdc.Finishes cdc.finish := by
  unfold finish
  by_cases empty : cdc.session.staging = []
  · rw [empty]
    refine .done rfl rfl rfl ?_
    rw [empty]
    exact (List.append_nil _).symm
  · have some : 0 < cdc.session.staging.length := List.length_pos_iff.mpr empty
    dsimp only
    rw [if_neg (by simpa using empty), ← padding_eq some short]
    have wrote := cdc.write_wrote (cdc.session.staging ++ padding cdc.session.staging.length)
    generalize cdc.write _ = result at wrote
    cases wrote with
    | failed failed writes => exact .failed rfl failed _ writes rfl
    | done session writes =>
        have size := congrArg Session.uploadSize session
        refine .done rfl rfl size ?_
        rw [written, if_neg (by simp [empty])]
        exact writes

variable {cdc}

/-- The words have been written; what is left of a complete image is written as well. -/
theorem Cdc.Uploads.stage {after : Cdc (Logged F) I} {packet words rest : List UInt8}
    (split : cdc.session.staging ++ packet = words ++ rest) (whole : words.length % 4 = 0)
    (short : rest.length < 4)
    (session : after.session = { cdc.session with
      uploadReceived := cdc.session.uploadReceived + words.length })
    (writes : after.flash.writes =
      cdc.flash.writes ++ written cdc.session.uploadReceived words) :
    cdc.Uploads packet (after.stage rest) := by
  unfold Cdc.stage
  rw [session]
  dsimp only
  split
  next enough =>
    have empty := Cdc.finish_staging { after with session := { cdc.session with
      uploadReceived := cdc.session.uploadReceived + words.length, staging := rest } }
    have finishes := Cdc.finish_finishes { after with session := { cdc.session with
      uploadReceived := cdc.session.uploadReceived + words.length, staging := rest } } short
    generalize Cdc.finish (F := Logged F) _ = outcome at empty finishes
    cases finishes with
    | done reply inactive size writes' =>
        refine .complete split whole reply empty inactive size enough ?_
        rw [writes', writes]
    | failed reply failed call writes' refused =>
        refine .failed reply failed (written cdc.session.uploadReceived words ++ [call]) ?_
          ⟨call, List.mem_append_right _ List.mem_cons_self, refused⟩
        rw [writes', writes, List.append_assoc]
  next more => exact .more split whole rfl rfl short (Nat.not_le.mp more) writes

variable (cdc)

theorem Cdc.upload_uploads (packet : List UInt8) : cdc.Uploads packet (cdc.upload packet) := by
  unfold upload
  dsimp only
  generalize staged : cdc.session.staging ++ packet = bytes
  split
  next none =>
    have split : cdc.session.staging ++ packet = [] ++ bytes := staged
    exact .stage split rfl (by omega) rfl (List.append_nil _).symm
  next some =>
    have length : (bytes.take (bytes.length / 4 * 4)).length = bytes.length / 4 * 4 := by
      rw [List.length_take]
      omega
    have wrote := cdc.write_wrote (bytes.take (bytes.length / 4 * 4))
    generalize cdc.write _ = result at wrote
    cases wrote with
    | failed failed writes =>
        exact .failed rfl failed _ writes ⟨_, List.mem_singleton_self _, rfl⟩
    | done session writes =>
        have split : cdc.session.staging ++ packet =
            bytes.take (bytes.length / 4 * 4) ++ bytes.drop (bytes.length / 4 * 4) := by
          rw [staged, List.take_append_drop]
        have nonempty : bytes.take (bytes.length / 4 * 4) ≠ [] := by
          intro nil
          rw [nil] at length
          exact some length.symm
        refine .stage split (by omega) ?_ ?_ ?_
        · rw [List.length_drop]
          omega
        · rw [session, length]
        · rw [written, if_neg nonempty]
          exact writes

end Calls

/-! ## The property -/

/-- What the serial task meets: a packet, its next look at a byte of one that came outside an
upload, or a new session. -/
inductive Input where
  | packet (bytes : List UInt8)
  | scan (uartOta : Bool)
  | connect
  deriving DecidableEq, Repr

/-- A USB packet has at most 64 bytes. -/
def Input.Fits : Input → Prop
  | .packet bytes => bytes.length ≤ 64
  | _ => True

/-- The serial task with its buffer, what it has not scanned of a packet, and its replies so far. -/
structure Reception (F I : Type) where
  cdc : Cdc F I
  staging : Vector UInt8 68
  rest : List UInt8 := []
  replies : List Reply := []

/-- The calls go on from each other, in whole words. -/
def InOrder (offset : Nat) : List WriteCall → Prop
  | [] => True
  | call :: calls => call.offset = offset ∧ offset % 4 = 0 ∧ call.bytes.length % 4 = 0 ∧
      InOrder (offset + call.bytes.length) calls

section Property

variable {F I : Type} [FirmwareUpdater F I]

/-- The next packet is read when the last one has been scanned. -/
def Reception.step (reception : Reception F I) : Input → Checked (Reception F I)
  | .packet bytes =>
      if reception.rest ≠ [] then return reception
      else if reception.cdc.session.uploadActive then do
        let (outcome, staging) ← reception.cdc.checkedUpload reception.staging bytes
        return { reception with
          cdc := outcome.cdc, staging, replies := reception.replies ++ outcome.reply.toList }
      else return { reception with rest := bytes }
  | .scan uartOta =>
      match reception.rest with
      | [] => return reception
      | byte :: rest =>
          let outcome := reception.cdc.push uartOta byte
          return { reception with
            cdc := outcome.cdc, rest, replies := reception.replies ++ outcome.reply.toList }
  | .connect =>
      return { reception with
        cdc := { reception.cdc with session := {}, uploading := false }, rest := [] }

def Reception.run (reception : Reception F I) (inputs : List Input) : Checked (Reception F I) :=
  inputs.foldlM Reception.step reception

theorem Reception.run_append (reception : Reception F I) (inputs inputs' : List Input) :
    reception.run (inputs ++ inputs') = reception.run inputs >>= (·.run inputs') :=
  List.foldlM_append

/-- There is no image, and the end of a line `BOOT` is only answered with an error. -/
structure Cdc.RefusesBoot (cdc : Cdc F I) : Prop where
  imageReady : cdc.session.imageReady = false
  boot : parseOtaCommand cdc.session.line = some .boot → cdc.session.discardLine = false →
    ∀ uartOta,
    cdc.push uartOta 0x0A = {
      cdc := { cdc with session := { cdc.session with line := [], discardLine := false } }
      reply := some (if uartOta then .errBusy else .errNoImage) }

/-- `BOOT` is refused until another upload completes. -/
def Reception.Refuses (reception : Reception F I) : Prop :=
  ∀ inputs : List Input, (∀ input ∈ inputs, input.Fits) →
    ∀ after, reception.run inputs = .ok after → .ok ∉ after.replies.drop reception.replies.length →
      after.cdc.RefusesBoot

/-- After the reply to `WRITE size`. -/
def Reception.ready (cdc : Cdc F I) (staging : Vector UInt8 68) (size : Nat) : Reception F I where
  cdc := (cdc.beginUpload false size).cdc
  staging

/-- The writes since `start`. -/
def Reception.calls (start after : Reception (Logged F) I) : List WriteCall :=
  after.cdc.flash.writes.drop start.cdc.flash.writes.length

/-- Packets of an upload. When all writes succeed they are those of the image, padded, and `OK` is
the reply to the packet that completes it; when one fails, its packet is answered `ERR WRITE`. -/
structure Reception.Staged (start : Reception (Logged F) I) (size : Nat)
    (packets : List (List UInt8)) (after : Reception (Logged F) I) : Prop where
  inOrder : (∀ call ∈ start.calls after, call.done = true) → InOrder 0 (start.calls after)
  data : (∀ call ∈ start.calls after, call.done = true) → size ≤ packets.flatten.length →
    (start.calls after).flatMap WriteCall.bytes = packets.flatten ++ padding size
  replies : (∀ call ∈ start.calls after, call.done = true) →
    after.replies = if packets.flatten.length < size then [] else [.ok]
  failed : (∃ call ∈ start.calls after, call.done = false) →
    ∃ before packet rest failed, packets = before ++ packet :: rest ∧
      start.run ((before ++ [packet]).map .packet) = .ok failed ∧
      failed.replies = [.errWrite] ∧ failed.Refuses

end Property

/-! ## Steps -/

section Steps

variable {F I : Type} [FirmwareUpdater F I] (cdc : Cdc F I)

theorem Cdc.RefusesBoot.of_imageReady {cdc : Cdc F I}
    (imageReady : cdc.session.imageReady = false) : cdc.RefusesBoot where
  imageReady
  boot line discardLine uartOta := by
    unfold push
    dsimp only
    rw [if_pos rfl, discardLine, if_neg Bool.false_ne_true, dispatch, line]
    dsimp only
    rw [Cdc.boot]
    cases uartOta with
    | true => rfl
    | false =>
        rw [if_neg Bool.false_ne_true, if_pos imageReady]
        rfl

/-- A command leaves the session between packets, and completes no upload. -/
structure Cdc.Commanded (cdc : Cdc F I) (outcome : Outcome F I) : Prop where
  bounded : cdc.session.Bounded → outcome.cdc.session.Bounded
  staging : outcome.cdc.session.staging = cdc.session.staging ∨
    outcome.cdc.session.staging = []
  imageReady : outcome.cdc.session.imageReady = true → cdc.session.imageReady = true

theorem Cdc.dispatch_commanded (uartOta : Bool) (line : List UInt8) :
    cdc.Commanded (cdc.dispatch uartOta line) := by
  unfold dispatch
  split
  · exact ⟨id, .inl rfl, id⟩
  · exact ⟨id, .inl rfl, id⟩
  next size _ =>
    unfold beginUpload
    split
    · exact ⟨id, .inl rfl, id⟩
    split
    · exact ⟨id, .inl rfl, id⟩
    next legal =>
      rw [not_or, Nat.not_lt] at legal
      refine ⟨fun _ => ⟨Nat.succ_pos 3, legal.2, fun _ => ?_⟩, .inr rfl, nofun⟩
      exact Nat.pos_of_ne_zero legal.1
  · unfold boot
    split
    · exact ⟨id, .inl rfl, id⟩
    split
    · exact ⟨id, .inl rfl, id⟩
    · split <;> exact ⟨id, .inl rfl, id⟩
  · exact ⟨fun bounded => ⟨Nat.succ_pos 3, bounded.size, nofun⟩, .inr rfl, nofun⟩
  · exact ⟨id, .inl rfl, id⟩
  · exact ⟨id, .inl rfl, id⟩

theorem Cdc.push_commanded (uartOta : Bool) (byte : UInt8) :
    cdc.Commanded (cdc.push uartOta byte) := by
  have kept (line : List UInt8) (discardLine : Bool) (bounded : cdc.session.Bounded) :
      Session.Bounded { cdc.session with line, discardLine } :=
    ⟨bounded.short, bounded.size, bounded.more⟩
  unfold push
  dsimp only
  split
  · split
    · exact ⟨kept [] false, .inl rfl, id⟩
    · have commanded := Cdc.dispatch_commanded
        { cdc with session := { cdc.session with line := [], discardLine := false } } uartOta
        cdc.session.line
      exact ⟨fun bounded => commanded.bounded (kept [] false bounded), commanded.staging,
        commanded.imageReady⟩
  split
  · split
    · exact ⟨kept cdc.session.line true, .inl rfl, id⟩
    · exact ⟨kept (cdc.session.line ++ [byte]) cdc.session.discardLine, .inl rfl, id⟩
  · exact ⟨id, .inl rfl, id⟩

end Steps

section Runs

variable {F I : Type} [FirmwareUpdater F I] {reception : Reception (Logged F) I}

/-- Between packets the session is bounded, and the buffer holds what is staged. -/
structure Reception.Sound (reception : Reception (Logged F) I) : Prop where
  bounded : reception.cdc.session.Bounded
  staged : reception.cdc.session.StagedIn reception.staging

/-- What an input leads to: no index fails, and only an `OK` makes an image ready. -/
structure Reception.Steps (reception : Reception (Logged F) I)
    (result : Checked (Reception (Logged F) I)) (after : Reception (Logged F) I) : Prop where
  result : result = .ok after
  sound : after.Sound
  replies : ∃ replies, after.replies = reception.replies ++ replies ∧
    (after.cdc.session.imageReady = true →
      reception.cdc.session.imageReady = true ∨ .ok ∈ replies)

omit [FirmwareUpdater F I] in
theorem Reception.Steps.same (sound : reception.Sound) :
    reception.Steps (.ok reception) reception :=
  ⟨rfl, sound, [], (List.append_nil _).symm, .inl⟩

theorem Reception.Sound.upload (sound : reception.Sound)
    (active : reception.cdc.session.uploadActive = true) (rest : reception.rest = [])
    {bytes : List UInt8} (fits : bytes.length ≤ 64) :
    ∃ staging, reception.Steps (reception.step (.packet bytes)) { reception with
      cdc := (reception.cdc.upload bytes).cdc, staging
      replies := reception.replies ++ (reception.cdc.upload bytes).reply.toList } := by
  obtain ⟨staging, uploaded, staged⟩ :=
    reception.cdc.checkedUpload_eq sound.bounded active sound.staged fits
  have bounded := sound.bounded
  refine ⟨staging, ?_, ⟨?_, staged⟩, _, rfl, ?_⟩
  · rw [Reception.step, if_neg (not_not_intro rest), if_pos active, uploaded]
    rfl
  · cases reception.cdc.upload_uploads bytes with
    | more split whole reply session short more writes =>
        rw [session]
        exact ⟨short, bounded.size, fun _ => more⟩
    | complete split whole reply staging inactive size enough writes =>
        refine ⟨?_, size ▸ bounded.size, ?_⟩
        · rw [staging]
          exact Nat.succ_pos 3
        · rw [inactive]
          exact nofun
    | failed reply failed calls writes call =>
        refine ⟨?_, ?_, ?_⟩
        · rw [failed.staging]
          exact Nat.succ_pos 3
        · rw [failed.size]
          exact Nat.zero_le _
        · rw [failed.inactive]
          exact nofun
  · intro ready
    cases reception.cdc.upload_uploads bytes with
    | more split whole reply session short more writes =>
        rw [session] at ready
        exact .inl ready
    | complete split whole reply staging inactive size enough writes =>
        rw [reply]
        exact .inr List.mem_cons_self
    | failed reply failed calls writes call =>
        rw [failed.imageReady] at ready
        cases ready

theorem Reception.Sound.step (sound : reception.Sound) {input : Input} (fits : input.Fits) :
    ∃ after, reception.Steps (reception.step input) after := by
  cases input with
  | packet bytes =>
      by_cases rest : reception.rest = []
      · cases active : reception.cdc.session.uploadActive with
        | true =>
            obtain ⟨staging, steps⟩ := sound.upload active rest fits
            exact ⟨_, steps⟩
        | false =>
            rw [Reception.step, if_neg (not_not_intro rest), active, if_neg Bool.false_ne_true]
            exact ⟨_, rfl, ⟨sound.bounded, sound.staged⟩, [], (List.append_nil _).symm, .inl⟩
      · rw [Reception.step, if_pos rest]
        exact ⟨reception, .same sound⟩
  | scan uartOta =>
      unfold Reception.step
      cases reception.rest with
      | nil => exact ⟨reception, .same sound⟩
      | cons byte rest =>
          have commanded := reception.cdc.push_commanded uartOta byte
          refine ⟨_, rfl, ⟨commanded.bounded sound.bounded, ?_⟩, _, rfl, ?_⟩
          · rcases commanded.staging with same | empty
            · rw [Session.StagedIn, same]
              exact sound.staged
            · exact .of_nil empty _
          · exact fun ready => .inl (commanded.imageReady ready)
  | connect =>
      refine ⟨_, rfl, ⟨⟨Nat.succ_pos 3, Nat.zero_le _, nofun⟩, .of_nil rfl _⟩, [],
        (List.append_nil _).symm, nofun⟩

theorem Reception.Sound.run (sound : reception.Sound) {inputs : List Input}
    (fits : ∀ input ∈ inputs, input.Fits) :
    ∃ after, reception.Steps (reception.run inputs) after := by
  induction inputs generalizing reception with
  | nil => exact ⟨reception, .same sound⟩
  | cons input inputs ih =>
      obtain ⟨middle, result, sound', new, replies, ready⟩ :=
        sound.step (fits input List.mem_cons_self)
      obtain ⟨after, result', sound'', new', replies', ready'⟩ :=
        ih sound' fun input member => fits input (List.mem_cons_of_mem _ member)
      refine ⟨after, ?_, sound'', new ++ new', ?_, ?_⟩
      · rw [Reception.run, List.foldlM_cons, result]
        exact result'
      · rw [replies', replies, List.append_assoc]
      · intro image
        rcases ready' image with image | new
        · exact (ready image).imp_right (List.mem_append_left _)
        · exact .inr (List.mem_append_right _ new)

theorem Reception.Sound.refuses (sound : reception.Sound)
    (imageReady : reception.cdc.session.imageReady = false) : reception.Refuses := by
  intro inputs fits after ran other
  obtain ⟨after', result, -, new, replies, ready⟩ := sound.run fits
  obtain rfl : after = after' := Except.ok.inj (ran.symm.trans result)
  rw [replies, List.drop_left] at other
  refine .of_imageReady (Bool.eq_false_iff.mpr fun image => ?_)
  rcases ready image with image | new
  · exact Bool.false_ne_true (imageReady.symm.trans image)
  · exact other new

/-! ## The packets of an image -/

/-- The calls, all done, that have written these bytes. -/
structure Stored (calls : List WriteCall) (bytes : List UInt8) : Prop where
  inOrder : InOrder 0 calls
  done : ∀ call ∈ calls, call.done = true
  data : calls.flatMap WriteCall.bytes = bytes

theorem InOrder.concat {offset : Nat} {calls : List WriteCall} (inOrder : InOrder offset calls)
    (aligned : offset % 4 = 0) {call : WriteCall}
    (next : call.offset = offset + (calls.flatMap WriteCall.bytes).length)
    (whole : call.bytes.length % 4 = 0) : InOrder offset (calls ++ [call]) := by
  induction calls generalizing offset with
  | nil => exact ⟨next, aligned, whole, trivial⟩
  | cons first rest ih =>
      obtain ⟨same, _, words, inOrder⟩ := inOrder
      refine ⟨same, aligned, words, ih inOrder (by omega) ?_⟩
      rw [next, List.flatMap_cons, List.length_append, Nat.add_assoc]

theorem Stored.nil : Stored [] [] := ⟨trivial, nofun, rfl⟩

theorem Stored.written {calls : List WriteCall} {bytes more : List UInt8}
    (stored : Stored calls bytes) (whole : more.length % 4 = 0) :
    Stored (calls ++ written bytes.length more) (bytes ++ more) := by
  unfold Serial.written
  split
  next none =>
    rw [none, List.append_nil, List.append_nil]
    exact stored
  · refine ⟨stored.inOrder.concat rfl ?_ whole, ?_, ?_⟩
    · rw [stored.data, Nat.zero_add]
    · intro call member
      rcases List.mem_append.mp member with member | member
      · exact stored.done call member
      · rw [List.mem_singleton.mp member]
    · rw [List.flatMap_append, stored.data, List.flatMap_singleton]

/-- An upload under way: `words` of what was sent have been written, the rest is staged. -/
structure Reception.Receiving (start : Reception (Logged F) I) (size : Nat)
    (sent : List UInt8) (reception : Reception (Logged F) I) : Prop where
  sound : reception.Sound
  rest : reception.rest = []
  active : reception.cdc.session.uploadActive = true
  size : reception.cdc.session.uploadSize = size
  replies : reception.replies = []
  words : ∃ calls words, reception.cdc.flash.writes = start.cdc.flash.writes ++ calls ∧
    Stored calls words ∧ words.length % 4 = 0 ∧
    reception.cdc.session.uploadReceived = words.length ∧
    sent = words ++ reception.cdc.session.staging

/-- What the packets of an image have led to. -/
inductive Reception.Progress (start : Reception (Logged F) I) (size : Nat)
    (packets : List (List UInt8)) (after : Reception (Logged F) I) : Prop where
  | receiving (more : packets.flatten.length < size)
      (receiving : start.Receiving size packets.flatten after)
  | complete (enough : size ≤ packets.flatten.length) (sound : after.Sound)
      (rest : after.rest = []) (inactive : after.cdc.session.uploadActive = false)
      (replies : after.replies = [.ok]) (calls : List WriteCall)
      (writes : after.cdc.flash.writes = start.cdc.flash.writes ++ calls)
      (stored : Stored calls (packets.flatten ++ padding packets.flatten.length))
  | failed (sound : after.Sound) (inactive : after.cdc.session.uploadActive = false)
      (calls : List WriteCall)
      (writes : after.cdc.flash.writes = start.cdc.flash.writes ++ calls)
      (call : ∃ call ∈ calls, call.done = false)
      (reply : ∃ before packet rest failed, packets = before ++ packet :: rest ∧
        start.run ((before ++ [packet]).map .packet) = .ok failed ∧
        failed.replies = [.errWrite] ∧ failed.Refuses)

theorem padding_whole (length : Nat) : (length + (padding length).length) % 4 = 0 := by
  rw [padding, List.length_replicate]
  omega

theorem padding_add {length : Nat} (rest : Nat) (whole : length % 4 = 0) :
    padding (length + rest) = padding rest := by
  rw [padding, padding, Nat.add_mod, whole, Nat.zero_add, Nat.mod_mod]

variable {start after : Reception (Logged F) I} {size : Nat} {packets : List (List UInt8)}
  {packet : List UInt8}

theorem Reception.run_concat {next : Reception (Logged F) I}
    (ran : start.run (packets.map .packet) = .ok after)
    (result : after.step (.packet packet) = .ok next) :
    start.run ((packets ++ [packet]).map .packet) = .ok next := by
  rw [List.map_append, Reception.run_append, ran]
  change (after.step (.packet packet) >>= pure) = _
  rw [result]
  rfl

theorem Reception.Receiving.step
    (receiving : start.Receiving size packets.flatten after)
    (ran : start.run (packets.map .packet) = .ok after) (fits : packet.length ≤ 64) :
    ∃ next, after.step (.packet packet) = .ok next ∧
      start.Progress size (packets ++ [packet]) next := by
  obtain ⟨calls, words, writes, stored, whole, received, sent⟩ := receiving.words
  obtain ⟨staging, steps⟩ := receiving.sound.upload receiving.active receiving.rest fits
  refine ⟨_, steps.result, ?_⟩
  have sound := steps.sound
  cases after.cdc.upload_uploads packet with
  | @more new rest split whole' reply session short more writes' =>
      have sent' : (packets ++ [packet]).flatten = words ++ new ++ rest := by
        rw [List.flatten_concat, sent, List.append_assoc, split, List.append_assoc]
      rw [received, receiving.size] at more
      refine .receiving ?_ ⟨sound, receiving.rest, ?_, ?_, ?_, ?_⟩
      · rw [sent', List.length_append, List.length_append]
        exact more
      · exact (congrArg Session.uploadActive session).trans receiving.active
      · exact (congrArg Session.uploadSize session).trans receiving.size
      · rw [receiving.replies, reply]
        rfl
      · refine ⟨calls ++ written words.length new, words ++ new, ?_, stored.written whole', ?_, ?_,
          ?_⟩
        · rw [writes', writes, received, List.append_assoc]
        · rw [List.length_append, Nat.add_mod, whole, whole']
        · rw [session, received, List.length_append]
        · rw [sent', session]
  | @complete new rest split whole' reply staging inactive size enough writes' =>
      have sent' : (packets ++ [packet]).flatten = words ++ new ++ rest := by
        rw [List.flatten_concat, sent, List.append_assoc, split, List.append_assoc]
      have length : (words ++ new).length % 4 = 0 := by
        rw [List.length_append, Nat.add_mod, whole, whole']
      rw [received, receiving.size] at enough
      refine .complete ?_ sound receiving.rest inactive ?_
        (calls ++ written words.length new ++
          written (words ++ new).length (rest ++ padding rest.length)) ?_ ?_
      · rw [sent', List.length_append, List.length_append]
        exact enough
      · rw [receiving.replies, reply]
        rfl
      · rw [writes', writes, received, List.length_append, List.append_assoc, List.append_assoc,
          List.append_assoc]
      · have padded : ((packets ++ [packet]).flatten ++
            padding (packets ++ [packet]).flatten.length) =
            words ++ new ++ (rest ++ padding rest.length) := by
          rw [sent', List.length_append, padding_add rest.length length, List.append_assoc]
        rw [padded]
        apply (stored.written whole').written
        rw [List.length_append]
        exact padding_whole rest.length
  | failed reply failed calls' writes' call =>
      refine .failed sound failed.inactive (calls ++ calls') ?_ ?_ ?_
      · exact (writes'.trans (congrArg (· ++ calls') writes)).trans (List.append_assoc _ _ _)
      · obtain ⟨call, member, refused⟩ := call
        exact ⟨call, List.mem_append_right _ member, refused⟩
      · refine ⟨packets, packet, [], _, rfl, ?_, ?_, sound.refuses failed.imageReady⟩
        · exact Reception.run_concat ran steps.result
        · rw [receiving.replies, reply]
          rfl

/-- A packet after the image has no bytes. -/
theorem Reception.Progress.step (progress : start.Progress size packets after)
    (ran : start.run (packets.map .packet) = .ok after) (fits : packet.length ≤ 64)
    (within : (packets ++ [packet]).flatten.length ≤ size) :
    ∃ next, after.step (.packet packet) = .ok next ∧
      start.Progress size (packets ++ [packet]) next := by
  cases progress with
  | receiving more receiving => exact receiving.step ran fits
  | complete enough sound rest inactive replies calls writes stored =>
      have flatten : (packets ++ [packet]).flatten = packets.flatten ++ packet :=
        List.flatten_concat
      have empty : packet = [] := by
        rw [flatten, List.length_append] at within
        exact List.eq_nil_of_length_eq_zero (by omega)
      subst empty
      rw [List.append_nil] at flatten
      refine ⟨{ after with rest := [] }, ?_, ?_⟩
      · rw [Reception.step, if_neg (not_not_intro rest), inactive, if_neg Bool.false_ne_true]
        rfl
      · refine .complete ?_ ⟨sound.bounded, sound.staged⟩ rfl inactive replies calls writes ?_
        · rw [flatten]
          exact enough
        · rw [flatten]
          exact stored
  | failed sound inactive calls writes call reply =>
      obtain ⟨before, failing, rest, failed, same, result⟩ := reply
      have split : packets ++ [packet] = before ++ failing :: (rest ++ [packet]) := by
        rw [same, List.append_assoc, List.cons_append]
      have reply : ∃ before failing rest failed, packets ++ [packet] = before ++ failing :: rest ∧
          start.run ((before ++ [failing]).map .packet) = .ok failed ∧
          failed.replies = [.errWrite] ∧ failed.Refuses :=
        ⟨before, failing, rest ++ [packet], failed, split, result⟩
      unfold Reception.step
      dsimp only
      split
      · exact ⟨after, rfl, .failed sound inactive calls writes call reply⟩
      · rw [inactive, if_neg Bool.false_ne_true]
        exact ⟨_, rfl, .failed ⟨sound.bounded, sound.staged⟩ inactive calls writes call reply⟩

/-- Any number of packets after those of `packets`. -/
theorem Reception.Progress.run {more : List (List UInt8)}
    (progress : start.Progress size packets after)
    (ran : start.run (packets.map .packet) = .ok after)
    (fits : ∀ packet ∈ more, packet.length ≤ 64)
    (within : (packets ++ more).flatten.length ≤ size) :
    ∃ last, start.run ((packets ++ more).map .packet) = .ok last ∧
      start.Progress size (packets ++ more) last := by
  induction more generalizing packets after with
  | nil =>
      rw [List.append_nil]
      exact ⟨after, ran, progress⟩
  | cons packet more ih =>
      rw [List.append_cons] at within ⊢
      have shorter : (packets ++ [packet]).flatten.length ≤ size := by
        rw [List.flatten_append, List.length_append] at within
        omega
      obtain ⟨next, result, progress'⟩ :=
        progress.step ran (fits packet List.mem_cons_self) shorter
      have fits' : ∀ packet ∈ more, packet.length ≤ 64 :=
        fun packet member => fits packet (List.mem_cons_of_mem _ member)
      exact ih progress' (Reception.run_concat ran result) fits' within

omit [FirmwareUpdater F I] in
theorem Reception.calls_eq {calls : List WriteCall}
    (writes : after.cdc.flash.writes = start.cdc.flash.writes ++ calls) :
    start.calls after = calls := by
  rw [Reception.calls, writes, List.drop_left]

/-- All the writes have succeeded. -/
theorem Stored.staged {calls : List WriteCall} {bytes : List UInt8} (stored : Stored calls bytes)
    (writes : after.cdc.flash.writes = start.cdc.flash.writes ++ calls)
    (data : size ≤ packets.flatten.length → bytes = packets.flatten ++ padding size)
    (replies : after.replies = if packets.flatten.length < size then [] else [.ok]) :
    start.Staged size packets after := by
  have since := Reception.calls_eq writes
  constructor
  · exact fun _ => since ▸ stored.inOrder
  · intro _ enough
    rw [since, stored.data, data enough]
  · exact fun _ => replies
  · intro ⟨call, member, refused⟩
    rw [stored.done call (since ▸ member)] at refused
    cases refused

theorem Reception.Progress.staged (progress : start.Progress size packets after)
    (within : packets.flatten.length ≤ size) : start.Staged size packets after := by
  cases progress with
  | receiving more receiving =>
      obtain ⟨calls, words, writes, stored, -⟩ := receiving.words
      apply stored.staged writes
      · exact fun enough => absurd enough (Nat.not_le.mpr more)
      · exact receiving.replies.trans (if_pos more).symm
  | complete enough sound rest inactive replies calls writes stored =>
      have all : packets.flatten.length = size := Nat.le_antisymm within enough
      apply stored.staged writes
      · exact fun _ => by rw [all]
      · exact replies.trans (if_neg (Nat.not_lt.mpr enough)).symm
  | failed sound inactive calls writes call reply =>
      have since := Reception.calls_eq writes
      have refused : ¬ ∀ call ∈ start.calls after, call.done = true := by
        intro done
        obtain ⟨call, member, refused⟩ := call
        rw [done call (since ▸ member)] at refused
        cases refused
      constructor
      · exact fun done => absurd done refused
      · exact fun done => absurd done refused
      · exact fun done => absurd done refused
      · exact fun _ => reply

end Runs

section Images

variable {F I : Type} [FirmwareUpdater F I] (cdc : Cdc (Logged F) I) (staging : Vector UInt8 68)
  {size : Nat}

omit [FirmwareUpdater F I] in
theorem Cdc.beginUpload_eq (positive : 0 < size) (limit : size ≤ activeImageLimit) :
    cdc.beginUpload false size = {
      cdc := { cdc with
        session := { cdc.session with
          uploadActive := true, uploadSize := size, uploadReceived := 0, staging := []
          imageReady := false }
        uploading := true }
      reply := some .ready } := by
  have legal : ¬ (size = 0 ∨ size > activeImageLimit) := by omega
  rw [beginUpload, if_neg Bool.false_ne_true, if_neg legal]

omit [FirmwareUpdater F I] in
theorem Reception.ready_receiving (positive : 0 < size) (limit : size ≤ activeImageLimit) :
    (Reception.ready cdc staging size).Receiving size [] (Reception.ready cdc staging size) := by
  have begun := cdc.beginUpload_eq positive limit
  constructor
  · constructor
    · rw [Reception.ready, begun]
      exact ⟨Nat.succ_pos 3, limit, fun _ => positive⟩
    · apply Session.StagedIn.of_nil
      rw [Reception.ready, begun]
  · rfl
  · rw [Reception.ready, begun]
  · rw [Reception.ready, begun]
  · rfl
  · refine ⟨[], [], (List.append_nil _).symm, .nil, rfl, ?_, ?_⟩
    · rw [Reception.ready, begun]
      rfl
    · rw [Reception.ready, begun]
      rfl

/-- The writes and the replies of an upload are those of its image, however it is split into
packets, and no index into the buffer fails. -/
theorem Reception.staged_any_split (positive : 0 < size) (limit : size ≤ activeImageLimit)
    {image : List UInt8} (length : image.length = size) {sent unsent : List (List UInt8)}
    (split : (sent ++ unsent).flatten = image)
    (fits : ∀ packet ∈ sent ++ unsent, packet.length ≤ 64) :
    (cdc.beginUpload false size).reply = some .ready ∧
    (∀ inputs : List Input, (∀ input ∈ inputs, input.Fits) →
      ∃ after, (Reception.ready cdc staging size).run inputs = .ok after) ∧
    ∃ after, (Reception.ready cdc staging size).run (sent.map .packet) = .ok after ∧
      (Reception.ready cdc staging size).Staged size sent after := by
  have receiving := Reception.ready_receiving cdc staging positive limit
  refine ⟨?_, ?_, ?_⟩
  · rw [cdc.beginUpload_eq positive limit]
  · intro inputs fits
    obtain ⟨after, steps⟩ := receiving.sound.run fits
    exact ⟨after, steps.result⟩
  · have within : sent.flatten.length ≤ size := by
      rw [← length, ← split, List.flatten_append, List.length_append]
      exact Nat.le_add_right _ _
    have none : (Reception.ready cdc staging size).Progress size []
        (Reception.ready cdc staging size) := .receiving positive receiving
    obtain ⟨after, ran, progress⟩ :=
      none.run rfl (fun packet member => fits packet (List.mem_append_left _ member)) within
    exact ⟨after, ran, progress.staged within⟩

def benchReception : Reception (Logged Partition) (Option Nat) :=
  .ready { updater := none, flash := { flash := ⟨fun _ => 0xFF⟩ } } (.replicate 68 0) 5

/-- An image of five bytes. -/
def benchPackets : List (List UInt8) := [[1, 2], [], [3, 4, 5]]

theorem Reception.staged_any_split_five :
    (benchReception.run (benchPackets.map .packet)).toOption.map
        (fun after => (after.replies, benchReception.calls after)) =
      some ([.ok], [⟨0, [1, 2, 3, 4], true⟩, ⟨4, [5, 0xFF, 0xFF, 0xFF], true⟩]) ∧
    ∃ after, benchReception.run (benchPackets.map .packet) = .ok after ∧
      benchReception.Staged 5 benchPackets after := by
  have split : (benchPackets ++ []).flatten = [1, 2, 3, 4, 5] := rfl
  constructor
  · decide +kernel
  · exact (Reception.staged_any_split _ (.replicate 68 0) (by decide) (by decide) rfl split
      (by decide)).2.2

end Images

end NrfUnifying.Serial
