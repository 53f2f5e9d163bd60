import NrfUnifying.Lib.Runs
import NrfUnifying.Serial.Session

/-!
# What a CDC upload leaves in the DFU partition

A history since boot interleaves CDC sessions, the bytes of their packets and
UART update requests. The serial task keeps one updater for all uploads, so the
sector it erased last outlives an upload.
-/

namespace NrfUnifying.Serial

open Lib.Bytes Lib.Flash Lib.Runs Lib.SectorWriter Updater UartOta

/-- An accepted upload: the updater and the flash it started with, and what was sent so far. -/
structure Upload (F I : Type) where
  size : Nat
  updater : I
  flash : F
  sent : List UInt8 := []

/-- An upload answered `OK`, and the flash it left. -/
structure Answered (F I : Type) where
  upload : Upload F I
  after : F

/-- The serial task and the worker's side of UART updates. -/
structure History (F I : Type) where
  cdc : Cdc F I
  live : Bool := false
  /-- The bytes of the current packet that are still to be scanned. -/
  rest : List UInt8 := []
  ota : Ota := {}
  otaUpdater : I
  uartOta : Bool := false
  upload : Option (Upload F I) := none
  answered : List (Answered F I) := []

inductive Event where
  | connect
  | disconnect
  | packet (bytes : List UInt8)
  | scan
  | uartLine (line : List UInt8)
  | uartTimeout
  deriving DecidableEq, Repr

variable {F I : Type} [FirmwareUpdater F I]

def History.boot (flash : F) : History F I := {
  cdc := { updater := FirmwareUpdater.create flash, flash }
  otaUpdater := FirmwareUpdater.create flash }

/-- A packet during an upload; `OK` moves the upload to the answered ones. -/
def History.receive (history : History F I) (bytes : List UInt8) : History F I :=
  let outcome := history.cdc.upload bytes
  let upload := history.upload.map fun upload => { upload with sent := upload.sent ++ bytes }
  { history with
    cdc := outcome.cdc
    upload
    answered := history.answered ++
      if outcome.reply = some .ok then
        upload.toList.map fun upload => ⟨upload, outcome.cdc.flash⟩
      else [] }

/-- A byte outside an upload packet; `READY` starts an upload. -/
def History.push (history : History F I) (byte : UInt8) : History F I :=
  let outcome := history.cdc.push history.uartOta byte
  { history with
    cdc := outcome.cdc
    upload :=
      if outcome.reply = some .ready then some {
        size := outcome.cdc.session.uploadSize
        updater := history.cdc.updater
        flash := history.cdc.flash }
      else history.upload }

def History.step (history : History F I) : Event → History F I
  | .connect =>
      if history.live then history
      else { history with live := true, rest := [], cdc := { history.cdc with session := {} } }
  | .disconnect =>
      { history with live := false, cdc := { history.cdc with uploading := false } }
  | .packet bytes =>
      if history.live = false ∨ history.rest ≠ [] then history
      else if history.cdc.session.uploadActive then history.receive bytes
      else { history with rest := bytes }
  | .scan =>
      match history.live, history.rest with
      | true, byte :: rest => { history with rest }.push byte
      | _, _ => history
  | .uartLine line =>
      if isOta line = false ∨ history.cdc.uploading then history
      else
        let served := serve history.ota ⟨history.otaUpdater, history.cdc.flash⟩ line
        { history with
          ota := served.ota
          otaUpdater := served.store.updater
          cdc := { history.cdc with flash := served.store.flash }
          uartOta := served.ota.active }
  | .uartTimeout =>
      if history.ota.active then { history with ota := history.ota.abort, uartOta := false }
      else history

/-! ## What the serial task does to an upload -/

section Upload

variable (dfu : F → Cells) (lastErased : I → Option Nat)

/-- The partition as the serial task's updater sees it. -/
def Cdc.sectors (cdc : Cdc F I) : Sectors := Updater.sectors dfu lastErased cdc.updater cdc.flash

def Upload.sectors (upload : Upload F I) : Sectors :=
  Updater.sectors dfu lastErased upload.updater upload.flash

/-- An upload in progress: `written` has gone through the updater, the rest is staged. -/
structure Writing (cdc : Cdc F I) (upload : Upload F I) (written : List UInt8) : Prop where
  size : cdc.session.uploadSize = upload.size
  uploading : cdc.uploading = true
  sent : upload.sent = written ++ cdc.session.staging
  received : cdc.session.uploadReceived = written.length
  sectors : cdc.sectors dfu lastErased =
    (upload.sectors dfu lastErased).write sectorSize 0 written

/-- What a packet does to an upload: it goes on, it fails, or it is complete. -/
inductive Progress (upload : Upload F I) (outcome : Outcome F I) : Prop where
  | more (written : List UInt8) (reply : outcome.reply = none)
      (writing : Writing dfu lastErased outcome.cdc upload written)
  | failed (reply : outcome.reply = some .errWrite)
      (inactive : outcome.cdc.session.uploadActive = false)
  | complete (padding : List UInt8) (reply : outcome.reply = some .ok)
      (inactive : outcome.cdc.session.uploadActive = false)
      (enough : upload.size ≤ upload.sent.length)
      (stored : outcome.cdc.sectors dfu lastErased =
        (upload.sectors dfu lastErased).write sectorSize 0 (upload.sent ++ padding))

/-- What a byte outside an upload packet does to an upload. -/
inductive Pushed (cdc : Cdc F I) (outcome : Outcome F I) : Prop where
  | began (reply : outcome.reply = some .ready)
      (writing : Writing dfu lastErased outcome.cdc
        { size := outcome.cdc.session.uploadSize, updater := cdc.updater, flash := cdc.flash } [])
  | ended (reply : outcome.reply ≠ some .ready)
      (inactive : outcome.cdc.session.uploadActive = false)
  | kept (reply : outcome.reply ≠ some .ready)
      (active : outcome.cdc.session.uploadActive = cdc.session.uploadActive)
      (writing : ∀ upload written, Writing dfu lastErased cdc upload written →
        Writing dfu lastErased outcome.cdc upload written)

/-- Outside an upload nothing is required; within one it is being written. -/
def History.Tracked (history : History F I) : Prop :=
  history.live = true → history.cdc.session.uploadActive = true →
    ∃ upload written, history.upload = some upload ∧
      Writing dfu lastErased history.cdc upload written

variable {dfu lastErased}

theorem Cdc.write_cases (lawful : FirmwareUpdater.Lawful dfu lastErased) (cdc : Cdc F I)
    (bytes : List UInt8) :
    (cdc.write bytes).1 = true ∧ (cdc.write bytes).2.session = cdc.session ∧
        (cdc.write bytes).2.uploading = cdc.uploading ∧
        (cdc.write bytes).2.sectors dfu lastErased =
          (cdc.sectors dfu lastErased).write sectorSize cdc.session.uploadReceived bytes ∨
      (cdc.write bytes).1 = false ∧ (cdc.write bytes).2.session.uploadActive = false := by
  have sectors := lawful.write_sectors cdc.updater cdc.flash cdc.session.uploadReceived bytes
  rw [Cdc.write]
  cases written : FirmwareUpdater.writeFirmware cdc.updater cdc.flash cdc.session.uploadReceived
      bytes with
  | mk done after =>
      rw [written] at sectors
      cases done with
      | true => exact .inl ⟨rfl, rfl, rfl, sectors rfl⟩
      | false => exact .inr ⟨rfl, rfl⟩

/-- The end of an upload stores what was sent and some padding, or fails. -/
theorem Writing.finish (lawful : FirmwareUpdater.Lawful dfu lastErased) {cdc : Cdc F I}
    {upload : Upload F I} {written : List UInt8}
    (writing : Writing dfu lastErased cdc upload written) :
    cdc.finish.cdc.session.uploadActive = false ∧
      (cdc.finish.reply = some .errWrite ∨
        cdc.finish.reply = some .ok ∧ ∃ padding, cdc.finish.cdc.sectors dfu lastErased =
          (upload.sectors dfu lastErased).write sectorSize 0 (upload.sent ++ padding)) := by
  rw [Cdc.finish]
  by_cases whole : cdc.session.staging.isEmpty = true
  · rw [if_pos whole]
    have sent := writing.sent
    rw [List.isEmpty_iff.mp whole, List.append_nil] at sent
    refine ⟨rfl, .inr ⟨rfl, [], ?_⟩⟩
    rw [List.append_nil, sent]
    exact writing.sectors
  · rw [if_neg whole]
    have cases := cdc.write_cases lawful
      (cdc.session.staging ++ List.replicate (4 - cdc.session.staging.length) 0xFF)
    generalize cdc.write _ = result at cases
    obtain ⟨done, after⟩ := result
    rcases cases with ⟨rfl, -, -, sectors⟩ | ⟨rfl, inactive⟩
    · refine ⟨rfl, .inr ⟨rfl, List.replicate (4 - cdc.session.staging.length) 0xFF, ?_⟩⟩
      rw [writing.sent, List.append_assoc, Sectors.write_append, ← writing.sectors, Nat.zero_add,
        ← writing.received]
      exact sectors
    · exact ⟨inactive, .inl rfl⟩

theorem Writing.stage (lawful : FirmwareUpdater.Lawful dfu lastErased) {cdc : Cdc F I}
    {upload : Upload F I} {written staging : List UInt8}
    (writing : Writing dfu lastErased
      { cdc with session := { cdc.session with staging } } upload written) :
    Progress dfu lastErased upload (cdc.stage staging) := by
  rw [Cdc.stage]
  dsimp only
  split
  next complete =>
    have enough : upload.size ≤ upload.sent.length := by
      have received := writing.received
      have size := writing.size
      dsimp only at received size
      rw [writing.sent, List.length_append, ← received, ← size]
      exact complete
    obtain ⟨inactive, failed | ⟨reply, padding, stored⟩⟩ := writing.finish lawful
    · exact .failed failed inactive
    · exact .complete padding reply inactive enough stored
  · exact .more written rfl writing

/-- A packet goes on with the upload, fails, or completes it. -/
theorem Writing.packet (lawful : FirmwareUpdater.Lawful dfu lastErased) {cdc : Cdc F I}
    {upload : Upload F I} {written : List UInt8}
    (writing : Writing dfu lastErased cdc upload written) (packet : List UInt8) :
    Progress dfu lastErased { upload with sent := upload.sent ++ packet } (cdc.upload packet) := by
  rw [Cdc.upload]
  dsimp only
  generalize split : (cdc.session.staging ++ packet).length / 4 * 4 = aligned
  have sent : upload.sent ++ packet = written ++ (cdc.session.staging ++ packet) := by
    rw [writing.sent, List.append_assoc]
  by_cases nothing : aligned = 0
  · rw [if_pos nothing]
    have staged : Writing dfu lastErased
        { cdc with session := { cdc.session with staging := cdc.session.staging ++ packet } }
        { upload with sent := upload.sent ++ packet } written := {
      size := writing.size, uploading := writing.uploading, sent
      received := writing.received, sectors := writing.sectors }
    exact staged.stage lawful
  · rw [if_neg nothing]
    have cases := cdc.write_cases lawful ((cdc.session.staging ++ packet).take aligned)
    generalize cdc.write _ = result at cases
    obtain ⟨done, after⟩ := result
    rcases cases with ⟨rfl, session, uploading, sectors⟩ | ⟨rfl, inactive⟩
    · dsimp only at session uploading sectors
      suffices staged : Writing dfu lastErased
          { after with session := { after.session with
            uploadReceived := after.session.uploadReceived + aligned
            staging := (cdc.session.staging ++ packet).drop aligned } }
          { upload with sent := upload.sent ++ packet }
          (written ++ (cdc.session.staging ++ packet).take aligned) from staged.stage lawful
      refine {
        size := ?_, uploading := uploading.trans writing.uploading, sent := ?_, received := ?_
        sectors := ?_ }
      · rw [session]
        exact writing.size
      · rw [List.append_assoc, List.take_append_drop]
        exact sent
      · change after.session.uploadReceived + aligned = _
        rw [session, writing.received, List.length_append, List.length_take]
        omega
      · rw [Sectors.write_append, Nat.zero_add, ← writing.received]
        refine sectors.trans ?_
        rw [writing.sectors]
        rfl
    · exact .failed rfl inactive

theorem Cdc.dispatch_cases (lawful : FirmwareUpdater.Lawful dfu lastErased) (cdc : Cdc F I)
    (uartOta : Bool) (line : List UInt8) :
    Pushed dfu lastErased cdc (cdc.dispatch uartOta line) := by
  rw [Cdc.dispatch]
  split
  · exact .kept (by simp) rfl fun _ _ writing => writing
  · exact .kept (by simp) rfl fun _ _ writing => writing
  · rw [Cdc.beginUpload]
    split
    · exact .kept (by simp) rfl fun _ _ writing => writing
    · split
      · exact .kept (by simp) rfl fun _ _ writing => writing
      · exact .began rfl {
          size := rfl, uploading := rfl, sent := rfl, received := rfl, sectors := rfl }
  · rw [Cdc.boot]
    split
    · exact .kept (by simp) rfl fun _ _ writing => writing
    · split
      · exact .kept (by simp) rfl fun _ _ writing => writing
      · have keeps := lawful.mark_keeps cdc.updater cdc.flash
        generalize FirmwareUpdater.markUpdated cdc.updater cdc.flash = result at keeps
        obtain ⟨done, updater, flash⟩ := result
        have still : ∀ upload written, Writing dfu lastErased cdc upload written →
            Writing dfu lastErased { cdc with updater, flash } upload written :=
          fun upload written writing =>
            { writing with sectors := keeps.trans writing.sectors }
        cases done with
        | false => exact .kept (by simp) rfl still
        | true => exact .kept (by simp) rfl still
  · exact .ended (by simp) rfl
  · exact .kept (by simp) rfl fun _ _ writing => writing
  · exact .kept (by simp) rfl fun _ _ writing => writing

theorem Cdc.push_cases (lawful : FirmwareUpdater.Lawful dfu lastErased) (cdc : Cdc F I)
    (uartOta : Bool) (byte : UInt8) :
    Pushed dfu lastErased cdc (cdc.push uartOta byte) := by
  have same (line : List UInt8) (discardLine : Bool) (upload : Upload F I) (written : List UInt8)
      (writing : Writing dfu lastErased cdc upload written) : Writing dfu lastErased
        { cdc with session := { cdc.session with line, discardLine } } upload written :=
    ⟨writing.size, writing.uploading, writing.sent, writing.received, writing.sectors⟩
  rw [Cdc.push]
  dsimp only
  split
  · split
    · exact .kept (by simp) rfl (same [] false)
    · have dispatched := Cdc.dispatch_cases lawful
        { cdc with session := { cdc.session with line := [], discardLine := false } } uartOta
        cdc.session.line
      cases dispatched with
      | began reply writing => exact .began reply writing
      | ended reply inactive => exact .ended reply inactive
      | kept reply active writing =>
          exact .kept reply active fun upload written before =>
            writing upload written (same [] false upload written before)
  · split
    · split
      · exact .kept (by simp) rfl (same cdc.session.line true)
      · exact .kept (by simp) rfl (same _ cdc.session.discardLine)
    · exact .kept (by simp) rfl fun _ _ writing => writing

end Upload

/-! ## Whole histories -/

/-- The partition holds what was sent exactly when the updater does not remember erasing its first
sector, or the sector already had every one bit of the new bytes. -/
def Answered.Characterized (dfu : F → Cells) (lastErased : I → Option Nat)
    (answered : Answered F I) : Prop :=
  slice (dfu answered.after) 0 answered.upload.size =
      answered.upload.sent.take answered.upload.size ↔
    lastErased answered.upload.updater ≠ some 0 ∨
      ∀ i < min answered.upload.size sectorSize,
        dfu answered.upload.flash i &&& answered.upload.sent.getD i 0xFF =
          answered.upload.sent.getD i 0xFF

section History

variable {dfu : F → Cells} {lastErased : I → Option Nat}

omit [FirmwareUpdater F I] in
theorem Answered.characterized {upload : Upload F I} {cdc : Cdc F I} {padding : List UInt8}
    (enough : upload.size ≤ upload.sent.length)
    (stored : cdc.sectors dfu lastErased =
      (upload.sectors dfu lastErased).write sectorSize 0 (upload.sent ++ padding)) :
    Answered.Characterized dfu lastErased ⟨upload, cdc.flash⟩ := by
  have long : upload.size ≤ (upload.sent ++ padding).length := by
    rw [List.length_append]
    omega
  have pageSize : 0 < sectorSize := by decide
  have written := (upload.sectors dfu lastErased).slice_write_iff pageSize long
  rw [← stored, List.take_append_of_le_length enough] at written
  refine written.trans (or_congr_right (forall₂_congr fun i inside => ?_))
  rw [List.getD_append _ _ _ _ (by omega)]
  rfl

theorem History.Tracked.step (lawful : FirmwareUpdater.Lawful dfu lastErased)
    {history : History F I} (tracked : history.Tracked dfu lastErased) (event : Event) :
    (history.step event).Tracked dfu lastErased := by
  cases event with
  | connect =>
      rw [History.step]
      split
      · exact tracked
      · intro _ active
        cases active
  | disconnect =>
      intro live
      cases live
  | packet bytes =>
      rw [History.step]
      split
      · exact tracked
      next ready =>
        split
        next active =>
          intro live active'
          obtain ⟨upload, written, known, writing⟩ := tracked live active
          cases writing.packet lawful bytes with
          | more written reply writing =>
              exact ⟨_, written, congrArg (Option.map _) known, writing⟩
          | failed reply inactive => exact absurd active' (by simp [receive, inactive])
          | complete padding reply inactive => exact absurd active' (by simp [receive, inactive])
        next inactive => exact fun _ active => absurd active inactive
  | scan =>
      rw [History.step]
      split
      next byte rest live pending =>
        intro _ active
        cases Cdc.push_cases lawful history.cdc history.uartOta byte with
        | began reply writing => exact ⟨_, [], if_pos reply, writing⟩
        | ended reply inactive => exact absurd active (by simp [push, inactive])
        | kept reply same writing =>
            obtain ⟨upload, written, known, before⟩ := tracked live (same ▸ active)
            exact ⟨upload, written, (if_neg reply).trans known, writing _ _ before⟩
      · exact tracked
  | uartLine line =>
      rw [History.step]
      split
      · exact tracked
      next free =>
        intro live active
        obtain ⟨upload, written, known, writing⟩ := tracked live active
        exact absurd (.inr writing.uploading) free
  | uartTimeout =>
      rw [History.step]
      split
      · exact tracked
      · exact tracked

theorem History.answered_step (lawful : FirmwareUpdater.Lawful dfu lastErased)
    {history : History F I} (tracked : history.Tracked dfu lastErased)
    (known : ∀ answered ∈ history.answered, answered.Characterized dfu lastErased)
    (event : Event) :
    ∀ answered ∈ (history.step event).answered, answered.Characterized dfu lastErased := by
  cases event with
  | connect =>
      rw [History.step]
      split <;> exact known
  | disconnect => exact known
  | packet bytes =>
      rw [History.step]
      split
      · exact known
      next ready =>
        split
        next active =>
          have live : history.live = true := by
            simp only [not_or, Bool.not_eq_false] at ready
            exact ready.1
          obtain ⟨upload, written, current, writing⟩ := tracked live active
          intro answered member
          rcases List.mem_append.mp member with old | new
          · exact known answered old
          · cases writing.packet lawful bytes with
            | more written reply => simp [reply] at new
            | failed reply => simp [reply] at new
            | complete padding reply inactive enough stored =>
                simp only [reply, if_true, current, Option.map_some, Option.toList_some,
                  List.map_cons, List.map_nil, List.mem_singleton] at new
                rw [new]
                exact Answered.characterized enough stored
        · exact known
  | scan =>
      rw [History.step]
      split <;> exact known
  | uartLine line =>
      rw [History.step]
      split <;> exact known
  | uartTimeout =>
      rw [History.step]
      split <;> exact known

end History

/-- In every history, an upload answered `OK` is what the partition holds exactly when its first
sector was erased for it or needed no erasing. -/
theorem upload_exact_iff {dfu : F → Cells} {lastErased : I → Option Nat}
    (lawful : FirmwareUpdater.Lawful dfu lastErased) (flash : F) (events : List Event) :
    Always History.step (fun history => ∀ answered ∈ history.answered,
        (slice (dfu answered.after) 0 answered.upload.size =
            answered.upload.sent.take answered.upload.size ↔
          lastErased answered.upload.updater ≠ some 0 ∨
            ∀ i < min answered.upload.size sectorSize,
              dfu answered.upload.flash i &&& answered.upload.sent.getD i 0xFF =
                answered.upload.sent.getD i 0xFF))
      (History.boot flash) events := by
  have always : Always History.step (fun history => history.Tracked dfu lastErased ∧
      ∀ answered ∈ history.answered, answered.Characterized dfu lastErased)
      (History.boot flash) events := by
    refine Always.of_step (fun history event valid => ?_) ⟨?_, ?_⟩ events
    · exact ⟨valid.1.step lawful event, History.answered_step lawful valid.1 valid.2 event⟩
    · intro live
      cases live
    · intro answered impossible
      cases impossible
  exact fun before after same => (always before after same).2

/-- Two uploads of four bytes in one session. -/
def uploadTwice : List Event :=
  .connect :: .packet (ascii "WRITE 4\n") :: List.replicate 8 .scan ++
    .packet [0x0F, 0x0F, 0x0F, 0x0F] :: .packet (ascii "WRITE 4\n") :: List.replicate 8 .scan ++
    [.packet [0x3C, 0x3C, 0x3C, 0x3C]]

/-- The second upload is answered `OK` over the sector that the first one erased. -/
theorem upload_mixed :
    ¬∀ events, Always History.step (fun history => ∀ answered ∈ history.answered,
        slice answered.after.cells 0 answered.upload.size =
          answered.upload.sent.take answered.upload.size)
      (History.boot (⟨fun _ => 0xFF⟩ : Partition)) events := by
  intro exact_uploads
  have stored := exact_uploads uploadTwice uploadTwice [] (List.append_nil _).symm
  have mixed : ∃ answered ∈ (uploadTwice.foldl History.step
      (History.boot (⟨fun _ => 0xFF⟩ : Partition))).answered,
      slice answered.after.cells 0 answered.upload.size ≠
        answered.upload.sent.take answered.upload.size := by decide
  obtain ⟨answered, member, different⟩ := mixed
  exact different (stored answered member)

theorem upload_exact_iff_twice :
    (uploadTwice.foldl History.step
        (History.boot (⟨fun _ => 0xFF⟩ : Partition))).answered.length = 2 ∧
      Always History.step (fun history => ∀ answered ∈ history.answered,
        (slice answered.after.cells 0 answered.upload.size =
            answered.upload.sent.take answered.upload.size ↔
          answered.upload.updater ≠ some 0 ∨
            ∀ i < min answered.upload.size sectorSize,
              answered.upload.flash.cells i &&& answered.upload.sent.getD i 0xFF =
                answered.upload.sent.getD i 0xFF))
        (History.boot (⟨fun _ => 0xFF⟩ : Partition)) uploadTwice :=
  ⟨by decide +kernel, upload_exact_iff Partition.lawful _ uploadTwice⟩

end NrfUnifying.Serial
