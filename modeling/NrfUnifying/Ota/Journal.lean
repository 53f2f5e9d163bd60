import NrfUnifying.Ota.Updater

/-!
# The calls of the updaters

A journaled partition notes which calls its updaters are asked for; nothing
depends on the notes.
-/

namespace NrfUnifying.Updater

open Lib.Bytes UartOta

inductive UpdaterCall where
  | write
  | mark (done : Bool)
  deriving DecidableEq, Repr

/-- A partition with the calls made for it, the latest last. -/
structure Journaled (F : Type) where
  flash : F
  calls : List UpdaterCall := []

instance {F I : Type} [FirmwareUpdater F I] : FirmwareUpdater (Journaled F) I where
  create dfu := FirmwareUpdater.create dfu.flash
  writeFirmware updater dfu offset bytes :=
    let (done, updater, flash) := FirmwareUpdater.writeFirmware updater dfu.flash offset bytes
    (done, updater, { flash, calls := dfu.calls ++ [.write] })
  readDfu updater dfu := FirmwareUpdater.readDfu updater dfu.flash
  markUpdated updater dfu :=
    let (done, updater, flash) := FirmwareUpdater.markUpdated updater dfu.flash
    (done, updater, { flash, calls := dfu.calls ++ [.mark done] })
  getState updater dfu := FirmwareUpdater.getState updater dfu.flash

section Calls

variable {F I : Type} [FirmwareUpdater F I]

theorem Journaled.writeFirmware_calls (updater : I) (dfu : Journaled F) (offset : Nat)
    (bytes : List UInt8) :
    (FirmwareUpdater.writeFirmware updater dfu offset bytes).2.2.calls = dfu.calls ++ [.write] :=
  rfl

theorem Journaled.markUpdated_calls (updater : I) (dfu : Journaled F) :
    ∃ done, (FirmwareUpdater.markUpdated updater dfu).2.2.calls = dfu.calls ++ [.mark done] :=
  ⟨_, rfl⟩

end Calls

/-! ## The worker's update lines -/

def readyText : List UInt8 := ascii "READY\r\n"

/-- A `BEGIN` line that is answered with `READY`. -/
def isLegalBegin (line : List UInt8) : Bool :=
  match announced line with
  | some (size, _) => 256 ≤ size.toNat && size.toNat ≤ UartOta.limit && size.toNat % 4 = 0
  | none => false

section Serve

variable {F I : Type} [FirmwareUpdater F I]

theorem readBack_storage {S : Type} [Storage S]
    (keeps : ∀ (storage : S) (offset count : Nat), (Storage.read storage offset count).2 = storage)
    (size blocks offset : Nat) (crc : UInt32) (storage : S) :
    (readBack size blocks offset crc storage).2 = storage := by
  induction blocks generalizing offset crc storage with
  | zero => rfl
  | succ blocks ih =>
      have kept := keeps storage offset (min (size - offset) 64)
      rw [readBack]
      split
      next failed =>
        rw [failed] at kept
        exact kept
      next read =>
        rw [read] at kept
        obtain rfl := kept
        exact ih _ _ _

variable (store : UartDfuStore (Journaled F) I)

theorem UartDfuStore.read_storage (offset count : Nat) :
    (Storage.read store offset count).2 = store := by
  change (ite _ _ _ : Option (List UInt8) × UartDfuStore (Journaled F) I).2 = _
  split <;> rfl

theorem commit_calls {ota : Ota} (active : ota.active = true) (complete : ota.received = ota.size) :
    store.flash.calls <+: (ota.commit store).storage.flash.calls := by
  have kept := readBack_storage (@UartDfuStore.read_storage F I _) ota.size
    ((ota.size + 63) / 64) 0 0xFFFFFFFF store
  have marks (before : UartDfuStore (Journaled F) I) :
      before.flash.calls <+: (Storage.commit before).2.flash.calls := by
    obtain ⟨done, calls⟩ := Journaled.markUpdated_calls before.updater before.flash
    exact ⟨_, calls.symm⟩
  have commits := ota.commits store active complete
  generalize ota.commit store = outcome at commits
  cases commits with
  | unread after read | differs crc after read wrong =>
      rw [read] at kept
      obtain rfl := kept
      exact List.prefix_refl _
  | unmarked crc before read | marked crc before read =>
      rw [read] at kept
      obtain rfl := kept
      exact marks before

/-- What an update line can do: nothing to the image, begin one, or go on with it. -/
inductive ServedAs (ota : Ota) (line : List UInt8) : Served (Journaled F) I → Prop where
  | idle {served : Served (Journaled F) I} (calls : served.store.flash.calls = store.flash.calls)
      (active : served.ota.active = true → ota.active = true) : ServedAs ota line served
  | began {served : Served (Journaled F) I} (calls : served.store.flash.calls = store.flash.calls)
      (legal : isLegalBegin line = true) (answer : served.answer.text = readyText) :
      ServedAs ota line served
  | called {served : Served (Journaled F) I} (active : ota.active = true)
      (calls : store.flash.calls <+: served.store.flash.calls) : ServedAs ota line served

theorem serve_servedAs (ota : Ota) (line : List UInt8) :
    ServedAs store ota line (serve ota store line) := by
  have renewed : (renew store line).flash.calls = store.flash.calls :=
    congrArg Journaled.calls (renew_flash store line)
  rw [serve]
  split
  · exact .idle renewed id
  have cases := ota.handle_cases line (renew store line)
  dsimp only
  generalize ota.handle line (renew store line) = outcome at cases
  cases cases with
  | refused reply refuses => exact .idle renewed id
  | began size crc args large small whole =>
      refine .began renewed ?_ rfl
      rw [isLegalBegin, args]
      simp [large, small, whole]
  | retried offset bytes args active inside =>
      refine .idle ?_ id
      rw [← renewed]
      have kept := UartDfuStore.read_storage (renew store line) offset bytes.length
      exact congrArg (fun store => store.flash.calls) kept
  | stored bytes args accepts written =>
      exact .called accepts.active (renewed ▸ ⟨_, (Journaled.writeFirmware_calls _ _ _ _).symm⟩)
  | writeFailed bytes args accepts failed =>
      exact .called accepts.active (renewed ▸ ⟨_, (Journaled.writeFirmware_calls _ _ _ _).symm⟩)
  | committed active complete =>
      exact .called active (renewed ▸ commit_calls (renew store line) active complete)
  | aborted => exact .idle renewed nofun

end Serve

end NrfUnifying.Updater
