import NrfUnifying.Lib.SectorWriter
import NrfUnifying.Ota.UartOta

/-!
# The boot loader's firmware updater and the worker's use of it

The updater is a parameter: its state `I` and the flash `F` it works on are
not inspected, and `FirmwareUpdater.Lawful` says what is relied on.
-/

namespace NrfUnifying.Updater

open Lib.Bytes Lib.Flash Lib.SectorWriter UartOta

inductive BootState where
  | boot | swap | revert | dfuDetach
  deriving DecidableEq, Repr

/-- The operations of an updater; `false` and `none` report an error. -/
class FirmwareUpdater (F : Type) (I : outParam Type) where
  create : F → I
  writeFirmware : I → F → Nat → List UInt8 → Bool × I × F
  readDfu : I → F → Nat → Nat → Option (List UInt8)
  markUpdated : I → F → Bool × I × F
  getState : I → F → Option BootState

def sectorSize : Nat := 4096

section Lawful

variable {F I : Type} [FirmwareUpdater F I]

/-- The DFU partition as one updater sees it. -/
def sectors (dfu : F → Cells) (lastErased : I → Option Nat) (updater : I) (flash : F) : Sectors :=
  ⟨dfu flash, lastErased updater⟩

/-- An updater erases a sector unless it is the last one it erased, then programs; a new one has
erased none. -/
structure FirmwareUpdater.Lawful (dfu : F → Cells) (lastErased : I → Option Nat) : Prop where
  create_fresh : ∀ flash : F, lastErased (create flash) = none
  write_sectors : ∀ (updater : I) (flash : F) offset bytes,
    (writeFirmware updater flash offset bytes).1 = true →
      sectors dfu lastErased (writeFirmware updater flash offset bytes).2.1
          (writeFirmware updater flash offset bytes).2.2 =
        (sectors dfu lastErased updater flash).write sectorSize offset bytes
  read_slice : ∀ (updater : I) (flash : F) offset count bytes,
    readDfu updater flash offset count = some bytes → bytes = slice (dfu flash) offset count
  mark_keeps : ∀ (updater : I) (flash : F),
    sectors dfu lastErased (markUpdated updater flash).2.1 (markUpdated updater flash).2.2 =
      sectors dfu lastErased updater flash

end Lawful

/-- A partition whose updaters carry out every operation. -/
structure Partition where
  cells : Cells

instance : FirmwareUpdater Partition (Option Nat) where
  create _ := none
  writeFirmware last flash offset bytes :=
    let sectors := Sectors.write sectorSize ⟨flash.cells, last⟩ offset bytes
    (true, sectors.last, ⟨sectors.cells⟩)
  readDfu _ flash offset count := some (slice flash.cells offset count)
  markUpdated last flash := (true, last, flash)
  getState _ _ := some .boot

theorem Partition.lawful : FirmwareUpdater.Lawful Partition.cells id where
  create_fresh _ := rfl
  write_sectors _ _ _ _ _ := rfl
  read_slice _ _ _ _ _ found := (Option.some.inj found).symm
  mark_keeps _ _ := rfl

/-! ## The worker's update requests -/

/-- The storage that the worker hands to a request line. -/
structure UartDfuStore (F I : Type) where
  updater : I
  flash : F

section Worker

variable {F I : Type} [FirmwareUpdater F I]

instance : Storage (UartDfuStore F I) where
  write store offset bytes :=
    let (done, updater, flash) :=
      FirmwareUpdater.writeFirmware store.updater store.flash offset bytes
    (done, { updater, flash })
  read store offset count :=
    if offset + count > limit then (none, store)
    else (FirmwareUpdater.readDfu store.updater store.flash offset count, store)
  commit store :=
    let (done, updater, flash) := FirmwareUpdater.markUpdated store.updater store.flash
    (done, { updater, flash })

/-- The reply to an update request. -/
inductive Answer where
  | info (booted : Bool)
  | handled (reply : Reply)
  deriving DecidableEq, Repr

def Answer.text : Answer → List UInt8
  | .info true => ascii "OTA BOOT\r\n"
  | .info false => ascii "OTA PENDING\r\n"
  | .handled reply => reply.text

structure Served (F I : Type) where
  answer : Answer
  reboot : Bool
  ota : Ota
  store : UartDfuStore F I

def isOta (line : List UInt8) : Bool := (ascii "OTA ").isPrefixOf line

def isBegin (line : List UInt8) : Bool := (ascii "OTA BEGIN ").isPrefixOf line

/-- A line that looks like a `BEGIN` gets a new updater before it is handled. -/
def renew (store : UartDfuStore F I) (line : List UInt8) : UartDfuStore F I :=
  if isBegin line then { store with updater := FirmwareUpdater.create store.flash } else store

/-- The worker's handling of an `OTA ` line while no CDC upload is active. -/
def serve (ota : Ota) (store : UartDfuStore F I) (line : List UInt8) : Served F I :=
  let store := renew store line
  if line = ascii "OTA INFO" then
    { answer := .info (FirmwareUpdater.getState store.updater store.flash == some .boot)
      reboot := false, ota, store }
  else
    let outcome := ota.handle line store
    { answer := .handled outcome.reply, reboot := outcome.reboot, ota := outcome.ota
      store := outcome.storage }

end Worker

/-! ## Lines and their prefixes -/

/-- A line starts with its first two tokens when more follow. -/
theorem splitOn_prefix {line first second third : List UInt8} {rest : List (List UInt8)}
    (tokens : line.splitOn 0x20 = first :: second :: third :: rest) :
    ∃ tail, line = first ++ 0x20 :: (second ++ 0x20 :: tail) := by
  have joined := @List.intercalate_splitOn _ line _ _ 0x20
  rw [tokens] at joined
  refine ⟨[0x20].intercalate (third :: rest), ?_⟩
  rw [← joined]
  simp [List.intercalate]

theorem isBegin_of_announced {line : List UInt8} {args : UInt32 × UInt32}
    (announces : announced line = some args) : isBegin line = true := by
  unfold announced at announces
  split at announces
  next first name size crc tokens =>
    split at announces
    next named =>
      obtain ⟨rfl, rfl⟩ := named
      obtain ⟨tail, rfl⟩ := splitOn_prefix tokens
      rfl
    · cases announces
  · cases announces

theorem isOta_of_chunk {line : List UInt8} {args : Nat × List UInt8}
    (carries : chunk line = some args) : isOta line = true := by
  obtain ⟨start, payload, tokens, _⟩ := chunk_eq_some carries
  obtain ⟨tail, rfl⟩ := splitOn_prefix tokens
  rfl

theorem not_isBegin_of_chunk {line : List UInt8} {args : Nat × List UInt8}
    (carries : chunk line = some args) : isBegin line = false := by
  obtain ⟨start, payload, tokens, _⟩ := chunk_eq_some carries
  obtain ⟨tail, rfl⟩ := splitOn_prefix tokens
  rfl

section Renew

variable {F I : Type} [FirmwareUpdater F I] (store : UartDfuStore F I) (line : List UInt8)

@[simp]
theorem renew_flash : (renew store line).flash = store.flash := by
  unfold renew
  split <;> rfl

theorem renew_of_chunk {args : Nat × List UInt8} (carries : chunk line = some args) :
    renew store line = store := by
  rw [renew, not_isBegin_of_chunk carries]
  rfl

end Renew

end NrfUnifying.Updater
