import NrfUnifying.Lib.Runs
import NrfUnifying.Ota.Updater

/-!
# Acknowledged chunks stay readable

A run of update requests at the radio worker. The worker replaces its updater
at every line that looks like a `BEGIN`; a new updater erases the sector in
which an interrupted transfer goes on.
-/

namespace NrfUnifying.Updater

open Lib.Bytes Lib.Flash Lib.Runs Lib.SectorWriter UartOta

variable {F I : Type} [FirmwareUpdater F I]

/-- The image that the lines and replies so far amount to: a chunk answered `OK` is new when it
starts where the image ends. -/
def assembled (image : Option (List UInt8)) (line : List UInt8) (reply : Reply) :
    Option (List UInt8) :=
  if reply = .ready then some []
  else if reply.ends then none
  else
    match chunk line with
    | some (offset, bytes) => image.map fun image =>
        if reply = .ok ∧ offset = image.length then image ++ bytes else image
    | none => image

/-- The worker's part in an update, and the image its replies have acknowledged. -/
structure Transfer (F I : Type) where
  ota : Ota := {}
  store : UartDfuStore F I
  image : Option (List UInt8) := none

inductive Request where
  | line (bytes : List UInt8)
  | timeout
  deriving DecidableEq, Repr

def Transfer.boot (flash : F) : Transfer F I := { store := ⟨FirmwareUpdater.create flash, flash⟩ }

def Transfer.step (transfer : Transfer F I) : Request → Transfer F I
  | .line bytes =>
      if isOta bytes then
        let served := serve transfer.ota transfer.store bytes
        { ota := served.ota
          store := served.store
          image := match served.answer with
            | .handled reply => assembled transfer.image bytes reply
            | .info _ => transfer.image }
      else transfer
  | .timeout =>
      if transfer.ota.active then { transfer with ota := transfer.ota.abort, image := none }
      else transfer

def Transfer.run (transfer : Transfer F I) (requests : List Request) : Transfer F I :=
  requests.foldl Transfer.step transfer

variable (dfu : F → Cells) (lastErased : I → Option Nat)

/-- The acknowledged bytes of an active update are in the DFU partition. -/
def Transfer.Readable (transfer : Transfer F I) : Prop :=
  transfer.ota.active = true →
    transfer.image = some (slice (dfu transfer.store.flash) 0 transfer.ota.received)

/-- A new chunk goes on in the sector that its updater erased last, or in a sector without
acknowledged bytes other than `0xFF`. -/
def Transfer.Continues (transfer : Transfer F I) : Request → Prop
  | .line bytes => ∀ payload, chunk bytes = some (transfer.ota.received, payload) →
      transfer.ota.Accepts payload →
        lastErased transfer.store.updater = some (transfer.ota.received / sectorSize) ∨
          ∀ i < transfer.ota.received, i / sectorSize = transfer.ota.received / sectorSize →
            dfu transfer.store.flash i = 0xFF
  | .timeout => True

/-- What holds of an active update, whatever lines came. -/
structure Transfer.Underway (transfer : Transfer F I) : Prop where
  image : ∃ image, transfer.image = some image ∧ image.length = transfer.ota.received
  small : transfer.ota.size ≤ limit
  blank : (sectors dfu lastErased transfer.store.updater transfer.store.flash).Open sectorSize
    transfer.ota.received

section Step

variable {dfu lastErased} {transfer : Transfer F I} {line : List UInt8}

/-- Only a new chunk answered `OK` grows the image of an update that goes on. -/
theorem assembled_quiet {image : Option (List UInt8)} {reply : Reply} (ready : reply ≠ .ready)
    (ends : reply.ends = false)
    (old : ∀ offset bytes known, chunk line = some (offset, bytes) → image = some known →
      reply = .ok → offset = known.length → bytes = []) :
    assembled image line reply = image := by
  rw [assembled, if_neg ready, ends]
  cases carries : chunk line with
  | none => rfl
  | some args =>
      cases image with
      | none => rfl
      | some known =>
          simp only [Bool.false_eq_true, if_false, Option.map_some]
          split
          next new => rw [old _ _ known carries rfl new.1 new.2, List.append_nil]
          · rfl

/-- A new chunk is written and acknowledged. -/
theorem Transfer.step_chunk
    (writes : ∀ (updater : I) (flash : F) offset bytes, offset + bytes.length ≤ limit →
      (FirmwareUpdater.writeFirmware updater flash offset bytes).1 = true)
    (underway : transfer.Underway dfu lastErased) {payload : List UInt8}
    (carries : chunk line = some (transfer.ota.received, payload))
    (accepts : transfer.ota.Accepts payload) :
    transfer.step (.line line) = {
      ota := { transfer.ota with received := transfer.ota.received + payload.length }
      store := (Storage.write transfer.store transfer.ota.received payload).2
      image := transfer.image.map (· ++ payload) } := by
  have notInfo : line ≠ ascii "OTA INFO" := by
    rintro rfl
    rw [show chunk (ascii "OTA INFO") = none from rfl] at carries
    cases carries
  have fits : transfer.ota.received + payload.length ≤ limit :=
    Nat.le_trans accepts.fits underway.small
  have handled : transfer.ota.handle line transfer.store = _ :=
    transfer.ota.handle_stores underway.small carries accepts (writes _ _ _ _ fits)
  obtain ⟨image, known, length⟩ := underway.image
  have grows : assembled transfer.image line .ok = transfer.image.map (· ++ payload) := by
    simp [assembled, Reply.ends, carries, known, length]
  simp only [step, isOta_of_chunk carries, if_true, serve, notInfo, if_false,
    renew_of_chunk _ _ carries, handled, grows]

/-- Any other line ends the update, begins one, or leaves it as it was. -/
theorem Transfer.step_other (lawful : FirmwareUpdater.Lawful dfu lastErased)
    (underway : transfer.ota.active = true → transfer.Underway dfu lastErased)
    (other : ∀ payload, chunk line = some (transfer.ota.received, payload) →
      ¬transfer.ota.Accepts payload)
    (active : (transfer.step (.line line)).ota.active = true) :
    dfu (transfer.step (.line line)).store.flash = dfu transfer.store.flash ∧
    ((transfer.step (.line line)).ota = transfer.ota ∧
        (transfer.step (.line line)).image = transfer.image ∧
        (lastErased (transfer.step (.line line)).store.updater =
            lastErased transfer.store.updater ∨
          lastErased (transfer.step (.line line)).store.updater = none) ∨
      (transfer.step (.line line)).ota.received = 0 ∧
        (transfer.step (.line line)).ota.size ≤ limit ∧
        (transfer.step (.line line)).image = some [] ∧
        lastErased (transfer.step (.line line)).store.updater = none) := by
  have renewed : lastErased (renew transfer.store line).updater =
        lastErased transfer.store.updater ∨
      lastErased (renew transfer.store line).updater = none := by
    unfold renew
    split
    · exact .inr (lawful.create_fresh _)
    · exact .inl rfl
  revert active
  rw [step]
  split
  next ota =>
    rw [serve]
    split
    · exact fun _ => ⟨congrArg dfu (renew_flash _ _), .inl ⟨rfl, rfl, renewed⟩⟩
    next notInfo =>
      have cases := transfer.ota.handle_cases line (renew transfer.store line)
      generalize transfer.ota.handle line (renew transfer.store line) = outcome at cases
      intro active
      cases cases with
      | refused reply refuses =>
          refine ⟨congrArg dfu (renew_flash _ _), .inl ⟨rfl, ?_, renewed⟩⟩
          refine assembled_quiet ?_ ?_ fun _ _ _ _ _ accepted => ?_
          · rintro rfl
            cases refuses
          · cases reply <;> first | rfl | cases refuses
          · obtain rfl : reply = .ok := accepted
            cases refuses
      | began size crc args large small whole =>
          refine ⟨congrArg dfu (renew_flash _ _), .inr ⟨rfl, small, rfl, ?_⟩⟩
          change lastErased (renew transfer.store line).updater = none
          rw [renew, isBegin_of_announced args]
          exact lawful.create_fresh _
      | retried offset bytes args active inside =>
          have kept : (Storage.read (renew transfer.store line) offset bytes.length).2 =
              renew transfer.store line := by
            change (ite _ _ _ : Option (List UInt8) × UartDfuStore F I).2 = _
            split <;> rfl
          rw [kept]
          refine ⟨congrArg dfu (renew_flash _ _), .inl ⟨rfl, ?_, renewed⟩⟩
          obtain ⟨image, known, length⟩ := (underway active).image
          refine assembled_quiet (by split <;> simp) (by split <;> rfl) ?_
          intro offset' bytes' known' carries same _ start
          rw [args, Option.some.injEq, Prod.mk.injEq] at carries
          obtain ⟨rfl, rfl⟩ := carries
          rw [known, Option.some.injEq] at same
          subst same
          exact List.eq_nil_of_length_eq_zero (by omega)
      | stored bytes args accepts written => exact absurd accepts (other bytes args)
      | writeFailed bytes args accepts failed => exact absurd accepts (other bytes args)
      | committed running complete =>
          have inactive :
              (transfer.ota.commit (renew transfer.store line)).ota.active = false :=
            transfer.ota.commit_inactive running complete
          rw [inactive] at active
          cases active
      | aborted => cases active
  · exact fun _ => ⟨rfl, .inl ⟨rfl, rfl, .inl rfl⟩⟩

/-- A stored chunk goes through the sectors of the updater that stores it. -/
theorem sectors_write (lawful : FirmwareUpdater.Lawful dfu lastErased)
    (writes : ∀ (updater : I) (flash : F) offset bytes, offset + bytes.length ≤ limit →
      (FirmwareUpdater.writeFirmware updater flash offset bytes).1 = true)
    (store : UartDfuStore F I) {offset : Nat} {bytes : List UInt8}
    (fits : offset + bytes.length ≤ limit) :
    sectors dfu lastErased (Storage.write store offset bytes).2.updater
        (Storage.write store offset bytes).2.flash =
      (sectors dfu lastErased store.updater store.flash).write sectorSize offset bytes :=
  lawful.write_sectors _ _ _ _ (writes _ _ _ _ fits)

/-- No session outlives the timeout. -/
theorem Transfer.timeout_inactive : (transfer.step .timeout).ota.active = false := by
  rw [Transfer.step]
  split
  · rfl
  next inactive => exact Bool.eq_false_iff.mpr inactive

theorem Transfer.Underway.step (lawful : FirmwareUpdater.Lawful dfu lastErased)
    (writes : ∀ (updater : I) (flash : F) offset bytes, offset + bytes.length ≤ limit →
      (FirmwareUpdater.writeFirmware updater flash offset bytes).1 = true)
    (underway : transfer.ota.active = true → transfer.Underway dfu lastErased)
    (request : Request) (active : (transfer.step request).ota.active = true) :
    (transfer.step request).Underway dfu lastErased := by
  cases request with
  | timeout =>
      exact absurd (transfer.timeout_inactive.symm.trans active) Bool.false_ne_true
  | line line =>
      by_cases new : ∃ payload, chunk line = some (transfer.ota.received, payload) ∧
          transfer.ota.Accepts payload
      · obtain ⟨payload, carries, accepts⟩ := new
        have underway := underway accepts.active
        have fits : transfer.ota.received + payload.length ≤ limit :=
          Nat.le_trans accepts.fits underway.small
        obtain ⟨image, known, length⟩ := underway.image
        rw [transfer.step_chunk writes underway carries accepts]
        refine ⟨⟨image ++ payload, by simp [known], by simp [length]⟩, underway.small, ?_⟩
        rw [sectors_write lawful writes _ fits]
        exact underway.blank.write (by decide) payload
      · have other : ∀ payload, chunk line = some (transfer.ota.received, payload) →
            ¬transfer.ota.Accepts payload := fun payload carries accepts =>
          new ⟨payload, carries, accepts⟩
        obtain ⟨sameDfu, ⟨sameOta, sameImage, erased⟩ | ⟨start, small, image, fresh⟩⟩ :=
          transfer.step_other lawful underway other active
        · rw [sameOta] at active
          have underway := underway active
          refine ⟨by rw [sameOta, sameImage]; exact underway.image,
            by rw [sameOta]; exact underway.small, ?_⟩
          rcases erased with same | fresh
          · unfold sectors
            rw [sameDfu, same, sameOta]
            exact underway.blank
          · exact .of_none fresh _
        · exact ⟨⟨[], image, by rw [start]; rfl⟩, small, .of_none fresh _⟩

/-- A step keeps the acknowledged bytes readable exactly when it continues their sector. -/
theorem Transfer.readable_step (lawful : FirmwareUpdater.Lawful dfu lastErased)
    (writes : ∀ (updater : I) (flash : F) offset bytes, offset + bytes.length ≤ limit →
      (FirmwareUpdater.writeFirmware updater flash offset bytes).1 = true)
    (underway : transfer.ota.active = true → transfer.Underway dfu lastErased)
    (readable : transfer.Readable dfu) (request : Request) :
    (transfer.step request).Readable dfu ↔ transfer.Continues dfu lastErased request := by
  cases request with
  | timeout =>
      refine iff_of_true (fun active => ?_) trivial
      exact absurd (transfer.timeout_inactive.symm.trans active) Bool.false_ne_true
  | line line =>
      by_cases new : ∃ payload, chunk line = some (transfer.ota.received, payload) ∧
          transfer.ota.Accepts payload
      · obtain ⟨payload, carries, accepts⟩ := new
        have underway := underway accepts.active
        have fits : transfer.ota.received + payload.length ≤ limit :=
          Nat.le_trans accepts.fits underway.small
        have nonempty := List.length_pos_iff.mp accepts.positive
        have cells : dfu (Storage.write transfer.store transfer.ota.received payload).2.flash =
            ((sectors dfu lastErased transfer.store.updater transfer.store.flash).write sectorSize
              transfer.ota.received payload).cells :=
          congrArg Sectors.cells (sectors_write lawful writes transfer.store fits)
        have stored := underway.blank.slice_write (by decide) payload
        rw [← cells] at stored
        have below : ∀ i < transfer.ota.received,
            dfu (Storage.write transfer.store transfer.ota.received payload).2.flash i =
              if lastErased transfer.store.updater ≠ some (transfer.ota.received / sectorSize) ∧
                  i / sectorSize = transfer.ota.received / sectorSize then 0xFF
              else dfu transfer.store.flash i := fun i low =>
          (congrFun cells i).trans (Sectors.write_below (by decide) _ nonempty low)
        have kept : (transfer.step (.line line)).Readable dfu ↔
            ∀ i < transfer.ota.received,
              dfu (Storage.write transfer.store transfer.ota.received payload).2.flash i =
                dfu transfer.store.flash i := by
          rw [transfer.step_chunk writes underway carries accepts]
          unfold Readable
          simp only [accepts.active, forall_const, readable accepts.active, Option.map_some,
            Option.some.injEq, slice_add, Nat.zero_add]
          rw [stored, List.append_left_inj, eq_comm, ← slice_inj]
          simp
        rw [kept]
        constructor
        · intro same payload' carries' _
          by_cases continues : lastErased transfer.store.updater =
              some (transfer.ota.received / sectorSize)
          · exact .inl continues
          · refine .inr fun i low inside => ?_
            rw [← same i low, below i low, if_pos ⟨continues, inside⟩]
        · intro continues i low
          rw [below i low]
          split
          next erased =>
            rcases continues payload carries accepts with same | blank
            · exact absurd same erased.1
            · exact (blank i low erased.2).symm
          · rfl
      · have other : ∀ payload, chunk line = some (transfer.ota.received, payload) →
            ¬transfer.ota.Accepts payload := fun payload carries accepts =>
          new ⟨payload, carries, accepts⟩
        refine iff_of_true (fun active => ?_) fun payload carries accepts =>
          absurd accepts (other payload carries)
        obtain ⟨sameDfu, ⟨sameOta, sameImage, -⟩ | ⟨start, -, image, -⟩⟩ :=
          transfer.step_other lawful underway other active
        · rw [sameOta] at active ⊢
          rw [sameImage, sameDfu]
          exact readable active
        · rw [start, image]
          rfl

end Step

/-- The acknowledged bytes stay readable in every state of a run exactly when every new chunk
continues its sector. -/
theorem acknowledged_readable_iff {dfu : F → Cells} {lastErased : I → Option Nat}
    (lawful : FirmwareUpdater.Lawful dfu lastErased)
    (writes : ∀ (updater : I) (flash : F) offset bytes, offset + bytes.length ≤ limit →
      (FirmwareUpdater.writeFirmware updater flash offset bytes).1 = true)
    (flash : F) (requests : List Request) :
    Always Transfer.step (Transfer.Readable dfu) (Transfer.boot flash) requests ↔
      EveryStep Transfer.step (Transfer.Continues dfu lastErased) (Transfer.boot flash)
        requests := by
  refine always_iff_everyStep
    (fun transfer => transfer.ota.active = true → transfer.Underway dfu lastErased)
    (fun transfer request underway => Transfer.Underway.step lawful writes underway request)
    (fun transfer request underway readable =>
      transfer.readable_step lawful writes underway readable request) ?_ ?_
  · intro active
    cases active
  · intro active
    cases active

/-- A malformed `BEGIN` between two chunks of one sector. -/
def interrupted : List Request := [
  .line (ascii "OTA BEGIN 104 8674F5C3"),
  .line (ascii "OTA DATA 0 0000002001710000"),
  .line (ascii "OTA BEGIN 104"),
  .line (ascii "OTA DATA 8 0000000000000000")]

/-- The eight bytes of the first chunk are erased by the second. -/
theorem acknowledged_lost :
    ¬Always Transfer.step (Transfer.Readable Partition.cells)
      (Transfer.boot (⟨fun _ => 0xFF⟩ : Partition)) interrupted := by
  intro always
  have readable := always interrupted [] rfl (by decide)
  exact absurd readable (by decide)

theorem acknowledged_readable_iff_begun :
    Always Transfer.step (Transfer.Readable Partition.cells)
        (Transfer.boot (⟨fun _ => 0xFF⟩ : Partition)) interrupted ↔
      EveryStep Transfer.step (Transfer.Continues Partition.cells id)
        (Transfer.boot (⟨fun _ => 0xFF⟩ : Partition)) interrupted :=
  acknowledged_readable_iff Partition.lawful (fun _ _ _ _ _ => rfl) _ _

end NrfUnifying.Updater
