import NrfUnifying.Lib.AppendLog

/-!
# Pairing profiles and the active slot in flash

The `STORAGE` partition has one page for each of the four profile slots and one
for the active slot. Both kinds of page are append-only logs; a profile record
has 32 bytes, an active-slot entry one word.
-/

namespace NrfUnifying.Storage

open Lib.Bytes Lib.Flash Lib.AppendLog

def storageBase : Nat := 0xF8000
def pageSize : Nat := 4096
def recordSize : Nat := 32
def slotsPerPage : Nat := pageSize / recordSize
def maxProfiles : UInt8 := 4
def activePage : Nat := storageBase + pageSize * maxProfiles.toNat
def activeEntries : Nat := pageSize / 4
def magic : UInt32 := 0x55464B31

/-- The flash the firmware runs on: every operation succeeds. -/
abbrev Nvmc := Chip pageSize

/-- A persisted pairing. -/
structure Profile where
  address : Vector UInt8 5
  aesKey : Vector UInt8 16
  aesCounter : UInt32
  channel : UInt8
  deriving DecidableEq, Repr

def pageBase (slot : UInt8) : Nat := storageBase + pageSize * slot.toNat

def encode (profile : Profile) : List UInt8 :=
  le32 magic ++ (profile.address.toList ++ (profile.channel :: 0 :: 0 ::
    (profile.aesKey.toList ++ le32 profile.aesCounter)))

def decode (record : List UInt8) : Option Profile :=
  if ofLe32 record ≠ magic then none
  else some {
    address := .ofFn fun i => record.getD (4 + i) 0
    aesKey := .ofFn fun i => record.getD (12 + i) 0
    aesCounter := ofLe32 (record.drop 28)
    channel := record.getD 9 0 }

def profileFormat : Format Profile where
  size := recordSize
  count := slotsPerPage
  page := pageSize
  encode := encode
  decode := decode
  free record := record.all fun byte => byte == 0xFF

/-- An entry is the slot as a word; whatever is not below `maxProfiles` ends the log. -/
def activeFormat : Format UInt8 where
  size := 4
  count := activeEntries
  page := pageSize
  encode slot := le32 slot.toUInt32
  decode entry :=
    if ofLe32 entry < maxProfiles.toUInt32 then some (ofLe32 entry).toUInt8 else none
  free entry := ofLe32 entry == 0xFFFFFFFF

section Operations

variable {F : Type} [NorFlash F]

/-- Load the most recent valid profile of a slot. -/
def load (flash : F) (slot : UInt8) : Option Profile × F :=
  if slot ≥ maxProfiles then (none, flash)
  else latest profileFormat (pageBase slot) slotsPerPage 0 none flash

/-- Append a profile to its slot's page, erasing a full or spoiled page first. -/
def save (flash : F) (slot : UInt8) (profile : Profile) : F :=
  if slot ≥ maxProfiles then flash
  else append profileFormat (pageBase slot) profile flash

def clearSlot (flash : F) (slot : UInt8) : F :=
  if slot ≥ maxProfiles then flash
  else (NorFlash.erase flash (pageBase slot) (pageBase slot + pageSize)).2

/-- Erase all profile slots and the active-slot page. -/
def clearAll (flash : F) : F :=
  (NorFlash.erase flash storageBase (activePage + pageSize)).2

def loadActiveSlot (flash : F) : Option UInt8 × F :=
  latest activeFormat activePage activeEntries 0 none flash

def saveActiveSlot (flash : F) (slot : UInt8) : F :=
  if slot ≥ maxProfiles then flash
  else append activeFormat activePage slot flash

end Operations

/-! ## The two formats are lawful -/

@[simp]
theorem encode_length (profile : Profile) : (encode profile).length = 32 := by
  simp [encode]

theorem encode_magic (profile : Profile) : ofLe32 (encode profile) = magic :=
  ofLe32_le32_append _ _

theorem encode_address (profile : Profile) :
    (Vector.ofFn fun i : Fin 5 => (encode profile).getD (4 + i) 0) = profile.address :=
  ofFn_getD_append _ _ _ rfl

/-- The record in front of the key, the key, and the counter. -/
theorem encode_eq (profile : Profile) :
    encode profile = (le32 magic ++ (profile.address.toList ++ [profile.channel, 0, 0])) ++
      (profile.aesKey.toList ++ le32 profile.aesCounter) := by
  simp [encode]

theorem encode_aesKey (profile : Profile) :
    (Vector.ofFn fun i : Fin 16 => (encode profile).getD (12 + i) 0) = profile.aesKey := by
  rw [encode_eq]
  exact ofFn_getD_append _ _ _ (by simp)

theorem encode_aesCounter (profile : Profile) :
    ofLe32 ((encode profile).drop 28) = profile.aesCounter := by
  rw [encode_eq, ← List.append_assoc, List.drop_append_of_le_length (by simp),
    List.drop_of_length_le (by simp), List.nil_append, ofLe32_le32]

theorem encode_channel (profile : Profile) : (encode profile).getD 9 0 = profile.channel := by
  rw [encode, List.getD_append_right _ _ _ _ (by simp), List.getD_append_right _ _ _ _ (by simp)]
  simp

@[simp]
theorem decode_encode (profile : Profile) : decode (encode profile) = some profile := by
  rw [decode, if_neg (by simp [encode_magic]), encode_address, encode_aesKey, encode_aesCounter,
    encode_channel]

theorem decode_eq_none_of_erased {record : List UInt8} (length : record.length = 32)
    (erased : ∀ byte ∈ record, byte = 0xFF) : decode record = none := by
  obtain rfl : record = List.replicate 32 0xFF := List.eq_replicate_iff.mpr ⟨length, erased⟩
  decide

@[simp]
theorem profileFormat_encode : profileFormat.encode = encode := rfl

@[simp]
theorem profileFormat_decode : profileFormat.decode = decode := rfl

theorem profileFormat_lawful : profileFormat.Lawful fun _ => True where
  page_eq := by decide
  page_pos := by decide
  encode_length := encode_length
  decode_encode profile _ := by rw [profileFormat_encode, profileFormat_decode, decode_encode]
  free_iff record _ := by simp [profileFormat]
  decode_free record length free := by
    rw [profileFormat_decode]
    exact decode_eq_none_of_erased length (by simpa [profileFormat] using free)

theorem activeFormat_lawful : activeFormat.Lawful fun slot => slot < maxProfiles where
  page_eq := by decide
  page_pos := by decide
  encode_length _ := rfl
  decode_encode slot inside := by
    have small : slot.toUInt32 < maxProfiles.toUInt32 := inside
    change (if ofLe32 (le32 slot.toUInt32) < maxProfiles.toUInt32 then
      some (ofLe32 (le32 slot.toUInt32)).toUInt8 else none) = some slot
    rw [ofLe32_le32, if_pos small]
    simp
  free_iff entry length := by
    change (ofLe32 entry == 0xFFFFFFFF) = true ↔ _
    rw [beq_iff_eq]
    exact ofLe32_eq_max_iff length
  decode_free entry length free := by
    have ones : ofLe32 entry = 0xFFFFFFFF := by simpa [activeFormat] using free
    change (if ofLe32 entry < maxProfiles.toUInt32 then _ else none) = none
    rw [ones]
    rfl

theorem profileFormat_aligned {slot : UInt8} :
    profileFormat.Aligned pageSize (pageBase slot) where
  page_eq := rfl
  base_page := by
    change (0xF8000 + 4096 * slot.toNat) % 4096 = 0
    omega
  base_word := by
    change (0xF8000 + 4096 * slot.toNat) % 4 = 0
    omega
  size_word := rfl

theorem activeFormat_aligned : activeFormat.Aligned pageSize activePage :=
  ⟨rfl, rfl, rfl, rfl⟩

end NrfUnifying.Storage
