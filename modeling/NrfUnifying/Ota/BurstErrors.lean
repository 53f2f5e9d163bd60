import NrfUnifying.Ota.CommitSafety

/-!
# What the checksum of an upload detects

`crcUpdate` consumes an image bit by bit, least significant bit of each byte
first. Two images of one length that differ only within 32 consecutive bits of
that stream never have the same checksum, and an image may be fed in blocks.
-/

namespace NrfUnifying.UartOta

open Lib.Bytes Lib.Crc

/-- The bits of an image in the order the checksum consumes them. -/
def bitStream (image : List UInt8) : List Bool := image.flatMap fun byte => bits byte.toBitVec

theorem crcUpdate_bitStream (crc : UInt32) (image : List UInt8) :
    (crcUpdate crc image).toBitVec =
      (bitStream image).foldl (feed 0xEDB88320#32) crc.toBitVec := by
  rw [crcUpdate_toBitVec]
  unfold register bitStream
  rw [List.flatMap_map]

theorem bits_length (byte : BitVec 8) : (bits byte).length = 8 := by simp [bits]

theorem bits_injective : Function.Injective bits := by
  intro a b same
  apply BitVec.eq_of_getLsbD_eq
  intro i inside
  have bit := congrArg (·[i]?) same
  simpa [bits, inside] using bit

theorem bitStream_length (image : List UInt8) : (bitStream image).length = 8 * image.length := by
  induction image with
  | nil => rfl
  | cons byte image ih =>
      unfold bitStream at ih ⊢
      rw [List.flatMap_cons, List.length_append, ih, bits_length, List.length_cons]
      omega

theorem bitStream_injective : Function.Injective bitStream := by
  intro image other same
  induction image generalizing other with
  | nil =>
      have none := congrArg List.length same
      rw [bitStream_length, bitStream_length, List.length_nil] at none
      exact (List.eq_nil_of_length_eq_zero (by omega)).symm
  | cons byte image ih =>
      cases other with
      | nil =>
          have none := congrArg List.length same
          rw [bitStream_length, bitStream_length] at none
          simp at none
      | cons byte' other =>
          unfold bitStream at ih same
          rw [List.flatMap_cons, List.flatMap_cons] at same
          obtain ⟨first, rest⟩ := List.append_inj same (by rw [bits_length, bits_length])
          rw [UInt8.toBitVec_inj.mp (bits_injective first), ih rest]

theorem crcUpdate_ne_of_burst (crc : UInt32) {image other : List UInt8} {first : Nat}
    (lengths : image.length = other.length) (differ : image ≠ other)
    (within : DifferWithin first 32 (bitStream image) (bitStream other)) :
    crcUpdate crc image ≠ crcUpdate crc other := by
  intro same
  have registers := congrArg UInt32.toBitVec same
  rw [crcUpdate_bitStream, crcUpdate_bitStream] at registers
  refine feed_foldl_ne_of_burst ?_ crc.toBitVec ?_ within ?_ registers
  · decide
  · rw [bitStream_length, bitStream_length, lengths]
  · exact fun equal => differ (bitStream_injective equal)

theorem crcUpdate_flatten (crc : UInt32) (chunks : List (List UInt8)) :
    chunks.foldl crcUpdate crc = crcUpdate crc chunks.flatten := by
  induction chunks generalizing crc with
  | nil => rfl
  | cons chunk chunks ih =>
      rw [List.foldl_cons, ih, List.flatten_cons, crcUpdate_append]

/--
Two images of one length that differ within 32 consecutive bits have different
checksums; a checksum folded over the chunks of an image is that of the image;
and the loop that reads an image back in blocks of 64 bytes computes the
checksum of the whole image, from any storage that remembers what was written.
-/
theorem crc_detects_bursts :
    (∀ (image other : List UInt8) (first : Nat), image.length = other.length → image ≠ other →
      DifferWithin first 32 (bitStream image) (bitStream other) →
      crcUpdate 0xFFFFFFFF image ≠ crcUpdate 0xFFFFFFFF other) ∧
    (∀ (crc : UInt32) (chunks : List (List UInt8)),
      chunks.foldl crcUpdate crc = crcUpdate crc chunks.flatten) ∧
    ∀ {S : Type} [Storage S] (contents : S → Nat → UInt8), Remembers contents →
      ∀ (storage : S) (size : Nat) (found : UInt32),
        (readBack size ((size + 63) / 64) 0 0xFFFFFFFF storage).1 = some found →
        found = crcUpdate 0xFFFFFFFF (slice (contents storage) 0 size) := by
  refine ⟨?_, crcUpdate_flatten, ?_⟩
  · intro image other first lengths differ within
    exact crcUpdate_ne_of_burst 0xFFFFFFFF lengths differ within
  · intro S _ contents remembers storage size found read
    exact (readBack_spec remembers size _ 0 0xFFFFFFFF storage rfl).1 found read

theorem crc_detects_bursts_two_bytes :
    crcUpdate 0xFFFFFFFF [0x12, 0x34] ≠ crcUpdate 0xFFFFFFFF [0x92, 0x35] ∧
    ∀ (memory : Memory) (found : UInt32),
      (readBack 100 ((100 + 63) / 64) 0 0xFFFFFFFF memory).1 = some found →
      found = crcUpdate 0xFFFFFFFF (slice (memory.bytes.getD · 0) 0 100) := by
  constructor
  · refine crc_detects_bursts.1 [0x12, 0x34] [0x92, 0x35] 0 rfl (by decide) ?_
    intro i differ
    refine ⟨Nat.zero_le i, ?_⟩
    by_contra far
    apply differ
    rw [List.getElem?_eq_none, List.getElem?_eq_none]
    all_goals
      rw [bitStream_length]
      change 16 ≤ i
      omega
  · exact fun memory => crc_detects_bursts.2.2 _ Memory.remembers memory 100

end NrfUnifying.UartOta
