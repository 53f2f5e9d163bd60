import Mathlib.Data.List.Basic
import Mathlib.Tactic.Common

/-!
# Transfers in packets

A transfer is cut into packets of one size. A packet that is not full ends it,
so a transfer that comes out even is followed by an empty packet. A receiver
puts the packets together again, and drops what it holds when the sender goes
away in the middle of a transfer.
-/

namespace NrfUnifying.Lib.Transfers

variable {α : Type}

/-- Full packets, then what is left; `fuel` bounds their number. -/
def chunks (size : Nat) : (fuel : Nat) → List α → List (List α)
  | 0, _ => []
  | fuel + 1, data =>
      if data.isEmpty then [] else data.take size :: chunks size fuel (data.drop size)

/-- The packets of a transfer. -/
def packets (size : Nat) (data : List α) : List (List α) :=
  chunks size data.length data ++
    if ¬data.isEmpty ∧ data.length % size = 0 then [[]] else []

/-- Complete transfers of a stream of packets; `none` is where the sender went away. -/
def reassemble (size : Nat) : (held : List α) → List (Option (List α)) → List (List α)
  | _, [] => []
  | _, none :: rest => reassemble size [] rest
  | held, some packet :: rest =>
      if packet.length < size then (held ++ packet) :: reassemble size [] rest
      else reassemble size (held ++ packet) rest

/-- A transfer as it went out: `sent` of its packets, all of them unless the sender went away. -/
structure Sending (α : Type) where
  data : List α
  sent : Nat
  deriving DecidableEq, Repr

def Sending.whole (size : Nat) (sending : Sending α) : Bool :=
  (packets size sending.data).length ≤ sending.sent

def Sending.stream (size : Nat) (sending : Sending α) : List (Option (List α)) :=
  ((packets size sending.data).take sending.sent).map some ++
    if sending.whole size then [] else [none]

section Packets

variable {size : Nat} {data : List α}

/-- All packets but the last are full, and the last one is not. -/
structure Packetized (size : Nat) (data : List α) (front : List (List α)) (last : List α) :
    Prop where
  full : ∀ packet ∈ front, packet.length = size
  short : last.length < size
  content : front.flatten ++ last = data

theorem chunks_fuel (positive : 0 < size) {first second : Nat} (enough : data.length ≤ first)
    (also : data.length ≤ second) : chunks size first data = chunks size second data := by
  induction first generalizing data second with
  | zero =>
      obtain rfl := List.length_eq_zero_iff.mp (Nat.le_zero.mp enough)
      cases second <;> rfl
  | succ first ih =>
      cases data with
      | nil => cases second <;> rfl
      | cons symbol rest =>
          rw [List.length_cons] at enough also
          cases second with
          | zero => exact absurd also (Nat.not_succ_le_zero _)
          | succ second =>
              have shorter : ((symbol :: rest).drop size).length ≤ rest.length := by
                rw [List.length_drop, List.length_cons]
                omega
              have same : chunks size first ((symbol :: rest).drop size) =
                  chunks size second ((symbol :: rest).drop size) := ih (by omega) (by omega)
              rw [chunks, chunks, same]

theorem packets_short (some : data ≠ []) (short : data.length < size) :
    packets size data = [data] := by
  obtain ⟨symbol, rest, rfl⟩ := List.exists_cons_of_ne_nil some
  have uneven : (symbol :: rest).length % size ≠ 0 := by
    rw [Nat.mod_eq_of_lt short]
    exact Nat.succ_ne_zero _
  have nothing : (symbol :: rest).drop size = [] := List.drop_of_length_le (Nat.le_of_lt short)
  rw [packets, if_neg fun both => uneven both.2, List.length_cons, chunks, nothing,
    List.take_of_length_le (Nat.le_of_lt short)]
  cases rest.length <;> rfl

/-- A transfer that fills its only packet is followed by an empty one. -/
theorem packets_even (positive : 0 < size) (even : data.length = size) :
    packets size data = [data, []] := by
  obtain ⟨symbol, rest, rfl⟩ : ∃ symbol rest, data = symbol :: rest := by
    refine List.exists_cons_of_ne_nil ?_
    rintro rfl
    exact absurd even (Nat.ne_of_lt positive)
  have nothing : (symbol :: rest).drop size = [] := List.drop_of_length_le (Nat.le_of_eq even)
  rw [packets, if_pos ⟨by simp, by rw [even, Nat.mod_self]⟩, List.length_cons, chunks, nothing,
    List.take_of_length_le (Nat.le_of_eq even)]
  cases rest.length <;> rfl

/-- A longer transfer starts with a full packet and goes on like the rest of it. -/
theorem packets_long (positive : 0 < size) (long : size < data.length) :
    packets size data = data.take size :: packets size (data.drop size) := by
  obtain ⟨symbol, rest, rfl⟩ : ∃ symbol rest, data = symbol :: rest := by
    refine List.exists_cons_of_ne_nil ?_
    rintro rfl
    exact absurd long (Nat.not_lt_zero _)
  have length : ((symbol :: rest).drop size).length = rest.length + 1 - size := by
    rw [List.length_drop, List.length_cons]
  rw [List.length_cons] at long
  have same : (symbol :: rest).length % size = ((symbol :: rest).drop size).length % size := by
    rw [length, List.length_cons, Nat.mod_eq_sub_mod (Nat.le_of_lt long)]
  have left : ((symbol :: rest).drop size).isEmpty = false := by
    rw [Bool.eq_false_iff]
    intro empty
    rw [List.isEmpty_iff.mp empty, List.length_nil] at length
    omega
  have fuel : chunks size rest.length ((symbol :: rest).drop size) =
      chunks size ((symbol :: rest).drop size).length ((symbol :: rest).drop size) :=
    chunks_fuel positive (by omega) (Nat.le_refl _)
  rw [packets, packets, same, left, List.length_cons, chunks, fuel, if_neg (by simp)]
  simp

/-- Every transfer with content is packetized. -/
theorem packetized (positive : 0 < size) (some : data ≠ []) :
    ∃ front last, packets size data = front ++ [last] ∧ Packetized size data front last := by
  induction length : data.length using Nat.strongRecOn generalizing data with
  | ind count ih =>
      subst length
      rcases Nat.lt_trichotomy data.length size with short | even | long
      · refine ⟨[], data, packets_short some short, ?_, short, rfl⟩
        exact fun _ member => absurd member List.not_mem_nil
      · refine ⟨[data], [], packets_even positive even, ?_, positive, by simp⟩
        intro packet member
        rw [List.mem_singleton.mp member, even]
      · have shorter : (data.drop size).length < data.length := by
          rw [List.length_drop]
          omega
        have more : data.drop size ≠ [] := by
          intro nothing
          have none := congrArg List.length nothing
          rw [List.length_drop, List.length_nil] at none
          omega
        obtain ⟨front, last, cut, rest⟩ := ih _ shorter more rfl
        refine ⟨data.take size :: front, last, ?_, ?_, rest.short, ?_⟩
        · rw [packets_long positive long, cut]
          rfl
        · refine List.forall_mem_cons.mpr ⟨?_, rest.full⟩
          rw [List.length_take, Nat.min_eq_left (Nat.le_of_lt long)]
        · rw [List.flatten_cons, List.append_assoc, rest.content, List.take_append_drop]

theorem packets_length_le (positive : 0 < size) {packet : List α}
    (member : packet ∈ packets size data) : packet.length ≤ size := by
  by_cases some : data = []
  · subst some
    cases member
  · obtain ⟨front, last, cut, packetized⟩ := packetized positive some
    rw [cut] at member
    rcases List.mem_append.mp member with inside | ends
    · exact Nat.le_of_eq (packetized.full packet inside)
    · rw [List.mem_singleton.mp ends]
      exact Nat.le_of_lt packetized.short

end Packets

/-! ## Reassembly -/

section Reassembly

variable {size : Nat} {data : List α}

/-- Full packets are held. -/
theorem reassemble_full {front : List (List α)} (full : ∀ packet ∈ front, packet.length = size)
    (held : List α) (rest : List (Option (List α))) :
    reassemble size held (front.map some ++ rest) =
      reassemble size (held ++ front.flatten) rest := by
  induction front generalizing held with
  | nil => rw [List.flatten_nil, List.append_nil]; rfl
  | cons packet front ih =>
      obtain ⟨first, others⟩ := List.forall_mem_cons.mp full
      rw [List.map_cons, List.cons_append, reassemble, if_neg (by omega), ih others,
        List.flatten_cons, List.append_assoc]

theorem Sending.stream_whole {sending : Sending α} (whole : sending.whole size = true) :
    sending.stream size = (packets size sending.data).map some := by
  rw [Sending.stream, if_pos whole, List.append_nil,
    List.take_of_length_le (of_decide_eq_true whole)]

/-- A whole transfer is received, one that was broken off leaves nothing behind. -/
theorem reassemble_sending (positive : 0 < size) {sending : Sending α} (some : sending.data ≠ [])
    (rest : List (Option (List α))) :
    reassemble size [] (sending.stream size ++ rest) =
      (if sending.whole size then [sending.data] else []) ++ reassemble size [] rest := by
  obtain ⟨front, last, cut, packetized⟩ := packetized positive some
  cases whole : sending.whole size with
  | true =>
      rw [Sending.stream_whole whole, cut, List.map_append, List.append_assoc,
        reassemble_full packetized.full]
      change reassemble size _ (Option.some last :: rest) = _
      rw [reassemble, if_pos packetized.short, List.nil_append, packetized.content, if_pos rfl]
      rfl
  | false =>
      have early : sending.sent ≤ front.length := by
        have short : ¬(packets size sending.data).length ≤ sending.sent :=
          of_decide_eq_false whole
        rw [cut, List.length_append, List.length_singleton] at short
        omega
      have full (packet : List α) (member : packet ∈ front.take sending.sent) :
          packet.length = size := packetized.full packet (List.mem_of_mem_take member)
      rw [Sending.stream, whole, cut, List.take_append_of_le_length early, List.append_assoc,
        reassemble_full full]
      rfl

/-- The receiver gets exactly the whole transfers, in order, and then what else is sent. -/
theorem reassemble_sendings (positive : 0 < size) {sendings : List (Sending α)}
    (some : ∀ sending ∈ sendings, sending.data ≠ []) (rest : List (Option (List α))) :
    reassemble size [] (sendings.flatMap (Sending.stream size) ++ rest) =
      (sendings.filter (Sending.whole size)).map Sending.data ++ reassemble size [] rest := by
  induction sendings with
  | nil => rfl
  | cons sending others ih =>
      obtain ⟨first, others'⟩ := List.forall_mem_cons.mp some
      rw [List.flatMap_cons, List.append_assoc, reassemble_sending positive first, ih others']
      cases whole : sending.whole size with
      | true =>
          rw [List.filter_cons_of_pos whole]
          rfl
      | false =>
          rw [List.filter_cons_of_neg (by simp [whole])]
          rfl

/-- A transfer whose last packet is still to come gives the receiver nothing yet. -/
theorem reassemble_unfinished (positive : 0 < size) (some : data ≠ []) {sent : Nat}
    (more : sent < (packets size data).length) :
    reassemble size [] (((packets size data).take sent).map Option.some) = [] := by
  obtain ⟨front, last, cut, packetized⟩ := packetized positive some
  rw [cut, List.length_append, List.length_singleton] at more
  have early : sent ≤ front.length := Nat.le_of_lt_succ more
  have full (packet : List α) (member : packet ∈ front.take sent) : packet.length = size :=
    packetized.full packet (List.mem_of_mem_take member)
  have held := reassemble_full full [] []
  rw [List.append_nil] at held
  rw [cut, List.take_append_of_le_length early, held]
  rfl

end Reassembly

/-! ## Where transfers are broken off -/

/-- How often the sender went away. -/
def breaks (stream : List (Option (List α))) : Nat := stream.countP Option.isNone

theorem breaks_packets (packets : List (List α)) : breaks (packets.map some) = 0 := by
  induction packets with
  | nil => rfl
  | cons packet rest ih => exact ih

/-- Each break is a transfer that is not whole. -/
theorem length_eq_whole (size : Nat) (sendings : List (Sending α)) :
    sendings.length = (sendings.filter (Sending.whole size)).length +
      breaks (sendings.flatMap (Sending.stream size)) := by
  induction sendings with
  | nil => rfl
  | cons sending rest ih =>
      have packets' := breaks_packets ((packets size sending.data).take sending.sent)
      unfold breaks at ih packets' ⊢
      rw [List.flatMap_cons, List.countP_append, Sending.stream, List.countP_append, packets',
        List.length_cons, ih]
      cases whole : sending.whole size with
      | true =>
          rw [List.filter_cons_of_pos whole, if_pos rfl, List.length_cons, List.countP_nil]
          omega
      | false =>
          rw [List.filter_cons_of_neg (by simp [whole]), if_neg Bool.false_ne_true]
          change _ = _ + (0 + 1 + _)
          omega

theorem mem_stream_length_le {size : Nat} (positive : 0 < size) {sending : Sending α}
    {packet : List α} (member : some packet ∈ sending.stream size) : packet.length ≤ size := by
  rcases List.mem_append.mp member with sent | ended
  · obtain ⟨other, inside, same⟩ := List.mem_map.mp sent
    rw [← Option.some.inj same]
    exact packets_length_le positive (List.mem_of_mem_take inside)
  · split at ended
    · cases ended
    · exact absurd (List.mem_singleton.mp ended) (Option.some_ne_none packet)

end NrfUnifying.Lib.Transfers
