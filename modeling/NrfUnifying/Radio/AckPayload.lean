import NrfUnifying.Lib.Runs
import NrfUnifying.Radio.EsbRadio

/-!
# Transmissions and their ACK payloads

The driver on an air that answers each attempt in any way. `Air` records every
frame with its answer; from that record alone `Call.leaves` says which payload
a later read may return, and the driver returns exactly that.
-/

namespace NrfUnifying.Radio

open Lib.Runs

/-- What an attempt hears; the receive buffer may have been written in any case. -/
inductive Heard where
  | timeout (rxBuf : Vector UInt8 34)
  | badCrc (rxBuf : Vector UInt8 34)
  | ack (rxBuf : Vector UInt8 34)
  deriving DecidableEq, Repr

namespace Heard

def attempt : Heard → Attempt
  | timeout rxBuf => { rxBuf := rxBuf.toList, ended := false, crcOk := false }
  | badCrc rxBuf => { rxBuf := rxBuf.toList, ended := true, crcOk := false }
  | ack rxBuf => { rxBuf := rxBuf.toList, ended := true, crcOk := true }

def acks : Heard → Bool
  | ack _ => true
  | _ => false

/-- The payload of a valid ACK: its on-air length comes first, then a header byte. -/
def payload : Heard → Option (List UInt8)
  | ack rxBuf =>
      if 0 < rxBuf[0].toNat ∧ rxBuf[0].toNat ≤ 32 then
        some ((rxBuf.toList.drop 2).take rxBuf[0].toNat)
      else none
  | _ => none

end Heard

/-- The frame that goes on air: length, packet id, and as many bytes as the length says. -/
def EsbRadio.onAir (radio : EsbRadio) : List UInt8 :=
  radio.txBuf.take (dmaHeader + (radio.txBuf.getD 0 0).toNat)

/-- The answers to come, and the frames sent so far with the answer each got. -/
structure Air where
  answers : Nat → Heard
  sent : List (List UInt8 × Heard) := []

instance : Board Air where
  now air := (0, air)
  delay air _ := air
  attempt air radio :=
    ((air.answers 0).attempt,
      { answers := fun n => air.answers (n + 1)
        sent := air.sent ++ [(radio.onAir, air.answers 0)] })
  disableRadio air := air
  pofWarning _ := false
  clearPofWarning air := air

inductive Call where
  | transmit (payload : List UInt8)
  | probe (payload : List UInt8)
  | setRetries (delay count : UInt8)
  | receive (buffer : List UInt8)
  deriving DecidableEq, Repr

inductive Returned where
  | acked (result : Bool)
  | done
  | received (count : UInt8) (buffer : List UInt8)
  deriving DecidableEq, Repr

/-- The payload that is left to read after a call, from what was sent in it. -/
def Call.leaves (pending : Option (List UInt8)) (sent : List (List UInt8 × Heard)) :
    Call → Option (List UInt8)
  | .transmit _ | .probe _ => sent.getLast?.bind fun last => last.2.payload
  | .setRetries _ _ => pending
  | .receive _ => none

/-- The driver on its air, and the payload an observer of the air expects to be read. -/
structure Watched where
  radio : EsbRadio := {}
  air : Air
  pending : Option (List UInt8) := none

def Call.run (radio : EsbRadio) (air : Air) : Call → Returned × EsbRadio × Air
  | .transmit payload =>
      let (result, radio, air) := radio.transmitPayload payload air
      (.acked result, radio, air)
  | .probe payload =>
      let (result, radio, air) := radio.probeOnce payload air
      (.acked result, radio, air)
  | .setRetries delay count => (.done, radio.setRetries delay count, air)
  | .receive buffer =>
      let ((count, buffer), radio) := radio.receivePayload buffer
      (.received count buffer, radio, air)

def Watched.step (watched : Watched) (call : Call) : Watched :=
  let (_, radio, air) := call.run watched.radio watched.air
  { radio, air
    pending := call.leaves watched.pending (air.sent.drop watched.air.sent.length) }

/-! ## What a call has to do -/

/-- The frame of a payload: its length, cut to 32, the packet id, and the bytes. -/
def packet (pid : UInt8) (payload : List UInt8) : List UInt8 :=
  (min payload.length 32).toUInt8 :: ((pid <<< 1) ||| 1) :: payload.take 32

/-- Attempts of one call: one frame, at most `limit` times, up to the first ACK. -/
structure Exchanged (frame : List UInt8) (limit : Nat) (sent : List (List UInt8 × Heard))
    (acked : Bool) : Prop where
  same : ∀ one ∈ sent, one.1 = frame
  some : sent ≠ []
  few : sent.length ≤ limit
  stops : ∀ one ∈ sent.dropLast, one.2.acks = false
  acked_iff : acked = true ↔ ∃ last ∈ sent.getLast?, last.2.acks = true
  tried : acked = false → sent.length = limit

/-- What a call does, given what it has sent. -/
def Call.Meets (before : Watched) (sent : List (List UInt8 × Heard)) (returned : Returned)
    (after : EsbRadio) : Call → Prop
  | .transmit payload => ∃ acked, returned = .acked acked ∧
      after.pid = (before.radio.pid + 1) % 4 ∧
      Exchanged (packet after.pid payload) (before.radio.retransmitCount.toNat + 1) sent acked
  | .probe payload => ∃ acked, returned = .acked acked ∧
      after.pid = (before.radio.pid + 1) % 4 ∧
      Exchanged (packet after.pid payload) 1 sent acked
  | .setRetries _ count => returned = .done ∧ sent = [] ∧ after.pid = before.radio.pid ∧
      after.retransmitCount = count
  | .receive buffer => sent = [] ∧ after.pid = before.radio.pid ∧
      let bytes := before.pending.getD []
      let count := min bytes.length buffer.length
      returned = .received count.toUInt8 (bytes.take count ++ buffer.drop count)

/-! ## One attempt and one call -/

/-- The driver's fields that an attempt leaves alone. -/
structure SameSetup (before after : EsbRadio) : Prop where
  onAir : after.onAir = before.onAir
  pid : after.pid = before.pid
  retransmitCount : after.retransmitCount = before.retransmitCount

/-- What the driver keeps for the next read. -/
def Holding (radio : EsbRadio) : Option (List UInt8) → Prop
  | none => radio.rxLen = 0
  | some bytes => 0 < radio.rxLen.toNat ∧ bytes.length = radio.rxLen.toNat ∧
      bytes = (radio.rxBuf.drop dmaHeader).take radio.rxLen.toNat

theorem txOnce_air (radio : EsbRadio) (air : Air) (empty : radio.rxLen = 0) :
    (radio.txOnce air).1 = (air.answers 0).acks ∧
      (radio.txOnce air).2.2.sent = air.sent ++ [(radio.onAir, air.answers 0)] ∧
      SameSetup radio (radio.txOnce air).2.1 ∧
      Holding (radio.txOnce air).2.1 (air.answers 0).payload := by
  unfold EsbRadio.txOnce
  dsimp only [Board.attempt]
  cases air.answers 0 with
  | timeout rxBuf => exact ⟨rfl, rfl, ⟨rfl, rfl, rfl⟩, empty⟩
  | badCrc rxBuf => exact ⟨rfl, rfl, ⟨rfl, rfl, rfl⟩, rfl⟩
  | ack rxBuf =>
      refine ⟨rfl, rfl, ⟨rfl, rfl, rfl⟩, ?_⟩
      have first : rxBuf.toList.getD 0 0 = rxBuf[0] := by
        rw [List.getD_eq_getElem?_getD]
        simp
      change Holding
        { radio with
          rxBuf := rxBuf.toList
          rxLen := if 0 < rxBuf.toList.getD 0 0 ∧ (rxBuf.toList.getD 0 0).toNat ≤ maxPayloadLen
            then rxBuf.toList.getD 0 0 else 0 }
        (if 0 < rxBuf[0].toNat ∧ rxBuf[0].toNat ≤ 32 then _ else none)
      rw [first]
      by_cases fits : 0 < rxBuf[0].toNat ∧ rxBuf[0].toNat ≤ 32
      · have fits' : (0 : UInt8) < rxBuf[0] ∧ rxBuf[0].toNat ≤ maxPayloadLen :=
          ⟨UInt8.lt_iff_toNat_lt.mpr fits.1, fits.2⟩
        rw [if_pos fits, if_pos fits']
        refine ⟨fits.1, ?_, rfl⟩
        rw [List.length_take, List.length_drop, Vector.length_toList]
        exact Nat.min_eq_left fits.2
      · have fits' : ¬((0 : UInt8) < rxBuf[0] ∧ rxBuf[0].toNat ≤ maxPayloadLen) :=
          fun both => fits ⟨UInt8.lt_iff_toNat_lt.mp both.1, both.2⟩
        rw [if_neg fits, if_neg fits']
        rfl

theorem Holding.empty_of_failed {radio : EsbRadio} {answer : Heard}
    (holding : Holding radio answer.payload) (failed : answer.acks = false) : radio.rxLen = 0 := by
  cases answer with
  | timeout rxBuf => exact holding
  | badCrc rxBuf => exact holding
  | ack rxBuf => cases failed

theorem SameSetup.trans {first second third : EsbRadio} (one : SameSetup first second)
    (two : SameSetup second third) : SameSetup first third where
  onAir := two.onAir.trans one.onAir
  pid := two.pid.trans one.pid
  retransmitCount := two.retransmitCount.trans one.retransmitCount

theorem Exchanged.single (frame : List UInt8) (limit : Nat) (answer : Heard)
    (enough : 1 ≤ limit) (last : answer.acks = false → limit = 1) :
    Exchanged frame limit [(frame, answer)] answer.acks where
  same := by simp
  some := List.cons_ne_nil _ _
  few := enough
  stops := by simp
  acked_iff := by simp
  tried failed := (last failed).symm

theorem Exchanged.cons {frame : List UInt8} {limit : Nat} {sent : List (List UInt8 × Heard)}
    {acked : Bool} {answer : Heard} (failed : answer.acks = false)
    (rest : Exchanged frame limit sent acked) :
    Exchanged frame (limit + 1) ((frame, answer) :: sent) acked where
  same := List.forall_mem_cons.mpr ⟨rfl, rest.same⟩
  some := List.cons_ne_nil _ _
  few := Nat.succ_le_succ rest.few
  stops := by
    rw [List.dropLast_cons_of_ne_nil rest.some]
    exact List.forall_mem_cons.mpr ⟨failed, rest.stops⟩
  acked_iff := by
    rw [List.getLast?_cons_of_ne_nil rest.some]
    exact rest.acked_iff
  tried none := congrArg Nat.succ (rest.tried none)

/-- The retry loop. -/
theorem transmitAttempts_air (attempts : Nat) (radio : EsbRadio) (air : Air)
    (empty : radio.rxLen = 0) :
    ∃ sent, ((radio.transmitAttempts (attempts + 1) air).2.2).sent = air.sent ++ sent ∧
      Exchanged radio.onAir (attempts + 1) sent (radio.transmitAttempts (attempts + 1) air).1 ∧
      SameSetup radio (radio.transmitAttempts (attempts + 1) air).2.1 ∧
      Holding (radio.transmitAttempts (attempts + 1) air).2.1
        (sent.getLast?.bind fun last => last.2.payload) := by
  induction attempts generalizing radio air with
  | zero =>
      obtain ⟨acked, sent, same, holding⟩ := txOnce_air radio air empty
      unfold EsbRadio.transmitAttempts
      generalize radio.txOnce air = once at *
      obtain ⟨result, radio', air'⟩ := once
      dsimp only at acked sent same holding
      subst acked
      refine ⟨[(radio.onAir, air.answers 0)], ?_⟩
      have single := Exchanged.single radio.onAir 1 (air.answers 0) (Nat.le_refl 1) fun _ => rfl
      cases result : (air.answers 0).acks
      all_goals
        rw [result] at single
        exact ⟨sent, single, same, holding⟩
  | succ attempts ih =>
      obtain ⟨acked, sent, same, holding⟩ := txOnce_air radio air empty
      unfold EsbRadio.transmitAttempts
      generalize radio.txOnce air = once at *
      obtain ⟨result, radio', air'⟩ := once
      dsimp only at acked sent same holding
      subst acked
      cases result : (air.answers 0).acks with
      | true =>
          have single := Exchanged.single radio.onAir (attempts + 1 + 1) (air.answers 0)
            (Nat.succ_le_succ (Nat.zero_le _)) (by simp [result])
          rw [result] at single
          exact ⟨[(radio.onAir, air.answers 0)], sent, single, same, holding⟩
      | false =>
          dsimp only
          rw [if_pos (Nat.succ_pos attempts)]
          obtain ⟨more, sent', exchanged, same', holding'⟩ :=
            ih radio' air' (holding.empty_of_failed result)
          rw [same.onAir] at exchanged
          refine ⟨(radio.onAir, air.answers 0) :: more, ?_, exchanged.cons result,
            same.trans same', ?_⟩
          · exact sent'.trans (by rw [sent, List.append_assoc]; rfl)
          · rw [List.getLast?_cons_of_ne_nil exchanged.some]
            exact holding'

/-! ## Calls -/

theorem and_three (x : UInt8) : x &&& 0x03 = x % 4 := by
  apply UInt8.toNat_inj.mp
  rw [UInt8.toNat_and, UInt8.toNat_mod]
  exact Nat.and_two_pow_sub_one_eq_mod _ 2

theorem frame_pid (radio : EsbRadio) (payload : List UInt8) :
    (radio.frame payload).pid = (radio.pid + 1) % 4 := and_three _

theorem frame_onAir (radio : EsbRadio) (payload : List UInt8) :
    (radio.frame payload).onAir = packet (radio.frame payload).pid payload := by
  have small : min payload.length maxPayloadLen ≤ 32 := Nat.min_le_right _ _
  have length : ((min payload.length maxPayloadLen).toUInt8).toNat =
      min payload.length maxPayloadLen := by
    rw [Nat.toUInt8_eq, UInt8.toNat_ofNat']
    omega
  have cut : payload.take (min payload.length maxPayloadLen) = payload.take 32 := by
    rw [Nat.min_comm, ← List.take_take, List.take_length]
    rfl
  have inside : (payload.take 32).length = min payload.length maxPayloadLen := by
    rw [← cut, List.length_take]
    omega
  unfold EsbRadio.onAir EsbRadio.frame packet
  dsimp only
  rw [cut]
  change ((_ :: _ :: payload.take 32) ++ _).take
    (dmaHeader + ((min payload.length maxPayloadLen).toUInt8).toNat) = _
  rw [length, List.take_append_of_le_length, List.take_of_length_le]
  · rfl
  · simp [inside, dmaHeader]
    omega
  · simp [inside, dmaHeader]
    omega

/-- A new packet, sent once or with retries, from an emptied mailbox. -/
theorem transmit_meets (watched : Watched) (payload : List UInt8) (limit : Nat) :
    ∃ sent, (((watched.radio.frame payload).transmitAttempts (limit + 1) watched.air).2.2).sent =
        watched.air.sent ++ sent ∧
      ((watched.radio.frame payload).transmitAttempts (limit + 1) watched.air).2.1.pid =
        (watched.radio.pid + 1) % 4 ∧
      Exchanged (packet ((watched.radio.pid + 1) % 4) payload) (limit + 1) sent
        ((watched.radio.frame payload).transmitAttempts (limit + 1) watched.air).1 ∧
      Holding ((watched.radio.frame payload).transmitAttempts (limit + 1) watched.air).2.1
        (sent.getLast?.bind fun last => last.2.payload) := by
  obtain ⟨sent, air, exchanged, same, holding⟩ :=
    transmitAttempts_air limit (watched.radio.frame payload) watched.air rfl
  rw [frame_onAir, frame_pid] at exchanged
  exact ⟨sent, air, same.pid.trans (frame_pid _ _), exchanged, holding⟩

theorem probeOnce_eq (radio : EsbRadio) (payload : List UInt8) (air : Air) :
    radio.probeOnce payload air = (radio.frame payload).transmitAttempts 1 air := by
  unfold EsbRadio.probeOnce EsbRadio.transmitAttempts
  generalize (radio.frame payload).txOnce air = once
  obtain ⟨result, radio, air⟩ := once
  cases result <;> rfl

theorem Holding.receive {radio : EsbRadio} {pending : Option (List UInt8)}
    (holding : Holding radio pending) (buffer : List UInt8) :
    let count := min (pending.getD []).length buffer.length
    (radio.receivePayload buffer).1 =
      (count.toUInt8, (pending.getD []).take count ++ buffer.drop count) := by
  unfold EsbRadio.receivePayload
  cases pending with
  | none =>
      have empty : radio.rxLen = 0 := holding
      rw [empty]
      simp
  | some bytes =>
      obtain ⟨-, length, bytesEq⟩ := holding
      dsimp only [Option.getD_some]
      rw [length]
      have taken : bytes.take (min radio.rxLen.toNat buffer.length) =
          (radio.rxBuf.drop dmaHeader).take (min radio.rxLen.toNat buffer.length) := by
        rw [bytesEq, List.take_take, Nat.min_assoc, Nat.min_comm buffer.length, ← Nat.min_assoc,
          Nat.min_self]
      rw [taken]

theorem Holding.available {radio : EsbRadio} {pending : Option (List UInt8)}
    (holding : Holding radio pending) : radio.payloadAvailable = pending.isSome := by
  unfold EsbRadio.payloadAvailable
  cases pending with
  | none =>
      have empty : radio.rxLen = 0 := holding
      rw [empty]
      rfl
  | some bytes =>
      have some : radio.rxLen ≠ 0 := by
        intro empty
        have positive := holding.1
        rw [empty] at positive
        cases positive
      exact decide_eq_true some

/-- One call does what it has to, and leaves what the observer expects. -/
theorem Call.meets (watched : Watched) (call : Call)
    (holding : Holding watched.radio watched.pending) :
    ∃ sent, (call.run watched.radio watched.air).2.2.sent = watched.air.sent ++ sent ∧
      call.Meets watched sent (call.run watched.radio watched.air).1
        (call.run watched.radio watched.air).2.1 ∧
      Holding (call.run watched.radio watched.air).2.1 (call.leaves watched.pending sent) := by
  cases call with
  | transmit payload =>
      obtain ⟨sent, air, pid, exchanged, left⟩ :=
        transmit_meets watched payload watched.radio.retransmitCount.toNat
      rw [← pid] at exchanged
      exact ⟨sent, air, ⟨_, rfl, pid, exchanged⟩, left⟩
  | probe payload =>
      obtain ⟨sent, air, pid, exchanged, left⟩ := transmit_meets watched payload 0
      rw [← pid] at exchanged
      rw [← probeOnce_eq] at air exchanged pid left
      exact ⟨sent, air, ⟨_, rfl, pid, exchanged⟩, left⟩
  | setRetries delay count =>
      refine ⟨[], (List.append_nil _).symm, ⟨rfl, rfl, rfl, rfl⟩, ?_⟩
      change Holding _ watched.pending
      cases pending : watched.pending with
      | none => exact pending ▸ holding
      | some bytes => exact pending ▸ holding
  | receive buffer =>
      have read := holding.receive buffer
      refine ⟨[], (List.append_nil _).symm, ⟨rfl, rfl, ?_⟩, rfl⟩
      change Returned.received (watched.radio.receivePayload buffer).1.1
        (watched.radio.receivePayload buffer).1.2 = _
      rw [read]

theorem Watched.step_holding (watched : Watched) (call : Call)
    (holding : Holding watched.radio watched.pending) :
    Holding (watched.step call).radio (watched.step call).pending := by
  obtain ⟨sent, air, -, left⟩ := call.meets watched holding
  change Holding (call.run watched.radio watched.air).2.1 (call.leaves watched.pending
    ((call.run watched.radio watched.air).2.2.sent.drop watched.air.sent.length))
  rw [air, List.drop_left]
  exact left

/--
For every sequence of calls and every answer on air: a call sends one frame, under
the next packet id, up to its first valid ACK and no more often than the retries
allow, and reports whether there was one. What is then available, and what the
next read returns, is the payload of that ACK if its length is from 1 to 32 and
nothing otherwise; a read clears it.
-/
theorem esb_discipline (answers : Nat → Heard) (calls : List Call) :
    EveryStep Watched.step (fun before call =>
      let after := before.step call
      ∃ sent, after.air.sent = before.air.sent ++ sent ∧
        call.Meets before sent (call.run before.radio before.air).1 after.radio ∧
        after.pending = call.leaves before.pending sent ∧
        after.radio.payloadAvailable = after.pending.isSome) { air := { answers } } calls := by
  have first : Holding ({} : EsbRadio) none := rfl
  have always : Always Watched.step (fun watched => Holding watched.radio watched.pending)
      { air := { answers } } calls :=
    Always.of_step (fun watched call holding => Watched.step_holding watched call holding) first
      calls
  intro before call after same
  have holding := always before (call :: after) same
  generalize before.foldl Watched.step { air := { answers } } = watched at holding ⊢
  obtain ⟨sent, air, meets, left⟩ := call.meets watched holding
  have pending : (watched.step call).pending = call.leaves watched.pending sent := by
    change call.leaves watched.pending
      ((call.run watched.radio watched.air).2.2.sent.drop watched.air.sent.length) = _
    rw [air, List.drop_left]
  refine ⟨sent, air, meets, pending, ?_⟩
  rw [pending]
  exact left.available

end NrfUnifying.Radio
