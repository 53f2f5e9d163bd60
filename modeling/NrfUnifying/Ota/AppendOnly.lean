import NrfUnifying.Lib.Runs
import NrfUnifying.Ota.CommitSafety

/-!
# Writes append to the image

The number of bytes received never passes the announced size and stays a
multiple of four. A line that writes does so at that offset and nowhere else,
so the writes between two accepted `BEGIN` lines follow one another from zero.
-/

namespace NrfUnifying.UartOta

open Lib.Runs

variable {S : Type} [Storage S]

/-! ## The bounds of a session -/

/-- The progress of an update stays inside the image, in whole words. -/
structure Ota.Bounded (ota : Ota) : Prop where
  inside : ota.received ≤ ota.size
  small : ota.size ≤ limit
  whole : ota.received % 4 = 0

theorem Ota.bounded_default : ({} : Ota).Bounded :=
  ⟨Nat.le_refl 0, Nat.zero_le limit, rfl⟩

theorem Ota.Bounded.abort {ota : Ota} (bounded : ota.Bounded) : ota.abort.Bounded :=
  ⟨Nat.zero_le _, bounded.small, rfl⟩

/-- A commit line that is not refused aborts the session, or closes it as it is. -/
theorem Ota.commit_ota (ota : Ota) (storage : S) (active : ota.active = true)
    (complete : ota.received = ota.size) :
    (ota.commit storage).ota = ota.abort ∨
      (ota.commit storage).ota = { ota with active := false } := by
  have commits := ota.commits storage active complete
  generalize ota.commit storage = outcome at commits
  cases commits with
  | unread | differs | unmarked => exact .inl rfl
  | marked => exact .inr rfl

/-- Every request line keeps the bounds. -/
theorem Ota.Bounded.handled {ota : Ota} (bounded : ota.Bounded) {line : List UInt8} {storage : S}
    {outcome : Outcome S} (handled : ota.Handled line storage outcome) : outcome.ota.Bounded := by
  cases handled with
  | refused reply refuses => exact bounded
  | began size crc args large small whole => exact ⟨Nat.zero_le _, small, rfl⟩
  | retried offset bytes args active inside => exact bounded
  | stored bytes args accepts written =>
      refine ⟨accepts.fits, bounded.small, ?_⟩
      change (ota.received + bytes.length) % 4 = 0
      rw [Nat.add_mod, bounded.whole, accepts.whole]
  | writeFailed bytes args accepts failed => exact bounded.abort
  | committed active complete =>
      rcases ota.commit_ota storage active complete with aborted | closed
      · rw [aborted]
        exact bounded.abort
      · rw [closed]
        exact ⟨bounded.inside, bounded.small, bounded.whole⟩
  | aborted => exact bounded.abort

/-- The sessions that lines and aborts lead to, over any storages. -/
inductive Ota.Reachable : Ota → Prop where
  | start : Reachable {}
  | line {S : Type} [Storage S] {ota : Ota} (before : Reachable ota) (bytes : List UInt8)
      (storage : S) : Reachable (ota.handle bytes storage).ota
  | abort {ota : Ota} (before : Reachable ota) : Reachable ota.abort

theorem Ota.Reachable.bounded {ota : Ota} (reachable : ota.Reachable) : ota.Bounded := by
  induction reachable with
  | start => exact bounded_default
  | line before bytes storage ih => exact ih.handled (handle_cases _ bytes storage)
  | abort before ih => exact ih.abort

/-! ## The writes of a line -/

/-- The addresses that an event wrote or tried to write, in order. -/
def Event.written (event : Event S) : List Nat :=
  event.calls.flatMap fun
    | .write offset bytes _ => List.range' offset bytes.length
    | _ => []

/-- What a line writes: one accepted chunk at the end of the image, or nothing. -/
inductive Ota.Writes (ota : Ota) (line : List UInt8) (outcome : Outcome (Recorded S)) : Prop where
  | chunk (bytes : List UInt8) (done : Bool)
      (calls : outcome.storage.calls = [.write ota.received bytes done])
      (args : UartOta.chunk line = some (ota.received, bytes)) (accepts : ota.Accepts bytes)
      (after : outcome.ota =
        if done then { ota with received := ota.received + bytes.length } else ota.abort)
      (reply : outcome.reply = if done then .ok else .errWrite)
  | nothing (quiet : ∀ call ∈ outcome.storage.calls, call.isWrite = false)
      (restarts : outcome.reply = .ready → outcome.ota.received = 0)
      (after : outcome.reply = .ready ∨ outcome.ota = ota ∨ outcome.ota.active = false)

/-- How a commit line that is not refused ends: the commit succeeded, or something failed. -/
inductive Ota.Closes (ota : Ota) (outcome : Outcome (Recorded S)) : Prop where
  | failed (reply : outcome.reply = .errRead ∨ outcome.reply = .errCrc ∨ outcome.reply = .errMark)
      (reboot : outcome.reboot = false) (after : outcome.ota = ota.abort)
      (calls : ∀ call ∈ outcome.storage.calls, call.isWrite = false ∧ call.commits = false)
  | rebooted (reply : outcome.reply = .reboot) (reboot : outcome.reboot = true)
      (after : outcome.ota = { ota with active := false }) (reads : List (Call S)) (before : S)
      (quiet : ∀ call ∈ reads, call.isWrite = false ∧ call.commits = false)
      (calls : outcome.storage.calls = reads ++ [.commit before true])

theorem Ota.commit_closes (ota : Ota) (storage : S) (active : ota.active = true)
    (complete : ota.received = ota.size) :
    ota.Closes (ota.commit ({ storage } : Recorded S)) := by
  have reading {found : Option UInt32} {after : Recorded S}
      (read : readBack ota.size ((ota.size + 63) / 64) 0 0xFFFFFFFF ({ storage } : Recorded S) =
        (found, after)) : ∀ call ∈ after.calls, call.isWrite = false ∧ call.commits = false := by
    obtain ⟨reads, calls, quiet⟩ := readBack_calls ota.size ((ota.size + 63) / 64) 0 0xFFFFFFFF
      ({ storage } : Recorded S)
    rw [read] at calls
    rw [calls]
    intro call member
    obtain ⟨noCommit, noWrite⟩ := quiet call member
    cases call with
    | commit => cases noCommit
    | _ => exact ⟨noWrite, rfl⟩
  have commits := ota.commits ({ storage } : Recorded S) active complete
  generalize ota.commit ({ storage } : Recorded S) = outcome at commits
  cases commits with
  | unread after read => exact .failed (.inl rfl) rfl rfl (reading read)
  | differs crc after read wrong => exact .failed (.inr (.inl rfl)) rfl rfl (reading read)
  | unmarked crc before read right failed =>
      rw [Recorded.commit_eq] at failed ⊢
      refine .failed (.inr (.inr rfl)) rfl rfl fun call member => ?_
      rcases List.mem_append.mp member with old | last
      · exact reading read call old
      · rw [List.mem_singleton.mp last]
        exact ⟨rfl, failed⟩
  | marked crc before read right done =>
      rw [Recorded.commit_eq] at done ⊢
      refine .rebooted rfl rfl rfl before.calls before.storage (reading read) ?_
      exact congrArg (fun done => before.calls ++ [Call.commit before.storage done]) done

theorem Ota.handle_writes (ota : Ota) (line : List UInt8) (storage : S) :
    ota.Writes line (ota.handle line ({ storage } : Recorded S)) := by
  generalize outcomeIs : ota.handle line ({ storage } : Recorded S) = outcome
  have handled := ota.handle_cases line ({ storage } : Recorded S)
  rw [outcomeIs] at handled
  cases handled with
  | refused reply refuses =>
      refine .nothing (by simp) ?_ (.inr (.inl rfl))
      rintro rfl
      cases refuses
  | began size crc args large small whole => exact .nothing (by simp) (fun _ => rfl) (.inl rfl)
  | retried offset bytes args active inside =>
      refine .nothing ?_ ?_ (.inr (.inl rfl))
      · simp [Recorded.read_eq, Call.isWrite]
      · intro ready
        split at ready <;> cases ready
  | stored bytes args accepts written =>
      refine .chunk bytes true ?_ args accepts rfl rfl
      rw [Recorded.write_eq] at written ⊢
      rw [written]
      rfl
  | writeFailed bytes args accepts failed =>
      refine .chunk bytes false ?_ args accepts rfl rfl
      rw [Recorded.write_eq] at failed ⊢
      rw [failed]
      rfl
  | committed active complete =>
      cases ota.commit_closes storage active complete with
      | failed reply reboot after calls =>
          refine .nothing (fun call member => (calls call member).1) ?_ (.inr (.inr ?_))
          · rw [after]
            exact fun _ => rfl
          · rw [after]
            rfl
      | rebooted reply reboot after reads before quiet calls =>
          refine .nothing (fun call member => ?_) ?_ (.inr (.inr ?_))
          · rw [calls] at member
            rcases List.mem_append.mp member with old | last
            · exact (quiet call old).1
            · rw [List.mem_singleton.mp last]
              rfl
          · rw [reply]
            rintro ⟨⟩
          · rw [after]
  | aborted => exact .nothing (by simp) (fun _ => rfl) (.inr (.inr rfl))

/-! ## The writes of a run -/

omit [Storage S] in
theorem Event.written_of_quiet {event : Event S}
    (quiet : ∀ call ∈ event.calls, call.isWrite = false) : event.written = [] := by
  refine List.flatMap_eq_nil_iff.mpr fun call member => ?_
  cases call with
  | write offset bytes done => cases quiet _ member
  | read offset count done => rfl
  | commit before done => rfl

/-- Where the writes of a session without a new `BEGIN` may go: on from what was received. -/
theorem State.written_eq {state : State S} (bounded : state.ota.Bounded) (inputs : List Input)
    (same : ∀ event ∈ state.trace inputs, event.reply ≠ some .ready) :
    ∃ count, (state.trace inputs).flatMap Event.written =
        List.range' state.ota.received count ∧
      state.ota.received + count ≤ state.ota.size ∧
      (state.ota.active = false → count = 0) := by
  induction inputs generalizing state with
  | nil => exact ⟨0, rfl, bounded.inside, fun _ => rfl⟩
  | cons input inputs ih =>
      obtain ⟨first, rest⟩ := List.forall_mem_cons.mp same
      rw [State.trace, List.flatMap_cons]
      cases input with
      | abort =>
          obtain ⟨count, written, -, none⟩ := @ih (state.step .abort).2 bounded.abort rest
          obtain rfl := none rfl
          exact ⟨0, written, bounded.inside, fun _ => rfl⟩
      | line bytes =>
          have kept : (state.step (.line bytes)).2.ota.Bounded :=
            bounded.handled
              (state.ota.handle_cases bytes ({ storage := state.storage } : Recorded S))
          obtain ⟨count, written, inside, none⟩ := ih kept rest
          rw [written]
          cases state.ota.handle_writes bytes state.storage with
          | chunk payload done calls args accepts after reply =>
              have here : (state.step (.line bytes)).1.written =
                  List.range' state.ota.received payload.length := by
                change List.flatMap _ _ = _
                rw [State.step, calls, List.flatMap_singleton]
              rw [here]
              have fits := accepts.fits
              cases done with
              | true =>
                  have received : (state.step (.line bytes)).2.ota.received =
                      state.ota.received + payload.length := congrArg Ota.received after
                  have size : (state.step (.line bytes)).2.ota.size = state.ota.size :=
                    (congrArg Ota.size after :)
                  rw [received, size] at inside
                  refine ⟨payload.length + count, ?_, by omega, ?_⟩
                  · rw [received, List.range'_append_1]
                  · rw [accepts.active]
                    rintro ⟨⟩
              | false =>
                  obtain rfl := none (congrArg Ota.active after)
                  refine ⟨payload.length, List.append_nil _, fits, ?_⟩
                  rw [accepts.active]
                  rintro ⟨⟩
          | nothing quiet restarts after =>
              rw [Event.written_of_quiet quiet, List.nil_append]
              rcases after with ready | kept | inactive
              · exact absurd (congrArg some ready) first
              · change (state.step (.line bytes)).2.ota = state.ota at kept
                rw [kept] at inside none ⊢
                exact ⟨count, rfl, inside, none⟩
              · obtain rfl := none inactive
                exact ⟨0, rfl, bounded.inside, fun _ => rfl⟩

/-! ## Whole runs -/

theorem State.bounded_step {state : State S} (bounded : state.ota.Bounded) (input : Input) :
    (state.step input).2.ota.Bounded := by
  cases input with
  | line bytes =>
      exact bounded.handled
        (state.ota.handle_cases bytes ({ storage := state.storage } : Recorded S))
  | abort => exact bounded.abort

/-- A line that is answered `READY` starts the image anew. -/
theorem State.received_of_ready (state : State S) (input : Input)
    (ready : (state.step input).1.reply = some .ready) :
    (state.step input).2.ota.received = 0 := by
  cases input with
  | abort => rfl
  | line bytes =>
      have reply : (state.ota.handle bytes ({ storage := state.storage } : Recorded S)).reply =
        .ready := Option.some.inj ready
      cases state.ota.handle_writes bytes state.storage with
      | chunk payload done calls args accepts after reply' =>
          rw [reply] at reply'
          cases done <;> cases reply'
      | nothing quiet restarts after => exact restarts reply

theorem State.trace_append (state : State S) (before after : List Input) :
    state.trace (before ++ after) = state.trace before ++ (state.run before).trace after := by
  induction before generalizing state with
  | nil => rfl
  | cons input before ih => exact congrArg (_ :: ·) (ih (state.step input).2)

theorem State.run_concat (state : State S) (before : List Input) (last : Input) :
    state.run (before ++ [last]) = ((state.run before).step last).2 := by
  rw [State.run, List.foldl_append]
  rfl

/-- The state after one line or abort. -/
def State.next (state : State S) (input : Input) : State S := (state.step input).2

/-- The bounds hold in every state of a run. -/
theorem State.bounded_always (storage : S) (inputs : List Input) :
    Always State.next (fun state => state.ota.Bounded) ({ storage } : State S) inputs := by
  refine Always.of_step (fun state input bounded => ?_) ?_ inputs
  · exact State.bounded_step bounded input
  · exact Ota.bounded_default

/-- The writes of a session that starts with an accepted `BEGIN`, or with the run, follow one
another from zero. -/
theorem State.written_from_zero (storage : S) (before session : List Input)
    (start : before = [] ∨ ∃ event,
      (({ storage } : State S).trace before).getLast? = some event ∧ event.reply = some .ready)
    (same : ∀ event ∈ (({ storage } : State S).run before).trace session,
      event.reply ≠ some .ready) :
    ∃ count ≤ limit,
      ((({ storage } : State S).run before).trace session).flatMap Event.written =
        List.range count := by
  have bounded : (({ storage } : State S).run before).ota.Bounded :=
    State.bounded_always storage before before [] (List.append_nil before).symm
  have zero : (({ storage } : State S).run before).ota.received = 0 := by
    rcases start with rfl | ⟨event, last, ready⟩
    · rfl
    · rcases List.eq_nil_or_concat before with rfl | ⟨before, input, rfl⟩
      · cases last
      · rw [List.concat_eq_append, State.trace_append, State.trace, State.trace,
          List.getLast?_concat] at last
        obtain rfl := Option.some.inj last
        rw [List.concat_eq_append, State.run_concat]
        exact State.received_of_ready _ input ready
  obtain ⟨count, written, inside, -⟩ := State.written_eq bounded session same
  rw [zero] at written inside
  refine ⟨count, ?_, ?_⟩
  · exact Nat.le_trans (by omega) bounded.small
  · rw [written, List.range_eq_range']

/-- The progress of an update stays in its bounds; a line writes only the accepted chunk it
carries, at the end of the image so far, so a chunk that overlaps it, leaves a gap or passes its
size is never written; and the addresses written since a `BEGIN` was accepted are consecutive from
zero, each of them written once. -/
theorem writes_append_only (storage : S) (inputs : List Input) :
    Always State.next
        (fun state => state.ota.received ≤ state.ota.size ∧ state.ota.size ≤ limit ∧
          state.ota.received % 4 = 0) ({ storage } : State S) inputs ∧
    EveryStep State.next
        (fun state input =>
          (∀ offset bytes done, Call.write offset bytes done ∈ (state.step input).1.calls →
            (∃ line, input = .line line ∧ chunk line = some (offset, bytes)) ∧
            offset = state.ota.received ∧ 4 ≤ bytes.length ∧ bytes.length ≤ 64 ∧
            bytes.length % 4 = 0 ∧ offset + bytes.length ≤ state.ota.size) ∧
          ∀ line offset bytes, input = .line line → chunk line = some (offset, bytes) →
            offset ≠ state.ota.received ∨ state.ota.size < offset + bytes.length →
            ∀ call ∈ (state.step input).1.calls, call.isWrite = false)
        ({ storage } : State S) inputs ∧
    ∀ before session after, inputs = before ++ session ++ after →
      (before = [] ∨ ∃ event, (({ storage } : State S).trace before).getLast? = some event ∧
        event.reply = some .ready) →
      (∀ event ∈ (({ storage } : State S).run before).trace session, event.reply ≠ some .ready) →
      ∃ count ≤ limit,
        ((({ storage } : State S).run before).trace session).flatMap Event.written =
            List.range count ∧
          (((({ storage } : State S).run before).trace session).flatMap Event.written).Nodup := by
  refine ⟨?_, ?_, ?_⟩
  · intro before after split
    have bounded := State.bounded_always storage inputs before after split
    exact ⟨bounded.inside, bounded.small, bounded.whole⟩
  · rintro before input after -
    generalize before.foldl _ _ = state
    cases input with
    | abort =>
        refine ⟨fun offset bytes done member => ?_, fun line offset bytes same => ?_⟩
        · cases member
        · cases same
    | line bytes =>
        cases state.ota.handle_writes bytes state.storage with
        | chunk payload done calls args accepts after reply =>
            change (state.step (.line bytes)).1.calls = _ at calls
            have positive := accepts.positive
            have whole := accepts.whole
            rw [calls]
            refine ⟨fun offset written done' member => ?_, ?_⟩
            · obtain ⟨rfl, rfl, -⟩ := Call.write.inj (List.mem_singleton.mp member)
              exact ⟨⟨bytes, rfl, args⟩, rfl, by omega, accepts.short, whole, accepts.fits⟩
            · intro line offset carried same carries outside
              obtain rfl := Input.line.inj same
              rw [args] at carries
              obtain ⟨rfl, rfl⟩ := Prod.mk.inj (Option.some.inj carries)
              have fits := accepts.fits
              omega
        | nothing quiet restarts after =>
            refine ⟨fun offset written done member => ?_, fun _ _ _ _ _ _ => quiet⟩
            cases quiet _ member
  · intro before session after split start same
    obtain ⟨count, small, written⟩ := State.written_from_zero storage before session start same
    refine ⟨count, small, written, ?_⟩
    rw [written]
    exact List.nodup_range

end NrfUnifying.UartOta
