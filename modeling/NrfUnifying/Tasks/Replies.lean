import NrfUnifying.Lib.Runs
import NrfUnifying.Tasks.Service
import Mathlib.Data.List.Nodup

/-!
# The replies to UART requests

Every step of the system is a sequence of moves of the service pipeline, so the
replies are an ordered image of the requests. A request that was queued waits
for boundedly many rounds of the worker and the transmit task.
-/

namespace NrfUnifying.Tasks

open Lib.Bytes Lib.Runs Lib.Service Radio Storage UartLink Updater UartOta Relation

/-! ## The steps as moves -/

section Moves

variable {before after : View}

theorem Moves.of_eq {pipeline other : Pipeline Request Reply} (same : other = pipeline) :
    Moves pipeline other := same ▸ .refl

theorem View.Change.moves (change : before.Change after)
    (generation : before.generation = .ofNat before.damages) :
    Moves before.pipeline after.pipeline := by
  have framed {request : Request} (frames : before.Frames request) : request.Framed := by
    obtain ⟨number, session, source⟩ := frames.source
    exact ⟨⟨number, session, by rw [source, frames.damages, generation]⟩, frames.validated⟩
  cases change with
  | note event quiet =>
      cases event with
      | activated | toHost => exact .refl
      | _ => exact quiet.elim
  | request request cdc =>
      exact .of_eq (congrArg (fun queue => { before.pipeline with queue })
        (uartRequests_snoc_cdc before.requests cdc))
  | @frame request frames =>
      obtain ⟨number, session, source⟩ := frames.source
      have uart : request.source.isUart = true := by rw [source]; rfl
      refine (ReflTransGen.single (.submit (framed frames))).trans (Moves.of_eq ?_)
      exact congrArg (fun queue => { before.pipeline with
        submitted := before.pipeline.submitted ++ [request]
        entered := before.pipeline.entered ++ [request], queue })
        (uartRequests_snoc_uart before.requests uart)
  | overflow frames => exact .single (.refuse (framed frames))
  | damage => exact .refl

/-- What the worker has to itself turns into its reply, if it has one. -/
theorem Phase.Finishes.moves {request : Request} {phase : Phase} (finishes : phase.Finishes request)
    {pipeline : Pipeline Request Reply} (slot : pipeline.slot = (Phase.executing request).slot) :
    Moves pipeline { pipeline with slot := phase.slot } := by
  cases finishes with
  | replying uart answers =>
      refine .single (.reply ?_ answers)
      rw [slot, Phase.slot, if_pos uart]
  | done cdc =>
      have idle : pipeline.slot = .idle := by
        rw [slot, Phase.slot, if_neg (by rw [cdc]; exact Bool.false_ne_true)]
      exact Moves.of_eq (congrArg (fun slot => { pipeline with slot }) idle.symm)

/-- A request that the worker takes is in service, if it is a UART request. -/
theorem View.serve_moves {request : Request} {rest : List Request}
    (waiting : before.phase = .selecting) (queue : before.requests = request :: rest) :
    Moves before.pipeline { before.pipeline with
      queue := uartRequests rest, slot := (Phase.executing request).slot } := by
  have slot : before.pipeline.slot = .idle := congrArg Phase.slot waiting
  have queued : before.pipeline.queue = uartRequests (request :: rest) :=
    congrArg uartRequests queue
  cases uart : request.source.isUart with
  | true =>
      rw [uartRequests_cons_uart rest uart] at queued
      rw [Phase.slot, if_pos uart]
      exact .single (.serve slot queued)
  | false =>
      rw [uartRequests_cons_cdc rest uart] at queued
      rw [Phase.slot, uart, ← queued]
      exact Moves.of_eq (congrArg (fun slot => { before.pipeline with slot }) slot.symm)

theorem View.Work.moves (work : before.Work after) : Moves before.pipeline after.pipeline := by
  cases work with
  | rest waiting ledger phase =>
      refine Moves.of_eq ?_
      rw [View.pipeline, View.pipeline, ledger, phase]
      rcases waiting with starting | ⟨selecting, -⟩
      · rw [starting]
        rfl
      · rw [selecting]
  | @drop request rest waiting queue uart now _ ledger phase =>
      have queued : before.pipeline.queue = request :: uartRequests rest :=
        (congrArg uartRequests queue).trans (uartRequests_cons_uart rest uart)
      refine (ReflTransGen.single (.discard queued)).trans (Moves.of_eq ?_)
      rw [View.pipeline, ledger, phase, ← waiting, Ledger.pipeline, List.map_append]
      rfl
  | take waiting queue ledger phase =>
      refine (View.serve_moves waiting queue).trans ?_
      change Moves _ (after.ledger.pipeline after.phase)
      rw [ledger]
      rcases phase with finishes | ⟨executing, -⟩
      · exact finishes.moves rfl
      · rw [executing]
        exact .refl
  | finish executing ledger phase =>
      change Moves _ (after.ledger.pipeline after.phase)
      rw [ledger]
      exact phase.moves (congrArg Phase.slot executing)
  | send sending room ledger phase =>
      change Moves _ (after.ledger.pipeline after.phase)
      rw [ledger, phase]
      exact .single (.send (congrArg Phase.slot sending))
  | blocked sending full same => rw [same]

end Moves

/-! ## The invariant -/

/-- The numbers on requests tell them apart, damage explains every drop, and the queues are
bounded. -/
structure Ledger.Sound (ledger : Ledger) : Prop where
  generation : ledger.generation = .ofNat ledger.damages
  numbered : ∀ request ∈ ledger.submitted, request.stamp.id < ledger.framed
  distinct : (ledger.submitted.map fun request => request.stamp.id).Nodup
  damaged : ∀ entry ∈ ledger.discarded, entry.1.stamp.damages ≠ entry.2.damages
  requests : ledger.requests.length ≤ requestsCapacity
  replies : ledger.replies.length ≤ repliesCapacity

/-- The worker executes requests without an error only, and has not panicked. -/
def Phase.Steady : Phase → Prop
  | .executing request => request.error = none
  | .stopped => False
  | .starting | .selecting | .sending _ => True

structure View.Served (view : View) : Prop where
  exact : Pipeline.Exact Request.Framed Answers view.pipeline
  sound : view.ledger.Sound
  steady : view.phase.Steady

section Served

variable {before after : View}

theorem Ledger.Sound.submit {ledger : Ledger} (sound : ledger.Sound) {request : Request}
    (id : request.stamp.id = ledger.framed) :
    { ledger with
      submitted := ledger.submitted ++ [request], framed := ledger.framed + 1 }.Sound := by
  refine { sound with numbered := fun other member => ?_, distinct := ?_ }
  · rcases List.mem_append.mp member with old | new
    · exact Nat.lt_succ_of_lt (sound.numbered other old)
    · rw [List.mem_singleton.mp new, id]
      exact Nat.lt_succ_self _
  · rw [List.map_append]
    refine List.Nodup.append sound.distinct (List.nodup_singleton _) ?_
    intro key old new
    obtain ⟨other, member, rfl⟩ := List.mem_map.mp old
    have same : other.stamp.id = request.stamp.id := List.mem_singleton.mp new
    exact Nat.ne_of_lt (sound.numbered other member) (same.trans id)

theorem View.Change.sound (change : before.Change after) (sound : before.ledger.Sound) :
    after.ledger.Sound := by
  have room {requests : List Request} (request : Request)
      (room : requests.length < requestsCapacity) :
      (requests ++ [request]).length ≤ requestsCapacity := by
    rwa [List.length_append]
  cases change with
  | note event quiet =>
      cases event with
      | activated | toHost => exact sound
      | _ => exact quiet.elim
  | request request _ free => exact { sound with requests := room request free }
  | @frame request frames free =>
      exact { sound.submit frames.id with requests := room request free }
  | overflow frames => exact sound.submit frames.id
  | damage =>
      refine { sound with generation := ?_ }
      change before.generation + 1 = .ofNat (before.damages + 1)
      rw [show before.generation = _ from sound.generation, UInt32.ofNat_add]
      rfl

/-- Every step keeps the service exact. -/
theorem View.Change.served (change : before.Change after) (served : before.Served) :
    after.Served where
  exact := served.exact.moves (change.moves served.sound.generation)
  sound := change.sound served.sound
  steady := change.phase ▸ served.steady

theorem View.Changes.served (changes : before.Changes after) (served : before.Served) :
    after.Served := by
  induction changes with
  | refl => exact served
  | tail _ change ih => exact change.served ih

theorem View.Transmit.served {writing : Writing} (transmit : before.Transmit writing after)
    (served : before.Served) : after.Served := by
  cases transmit with
  | idle | pending => exact served
  | @take reply rest waiting replies transmitter =>
      have bound := served.sound.replies
      rw [show before.ledger.replies = _ from replies] at bound
      exact {
        exact := served.exact.move (.deliver replies)
        sound := { served.sound with replies := Nat.le_of_succ_le bound }
        steady := served.steady }
  | written busy changes =>
      refine changes.served ?_
      exact ⟨served.exact, { served.sound with }, served.steady⟩

theorem Phase.Serves.steady {request : Request} {phase : Phase} (serves : phase.Serves request) :
    phase.Steady := by
  rcases serves with finishes | ⟨rfl, sound⟩
  · cases finishes <;> trivial
  · exact sound

theorem View.Work.sound (work : before.Work after) (sound : before.ledger.Sound) :
    after.ledger.Sound := by
  have fewer {request : Request} {rest : List Request} (queue : before.requests = request :: rest) :
      rest.length ≤ requestsCapacity := by
    have bound := sound.requests
    rw [show before.ledger.requests = _ from queue] at bound
    exact Nat.le_of_succ_le bound
  cases work with
  | rest waiting ledger => exact ledger ▸ sound
  | drop waiting queue uart now damaged ledger =>
      rw [ledger]
      refine { sound with requests := fewer queue, damaged := fun entry member => ?_ }
      rcases List.mem_append.mp member with old | new
      · exact sound.damaged entry old
      · rwa [List.mem_singleton.mp new]
  | take waiting queue ledger =>
      rw [ledger]
      exact { sound with requests := fewer queue }
  | finish executing ledger => exact ledger ▸ sound
  | send sending room ledger =>
      rw [ledger]
      exact { sound with replies := by rwa [List.length_append] }
  | blocked sending full same => exact same ▸ sound

theorem View.Work.served (work : before.Work after) (served : before.Served) : after.Served := by
  refine ⟨served.exact.moves work.moves, work.sound served.sound, ?_⟩
  cases work with
  | rest _ _ phase | drop _ _ _ _ _ _ phase | send _ _ _ phase =>
      rw [phase]
      trivial
  | take _ _ _ phase => exact phase.steady
  | finish _ _ phase => exact Phase.Serves.steady (.inl phase)
  | blocked _ _ same => exact same ▸ served.steady

end Served

section System

variable {W F I : Type} [Board W] [RustUnifying W] [FirmwareUpdater F I]
  {system : System W F I} {buildTime : Nat}

/-- What the worker needs to take a step is part of the invariant. -/
theorem System.work_of_served (served : system.view.Served) (word : buildTime < 2 ^ 64)
    (clock : Clock) : system.view.Work (system.workerFut buildTime clock).view := by
  obtain ⟨answered, -, order, -⟩ := served.exact.answered
  have framed (request : Request) (pending : request ∈ system.view.pipeline.pending) :
      request.Framed :=
    served.exact.valid request (served.exact.entered.subset
      (order.subset (List.mem_append_right answered pending)))
  have steady := served.steady
  refine system.workerFut_work clock word ⟨fun stopped => ?_, served.sound.generation,
    fun request member uart => ?_, fun request executing => ⟨?_, fun uart => ?_⟩⟩
  · rw [show system.view.phase = _ from stopped] at steady
    exact steady
  · exact framed request (List.mem_append_right _ (List.mem_filter.mpr ⟨member, uart⟩))
  · rwa [show system.view.phase = _ from executing] at steady
  · refine framed request (List.mem_append_left _ ?_)
    have slot : system.view.pipeline.slot = .serving request := by
      rw [show system.view.pipeline.slot = _ from congrArg Phase.slot executing, Phase.slot,
        if_pos uart]
    rw [slot]
    exact List.mem_singleton_self request

theorem System.served_step (served : system.view.Served) (word : buildTime < 2 ^ 64)
    (action : Action) : (system.step buildTime action).view.Served := by
  cases action with
  | work clock => exact (System.work_of_served served word clock).served served
  | transmit writing => exact (system.uartTxFut_transmit writing).served served
  | usb | control | receive | serial =>
      refine View.Changes.served (System.step_changes system buildTime ?_) served
      trivial

theorem System.served_boot (world : W) (flash : Nvmc) (dfu : F) :
    (System.boot world flash dfu : System W F I).view.Served where
  exact := .empty
  sound := {
    generation := rfl
    numbered := fun _ member => absurd member List.not_mem_nil
    distinct := List.nodup_nil
    damaged := fun _ member => absurd member List.not_mem_nil
    requests := Nat.zero_le _
    replies := Nat.zero_le _ }
  steady := trivial

end System

end NrfUnifying.Tasks
