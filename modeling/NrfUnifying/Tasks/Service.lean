import NrfUnifying.Lib.Service
import NrfUnifying.Radio.Replies
import NrfUnifying.Tasks.Changes
import NrfUnifying.Tasks.Segments

/-!
# The service of UART requests

The worker's steps as moves of a service pipeline: a UART request that it takes
from the queue is discarded, or becomes one reply that carries its number.
-/

namespace NrfUnifying.Tasks

open Lib.Bytes Lib.Service Radio Storage UartLink Updater UartOta Relation

/-! ## What the log says of UART requests -/

/-- The requests that were framed, oldest first. -/
def submitted : List Event → List Request
  | [] => []
  | .framed request _ :: rest => submitted rest ++ [request]
  | _ :: rest => submitted rest

/-- Those of them that were queued. -/
def entered : List Event → List Request
  | [] => []
  | .framed request true :: rest => entered rest ++ [request]
  | _ :: rest => entered rest

/-- The replies that the transmit task took, oldest first. -/
def delivered : List Event → List Reply
  | [] => []
  | .taken reply :: rest => delivered rest ++ [reply]
  | _ :: rest => delivered rest

/-- The requests that the worker dropped, and when. -/
def discarded : List Event → List (Request × Snapshot)
  | [] => []
  | .dropped request now :: rest => discarded rest ++ [(request, now)]
  | _ :: rest => discarded rest

/-! ## The pipeline -/

/-- A framed request carries the generation that it was framed in, and what has no error passed
the transport's checks. -/
structure Request.Framed (request : Request) : Prop where
  source : ∃ number session, request.source = .uart number session (.ofNat request.stamp.damages)
  validated : request.error = none → validate request.line = none

/-- The reply to a request: its own number, and one line that the transport can encode. -/
structure Answers (reply : Reply) (request : Request) : Prop where
  source : reply.source = request.source
  stamp : reply.stamp = request.stamp
  line : IsLine reply.bytes
  encodes : ∀ number session generation, reply.source = .uart number session generation →
    (encodeReply number reply.bytes (List.replicate wireSize 0)).isSome = true

/-- What the worker and the channels hold of the UART requests and their replies. -/
structure Ledger where
  requests : List Request
  replies : List Reply
  transmitter : Transmitter
  generation : UInt32
  damages : Nat
  framed : Nat
  submitted : List Request
  entered : List Request
  delivered : List Reply
  discarded : List (Request × Snapshot)

def View.ledger (view : View) : Ledger where
  requests := view.requests
  replies := view.replies
  transmitter := view.transmitter
  generation := view.generation
  damages := view.damages
  framed := view.framed
  submitted := Tasks.submitted view.log
  entered := Tasks.entered view.log
  delivered := Tasks.delivered view.log
  discarded := Tasks.discarded view.log

/-- CDC requests share the queue but are not part of the service. -/
def uartRequests (requests : List Request) : List Request :=
  requests.filter fun request => request.source.isUart

def Phase.slot : Phase → Slot Request Reply
  | .executing request => if request.source.isUart then .serving request else .idle
  | .sending reply => .replying reply
  | .starting | .selecting | .stopped => .idle

def Ledger.pipeline (ledger : Ledger) (phase : Phase) : Pipeline Request Reply where
  submitted := ledger.submitted
  entered := ledger.entered
  queue := uartRequests ledger.requests
  slot := phase.slot
  channel := ledger.replies
  delivered := ledger.delivered
  discarded := ledger.discarded.map Prod.fst

abbrev View.pipeline (view : View) : Pipeline Request Reply := view.ledger.pipeline view.phase

section Queue

variable {request : Request} (requests : List Request)

theorem uartRequests_cons_uart (uart : request.source.isUart = true) :
    uartRequests (request :: requests) = request :: uartRequests requests :=
  List.filter_cons_of_pos uart

theorem uartRequests_cons_cdc (cdc : request.source.isUart = false) :
    uartRequests (request :: requests) = uartRequests requests :=
  List.filter_cons_of_neg (by rw [cdc]; exact Bool.false_ne_true)

theorem uartRequests_snoc_uart (uart : request.source.isUart = true) :
    uartRequests (requests ++ [request]) = uartRequests requests ++ [request] := by
  rw [uartRequests, List.filter_append]
  exact congrArg (_ ++ ·) (uartRequests_cons_uart [] uart)

theorem uartRequests_snoc_cdc (cdc : request.source.isUart = false) :
    uartRequests (requests ++ [request]) = uartRequests requests := by
  rw [uartRequests, List.filter_append]
  exact (congrArg (_ ++ ·) (uartRequests_cons_cdc [] cdc)).trans (List.append_nil _)

end Queue

abbrev Moves : Pipeline Request Reply → Pipeline Request Reply → Prop :=
  ReflTransGen (Pipeline.Move Request.Framed Answers)

/-! ## The worker -/

/-- Where the worker is when it is done with a request that it did not drop. -/
inductive Phase.Finishes (request : Request) : Phase → Prop where
  | replying {reply : Reply} (uart : request.source.isUart = true)
      (answers : Answers reply request) : Finishes request (.sending reply)
  | done (cdc : request.source.isUart = false) : Finishes request .selecting

/-- Where it is after it took one. -/
def Phase.Serves (request : Request) (phase : Phase) : Prop :=
  phase.Finishes request ∨ phase = .executing request ∧ request.error = none

/-- What a step of the worker does. -/
inductive View.Work (before after : View) : Prop where
  | rest (waiting : before.phase = .starting ∨ before.phase = .selecting ∧ before.requests = [])
      (ledger : after.ledger = before.ledger) (phase : after.phase = .selecting)
  | drop {request : Request} {rest : List Request} (waiting : before.phase = .selecting)
      (queue : before.requests = request :: rest) (uart : request.source.isUart = true)
      (now : Snapshot) (damaged : request.stamp.damages ≠ now.damages)
      (ledger : after.ledger = { before.ledger with
        requests := rest, discarded := before.ledger.discarded ++ [(request, now)] })
      (phase : after.phase = .selecting)
  | take {request : Request} {rest : List Request} (waiting : before.phase = .selecting)
      (queue : before.requests = request :: rest)
      (ledger : after.ledger = { before.ledger with requests := rest })
      (phase : after.phase.Serves request)
  | finish {request : Request} (executing : before.phase = .executing request)
      (ledger : after.ledger = before.ledger) (phase : after.phase.Finishes request)
  | send {reply : Reply} (sending : before.phase = .sending reply)
      (room : before.replies.length < repliesCapacity)
      (ledger : after.ledger = { before.ledger with replies := before.replies ++ [reply] })
      (phase : after.phase = .selecting)
  | blocked {reply : Reply} (sending : before.phase = .sending reply)
      (full : repliesCapacity ≤ before.replies.length) (same : after = before)

theorem isLine_reply (reply : UartOta.Reply) : IsLine reply.text := by
  cases reply <;> decide

theorem isLine_answer (answer : Answer) : IsLine answer.text := by
  cases answer with
  | info booted => cases booted <;> decide
  | handled reply => exact isLine_reply reply

theorem Answers.of_line (request : Request) {bytes : List UInt8} (line : IsLine bytes) :
    Answers ⟨request.source, bytes, request.stamp⟩ request where
  source := rfl
  stamp := rfl
  line := line
  encodes number _ _ _ := by
    refine encodeReply_isSome number ?_
    rw [List.length_replicate]
    exact Nat.add_le_add_right line.fits 10

/-- The transport refuses the empty line and the self-test. -/
theorem validated_command {line : List UInt8} (validated : validate line = none) :
    line ≠ [] ∧ line ≠ ascii "URADIOTEST" := by
  constructor
  · rintro rfl
    exact absurd validated (by decide)
  · rintro rfl
    exact absurd validated (by decide +kernel)

/-! ### From the moves of a segment -/

/-- The worker took this request in the segment, or comes to its end with it; and the ledger of the
requests left. -/
inductive View.Fetches (before : View) (request : Request) : Ledger → Prop where
  | taken {rest : List Request} (waiting : before.phase = .selecting)
      (queue : before.requests = request :: rest) :
      Fetches before request { before.ledger with requests := rest }
  | executed (executing : before.phase = .executing request) :
      Fetches before request before.ledger

theorem View.Fetches.work {before after : View} {request : Request}
    (fetches : before.Fetches request after.ledger) (finishes : after.phase.Finishes request) :
    before.Work after := by
  generalize ledger : after.ledger = left at fetches
  cases fetches with
  | taken waiting queue => exact .take waiting queue ledger (.inl finishes)
  | executed executing => exact .finish executing ledger finishes

/-- At the top of the loop only the ledger matters. -/
theorem View.Work.of_ledger {before after other : View} (work : before.Work after)
    (selecting : after.phase = .selecting) (ledger : other.ledger = after.ledger)
    (phase : other.phase = after.phase) : before.Work other := by
  cases work with
  | rest waiting same => exact .rest waiting (ledger.trans same) (phase.trans selecting)
  | drop waiting queue uart now damaged same =>
      exact .drop waiting queue uart now damaged (ledger.trans same) (phase.trans selecting)
  | take waiting queue same serves =>
      exact .take waiting queue (ledger.trans same) (phase ▸ serves)
  | finish executing same finishes => exact .finish executing (ledger.trans same) (phase ▸ finishes)
  | send sending room same => exact .send sending room (ledger.trans same) (phase.trans selecting)
  | blocked sending full same =>
      rw [same, sending] at selecting
      cases selecting

section Steps

variable {W F I : Type}

/-- What a segment from `before` has done at a stage. -/
def Stage.Work (before : View) (stage : Stage) (after : System W F I) : Prop :=
  match stage with
  | .awaits => after.view = before
  | .holds request | .admits request => ∃ rest, before.phase = .selecting ∧
      before.requests = request :: rest ∧
      after.view.ledger = { before.ledger with requests := rest }
  | .answers request bytes => before.Fetches request after.view.ledger ∧
      (request.source.isUart = true → IsLine bytes)
  | .expires | .hands | .repairs | .polls => before.Work { after.view with phase := .selecting }
  | .rests => before.Work after.view

/-- The worker runs, and the requests that it serves were framed. -/
structure View.Serving (before : View) : Prop where
  running : before.phase ≠ .stopped
  generation : before.generation = .ofNat before.damages
  queued : ∀ request ∈ before.requests, request.source.isUart = true → request.Framed
  executing : ∀ request, before.phase = .executing request →
    request.error = none ∧ (request.source.isUart = true → request.Framed)

variable [Board W] [RustUnifying W]

/-- A framed request without an error is answered with one line. -/
theorem handleUnifyingCommand_line {buildTime : Nat} (word : buildTime < 2 ^ 64)
    {handler after : Handler W} {request : Request} (framed : request.Framed)
    (sound : request.error = none)
    (handled : handleUnifyingCommand buildTime handler.ready request.line = some after) :
    IsLine after.sink.bytes := by
  obtain ⟨nonempty, other⟩ := validated_command (framed.validated sound)
  obtain ⟨result, body, same, line, sink⟩ :=
    handleUnifyingCommand_replies handler.ready request.line word nonempty other
  obtain rfl := Option.some.inj (same.symm.trans handled)
  rw [sink, ReplySink.write_bytes (by exact (Nat.zero_add body.length).symm ▸ line.fits)]
  exact line

variable [FirmwareUpdater F I] {buildTime : Nat} {clock : Clock}

/-- A move of the worker; a request is dropped only after damage since it was framed. -/
theorem Worker.Move.work {start : View} {stage next : Stage} {before after : System W F I}
    (move : Worker.Move buildTime clock stage before next after) (word : buildTime < 2 ^ 64)
    (serving : start.Serving) (kept : stage.Work start before) : next.Work start after := by
  cases move with
  | start phase =>
      obtain rfl : before.view = start := kept
      exact .rest (.inl phase) rfl rfl
  | tick phase empty | notice phase empty =>
      obtain rfl : before.view = start := kept
      exact .rest (.inr ⟨phase, empty⟩) rfl rfl
  | send phase room =>
      obtain rfl : before.view = start := kept
      exact .send phase room rfl rfl
  | wait waits =>
      obtain rfl : before.view = start := kept
      cases waits with
      | selecting phase empty => exact .rest (.inr ⟨phase, empty⟩) rfl phase
      | sending phase full => exact .blocked phase full rfl
      | stopped phase => exact absurd phase serving.running
  | @take _ request rest phase queue =>
      obtain rfl : before.view = start := kept
      exact ⟨rest, phase, queue, rfl⟩
  | finish phase handled =>
      obtain rfl : before.view = start := kept
      obtain ⟨sound, framed⟩ := serving.executing _ phase
      exact ⟨.executed phase, fun uart =>
        handleUnifyingCommand_line word (framed uart) sound handled⟩
  | @panic _ request _ handled =>
      have ends := handleUnifyingCommand_isSome before.worker.handler.ready request.line buildTime
      rw [handled] at ends
      cases ends
  | dropCdc source =>
      obtain ⟨rest, waiting, queue, ledger⟩ := kept
      refine .take waiting queue ledger (.inl (.done ?_))
      rw [source]
      rfl
  | @dropUart _ request number session generation source stale =>
      obtain ⟨rest, waiting, queue, ledger⟩ := kept
      have uart := Source.isUart_of source
      have damages : before.record.damages = start.damages := congrArg Ledger.damages ledger
      have current : before.shared.uartGeneration = start.generation :=
        congrArg Ledger.generation ledger
      refine .drop waiting queue uart before.now ?_ ?_ rfl
      · intro same
        have framed := serving.queued request (by rw [queue]; exact List.mem_cons_self) uart
        obtain ⟨_, _, carried⟩ := framed.source
        rw [source, Source.uart.injEq] at carried
        apply stale
        rw [carried.2.2, same, current, serving.generation, ← damages]
        rfl
      · exact congrArg (fun ledger : Ledger => { ledger with
          discarded := ledger.discarded ++ [(request, before.now)] }) ledger
  | admitCdc => exact kept
  | refuseUart =>
      obtain ⟨rest, waiting, queue, ledger⟩ := kept
      have busy : IsLine errBusy := by decide
      refine ⟨?_, fun _ => busy⟩
      change start.Fetches _ before.view.ledger
      rw [ledger]
      exact .taken waiting queue
  | syncUart | admitUart => exact kept
  | uploading | busy =>
      obtain ⟨rest, waiting, queue, ledger⟩ := kept
      have busy : IsLine errBusy := by decide
      exact ⟨ledger ▸ .taken waiting queue, fun _ => busy⟩
  | update =>
      obtain ⟨rest, waiting, queue, ledger⟩ := kept
      refine ⟨?_, fun _ => isLine_answer _⟩
      change start.Fetches _ before.view.ledger
      rw [ledger]
      exact .taken waiting queue
  | @wrong _ request fault =>
      obtain ⟨rest, waiting, queue, ledger⟩ := kept
      refine ⟨ledger ▸ .taken waiting queue, fun _ => ?_⟩
      cases fault <;> decide
  | execute _ _ sound =>
      obtain ⟨rest, waiting, queue, ledger⟩ := kept
      exact .take waiting queue ledger (.inr ⟨rfl, sound⟩)
  | @replyUart _ request bytes uart =>
      exact View.Fetches.work kept.1 (.replying uart (.of_line request (kept.2 uart)))
  | replyCdc source | withhold source =>
      refine View.Fetches.work kept.1 (.done ?_)
      rw [source]
      rfl
  | onTime | known | sound => exact kept
  | expire | overlook | handOver | forget | repair => exact kept.of_ledger rfl rfl rfl
  | select => exact kept.of_ledger rfl rfl rfl

/-- Every step of the worker. -/
theorem System.workerFut_work (system : System W F I) (clock : Clock) (word : buildTime < 2 ^ 64)
    (serving : system.view.Serving) :
    system.view.Work (system.workerFut buildTime clock).view :=
  system.workerFut_keeps buildTime clock (motive := Stage.Work system.view) rfl
    fun move kept => move.work word serving kept

end Steps

end NrfUnifying.Tasks
