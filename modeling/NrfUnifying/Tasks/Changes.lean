import NrfUnifying.Tasks.Moves

/-!
# What the tasks around the worker change

Of the system, `View` is what the worker shares with the others through its
queues and flags. A step of the transmit task is a `Transmit` of it; a step of
any other task is a sequence of `Change`s.
-/

namespace NrfUnifying.Tasks

open Lib.Bytes Radio Storage UartLink Updater UartOta Relation

/-! ## The view -/

structure View where
  requests : List Request
  replies : List Reply
  phase : Phase
  connected : Bool
  transmitter : Transmitter
  damaged : Bool
  generation : UInt32
  damages : Nat
  framed : Nat
  log : List Event

/-- The events of the control and serial tasks. -/
def Event.Quiet : Event → Prop
  | .activated | .toHost .. => True
  | _ => False

/-- The receive task frames this request now. -/
structure View.Frames (view : View) (request : Request) : Prop where
  source : ∃ number session, request.source = .uart number session view.generation
  id : request.stamp.id = view.framed
  damages : request.stamp.damages = view.damages
  validated : request.error = none → validate request.line = none

/-- What the tasks other than the worker and the transmit task do. -/
inductive View.Change : View → View → Prop where
  | note {view : View} (event : Event) (quiet : event.Quiet) :
      Change view { view with log := event :: view.log }
  | request {view : View} (request : Request) (cdc : request.source.isUart = false)
      (room : view.requests.length < requestsCapacity) :
      Change view { view with requests := view.requests ++ [request] }
  | frame {view : View} {request : Request} (frames : view.Frames request)
      (room : view.requests.length < requestsCapacity) :
      Change view { view with
        requests := view.requests ++ [request]
        framed := view.framed + 1
        log := .framed request true :: view.log }
  | overflow {view : View} {request : Request} (frames : view.Frames request) :
      Change view { view with
        framed := view.framed + 1, log := .framed request false :: view.log }
  | damage {view : View} {owed : Bool} (link : owed = true → view.connected = true) :
      Change view { view with
        damaged := true
        generation := view.generation + 1
        damages := view.damages + 1
        log := .damaged (view.damages + 1) owed :: view.log }

abbrev View.Changes : View → View → Prop := ReflTransGen View.Change

/-- What the transmit task does; a failed write is damage. -/
inductive View.Transmit (writing : Writing) (before : View) : View → Prop where
  | idle (waiting : before.transmitter = .waiting) (empty : before.replies = []) :
      Transmit writing before before
  | take {reply : Reply} {rest : List Reply} (waiting : before.transmitter = .waiting)
      (replies : before.replies = reply :: rest) (transmitter : Transmitter) :
      Transmit writing before { before with
        replies := rest, transmitter, log := .taken reply :: before.log }
  | pending {reply : Reply} (busy : before.transmitter = .writing reply)
      (pending : writing = .pending) : Transmit writing before before
  | written {reply : Reply} {after : View} (busy : before.transmitter = .writing reply)
      (changes : View.Changes { before with transmitter := .waiting } after) :
      Transmit writing before after

theorem View.Change.phase {before after : View} (change : before.Change after) :
    after.phase = before.phase := by
  cases change <;> rfl

/-- Only the worker moves the worker. -/
theorem View.Changes.phase {view after : View} (changes : view.Changes after) :
    after.phase = view.phase := by
  induction changes with
  | refl => rfl
  | tail _ change ih => exact change.phase.trans ih

theorem View.Transmit.phase {writing : Writing} {view after : View}
    (transmit : view.Transmit writing after) : after.phase = view.phase := by
  cases transmit with
  | idle | take | pending => rfl
  | written _ changes => exact changes.phase

section Steps

variable {W F I : Type}

def System.view (system : System W F I) : View where
  requests := system.shared.requests
  replies := system.shared.uartReplies
  phase := system.worker.phase
  connected := system.worker.handler.state.connected
  transmitter := system.transmitter
  damaged := system.shared.uartDamaged
  generation := system.shared.uartGeneration
  damages := system.record.damages
  framed := system.record.framed
  log := system.record.log

variable {before after : System W F I}

/-- An all-up is owed for damage only with the link up. -/
theorem connected_of_owed {active connected : Bool} (owed : (connected && !active) = true) :
    connected = true :=
  (Bool.and_eq_true_iff.mp owed).1

/-! ## Each task -/

theorem System.UsbMove.changes (move : before.UsbMove after) :
    before.view.Changes after.view := by
  cases move with
  | activate => exact .single (.note .activated trivial)
  | _ => exact .refl

theorem System.RxMove.changes (move : before.RxMove after) : before.view.Changes after.view := by
  have frames {byte : UInt8} {frame : Frame} {parser : Parser}
      (pushed : before.receiver.parser.push byte = (some frame, parser)) :
      before.view.Frames (before.asked frame) :=
    ⟨⟨_, _, rfl⟩, rfl, rfl, Parser.push_validated (congrArg Prod.fst pushed)⟩
  cases move with
  | same | renew | discard | byte => exact .refl
  | misread => exact .single (.damage connected_of_owed)
  | frame _ pushed room => exact .single (.frame (frames pushed) room)
  | overflow _ pushed =>
      exact .tail (.single (.overflow (frames pushed))) (.damage connected_of_owed)

theorem System.TxMove.transmit {writing : Writing} (move : before.TxMove writing after) :
    before.view.Transmit writing after.view := by
  cases move with
  | idle waiting empty => exact .idle waiting empty
  | take waiting replies transmitter => exact .take waiting replies transmitter
  | pending busy pending => exact .pending busy pending
  | sent busy => exact .written busy .refl
  | fail busy => exact .written busy (.single (.damage connected_of_owed))

theorem System.outcome_changes (system : System W F I) (buildTime : Nat) (session : UInt32)
    (outcome : Serial.Outcome F I) (rest : List UInt8) :
    system.view.Changes (system.outcome buildTime session outcome rest).view := by
  rw [System.outcome]
  dsimp only
  split
  next reply _ => exact .single (.note (.toHost session (reply.text buildTime)) trivial)
  · exact .refl

theorem System.SerialMove.changes [FirmwareUpdater F I] {buildTime : Nat} {input : SerialInput}
    (move : before.SerialMove buildTime input after) : before.view.Changes after.view := by
  cases move with
  | enter | receive => exact .single (.note (.toHost _ _) trivial)
  | upload | byte => exact before.outcome_changes buildTime _ _ _
  | send requesting room => exact .single (.request _ rfl room)
  | _ => exact .refl

/-! ## All other tasks -/

def Action.IsOther : Action → Prop
  | .work _ | .transmit _ => False
  | _ => True

variable (system : System W F I)

theorem System.uartTxFut_transmit (writing : Writing) :
    system.view.Transmit writing (system.uartTxFut writing).view :=
  (system.uartTxFut_move writing).transmit

theorem System.step_changes [Board W] [RustUnifying W] [FirmwareUpdater F I] (buildTime : Nat)
    {action : Action} (other : action.IsOther) :
    system.view.Changes (system.step buildTime action).view := by
  cases action with
  | usb event => exact (system.usb_segment event).lift' System.view fun _ _ move => move.changes
  | control => exact system.controlFut_segment.lift' System.view fun _ _ move => move.changes
  | work | transmit => exact other.elim
  | receive reading =>
      exact (system.uartRxFut_segment reading).lift' System.view fun _ _ move => move.changes
  | serial input => exact (system.serialFut_move buildTime input).changes

end Steps

end NrfUnifying.Tasks
