import NrfUnifying.Radio.Replies
import NrfUnifying.Tasks.Changes
import NrfUnifying.Tasks.Segments

/-!
# What a CDC session consists of

`CdcView` is the part of the system that the CDC sessions live in: the session
and its flag, the hand-over to it, its requests and its replies. A step of the
worker is a sequence of `Change`s of it, a step of a UART task a sequence of
`Listen`s, a step of USB or of the control task at most renumbers the session,
and the serial task has its own steps.
-/

namespace NrfUnifying.Tasks

open Lib.Bytes Radio Storage UartLink Updater UartOta Relation

/-! ## The view -/

/-- The CDC request that the worker serves. -/
def Phase.cdcRequest : Phase → Option Request
  | .executing request => if request.source.isUart then none else some request
  | _ => none

/-- The session that the serial task has open, once its hand-over is complete. -/
def SerialPhase.entered : SerialPhase → Option UInt32
  | .connecting | .inactive | .handshake _ => none
  | .reading session | .scanning session _ | .requesting session _ _ | .answering session _ =>
      some session

/-- The session whose reply the serial task waits for. -/
def SerialPhase.awaiting : SerialPhase → Option UInt32
  | .answering session _ => some session
  | _ => none

structure CdcView where
  active : Bool
  session : UInt32
  sessions : Nat
  seen : UInt32
  ready : Option UInt32
  serial : SerialPhase
  requests : List Request
  serving : Option Request
  replies : List Reply
  log : List Event

/-- The session is the current one, and active. -/
def CdcView.Live (view : CdcView) (session : UInt32) : Prop :=
  view.active = true ∧ view.session = session

/-- Events that neither hand the radio over nor start a request. -/
def Event.Plain : Event → Prop
  | .started .. | .maintained _ => False
  | _ => True

theorem Event.Quiet.plain {event : Event} (quiet : event.Quiet) : event.Plain := by
  cases event with
  | activated | toHost => trivial
  | _ => exact quiet.elim

/-- What the UART tasks do. -/
inductive CdcView.Listen : CdcView → CdcView → Prop where
  | note {view : CdcView} (event : Event) (plain : event.Plain) :
      Listen view { view with log := event :: view.log }
  | queue {view : CdcView} (request : Request) (uart : request.source.isUart = true) :
      Listen view { view with requests := view.requests ++ [request] }

abbrev CdcView.Listens : CdcView → CdcView → Prop := ReflTransGen CdcView.Listen

/-- What the worker does. -/
inductive CdcView.Change : CdcView → CdcView → Prop where
  | note {view : CdcView} (event : Event) (plain : event.Plain) :
      Change view { view with log := event :: view.log }
  /-- The worker finds a new session that is not active. -/
  | overlook {view : CdcView} (inactive : view.active = false) :
      Change view { view with seen := view.session }
  | handOver {view : CdcView} (active : view.active = true) :
      Change view { view with
        seen := view.session
        ready := some view.session
        log := .maintained view.session :: view.log }
  | takeUart {view : CdcView} {request : Request} {rest : List Request}
      (queue : view.requests = request :: rest) (uart : request.source.isUart = true) :
      Change view { view with requests := rest }
  | startUart {view : CdcView} (request : Request) (uart : request.source.isUart = true)
      (inactive : view.active = false) (damages : Nat) :
      Change view { view with
        log := .started request ⟨view.active, view.sessions, damages⟩ :: view.log }
  | drop {view : CdcView} {request : Request} {rest : List Request} {epoch : UInt32}
      (queue : view.requests = request :: rest) (source : request.source = .cdc epoch)
      (stale : ¬(view.Live epoch ∧ view.seen = epoch)) :
      Change view { view with requests := rest }
  | serve {view : CdcView} {request : Request} {rest : List Request} {epoch : UInt32}
      (queue : view.requests = request :: rest) (source : request.source = .cdc epoch)
      (idle : view.serving = none) :
      Change view { view with requests := rest, serving := some request }
  | startCdc {view : CdcView} (request : Request) {epoch : UInt32}
      (source : request.source = .cdc epoch) (live : view.Live epoch) (seen : view.seen = epoch)
      (damages : Nat) :
      Change view { view with
        log := .started request ⟨view.active, view.sessions, damages⟩ :: view.log }
  | reply {view : CdcView} {request : Request} {epoch : UInt32}
      (serving : view.serving = some request) (source : request.source = .cdc epoch)
      (live : view.Live epoch) (room : view.replies.length < repliesCapacity)
      (bytes : List UInt8) :
      Change view { view with
        serving := none
        replies := view.replies ++ [⟨request.source, bytes, request.stamp⟩] }
  | withhold {view : CdcView} {request : Request} {epoch : UInt32}
      (serving : view.serving = some request) (source : request.source = .cdc epoch)
      (refused : ¬(view.Live epoch ∧ view.replies.length < repliesCapacity)) :
      Change view { view with serving := none }

abbrev CdcView.Changes : CdcView → CdcView → Prop := ReflTransGen CdcView.Change

/-- What USB events and the control task do. -/
inductive CdcView.Renumber (view : CdcView) : CdcView → Prop where
  | same : Renumber view view
  | lose : Renumber view { view with
      active := false, session := view.session + 1, sessions := view.sessions + 1, replies := [] }
  | activate (inactive : view.active = false) : Renumber view { view with
      active := true, session := view.session + 1, sessions := view.sessions + 1
      log := .activated :: view.log }

/-- `session_ended` cancels the session. -/
def CdcView.Cancels (view : CdcView) (input : SerialInput) (session : UInt32) : Prop :=
  input.timer = true ∧ ¬view.Live session

/-- A serial step notes at most what it sends to the host. -/
inductive Noted (log : List Event) : List Event → Prop where
  | nothing : Noted log log
  | toHost (session : UInt32) (bytes : List UInt8) : Noted log (.toHost session bytes :: log)

/-- What the serial task does. -/
inductive CdcView.Serial (input : SerialInput) (view : CdcView) : CdcView → Prop where
  | same : Serial input view view
  | connect (waiting : view.serial = .connecting) :
      Serial input view { view with serial := .inactive }
  | opens (waiting : view.serial = .inactive) (active : view.active = true) :
      Serial input view { view with serial := .handshake view.session }
  | cancel {session : UInt32} (open_ : view.serial.open = some session)
      (cancels : view.Cancels input session) :
      Serial input view { view with serial := .connecting, replies := [] }
  | ready {session : UInt32} {log : List Event} (waiting : view.serial = .handshake session)
      (signalled : view.ready = some session) (noted : Noted view.log log) :
      Serial input view { view with ready := none, serial := .reading session, log }
  | other {session other : UInt32} (waiting : view.serial = .handshake session)
      (signalled : view.ready = some other) (different : other ≠ session)
      (open_ : ¬view.Cancels input session) :
      Serial input view { view with ready := none }
  | fail {session : UInt32} (reading : view.serial = .reading session)
      (failed : input.packet = some none) (open_ : ¬view.Cancels input session) :
      Serial input view { view with serial := .connecting, replies := [] }
  | move {session : UInt32} {serial : SerialPhase} {log : List Event}
      (entered : view.serial.entered = some session) (quiet : view.serial.awaiting = none)
      (stays : serial.entered = some session) (still : serial.awaiting = none)
      (noted : Noted view.log log) :
      Serial input view { view with serial, log }
  | send {session : UInt32} {line rest : List UInt8}
      (requesting : view.serial = .requesting session line rest)
      (room : view.requests.length < requestsCapacity) :
      Serial input view { view with
        serial := .answering session rest
        requests := view.requests ++ [{ source := .cdc session, line }] }
  | receive {session : UInt32} {rest : List UInt8} {reply : Reply} {replies : List Reply}
      (answering : view.serial = .answering session rest) (queue : view.replies = reply :: replies)
      (own : reply.source = .cdc session) :
      Serial input view { view with
        serial := .scanning session rest, replies, log := .toHost session reply.bytes :: view.log }
  | skip {session : UInt32} {rest : List UInt8} {reply : Reply} {replies : List Reply}
      (answering : view.serial = .answering session rest) (queue : view.replies = reply :: replies)
      (foreign : reply.source ≠ .cdc session) :
      Serial input view { view with replies }

section Steps

variable {W F I : Type}

/-- The view while the worker serves this CDC request, if any. -/
def System.cdcDuring (system : System W F I) (serving : Option Request) : CdcView where
  active := system.shared.cdcActive
  session := system.shared.cdcSession
  sessions := system.record.sessions
  seen := system.worker.sessionSeen
  ready := system.shared.maintenanceReady
  serial := system.serial.phase
  requests := system.shared.requests
  serving
  replies := system.shared.cdcReplies
  log := system.record.log

def System.cdcView (system : System W F I) : CdcView :=
  system.cdcDuring system.worker.phase.cdcRequest

variable (system : System W F I)

/-! ## USB and control -/

variable {system} in
/-- At most one move renumbers at most once. -/
theorem System.renumber_of_move {after : System W F I}
    (move : ReflGen System.UsbMove system after) : system.cdcView.Renumber after.cdcView := by
  cases move with
  | refl => exact .same
  | single move =>
      cases move with
      | lose | deactivate => exact .lose
      | activate inactive => exact .activate inactive
      | configure | line | signal | hear | look => exact .same

theorem System.usb_renumber (event : UsbEvent) :
    system.cdcView.Renumber (system.usb event).cdcView :=
  System.renumber_of_move (system.usb_move event)

/-- USB events activate no session. -/
theorem System.usb_session (event : UsbEvent) (active : (system.usb event).cdcView.active = true) :
    (system.usb event).cdcView.session = system.cdcView.session := by
  revert active
  rw [System.usb.eq_def]
  split
  · exact fun _ => rfl
  · rintro ⟨⟩
  · rintro ⟨⟩
  · rintro ⟨⟩
  · exact fun _ => rfl
  · exact fun _ => rfl
  · exact fun _ => rfl

theorem System.updateActive_renumber :
    system.cdcView.Renumber system.updateActive.cdcView :=
  System.renumber_of_move system.updateActive_move

theorem System.controlFut_renumber : system.cdcView.Renumber system.controlFut.cdcView := by
  rw [System.controlFut]
  split
  · exact System.updateActive_renumber { system with
      control := { system.control with changed := false } }
  split
  · exact System.updateActive_renumber { system with
      shared := { system.shared with usbLifecycleChanged := false } }
  · exact .same

/-! ## UART -/

section Uart

variable {before after : System W F I}

theorem System.RxMove.listens (move : before.RxMove after) :
    before.cdcView.Listens after.cdcView := by
  cases move with
  | same | renew | discard | byte => exact .refl
  | misread => exact .single (.note (.damaged _ _) trivial)
  | frame => exact .tail (.single (.queue _ rfl)) (.note (.framed _ true) trivial)
  | overflow =>
      exact .tail (.single (.note (.framed _ false) trivial)) (.note (.damaged _ _) trivial)

theorem System.TxMove.listens {writing : Writing} (move : before.TxMove writing after) :
    before.cdcView.Listens after.cdcView := by
  cases move with
  | idle | pending | sent => exact .refl
  | take => exact .single (.note (.taken _) trivial)
  | fail => exact .single (.note (.damaged _ _) trivial)

end Uart

theorem System.uartRxFut_cdcView (reading : Reading) :
    system.cdcView.Listens (system.uartRxFut reading).cdcView :=
  (system.uartRxFut_segment reading).lift' System.cdcView fun _ _ move => move.listens

theorem System.uartTxFut_cdcView (writing : Writing) :
    system.cdcView.Listens (system.uartTxFut writing).cdcView :=
  (system.uartTxFut_move writing).listens

/-! ## The worker -/

section Worker

/-- At every stage, with the CDC request that the worker serves, and before the queue the request
that it holds. -/
def Stage.cdcView (stage : Stage) (system : System W F I) : CdcView :=
  match stage with
  | .awaits | .rests => system.cdcView
  | .holds request =>
      { system.cdcDuring none with requests := request :: system.shared.requests }
  | .admits request | .answers request _ =>
      system.cdcDuring (if request.source.isUart then none else some request)
  | .expires | .hands | .repairs | .polls => system.cdcDuring none

/-- What the worker has tested of the request that it lets through. -/
def Stage.Cdc (stage : Stage) (system : System W F I) : Prop :=
  match stage with
  | .admits request =>
      (request.source.isUart = true → system.shared.cdcActive = false) ∧
        ∀ epoch, request.source = .cdc epoch →
          system.cdcView.Live epoch ∧ system.worker.sessionSeen = epoch
  | _ => True

variable [Board W] [RustUnifying W] [FirmwareUpdater F I] {buildTime : Nat} {clock : Clock}

/-- A move of the worker is at most three changes. -/
theorem Worker.Move.cdc {stage next : Stage} {before after : System W F I}
    (move : Worker.Move buildTime clock stage before next after) (hand : stage.Cdc before) :
    (stage.cdcView before).Changes (next.cdcView after) ∧ next.Cdc after := by
  have idle (phase : before.worker.phase.cdcRequest = none) :
      before.cdcView = before.cdcDuring none := by
    rw [System.cdcView, phase]
  cases move with
  | start phase | tick phase | notice phase | send phase =>
      refine ⟨?_, trivial⟩
      change before.cdcView.Changes (before.cdcDuring none)
      rw [idle (by rw [phase]; rfl)]
  | @take _ request rest phase queue =>
      refine ⟨?_, trivial⟩
      change before.cdcView.Changes { before.cdcDuring none with requests := request :: rest }
      rw [← queue, idle (by rw [phase]; rfl)]
      exact .refl
  | @finish _ request handler executing =>
      refine ⟨?_, trivial⟩
      change before.cdcView.Changes (before.cdcDuring (Phase.executing request).cdcRequest)
      rw [System.cdcView, executing]
  | @panic _ request _ handled =>
      have ends := handleUnifyingCommand_isSome before.worker.handler.ready request.line buildTime
      rw [handled] at ends
      cases ends
  | wait | uploading | busy | wrong | onTime | known | forget | sound | select =>
      exact ⟨.refl, trivial⟩
  | dropCdc source ended =>
      refine ⟨.single (.drop rfl source ?_), trivial⟩
      rintro ⟨⟨active, session⟩, seen⟩
      rcases ended with inactive | other | unseen
      · exact Bool.false_ne_true (inactive.symm.trans active)
      · exact other session
      · exact unseen seen
  | @admitCdc _ request epoch source active session seen =>
      refine ⟨?_, fun uart => absurd uart (Source.not_isUart source), fun other same => ?_⟩
      · change CdcView.Changes _ (before.cdcDuring (if request.source.isUart then _ else _))
        rw [if_neg (Source.not_isUart source)]
        exact .single (.serve rfl source rfl)
      · obtain rfl : epoch = other := Source.cdc.inj (source.symm.trans same)
        exact ⟨⟨active, session⟩, seen⟩
  | @dropUart _ request _ _ _ source =>
      refine ⟨.tail (.single (.takeUart rfl (Source.isUart_of source))) ?_, trivial⟩
      exact .note (.dropped request before.now) trivial
  | @refuseUart _ request _ _ _ source =>
      refine ⟨.tail (.single (.takeUart rfl (Source.isUart_of source))) ?_, trivial⟩
      change CdcView.Change _ (System.cdcDuring _ (if request.source.isUart then _ else _))
      rw [if_pos (Source.isUart_of source)]
      exact .note (.dequeued request before.now) trivial
  | @syncUart _ request _ _ _ source _ inactive =>
      refine ⟨?_, fun _ => inactive, fun epoch cdc => ?_⟩
      · change CdcView.Changes _ (System.cdcDuring _ (if request.source.isUart then _ else _))
        rw [if_pos (Source.isUart_of source)]
        exact .tail (.tail (.single (.takeUart rfl (Source.isUart_of source)))
          (.note (.dequeued request before.now) trivial))
          (.note (.synced request before.now) trivial)
      · exact absurd (Source.isUart_of source) (Source.not_isUart cdc)
  | @admitUart _ request _ _ _ source _ inactive =>
      refine ⟨?_, fun _ => inactive, fun epoch cdc => ?_⟩
      · change CdcView.Changes _ (System.cdcDuring _ (if request.source.isUart then _ else _))
        rw [if_pos (Source.isUart_of source)]
        exact .tail (.single (.takeUart rfl (Source.isUart_of source)))
          (.note (.dequeued request before.now) trivial)
      · exact absurd (Source.isUart_of source) (Source.not_isUart cdc)
  | @update _ request _ update =>
      refine ⟨?_, trivial⟩
      change CdcView.Changes (System.cdcDuring _ (if request.source.isUart then _ else _))
        (System.cdcDuring _ (if request.source.isUart then _ else _))
      rw [if_pos update.1]
      exact .single (.startUart request update.1 (hand.1 update.1) before.record.damages)
  | @execute _ request =>
      refine ⟨?_, trivial⟩
      change CdcView.Changes (System.cdcDuring _ (if request.source.isUart then _ else _))
        (System.cdcDuring _ (Phase.executing request).cdcRequest)
      rw [Phase.cdcRequest]
      cases source : request.source with
      | uart =>
          have uart := Source.isUart_of source
          rw [← source, if_pos uart]
          exact .single (.startUart request uart (hand.1 uart) before.record.damages)
      | cdc epoch =>
          have live : (before.cdcDuring (some request)).Live epoch := (hand.2 epoch source).1
          have seen := (hand.2 epoch source).2
          rw [← source, if_neg (Source.not_isUart source)]
          exact .single (.startCdc request source live seen before.record.damages)
  | @replyUart _ request _ uart =>
      refine ⟨?_, trivial⟩
      change CdcView.Changes (System.cdcDuring _ (if request.source.isUart then _ else _)) _
      rw [if_pos uart]
      exact .refl
  | @replyCdc _ request bytes _ source active session room =>
      refine ⟨?_, trivial⟩
      change CdcView.Changes (System.cdcDuring _ (if request.source.isUart then _ else _)) _
      rw [if_neg (Source.not_isUart source)]
      exact .single (.reply rfl source ⟨active, session⟩ room bytes)
  | @withhold _ request bytes _ source refused =>
      refine ⟨?_, trivial⟩
      change CdcView.Changes (System.cdcDuring _ (if request.source.isUart then _ else _)) _
      rw [if_neg (Source.not_isUart source)]
      exact .single (.withhold rfl source fun posts => refused ⟨posts.1.1, posts.1.2, posts.2⟩)
  | expire => exact ⟨.single (.note .timedOut trivial), trivial⟩
  | overlook inactive => exact ⟨.single (.overlook inactive), trivial⟩
  | handOver active => exact ⟨.single (.handOver active), trivial⟩
  | repair => exact ⟨.single (.note .allUp trivial), trivial⟩

/-- Every step of the worker. -/
theorem System.workerFut_cdc (buildTime : Nat) (clock : Clock) :
    system.cdcView.Changes (system.workerFut buildTime clock).cdcView := by
  obtain ⟨changes, -⟩ := system.workerFut_keeps buildTime clock
    (motive := fun stage after => system.cdcView.Changes (stage.cdcView after) ∧ stage.Cdc after)
    ⟨.refl, trivial⟩ fun move kept => by
      obtain ⟨changes, hand⟩ := move.cdc kept.2
      exact ⟨kept.1.trans changes, hand⟩
  exact changes

end Worker

/-! ## The serial task -/

/-- What a packet or a byte leads to, while the session stays open. -/
theorem System.outcome_serial (input : SerialInput) (buildTime : Nat) {session : UInt32}
    (entered : system.serial.phase.entered = some session)
    (quiet : system.serial.phase.awaiting = none) (outcome : Serial.Outcome F I)
    (rest : List UInt8) :
    CdcView.Serial input system.cdcView
      (system.outcome buildTime session outcome rest).cdcView := by
  rw [System.outcome]
  dsimp only
  split
  next reply _ =>
    refine .move entered quiet ?_ ?_ (.toHost session (reply.text buildTime)) <;> split <;> rfl
  · refine .move entered quiet ?_ ?_ .nothing <;> split <;> rfl

/-- Every step of the serial task. -/
theorem System.serialFut_serial [FirmwareUpdater F I] (buildTime : Nat) (input : SerialInput) :
    system.cdcView.Serial input (system.serialFut buildTime input).cdcView := by
  have move := system.serialFut_move buildTime input
  generalize system.serialFut buildTime input = after at move
  cases move with
  | wait => exact .same
  | connect connecting => exact .connect connecting
  | opens inactive active => exact .opens inactive active
  | cancel opened cancels => exact .cancel opened cancels
  | enter waiting ready => exact .ready waiting ready (.toHost _ _)
  | pass waiting ready different goesOn => exact .other waiting ready different goesOn
  | fail reading failed goesOn => exact .fail reading failed goesOn
  | upload reading =>
      exact system.outcome_serial input buildTime (by rw [reading]; rfl) (by rw [reading]; rfl) _ _
  | @packet session _ reading =>
      have entered : system.serial.phase.entered = some session := by rw [reading]; rfl
      have quiet : system.serial.phase.awaiting = none := by rw [reading]; rfl
      exact .move entered quiet rfl rfl .nothing
  | @done session scanning =>
      have entered : system.serial.phase.entered = some session := by rw [scanning]; rfl
      have quiet : system.serial.phase.awaiting = none := by rw [scanning]; rfl
      exact .move entered quiet rfl rfl .nothing
  | byte scanning =>
      exact system.outcome_serial input buildTime (by rw [scanning]; rfl) (by rw [scanning]; rfl)
        _ _
  | send requesting room => exact .send requesting room
  | receive answering queue own => exact .receive answering queue own
  | skip answering queue foreign => exact .skip answering queue foreign

end Steps

end NrfUnifying.Tasks
