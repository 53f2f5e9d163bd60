import NrfUnifying.Lib.Runs
import NrfUnifying.Tasks.Changes
import NrfUnifying.Tasks.Segments

/-!
# The all-up after UART damage

`owed` are the damage events whose all-up has not been attempted. The worker
tests `UART_DAMAGED` at the top of its loop but takes requests further down, so
a request framed after the damage can win; and a command that takes the link
down before that test makes it forgo the all-up.
-/

namespace NrfUnifying.Tasks

open Lib.Bytes Lib.Runs Radio Storage UartLink Updater UartOta

/-! ## The property -/

/-- The damage events, with a link up and no CDC session active, since the last all-up for
damage. -/
def owed : List Event → List Nat
  | [] => []
  | .damaged index true :: rest => index :: owed rest
  | .allUp :: _ => []
  | _ :: rest => owed rest

/-- No UART request started while an all-up was owed for damage before it was framed. -/
def Released : List Event → Prop
  | [] => True
  | .started request _ :: rest =>
      (request.source.isUart = true → ∀ index ∈ owed rest, request.stamp.damages < index) ∧
        Released rest
  | _ :: rest => Released rest

section Condition

variable {W F I : Type}

/-- The worker waits for a request, and the next one is a UART request of the current generation. -/
def System.nextIsFresh (system : System W F I) : Bool :=
  match system.worker.phase, system.shared.requests with
  | .selecting, request :: _ =>
      match request.source with
      | .uart _ _ faultGeneration => faultGeneration == system.shared.uartGeneration
      | .cdc _ => false
  | _, _ => false

/-- The worker executes a command that may take the link down. -/
def Phase.mayDisconnect : Phase → Prop
  | .executing request => Radio.mayDisconnect request.line
  | _ => False

/-- While `UART_DAMAGED` is set, the worker does not take a fresh UART request before the top of its
loop, and no command of its takes the link down. -/
def System.RepairsFirst (system : System W F I) : Action → Prop
  | .work _ => system.shared.uartDamaged = true → system.nextIsFresh = false ∧
      (system.worker.handler.state.connected = true → ¬system.worker.phase.mayDisconnect)
  | _ => True

end Condition

/-! ## The invariant -/

/-- Damage whose all-up is owed is still flagged, and the link still up. -/
structure Due (log : List Event) (connected damaged : Bool) : Prop where
  flagged : owed log ≠ [] → damaged = true ∧ connected = true
  released : Released log

/-- Events that neither owe nor pay an all-up, nor start a request. -/
def Event.Aside : Event → Prop
  | .started .. | .damaged .. | .allUp => False
  | _ => True

section Due

variable {log : List Event} {connected damaged : Bool}

theorem owed_aside {event : Event} (aside : event.Aside) (log : List Event) :
    owed (event :: log) = owed log := by
  cases event with
  | started | damaged | allUp => exact aside.elim
  | _ => rfl

theorem released_aside {event : Event} (aside : event.Aside) (released : Released log) :
    Released (event :: log) := by
  cases event with
  | started | damaged | allUp => exact aside.elim
  | _ => exact released

theorem Due.note (due : Due log connected damaged) (event : Event) (aside : event.Aside) :
    Due (event :: log) connected damaged :=
  ⟨fun owes => due.flagged (owed_aside aside log ▸ owes), released_aside aside due.released⟩

theorem Due.start (due : Due log connected damaged) {request : Request}
    (free : request.source.isUart = true → owed log = []) (now : Snapshot) :
    Due (.started request now :: log) connected damaged where
  flagged := due.flagged
  released := by
    refine ⟨fun uart index member => ?_, due.released⟩
    rw [free uart] at member
    exact absurd member List.not_mem_nil

theorem Due.paid (due : Due log connected damaged)
    (settled : damaged = false ∨ connected = false) : owed log = [] := by
  by_contra owes
  obtain ⟨flagged, linked⟩ := due.flagged owes
  rcases settled with clean | down
  · exact absurd (clean.symm.trans flagged) Bool.false_ne_true
  · exact absurd (down.symm.trans linked) Bool.false_ne_true

end Due

section Steps

variable {W F I : Type}

abbrev System.Due (system : System W F I) : Prop :=
  Tasks.Due system.record.log system.worker.handler.state.connected system.shared.uartDamaged

/-! ## The worker -/

/-- Nothing is owed before the UART request that the worker has in its hands. -/
def Stage.Due (stage : Stage) (system : System W F I) : Prop :=
  match stage with
  | .awaits => system.RepairsFirst (.work {})
  | .holds request => ∀ number session,
      request.source = .uart number session system.shared.uartGeneration →
        owed system.record.log = []
  | .admits request => request.source.isUart = true → owed system.record.log = []
  | _ => True

theorem System.fresh_of_head (system : System W F I) {request : Request} {rest : List Request}
    {number session : UInt32} (selecting : system.worker.phase = .selecting)
    (queue : system.shared.requests = request :: rest)
    (source : request.source = .uart number session system.shared.uartGeneration) :
    system.nextIsFresh = true := by
  simp [System.nextIsFresh, selecting, queue, source]

theorem Handler.allUp_connected [RustUnifying W] (handler : Handler W) :
    handler.allUp.state.connected = handler.state.connected := by
  unfold Handler.allUp
  split <;> rfl

variable [Board W] [RustUnifying W] [FirmwareUpdater F I] {buildTime : Nat} {clock : Clock}

/-- A move of the worker. -/
theorem Worker.Move.due {stage next : Stage} {before after : System W F I}
    (move : Worker.Move buildTime clock stage before next after) (due : before.Due)
    (hand : stage.Due before) : after.Due ∧ next.Due after := by
  cases move with
  | start | tick | notice | panic | send | wait | dropCdc | uploading | busy | wrong | replyUart
  | replyCdc | withhold | onTime | known | overlook | sound =>
      exact ⟨due, trivial⟩
  | @take _ request rest selecting queue =>
      refine ⟨⟨fun owes => ?_, due.released⟩, fun number session source => ?_⟩
      · obtain ⟨flagged, linked⟩ := due.flagged owes
        exact ⟨flagged, (before.polled_connected clock.taken).trans linked⟩
      · by_contra owes
        have fresh := before.fresh_of_head selecting queue source
        exact absurd (fresh.symm.trans (hand (due.flagged owes).1).1) Bool.false_ne_true.symm
  | finish executing handled =>
      refine ⟨⟨fun owes => ?_, due.released⟩, trivial⟩
      obtain ⟨flagged, linked⟩ := due.flagged owes
      have stays := (hand flagged).2 linked
      rw [executing] at stays
      exact ⟨flagged, handleUnifyingCommand_connected stays handled linked⟩
  | admitCdc source => exact ⟨due, fun uart => by rw [source] at uart; cases uart⟩
  | dropUart | refuseUart => exact ⟨due.note _ trivial, trivial⟩
  | syncUart source fresh =>
      refine ⟨Tasks.Due.note (due.note (.dequeued _ _) trivial) _ trivial, fun _ => ?_⟩
      rw [fresh] at source
      exact hand _ _ source
  | admitUart source fresh =>
      refine ⟨due.note _ trivial, fun _ => ?_⟩
      rw [fresh] at source
      exact hand _ _ source
  | @update _ request =>
      refine ⟨?_, trivial⟩
      have started := Tasks.Due.start due hand before.now
      refine ⟨fun owes => ?_, started.released⟩
      obtain ⟨flagged, linked⟩ := started.flagged owes
      refine ⟨flagged, ?_⟩
      change (before.beginning request.line).state.connected = true
      unfold System.beginning
      split
      · exact (Handler.allUp_connected _).trans linked
      · exact linked
  | execute => exact ⟨Tasks.Due.start due hand _, trivial⟩
  | expire => exact ⟨Tasks.Due.note due .timedOut trivial, trivial⟩
  | handOver =>
      have noted := due.note (.maintained before.shared.cdcSession) trivial
      refine ⟨⟨fun owes => ?_, noted.released⟩, trivial⟩
      obtain ⟨flagged, linked⟩ := noted.flagged owes
      exact ⟨flagged, (Handler.allUp_connected _).trans linked⟩
  | forget _ down => exact ⟨⟨fun owes => absurd (due.paid (.inr down)) owes, due.released⟩, trivial⟩
  | repair => exact ⟨⟨fun owes => absurd rfl owes, due.released⟩, trivial⟩
  | select =>
      refine ⟨⟨fun owes => ?_, due.released⟩, trivial⟩
      obtain ⟨flagged, linked⟩ := due.flagged owes
      exact ⟨flagged, (before.polled_connected clock.top).trans linked⟩

variable {system : System W F I}

theorem System.Due.workerFut (due : system.Due) (buildTime : Nat) (clock : Clock)
    (repairs : system.RepairsFirst (.work clock)) : (system.workerFut buildTime clock).Due := by
  obtain ⟨still, -⟩ := system.workerFut_keeps buildTime clock
    (motive := fun stage system => system.Due ∧ stage.Due system)
    ⟨due, repairs⟩ fun move kept => move.due kept.1 kept.2
  exact still

/-! ## The other tasks -/

theorem Event.Quiet.aside {event : Event} (quiet : event.Quiet) : event.Aside := by
  cases event with
  | activated | toHost => trivial
  | _ => exact quiet.elim

/-- Another task may owe an all-up, but then it sets the flag. -/
theorem View.Change.due {view after : View} (change : view.Change after)
    (due : Tasks.Due view.log view.connected view.damaged) :
    Tasks.Due after.log after.connected after.damaged := by
  cases change with
  | note event quiet => exact due.note event quiet.aside
  | request => exact due
  | frame => exact due.note (.framed _ true) trivial
  | overflow => exact due.note (.framed _ false) trivial
  | @damage owes link =>
      refine ⟨fun owed => ⟨rfl, ?_⟩, due.released⟩
      cases owes with
      | true => exact link rfl
      | false => exact (due.flagged owed).2

theorem View.Changes.due {view after : View} (changes : view.Changes after)
    (due : Tasks.Due view.log view.connected view.damaged) :
    Tasks.Due after.log after.connected after.damaged := by
  induction changes with
  | refl => exact due
  | tail _ change ih => exact change.due ih

theorem View.Transmit.due {writing : Writing} {view after : View}
    (transmit : view.Transmit writing after)
    (due : Tasks.Due view.log view.connected view.damaged) :
    Tasks.Due after.log after.connected after.damaged := by
  cases transmit with
  | idle | pending => exact due
  | take => exact due.note (.taken _) trivial
  | written _ changes => exact changes.due due

/-! ## Runs -/

theorem System.Due.step (due : system.Due) (buildTime : Nat) (action : Action)
    (repairs : system.RepairsFirst action) : (system.step buildTime action).Due := by
  cases action with
  | work clock => exact due.workerFut buildTime clock repairs
  | transmit writing => exact (system.uartTxFut_transmit writing).due due
  | usb | control | receive | serial =>
      refine View.Changes.due (System.step_changes system buildTime ?_) due
      trivial

/-- In every run whose steps repair first, no UART request framed after damage starts before the
all-up for it was attempted. -/
theorem all_up_first (buildTime : Nat) (world : W) (flash : Nvmc) (dfu : F)
    (actions : List Action)
    (repairs : EveryStep (System.step buildTime) System.RepairsFirst
      (System.boot world flash dfu : System W F I) actions) :
    Always (System.step buildTime) (fun system => Released system.record.log)
      (System.boot world flash dfu : System W F I) actions := by
  have booted : (System.boot world flash dfu : System W F I).Due :=
    ⟨fun owes => absurd rfl owes, trivial⟩
  have always : Always (System.step buildTime) System.Due
      (System.boot world flash dfu : System W F I) actions :=
    .of_everyStep (fun _ action due repairs => due.step buildTime action repairs) booted repairs
  exact fun before after split => (always before after split).released

end Steps

instance decidableReleased : (log : List Event) → Decidable (Released log)
  | [] => .isTrue trivial
  | event :: rest => by
      have later := decidableReleased rest
      cases event with
      | started request now => exact inferInstanceAs (Decidable ((_ → ∀ _ ∈ _, _) ∧ _))
      | _ => exact later

instance (phase : Phase) : Decidable phase.mayDisconnect := by
  cases phase with
  | executing request => exact inferInstanceAs (Decidable (Radio.mayDisconnect request.line))
  | _ => exact .isFalse id

instance {W F I : Type} (system : System W F I) (action : Action) :
    Decidable (system.RepairsFirst action) := by
  cases action with
  | work => exact inferInstanceAs (Decidable (_ → _ ∧ (_ → ¬_)))
  | _ => exact .isTrue trivial

/-- The worker comes to the top of its loop between the read error and the next line. -/
def damagedThenRepaired : List Action :=
  pairByUart ++ [.receive .error, .work {}, .receiveText "\n@00000003 UKEYDOWN 00 04\n", .work {}]

theorem all_up_first_repaired :
    owed (damagedThenRepaired.foldl (System.step 0) benchBoot).record.log = [] ∧
      Always (System.step 0) (fun system => Released system.record.log) benchBoot
        damagedThenRepaired := by
  refine ⟨by decide +kernel, all_up_first 0 _ _ _ _ ?_⟩
  simp only [damagedThenRepaired, pairByUart, serveOne, List.cons_append, List.nil_append,
    everyStep_cons, everyStep_nil]
  decide +kernel

/-- A read error while the worker switches to an empty slot, and the next line behind its reply. -/
def damagedThenSwitch : List Action :=
  pairByUart ++ [.receiveText "@00000003 USWITCH 01\n", .work {}, .receive .error, .work {},
    .work {}, .receiveText "\n@00000004 VER\n", .work {}]

-- No fresh request is taken with the flag set, and still one starts before the all-up.
example : (damagedThenSwitch.inits.all fun before =>
      let system := before.foldl (System.step 0) benchBoot
      !(system.shared.uartDamaged && system.nextIsFresh)) = true ∧
    ¬Released (damagedThenSwitch.foldl (System.step 0) benchBoot).record.log := by
  decide +kernel

/-- A read error while the worker waits, and the next line before it goes on. -/
def damagedThenKey : List Action :=
  pairByUart ++ [.receive .error, .receiveText "\n@00000003 UKEYDOWN 00 04\n", .work {}]

/-- The fresh key press starts while the all-up is still owed. -/
theorem all_up_late :
    ¬∀ actions, Always (System.step 0) (fun system => Released system.record.log)
      benchBoot actions := by
  intro first
  refine not_always_of_last damagedThenKey ?_ (first damagedThenKey)
  decide +kernel

end NrfUnifying.Tasks
