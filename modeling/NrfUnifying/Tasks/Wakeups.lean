import NrfUnifying.Tasks.Moves
import NrfUnifying.Tasks.Segments

/-!
# Waiting tasks are woken

Three tasks wait for a signal of another one: the control task for a change of
USB or DTR, the worker for a new CDC session or UART damage, and the receive
task for a new session. Whenever one of them has something to do that only a
signal tells it, its signal is pending.
-/

namespace NrfUnifying.Tasks

open Lib.Runs Radio Storage UartLink Updater UartOta

section Property

variable {W F I : Type}

/-- A task without a pending signal has nothing left to do. -/
structure System.Woken (system : System W F I) : Prop where
  control : system.control.changed = false → system.shared.usbLifecycleChanged = false →
    system.shared.cdcActive = (system.shared.usbAvailable && system.shared.usbDtrValid &&
      system.control.dtr)
  worker : system.worker.phase = .selecting → system.shared.maintenanceChanged = false →
    system.worker.sessionSeen = system.shared.cdcSession ∧ system.shared.uartDamaged = false
  receiver : system.shared.uartSessionChanged = false →
    system.receiver.parserSession = system.shared.cdcSession

/-- A USB event after which no session goes on. -/
def Action.losesUsb : Action → Bool
  | .usb (.enabled false) | .usb .reset | .usb (.configured false) => true
  | _ => false

/-- The actions since USB was lost last. -/
def sinceLoss (actions : List Action) : List Action :=
  actions.foldl (fun rest action => if action.losesUsb then [] else rest ++ [action]) []

/-- USB was configured and DTR raised since the last loss of USB. -/
structure Raised (actions : List Action) : Prop where
  configured : .usb (.configured true) ∈ sinceLoss actions
  fresh : .usb (.setControlLineState true) ∈ sinceLoss actions
  dtr : .usb (.dtr true) ∈ actions

end Property

/-! ## What the worker leaves alone -/

/-- The state of USB, which only the USB events and the control task change. -/
structure UsbState where
  control : CdcControl
  available : Bool
  dtrValid : Bool
  lifecycleChanged : Bool
  active : Bool
  session : UInt32

/-- What the worker neither sets nor waits for. -/
structure Wiring where
  usb : UsbState
  uartSessionChanged : Bool
  parserSession : UInt32

section Steps

variable {W F I : Type}

def System.usbState (system : System W F I) : UsbState where
  control := system.control
  available := system.shared.usbAvailable
  dtrValid := system.shared.usbDtrValid
  lifecycleChanged := system.shared.usbLifecycleChanged
  active := system.shared.cdcActive
  session := system.shared.cdcSession

def System.wiring (system : System W F I) : Wiring where
  usb := system.usbState
  uartSessionChanged := system.shared.uartSessionChanged
  parserSession := system.receiver.parserSession

/-- A segment of the worker: when it waits again it has seen the session and the damage. -/
structure System.Worked (before after : System W F I) : Prop where
  wiring : after.wiring = before.wiring
  served : after.worker.phase = .selecting →
    after.worker.sessionSeen = after.shared.cdcSession ∧ after.shared.uartDamaged = false

variable {before middle after : System W F I}

/-- At every stage of a segment from `start`, past the hand-over the session has been seen, and
past the repair the damage. -/
def Stage.Worked (start : System W F I) (stage : Stage) (after : System W F I) : Prop :=
  after.wiring = start.wiring ∧ match stage with
    | .awaits => after = start
    | .repairs => after.worker.sessionSeen = after.shared.cdcSession
    | .polls => after.worker.sessionSeen = after.shared.cdcSession ∧
        after.shared.uartDamaged = false
    | .rests => after = start ∨ (after.worker.phase = .selecting →
        after.worker.sessionSeen = after.shared.cdcSession ∧ after.shared.uartDamaged = false)
    | _ => True

variable [Board W] [RustUnifying W] [FirmwareUpdater F I] {buildTime : Nat} {clock : Clock}

theorem Worker.Move.worked {start : System W F I} {stage next : Stage}
    (move : Worker.Move buildTime clock stage before next after)
    (kept : stage.Worked start before) : next.Worked start after := by
  obtain ⟨wiring, past⟩ := kept
  refine ⟨Eq.trans ?_ wiring, ?_⟩
  · cases move <;> rfl
  cases move with
  | wait => exact .inl past
  | panic | execute | replyUart => exact .inr nofun
  | known same => exact same.symm
  | overlook | handOver => rfl
  | sound clean => exact ⟨past, clean⟩
  | forget | repair => exact ⟨past, rfl⟩
  | select => exact .inr fun _ => past
  | _ => trivial

/-- The worker goes on waiting, or works. -/
theorem System.workerFut_worked (system : System W F I) (buildTime : Nat) (clock : Clock) :
    system.workerFut buildTime clock = system ∨
      system.Worked (system.workerFut buildTime clock) := by
  obtain ⟨wiring, waits | served⟩ := system.workerFut_keeps buildTime clock
    (motive := Stage.Worked system) ⟨rfl, rfl⟩ fun move kept => move.worked kept
  · exact .inl waits
  · exact .inr ⟨wiring, served⟩

end Steps

/-! ## The other tasks -/

section Other

variable {W F I : Type} {before middle after system : System W F I}

/-- The signal of the worker is pending, or it has nothing new to do. -/
def System.Signals (before after : System W F I) : Prop :=
  after.shared.maintenanceChanged = true ∨
    after.shared.maintenanceChanged = before.shared.maintenanceChanged ∧
      after.shared.uartDamaged = before.shared.uartDamaged

/-- A segment of a UART task or of the serial task. -/
structure System.Aside (before after : System W F I) : Prop where
  usb : after.usbState = before.usbState
  worker : after.worker = before.worker
  signals : before.Signals after

theorem System.Aside.refl (system : System W F I) : system.Aside system :=
  ⟨rfl, rfl, .inr ⟨rfl, rfl⟩⟩

theorem System.Aside.trans (front : before.Aside middle) (back : middle.Aside after) :
    before.Aside after where
  usb := back.usb.trans front.usb
  worker := back.worker.trans front.worker
  signals := by
    rcases back.signals with pending | ⟨signal, damaged⟩
    · exact .inl pending
    rcases front.signals with pending | ⟨signal', damaged'⟩
    · exact .inl (signal.trans pending)
    · exact .inr ⟨signal.trans signal', damaged.trans damaged'⟩

theorem System.listen_parser (system : System W F I) :
    system.listen.receiver.parserSession = system.listen.shared.cdcSession := by
  unfold System.listen
  dsimp only
  split
  next same => exact same.symm
  · rfl

theorem System.RxMove.aside (move : before.RxMove after) : before.Aside after := by
  cases move with
  | same | renew | discard | byte | frame => exact ⟨rfl, rfl, .inr ⟨rfl, rfl⟩⟩
  | misread | overflow => exact ⟨rfl, rfl, .inl rfl⟩

/-- The receive task ends a segment at the top of its loop, if it does anything. -/
theorem System.uartRxFut_aside (system : System W F I) (reading : Reading) :
    system.uartRxFut reading = system ∨ system.Aside (system.uartRxFut reading) ∧
      (system.uartRxFut reading).receiver.parserSession =
        (system.uartRxFut reading).shared.cdcSession := by
  have aside : system.Aside (system.uartRxFut reading) :=
    chain_keeps (system.uartRxFut_segment reading) (.refl system) fun move kept =>
      kept.trans move.aside
  rcases system.uartRxFut_listen reading with same | ⟨heard, -, listens⟩
  · exact .inl same
  · rw [listens] at aside ⊢
    exact .inr ⟨aside, heard.listen_parser⟩

theorem System.TxMove.aside {writing : Writing} (move : before.TxMove writing after) :
    before.Aside after ∧ after.wiring = before.wiring := by
  cases move with
  | idle | take | pending | sent => exact ⟨⟨rfl, rfl, .inr ⟨rfl, rfl⟩⟩, rfl⟩
  | fail => exact ⟨⟨rfl, rfl, .inl rfl⟩, rfl⟩

theorem System.outcome_aside (system : System W F I) (buildTime : Nat) (session : UInt32)
    (outcome : Serial.Outcome F I) (rest : List UInt8) :
    system.Aside (system.outcome buildTime session outcome rest) ∧
      (system.outcome buildTime session outcome rest).wiring = system.wiring := by
  unfold System.outcome
  dsimp only
  split
  · exact ⟨⟨rfl, rfl, .inr ⟨rfl, rfl⟩⟩, rfl⟩
  · exact ⟨⟨rfl, rfl, .inr ⟨rfl, rfl⟩⟩, rfl⟩

theorem System.SerialMove.aside [FirmwareUpdater F I] {buildTime : Nat} {input : SerialInput}
    (move : before.SerialMove buildTime input after) :
    before.Aside after ∧ after.wiring = before.wiring := by
  cases move with
  | upload | byte => exact before.outcome_aside buildTime _ _ _
  | _ => exact ⟨⟨rfl, rfl, .inr ⟨rfl, rfl⟩⟩, rfl⟩

/-! ## Every step -/

theorem System.Woken.aside (woken : before.Woken) (aside : before.Aside after)
    (receiver : after.wiring = before.wiring ∨
      after.receiver.parserSession = after.shared.cdcSession) : after.Woken := by
  obtain ⟨control, available, valid, lifecycle, active, session⟩ := UsbState.mk.inj aside.usb
  constructor
  · intro unchanged quiet
    rw [active, available, valid, control]
    exact woken.control (control ▸ unchanged) (lifecycle ▸ quiet)
  · intro selecting quiet
    rw [aside.worker] at selecting ⊢
    rcases aside.signals with pending | ⟨signal, damaged⟩
    · exact absurd (pending.symm.trans quiet) nofun
    · rw [session, damaged]
      exact woken.worker selecting (signal ▸ quiet)
  · intro quiet
    rcases receiver with same | same
    · obtain ⟨-, changed, parser⟩ := Wiring.mk.inj same
      rw [parser, session]
      exact woken.receiver (changed ▸ quiet)
    · exact same

theorem System.Woken.worked (woken : before.Woken) (worked : before.Worked after) :
    after.Woken := by
  obtain ⟨usb, changed, parser⟩ := Wiring.mk.inj worked.wiring
  obtain ⟨control, available, valid, lifecycle, active, session⟩ := UsbState.mk.inj usb
  constructor
  · intro unchanged quiet
    rw [active, available, valid, control]
    exact woken.control (control ▸ unchanged) (lifecycle ▸ quiet)
  · exact fun selecting _ => worked.served selecting
  · intro quiet
    rw [parser, session]
    exact woken.receiver (changed ▸ quiet)

theorem System.Woken.updateActive (worker : system.worker.phase = .selecting →
      system.shared.maintenanceChanged = false →
        system.worker.sessionSeen = system.shared.cdcSession ∧
          system.shared.uartDamaged = false)
    (receiver : system.shared.uartSessionChanged = false →
      system.receiver.parserSession = system.shared.cdcSession) : system.updateActive.Woken := by
  unfold System.updateActive
  dsimp only
  split
  next same => exact ⟨fun _ _ => same.symm, worker, receiver⟩
  · exact ⟨fun _ _ => rfl, fun _ quiet => absurd quiet nofun, fun quiet => absurd quiet nofun⟩

theorem System.Woken.usb (woken : system.Woken) (event : UsbEvent) : (system.usb event).Woken := by
  have lost : system.unavailable.Woken :=
    ⟨fun _ quiet => absurd quiet nofun, fun _ quiet => absurd quiet nofun,
      fun quiet => absurd quiet nofun⟩
  cases event with
  | enabled enabled =>
      cases enabled with
      | true => exact woken
      | false => exact lost
  | reset => exact lost
  | configured configured =>
      cases configured with
      | true => exact ⟨fun _ quiet => absurd quiet nofun, woken.worker, woken.receiver⟩
      | false => exact lost
  | setControlLineState dtr =>
      exact ⟨fun _ quiet => absurd quiet nofun, woken.worker, woken.receiver⟩
  | dtr dtr => exact ⟨fun unchanged => absurd unchanged nofun, woken.worker, woken.receiver⟩

variable [Board W] [RustUnifying W] [FirmwareUpdater F I]

theorem System.step_woken (buildTime : Nat) (woken : system.Woken) (action : Action) :
    (system.step buildTime action).Woken := by
  cases action with
  | usb event => exact woken.usb event
  | control =>
      change system.controlFut.Woken
      unfold System.controlFut
      split
      · exact System.Woken.updateActive woken.worker woken.receiver
      split
      · exact System.Woken.updateActive woken.worker woken.receiver
      · exact woken
  | work clock =>
      change (system.workerFut buildTime clock).Woken
      rcases system.workerFut_worked buildTime clock with
        same | worked
      · exact same.symm ▸ woken
      · exact woken.worked worked
  | receive reading =>
      change (system.uartRxFut reading).Woken
      rcases system.uartRxFut_aside reading with same | ⟨aside, parser⟩
      · exact same.symm ▸ woken
      · exact woken.aside aside (.inr parser)
  | transmit writing =>
      obtain ⟨aside, wiring⟩ := (system.uartTxFut_move writing).aside
      exact woken.aside aside (.inl wiring)
  | serial input =>
      obtain ⟨aside, wiring⟩ := (system.serialFut_move buildTime input).aside
      exact woken.aside aside (.inl wiring)

end Other

/-! ## What USB went through -/

section Caused

variable {W F I : Type} {before after system : System W F I}

theorem sinceLoss_append (actions : List Action) (action : Action) :
    sinceLoss (actions ++ [action]) =
      if action.losesUsb then [] else sinceLoss actions ++ [action] := by
  unfold sinceLoss
  rw [List.foldl_append]
  rfl

/-- What is set came with some action. -/
structure System.Caused (system : System W F I) (actions : List Action) : Prop where
  available : system.shared.usbAvailable = true →
    .usb (.configured true) ∈ sinceLoss actions
  valid : system.shared.usbDtrValid = true →
    .usb (.setControlLineState true) ∈ sinceLoss actions
  dtr : system.control.dtr = true → .usb (.dtr true) ∈ actions
  active : system.shared.cdcActive = true → Raised actions

variable {actions : List Action} {action : Action}

theorem Raised.append (raised : Raised actions) (keeps : action.losesUsb = false) :
    Raised (actions ++ [action]) := by
  have same := sinceLoss_append actions action
  rw [keeps, if_neg Bool.false_ne_true] at same
  constructor
  · rw [same]
    exact List.mem_append_left _ raised.configured
  · rw [same]
    exact List.mem_append_left _ raised.fresh
  · exact List.mem_append_left _ raised.dtr

/-- The actions go on, and USB stays as it was. -/
theorem System.Caused.append (caused : before.Caused actions) (keeps : action.losesUsb = false)
    (usb : after.usbState = before.usbState) : after.Caused (actions ++ [action]) := by
  obtain ⟨control, available, valid, -, active, -⟩ := UsbState.mk.inj usb
  have same := sinceLoss_append actions action
  rw [keeps, if_neg Bool.false_ne_true] at same
  constructor
  · intro on
    rw [same]
    exact List.mem_append_left _ (caused.available (available ▸ on))
  · intro on
    rw [same]
    exact List.mem_append_left _ (caused.valid (valid ▸ on))
  · exact fun on => List.mem_append_left _ (caused.dtr (control ▸ on))
  · exact fun on => (caused.active (active ▸ on)).append keeps

theorem System.Caused.updateActive (caused : system.Caused actions) :
    system.updateActive.Caused actions := by
  unfold System.updateActive
  dsimp only
  split
  · exact caused
  · refine ⟨caused.available, caused.valid, caused.dtr, fun on => ?_⟩
    change (_ && _ && _) = true at on
    rw [Bool.and_eq_true, Bool.and_eq_true] at on
    exact ⟨caused.available on.1.1, caused.valid on.1.2, caused.dtr on.2⟩

theorem System.Caused.usb (caused : system.Caused actions) (event : UsbEvent) :
    (system.usb event).Caused (actions ++ [.usb event]) := by
  have lost : system.unavailable.Caused (actions ++ [.usb event]) :=
    ⟨nofun, nofun, fun on => List.mem_append_left _ (caused.dtr on), nofun⟩
  have last (rest : List Action) : Action.usb event ∈ rest ++ [.usb event] :=
    List.mem_append_right _ (List.mem_singleton_self _)
  cases event with
  | enabled enabled =>
      cases enabled with
      | true => exact caused.append rfl rfl
      | false => exact lost
  | reset => exact lost
  | configured configured =>
      cases configured with
      | true =>
          have later : system.Caused (actions ++ [.usb (.configured true)]) :=
            caused.append rfl rfl
          refine ⟨fun _ => ?_, later.valid, later.dtr, later.active⟩
          rw [sinceLoss_append]
          exact last _
      | false => exact lost
  | setControlLineState dtr =>
      have later : system.Caused (actions ++ [.usb (.setControlLineState dtr)]) :=
        caused.append rfl rfl
      refine ⟨later.available, fun on => ?_, later.dtr, later.active⟩
      obtain rfl : dtr = true := on
      rw [sinceLoss_append]
      exact last _
  | dtr dtr =>
      have later : system.Caused (actions ++ [.usb (.dtr dtr)]) := caused.append rfl rfl
      refine ⟨later.available, later.valid, fun on => ?_, later.active⟩
      obtain rfl : dtr = true := on
      exact last _

variable [Board W] [RustUnifying W] [FirmwareUpdater F I]

theorem System.step_caused (buildTime : Nat) (caused : system.Caused actions) (action : Action) :
    (system.step buildTime action).Caused (actions ++ [action]) := by
  cases action with
  | usb event => exact caused.usb event
  | control =>
      have later : system.Caused (actions ++ [.control]) := caused.append rfl rfl
      change system.controlFut.Caused _
      unfold System.controlFut
      split
      · exact System.Caused.updateActive ⟨later.available, later.valid, later.dtr, later.active⟩
      split
      · exact System.Caused.updateActive ⟨later.available, later.valid, later.dtr, later.active⟩
      · exact later
  | work clock =>
      rcases system.workerFut_worked buildTime clock with
        same | worked
      · exact caused.append rfl (congrArg System.usbState same)
      · exact caused.append rfl (congrArg Wiring.usb worked.wiring)
  | receive reading =>
      rcases system.uartRxFut_aside reading with same | ⟨aside, -⟩
      · exact caused.append rfl (congrArg System.usbState same)
      · exact caused.append rfl aside.usb
  | transmit writing =>
      exact caused.append rfl (system.uartTxFut_move writing).aside.1.usb
  | serial input =>
      exact caused.append rfl (system.serialFut_move buildTime input).aside.1.usb

/-- In every run no wake-up is lost: a task without a pending signal has nothing left to do. While a
CDC session is active, USB was configured and DTR raised afresh since USB was lost last. And the
receive task never finds a new session behind a read that no signal told it of. -/
theorem no_wakeup_lost (buildTime : Nat) (world : W) (flash : Nvmc) (dfu : F)
    (actions : List Action) :
    let system := actions.foldl (System.step buildTime)
      (System.boot world flash dfu : System W F I)
    system.Woken ∧ (system.shared.cdcActive = true → Raised actions) ∧
      (system.shared.uartSessionChanged = false → ∀ bytes,
        system.uartRxFut (.chunk bytes) = (bytes.foldl System.push system).listen) := by
  have later : ∀ (rest seen : List Action) (system : System W F I), system.Woken →
      system.Caused seen → (rest.foldl (System.step buildTime) system).Woken ∧
        (rest.foldl (System.step buildTime) system).Caused (seen ++ rest) := by
    intro rest
    induction rest with
    | nil =>
        intro seen system woken caused
        rw [List.append_nil]
        exact ⟨woken, caused⟩
    | cons action rest ih =>
        intro seen system woken caused
        have next := ih (seen ++ [action]) _ (System.step_woken buildTime woken action)
          (System.step_caused buildTime caused action)
        rwa [List.append_assoc] at next
  intro system
  obtain ⟨woken, caused⟩ := later actions [] (System.boot world flash dfu)
    ⟨fun _ _ => rfl, nofun, fun _ => rfl⟩ ⟨nofun, nofun, nofun, nofun⟩
  refine ⟨woken, caused.active, fun quiet bytes => ?_⟩
  have same := woken.receiver quiet
  unfold System.uartRxFut
  rw [if_neg (by rw [quiet]; exact Bool.false_ne_true)]
  dsimp only
  rw [if_pos same.symm]

end Caused

end NrfUnifying.Tasks
