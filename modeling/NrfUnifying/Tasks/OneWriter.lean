import NrfUnifying.Lib.Runs
import NrfUnifying.Serial.Journal
import NrfUnifying.Tasks.CdcView
import NrfUnifying.Tasks.Segments

/-!
# One writer of the DFU partition

The serial task and the worker keep each other out with two shared flags. The
loss of DTR clears the serial task's flag at once, while its upload goes on until
the task is cancelled; a UART update that is accepted in between has a second
writer.
-/

namespace NrfUnifying.Tasks

open Lib.Bytes Lib.Runs Radio Storage UartLink Updater UartOta

/-! ## Paths -/

/-- The two ways an image can come. -/
inductive Path where
  | cdc | uart
  deriving DecidableEq, Repr

def Path.other : Path → Path
  | .cdc => .uart
  | .uart => .cdc

/-! ## The property -/

/-- Whether the image that was last accepted over a path is pending, and who has written since. -/
structure Image where
  pending : Bool := false
  writers : List Path := []
  deriving DecidableEq, Repr

/-- The system with the images of both paths. -/
structure Watch (W F I : Type) where
  system : System W (Journaled F) I
  cdc : Image := {}
  uart : Image := {}

/-- The path whose task takes the step; only these two tasks have an updater. -/
def Action.path : Action → Path
  | .serial _ => .cdc
  | _ => .uart

section Property

variable {W F I : Type}

/-- The path holds an image that it has neither finished nor given up. -/
def System.holds (system : System W F I) : Path → Bool
  | .cdc => system.serial.phase.entered.isSome && system.serial.session.holds
  | .uart => system.worker.ota.active

/-- The step answers a `WRITE` or a `BEGIN` with `READY`. -/
def System.accepts (before after : System W F I) : Path → Bool
  | .cdc =>
      match before.serial.phase, after.record.log with
      | .scanning .., .toHost _ bytes :: log =>
          bytes = readyText && log.length = before.record.log.length
      | _, _ => false
  | .uart =>
      match before.worker.phase, after.worker.phase with
      | .selecting, .sending reply => reply.bytes = readyText
      | _, _ => false

def Watch.image (watch : Watch W F I) : Path → Image
  | .cdc => watch.cdc
  | .uart => watch.uart

variable [Board W] [RustUnifying W] [FirmwareUpdater F I]

/-- The calls that a step makes. -/
def Watch.calls (buildTime : Nat) (watch : Watch W F I) (action : Action) : List UpdaterCall :=
  (watch.system.step buildTime action).dfu.calls.drop watch.system.dfu.calls.length

/-- An image is pending from its acceptance until it is marked as updated or no longer held. -/
def Watch.next (buildTime : Nat) (watch : Watch W F I) (action : Action) (path : Path) : Image :=
  let after := watch.system.step buildTime action
  let calls := watch.calls buildTime action
  let accepted := watch.system.accepts after path
  let marked := path = action.path && calls.contains (.mark true)
  { pending := (accepted || (watch.image path).pending) && after.holds path && !marked
    writers :=
      if accepted then []
      else (watch.image path).writers ++ List.replicate (calls.count .write) action.path }

def Watch.step (buildTime : Nat) (watch : Watch W F I) (action : Action) : Watch W F I where
  system := watch.system.step buildTime action
  cdc := watch.next buildTime action .cdc
  uart := watch.next buildTime action .uart

def Watch.boot (world : W) (flash : Nvmc) (dfu : F) : Watch W F I where
  system := .boot world flash ⟨dfu, []⟩

/-- A step writes no firmware while an image of the other path is pending, and marks only an image
that its own path alone has written. -/
structure Watch.OneWriter (buildTime : Nat) (watch : Watch W F I) (action : Action) : Prop where
  alone : .write ∈ watch.calls buildTime action → (watch.image action.path.other).pending = false
  own : ∀ done, .mark done ∈ watch.calls buildTime action →
    ∀ writer ∈ (watch.image action.path).writers, writer = action.path

end Property

section Condition

variable {W F I : Type}

/-- A UART request that passes all guards and begins an update. -/
def System.Begins (system : System W F I) (request : Request) : Prop :=
  match request.source with
  | .cdc _ => False
  | .uart _ session generation =>
      generation = system.shared.uartGeneration ∧ session = system.shared.cdcSession ∧
        system.shared.cdcActive = false ∧ system.shared.uartSyncRequired = false ∧
        system.shared.uploadActive = false ∧ isLegalBegin request.line = true

/-- The worker takes a request that begins an update only when the serial task of an ended session
has been cancelled, or holds no image. -/
def System.CancelledFirst (system : System W F I) : Action → Prop
  | .work _ =>
      match system.worker.phase, system.shared.requests with
      | .selecting, request :: _ => system.Begins request → system.holds .cdc = false
      | _, _ => True
  | _ => True

end Condition

/-! ## What a step moves -/

section Steps

variable {W F I : Type}

/-- The shared flag says whether the worker's update is active. -/
def System.UartFlagged (system : System W (Journaled F) I) : Prop :=
  system.shared.uartOtaActive = system.worker.ota.active

/-- A step of the task of this path: it calls an updater only for an image that it holds, and comes
to hold one only by accepting it while the other path holds none. -/
structure System.Moves (before after : System W (Journaled F) I) (path : Path) : Prop where
  calls : before.dfu.calls <+: after.dfu.calls
  idle : after.dfu.calls = before.dfu.calls ∨ before.holds path = true
  other : after.holds path.other = before.holds path.other
  own : after.holds path = true → before.holds path = true ∨
    before.accepts after path = true ∧ before.holds path.other = false
  flag : after.UartFlagged

variable {before after : System W (Journaled F) I} {path : Path}

/-- A step that calls no updater and accepts nothing. -/
theorem System.Moves.still (dfu : after.dfu = before.dfu)
    (own : after.holds path = true → before.holds path = true)
    (other : after.holds path.other = before.holds path.other)
    (flag : after.UartFlagged) : before.Moves after path where
  calls := dfu ▸ List.prefix_refl _
  idle := .inl (congrArg Journaled.calls dfu)
  other
  own held := .inl (own held)
  flag

variable (system : System W (Journaled F) I)

/-! ### The serial task -/

theorem System.outcome_holds (buildTime : Nat) (session : UInt32)
    (outcome : Serial.Outcome (Journaled F) I) (rest : List UInt8) :
    (system.outcome buildTime session outcome rest).holds .cdc =
      outcome.cdc.session.holds := by
  rw [System.outcome, System.holds.eq_def]
  dsimp only
  cases outcome.request <;> cases outcome.reply <;> rfl

theorem System.outcome_dfu (buildTime : Nat) (session : UInt32)
    (outcome : Serial.Outcome (Journaled F) I) (rest : List UInt8) :
    (system.outcome buildTime session outcome rest).dfu = outcome.cdc.flash := by
  rw [System.outcome]
  dsimp only
  split <;> rfl

theorem System.outcome_flag (flag : system.UartFlagged)
    (buildTime : Nat) (session : UInt32) (outcome : Serial.Outcome (Journaled F) I)
    (rest : List UInt8) :
    (system.outcome buildTime session outcome rest).worker = system.worker ∧
      (system.outcome buildTime session outcome rest).UartFlagged := by
  rw [System.outcome]
  dsimp only
  split <;> exact ⟨rfl, flag⟩

/-- A serial step within a session, or out of one. -/
theorem System.Moves.within (flag : before.UartFlagged)
    (dfu : after.dfu = before.dfu) (session : after.serial.session = before.serial.session)
    (entered : after.serial.phase.entered.isSome = true →
      before.serial.phase.entered.isSome = true)
    (worker : after.worker = before.worker)
    (shared : after.shared.uartOtaActive = before.shared.uartOtaActive) :
    before.Moves after .cdc := by
  refine .still dfu (fun held => ?_) (congrArg (fun worker => worker.ota.active) worker) ?_
  · rw [System.holds, session, Bool.and_eq_true] at held
    rw [System.holds, Bool.and_eq_true]
    exact ⟨entered held.1, held.2⟩
  · rw [System.UartFlagged, shared, worker]
    exact flag

section Serial

variable [FirmwareUpdater F I]

/-- A packet during an upload. -/
theorem System.upload_moves (flag : system.UartFlagged)
    (buildTime : Nat) {session : UInt32} (packet rest : List UInt8)
    (held : system.holds .cdc = true) :
    system.Moves (system.outcome buildTime session (system.cdc.upload packet) rest) .cdc := by
  obtain ⟨worker, flag'⟩ :=
    system.outcome_flag flag buildTime session (system.cdc.upload packet) rest
  exact {
    calls := by
      rw [System.outcome_dfu]
      exact system.cdc.upload_calls packet
    idle := .inr held
    other := congrArg (fun worker => worker.ota.active) worker
    own := fun _ => .inl held
    flag := flag' }

/-- A byte outside an upload. -/
theorem System.push_moves (flag : system.UartFlagged)
    (buildTime : Nat) {session : UInt32} {byte : UInt8} {rest : List UInt8}
    (scanning : system.serial.phase = .scanning session (byte :: rest)) :
    system.Moves (system.outcome buildTime session
      (system.cdc.push system.shared.uartOtaActive byte) rest) .cdc := by
  have entered : system.serial.phase.entered.isSome = true := by rw [scanning]; rfl
  have pushed := system.cdc.push_pushed system.shared.uartOtaActive byte
  generalize system.cdc.push system.shared.uartOtaActive byte = outcome at pushed
  obtain ⟨worker, flag'⟩ := system.outcome_flag flag buildTime session outcome rest
  have other := congrArg (fun worker => worker.ota.active) worker
  have dfu := system.outcome_dfu buildTime session outcome rest
  have held (holds : system.serial.session.holds = true) : system.holds .cdc = true := by
    rw [System.holds, entered, holds]
    rfl
  cases pushed with
  | idle calls held' =>
      rw [← dfu] at calls
      exact {
        calls := calls ▸ List.prefix_refl _
        idle := .inl calls
        other
        own := fun after => .inl (held (held' (system.outcome_holds _ _ _ _ ▸ after)))
        flag := flag' }
  | accepted free calls reply =>
      rw [← dfu] at calls
      have accepts :
          system.accepts (system.outcome buildTime session outcome rest) .cdc = true := by
        rw [System.accepts, scanning, System.outcome]
        simp only [reply]
        exact Bool.and_eq_true_iff.mpr ⟨decide_eq_true rfl, decide_eq_true rfl⟩
      exact {
        calls := calls ▸ List.prefix_refl _
        idle := .inl calls
        other
        own := fun _ => .inr ⟨accepts, flag.symm.trans free⟩
        flag := flag' }
  | marked held' calls =>
      obtain ⟨done, calls⟩ := calls
      exact {
        calls := by
          rw [System.outcome_dfu]
          exact ⟨_, calls.symm⟩
        idle := .inr (held held')
        other
        own := fun _ => .inl (held held')
        flag := flag' }

theorem System.serialFut_moves (flag : system.UartFlagged)
    (buildTime : Nat) (input : SerialInput) :
    system.Moves (system.serialFut buildTime input) .cdc := by
  have closed : system.Moves system.close .cdc :=
    .within flag rfl rfl (absurd · Bool.false_ne_true) rfl rfl
  have move := system.serialFut_move buildTime input
  generalize system.serialFut buildTime input = after at move
  cases move with
  | wait | pass | skip => exact .within flag rfl rfl id rfl rfl
  | connect | opens => exact .within flag rfl rfl (absurd · Bool.false_ne_true) rfl rfl
  | cancel | fail => exact closed
  | enter => exact .still rfl (absurd · Bool.false_ne_true) rfl flag
  | upload reading _ uploading =>
      refine system.upload_moves flag buildTime _ [] ?_
      rw [System.holds, reading, Serial.Session.holds, uploading]
      rfl
  | packet phase | done phase | send phase | receive phase =>
      exact .within flag rfl rfl (fun _ => by rw [phase]; rfl) rfl rfl
  | byte scanning => exact system.push_moves flag buildTime scanning

end Serial

/-! ### The worker -/

/-- What leaves the images alone, a timeout of the update apart. -/
structure System.Idle (before after : System W (Journaled F) I) : Prop where
  dfu : after.dfu = before.dfu
  serial : after.serial = before.serial
  active : after.worker.ota.active = true → before.worker.ota.active = true
  flag : before.UartFlagged → after.UartFlagged

theorem System.Idle.refl : system.Idle system := ⟨rfl, rfl, id, id⟩

theorem System.Idle.trans {middle : System W (Journaled F) I} (first : before.Idle middle)
    (second : middle.Idle after) : before.Idle after where
  dfu := second.dfu.trans first.dfu
  serial := second.serial.trans first.serial
  active active := first.active (second.active active)
  flag flag := second.flag (first.flag flag)

theorem System.holds_cdc_of_serial (serial : after.serial = before.serial) :
    after.holds .cdc = before.holds .cdc := by
  rw [System.holds, System.holds, serial]

theorem System.Idle.moves (idle : before.Idle after)
    (flag : before.UartFlagged) : before.Moves after .uart :=
  .still idle.dfu idle.active (System.holds_cdc_of_serial idle.serial) (idle.flag flag)

/-- Of a segment from `before`: an update line apart, everything leaves the images alone. -/
def Stage.Moves (before : System W (Journaled F) I) (stage : Stage)
    (after : System W (Journaled F) I) : Prop :=
  match stage with
  | .awaits => after = before
  | .holds request => before.Idle after ∧ before.worker.phase = .selecting ∧
      (after.Begins request → before.holds .cdc = false)
  | .admits request => before.Idle after ∧ before.worker.phase = .selecting ∧
      (request.source.isUart = true → isLegalBegin request.line = true →
        after.shared.uploadActive = false → before.holds .cdc = false)
  | .answers request bytes =>
      if request.source.isUart then
        before.Moves (after.setPhase (.sending ⟨request.source, bytes, request.stamp⟩)) .uart
      else before.Idle after
  | .expires | .hands | .repairs | .polls => before.Idle after
  | .rests => before.Moves after .uart

/-- A reply that leaves the images alone. -/
theorem System.Idle.answers (idle : before.Idle after) (flag : before.UartFlagged)
    (request : Request) (bytes : List UInt8) :
    (Stage.answers request bytes).Moves before after := by
  change if request.source.isUart then _ else _
  split
  · exact System.Idle.moves ⟨idle.dfu, idle.serial, idle.active, idle.flag⟩ flag
  · exact idle

section Worker

variable [FirmwareUpdater F I]

/-- An update line, after what the worker has done since it took the request. -/
theorem System.served_moves {request : Request} {served : Served (Journaled F) I}
    (idle : before.Idle system) (selecting : before.worker.phase = .selecting)
    (first : isLegalBegin request.line = true → before.holds .cdc = false)
    (serves : serve system.worker.ota ⟨system.worker.otaUpdater, system.dfu⟩ request.line = served)
    (dfu : after.dfu = served.store.flash) (ota : after.worker.ota = served.ota)
    (serial : after.serial = system.serial)
    (flagged : after.shared.uartOtaActive = served.ota.active)
    (sending : after.worker.phase =
      .sending ⟨request.source, served.answer.text, request.stamp⟩) :
    before.Moves after .uart := by
  have servedAs := serve_servedAs ⟨system.worker.otaUpdater, system.dfu⟩ system.worker.ota
    request.line
  rw [serves] at servedAs
  have kept := System.holds_cdc_of_serial (serial.trans idle.serial)
  have calls' : system.dfu.calls = before.dfu.calls := congrArg Journaled.calls idle.dfu
  have flag' : after.UartFlagged := by
    rw [System.UartFlagged, flagged, ota]
  have held (active : after.holds .uart = true) : served.ota.active = true := by
    rw [← ota]
    exact active
  cases servedAs with
  | idle calls active =>
      have calls : after.dfu.calls = before.dfu.calls := dfu ▸ calls.trans calls'
      exact {
        calls := calls ▸ List.prefix_refl _
        idle := .inl calls
        other := kept
        own := fun holds => .inl (idle.active (active (held holds)))
        flag := flag' }
  | began calls legal answer =>
      have calls : after.dfu.calls = before.dfu.calls := dfu ▸ calls.trans calls'
      have accepts : before.accepts after .uart = true := by
        rw [System.accepts, selecting, sending]
        exact decide_eq_true answer
      exact {
        calls := calls ▸ List.prefix_refl _
        idle := .inl calls
        other := kept
        own := fun _ => .inr ⟨accepts, first legal⟩
        flag := flag' }
  | called active calls =>
      have held : before.holds .uart = true := idle.active active
      rw [calls', ← dfu] at calls
      exact {
        calls
        idle := .inr held
        other := kept
        own := fun _ => .inl held
        flag := flag' }

variable [Board W] [RustUnifying W] {buildTime : Nat} {clock : Clock}

/-- A move of the worker, in a segment from `start`. -/
theorem Worker.Move.moves {start : System W (Journaled F) I} {stage next : Stage}
    (move : Worker.Move buildTime clock stage before next after) (flag : start.UartFlagged)
    (first : start.CancelledFirst (.work clock)) (kept : stage.Moves start before) :
    next.Moves start after := by
  cases move with
  | start | tick => exact kept ▸ .refl before
  | notice | send =>
      obtain rfl : before = start := kept
      exact ⟨rfl, rfl, id, id⟩
  | wait =>
      obtain rfl : before = start := kept
      exact (System.Idle.refl before).moves flag
  | @take _ request rest phase queue =>
      obtain rfl : before = start := kept
      rw [System.CancelledFirst, phase, queue] at first
      exact ⟨⟨rfl, rfl, id, id⟩, phase, first⟩
  | finish =>
      obtain rfl : before = start := kept
      refine System.Idle.answers ?_ flag _ _
      exact ⟨rfl, rfl, id, id⟩
  | panic =>
      obtain rfl : before = start := kept
      exact System.Idle.moves ⟨rfl, rfl, id, id⟩ flag
  | dropCdc => exact kept.1
  | admitCdc source =>
      exact ⟨kept.1, kept.2.1, fun uart => absurd uart (Source.not_isUart source)⟩
  | dropUart => exact kept.1.trans ⟨rfl, rfl, id, id⟩
  | refuseUart =>
      refine System.Idle.answers (kept.1.trans ?_) flag _ _
      exact ⟨rfl, rfl, id, id⟩
  | syncUart source fresh inactive current sound version =>
      refine ⟨kept.1.trans ⟨rfl, rfl, id, id⟩, kept.2.1, fun _ legal => ?_⟩
      rw [version] at legal
      exact absurd legal (by decide)
  | @admitUart _ request number session generation source fresh inactive current synced =>
      obtain ⟨idle, selecting, begins⟩ := kept
      refine ⟨idle.trans ⟨rfl, rfl, id, id⟩, selecting, fun _ legal free => begins ?_⟩
      rw [System.Begins, source]
      exact ⟨fresh, current, inactive, synced, free, legal⟩
  | uploading | busy | wrong => exact kept.1.answers flag _ _
  | @update _ request served update free serves =>
      obtain ⟨idle, selecting, begins⟩ := kept
      change if request.source.isUart then _ else _
      rw [if_pos update.1]
      exact System.served_moves before idle selecting (begins update.1 · free) serves rfl rfl rfl
        rfl rfl
  | execute => exact System.Idle.moves (kept.1.trans ⟨rfl, rfl, id, id⟩) flag
  | @replyUart _ request _ uart =>
      change if request.source.isUart then _ else _ at kept
      rwa [if_pos uart] at kept
  | @replyCdc _ request _ _ source =>
      change if request.source.isUart then _ else _ at kept
      rw [if_neg (Source.not_isUart source)] at kept
      exact kept.trans ⟨rfl, rfl, id, id⟩
  | @withhold _ request _ _ source =>
      change if request.source.isUart then _ else _ at kept
      rwa [if_neg (Source.not_isUart source)] at kept
  | onTime | known | sound => exact kept
  | expire =>
      exact System.Idle.trans kept ⟨rfl, rfl, (absurd · Bool.false_ne_true), fun _ => rfl⟩
  | overlook | handOver | forget | repair => exact System.Idle.trans kept ⟨rfl, rfl, id, id⟩
  | select => exact System.Idle.moves (System.Idle.trans kept ⟨rfl, rfl, id, id⟩) flag

/-- A step of the worker. -/
theorem System.workerFut_moves (flag : system.UartFlagged) (buildTime : Nat)
    (first : system.CancelledFirst (.work clock)) :
    system.Moves (system.workerFut buildTime clock) .uart :=
  system.workerFut_keeps buildTime clock (motive := Stage.Moves system) rfl
    fun move kept => move.moves flag first kept

end Worker

/-! ### The other tasks -/

section Other

variable {before after : System W (Journaled F) I}

theorem System.UsbMove.idling (move : before.UsbMove after) : before.Idle after := by
  cases move <;> exact ⟨rfl, rfl, id, id⟩

theorem System.RxMove.idling (move : before.RxMove after) : before.Idle after := by
  cases move <;> exact ⟨rfl, rfl, id, id⟩

theorem System.TxMove.idling {writing : Writing} (move : before.TxMove writing after) :
    before.Idle after := by
  cases move <;> exact ⟨rfl, rfl, id, id⟩

end Other

variable [Board W] [RustUnifying W] [FirmwareUpdater F I]

theorem System.step_idling (buildTime : Nat) (action : Action) (beside : action.Beside) :
    system.Idle (system.step buildTime action) := by
  refine System.step_keeps (motive := system.Idle) buildTime beside (.refl system) ?_ ?_ ?_
  · exact fun move kept => kept.trans move.idling
  · exact fun move kept => kept.trans move.idling
  · exact fun move kept => kept.trans move.idling

/-- Every step, when an update is begun only after the upload of an ended session. -/
theorem System.step_moves (flag : system.UartFlagged)
    (buildTime : Nat) {action : Action} (first : system.CancelledFirst action) :
    system.Moves (system.step buildTime action) action.path := by
  have idle := system.step_idling buildTime action
  cases action with
  | usb | control | receive | transmit => exact (idle trivial).moves flag
  | work clock => exact system.workerFut_moves flag buildTime first
  | serial input => exact system.serialFut_moves flag buildTime input

/-! ## Runs -/

/-- At most one path holds an image, and it alone has written since it accepted it. -/
structure Watch.Exclusive (watch : Watch W F I) : Prop where
  flag : watch.system.UartFlagged
  apart : ∀ path, watch.system.holds path = true → watch.system.holds path.other = false
  pending : ∀ path, (watch.image path).pending = true → watch.system.holds path = true
  writers : ∀ path, watch.system.holds path = true →
    ∀ writer ∈ (watch.image path).writers, writer = path

variable {watch : Watch W F I} {buildTime : Nat} {action : Action}

theorem Path.eq_or_other (path own : Path) : path = own ∨ path = own.other := by
  cases path <;> cases own <;> decide

theorem Path.other_other (path : Path) : path.other.other = path := by
  cases path <;> rfl

theorem Watch.step_image (path : Path) :
    (watch.step buildTime action).image path = watch.next buildTime action path := by
  cases path <;> rfl

/-- A step that calls an updater is one of a path that holds an image. -/
theorem Watch.holds_of_call (moves : watch.system.Moves (watch.system.step buildTime action)
    action.path) {call : UpdaterCall} (member : call ∈ watch.calls buildTime action) :
    watch.system.holds action.path = true := by
  rcases moves.idle with same | held
  · rw [Watch.calls, same, List.drop_length] at member
    cases member
  · exact held

theorem Watch.Exclusive.step (exclusive : watch.Exclusive)
    (first : watch.system.CancelledFirst action) : (watch.step buildTime action).Exclusive := by
  have moves := watch.system.step_moves exclusive.flag buildTime first
  exact {
    flag := moves.flag
    apart := by
      have alone (held : (watch.system.step buildTime action).holds action.path = true) :
          (watch.system.step buildTime action).holds action.path.other = false := by
        rw [moves.other]
        rcases moves.own held with before | ⟨-, free⟩
        · exact exclusive.apart _ before
        · exact free
      intro path held
      rcases path.eq_or_other action.path with rfl | rfl
      · exact alone held
      · refine Bool.eq_false_iff.mpr fun own => ?_
        rw [Path.other_other] at own
        exact Bool.false_ne_true ((alone own).symm.trans held)
    pending := by
      intro path pending
      rw [Watch.step_image, Watch.next] at pending
      simp only [Bool.and_eq_true] at pending
      exact pending.1.2
    writers := by
      intro path held writer member
      have before (new : watch.system.accepts (watch.system.step buildTime action) path ≠ true) :
          watch.system.holds path = true := by
        rcases path.eq_or_other action.path with rfl | rfl
        · exact (moves.own held).resolve_right fun accepted => new accepted.1
        · exact moves.other.symm.trans held
      rw [Watch.step_image, Watch.next] at member
      dsimp only at member
      split at member
      · cases member
      next new =>
        rcases List.mem_append.mp member with old | written
        · exact exclusive.writers path (before new) writer old
        · obtain ⟨some, rfl⟩ := List.mem_replicate.mp written
          have call := List.count_pos_iff.mp (Nat.pos_of_ne_zero some)
          have own := exclusive.apart _ (Watch.holds_of_call moves call)
          rcases path.eq_or_other action.path with same | other
          · exact same.symm
          · rw [other] at before
            exact absurd (own.symm.trans (before (other ▸ new))) Bool.false_ne_true }

theorem Watch.Exclusive.oneWriter (exclusive : watch.Exclusive)
    (first : watch.system.CancelledFirst action) : watch.OneWriter buildTime action where
  alone written := by
    have moves := watch.system.step_moves exclusive.flag buildTime first
    have other := exclusive.apart _ (Watch.holds_of_call moves written)
    exact Bool.eq_false_iff.mpr fun pending =>
      Bool.false_ne_true (other.symm.trans (exclusive.pending _ pending))
  own done marked := by
    have moves := watch.system.step_moves exclusive.flag buildTime first
    exact exclusive.writers _ (Watch.holds_of_call moves marked)

theorem Watch.Exclusive.boot (world : W) (flash : Nvmc) (dfu : F) :
    (Watch.boot world flash dfu : Watch W F I).Exclusive where
  flag := rfl
  apart path held := by cases path <;> cases held
  pending path pending := by cases path <;> cases pending
  writers path held := by cases path <;> cases held

/-- In every run in which each update is begun only once no ended session holds an image, the two
paths never write into each other's images. -/
theorem one_writer (buildTime : Nat) (world : W) (flash : Nvmc) (dfu : F) (actions : List Action)
    (first : EveryStep (Watch.step buildTime)
      (fun watch action => watch.system.CancelledFirst action)
      (Watch.boot world flash dfu : Watch W F I) actions) :
    EveryStep (Watch.step buildTime) (Watch.OneWriter buildTime)
      (Watch.boot world flash dfu : Watch W F I) actions := by
  have always : Always (Watch.step buildTime) Watch.Exclusive
      (Watch.boot world flash dfu : Watch W F I) actions :=
    .of_everyStep (fun _ _ exclusive first => exclusive.step first) (.boot world flash dfu) first
  exact fun before action after split =>
    (always before _ split).oneWriter (first before action after split)

end Steps

instance {W F I : Type} (system : System W F I) (request : Request) :
    Decidable (system.Begins request) := by
  cases source : request.source with
  | cdc epoch => exact .isFalse (by rw [System.Begins, source]; exact id)
  | uart number session generation =>
      exact decidable_of_iff (_ ∧ _ ∧ _ ∧ _ ∧ _ ∧ _) (by rw [System.Begins, source])

instance {W F I : Type} (system : System W F I) :
    (action : Action) → Decidable (system.CancelledFirst action)
  | .work _ =>
      show Decidable (match system.worker.phase, system.shared.requests with
          | .selecting, _ :: _ => _
          | _, _ => True) from
        match system.worker.phase, system.shared.requests with
        | .selecting, [] => .isTrue trivial
        | .selecting, _ :: _ => inferInstanceAs (Decidable (_ → _))
        | .starting, _ | .executing _, _ | .sending _, _ | .stopped, _ => .isTrue trivial
  | .usb _ | .control | .receive _ | .transmit _ | .serial _ => .isTrue trivial

def benchWatch : Watch Bench Partition (Option Nat) :=
  .boot ⟨true, []⟩ erasedChip ⟨fun _ => 0xFF⟩

/-- A CDC session begins an upload of eight bytes, and DTR falls. -/
def uploadLost : List Action :=
  raiseOnce ++ [Action.serial { packet := some (some (ascii "WRITE 8\n")) }] ++
    List.replicate 9 (.serial {}) ++ dropDtr ++ [.work {}]

/-- Over UART a `VER` and the `BEGIN` of an update. -/
def beginUpdate : List Action :=
  .receive .pending :: .receiveText "@00000001 VER\n" :: serveOne ++
    .receiveText "@00000002 OTA BEGIN 104 8674F5C3\n" :: serveOne

theorem one_writer_cancelled :
    ((uploadLost ++ [Action.serial { timer := true }] ++ beginUpdate).foldl (Watch.step 0)
        benchWatch).uart = { pending := true } ∧
      EveryStep (Watch.step 0) (Watch.OneWriter 0) benchWatch
        (uploadLost ++ [Action.serial { timer := true }] ++ beginUpdate) := by
  refine ⟨by decide +kernel, one_writer 0 _ _ _ _ ?_⟩
  simp only [uploadLost, beginUpdate, raiseOnce, raiseDtr, openSession, dropDtr, serveOne,
    List.replicate, List.cons_append, List.nil_append, everyStep_cons, everyStep_nil, and_true]
  decide +kernel

/-- The upload's next packet comes before the session's millisecond is over. -/
theorem one_writer_late :
    ¬∀ actions, EveryStep (Watch.step 0) (Watch.OneWriter 0) benchWatch actions := by
  intro always
  have late := always (uploadLost ++ beginUpdate ++
      [Action.serial { packet := some (some [1, 2, 3, 4]) }])
    _ _ [] rfl
  have written : UpdaterCall.write ∈
      ((uploadLost ++ beginUpdate).foldl (Watch.step 0) benchWatch).calls 0
        (.serial { packet := some (some [1, 2, 3, 4]) }) := by
    decide +kernel
  have pending :
      ((uploadLost ++ beginUpdate).foldl (Watch.step 0) benchWatch).uart.pending = true := by
    decide +kernel
  exact Bool.false_ne_true ((late.alone written).symm.trans pending)

end NrfUnifying.Tasks
