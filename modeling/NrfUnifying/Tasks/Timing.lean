import NrfUnifying.Lib.Deadlines
import NrfUnifying.Lib.Simulation
import NrfUnifying.Tasks.Wakeups

/-!
# The worker's clock

`Timed` adds the timer to the system: between two readings of it by the worker
any number of ticks may pass. The worker polls the radio on a grid of 8 ms, and
gives an update up when it has served no line of it for 60 s.
-/

namespace NrfUnifying.Tasks

open Lib.Bytes Lib.Deadlines Lib.Runs Lib.Simulation Radio Storage UartLink Updater UartOta

/-! ## Deadlines -/

/-- `Duration::from_millis`, which rounds up. -/
def ofMillis (millis : Nat) : Nat := (millis * tickHz + 999) / 1000

/-- Between two polls of the radio. -/
def interval : Nat := ofMillis 8

/-- How long an update may be idle. -/
def otaLimit : Nat := 60 * tickHz

theorem interval_pos : 0 < interval := by decide

/-- The ticks before each reading of the timer in a segment of the worker: when it wakes, when it
has taken a request, after a poll there, after an update line, and at the top of the loop for the
update, for the poll, and after that poll. -/
structure Delays where
  wake : Nat := 0
  taken : Nat := 0
  polled : Nat := 0
  served : Nat := 0
  checked : Nat := 0
  due : Nat := 0
  settled : Nat := 0
  deriving DecidableEq, Repr

/-- The system, the last reading of the timer and the worker's deadlines; `checked` is when it last
looked at that of the update. The lists note when the radio was polled, an update line was served
and an update was given up, the latest first. -/
structure Timed (W F I : Type) where
  system : System W F I
  now : Nat
  deadline : Nat
  otaDeadline : Nat
  checked : Nat
  polls : List Nat := []
  served : List Nat := []
  expired : List Nat := []

inductive TimedAction where
  | usb (event : UsbEvent)
  | control
  | work (delays : Delays)
  | receive (reading : Reading)
  | transmit (writing : Writing)
  | serial (input : SerialInput)
  deriving DecidableEq, Repr

section Steps

variable {W F I : Type}

/-- `Instant::now` -/
def Timed.read (timed : Timed W F I) (delay : Nat) : Timed W F I :=
  { timed with now := timed.now + delay }

/-- A reading at which a poll may be due. `settled` is before the last of the readings with which
the deadline is moved on: those before it move it no further than the last one does. -/
def Timed.poll (timed : Timed W F I) (delay settled : Nat) : Timed W F I :=
  let timed := timed.read delay
  if timed.deadline ≤ timed.now then
    let polled := { timed with polls := timed.now :: timed.polls }.read settled
    { polled with deadline := catchUp interval_pos polled.deadline polled.now }
  else timed

def Timed.lift (timed : Timed W F I) (change : System W F I → System W F I) : Timed W F I :=
  { timed with system := change timed.system }

/-- A request waits for the worker, which awaits one. -/
def System.takes (system : System W F I) : Bool :=
  decide (system.worker.phase = .selecting) && !system.shared.requests.isEmpty

/-- What the worker awaits has come. -/
def System.resumes (system : System W F I) (timer : Bool) : Bool :=
  match system.worker.phase with
  | .starting | .executing _ => true
  | .selecting => !system.shared.requests.isEmpty || timer || system.shared.maintenanceChanged
  | .sending _ => decide (system.shared.uartReplies.length < repliesCapacity)
  | .stopped => false

/-- An update line starts to execute. -/
def Event.isUpdate : Event → Bool
  | .started request _ => request.source.isUart && isOta request.line
  | _ => false

/-- What a segment notes. -/
def System.news (before after : System W F I) : List Event :=
  after.record.log.take (after.record.log.length - before.record.log.length)

/-- The worker has woken, and polled the radio if it is due when a request is taken. -/
def Timed.wake (timed : Timed W F I) (delays : Delays) : Timed W F I :=
  let woken := timed.read delays.wake
  if timed.system.takes then woken.poll delays.taken delays.polled else woken

/-- What the worker reads of the timer. -/
def Timed.clock (timed : Timed W F I) (delays : Delays) : Clock :=
  let woken := timed.read delays.wake
  let looked := (timed.wake delays).read delays.checked
  { timer := decide (woken.deadline ≤ woken.now)
    taken := decide (woken.deadline ≤ woken.now + delays.taken)
    ota := decide (looked.otaDeadline ≤ looked.now)
    top := decide (looked.deadline ≤ looked.now + delays.due) }

variable [Board W] [RustUnifying W] [FirmwareUpdater F I]

/-- A segment of the worker. An update line that it serves moves the update's deadline; the reply to
it is still to be sent when the segment ends. One that ends in the select has come through the top
of the loop, where the worker looks at the update and then at the radio. -/
def Timed.work (timed : Timed W F I) (buildTime : Nat) (delays : Delays) : Timed W F I :=
  let woken := timed.wake delays
  let looked := woken.read delays.checked
  let clock := timed.clock delays
  let system := timed.system.workerFut buildTime clock
  let news := timed.system.news system
  if timed.system.resumes clock.timer = false then timed
  else if news.any Event.isUpdate then
    let served := woken.read delays.served
    { served with
      system, otaDeadline := served.now + otaLimit, served := served.now :: served.served }
  else if system.worker.phase = .selecting then
    { looked.poll delays.due delays.settled with
      system
      checked := looked.now
      expired := if .timedOut ∈ news then looked.now :: looked.expired else looked.expired }
  else { woken with system }

def Timed.boot (start : Nat) (world : W) (flash : Nvmc) (dfu : F) : Timed W F I where
  system := .boot world flash dfu
  now := start
  deadline := start + interval
  otaDeadline := start
  checked := start

def Timed.step (buildTime : Nat) (timed : Timed W F I) : TimedAction → Timed W F I
  | .usb event => timed.lift (·.usb event)
  | .control => timed.lift (·.controlFut)
  | .work delays => timed.work buildTime delays
  | .receive reading => timed.lift (·.uartRxFut reading)
  | .transmit writing => timed.lift (·.uartTxFut writing)
  | .serial input => timed.lift (·.serialFut buildTime input)

/-! ## A timed step is a step -/

theorem Timed.work_shows (timed : Timed W F I) (buildTime : Nat) (delays : Delays) :
    (timed.work buildTime delays).system = timed.system ∨
      ∃ clock, (timed.work buildTime delays).system = timed.system.workerFut buildTime clock := by
  unfold Timed.work
  dsimp only
  split
  · exact .inl rfl
  split
  · exact .inr ⟨_, rfl⟩
  split
  · exact .inr ⟨_, rfl⟩
  · exact .inr ⟨_, rfl⟩

theorem Timed.shows (buildTime : Nat) :
    Shows (Timed.system : Timed W F I → System W F I) (Timed.step buildTime)
      (System.step buildTime) := by
  intro timed action
  cases action with
  | usb event => exact .inr ⟨.usb event, rfl⟩
  | control => exact .inr ⟨.control, rfl⟩
  | work delays =>
      rcases timed.work_shows buildTime delays with same | ⟨clock, same⟩
      · exact .inl same
      · exact .inr ⟨.work clock, same⟩
  | receive reading => exact .inr ⟨.receive reading, rfl⟩
  | transmit writing => exact .inr ⟨.transmit writing, rfl⟩
  | serial input => exact .inr ⟨.serial input, rfl⟩

end Steps

/-! ## What a segment notes and polls -/

section Moves

variable {W F I : Type}

/-- How often a move polls the radio. -/
def Clock.polls (clock : Clock) : Stage → Stage → Nat
  | .awaits, .holds _ => clock.taken.toNat
  | .polls, _ => clock.top.toNat
  | _, _ => 0

/-- A chain of moves from an await, with how often it polls the radio. -/
inductive Worker.Polls [Board W] [RustUnifying W] [FirmwareUpdater F I] (buildTime : Nat)
    (clock : Clock) (start : System W F I) : Nat → Stage → System W F I → Prop where
  | none : Polls buildTime clock start 0 .awaits start
  | move {count : Nat} {stage next : Stage} {before after : System W F I}
      (polls : Polls buildTime clock start count stage before)
      (move : Worker.Move buildTime clock stage before next after) :
      Polls buildTime clock start (count + clock.polls stage next) next after

/-- Neither serves an update nor gives one up. -/
structure System.Passes (start : System W F I) (news : List Event) (active : Bool) : Prop where
  served : news.any Event.isUpdate = false
  expired : .timedOut ∉ news
  began : active = true → start.worker.ota.active = true

/-- Gives no update up. -/
structure System.Serves (start : System W F I) (news : List Event) (active : Bool) : Prop where
  expired : .timedOut ∉ news
  began : active = true →
    start.worker.ota.active = true ∨ news.any Event.isUpdate = true

/-- Looks at the update. -/
structure System.Looks (start : System W F I) (clock : Clock) (news : List Event)
    (active : Bool) : Prop where
  served : news.any Event.isUpdate = false
  expired : .timedOut ∈ news → clock.ota = true
  began : active = true → start.worker.ota.active = true ∧ clock.ota = false

/-- How a segment ends: it has not begun, or it leaves the loop's top for later, or it has come
through the top. -/
inductive System.Ends (start : System W F I) (clock : Clock) (count : Nat) (news : List Event)
    (after : System W F I) : Prop where
  | waits (waits : start.resumes clock.timer = false) (polls : count = 0) (same : after = start)
  | leaves (resumes : start.resumes clock.timer = true)
      (polls : count = (start.takes && clock.taken).toNat)
      (busy : after.worker.phase ≠ .selecting)
      (serves : start.Serves news after.worker.ota.active)
  | selects (resumes : start.resumes clock.timer = true)
      (polls : count = (start.takes && clock.taken).toNat + clock.top.toNat)
      (selecting : after.worker.phase = .selecting)
      (looks : start.Looks clock news after.worker.ota.active)

/-- At every stage of a segment from `start`. -/
def Stage.Clocked (start : System W F I) (clock : Clock) (count : Nat) (stage : Stage)
    (news : List Event) (after : System W F I) : Prop :=
  match stage with
  | .awaits => count = 0 ∧ after = start ∧ news = []
  | .rests => start.Ends clock count news after
  | stage =>
      (start.resumes clock.timer = true ∧ count = (start.takes && clock.taken).toNat) ∧
        match stage with
        | .answers request _ => start.Serves news after.worker.ota.active ∧
            (request.source.isUart = false → start.Passes news after.worker.ota.active)
        | .hands | .repairs | .polls => start.Looks clock news after.worker.ota.active
        | _ => start.Passes news after.worker.ota.active

section Noted

variable {start : System W F I} {clock : Clock} {news : List Event} {active : Bool} {event : Event}

theorem System.Passes.refl (start : System W F I) :
    start.Passes [] start.worker.ota.active :=
  ⟨rfl, List.not_mem_nil, id⟩

theorem System.Passes.serves (passes : start.Passes news active) : start.Serves news active :=
  ⟨passes.expired, fun active => .inl (passes.began active)⟩

theorem any_isUpdate_cons (other : event.isUpdate = false)
    (served : news.any Event.isUpdate = false) :
    (event :: news).any Event.isUpdate = false := by
  rw [List.any_cons, other, served]
  rfl

/-- An event that is none of an update. -/
theorem System.Passes.note (passes : start.Passes news active) (other : event.isUpdate = false)
    (goesOn : event ≠ .timedOut) : start.Passes (event :: news) active := by
  refine ⟨any_isUpdate_cons other passes.served, ?_, passes.began⟩
  rw [List.mem_cons, not_or]
  exact ⟨Ne.symm goesOn, passes.expired⟩

theorem System.Looks.note (looks : start.Looks clock news active) (other : event.isUpdate = false)
    (goesOn : event ≠ .timedOut) : start.Looks clock (event :: news) active := by
  refine ⟨any_isUpdate_cons other looks.served, fun member => ?_, looks.began⟩
  rcases List.mem_cons.mp member with new | old
  · exact absurd new.symm goesOn
  · exact looks.expired old

end Noted

theorem System.Waits.resumes {system : System W F I} {clock : Clock}
    (waits : system.Waits clock) : system.resumes clock.timer = false := by
  unfold System.resumes
  cases waits with
  | selecting phase empty early quiet => rw [phase, empty, early, quiet]; rfl
  | sending phase full => rw [phase]; exact decide_eq_false (Nat.not_lt.mpr full)
  | stopped phase => rw [phase]

/-- Only a select takes a request. -/
theorem System.takes_busy {system : System W F I} (busy : system.worker.phase ≠ .selecting) :
    system.takes = false := by
  rw [System.takes, decide_eq_false busy]
  rfl

theorem System.takes_empty {system : System W F I} (empty : system.shared.requests = []) :
    system.takes = false := by
  rw [System.takes, empty]
  exact Bool.and_false _

section Clocked

variable [Board W] [RustUnifying W] [FirmwareUpdater F I] {buildTime : Nat} {clock : Clock}
  {start : System W F I} {count : Nat}

theorem Worker.Move.clocked {stage next : Stage} {before after : System W F I} {news : List Event}
    (move : Worker.Move buildTime clock stage before next after)
    (log : before.record.log = news ++ start.record.log)
    (kept : stage.Clocked start clock count news before) :
    ∃ news, after.record.log = news ++ start.record.log ∧
      next.Clocked start clock (count + clock.polls stage next) news after := by
  have noted (events : List Event) :
      events ++ before.record.log = (events ++ news) ++ start.record.log := by
    rw [log, List.append_assoc]
  have polls (idle : start.takes = false) : 0 + 0 = (start.takes && clock.taken).toNat := by
    rw [idle]
    rfl
  cases move with
  | start phase =>
      obtain ⟨rfl, rfl, rfl⟩ := kept
      have busy : before.worker.phase ≠ .selecting := by rw [phase]; exact nofun
      exact ⟨[], rfl, ⟨by rw [System.resumes, phase], polls (System.takes_busy busy)⟩, .refl _⟩
  | tick selecting empty due =>
      obtain ⟨rfl, rfl, rfl⟩ := kept
      refine ⟨[], rfl, ⟨?_, polls (System.takes_empty empty)⟩, .refl _⟩
      rw [System.resumes, selecting, empty, due]
      rfl
  | notice selecting empty early changed =>
      obtain ⟨rfl, rfl, rfl⟩ := kept
      refine ⟨[], rfl, ⟨?_, polls (System.takes_empty empty)⟩, rfl, List.not_mem_nil, id⟩
      rw [System.resumes, selecting, changed]
      exact Bool.or_true _
  | take selecting queue =>
      obtain ⟨rfl, rfl, rfl⟩ := kept
      refine ⟨[], rfl, ⟨?_, ?_⟩, rfl, List.not_mem_nil, id⟩
      · rw [System.resumes, selecting, queue]
        rfl
      · rw [System.takes, selecting, queue]
        exact Nat.zero_add _
  | finish executing =>
      obtain ⟨rfl, rfl, rfl⟩ := kept
      have busy : before.worker.phase ≠ .selecting := by rw [executing]; exact nofun
      have passes := System.Passes.refl before
      exact ⟨[], rfl, ⟨by rw [System.resumes, executing], polls (System.takes_busy busy)⟩,
        passes.serves, fun _ => passes⟩
  | panic executing =>
      obtain ⟨rfl, rfl, rfl⟩ := kept
      have busy : before.worker.phase ≠ .selecting := by rw [executing]; exact nofun
      exact ⟨[], rfl, .leaves (by rw [System.resumes, executing]) (polls (System.takes_busy busy))
        nofun (System.Passes.refl before).serves⟩
  | send sending room =>
      obtain ⟨rfl, rfl, rfl⟩ := kept
      have busy : before.worker.phase ≠ .selecting := by rw [sending]; exact nofun
      refine ⟨[], rfl, ⟨?_, polls (System.takes_busy busy)⟩, rfl, List.not_mem_nil, id⟩
      rw [System.resumes, sending]
      exact decide_eq_true room
  | wait waits =>
      obtain ⟨rfl, rfl, rfl⟩ := kept
      exact ⟨[], rfl, .waits waits.resumes rfl rfl⟩
  | dropCdc | admitCdc => exact ⟨news, log, kept⟩
  | dropUart => exact ⟨_, noted [.dropped _ _], kept.1, kept.2.note rfl nofun⟩
  | admitUart => exact ⟨_, noted [.dequeued _ _], kept.1, kept.2.note rfl nofun⟩
  | @refuseUart _ request =>
      have passes : start.Passes (.dequeued request before.now :: news)
          before.worker.ota.active := kept.2.note rfl nofun
      exact ⟨_, noted [.dequeued _ _], kept.1, passes.serves, fun _ => passes⟩
  | @syncUart _ request =>
      have dequeued : start.Passes (.dequeued request before.now :: news)
          before.worker.ota.active := kept.2.note rfl nofun
      have synced : start.Passes (.synced request before.now ::
          .dequeued request before.now :: news) before.worker.ota.active :=
        dequeued.note rfl nofun
      exact ⟨_, noted [.synced _ _, .dequeued _ _], kept.1, synced⟩
  | uploading | busy | wrong => exact ⟨news, log, kept.1, kept.2.serves, fun _ => kept.2⟩
  | @update _ request _ update =>
      have starts : Event.isUpdate (.started request before.now) = true :=
        Bool.and_eq_true_iff.mpr update
      refine ⟨_, noted [.started _ _], kept.1, ⟨?_, fun _ => .inr ?_⟩, fun cdc => ?_⟩
      · rw [List.mem_append, List.mem_singleton, not_or]
        exact ⟨nofun, kept.2.expired⟩
      · rw [List.any_append, List.any_cons, starts]
        rfl
      · rw [update.1] at cdc
        cases cdc
  | @execute _ request other =>
      have starts : Event.isUpdate (.started request before.now) = false :=
        Bool.eq_false_iff.mpr (mt Bool.and_eq_true_iff.mp other)
      exact ⟨_, noted [.started _ _], .leaves kept.1.1 kept.1.2 nofun
        (kept.2.note starts nofun).serves⟩
  | replyUart => exact ⟨news, log, .leaves kept.1.1 kept.1.2 nofun kept.2.1⟩
  | replyCdc source | withhold source =>
      exact ⟨news, log, kept.1, kept.2.2 (by rw [source]; rfl)⟩
  | onTime early =>
      refine ⟨news, log, kept.1, kept.2.served, fun late => absurd late kept.2.expired,
        fun active => ⟨kept.2.began active, ?_⟩⟩
      exact Bool.eq_false_iff.mpr fun late => early ⟨active, late⟩
  | expire active late =>
      exact ⟨_, noted [.timedOut], kept.1, any_isUpdate_cons rfl kept.2.served, fun _ => late,
        (absurd · Bool.false_ne_true)⟩
  | known | overlook | sound | forget => exact ⟨news, log, kept⟩
  | handOver => exact ⟨_, noted [.maintained _], kept.1, kept.2.note rfl nofun⟩
  | repair => exact ⟨_, noted [.allUp], kept.1, kept.2.note rfl nofun⟩
  | select =>
      exact ⟨news, log, .selects kept.1.1 (congrArg (· + _) kept.1.2) rfl kept.2⟩

theorem System.workerFut_ends (start : System W F I) (buildTime : Nat) (clock : Clock) :
    ∃ count, Worker.Polls buildTime clock start count .rests (start.workerFut buildTime clock) ∧
      start.Ends clock count (start.news (start.workerFut buildTime clock))
        (start.workerFut buildTime clock) := by
  have ends : ∃ count news, Worker.Polls buildTime clock start count .rests
      (start.workerFut buildTime clock) ∧
        (start.workerFut buildTime clock).record.log = news ++ start.record.log ∧
          Stage.Clocked start clock count .rests news (start.workerFut buildTime clock) := by
    refine start.workerFut_keeps buildTime clock (motive := fun stage after => ∃ count news,
      Worker.Polls buildTime clock start count stage after ∧
        after.record.log = news ++ start.record.log ∧
          stage.Clocked start clock count news after) ?_ ?_
    · exact ⟨0, [], .none, rfl, rfl, rfl, rfl⟩
    · rintro stage before next after move ⟨count, news, polls, log, kept⟩
      obtain ⟨news', log', kept'⟩ := move.clocked log kept
      exact ⟨_, news', polls.move move, log', kept'⟩
  obtain ⟨count, news, polls, log, kept⟩ := ends
  have same : start.news (start.workerFut buildTime clock) = news := by
    rw [System.news, log, List.length_append, Nat.add_sub_cancel, List.take_left]
  exact ⟨count, polls, same ▸ kept⟩

end Clocked

end Moves

/-! ## The deadlines are kept -/

section OnTime

variable {W F I : Type}

/-- What holds at every reading of the timer. -/
structure Timed.OnTime (start : Nat) (timed : Timed W F I) : Prop where
  polls : OnGrid start interval timed.polls.length timed.deadline timed.now
  served : ∀ line ∈ timed.served, line ≤ timed.now ∧ line + otaLimit ≤ timed.otaDeadline
  fresh : timed.system.worker.ota.active = true →
    ∃ line ∈ timed.served, timed.otaDeadline = line + otaLimit
  expired : ∀ late ∈ timed.expired, late ≤ timed.now ∧
    ∀ line ∈ timed.served, late ≤ line ∨ line + otaLimit ≤ late

/-- What holds where the worker waits. -/
structure Timed.Waits (timed : Timed W F I) : Prop where
  deadline : timed.now < timed.deadline
  checked : timed.checked ≤ timed.now
  ota : timed.system.worker.ota.active = true → timed.checked < timed.otaDeadline

structure Timed.Settled (start : Nat) (timed : Timed W F I) : Prop where
  onTime : timed.OnTime start
  waits : timed.system.worker.phase = .selecting → timed.Waits

variable {start : Nat} {timed : Timed W F I}

theorem Timed.Settled.busy (onTime : timed.OnTime start)
    (busy : timed.system.worker.phase ≠ .selecting) : timed.Settled start :=
  ⟨onTime, fun selecting => absurd selecting busy⟩

theorem Timed.OnTime.read (onTime : timed.OnTime start) (delay : Nat) :
    (timed.read delay).OnTime start := by
  have passes : timed.now ≤ timed.now + delay := Nat.le_add_right _ _
  constructor
  · exact onTime.polls.wait passes
  · intro line member
    obtain ⟨past, later⟩ := onTime.served line member
    exact ⟨Nat.le_trans past passes, later⟩
  · exact onTime.fresh
  · intro late member
    obtain ⟨past, apart⟩ := onTime.expired late member
    exact ⟨Nat.le_trans past passes, apart⟩

/-- A change that does not start an update. -/
theorem Timed.OnTime.adopt (onTime : timed.OnTime start) {system : System W F I}
    (idle : system.worker.ota.active = true → timed.system.worker.ota.active = true) :
    ({ timed with system } : Timed W F I).OnTime start :=
  ⟨onTime.polls, onTime.served, fun active => onTime.fresh (idle active), onTime.expired⟩

theorem Timed.OnTime.poll (onTime : timed.OnTime start) (delay settled : Nat) :
    (timed.poll delay settled).OnTime start ∧
      (timed.poll delay settled).now < (timed.poll delay settled).deadline := by
  have waited := onTime.read delay
  unfold Timed.poll
  dsimp only
  split
  next due =>
    have late : timed.deadline ≤ timed.now + delay + settled := Nat.le_trans due
      (Nat.le_add_right _ _)
    have later := waited.read settled
    refine ⟨⟨?_, later.served, later.fresh, later.expired⟩, lt_catchUp _ _ _⟩
    exact waited.polls.run interval_pos late
  next ahead => exact ⟨waited, Nat.not_le.mp ahead⟩

/-- A poll leaves all but the radio's deadline alone. -/
theorem Timed.poll_aside (timed : Timed W F I) (delay settled : Nat) :
    (timed.poll delay settled).system = timed.system ∧
      (timed.poll delay settled).otaDeadline = timed.otaDeadline ∧
      (timed.poll delay settled).served = timed.served ∧
      (timed.poll delay settled).expired = timed.expired ∧
      timed.now ≤ (timed.poll delay settled).now := by
  unfold Timed.poll
  dsimp only
  split
  · refine ⟨rfl, rfl, rfl, rfl, ?_⟩
    exact Nat.le_trans (Nat.le_add_right _ delay) (Nat.le_add_right _ settled)
  · exact ⟨rfl, rfl, rfl, rfl, Nat.le_add_right _ _⟩

theorem Timed.poll_polls (timed : Timed W F I) (delay settled : Nat) :
    (timed.poll delay settled).polls.length =
      timed.polls.length + (decide (timed.deadline ≤ timed.now + delay)).toNat := by
  unfold Timed.poll Timed.read
  dsimp only
  by_cases due : timed.deadline ≤ timed.now + delay
  · rw [if_pos due, decide_eq_true due]
    rfl
  · rw [if_neg due, decide_eq_false due]
    rfl

theorem Timed.OnTime.wake (onTime : timed.OnTime start) (delays : Delays) :
    (timed.wake delays).OnTime start := by
  have woken := onTime.read delays.wake
  unfold Timed.wake
  dsimp only
  split
  · exact (woken.poll delays.taken delays.polled).1
  · exact woken

theorem Timed.wake_system (timed : Timed W F I) (delays : Delays) :
    (timed.wake delays).system = timed.system := by
  unfold Timed.wake
  dsimp only
  split
  · exact (Timed.poll_aside _ _ _).1
  · rfl

theorem Timed.wake_polls (timed : Timed W F I) (delays : Delays) :
    (timed.wake delays).polls.length =
      timed.polls.length + (timed.system.takes && (timed.clock delays).taken).toNat := by
  unfold Timed.wake
  dsimp only
  cases timed.system.takes with
  | true => exact Timed.poll_polls _ _ _
  | false => rfl

/-- A line of an update is served. -/
theorem Timed.OnTime.serve (onTime : timed.OnTime start) (system : System W F I) :
    ({ timed with
      system
      otaDeadline := timed.now + otaLimit
      served := timed.now :: timed.served } : Timed W F I).OnTime start := by
  refine ⟨onTime.polls, ?_, fun _ => ⟨_, List.mem_cons_self, rfl⟩, ?_⟩
  · intro line member
    rcases List.mem_cons.mp member with rfl | member
    · exact ⟨Nat.le_refl _, Nat.le_refl _⟩
    · obtain ⟨past, -⟩ := onTime.served line member
      exact ⟨past, Nat.add_le_add_right past otaLimit⟩
  · intro late member
    obtain ⟨past, apart⟩ := onTime.expired late member
    refine ⟨past, fun line served => ?_⟩
    rcases List.mem_cons.mp served with rfl | served
    · exact .inl past
    · exact apart line served

/-- The worker comes through the top of its loop: the update is given up only if its deadline has
passed, and is on time otherwise. -/
theorem Timed.OnTime.top (onTime : timed.OnTime start) (system : System W F I) (due settled : Nat)
    (gaveUp : Bool) (late : gaveUp = true → timed.otaDeadline ≤ timed.now)
    (kept : system.worker.ota.active = true →
      timed.system.worker.ota.active = true ∧ timed.now < timed.otaDeadline) :
    ({ timed.poll due settled with
      system
      checked := timed.now
      expired := if gaveUp then timed.now :: timed.expired else timed.expired } :
        Timed W F I).Settled start := by
  obtain ⟨polled, ahead⟩ := onTime.poll due settled
  obtain ⟨same, otaDeadline, served, expired, passes⟩ := timed.poll_aside due settled
  refine ⟨⟨polled.polls, polled.served, fun active => ?_, ?_⟩, fun _ => ⟨ahead, passes, ?_⟩⟩
  · exact polled.fresh (same ▸ (kept active).1)
  · intro given member
    cases gaveUp with
    | false => exact polled.expired given (expired ▸ member)
    | true =>
        rcases List.mem_cons.mp member with rfl | member
        · refine ⟨passes, fun line inside => .inr ?_⟩
          exact Nat.le_trans (onTime.served line (served ▸ inside)).2 (late rfl)
        · exact polled.expired given (expired ▸ member)
  · exact fun active => otaDeadline ▸ (kept active).2

/-- A step of another task. -/
theorem Timed.Settled.lift (settled : timed.Settled start)
    (change : System W F I → System W F I)
    (worker : (change timed.system).worker = timed.system.worker) :
    (timed.lift change).Settled start := by
  refine ⟨settled.onTime.adopt fun active => by rwa [worker] at active, fun selecting => ?_⟩
  change (change timed.system).worker.phase = _ at selecting
  rw [worker] at selecting
  obtain ⟨deadline, checked, ota⟩ := settled.waits selecting
  refine ⟨deadline, checked, fun active => ota ?_⟩
  change (change timed.system).worker.ota.active = true at active
  rwa [worker] at active

theorem System.UsbMove.worker {before after : System W F I} (move : before.UsbMove after) :
    after.worker = before.worker := by
  cases move <;> rfl

/-! ## Runs -/

variable [Board W] [RustUnifying W] [FirmwareUpdater F I]

theorem Timed.Settled.work (settled : timed.Settled start) (buildTime : Nat) (delays : Delays) :
    (timed.work buildTime delays).Settled start := by
  have woken := settled.onTime.wake delays
  have looked := woken.read delays.checked
  have same := timed.wake_system delays
  obtain ⟨count, -, ends⟩ := timed.system.workerFut_ends buildTime (timed.clock delays)
  unfold Timed.work
  dsimp only
  generalize timed.system.workerFut buildTime (timed.clock delays) = after at ends
  generalize timed.system.news after = news at ends
  by_cases waits : timed.system.resumes (timed.clock delays).timer = false
  · rw [if_pos waits]
    exact settled
  rw [if_neg waits]
  cases ends with
  | waits quiet => exact absurd quiet waits
  | leaves _ _ busy serves =>
      by_cases served : news.any Event.isUpdate = true
      · rw [if_pos served]
        exact .busy ((woken.read delays.served).serve after) busy
      · rw [if_neg served, if_neg busy]
        refine .busy (woken.adopt fun active => ?_) busy
        rw [same]
        exact (serves.began active).resolve_right served
  | selects _ _ selecting looks =>
      rw [if_neg (Bool.eq_false_iff.mp looks.served), if_pos selecting]
      have top := looked.top after delays.due delays.settled
        (decide (.timedOut ∈ news)) (fun gaveUp => ?_) fun active => ?_
      · simpa only [decide_eq_true_eq] using top
      · exact of_decide_eq_true (looks.expired (of_decide_eq_true gaveUp))
      · obtain ⟨began, early⟩ := looks.began active
        exact ⟨(congrArg (·.worker.ota.active) same).trans began,
          Nat.not_le.mp (of_decide_eq_false early)⟩

/-- The polls that are noted are those that the moves of the segment make. -/
theorem Timed.work_polls (timed : Timed W F I) (buildTime : Nat) (delays : Delays) :
    ∃ count, Worker.Polls buildTime (timed.clock delays) timed.system count .rests
        (timed.system.workerFut buildTime (timed.clock delays)) ∧
      (timed.work buildTime delays).polls.length = timed.polls.length + count := by
  have woken := timed.wake_polls delays
  obtain ⟨count, polls, ends⟩ := timed.system.workerFut_ends buildTime (timed.clock delays)
  refine ⟨count, polls, ?_⟩
  unfold Timed.work
  dsimp only
  generalize timed.system.workerFut buildTime (timed.clock delays) = after at ends
  generalize timed.system.news after = news at ends
  cases ends with
  | waits quiet none' =>
      rw [if_pos quiet, none']
      rfl
  | leaves resumes early busy serves =>
      rw [if_neg (ne_false_of_eq_true resumes), early, ← woken]
      split
      · rfl
      · rfl
  | selects resumes both selecting looks =>
      rw [if_neg (ne_false_of_eq_true resumes),
        if_neg (Bool.eq_false_iff.mp looks.served), if_pos selecting, both, ← Nat.add_assoc,
        ← woken]
      exact Timed.poll_polls _ _ _

theorem System.step_worker (system : System W F I) (buildTime : Nat) (action : Action)
    (beside : action.Beside) : (system.step buildTime action).worker = system.worker := by
  refine System.step_keeps (motive := fun after => after.worker = system.worker) buildTime beside
    rfl ?_ ?_ ?_
  · exact fun move kept => move.worker.trans kept
  · exact fun move kept => move.aside.worker.trans kept
  · exact fun move kept => move.aside.1.worker.trans kept

theorem Timed.Settled.step (settled : timed.Settled start) (buildTime : Nat)
    (action : TimedAction) : (timed.step buildTime action).Settled start := by
  have worker := timed.system.step_worker buildTime
  cases action with
  | usb event => exact settled.lift (·.usb event) (worker (.usb event) trivial)
  | control => exact settled.lift (·.controlFut) (worker .control trivial)
  | work delays => exact settled.work buildTime delays
  | receive reading =>
      exact settled.lift (·.uartRxFut reading) (worker (.receive reading) trivial)
  | transmit writing =>
      exact settled.lift (·.uartTxFut writing) (worker (.transmit writing) trivial)
  | serial input =>
      exact settled.lift (·.serialFut buildTime input)
        (timed.system.serialFut_move buildTime input).aside.1.worker

theorem Timed.Settled.run (settled : timed.Settled start) (buildTime : Nat)
    (actions : List TimedAction) :
    (actions.foldl (Timed.step buildTime) timed).Settled start := by
  induction actions generalizing timed with
  | nil => exact settled
  | cons action rest ih => exact ih (settled.step buildTime action)

/-- With any delays: the system is in a state that it reaches without a clock; since the start the
radio was polled at most once for each interval, and where the worker waits its deadline is ahead by
at most an interval; an update is given up only when its last line was served a minute before; and
while the worker waits, an update it has not given up had a line in the minute before it looked. -/
theorem worker_timing (buildTime start : Nat) (world : W) (flash : Nvmc) (dfu : F)
    (actions : List TimedAction) :
    let timed := actions.foldl (Timed.step buildTime)
      (Timed.boot start world flash dfu : Timed W F I)
    (∃ untimed : List Action, timed.system =
      untimed.foldl (System.step buildTime) (System.boot world flash dfu)) ∧
    start + timed.polls.length * interval ≤ timed.now ∧
    (timed.system.worker.phase = .selecting →
      timed.now < timed.deadline ∧ timed.deadline ≤ timed.now + interval) ∧
    (∀ late ∈ timed.expired, ∀ line ∈ timed.served, late ≤ line ∨ line + otaLimit ≤ late) ∧
    (timed.system.worker.phase = .selecting → timed.system.worker.ota.active = true →
      ∃ line ∈ timed.served, timed.checked < line + otaLimit) := by
  intro timed
  have settled : timed.Settled start := by
    refine Timed.Settled.run ⟨?_, fun selecting => ?_⟩ buildTime actions
    · exact ⟨.first start interval, nofun, nofun, nofun⟩
    · cases selecting
  obtain ⟨untimed, same⟩ := (Timed.shows buildTime).run
    (Timed.boot start world flash dfu : Timed W F I) actions
  refine ⟨⟨untimed, same⟩, settled.onTime.polls.runs_le, fun selecting => ?_, ?_, ?_⟩
  · exact ⟨(settled.waits selecting).deadline, settled.onTime.polls.near⟩
  · exact fun late member => (settled.onTime.expired late member).2
  · intro selecting active
    obtain ⟨line, member, same⟩ := settled.onTime.fresh active
    exact ⟨line, member, same ▸ (settled.waits selecting).ota active⟩

end OnTime

end NrfUnifying.Tasks
