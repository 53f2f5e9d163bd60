import NrfUnifying.Lib.Runs
import NrfUnifying.Tasks.System

/-!
# What a segment of the worker can do

From one await to the next the worker goes through stages, by one `Move` each.
What every move keeps, every segment keeps.
-/

namespace NrfUnifying.Tasks

open Lib.Bytes Lib.Runs Radio Storage UartLink Updater UartOta Relation

/-- Where the worker is in a segment: at the await that it starts from, with a request that it took
or has let through, with the reply to one, at a test at the top of its loop, or at the await that it
ends with. -/
inductive Stage where
  | awaits
  | holds (request : Request)
  | admits (request : Request)
  | answers (request : Request) (bytes : List UInt8)
  | expires
  | hands
  | repairs
  | polls
  | rests

/-- The worker's reply to a line with a transport error. -/
def refusal : CommandError → List UInt8
  | .command => errCmd
  | .argument => errArg

section Moves

variable {W F I : Type}

/-- What the worker awaits has not come. -/
inductive System.Waits (system : System W F I) (clock : Clock) : Prop where
  | selecting (phase : system.worker.phase = .selecting) (empty : system.shared.requests = [])
      (early : clock.timer = false) (quiet : system.shared.maintenanceChanged = false)
  | sending {reply : Reply} (phase : system.worker.phase = .sending reply)
      (full : repliesCapacity ≤ system.shared.uartReplies.length)
  | stopped (phase : system.worker.phase = .stopped)

variable [Board W] [RustUnifying W]

/-- The handler after a poll, if one is due. -/
def System.polled (system : System W F I) (due : Bool) : Handler W :=
  if due then
    system.worker.handler.pollRadio system.shared.uploadActive system.shared.uartOtaActive
  else system.worker.handler

theorem System.poll_eq (system : System W F I) (due : Bool) :
    system.poll due = system.setHandler (system.polled due) := by
  unfold System.poll System.polled
  split <;> rfl

theorem System.polled_connected (system : System W F I) (due : Bool) :
    (system.polled due).state.connected = system.worker.handler.state.connected := by
  unfold System.polled
  split
  · exact Handler.pollRadio_connected _ _ _
  · rfl

/-- The handler when an update line is served: a `BEGIN` lets go of all keys first. -/
def System.beginning (system : System W F I) (line : List UInt8) : Handler W :=
  if isBegin line then system.worker.handler.allUp else system.worker.handler

variable [FirmwareUpdater F I]

/-- One move of the worker, with the guards that it has passed. -/
inductive Worker.Move (buildTime : Nat) (clock : Clock) :
    Stage → System W F I → Stage → System W F I → Prop where
  | start {system : System W F I} (phase : system.worker.phase = .starting) :
      Move buildTime clock .awaits system .expires system
  | tick {system : System W F I} (selecting : system.worker.phase = .selecting)
      (empty : system.shared.requests = []) (due : clock.timer = true) :
      Move buildTime clock .awaits system .expires system
  | notice {system : System W F I} (selecting : system.worker.phase = .selecting)
      (empty : system.shared.requests = []) (early : clock.timer = false)
      (changed : system.shared.maintenanceChanged = true) :
      Move buildTime clock .awaits system .expires { system with
        shared := { system.shared with maintenanceChanged := false } }
  | take {system : System W F I} {request : Request} {rest : List Request}
      (selecting : system.worker.phase = .selecting)
      (queue : system.shared.requests = request :: rest) :
      Move buildTime clock .awaits system (.holds request) ({ system with
        shared := { system.shared with requests := rest } }.setHandler
          (system.polled clock.taken))
  | finish {system : System W F I} {request : Request} {handler : Handler W}
      (executing : system.worker.phase = .executing request)
      (handled : handleUnifyingCommand buildTime system.worker.handler.ready request.line =
        some handler) :
      Move buildTime clock .awaits system (.answers request handler.sink.bytes)
        (system.setHandler handler)
  | panic {system : System W F I} {request : Request}
      (executing : system.worker.phase = .executing request)
      (handled : handleUnifyingCommand buildTime system.worker.handler.ready request.line =
        none) :
      Move buildTime clock .awaits system .rests (system.setPhase .stopped)
  | send {system : System W F I} {reply : Reply} (sending : system.worker.phase = .sending reply)
      (room : system.shared.uartReplies.length < repliesCapacity) :
      Move buildTime clock .awaits system .expires { system with
        shared := { system.shared with uartReplies := system.shared.uartReplies ++ [reply] } }
  | wait {system : System W F I} (waits : system.Waits clock) :
      Move buildTime clock .awaits system .rests system
  | dropCdc {system : System W F I} {request : Request} {epoch : UInt32}
      (source : request.source = .cdc epoch)
      (ended : system.shared.cdcActive = false ∨ system.shared.cdcSession ≠ epoch ∨
        system.worker.sessionSeen ≠ epoch) :
      Move buildTime clock (.holds request) system .expires system
  | admitCdc {system : System W F I} {request : Request} {epoch : UInt32}
      (source : request.source = .cdc epoch) (active : system.shared.cdcActive = true)
      (session : system.shared.cdcSession = epoch) (seen : system.worker.sessionSeen = epoch) :
      Move buildTime clock (.holds request) system (.admits request) system
  | dropUart {system : System W F I} {request : Request} {number session generation : UInt32}
      (source : request.source = .uart number session generation)
      (stale : generation ≠ system.shared.uartGeneration) :
      Move buildTime clock (.holds request) system .expires
        (system.note (.dropped request system.now))
  | refuseUart {system : System W F I} {request : Request} {number session generation : UInt32}
      (source : request.source = .uart number session generation)
      (fresh : generation = system.shared.uartGeneration)
      (shut : system.shared.cdcActive = true ∨ session ≠ system.shared.cdcSession ∨
        system.shared.uartSyncRequired = true ∧
          ¬(request.error = none ∧ request.line = ascii "VER")) :
      Move buildTime clock (.holds request) system (.answers request errBusy)
        (system.note (.dequeued request system.now))
  | syncUart {system : System W F I} {request : Request} {number session generation : UInt32}
      (source : request.source = .uart number session generation)
      (fresh : generation = system.shared.uartGeneration)
      (inactive : system.shared.cdcActive = false) (current : session = system.shared.cdcSession)
      (sound : request.error = none) (version : request.line = ascii "VER") :
      Move buildTime clock (.holds request) system (.admits request)
        ({ system.note (.dequeued request system.now) with
          shared := { system.shared with uartSyncRequired := false } }.note
            (.synced request system.now))
  | admitUart {system : System W F I} {request : Request} {number session generation : UInt32}
      (source : request.source = .uart number session generation)
      (fresh : generation = system.shared.uartGeneration)
      (inactive : system.shared.cdcActive = false) (current : session = system.shared.cdcSession)
      (synced : system.shared.uartSyncRequired = false) :
      Move buildTime clock (.holds request) system (.admits request)
        (system.note (.dequeued request system.now))
  | uploading {system : System W F I} {request : Request}
      (update : request.source.isUart = true ∧ isOta request.line = true)
      (uploads : system.shared.uploadActive = true) :
      Move buildTime clock (.admits request) system (.answers request errBusy) system
  | update {system : System W F I} {request : Request} {served : Served F I}
      (update : request.source.isUart = true ∧ isOta request.line = true)
      (free : system.shared.uploadActive = false)
      (serves : serve system.worker.ota ⟨system.worker.otaUpdater, system.dfu⟩ request.line =
        served) :
      Move buildTime clock (.admits request) system (.answers request served.answer.text)
        { system.note (.started request system.now) with
          worker := { system.worker with
            handler := system.beginning request.line
            ota := served.ota, otaUpdater := served.store.updater }
          dfu := served.store.flash
          shared := { system.shared with
            uartOtaActive := served.ota.active
            rebootRequested := system.shared.rebootRequested || served.reboot } }
  | busy {system : System W F I} {request : Request}
      (other : ¬(request.source.isUart = true ∧ isOta request.line = true))
      (active : system.worker.ota.active = true) :
      Move buildTime clock (.admits request) system (.answers request errBusy) system
  | wrong {system : System W F I} {request : Request} {fault : CommandError}
      (other : ¬(request.source.isUart = true ∧ isOta request.line = true))
      (idle : system.worker.ota.active = false) (error : request.error = some fault) :
      Move buildTime clock (.admits request) system (.answers request (refusal fault)) system
  | execute {system : System W F I} {request : Request}
      (other : ¬(request.source.isUart = true ∧ isOta request.line = true))
      (idle : system.worker.ota.active = false) (sound : request.error = none) :
      Move buildTime clock (.admits request) system .rests
        ((system.note (.started request system.now)).setPhase (.executing request))
  | replyUart {system : System W F I} {request : Request} {bytes : List UInt8}
      (uart : request.source.isUart = true) :
      Move buildTime clock (.answers request bytes) system .rests
        (system.setPhase (.sending ⟨request.source, bytes, request.stamp⟩))
  | replyCdc {system : System W F I} {request : Request} {bytes : List UInt8} {epoch : UInt32}
      (source : request.source = .cdc epoch) (active : system.shared.cdcActive = true)
      (session : system.shared.cdcSession = epoch)
      (room : system.shared.cdcReplies.length < repliesCapacity) :
      Move buildTime clock (.answers request bytes) system .expires { system with
        shared := { system.shared with
          cdcReplies := system.shared.cdcReplies ++ [⟨request.source, bytes, request.stamp⟩] } }
  | withhold {system : System W F I} {request : Request} {bytes : List UInt8} {epoch : UInt32}
      (source : request.source = .cdc epoch)
      (refused : ¬(system.shared.cdcActive = true ∧ system.shared.cdcSession = epoch ∧
        system.shared.cdcReplies.length < repliesCapacity)) :
      Move buildTime clock (.answers request bytes) system .expires system
  | onTime {system : System W F I} (early : ¬(system.worker.ota.active = true ∧ clock.ota = true)) :
      Move buildTime clock .expires system .hands system
  | expire {system : System W F I} (active : system.worker.ota.active = true)
      (late : clock.ota = true) :
      Move buildTime clock .expires system .hands ({ system with
        worker := { system.worker with ota := system.worker.ota.abort }
        shared := { system.shared with uartOtaActive := false, uartSyncRequired := true } }.note
          .timedOut)
  | known {system : System W F I} (same : system.shared.cdcSession = system.worker.sessionSeen) :
      Move buildTime clock .hands system .repairs system
  | overlook {system : System W F I} (inactive : system.shared.cdcActive = false) :
      Move buildTime clock .hands system .repairs { system with
        worker := { system.worker with sessionSeen := system.shared.cdcSession } }
  | handOver {system : System W F I} (active : system.shared.cdcActive = true) :
      Move buildTime clock .hands system .repairs ({ system with
        worker := { system.worker with
          handler := system.worker.handler.allUp, sessionSeen := system.shared.cdcSession }
        shared := { system.shared with maintenanceReady := some system.shared.cdcSession } }.note
          (.maintained system.shared.cdcSession))
  | sound {system : System W F I} (clean : system.shared.uartDamaged = false) :
      Move buildTime clock .repairs system .polls system
  | forget {system : System W F I} (damaged : system.shared.uartDamaged = true)
      (down : system.worker.handler.state.connected = false) :
      Move buildTime clock .repairs system .polls { system with
        shared := { system.shared with uartDamaged := false } }
  | repair {system : System W F I} (damaged : system.shared.uartDamaged = true)
      (connected : system.worker.handler.state.connected = true) :
      Move buildTime clock .repairs system .polls ({ system with
        worker := { system.worker with handler := system.worker.handler.allUp }
        shared := { system.shared with uartDamaged := false } }.note .allUp)
  | select {system : System W F I} :
      Move buildTime clock .polls system .rests
        ((system.setHandler (system.polled clock.top)).setPhase .selecting)

abbrev Worker.Moves (buildTime : Nat) (clock : Clock) :
    Stage × System W F I → Stage × System W F I → Prop :=
  ReflTransGen fun first second => Worker.Move buildTime clock first.1 first.2 second.1 second.2

section Chains

variable {buildTime : Nat} {clock : Clock} {stage next : Stage} {before after : System W F I}

theorem Worker.Move.single (move : Worker.Move buildTime clock stage before next after) :
    Worker.Moves buildTime clock (stage, before) (next, after) :=
  ReflTransGen.single move

theorem Worker.Move.head (move : Worker.Move buildTime clock stage before next after)
    {last : Stage × System W F I} (rest : Worker.Moves buildTime clock (next, after) last) :
    Worker.Moves buildTime clock (stage, before) last :=
  rest.head move

end Chains

/-! ## Every segment is such moves -/

variable (buildTime : Nat) (clock : Clock) (system : System W F I)

theorem System.top_segment :
    Worker.Moves buildTime clock (.expires, system) (.rests, system.top clock) := by
  have expired : Worker.Moves buildTime clock (.expires, system)
      (.hands, system.expire clock.ota) := by
    rw [System.expire]
    split
    next both => exact (Worker.Move.expire both.1 both.2).single
    next early => exact (Worker.Move.onTime early).single
  have handed (system : System W F I) :
      Worker.Moves buildTime clock (.hands, system) (.repairs, system.handOver) := by
    rw [System.handOver]
    split
    next same => exact (Worker.Move.known same).single
    · dsimp only
      split
      next active => exact (Worker.Move.handOver active).single
      next inactive => exact (Worker.Move.overlook (Bool.eq_false_iff.mpr inactive)).single
  have repaired (system : System W F I) :
      Worker.Moves buildTime clock (.repairs, system) (.polls, system.repair) := by
    rw [System.repair]
    split
    next damaged =>
      dsimp only
      split
      next connected => exact (Worker.Move.repair damaged connected).single
      next down => exact (Worker.Move.forget damaged (Bool.eq_false_iff.mpr down)).single
    next clean => exact (Worker.Move.sound (Bool.eq_false_iff.mpr clean)).single
  have selected (system : System W F I) : Worker.Moves buildTime clock (.polls, system)
      (.rests, (system.poll clock.top).setPhase .selecting) := by
    rw [system.poll_eq]
    exact Worker.Move.select.single
  exact ((expired.trans (handed _)).trans (repaired _)).trans (selected _)

theorem System.post_segment (request : Request) (bytes : List UInt8) :
    Worker.Moves buildTime clock (.answers request bytes, system)
      (.rests, system.post clock request bytes) := by
  unfold System.post
  dsimp only
  split
  next source => exact (Worker.Move.replyUart (by rw [source]; rfl)).single
  next epoch source =>
    refine .trans ?_ (System.top_segment buildTime clock _)
    split
    next posts => exact (Worker.Move.replyCdc source posts.1 posts.2.1 posts.2.2).single
    next refused => exact (Worker.Move.withhold source refused).single

theorem System.execute_segment (request : Request) :
    Worker.Moves buildTime clock (.admits request, system)
      (.rests, system.execute clock request) := by
  unfold System.execute
  split
  next update =>
    unfold System.update
    split
    next uploads => exact Worker.Move.head (.uploading update uploads) (system.post_segment _ _ _ _)
    next free =>
      refine Worker.Move.head (.update update (Bool.eq_false_iff.mpr free) rfl) ?_
      dsimp only
      unfold System.beginning
      split
      · exact System.post_segment buildTime clock _ _ _
      · exact System.post_segment buildTime clock _ _ _
  next other =>
    split
    next active => exact Worker.Move.head (.busy other active) (system.post_segment _ _ _ _)
    next idle =>
      have idle := Bool.eq_false_iff.mpr idle
      split
      next error => exact Worker.Move.head (.wrong other idle error) (system.post_segment _ _ _ _)
      next error => exact Worker.Move.head (.wrong other idle error) (system.post_segment _ _ _ _)
      next sound => exact (Worker.Move.execute other idle sound).single

/-- A request that was taken, after the poll. -/
theorem System.take_segment (request : Request) {polled : System W F I}
    (same : system.poll clock.taken = polled) :
    Worker.Moves buildTime clock (.holds request, polled)
      (.rests, system.take clock request) := by
  unfold System.take
  rw [same]
  dsimp only
  split
  next epoch source =>
    split
    next ended =>
      exact Worker.Move.head (.dropCdc source ended) (polled.top_segment buildTime clock)
    next live =>
      simp only [not_or, Bool.not_eq_false, not_not] at live
      exact Worker.Move.head (.admitCdc source live.1 live.2.1 live.2.2)
        (polled.execute_segment buildTime clock request)
  next number session generation source =>
    split
    next stale =>
      exact Worker.Move.head (.dropUart source stale) (System.top_segment buildTime clock _)
    next fresh =>
      have fresh := not_not.mp fresh
      have refused (shut : polled.shared.cdcActive = true ∨ session ≠ polled.shared.cdcSession ∨
          polled.shared.uartSyncRequired = true ∧
            ¬(request.error = none ∧ request.line = ascii "VER")) :
          Worker.Moves buildTime clock (.holds request, polled)
            (.rests, (polled.note (.dequeued request polled.now)).post clock request errBusy) :=
        Worker.Move.head (.refuseUart source fresh shut) (System.post_segment buildTime clock _ _ _)
      unfold System.passBarrier
      split
      next shut => exact refused (shut.imp id .inl)
      next open_ =>
        rw [not_or, Bool.not_eq_true, not_not] at open_
        split
        next required =>
          split
          next version =>
            exact Worker.Move.head (.syncUart source fresh open_.1 open_.2 version.1 version.2)
              (System.execute_segment buildTime clock _ request)
          next other => exact refused (.inr (.inr ⟨required, other⟩))
        next synced =>
          have synced := Bool.eq_false_iff.mpr synced
          exact Worker.Move.head (.admitUart source fresh open_.1 open_.2 synced)
            (System.execute_segment buildTime clock _ request)

theorem System.workerFut_segment : Worker.Moves buildTime clock (.awaits, system)
    (.rests, system.workerFut buildTime clock) := by
  unfold System.workerFut
  split
  next phase => exact Worker.Move.head (.start phase) (system.top_segment buildTime clock)
  next phase =>
    split
    next request rest queue =>
      exact Worker.Move.head (.take phase queue)
        (System.take_segment buildTime clock _ request (System.poll_eq _ _))
    next empty =>
      split
      next due =>
        exact Worker.Move.head (.tick phase empty due) (system.top_segment buildTime clock)
      next early =>
        have early := Bool.eq_false_iff.mpr early
        split
        next changed =>
          exact Worker.Move.head (.notice phase empty early changed)
            (System.top_segment buildTime clock _)
        next quiet =>
          have quiet := Bool.eq_false_iff.mpr quiet
          exact (Worker.Move.wait (.selecting phase empty early quiet)).single
  next request phase =>
    unfold System.finish
    split
    next handled => exact (Worker.Move.panic phase handled).single
    next handler handled =>
      exact Worker.Move.head (.finish phase handled) (System.post_segment buildTime clock _ _ _)
  next reply phase =>
    split
    next room => exact Worker.Move.head (.send phase room) (System.top_segment buildTime clock _)
    next full => exact (Worker.Move.wait (.sending phase (Nat.not_lt.mp full))).single
  next phase => exact (Worker.Move.wait (.stopped phase)).single

/-- What holds at every stage holds where the segment ends. -/
theorem System.workerFut_keeps {motive : Stage → System W F I → Prop}
    (start : motive .awaits system)
    (keeps : ∀ {stage : Stage} {before : System W F I} {next : Stage} {after : System W F I},
      Worker.Move buildTime clock stage before next after → motive stage before →
      motive next after) :
    motive .rests (system.workerFut buildTime clock) := by
  have segment := system.workerFut_segment buildTime clock
  refine chain_keeps (motive := fun stage => motive stage.1 stage.2) segment start ?_
  exact fun move kept => keeps move kept

end Moves

end NrfUnifying.Tasks
