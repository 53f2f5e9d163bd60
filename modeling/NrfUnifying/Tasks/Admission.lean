import NrfUnifying.Lib.Runs
import NrfUnifying.Tasks.Moves
import NrfUnifying.Tasks.Segments

/-!
# Which UART requests are executed

A request starts only when its stamps agree with the shared counters, no CDC
session is active, and a `VER` was admitted since the barrier went up. The
invariant `Guarded` ties the stamps to what the request carries.
-/

namespace NrfUnifying.Tasks

open Lib.Bytes Lib.Runs Radio Storage UartLink Updater UartOta

/-! ## The property -/

/-- No CDC session is active, the CDC session has not changed since any byte of the line, and there
was no damage since the line was framed. -/
structure Clean (request : Request) (now : Snapshot) : Prop where
  inactive : now.cdcActive = false
  sessions : ∀ session ∈ request.stamp.sessions, session = now.sessions
  damages : request.stamp.damages = now.damages

/-- A clean `VER` was admitted since the last activation or timeout. -/
def Synced : List Event → Prop
  | [] => False
  | .activated :: _ | .timedOut :: _ => False
  | .synced request now :: rest =>
      (request.source.isUart = true ∧ request.line = ascii "VER" ∧ Clean request now) ∨ Synced rest
  | _ :: rest => Synced rest

/-- Every UART request that started was clean and behind the barrier. -/
def Admitted : List Event → Prop
  | [] => True
  | .started request now :: rest =>
      (request.source.isUart = true →
        Clean request now ∧ (request.line = ascii "VER" ∨ Synced rest)) ∧ Admitted rest
  | _ :: rest => Admitted rest

/-- Neither the session counter nor the damage counter has wrapped. -/
def Record.Fits (record : Record) : Prop := record.sessions < 2 ^ 32 ∧ record.damages < 2 ^ 32

/-! ## The invariant -/

/-- A request carries the counters that its stamp notes. -/
def Request.Stamped (request : Request) (record : Record) : Prop :=
  match request.source with
  | .cdc _ => True
  | .uart _ session faultGeneration =>
      ∃ seen ≤ record.sessions, session = .ofNat seen ∧
        (∀ stamp ∈ request.stamp.sessions, stamp = seen) ∧
        faultGeneration = .ofNat request.stamp.damages ∧ request.stamp.damages ≤ record.damages

/-- The receive task's line has one session. -/
structure Receiver.Stamped (receiver : Receiver) (record : Record) : Prop where
  session : receiver.parserSession = .ofNat receiver.seen
  seen_le : receiver.seen ≤ record.sessions
  stamps : ∀ stamp ∈ receiver.stamps, stamp = receiver.seen

structure Guarded (shared : Shared) (receiver : Receiver) (record : Record) : Prop where
  session : shared.cdcSession = .ofNat record.sessions
  generation : shared.uartGeneration = .ofNat record.damages
  receiver : receiver.Stamped record
  requests : ∀ request ∈ shared.requests, request.Stamped record
  synced : shared.uartSyncRequired = false → Synced record.log
  admitted : Admitted record.log

section Guarded

variable {shared after : Shared} {receiver : Receiver} {record : Record} {request : Request}

theorem Request.Stamped.mono {later : Record} (stamped : request.Stamped record)
    (sessions : record.sessions ≤ later.sessions) (damages : record.damages ≤ later.damages) :
    request.Stamped later := by
  rw [Request.Stamped] at stamped ⊢
  cases source : request.source with
  | cdc epoch => trivial
  | uart number session faultGeneration =>
      rw [source] at stamped
      obtain ⟨seen, bound, session, stamps, generation, damaged⟩ := stamped
      exact ⟨seen, Nat.le_trans bound sessions, session, stamps, generation,
        Nat.le_trans damaged damages⟩

theorem Receiver.Stamped.mono {later : Record} (stamped : receiver.Stamped record)
    (sessions : record.sessions ≤ later.sessions) : receiver.Stamped later :=
  ⟨stamped.session, Nat.le_trans stamped.seen_le sessions, stamped.stamps⟩

/-- What the guards do not read may change, requests may go, and the barrier may go up. -/
theorem Guarded.congr (guarded : Guarded shared receiver record)
    (session : after.cdcSession = shared.cdcSession)
    (generation : after.uartGeneration = shared.uartGeneration)
    (requests : ∀ request ∈ after.requests, request ∈ shared.requests ∨ request.Stamped record)
    (barrier : after.uartSyncRequired = false → shared.uartSyncRequired = false) :
    Guarded after receiver record where
  session := session.trans guarded.session
  generation := generation.trans guarded.generation
  receiver := guarded.receiver
  requests request member := (requests request member).elim (guarded.requests request) id
  synced lifted := guarded.synced (barrier lifted)
  admitted := guarded.admitted

/-- An event that neither starts a request nor puts up the barrier. -/
def Event.Neutral : Event → Prop
  | .started .. | .activated | .timedOut => False
  | _ => True

theorem Guarded.note (guarded : Guarded shared receiver record) (event : Event)
    (neutral : event.Neutral) : Guarded shared receiver (record.note event) := by
  refine ⟨guarded.session, guarded.generation, ⟨guarded.receiver.session,
    guarded.receiver.seen_le, guarded.receiver.stamps⟩, guarded.requests, fun lifted => ?_, ?_⟩
  · have synced := guarded.synced lifted
    cases event with
    | started | activated | timedOut => exact neutral.elim
    | synced => exact .inr synced
    | _ => exact synced
  · have admitted := guarded.admitted
    cases event with
    | started | activated | timedOut => exact neutral.elim
    | _ => exact admitted

theorem Guarded.start (guarded : Guarded shared receiver record) {now : Snapshot}
    (clean : request.source.isUart = true →
      Clean request now ∧ (request.line = ascii "VER" ∨ Synced record.log)) :
    Guarded shared receiver (record.note (.started request now)) where
  session := guarded.session
  generation := guarded.generation
  receiver := ⟨guarded.receiver.session, guarded.receiver.seen_le, guarded.receiver.stamps⟩
  requests := guarded.requests
  synced := guarded.synced
  admitted := ⟨clean, guarded.admitted⟩

end Guarded

section Steps

variable {W F I : Type}

abbrev System.Guarded (system : System W F I) : Prop :=
  Tasks.Guarded system.shared system.receiver system.record

variable {system : System W F I}

theorem System.Guarded.note (guarded : system.Guarded) (event : Event) (neutral : event.Neutral) :
    (system.note event).Guarded :=
  Tasks.Guarded.note guarded event neutral

/-! ## The worker -/

/-- A request may start when it is clean and behind the barrier. -/
def System.MayStart (system : System W F I) (request : Request) : Prop :=
  request.source.isUart = true →
    Clean request system.now ∧ (request.line = ascii "VER" ∨ Synced system.record.log)

/-- What is known of the request that the worker has in its hands. -/
def Stage.Guarded (stage : Stage) (system : System W F I) : Prop :=
  match stage with
  | .holds request => request.Stamped system.record
  | .admits request => system.MayStart request
  | _ => True

theorem ofNat_inj_of_lt {a b : Nat} (first : a < 2 ^ 32) (second : b < 2 ^ 32)
    (same : UInt32.ofNat a = UInt32.ofNat b) : a = b := by
  have values := congrArg UInt32.toNat same
  rwa [UInt32.toNat_ofNat', UInt32.toNat_ofNat', Nat.mod_eq_of_lt first,
    Nat.mod_eq_of_lt second] at values

/-- The worker's comparisons of stamps are exact while the counters fit. -/
theorem System.Guarded.clean (guarded : system.Guarded) (fits : system.record.Fits)
    {request : Request} (stamped : request.Stamped system.record)
    {number session generation : UInt32}
    (source : request.source = .uart number session generation)
    (fresh : generation = system.shared.uartGeneration)
    (inactive : system.shared.cdcActive = false) (current : session = system.shared.cdcSession) :
    Clean request system.now := by
  rw [Request.Stamped, source] at stamped
  obtain ⟨seen, bound, sessionSeen, stamps, damaged, damages⟩ := stamped
  have same : seen = system.record.sessions := by
    refine ofNat_inj_of_lt (Nat.lt_of_le_of_lt bound fits.1) fits.1 ?_
    rw [← sessionSeen, current, guarded.session]
  refine ⟨inactive, fun stamp member => (stamps stamp member).trans same, ?_⟩
  refine ofNat_inj_of_lt (Nat.lt_of_le_of_lt damages fits.2) fits.2 ?_
  rw [← damaged, fresh, guarded.generation]
  rfl

section Worker

variable [Board W] [RustUnifying W] [FirmwareUpdater F I] {buildTime : Nat} {clock : Clock}

/-- A move of the worker. -/
theorem Worker.Move.guarded {stage next : Stage} {before after : System W F I}
    (move : Worker.Move buildTime clock stage before next after) (fits : before.record.Fits)
    (guarded : before.Guarded) (hand : stage.Guarded before) :
    after.record.Fits ∧ after.Guarded ∧ next.Guarded after := by
  cases move with
  | start | tick | wait | dropCdc | uploading | busy | wrong | withhold | onTime | known | sound =>
      exact ⟨fits, guarded, trivial⟩
  | notice | finish | panic | send | replyUart | replyCdc | overlook | forget | select =>
      exact ⟨fits, guarded.congr rfl rfl (fun _ member => .inl member) id, trivial⟩
  | @take _ request rest selecting queue =>
      refine ⟨fits, guarded.congr rfl rfl (fun other member => .inl ?_) id, ?_⟩
      · rw [queue]
        exact List.mem_cons_of_mem _ member
      · exact guarded.requests request (by rw [queue]; exact List.mem_cons_self)
  | admitCdc source => exact ⟨fits, guarded, fun uart => by rw [source] at uart; cases uart⟩
  | dropUart | refuseUart => exact ⟨fits, guarded.note _ trivial, trivial⟩
  | syncUart source fresh inactive current _ version =>
      have clean := guarded.clean fits hand source fresh inactive current
      refine ⟨fits, ?_, fun _ => ⟨clean, .inl version⟩⟩
      refine ⟨guarded.session, guarded.generation, ⟨guarded.receiver.session,
        guarded.receiver.seen_le, guarded.receiver.stamps⟩, guarded.requests,
        fun _ => .inl ⟨by rw [source]; rfl, version, clean⟩, guarded.admitted⟩
  | admitUart source fresh inactive current synced =>
      have clean := guarded.clean fits hand source fresh inactive current
      exact ⟨fits, guarded.note _ trivial, fun _ => ⟨clean, .inr (guarded.synced synced)⟩⟩
  | update =>
      have started := Tasks.Guarded.start guarded hand
      exact ⟨fits, started.congr rfl rfl (fun _ member => .inl member) id, trivial⟩
  | execute => exact ⟨fits, Tasks.Guarded.start guarded hand, trivial⟩
  | expire =>
      exact ⟨fits, ⟨guarded.session, guarded.generation, ⟨guarded.receiver.session,
        guarded.receiver.seen_le, guarded.receiver.stamps⟩, guarded.requests,
        (fun lifted => nomatch lifted), guarded.admitted⟩, trivial⟩
  | handOver =>
      refine ⟨fits, Tasks.Guarded.note ?_ _ trivial, trivial⟩
      exact guarded.congr rfl rfl (fun _ member => .inl member) id
  | repair =>
      refine ⟨fits, Tasks.Guarded.note ?_ _ trivial, trivial⟩
      exact guarded.congr rfl rfl (fun _ member => .inl member) id

theorem System.Guarded.workerFut (guarded : system.Guarded) (buildTime : Nat) (clock : Clock)
    (fits : system.record.Fits) : (system.workerFut buildTime clock).Guarded := by
  obtain ⟨-, still, -⟩ := system.workerFut_keeps buildTime clock
    (motive := fun stage system => system.record.Fits ∧ system.Guarded ∧ stage.Guarded system)
    ⟨fits, guarded, trivial⟩ fun move kept => move.guarded kept.1 kept.2.1 kept.2.2
  exact still

end Worker

/-! ## The other tasks -/

section Other

variable {before after : System W F I}

theorem System.UsbMove.guarded (move : before.UsbMove after) (guarded : before.Guarded) :
    after.Guarded := by
  have session : before.shared.cdcSession + 1 = .ofNat (before.record.sessions + 1) := by
    rw [guarded.session, UInt32.ofNat_add]
    rfl
  have requests (request : Request) (member : request ∈ before.shared.requests) :
      request.Stamped { before.record with sessions := before.record.sessions + 1 } :=
    (guarded.requests request member).mono (Nat.le_succ _) (Nat.le_refl _)
  have receiver : before.receiver.Stamped { before.record with
      sessions := before.record.sessions + 1 } := guarded.receiver.mono (Nat.le_succ _)
  cases move with
  | configure | line | look => exact guarded.congr rfl rfl (fun _ member => .inl member) id
  | signal | hear => exact guarded
  | lose =>
      refine ⟨session, guarded.generation, ?_, requests, guarded.synced, guarded.admitted⟩
      exact ⟨receiver.session, receiver.seen_le, receiver.stamps⟩
  | activate =>
      refine ⟨session, guarded.generation, ?_, requests, nofun, guarded.admitted⟩
      exact ⟨receiver.session, receiver.seen_le, receiver.stamps⟩
  | deactivate =>
      refine ⟨session, guarded.generation, ?_, requests, guarded.synced, guarded.admitted⟩
      exact ⟨receiver.session, receiver.seen_le, receiver.stamps⟩

theorem System.Guarded.damage (guarded : before.Guarded) : before.damage.Guarded where
  session := guarded.session
  generation := by
    change before.shared.uartGeneration + 1 = .ofNat (before.record.damages + 1)
    rw [guarded.generation, UInt32.ofNat_add]
    rfl
  receiver := ⟨guarded.receiver.session, guarded.receiver.seen_le, guarded.receiver.stamps⟩
  requests request member := (guarded.requests request member).mono (Nat.le_refl _) (Nat.le_succ _)
  synced := guarded.synced
  admitted := guarded.admitted

/-- The receive task's line may be dropped. -/
theorem Receiver.Stamped.drop {receiver : Receiver} {record : Record}
    (stamped : receiver.Stamped record) (parser : Parser) :
    Receiver.Stamped { receiver with parser, stamps := [] } record :=
  ⟨stamped.session, stamped.seen_le, fun _ member => absurd member List.not_mem_nil⟩

/-- A new session starts the receive task's line anew. -/
theorem System.Guarded.renewed (guarded : before.Guarded) (parser : Parser) :
    Receiver.Stamped ⟨parser, before.shared.cdcSession, before.record.sessions, []⟩
      before.record :=
  ⟨guarded.session, Nat.le_refl _, fun _ member => absurd member List.not_mem_nil⟩

/-- Of the bytes of the receive task's line, the next one included, all are from its session. -/
theorem System.Guarded.stamps (guarded : before.Guarded) (fits : before.record.sessions < 2 ^ 32)
    (current : before.shared.cdcSession = before.receiver.parserSession) :
    ∀ stamp ∈ before.receiver.stamps ++ [before.record.sessions],
      stamp = before.receiver.seen := by
  have seen : before.receiver.seen = before.record.sessions := by
    refine ofNat_inj_of_lt (Nat.lt_of_le_of_lt guarded.receiver.seen_le fits) fits ?_
    rw [← guarded.receiver.session, ← current, guarded.session]
  intro stamp member
  rcases List.mem_append.mp member with old | new
  · exact guarded.receiver.stamps stamp old
  · rw [List.mem_singleton.mp new, seen]

theorem System.RxMove.guarded (move : before.RxMove after) (guarded : before.Guarded)
    (fits : before.record.sessions < 2 ^ 32) :
    after.record.sessions < 2 ^ 32 ∧ after.Guarded := by
  have asked (current : before.shared.cdcSession = before.receiver.parserSession)
      (frame : Frame) : (before.asked frame).Stamped before.record :=
    ⟨before.receiver.seen, guarded.receiver.seen_le, guarded.receiver.session,
      guarded.stamps fits current, guarded.generation, Nat.le_refl _⟩
  have assembled (current : before.shared.cdcSession = before.receiver.parserSession)
      (parser : Parser) : (before.assembled parser).Stamped before.record := by
    refine ⟨guarded.receiver.session, guarded.receiver.seen_le, ?_⟩
    unfold System.assembled
    dsimp only
    split
    · exact fun _ member => absurd member List.not_mem_nil
    · exact guarded.stamps fits current
  have kept (request : Request) (member : request ∈ before.shared.requests) :
      request.Stamped { before.record with framed := before.record.framed + 1 } :=
    (guarded.requests request member).mono (Nat.le_refl _) (Nat.le_refl _)
  refine ⟨by cases move <;> exact fits, ?_⟩
  cases move with
  | same => exact guarded.congr rfl rfl (fun _ member => .inl member) id
  | renew | discard =>
      exact ⟨guarded.session, guarded.generation, guarded.renewed _, guarded.requests,
        guarded.synced, guarded.admitted⟩
  | misread =>
      refine System.Guarded.damage ?_
      exact ⟨guarded.session, guarded.generation, guarded.receiver.drop _, guarded.requests,
        guarded.synced, guarded.admitted⟩
  | byte current =>
      exact ⟨guarded.session, guarded.generation, assembled current _, guarded.requests,
        guarded.synced, guarded.admitted⟩
  | @frame _ frame parser current =>
      refine Tasks.Guarded.note ?_ _ trivial
      have receiver := assembled current parser
      refine ⟨guarded.session, guarded.generation, ⟨receiver.session, receiver.seen_le,
        receiver.stamps⟩, fun other member => ?_, guarded.synced, guarded.admitted⟩
      rcases List.mem_append.mp member with old | new
      · exact kept other old
      · rw [List.mem_singleton.mp new]
        exact (asked current frame).mono (Nat.le_refl _) (Nat.le_refl _)
  | overflow =>
      refine System.Guarded.damage ?_
      refine Tasks.Guarded.note ?_ _ trivial
      exact ⟨guarded.session, guarded.generation, (guarded.receiver.drop _).mono (Nat.le_refl _),
        kept, guarded.synced, guarded.admitted⟩

theorem System.TxMove.guarded {writing : Writing} (move : before.TxMove writing after)
    (guarded : before.Guarded) : after.Guarded := by
  cases move with
  | idle | pending | sent => exact guarded
  | take =>
      refine Tasks.Guarded.note ?_ (.taken _) trivial
      exact guarded.congr rfl rfl (fun _ member => .inl member) id
  | fail => exact System.Guarded.damage guarded

theorem System.Guarded.outcome (guarded : before.Guarded) (buildTime : Nat) (session : UInt32)
    (outcome : Serial.Outcome F I) (rest : List UInt8) :
    (before.outcome buildTime session outcome rest).Guarded := by
  rw [System.outcome]
  dsimp only
  have kept : Tasks.Guarded { before.shared with
      uploadActive := outcome.cdc.uploading
      rebootRequested := before.shared.rebootRequested || outcome.reboot }
      before.receiver before.record := guarded.congr rfl rfl (fun _ member => .inl member) id
  split
  · exact kept.note _ trivial
  · exact kept

variable [FirmwareUpdater F I]

theorem System.SerialMove.guarded {buildTime : Nat} {input : SerialInput}
    (move : before.SerialMove buildTime input after) (guarded : before.Guarded) :
    after.Guarded := by
  cases move with
  | wait | connect | opens | packet | done => exact guarded
  | cancel | fail | pass | skip => exact guarded.congr rfl rfl (fun _ member => .inl member) id
  | enter | receive =>
      refine Tasks.Guarded.note ?_ (.toHost _ _) trivial
      exact guarded.congr rfl rfl (fun _ member => .inl member) id
  | upload | byte => exact guarded.outcome buildTime _ _ _
  | send =>
      refine guarded.congr rfl rfl (fun request member => ?_) id
      rcases List.mem_append.mp member with old | new
      · exact .inl old
      · rw [List.mem_singleton.mp new]
        exact .inr trivial

end Other

/-! ## Runs -/

variable [Board W] [RustUnifying W] [FirmwareUpdater F I]

theorem System.Guarded.step (guarded : system.Guarded) (buildTime : Nat) (action : Action)
    (fits : system.record.Fits) : (system.step buildTime action).Guarded := by
  cases action with
  | usb event =>
      change (system.usb event).Guarded
      exact chain_keeps (system.usb_segment event) guarded fun move kept => move.guarded kept
  | control =>
      change system.controlFut.Guarded
      exact chain_keeps system.controlFut_segment guarded fun move kept => move.guarded kept
  | work clock => exact guarded.workerFut buildTime clock fits
  | receive reading =>
      have kept : (system.uartRxFut reading).record.sessions < 2 ^ 32 ∧
          (system.uartRxFut reading).Guarded :=
        chain_keeps (system.uartRxFut_segment reading) ⟨fits.1, guarded⟩
          fun move kept => move.guarded kept.2 kept.1
      exact kept.2
  | transmit writing => exact (system.uartTxFut_move writing).guarded guarded
  | serial input => exact (system.serialFut_move buildTime input).guarded guarded

theorem System.Guarded.boot (world : W) (flash : Nvmc) (dfu : F) :
    (System.boot world flash dfu : System W F I).Guarded :=
  ⟨rfl, rfl, ⟨rfl, Nat.le_refl _, fun _ member => absurd member List.not_mem_nil⟩,
    fun _ member => absurd member List.not_mem_nil, (fun lifted => nomatch lifted), trivial⟩

/-- In every run in which the counters do not wrap, a UART request only starts while no CDC session
is active, with all bytes of its line consumed under the current session, with no damage since it
was framed, and as a `VER` or behind one. -/
theorem uart_requests_admitted (buildTime : Nat) (world : W) (flash : Nvmc) (dfu : F)
    (actions : List Action)
    (fits : Always (System.step buildTime) (fun system => system.record.Fits)
      (System.boot world flash dfu : System W F I) actions) :
    Always (System.step buildTime) (fun system => Admitted system.record.log)
      (System.boot world flash dfu : System W F I) actions := by
  have always : Always (System.step buildTime) System.Guarded
      (System.boot world flash dfu : System W F I) actions :=
    .of_everyStep (fun system action guarded fits => guarded.step buildTime action fits)
      (System.Guarded.boot world flash dfu) fits.everyStep
  exact fun before after split => (always before after split).admitted

end Steps

instance (record : Record) : Decidable record.Fits := inferInstanceAs (Decidable (_ ∧ _))

theorem uart_requests_admitted_paired :
    (pairByUart.foldl (System.step 0) benchBoot).record.framed = 2 ∧
      Always (System.step 0) (fun system => Admitted system.record.log) benchBoot pairByUart := by
  refine ⟨by decide +kernel, uart_requests_admitted 0 _ _ _ _ ?_⟩
  simp only [pairByUart, serveOne, List.cons_append, List.nil_append, always_cons, always_nil]
  decide +kernel

end NrfUnifying.Tasks
