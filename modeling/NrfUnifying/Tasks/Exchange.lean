import NrfUnifying.Lib.Runs
import NrfUnifying.Tasks.Orderly

/-!
# CDC requests and replies

A live session has at most one request under way, and the serial task waits for
its reply; so the reply channel is empty when the worker posts. `Exchange` notes
which requests were sent, which replies were posted for them and what of these
reached the host.
-/

namespace NrfUnifying.Tasks

open Lib.Bytes Lib.Runs Radio Storage UartLink Updater UartOta

/-! ## The property -/

/-- The requests that a serial step queues, with the session that sends them. -/
def CdcView.sends (before after : CdcView) : List (UInt32 × Request) :=
  match before.serial.open with
  | some session => (after.requests.drop before.requests.length).map (Prod.mk session)
  | none => []

/-- What a serial step that waits for a reply writes to the host. -/
def CdcView.relays (before after : CdcView) : List (UInt32 × List UInt8) :=
  match before.serial with
  | .answering .. =>
      (after.log.take (after.log.length - before.log.length)).filterMap fun
        | .toHost session bytes => some (session, bytes)
        | _ => none
  | _ => []

section Property

variable {W F I : Type}

/-- The request that the worker's next step is about. -/
def System.serves (system : System W F I) : Option Request :=
  match system.worker.phase with
  | .executing request => some request
  | .selecting => system.shared.requests.head?
  | _ => none

/-- A step of the worker, from `before` to `after`. A live request finds the reply channel empty,
and is then executed or has its reply posted; no other reply is posted; and the radio is handed over
to a live session only. -/
structure Serves (before after : System W F I) : Prop where
  live : ∀ request epoch, before.serves = some request → request.source = .cdc epoch →
    before.cdcView.Live epoch → before.shared.cdcReplies = [] ∧
      (after.worker.phase = .executing request ∨
        ∃ bytes, after.shared.cdcReplies = [⟨request.source, bytes, request.stamp⟩])
  only : after.shared.cdcReplies ≠ before.shared.cdcReplies →
    ∃ request epoch, before.serves = some request ∧ request.source = .cdc epoch ∧
      before.cdcView.Live epoch
  handed : ∀ session, .maintained session ∈ after.record.log →
    .maintained session ∈ before.record.log ∨ before.cdcView.Live session

/-- The system with the CDC requests sent so far, each with the session that sent it, the replies
posted for them, and what of the replies was written to the host, with the session that wrote it. -/
structure Exchange (W F I : Type) where
  system : System W F I
  sent : List (UInt32 × Request) := []
  posted : List (Request × Reply) := []
  written : List (UInt32 × List UInt8) := []

/-- A session writes only replies that were posted for its own requests. While a session is active,
each of its requests has been answered or is under way; at most one is, and the serial task waits
for its reply. -/
structure Exchange.Sound (exchange : Exchange W F I) : Prop where
  own : ∀ session bytes, (session, bytes) ∈ exchange.written → ∃ request reply,
    (session, request) ∈ exchange.sent ∧ (request, reply) ∈ exchange.posted ∧ reply.bytes = bytes
  answered : exchange.system.shared.cdcActive = true →
    exchange.sent.countP (fun entry => entry.1 = exchange.system.shared.cdcSession) =
      exchange.written.countP (fun entry => entry.1 = exchange.system.shared.cdcSession) +
        exchange.system.cdcView.outstanding
  waits : exchange.system.shared.cdcActive = true → exchange.system.cdcView.outstanding =
    if exchange.system.serial.phase.awaiting = some exchange.system.shared.cdcSession then 1 else 0
  handedOver : HandedOver exchange.system.record.log

variable [Board W] [RustUnifying W] [FirmwareUpdater F I]

def Exchange.step (buildTime : Nat) (exchange : Exchange W F I) (action : Action) :
    Exchange W F I :=
  let before := exchange.system
  let after := before.step buildTime action
  match action with
  | .serial _ =>
      { exchange with
        system := after
        sent := exchange.sent ++ before.cdcView.sends after.cdcView
        written := exchange.written ++ before.cdcView.relays after.cdcView }
  | .work _ =>
      let posted := before.serves.toList.flatMap fun request =>
        (after.shared.cdcReplies.drop before.shared.cdcReplies.length).map (Prod.mk request)
      { exchange with system := after, posted := exchange.posted ++ posted }
  | _ => { exchange with system := after }

def Exchange.boot (world : W) (flash : Nvmc) (dfu : F) : Exchange W F I where
  system := .boot world flash dfu

end Property

/-! ## Accounts -/

section Accounts

variable {view after : CdcView}

/-- What the UART tasks and the worker leave as it is; they bring no CDC request. -/
structure CdcView.Keeps (view after : CdcView) : Prop where
  active : after.active = view.active
  session : after.session = view.session
  sessions : after.sessions = view.sessions
  serial : after.serial = view.serial
  held : ∀ request ∈ after.held, ∀ epoch, request.source = .cdc epoch → request ∈ view.held

theorem CdcView.Keeps.trans {middle : CdcView} (first : view.Keeps middle)
    (second : middle.Keeps after) : view.Keeps after where
  active := second.active.trans first.active
  session := second.session.trans first.session
  sessions := second.sessions.trans first.sessions
  serial := second.serial.trans first.serial
  held request member epoch source :=
    first.held request (second.held request member epoch source) epoch source

theorem CdcView.Listen.keeps (listen : view.Listen after) : view.Keeps after := by
  cases listen with
  | note => exact ⟨rfl, rfl, rfl, rfl, fun _ member _ _ => member⟩
  | queue request uart =>
      refine ⟨rfl, rfl, rfl, rfl, fun other member epoch source => ?_⟩
      rw [CdcView.held, ← List.append_assoc, List.mem_append, List.mem_singleton] at member
      rcases member with member | rfl
      · exact member
      · rw [source] at uart
        cases uart

theorem CdcView.Change.keeps (change : view.Change after) : view.Keeps after := by
  have tail {request : Request} {rest : List Request} (queue : view.requests = request :: rest) :
      ∀ other ∈ view.serving.toList ++ rest, other ∈ view.held := by
    intro other member
    rw [CdcView.held, queue]
    rcases List.mem_append.mp member with member | member
    · exact List.mem_append_left _ member
    · exact List.mem_append_right _ (List.mem_cons_of_mem _ member)
  cases change with
  | takeUart queue | drop queue =>
      exact ⟨rfl, rfl, rfl, rfl, fun other member _ _ => tail queue other member⟩
  | @serve request rest _ queue source idle =>
      refine ⟨rfl, rfl, rfl, rfl, fun other member _ _ => ?_⟩
      rw [CdcView.held, queue]
      exact List.mem_append_right _ member
  | reply | withhold =>
      exact ⟨rfl, rfl, rfl, rfl, fun _ member _ _ => List.mem_append_right _ member⟩
  | _ => exact ⟨rfl, rfl, rfl, rfl, fun _ member _ _ => member⟩

theorem CdcView.Listens.keeps (listens : view.Listens after) :
    view.Keeps after ∧ after.replies = view.replies := by
  induction listens with
  | refl => exact ⟨⟨rfl, rfl, rfl, rfl, fun _ member _ _ => member⟩, rfl⟩
  | tail _ listen ih =>
      exact ⟨ih.1.trans listen.keeps, .trans (by cases listen <;> rfl) ih.2⟩

theorem CdcView.Listens.orderly (listens : view.Listens after) (orderly : view.Orderly) :
    after.Orderly := by
  induction listens with
  | refl => exact orderly
  | tail _ listen ih => exact listen.orderly ih

theorem CdcView.Changes.keeps (changes : view.Changes after) : view.Keeps after := by
  induction changes with
  | refl => exact ⟨rfl, rfl, rfl, rfl, fun _ member _ _ => member⟩
  | tail _ change ih => exact ih.trans change.keeps

theorem CdcView.Changes.orderly (changes : view.Changes after) (orderly : view.Orderly) :
    after.Orderly := by
  induction changes with
  | refl => exact orderly
  | tail _ change ih => exact change.orderly ih

/-- The worker hands the radio over to a live session only. -/
theorem CdcView.Changes.maintained (changes : view.Changes after) {session : UInt32}
    (member : .maintained session ∈ after.log) :
    .maintained session ∈ view.log ∨ view.Live session := by
  induction changes with
  | refl => exact .inl member
  | @tail middle last changes change ih =>
      cases change with
      | note event plain => exact ih ((maintained_mem_plain plain).mp member)
      | handOver active =>
          rcases List.mem_cons.mp member with same | member
          · obtain rfl : session = middle.session := Event.maintained.inj same
            have keeps := CdcView.Changes.keeps changes
            exact .inr ⟨keeps.active.symm.trans active, keeps.session.symm⟩
          · exact ih member
      | startUart | startCdc => exact ih ((List.mem_cons.mp member).resolve_left nofun)
      | _ => exact ih member

/-- What a serial step sends and passes on. -/
inductive CdcView.Passes (view after : CdcView) :
    List (UInt32 × Request) → List (UInt32 × List UInt8) → Prop where
  | nothing (held : after.held = view.held) (replies : after.replies = view.replies) :
      Passes view after [] []
  | request {session : UInt32} {request : Request} (known : session.toNat ≤ view.sessions)
      (source : request.source = .cdc session) (held : after.held = view.held ++ [request])
      (replies : after.replies = view.replies) : Passes view after [(session, request)] []
  | reply {reply : Reply} (held : after.held = view.held)
      (replies : view.replies = reply :: after.replies) :
      Passes view after [] [(view.session, reply.bytes)]

theorem CdcView.sends_of_same (same : after.requests = view.requests) : view.sends after = [] := by
  rw [CdcView.sends, same]
  split
  · rw [List.drop_length]
    rfl
  · rfl

theorem CdcView.relays_of_same (same : after.log = view.log) : view.relays after = [] := by
  rw [CdcView.relays, same, Nat.sub_self]
  split <;> rfl

theorem CdcView.relays_of_quiet (quiet : view.serial.awaiting = none) : view.relays after = [] := by
  rw [CdcView.relays]
  cases phase : view.serial with
  | answering => rw [phase] at quiet; cases quiet
  | _ => rfl

theorem CdcView.passes_nothing (requests : after.requests = view.requests)
    (serving : after.serving = view.serving) (replies : after.replies = view.replies)
    (relays : view.relays after = []) :
    view.Passes after (view.sends after) (view.relays after) := by
  rw [CdcView.sends_of_same requests, relays]
  exact .nothing (by rw [CdcView.held, CdcView.held, requests, serving]) replies

theorem CdcView.relays_of_toHost {session : UInt32} {rest bytes : List UInt8}
    (answering : view.serial = .answering session rest)
    (log : after.log = .toHost session bytes :: view.log) :
    view.relays after = [(session, bytes)] := by
  rw [CdcView.relays, answering, log]
  simp only [List.length_cons, Nat.add_sub_cancel_left, List.take_succ_cons, List.take_zero,
    List.filterMap_cons, List.filterMap_nil]

theorem CdcView.passes_reply {reply : Reply} (requests : after.requests = view.requests)
    (serving : after.serving = view.serving) (replies : view.replies = reply :: after.replies)
    (relays : view.relays after = [(view.session, reply.bytes)]) :
    view.Passes after (view.sends after) (view.relays after) := by
  rw [CdcView.sends_of_same requests, relays]
  exact .reply (by rw [CdcView.held, CdcView.held, requests, serving]) replies

theorem CdcView.Serial.passes {input : SerialInput} (serial : view.Serial input after)
    (orderly : view.Orderly) : view.Passes after (view.sends after) (view.relays after) := by
  cases serial with
  | same | connect | opens | other =>
      exact CdcView.passes_nothing rfl rfl rfl (CdcView.relays_of_same rfl)
  | @cancel session open_ cancels =>
      have empty := orderly.empty fun active awaiting => cancels.2 ⟨active, Option.some.inj
        ((SerialPhase.open_of_entered (SerialPhase.entered_of_awaiting awaiting)).symm.trans open_)⟩
      exact CdcView.passes_nothing rfl rfl empty.symm (CdcView.relays_of_same rfl)
  | fail reading =>
      have empty := orderly.empty (by rw [reading]; exact nofun)
      exact CdcView.passes_nothing rfl rfl empty.symm (CdcView.relays_of_same rfl)
  | ready waiting =>
      exact CdcView.passes_nothing rfl rfl rfl (CdcView.relays_of_quiet (by rw [waiting]; rfl))
  | move entered quiet =>
      exact CdcView.passes_nothing rfl rfl rfl (CdcView.relays_of_quiet quiet)
  | @send session line rest requesting room =>
      have open_ : view.serial.open = some session := by rw [requesting]; rfl
      rw [CdcView.relays_of_quiet (by rw [requesting]; rfl), CdcView.sends, open_]
      simp only [List.drop_left, List.map_cons, List.map_nil]
      exact .request (orderly.numbered.serial session open_) rfl (List.append_assoc _ _ _).symm rfl
  | @receive session rest reply replies answering queue own =>
      obtain ⟨-, rfl, -⟩ := orderly.own_reply answering (queue ▸ List.mem_cons_self)
      exact CdcView.passes_reply rfl rfl queue (CdcView.relays_of_toHost answering rfl)
  | skip answering queue foreign =>
      exact absurd (orderly.own_reply answering (queue ▸ List.mem_cons_self)).2.2 foreign

structure CdcView.Tracked (view : CdcView) (sent : List (UInt32 × Request))
    (posted : List (Request × Reply)) (written : List (UInt32 × List UInt8)) : Prop where
  orderly : view.Orderly
  known : ∀ session request, (session, request) ∈ sent → session.toNat ≤ view.sessions
  held : ∀ request ∈ view.held, ∀ epoch, request.source = .cdc epoch → (epoch, request) ∈ sent
  replies : ∀ reply ∈ view.replies, ∃ request,
    (view.session, request) ∈ sent ∧ (request, reply) ∈ posted
  own : ∀ session bytes, (session, bytes) ∈ written → ∃ request reply,
    (session, request) ∈ sent ∧ (request, reply) ∈ posted ∧ reply.bytes = bytes
  answered : view.active = true →
    sent.countP (fun entry => entry.1 = view.session) =
      written.countP (fun entry => entry.1 = view.session) + view.outstanding

variable {sent : List (UInt32 × Request)} {posted : List (Request × Reply)}
  {written : List (UInt32 × List UInt8)}

/-- Steps of the UART tasks and of the worker, which posts replies to what it held. -/
theorem CdcView.Tracked.keep (tracked : view.Tracked sent posted written)
    (keeps : view.Keeps after) (orderly : after.Orderly) {added : List (Request × Reply)}
    (replies : ∀ reply ∈ after.replies, reply ∈ view.replies ∨
      ∃ request ∈ view.held, request.source = .cdc view.session ∧ (request, reply) ∈ added) :
    after.Tracked sent (posted ++ added) written where
  orderly
  known session request member := keeps.sessions ▸ tracked.known session request member
  held request member epoch source :=
    tracked.held request (keeps.held request member epoch source) epoch source
  replies reply member := by
    rw [keeps.session]
    rcases replies reply member with old | ⟨request, held, source, new⟩
    · obtain ⟨request, sent, posted⟩ := tracked.replies reply old
      exact ⟨request, sent, List.mem_append_left _ posted⟩
    · exact ⟨request, tracked.held request held _ source, List.mem_append_right _ new⟩
  own session bytes member := by
    obtain ⟨request, reply, sent, posted, same⟩ := tracked.own session bytes member
    exact ⟨request, reply, sent, List.mem_append_left _ posted, same⟩
  answered active := by
    rw [orderly.outstanding active, keeps.session, keeps.serial]
    rw [keeps.active] at active
    rw [tracked.answered active, tracked.orderly.outstanding active]

theorem CdcView.Tracked.renumber (tracked : view.Tracked sent posted written)
    (renumber : view.Renumber after) (fits : after.sessions < 2 ^ 32) :
    after.Tracked sent posted written := by
  have orderly := renumber.orderly tracked.orderly fits
  cases renumber with
  | same => exact tracked
  | lose =>
      exact {
        orderly
        known := fun session request member =>
          Nat.le_succ_of_le (tracked.known session request member)
        held := tracked.held
        replies := nofun
        own := tracked.own
        answered := nofun }
  | activate inactive =>
      have unsent (request : Request) : (view.session + 1, request) ∉ sent := fun member =>
        tracked.orderly.numbered.fresh fits (tracked.known _ request member) rfl
      have unwritten (bytes : List UInt8) : (view.session + 1, bytes) ∉ written := by
        intro member
        obtain ⟨request, _, sent, -⟩ := tracked.own _ bytes member
        exact unsent request sent
      exact {
        orderly
        known := fun session request member =>
          Nat.le_succ_of_le (tracked.known session request member)
        held := tracked.held
        replies := by
          intro reply member
          exact absurd (inactive.symm.trans (tracked.orderly.replies reply member).1)
            Bool.false_ne_true
        own := tracked.own
        answered := by
          intro active
          have none' := (orderly.outstanding active).trans
            (if_neg (tracked.orderly.numbered.unawaited fits))
          rw [none', List.countP_eq_zero.mpr, List.countP_eq_zero.mpr]
          · rintro ⟨session, bytes⟩ member own
            obtain rfl : session = view.session + 1 := of_decide_eq_true own
            exact unwritten bytes member
          · rintro ⟨session, request⟩ member own
            obtain rfl : session = view.session + 1 := of_decide_eq_true own
            exact unsent request member }

theorem CdcView.Serial.still {input : SerialInput} (serial : view.Serial input after) :
    after.active = view.active ∧ after.session = view.session ∧ after.sessions = view.sessions := by
  cases serial <;> exact ⟨rfl, rfl, rfl⟩

theorem CdcView.Tracked.serial (tracked : view.Tracked sent posted written) {input : SerialInput}
    (serial : view.Serial input after) :
    after.Tracked (sent ++ view.sends after) posted (written ++ view.relays after) := by
  have orderly := serial.orderly tracked.orderly
  have passes := serial.passes tracked.orderly
  obtain ⟨active, session, sessions⟩ := serial.still
  generalize view.sends after = added at passes
  generalize view.relays after = passed at passes
  cases passes with
  | nothing held replies =>
      rw [List.append_nil, List.append_nil]
      exact {
        orderly
        known := by rw [sessions]; exact tracked.known
        held := by rw [held]; exact tracked.held
        replies := by rw [replies, session]; exact tracked.replies
        own := tracked.own
        answered := by
          rw [active, session, CdcView.outstanding, held, replies, session]
          exact tracked.answered }
  | @request sender request numbered source held replies =>
      rw [List.append_nil]
      exact {
        orderly
        known := by
          intro session' request' member
          rw [sessions]
          rcases List.mem_append.mp member with member | member
          · exact tracked.known session' request' member
          · cases List.mem_singleton.mp member
            exact numbered
        held := by
          intro request' member epoch own
          rw [held] at member
          rcases List.mem_append.mp member with member | member
          · exact List.mem_append_left _ (tracked.held request' member epoch own)
          · obtain rfl := List.mem_singleton.mp member
            obtain rfl : epoch = sender := Source.cdc.inj (own.symm.trans source)
            exact List.mem_append_right _ List.mem_cons_self
        replies := by
          intro reply member
          rw [replies] at member
          rw [session]
          obtain ⟨request', sent', posted'⟩ := tracked.replies reply member
          exact ⟨request', List.mem_append_left _ sent', posted'⟩
        own := by
          intro session' bytes member
          obtain ⟨request', reply, sent', posted'⟩ := tracked.own session' bytes member
          exact ⟨request', reply, List.mem_append_left _ sent', posted'⟩
        answered := by
          intro active'
          rw [active] at active'
          have before := tracked.answered active'
          rw [CdcView.outstanding] at before
          rw [session, CdcView.outstanding, held, replies, session, List.countP_append,
            List.countP_append, List.countP_singleton, List.countP_singleton, source]
          simp only [Source.cdc.injEq]
          omega }
  | @reply reply held replies =>
      rw [List.append_nil]
      have member : reply ∈ view.replies := replies ▸ List.mem_cons_self
      exact {
        orderly
        known := by rw [sessions]; exact tracked.known
        held := by rw [held]; exact tracked.held
        replies := by
          intro other rest
          rw [session]
          exact tracked.replies other (replies ▸ List.mem_cons_of_mem _ rest)
        own := by
          intro session' bytes written'
          rcases List.mem_append.mp written' with written' | passed
          · exact tracked.own session' bytes written'
          · cases List.mem_singleton.mp passed
            obtain ⟨request, sent, posted⟩ := tracked.replies reply member
            exact ⟨request, reply, sent, posted, rfl⟩
        answered := by
          intro active'
          rw [active] at active'
          have before := tracked.answered active'
          rw [CdcView.outstanding, replies, List.length_cons] at before
          rw [session, CdcView.outstanding, held, session, List.countP_append,
            List.countP_singleton]
          simp only [decide_true, if_true]
          omega }

end Accounts

/-! ## The steps of the worker -/

section Steps

variable {W F I : Type}

/-- The worker is about a request of the live session that it has seen, and no reply waits. -/
structure System.Owes (before : System W F I) (request : Request) (epoch : UInt32) : Prop where
  serves : before.serves = some request
  source : request.source = .cdc epoch
  live : before.cdcView.Live epoch
  seen : before.worker.sessionSeen = epoch
  empty : before.shared.cdcReplies = []

section Owes

variable {system : System W F I} {request : Request} {epoch : UInt32}

theorem System.serves_selecting (phase : system.worker.phase = .selecting) :
    system.serves = system.shared.requests.head? := by
  rw [System.serves, phase]

theorem System.serves_executing (phase : system.worker.phase = .executing request) :
    system.serves = some request := by
  rw [System.serves, phase]

/-- A segment that is about no request owes none. -/
theorem System.Owes.absurd (owes : system.Owes request epoch) (idle : system.serves = none) :
    False := by
  have serves := owes.serves
  rw [idle] at serves
  cases serves

theorem System.Owes.same (owes : system.Owes request epoch) {other : Request}
    (serves : system.serves = some other) : request = other :=
  Option.some.inj (owes.serves.symm.trans serves)

theorem System.Waits.serves {clock : Clock} (waits : system.Waits clock) :
    system.serves = none := by
  cases waits with
  | selecting phase empty => rw [System.serves_selecting phase, empty]; rfl
  | sending phase => rw [System.serves, phase]
  | stopped phase => rw [System.serves, phase]

/-- The worker is about a request that it holds, or about one over UART. -/
theorem System.serves_held (serves : system.serves = some request)
    (source : request.source = .cdc epoch) : request ∈ system.cdcView.held := by
  rw [System.serves] at serves
  cases phase : system.worker.phase with
  | starting | sending | stopped => rw [phase] at serves; cases serves
  | selecting =>
      rw [phase] at serves
      exact List.mem_append_right _ (List.mem_of_mem_head? serves)
  | executing served =>
      rw [phase] at serves
      obtain rfl : served = request := Option.some.inj serves
      have served' : system.worker.phase.cdcRequest = some served := by
        rw [phase, Phase.cdcRequest, if_neg]
        rw [source]
        exact Bool.false_ne_true
      refine List.mem_append_left _ ?_
      change _ ∈ system.worker.phase.cdcRequest.toList
      rw [served']
      exact List.mem_cons_self

theorem CdcView.Orderly.owes (orderly : system.cdcView.Orderly)
    (serves : system.serves = some request) (source : request.source = .cdc epoch)
    (live : system.cdcView.Live epoch) : system.Owes request epoch := by
  obtain ⟨seen, empty⟩ := orderly.alone (System.serves_held serves source) source live
  exact ⟨serves, source, live, seen, empty⟩

end Owes

variable [Board W] [RustUnifying W]

/-- What the worker answers to a command line: it is busy with an update, or has handled it. -/
def CommandAnswer (W : Type) [Board W] [RustUnifying W] (buildTime : Nat)
    (line bytes : List UInt8) : Prop :=
  bytes = errBusy ∨ ∃ handler after : Handler W,
    handleUnifyingCommand buildTime handler.ready line = some after ∧ after.sink.bytes = bytes

/-- What a segment of the worker may bring into the reply channel: nothing, or the reply to the
live request that it is about. -/
inductive System.Replies (before : System W F I) (buildTime : Nat) : List Reply → Prop where
  | nothing : Replies before buildTime before.shared.cdcReplies
  | posted {request : Request} {epoch : UInt32} {bytes : List UInt8}
      (serves : before.serves = some request) (source : request.source = .cdc epoch)
      (live : before.cdcView.Live epoch)
      (answer : request.error = none → CommandAnswer W buildTime request.line bytes) :
      Replies before buildTime
        (before.shared.cdcReplies ++ [⟨request.source, bytes, request.stamp⟩])

/-- Of a segment from `before`: the session stays, a request in the worker's hands is the one that
the segment is about, and behind that its reply has been posted if it was owed. -/
structure Stage.Serves (before : System W F I) (buildTime : Nat) (stage : Stage)
    (after : System W F I) : Prop where
  active : after.shared.cdcActive = before.shared.cdcActive
  session : after.shared.cdcSession = before.shared.cdcSession
  hand : match stage with
    | .awaits => after = before
    | .holds request | .admits request =>
        before.serves = some request ∧ after.worker.sessionSeen = before.worker.sessionSeen ∧
          after.shared.cdcReplies = before.shared.cdcReplies
    | .answers request bytes =>
        before.serves = some request ∧ after.shared.cdcReplies = before.shared.cdcReplies ∧
          (request.source.isUart = false → request.error = none →
            CommandAnswer W buildTime request.line bytes)
    | .expires | .hands | .repairs | .polls =>
        before.Replies buildTime after.shared.cdcReplies ∧ ∀ request epoch,
          before.Owes request epoch → after.shared.cdcReplies ≠ []
    | .rests =>
        before.Replies buildTime after.shared.cdcReplies ∧ ∀ request epoch,
          before.Owes request epoch →
            after.worker.phase = .executing request ∨ after.shared.cdcReplies ≠ []

variable [FirmwareUpdater F I] {buildTime : Nat} {clock : Clock}

/-- A move of the worker, in a segment from `start`. -/
theorem Worker.Move.serves {start : System W F I} {stage next : Stage} {before after : System W F I}
    (move : Worker.Move buildTime clock stage before next after)
    (kept : stage.Serves start buildTime before) : next.Serves start buildTime after := by
  obtain ⟨active, session, hand⟩ := kept
  have idle (serves : start.serves = none) (same : before = start) :
      start.Replies buildTime before.shared.cdcReplies ∧ ∀ request epoch,
        start.Owes request epoch → before.shared.cdcReplies ≠ [] :=
    ⟨same ▸ .nothing, fun _ _ owes => (owes.absurd serves).elim⟩
  have aside {request : Request} (serves : start.serves = some request)
      (replies : before.shared.cdcReplies = start.shared.cdcReplies)
      (refused : ∀ epoch, start.Owes request epoch → False) :
      start.Replies buildTime before.shared.cdcReplies ∧ ∀ request epoch,
        start.Owes request epoch → before.shared.cdcReplies ≠ [] :=
    ⟨replies ▸ .nothing, fun other epoch owes => (refused epoch (owes.same serves ▸ owes)).elim⟩
  cases move with
  | start phase => exact ⟨active, session, idle (by rw [← hand, System.serves, phase]) hand⟩
  | tick phase empty =>
      refine ⟨active, session, idle ?_ hand⟩
      rw [← hand, System.serves_selecting phase, empty]
      rfl
  | notice phase empty =>
      refine ⟨active, session, idle ?_ hand⟩
      rw [← hand, System.serves_selecting phase, empty]
      rfl
  | send phase => exact ⟨active, session, idle (by rw [← hand, System.serves, phase]) hand⟩
  | wait waits =>
      obtain rfl : before = start := hand
      exact ⟨rfl, rfl, .nothing, fun _ _ owes => (owes.absurd waits.serves).elim⟩
  | @take _ request rest phase queue =>
      obtain rfl : before = start := hand
      refine ⟨rfl, rfl, ?_, rfl, rfl⟩
      rw [System.serves_selecting phase, queue]
      rfl
  | @finish _ request handler phase handled =>
      obtain rfl : before = start := hand
      exact ⟨rfl, rfl, System.serves_executing phase, rfl,
        fun _ _ => .inr ⟨_, handler, handled, rfl⟩⟩
  | @panic _ request _ handled =>
      have ends := handleUnifyingCommand_isSome before.worker.handler.ready request.line buildTime
      rw [handled] at ends
      cases ends
  | @dropCdc _ request epoch source ended =>
      obtain ⟨serves, seen, replies⟩ := hand
      refine ⟨active, session, aside serves replies fun other owes => ?_⟩
      obtain rfl : epoch = other := Source.cdc.inj (source.symm.trans owes.source)
      rcases ended with inactive | different | unseen
      · exact Bool.false_ne_true (inactive.symm.trans (active.trans owes.live.1))
      · exact different (session.trans owes.live.2)
      · exact unseen (seen.trans owes.seen)
  | @dropUart _ request _ _ _ source =>
      obtain ⟨serves, -, replies⟩ := hand
      refine ⟨active, session, aside serves replies fun other owes => ?_⟩
      exact Source.not_isUart owes.source (Source.isUart_of source)
  | admitCdc | syncUart | admitUart => exact ⟨active, session, hand⟩
  | refuseUart source =>
      exact ⟨active, session, hand.1, hand.2.2, fun _ _ => .inl rfl⟩
  | uploading | busy => exact ⟨active, session, hand.1, hand.2.2, fun _ _ => .inl rfl⟩
  | update update =>
      refine ⟨active, session, hand.1, hand.2.2, fun cdc => ?_⟩
      exact absurd (cdc.symm.trans update.1) Bool.false_ne_true
  | wrong other idle error =>
      refine ⟨active, session, hand.1, hand.2.2, fun _ fine => ?_⟩
      rw [error] at fine
      cases fine
  | execute =>
      obtain ⟨serves, -, replies⟩ := hand
      refine ⟨active, session, ?_, fun other epoch owes => .inl ?_⟩
      · change start.Replies buildTime before.shared.cdcReplies
        exact replies ▸ .nothing
      · rw [owes.same serves]
        rfl
  | @replyUart _ request _ uart =>
      obtain ⟨serves, replies, -⟩ := hand
      refine ⟨active, session, ?_, fun other epoch owes => ?_⟩
      · change start.Replies buildTime before.shared.cdcReplies
        exact replies ▸ .nothing
      · exact (Source.not_isUart owes.source (owes.same serves ▸ uart)).elim
  | @replyCdc _ request bytes epoch source isActive current =>
      obtain ⟨serves, replies, answer⟩ := hand
      refine ⟨active, session, ?_, fun _ _ _ => List.append_ne_nil_of_right_ne_nil _ nofun⟩
      change start.Replies buildTime (before.shared.cdcReplies ++ _)
      rw [replies]
      refine .posted serves source ⟨active.symm.trans isActive, session.symm.trans current⟩ ?_
      exact answer (by rw [source]; rfl)
  | @withhold _ request bytes epoch source refused =>
      obtain ⟨serves, replies, -⟩ := hand
      refine ⟨active, session, aside serves replies fun other owes => refused ?_⟩
      obtain rfl : epoch = other := Source.cdc.inj (source.symm.trans owes.source)
      refine ⟨active.trans owes.live.1, session.trans owes.live.2, ?_⟩
      rw [replies, owes.empty]
      decide
  | onTime | known | sound | expire | overlook | handOver | forget | repair =>
      exact ⟨active, session, hand⟩
  | select => exact ⟨active, session, hand.1, fun request epoch owes => .inr (hand.2 _ _ owes)⟩

variable (system : System W F I) (clock : Clock)

theorem System.workerFut_served (buildTime : Nat) :
    Stage.Serves system buildTime .rests (system.workerFut buildTime clock) :=
  system.workerFut_keeps buildTime clock ⟨rfl, rfl, rfl⟩ fun move kept => move.serves kept

/-- What is owed is executed, or has its reply posted into the empty channel. -/
theorem System.workerFut_live (buildTime : Nat) {request : Request} {epoch : UInt32}
    (owes : system.Owes request epoch) :
    (system.workerFut buildTime clock).worker.phase = .executing request ∨
      ∃ bytes, (system.workerFut buildTime clock).shared.cdcReplies =
        [⟨request.source, bytes, request.stamp⟩] := by
  obtain ⟨-, -, replies, posts⟩ := system.workerFut_served clock buildTime
  rcases posts request epoch owes with executing | posted
  · exact .inl executing
  · refine .inr ?_
    generalize (system.workerFut buildTime clock).shared.cdcReplies = after at replies posted
    cases replies with
    | nothing => exact absurd owes.empty posted
    | @posted other _ bytes serves =>
        rw [owes.empty, owes.same serves]
        exact ⟨bytes, rfl⟩

variable {request : Request}

/-- Every step of the worker of an orderly system. -/
theorem System.workerFut_serves (buildTime : Nat) (orderly : system.cdcView.Orderly) :
    Serves system (system.workerFut buildTime clock) where
  live request epoch serves source live := by
    have owes := orderly.owes serves source live
    exact ⟨owes.empty, system.workerFut_live clock buildTime owes⟩
  only changed := by
    have replies := (system.workerFut_served clock buildTime).hand.1
    generalize (system.workerFut buildTime clock).shared.cdcReplies = after at changed replies
    cases replies with
    | nothing => exact absurd rfl changed
    | @posted request epoch _ serves source live => exact ⟨request, epoch, serves, source, live⟩
  handed session member := (system.workerFut_cdc buildTime clock).maintained member

/-! ## Runs -/

def Exchange.Tracked (exchange : Exchange W F I) : Prop :=
  exchange.system.cdcView.Tracked exchange.sent exchange.posted exchange.written

theorem Exchange.Tracked.work {exchange : Exchange W F I} (tracked : exchange.Tracked)
    (buildTime : Nat) : (exchange.step buildTime (.work clock)).Tracked := by
  have changes := exchange.system.workerFut_cdc buildTime clock
  refine CdcView.Tracked.keep tracked changes.keeps (changes.orderly tracked.orderly) ?_
  intro reply member
  have replies := (exchange.system.workerFut_served clock buildTime).hand.1
  change reply ∈ (exchange.system.workerFut buildTime clock).shared.cdcReplies at member
  change _ ∨ ∃ request ∈ _, _ ∧ (request, reply) ∈ exchange.system.serves.toList.flatMap
    fun request => ((exchange.system.workerFut buildTime clock).shared.cdcReplies.drop
      exchange.system.shared.cdcReplies.length).map (Prod.mk request)
  generalize (exchange.system.workerFut buildTime clock).shared.cdcReplies = after
    at member replies
  cases replies with
  | nothing => exact .inl member
  | @posted request epoch bytes serves source live =>
      rcases List.mem_append.mp member with old | new
      · exact .inl old
      · refine .inr ⟨request, System.serves_held serves source, ?_, ?_⟩
        · exact live.2 ▸ source
        · rw [serves]
          simpa using new

theorem Exchange.Tracked.step {exchange : Exchange W F I} {buildTime : Nat}
    (tracked : exchange.Tracked) {action : Action}
    (fits : (exchange.step buildTime action).system.record.sessions < 2 ^ 32) :
    (exchange.step buildTime action).Tracked := by
  have listens {after : CdcView} (listens : exchange.system.cdcView.Listens after) :
      after.Tracked exchange.sent exchange.posted exchange.written := by
    obtain ⟨keeps, same⟩ := listens.keeps
    have kept : after.Tracked exchange.sent (exchange.posted ++ []) exchange.written :=
      tracked.keep keeps (listens.orderly tracked.orderly) fun reply member => .inl (same ▸ member)
    rwa [List.append_nil] at kept
  cases action with
  | work clock => exact tracked.work clock buildTime
  | receive reading => exact listens (exchange.system.uartRxFut_cdcView reading)
  | transmit writing => exact listens (exchange.system.uartTxFut_cdcView writing)
  | usb event => exact CdcView.Tracked.renumber tracked (exchange.system.usb_renumber event) fits
  | control => exact CdcView.Tracked.renumber tracked exchange.system.controlFut_renumber fits
  | serial input =>
      exact CdcView.Tracked.serial tracked (exchange.system.serialFut_serial buildTime input)

theorem Exchange.Tracked.boot (world : W) (flash : Nvmc) (dfu : F) :
    (Exchange.boot world flash dfu : Exchange W F I).Tracked where
  orderly := {
    numbered := ⟨rfl, Nat.le_refl _, nofun, nofun, nofun, nofun⟩
    replies := nofun
    outstanding := nofun
    entered := nofun
    signalled := nofun
    handed := nofun
    kept := nofun
    handedOver := trivial }
  known := nofun
  held := nofun
  replies := nofun
  own := nofun
  answered := nofun

omit [Board W] [RustUnifying W] [FirmwareUpdater F I] in
theorem Exchange.Tracked.sound {exchange : Exchange W F I} (tracked : exchange.Tracked) :
    exchange.Sound where
  own := CdcView.Tracked.own tracked
  answered := CdcView.Tracked.answered tracked
  waits := (CdcView.Tracked.orderly tracked).outstanding
  handedOver := (CdcView.Tracked.orderly tracked).handedOver

/-- In every run in which the session's number does not wrap, requests and replies stay in their
session, no live request loses its reply, and the radio is handed over before CDC uses it. -/
theorem cdc_exchange (buildTime : Nat) (world : W) (flash : Nvmc) (dfu : F)
    (actions : List Action)
    (fits : Always (Exchange.step buildTime)
      (fun exchange => exchange.system.record.sessions < 2 ^ 32)
      (Exchange.boot world flash dfu : Exchange W F I) actions) :
    Always (Exchange.step buildTime) Exchange.Sound
        (Exchange.boot world flash dfu : Exchange W F I) actions ∧
      EveryStep (Exchange.step buildTime)
        (fun exchange action => ∀ clock, action = .work clock →
          Serves exchange.system (exchange.step buildTime action).system)
        (Exchange.boot world flash dfu : Exchange W F I) actions := by
  have always : Always (Exchange.step buildTime) Exchange.Tracked
      (Exchange.boot world flash dfu : Exchange W F I) actions :=
    .of_everyStep (fun _ _ tracked fits => tracked.step fits)
      (Exchange.Tracked.boot world flash dfu) fits.everyStep_next
  constructor
  · exact fun before after split => (always before after split).sound
  · rintro before _ after split clock rfl
    exact System.workerFut_serves _ clock buildTime (always before _ split).orderly

end Steps

/-- DTR rises, and the host asks for the version. -/
def askVersion : List Action :=
  raiseOnce ++ [.serial { packet := some (some (ascii "VER\n")) }, .serial {}, .serial {},
    .serial {}, .serial {}, .serial {}, .work {}, .work {}, .serial {}]

theorem cdc_exchange_version :
    (askVersion.foldl (Exchange.step 0) (Exchange.boot ⟨true, []⟩ erasedChip ⟨fun _ => 0xFF⟩ :
        Exchange Bench Partition (Option Nat))).written.map Prod.fst = [1] ∧
      Always (Exchange.step 0) Exchange.Sound
        (Exchange.boot ⟨true, []⟩ erasedChip ⟨fun _ => 0xFF⟩ :
          Exchange Bench Partition (Option Nat)) askVersion := by
  refine ⟨by decide +kernel, (cdc_exchange 0 _ _ _ _ ?_).1⟩
  simp only [askVersion, raiseOnce, raiseDtr, openSession, List.cons_append, List.nil_append,
    always_cons, always_nil]
  decide +kernel

end NrfUnifying.Tasks
