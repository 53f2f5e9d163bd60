import NrfUnifying.Tasks.CdcView

/-!
# CDC sessions in order

While a session is active at most one of its requests is under way, and the
serial task waits for the reply. The numbers of requests, signals and events are
never later than the session's own, so what an ended session left behind is not
taken for a later one's.
-/

namespace NrfUnifying.Tasks

open Lib.Bytes Radio Storage UartLink Updater UartOta

/-! ## What is under way -/

/-- A CDC request starts in its own session, after the all-up with which the worker handed the radio
over to it; a UART request that starts after such an all-up finds that session ended. -/
def HandedOver : List Event → Prop
  | [] => True
  | .started request now :: rest =>
      (∀ session, request.source = .cdc session →
        now.cdcActive = true ∧ now.sessions = session.toNat ∧ .maintained session ∈ rest) ∧
      (request.source.isUart = true → ∀ session, .maintained session ∈ rest →
        session.toNat < now.sessions) ∧ HandedOver rest
  | _ :: rest => HandedOver rest

/-- The requests at the worker and in its queue. -/
def CdcView.held (view : CdcView) : List Request :=
  view.serving.toList ++ view.requests

/-- The requests of the current session that are held, and the replies in the channel. -/
def CdcView.outstanding (view : CdcView) : Nat :=
  view.held.countP (fun request => request.source = .cdc view.session) + view.replies.length

/-! ## The invariant -/

/-- No number is later than the current session's. -/
structure CdcView.Numbered (view : CdcView) : Prop where
  session : view.session.toNat = view.sessions
  seen : view.seen.toNat ≤ view.sessions
  ready : ∀ session, view.ready = some session → session.toNat ≤ view.sessions
  serial : ∀ session, view.serial.open = some session → session.toNat ≤ view.sessions
  held : ∀ request ∈ view.held, ∀ epoch, request.source = .cdc epoch → epoch.toNat ≤ view.sessions
  maintained : ∀ session, .maintained session ∈ view.log → session.toNat ≤ view.sessions

structure CdcView.Orderly (view : CdcView) : Prop where
  numbered : view.Numbered
  replies : ∀ reply ∈ view.replies, view.active = true ∧ reply.source = .cdc view.session
  outstanding : view.active = true →
    view.outstanding = if view.serial.awaiting = some view.session then 1 else 0
  entered : view.active = true → view.serial.entered = some view.session →
    view.seen = view.session
  signalled : view.active = true → view.ready = some view.session → view.seen = view.session
  handed : view.active = true → view.seen = view.session → .maintained view.session ∈ view.log
  kept : .maintained view.session ∈ view.log → view.active = true
  handedOver : HandedOver view.log

section Plain

variable {event : Event} {log : List Event} {session : UInt32}

theorem maintained_mem_plain (plain : event.Plain) :
    Event.maintained session ∈ event :: log ↔ .maintained session ∈ log := by
  rw [List.mem_cons, or_iff_right]
  rintro rfl
  exact plain

theorem handedOver_plain (plain : event.Plain) (handedOver : HandedOver log) :
    HandedOver (event :: log) := by
  cases event with
  | started | maintained => exact plain.elim
  | _ => exact handedOver

end Plain

section Invariant

variable {view after : CdcView}

theorem SerialPhase.entered_of_awaiting {phase : SerialPhase} {session : UInt32}
    (awaiting : phase.awaiting = some session) : phase.entered = some session := by
  cases phase with
  | answering => exact awaiting
  | _ => cases awaiting

theorem SerialPhase.open_of_entered {phase : SerialPhase} {session : UInt32}
    (entered : phase.entered = some session) : phase.open = some session := by
  cases phase with
  | connecting | inactive | handshake => cases entered
  | _ => exact entered

/-- While something is under way the serial task waits for it, and nothing else is. -/
theorem CdcView.Orderly.awaits (orderly : view.Orderly) (active : view.active = true)
    (some : 0 < view.outstanding) :
    view.serial.awaiting = Option.some view.session ∧ view.outstanding = 1 := by
  have count := orderly.outstanding active
  split at count
  next awaiting => exact ⟨awaiting, count⟩
  · omega

theorem CdcView.Orderly.seen_of_outstanding (orderly : view.Orderly) (active : view.active = true)
    (some : 0 < view.outstanding) : view.seen = view.session :=
  orderly.entered active (SerialPhase.entered_of_awaiting (orderly.awaits active some).1)

/-- A request of the live session is all that is under way. -/
theorem CdcView.Orderly.alone (orderly : view.Orderly) {request : Request}
    (member : request ∈ view.held) {epoch : UInt32} (source : request.source = .cdc epoch)
    (live : view.Live epoch) : view.seen = epoch ∧ view.replies = [] := by
  obtain ⟨active, rfl⟩ := live
  have counted : 0 < view.held.countP (fun request => request.source = .cdc view.session) :=
    List.countP_pos_iff.mpr ⟨request, member, decide_eq_true source⟩
  have outstanding := (orderly.awaits active (by rw [CdcView.outstanding]; omega)).2
  rw [CdcView.outstanding] at outstanding
  refine ⟨orderly.seen_of_outstanding active (by rw [CdcView.outstanding]; omega), ?_⟩
  exact List.eq_nil_of_length_eq_zero (by omega)

/-! ### The UART tasks and the worker -/

/-- An event that is none of the hand-over's. -/
theorem CdcView.Orderly.note (orderly : view.Orderly) {event : Event} (plain : event.Plain) :
    CdcView.Orderly { view with log := event :: view.log } where
  numbered := { orderly.numbered with
    maintained := fun session member =>
      orderly.numbered.maintained session ((maintained_mem_plain plain).mp member) }
  replies := orderly.replies
  outstanding := orderly.outstanding
  entered := orderly.entered
  signalled := orderly.signalled
  handed active seen := (maintained_mem_plain plain).mpr (orderly.handed active seen)
  kept member := orderly.kept ((maintained_mem_plain plain).mp member)
  handedOver := handedOver_plain plain orderly.handedOver

/-- A request that starts, if it may. -/
theorem CdcView.Orderly.start (orderly : view.Orderly) {request : Request} {damages : Nat}
    (handedOver : HandedOver
      (.started request ⟨view.active, view.sessions, damages⟩ :: view.log)) :
    CdcView.Orderly { view with
      log := .started request ⟨view.active, view.sessions, damages⟩ :: view.log } where
  numbered := { orderly.numbered with
    maintained := fun session member =>
      orderly.numbered.maintained session ((List.mem_cons.mp member).resolve_left nofun) }
  replies := orderly.replies
  outstanding := orderly.outstanding
  entered := orderly.entered
  signalled := orderly.signalled
  handed active seen := List.mem_cons_of_mem _ (orderly.handed active seen)
  kept member := orderly.kept ((List.mem_cons.mp member).resolve_left nofun)
  handedOver := handedOver

/-- Other requests are held, as many of them of a session that is active. -/
theorem CdcView.Orderly.hold (orderly : view.Orderly) {requests : List Request}
    {serving : Option Request}
    (held : ∀ request ∈ serving.toList ++ requests, ∀ epoch, request.source = .cdc epoch →
      epoch.toNat ≤ view.sessions)
    (count : view.active = true →
      (serving.toList ++ requests).countP (fun request => request.source = .cdc view.session) =
        view.held.countP (fun request => request.source = .cdc view.session)) :
    CdcView.Orderly { view with requests, serving } where
  numbered := { orderly.numbered with held }
  replies := orderly.replies
  outstanding active :=
    (congrArg (· + view.replies.length) (count active)).trans (orderly.outstanding active)
  entered := orderly.entered
  signalled := orderly.signalled
  handed := orderly.handed
  kept := orderly.kept
  handedOver := orderly.handedOver

theorem CdcView.Listen.orderly (listen : view.Listen after) (orderly : view.Orderly) :
    after.Orderly := by
  cases listen with
  | note event plain => exact orderly.note plain
  | queue request uart =>
      have foreign (epoch : UInt32) : request.source ≠ .cdc epoch := by
        intro source
        rw [source] at uart
        cases uart
      refine orderly.hold ?_ fun _ => ?_
      · intro other member epoch source
        rw [← List.append_assoc, List.mem_append, List.mem_singleton] at member
        rcases member with member | rfl
        · exact orderly.numbered.held other member epoch source
        · exact absurd source (foreign epoch)
      · rw [← List.append_assoc, List.countP_append]
        simp [foreign, CdcView.held]

/-- The worker drops a request that is not live, or takes a UART request. -/
theorem CdcView.Orderly.dequeue (orderly : view.Orderly) {request : Request} {rest : List Request}
    (queue : view.requests = request :: rest)
    (foreign : view.active = true → request.source ≠ .cdc view.session) :
    CdcView.Orderly { view with requests := rest } := by
  refine orderly.hold ?_ fun active => ?_
  · intro other member
    refine orderly.numbered.held other ?_
    rw [CdcView.held, queue]
    rcases List.mem_append.mp member with member | member
    · exact List.mem_append_left _ member
    · exact List.mem_append_right _ (List.mem_cons_of_mem _ member)
  · rw [CdcView.held, queue, List.countP_append, List.countP_append, List.countP_cons_of_neg]
    simpa using foreign active

theorem CdcView.Change.orderly (change : view.Change after) (orderly : view.Orderly) :
    after.Orderly := by
  cases change with
  | note event plain => exact orderly.note plain
  | overlook inactive =>
      have never {p : Prop} (active : view.active = true) : p :=
        absurd (inactive.symm.trans active) Bool.false_ne_true
      exact { orderly with
        numbered := { orderly.numbered with seen := Nat.le_of_eq orderly.numbered.session }
        entered := fun active => never active
        signalled := fun active => never active
        handed := fun active => never active }
  | handOver active =>
      exact {
        numbered := { orderly.numbered with
          seen := Nat.le_of_eq orderly.numbered.session
          ready := fun session ready =>
            Option.some.inj ready ▸ Nat.le_of_eq orderly.numbered.session
          maintained := by
            intro session member
            rcases List.mem_cons.mp member with same | member
            · obtain rfl : session = view.session := Event.maintained.inj same
              exact Nat.le_of_eq orderly.numbered.session
            · exact orderly.numbered.maintained session member }
        replies := orderly.replies
        outstanding := orderly.outstanding
        entered := fun _ _ => rfl
        signalled := fun _ _ => rfl
        handed := fun _ _ => List.mem_cons_self
        kept := fun _ => active
        handedOver := orderly.handedOver }
  | takeUart queue uart =>
      refine orderly.dequeue queue fun _ source => ?_
      rw [source] at uart
      cases uart
  | startUart request uart inactive =>
      refine orderly.start ⟨?_, ?_, orderly.handedOver⟩
      · intro session source
        rw [source] at uart
        cases uart
      · intro _ session member
        refine Nat.lt_of_le_of_ne (orderly.numbered.maintained session member) fun current => ?_
        obtain rfl : session = view.session :=
          UInt32.toNat.inj (current.trans orderly.numbered.session.symm)
        exact Bool.false_ne_true (inactive.symm.trans (orderly.kept member))
  | @drop request _ _ queue source stale =>
      refine orderly.dequeue queue fun active own => stale ?_
      obtain rfl : view.session = _ := Source.cdc.inj (own.symm.trans source)
      have member : request ∈ view.held := by
        rw [CdcView.held, queue]
        exact List.mem_append_right _ List.mem_cons_self
      exact ⟨⟨active, rfl⟩, (orderly.alone member source ⟨active, rfl⟩).1⟩
  | @serve request rest _ queue source idle =>
      have same : view.held = request :: rest := by rw [CdcView.held, idle, queue]; rfl
      refine orderly.hold ?_ fun _ => ?_
      · have held := orderly.numbered.held
        rw [same] at held
        exact held
      · rw [same]
        rfl
  | startCdc request source live seen =>
      obtain ⟨active, rfl⟩ := live
      refine orderly.start ⟨?_, ?_, orderly.handedOver⟩
      · intro session own
        obtain rfl : session = view.session := Source.cdc.inj (own.symm.trans source)
        exact ⟨active, orderly.numbered.session.symm, orderly.handed active seen⟩
      · intro uart
        rw [source] at uart
        cases uart
  | @reply request _ serving source live room bytes =>
      obtain ⟨active, rfl⟩ := live
      have held : view.held = request :: view.requests := by rw [CdcView.held, serving]; rfl
      have numbered : ∀ other ∈ view.requests, ∀ epoch, other.source = .cdc epoch →
          epoch.toNat ≤ view.sessions :=
        fun other member => orderly.numbered.held other (held ▸ List.mem_cons_of_mem _ member)
      exact { orderly with
        numbered := { orderly.numbered with held := numbered }
        replies := by
          intro reply member
          rcases List.mem_append.mp member with member | member
          · exact orderly.replies reply member
          · obtain rfl := List.mem_singleton.mp member
            exact ⟨active, source⟩
        outstanding := by
          intro _
          rw [← orderly.outstanding active, CdcView.outstanding, CdcView.outstanding, held]
          simp [CdcView.held, source]
          omega }
  | @withhold request epoch serving source refused =>
      have held : view.held = request :: view.requests := by rw [CdcView.held, serving]; rfl
      refine orderly.hold ?_ fun active => ?_
      · exact fun other member => orderly.numbered.held other
          (held ▸ List.mem_cons_of_mem _ member)
      · have foreign : request.source ≠ .cdc view.session := by
          intro own
          obtain rfl : view.session = epoch := Source.cdc.inj (own.symm.trans source)
          have member : request ∈ view.held := held ▸ List.mem_cons_self
          have empty := (orderly.alone member source ⟨active, rfl⟩).2
          exact refused ⟨⟨active, rfl⟩, by rw [empty]; decide⟩
        rw [held, List.countP_cons_of_neg (by simpa using foreign)]
        rfl

/-! ### USB and the control task -/

/-- The number of the next session, before the numbers wrap. -/
theorem CdcView.Numbered.next (numbered : view.Numbered) (fits : view.sessions + 1 < 2 ^ 32) :
    (view.session + 1).toNat = view.sessions + 1 := by
  have session := numbered.session
  rw [UInt32.toNat_add, session, UInt32.toNat_one]
  exact Nat.mod_eq_of_lt fits

/-- The next session's number is a new one. -/
theorem CdcView.Numbered.fresh (numbered : view.Numbered) (fits : view.sessions + 1 < 2 ^ 32)
    {session : UInt32} (known : session.toNat ≤ view.sessions) : session ≠ view.session + 1 := by
  rintro rfl
  have next := numbered.next fits
  omega

/-- The serial task does not wait for a reply to the next session. -/
theorem CdcView.Numbered.unawaited (numbered : view.Numbered) (fits : view.sessions + 1 < 2 ^ 32) :
    view.serial.awaiting ≠ some (view.session + 1) := by
  intro awaiting
  have known := numbered.serial _
    (SerialPhase.open_of_entered (SerialPhase.entered_of_awaiting awaiting))
  exact numbered.fresh fits known rfl

/-- The number of the next session bounds what the last one bounds. -/
theorem CdcView.Numbered.renumbered (numbered : view.Numbered) (fits : view.sessions + 1 < 2 ^ 32)
    (active : Bool) (replies : List Reply) {log : List Event}
    (noted : ∀ session, .maintained session ∈ log → .maintained session ∈ view.log) :
    CdcView.Numbered { view with
      active, session := view.session + 1, sessions := view.sessions + 1, replies, log } := by
  have later {number : Nat} (known : number ≤ view.sessions) : number ≤ view.sessions + 1 :=
    Nat.le_succ_of_le known
  exact {
    session := numbered.next fits
    seen := later numbered.seen
    ready := fun session ready => later (numbered.ready session ready)
    serial := fun session open_ => later (numbered.serial session open_)
    held := fun request member epoch source => later (numbered.held request member epoch source)
    maintained := fun session member => later (numbered.maintained session (noted session member)) }

theorem CdcView.Renumber.orderly (renumber : view.Renumber after) (orderly : view.Orderly)
    (fits : after.sessions < 2 ^ 32) : after.Orderly := by
  have numbered := orderly.numbered
  cases renumber with
  | same => exact orderly
  | lose =>
      exact {
        numbered := numbered.renumbered fits false [] fun _ => id
        replies := nofun
        outstanding := nofun
        entered := nofun
        signalled := nofun
        handed := nofun
        kept := fun member => absurd rfl (numbered.fresh fits (numbered.maintained _ member))
        handedOver := orderly.handedOver }
  | activate inactive =>
      have fresh {session : UInt32} (known : session.toNat ≤ view.sessions) :=
        numbered.fresh fits known
      have empty : view.replies = [] := by
        refine List.eq_nil_iff_forall_not_mem.mpr fun reply member => ?_
        exact Bool.false_ne_true (inactive.symm.trans (orderly.replies reply member).1)
      have unheld :
          view.held.countP (fun request => request.source = .cdc (view.session + 1)) = 0 := by
        refine List.countP_eq_zero.mpr fun request member => ?_
        rw [decide_eq_true_iff]
        exact fun source => fresh (numbered.held request member _ source) rfl
      exact {
        numbered := numbered.renumbered fits true view.replies fun session member =>
          (List.mem_cons.mp member).resolve_left nofun
        replies := by
          intro reply member
          rw [show _ = _ from empty] at member
          cases member
        outstanding := fun _ => by
          rw [if_neg (numbered.unawaited fits), CdcView.outstanding]
          exact (congrArg₂ (· + ·) unheld (congrArg List.length empty))
        entered := fun _ entered =>
          absurd rfl (fresh (numbered.serial _ (SerialPhase.open_of_entered entered)))
        signalled := fun _ ready => absurd rfl (fresh (numbered.ready _ ready))
        handed := fun _ seen => absurd seen (fresh numbered.seen)
        kept := fun _ => rfl
        handedOver := orderly.handedOver }

/-! ### The serial task -/

/-- The serial task moves on, waiting for no reply of a session that is active. -/
theorem CdcView.Orderly.advance (orderly : view.Orderly) {serial : SerialPhase}
    {ready : Option UInt32} {log : List Event}
    (quiet : view.active = true → view.serial.awaiting ≠ some view.session)
    (still : serial.awaiting = none)
    (open_ : ∀ session, serial.open = some session → session.toNat ≤ view.sessions)
    (entered : view.active = true → serial.entered = some view.session → view.seen = view.session)
    (signalled : ∀ session, ready = some session → view.ready = some session)
    (noted : Noted view.log log) : CdcView.Orderly { view with serial, ready, log } := by
  have moved : CdcView.Orderly { view with serial, ready } := { orderly with
    numbered := { orderly.numbered with
      ready := fun session own => orderly.numbered.ready session (signalled session own)
      serial := open_ }
    outstanding := fun active => by
      have none' := (orderly.outstanding active).trans (if_neg (quiet active))
      rw [if_neg (by rw [still]; exact nofun)]
      exact none'
    entered
    signalled := fun active own => orderly.signalled active (signalled _ own) }
  cases noted with
  | nothing => exact moved
  | toHost => exact moved.note trivial

/-- No reply is posted while the serial task waits for none. -/
theorem CdcView.Orderly.empty (orderly : view.Orderly)
    (quiet : view.active = true → view.serial.awaiting ≠ some view.session) :
    view.replies = [] := by
  refine List.eq_nil_iff_forall_not_mem.mpr fun reply member => ?_
  have active := (orderly.replies reply member).1
  have none' := (orderly.outstanding active).trans (if_neg (quiet active))
  have some' := List.length_pos_of_mem member
  rw [CdcView.outstanding] at none'
  omega

/-- The session is closed. -/
theorem CdcView.Orderly.close (orderly : view.Orderly)
    (quiet : view.active = true → view.serial.awaiting ≠ some view.session) :
    CdcView.Orderly { view with serial := .connecting, replies := [] } := by
  have closed : CdcView.Orderly { view with serial := .connecting } :=
    orderly.advance quiet rfl nofun nofun (fun _ own => own) .nothing
  rw [← orderly.empty quiet]
  exact closed

/-- The reply that the serial task takes is the current session's. -/
theorem CdcView.Orderly.own_reply (orderly : view.Orderly) {session : UInt32} {rest : List UInt8}
    (answering : view.serial = .answering session rest) {reply : Reply}
    (member : reply ∈ view.replies) :
    view.active = true ∧ session = view.session ∧ reply.source = .cdc session := by
  obtain ⟨active, source⟩ := orderly.replies reply member
  have some' := List.length_pos_of_mem member
  have awaiting := (orderly.awaits active (by rw [CdcView.outstanding]; omega)).1
  rw [answering] at awaiting
  obtain rfl : session = view.session := Option.some.inj awaiting
  exact ⟨active, rfl, source⟩

theorem CdcView.Serial.orderly {input : SerialInput} (serial : view.Serial input after)
    (orderly : view.Orderly) : after.Orderly := by
  have numbered := orderly.numbered
  cases serial with
  | same => exact orderly
  | connect waiting =>
      exact orderly.advance (by rw [waiting]; exact nofun) rfl nofun nofun (fun _ own => own)
        .nothing
  | opens waiting =>
      refine orderly.advance (by rw [waiting]; exact nofun) rfl ?_ nofun (fun _ own => own) .nothing
      rintro session ⟨⟩
      exact Nat.le_of_eq numbered.session
  | @cancel session open_ cancels =>
      refine orderly.close fun active awaiting => cancels.2 ⟨active, ?_⟩
      have current := SerialPhase.open_of_entered (SerialPhase.entered_of_awaiting awaiting)
      exact Option.some.inj (current.symm.trans open_)
  | @ready session log waiting ready noted =>
      refine orderly.advance (by rw [waiting]; exact nofun) rfl ?_ ?_ nofun noted
      · rintro _ ⟨⟩
        exact numbered.ready session ready
      · rintro active ⟨⟩
        exact orderly.signalled active ready
  | other waiting =>
      exact orderly.advance (by rw [waiting]; exact nofun) (by rw [waiting]; rfl) numbered.serial
        orderly.entered nofun .nothing
  | fail reading => exact orderly.close (by rw [reading]; exact nofun)
  | @move session serial _ entered quiet stays still noted =>
      refine orderly.advance (by rw [quiet]; exact nofun) still ?_ ?_ (fun _ own => own) noted
      · intro other open_
        obtain rfl : session = other :=
          Option.some.inj ((SerialPhase.open_of_entered stays).symm.trans open_)
        exact numbered.serial session (SerialPhase.open_of_entered entered)
      · intro active own
        exact orderly.entered active (entered.trans (stays.symm.trans own))
  | @send session line rest requesting room =>
      have open_ : view.serial.open = some session := by rw [requesting]; rfl
      have quiet : view.serial.awaiting = none := by rw [requesting]; rfl
      have entered : view.serial.entered = some session := by rw [requesting]; rfl
      exact { orderly with
        numbered := { numbered with
          serial := by
            rintro _ ⟨⟩
            exact numbered.serial session open_
          held := by
            intro request member epoch source
            rw [CdcView.held, ← List.append_assoc, List.mem_append, List.mem_singleton] at member
            rcases member with member | rfl
            · exact numbered.held request member epoch source
            · cases source
              exact numbered.serial session open_ }
        outstanding := by
          intro active
          have none' := (orderly.outstanding active).trans (if_neg (by rw [quiet]; exact nofun))
          rw [CdcView.outstanding, CdcView.held] at none' ⊢
          rw [← List.append_assoc, List.countP_append, List.countP_singleton]
          simp only [SerialPhase.awaiting, Option.some.injEq, Source.cdc.injEq, decide_eq_true_eq]
          omega
        entered := fun active own => orderly.entered active (entered.trans own) }
  | @receive session rest reply replies answering queue own =>
      have member : reply ∈ view.replies := queue ▸ List.mem_cons_self
      obtain ⟨active, rfl, -⟩ := orderly.own_reply answering member
      have entered : view.serial.entered = some view.session := by rw [answering]; rfl
      have open_ : view.serial.open = some view.session := by rw [answering]; rfl
      have received :
          CdcView.Orderly { view with serial := .scanning view.session rest, replies } := {
        orderly with
        numbered := { numbered with
          serial := by
            rintro _ ⟨⟩
            exact numbered.serial _ open_ }
        replies := fun other member => orderly.replies other (queue ▸ List.mem_cons_of_mem _ member)
        outstanding := by
          intro _
          have one := (orderly.awaits active (by
            rw [CdcView.outstanding, queue, List.length_cons]; omega)).2
          rw [CdcView.outstanding, queue, List.length_cons] at one
          rw [if_neg nofun, CdcView.outstanding]
          exact Nat.succ.inj one
        entered := fun _ _ => orderly.entered active entered }
      exact received.note trivial
  | skip answering queue foreign =>
      exact absurd (orderly.own_reply answering (queue ▸ List.mem_cons_self)).2.2 foreign

end Invariant

end NrfUnifying.Tasks
