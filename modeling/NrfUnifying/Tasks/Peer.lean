import NrfUnifying.Lib.Framing
import NrfUnifying.Radio.Unmarked
import NrfUnifying.Tasks.Rounds
import NrfUnifying.Tasks.Wire
import NrfUnifying.Uart.RoundTrip

/-!
# What a peer reads from the UART

A frame may be written in part only, and the next one follows. A peer that takes
exactly the lines which are marked at their start, and nowhere else, still reads
nothing but whole replies, in the order of their requests; a failed write costs
it at most two of them.
-/

namespace NrfUnifying.Tasks

open Lib.Bytes Lib.Framing Radio Storage UartLink Updater UartOta

/-! ## Replies without marks -/

/-- No reply on its way contains an at sign. -/
def View.Spoken (view : View) : Prop := ∀ reply ∈ view.pipeline.replies, Unmarked reply.bytes

def Phase.Spoken : Phase → Prop
  | .sending reply => Unmarked reply.bytes
  | .starting | .selecting | .executing _ | .stopped => True

/-- What other tasks leave of the replies. -/
structure View.Spares (before after : View) : Prop where
  said : after.pipeline.replies = before.pipeline.replies
  delivered : delivered after.log = delivered before.log
  transmitter : after.transmitter = before.transmitter

section View

variable {before middle after : View}

theorem View.Spares.refl (view : View) : view.Spares view := ⟨rfl, rfl, rfl⟩

theorem View.Spares.trans (first : before.Spares middle) (second : middle.Spares after) :
    before.Spares after where
  said := second.said.trans first.said
  delivered := second.delivered.trans first.delivered
  transmitter := second.transmitter.trans first.transmitter

theorem View.Change.spares (change : before.Change after) : before.Spares after := by
  cases change with
  | note event quiet =>
      have kept : Tasks.delivered (event :: before.log) = Tasks.delivered before.log := by
        cases event with
        | activated | toHost => rfl
        | _ => exact quiet.elim
      refine ⟨?_, kept, rfl⟩
      change Tasks.delivered (event :: before.log) ++ _ ++ _ = _
      rw [kept]
      rfl
  | request | frame | overflow | damage => exact ⟨rfl, rfl, rfl⟩

theorem View.Changes.spares (changes : before.Changes after) : before.Spares after := by
  induction changes with
  | refl => exact .refl before
  | tail _ change ih => exact ih.trans change.spares

theorem View.Transmit.said {writing : Writing} (transmit : before.Transmit writing after) :
    after.pipeline.replies = before.pipeline.replies := by
  cases transmit with
  | idle | pending => rfl
  | @take reply rest waiting replies transmitter =>
      change (Tasks.delivered before.log ++ [reply]) ++ rest ++ _ =
        Tasks.delivered before.log ++ before.replies ++ _
      rw [replies, List.append_assoc (Tasks.delivered before.log), List.singleton_append]
      rfl
  | written busy changes => exact changes.spares.said

/-- The worker delivers nothing. -/
theorem View.Work.spares (work : before.Work after) :
    Tasks.delivered after.log = Tasks.delivered before.log ∧
      after.transmitter = before.transmitter := by
  cases work with
  | rest _ ledger | finish _ ledger =>
      exact ⟨congrArg Ledger.delivered ledger, congrArg Ledger.transmitter ledger⟩
  | drop _ _ _ _ _ ledger | take _ _ ledger | send _ _ ledger =>
      exact ⟨congrArg Ledger.delivered ledger, congrArg Ledger.transmitter ledger⟩
  | blocked _ _ same => exact same ▸ ⟨rfl, rfl⟩

/-- What is on its way after a step of the worker was so before, or the worker is about to send
it. -/
theorem View.Work.said (work : before.Work after) {reply : Reply}
    (member : reply ∈ after.pipeline.replies) :
    reply ∈ before.pipeline.replies ∨ after.phase = .sending reply := by
  have replying {phase : Phase} (inside : reply ∈ phase.slot.replies) :
      phase = .sending reply := by
    cases phase with
    | executing request =>
        rw [Phase.slot] at inside
        split at inside <;> cases inside
    | sending other => rw [List.mem_singleton.mp inside]
    | starting | selecting | stopped => cases inside
  have ahead (ledger : after.ledger.delivered ++ after.ledger.replies =
      before.ledger.delivered ++ before.ledger.replies) :
      reply ∈ before.pipeline.replies ∨ after.phase = .sending reply := by
    change reply ∈ after.ledger.delivered ++ after.ledger.replies ++ _ at member
    rw [ledger] at member
    rcases List.mem_append.mp member with old | new
    · exact .inl (List.mem_append_left _ old)
    · exact .inr (replying new)
  cases work with
  | rest _ ledger | drop _ _ _ _ _ ledger | take _ _ ledger | finish _ ledger =>
      apply ahead
      rw [ledger]
  | @send sent sending room ledger phase =>
      refine .inl ?_
      have start : before.pipeline.replies =
          before.ledger.delivered ++ before.ledger.replies ++ [sent] := by
        change _ ++ before.phase.slot.replies = _
        rw [sending]
        rfl
      change reply ∈ after.ledger.delivered ++ after.ledger.replies ++ after.phase.slot.replies
        at member
      rw [ledger, phase] at member
      rw [start, List.append_assoc]
      exact (List.append_nil _).subst (motive := (reply ∈ ·)) member
  | blocked _ _ same => exact .inl (same ▸ member)

end View

section Replies

variable {W F I : Type}

theorem unmarked_answer (answer : Answer) : Unmarked answer.text := by
  cases answer with
  | info booted => cases booted <;> decide
  | handled reply => cases reply <;> decide

theorem unmarked_refusal (fault : CommandError) : Unmarked (refusal fault) := by
  cases fault <;> decide

/-- At every stage the reply that the worker has ready is without a mark. -/
def Stage.Spoken (stage : Stage) (system : System W F I) : Prop :=
  match stage with
  | .awaits | .rests => system.worker.phase.Spoken
  | .answers _ bytes => Unmarked bytes
  | _ => True

section Worker

variable [Board W] [RustUnifying W] [FirmwareUpdater F I]

theorem Worker.Move.spoken {buildTime : Nat} {clock : Clock} {stage next : Stage}
    {before after : System W F I} (move : Worker.Move buildTime clock stage before next after)
    (kept : stage.Spoken before) : next.Spoken after := by
  have busy : Unmarked errBusy := by decide
  cases move with
  | finish _ handled => exact handleUnifyingCommand_unmarked handled List.not_mem_nil
  | refuseUart | uploading | busy => exact busy
  | update => exact unmarked_answer _
  | wrong => exact unmarked_refusal _
  | wait | replyUart => exact kept
  | _ => trivial

/-- What the worker is about to send has no at sign. -/
theorem System.workerFut_spoken (system : System W F I) (buildTime : Nat) (clock : Clock)
    (spoken : system.worker.phase.Spoken) :
    (system.workerFut buildTime clock).worker.phase.Spoken :=
  system.workerFut_keeps buildTime clock (motive := Stage.Spoken) spoken
    fun move kept => move.spoken kept

end Worker

variable {system : System W F I}

theorem System.phase_spoken (spoken : system.view.Spoken) : system.worker.phase.Spoken := by
  cases phase : system.worker.phase with
  | sending reply =>
      refine spoken reply (List.mem_append_right _ ?_)
      change reply ∈ system.worker.phase.slot.replies
      rw [phase]
      exact List.mem_singleton_self reply
  | starting | selecting | executing | stopped => exact trivial

theorem System.spoken_step [Board W] [RustUnifying W] [FirmwareUpdater F I] {buildTime : Nat}
    (word : buildTime < 2 ^ 64)
    (served : system.view.Served) (spoken : system.view.Spoken) (action : Action) :
    (system.step buildTime action).view.Spoken := by
  have aside (other : action.IsOther) : (system.step buildTime action).view.Spoken := by
    intro reply member
    rw [(System.step_changes system buildTime other).spares.said] at member
    exact spoken reply member
  cases action with
  | work clock =>
      intro reply member
      rcases (System.work_of_served served word clock).said member with old | phase
      · exact spoken reply old
      · have ready := system.workerFut_spoken buildTime clock (System.phase_spoken spoken)
        change (system.workerFut buildTime clock).worker.phase = .sending reply at phase
        rw [phase] at ready
        exact ready
  | transmit writing =>
      intro reply member
      refine spoken reply ?_
      rwa [← (system.uartTxFut_transmit writing).said]
  | usb | control | receive | serial => exact aside trivial

end Replies

/-! ## Frames -/

/-- What a peer reads of a reply, between its mark and the end of the line. -/
def Reply.line (reply : Reply) : List UInt8 :=
  match reply.source with
  | .cdc _ => []
  | .uart number _ _ => numberDigits number ++ 0x20 :: reply.bytes.dropLast

/-- The first `sent` bytes of its frame. -/
def Reply.piece (reply : Reply) (sent : Nat) : Piece UInt8 := ⟨reply.line, sent⟩

/-- The mark in front of a numbered line, and its end. -/
def mark : UInt8 := 0x40
def lineEnd : UInt8 := 0x0A

section Frames

variable {reply : Reply} {request : Request}

theorem isLine_split {bytes : List UInt8} (line : IsLine bytes) :
    bytes.dropLast = bytes.take (bytes.length - 2) ++ [0x0D] ∧
      bytes = bytes.dropLast ++ [lineEnd] := by
  have whole : bytes = bytes.take (bytes.length - 2) ++ [0x0D] ++ [lineEnd] := by
    have parts := List.take_append_drop (bytes.length - 2) bytes
    rw [line.ends] at parts
    rw [List.append_assoc]
    exact parts.symm
  have start : bytes.dropLast = bytes.take (bytes.length - 2) ++ [0x0D] := by
    generalize bytes.take (bytes.length - 2) = text at whole ⊢
    rw [whole, List.dropLast_concat]
  rw [start]
  exact ⟨rfl, whole⟩

/-- A reply to a UART request is written as one frame. -/
theorem Answers.frame_eq (answers : Answers reply request) (framed : request.Framed) :
    reply.frame = frame mark lineEnd reply.line := by
  obtain ⟨number, session, source⟩ := framed.source
  rw [← answers.source] at source
  have encodes := answers.encodes _ _ _ source
  unfold Reply.frame Reply.line
  rw [source]
  dsimp only
  unfold encodeReply at encodes ⊢
  split at encodes
  · cases encodes
  next room =>
    rw [if_neg room]
    dsimp only
    change (replyBytes number reply.bytes ++ _).take (reply.bytes.length + 10) = _
    rw [List.take_left' (replyBytes_length number reply.bytes), Lib.Framing.frame,
      List.append_assoc, List.cons_append]
    exact congrArg (fun body => mark :: (numberDigits number ++ 0x20 :: body))
      (isLine_split answers.line).2

theorem Answers.line_plain (answers : Answers reply request) (framed : request.Framed)
    (unmarked : Unmarked reply.bytes) (sent : Nat) :
    (reply.piece sent).Plain mark lineEnd := by
  obtain ⟨number, session, source⟩ := framed.source
  rw [← answers.source] at source
  have digits := numberDigits_upper number
  obtain ⟨start, whole⟩ := isLine_split answers.line
  have line : reply.line = numberDigits number ++ 0x20 :: reply.bytes.dropLast := by
    rw [Reply.line, source]
  constructor
  · change mark ∉ reply.line
    rw [line, List.mem_append, List.mem_cons]
    rintro (digit | space | text)
    · exact absurd (digits _ digit) (by decide)
    · exact absurd space (by decide)
    · exact unmarked (List.dropLast_subset _ text)
  · change lineEnd ∉ reply.line
    rw [line, start, List.mem_append, List.mem_cons, List.mem_append]
    rintro (digit | space | text | cr)
    · exact absurd (digits _ digit) (by decide)
    · exact absurd space (by decide)
    · exact (answers.line.noBreak _ text).2 rfl
    · exact absurd cr (by decide)

end Frames

/-! ## What is on the wire -/

section Wire

variable {W F I : Type}

/-- The step is a write of a frame that fails. -/
def Wired.fails (wired : Wired W F I) : WiredAction → Bool
  | .transmit .failed => wired.system.transmitter != .waiting
  | _ => false

/-- The wire carries these pieces: one for each reply that was taken, and each cut is a failed
write; the last piece may still grow. -/
inductive Wired.Carries (wired : Wired W F I) (failed : Nat) : List (Piece UInt8) → Prop where
  | waiting {pieces : List (Piece UInt8)} (idle : wired.system.transmitter = .waiting)
      (wire : wired.wire = pieces.flatMap (Piece.stream mark lineEnd))
      (bodies : pieces.map Piece.body = (delivered wired.system.record.log).map Reply.line)
      (cut : cuts pieces ≤ failed) : Carries wired failed pieces
  | writing {front : List (Piece UInt8)} {reply : Reply}
      (busy : wired.system.transmitter = .writing reply)
      (current : reply ∈ delivered wired.system.record.log)
      (wire : wired.wire =
        (front ++ [reply.piece wired.sent]).flatMap (Piece.stream mark lineEnd))
      (bodies : (front ++ [reply.piece wired.sent]).map Piece.body =
        (delivered wired.system.record.log).map Reply.line)
      (cut : cuts front ≤ failed) :
      Carries wired failed (front ++ [reply.piece wired.sent])

section Pieces

variable {wired : Wired W F I} {failed : Nat} {pieces : List (Piece UInt8)}

theorem Wired.Carries.bodies (carries : wired.Carries failed pieces) :
    pieces.map Piece.body = (delivered wired.system.record.log).map Reply.line := by
  cases carries with
  | waiting _ _ bodies | writing _ _ _ bodies => exact bodies

theorem Wired.Carries.wire (carries : wired.Carries failed pieces) :
    wired.wire = pieces.flatMap (Piece.stream mark lineEnd) := by
  cases carries with
  | waiting _ wire | writing _ _ wire => exact wire

/-- Two replies are lost for each failed write at most, and the one that is being written. -/
theorem Wired.Carries.length_le (carries : wired.Carries failed pieces) :
    pieces.length ≤ (survivors true pieces).length + 2 * failed +
      wired.system.transmitter.load := by
  cases carries with
  | waiting idle _ _ cut =>
      have most := length_le_survivors true pieces
      rw [if_pos rfl] at most
      omega
  | @writing front reply busy _ _ _ cut =>
      have most := length_le_survivors true front
      have more := survivors_le_append true front [reply.piece wired.sent]
      rw [if_pos rfl] at most
      rw [busy, List.length_append, List.length_singleton]
      change _ ≤ _ + 1
      omega

/-- Steps that leave the transmit task alone leave its pieces alone. -/
theorem Wired.Carries.keep {after : Wired W F I} (carries : wired.Carries failed pieces)
    (wire : after.wire = wired.wire) (sent : after.sent = wired.sent)
    (delivered' : delivered after.system.record.log = delivered wired.system.record.log)
    (transmitter : after.system.transmitter = wired.system.transmitter) :
    after.Carries failed pieces := by
  cases carries with
  | waiting idle wire' bodies cut =>
      refine .waiting (transmitter.trans idle) (wire.trans wire') ?_ cut
      rw [delivered']
      exact bodies
  | writing busy current wire' bodies cut =>
      rw [← sent] at wire' bodies ⊢
      rw [← delivered'] at current bodies
      exact .writing (transmitter.trans busy) current (wire.trans wire') bodies cut

/-- Every reply that was taken answers a request. -/
theorem View.Served.taken {view : View} (served : view.Served) {reply : Reply}
    (taken : reply ∈ view.pipeline.replies) :
    ∃ request, request.Framed ∧ Answers reply request := by
  obtain ⟨answered, replied, order, -⟩ := served.exact.answered
  obtain ⟨index, bound, rfl⟩ := List.getElem_of_mem taken
  have inside : index < answered.length := by rwa [← replied.length_eq]
  refine ⟨answered[index], served.exact.valid _ ?_, replied.get bound inside⟩
  exact served.exact.entered.subset
    (order.subset (List.mem_append_left _ (List.getElem_mem inside)))

/-- The transmit task takes a reply and starts its frame. -/
theorem Wired.Carries.take (carries : wired.Carries failed pieces)
    (served : wired.system.view.Served) (idle : wired.system.transmitter = .waiting)
    (write : UartWrite) : ∃ later, (wired.transmit write).Carries failed later := by
  unfold Wired.transmit
  rw [idle]
  dsimp only
  cases carries with
  | writing busy => rw [idle] at busy; cases busy
  | waiting _ wire bodies cut =>
      cases replies : wired.system.shared.uartReplies with
      | nil =>
          refine ⟨pieces, ?_⟩
          unfold System.uartTxFut
          rw [idle, replies]
          exact .waiting idle wire bodies cut
      | cons reply rest =>
          have queued : reply ∈ wired.system.view.pipeline.replies := by
            refine List.mem_append_left _ (List.mem_append_right _ ?_)
            change reply ∈ wired.system.shared.uartReplies
            rw [replies]
            exact List.mem_cons_self
          obtain ⟨request, framed, answers⟩ := served.taken queued
          obtain ⟨number, session, source⟩ := framed.source
          rw [← answers.source] at source
          have encodes := answers.encodes _ _ _ source
          unfold System.uartTxFut
          rw [idle, replies]
          dsimp only
          rw [source]
          dsimp only
          rw [if_pos encodes]
          have nothing : (reply.piece 0).stream mark lineEnd = [] := List.take_zero
          refine ⟨_, .writing rfl ?_ ?_ ?_ cut⟩
          · exact List.mem_append_right _ (List.mem_singleton_self reply)
          · rw [List.flatMap_append, List.flatMap_singleton, nothing, List.append_nil]
            exact wire
          · change _ = (delivered wired.system.record.log ++ [reply]).map Reply.line
            rw [List.map_append, List.map_append, bodies]
            rfl

/-- A write of the transmit task. -/
theorem Wired.Carries.write (carries : wired.Carries failed pieces)
    (served : wired.system.view.Served) {reply : Reply}
    (busy : wired.system.transmitter = .writing reply) (write : UartWrite) :
    ∃ later, (wired.transmit write).Carries
      (failed + if wired.fails (.transmit write) then 1 else 0) later := by
  unfold Wired.transmit
  rw [busy]
  dsimp only
  cases carries with
  | waiting idle => rw [idle] at busy; cases busy
  | @writing front other busy' current wire bodies cut =>
      obtain rfl : other = reply := by
        rw [busy'] at busy
        exact Transmitter.writing.inj busy
      obtain ⟨request, framed, answers⟩ :=
        served.taken (List.mem_append_left _ (List.mem_append_left _ current))
      have frame := answers.frame_eq framed
      cases write with
      | pending => exact ⟨_, .writing busy current wire bodies cut⟩
      | failed =>
          refine ⟨_, .waiting ?_ wire ?_ ?_⟩
          · unfold System.uartTxFut
            rw [busy]
            rfl
          · unfold System.uartTxFut
            rw [busy]
            exact bodies
          · have fails : wired.fails (.transmit .failed) = true := by
              rw [Wired.fails, busy']
              rfl
            rw [cuts_append, fails, if_pos rfl]
            exact Nat.add_le_add cut (cuts_singleton_le _)
      | accepted count =>
          dsimp only
          generalize chunk : (other.frame.drop wired.sent).take count = bytes
          have grown : (other.piece (wired.sent + bytes.length)).stream mark lineEnd =
              (other.piece wired.sent).stream mark lineEnd ++ bytes := by
            rw [frame] at chunk
            exact Piece.stream_grow chunk
          have wire' : wired.wire ++ bytes =
              (front ++ [other.piece (wired.sent + bytes.length)]).flatMap
                (Piece.stream mark lineEnd) := by
            rw [wire, List.flatMap_append, List.flatMap_append, List.flatMap_singleton,
              List.flatMap_singleton, grown, List.append_assoc]
          have bodies' : (front ++ [other.piece (wired.sent + bytes.length)]).map Piece.body =
              (delivered wired.system.record.log).map Reply.line := by
            rw [← bodies, List.map_append, List.map_append]
            rfl
          split
          · exact ⟨_, .writing busy current wire' bodies' cut⟩
          next complete =>
            refine ⟨_, .waiting ?_ wire' ?_ ?_⟩
            · unfold System.uartTxFut
              rw [busy]
            · unfold System.uartTxFut
              rw [busy]
              exact bodies'
            · have whole : (other.piece (wired.sent + bytes.length)).whole = true := by
                rw [frame, Lib.Framing.frame, List.length_cons, List.length_append] at complete
                exact decide_eq_true (Nat.not_lt.mp complete)
              have none' : cuts [other.piece (wired.sent + bytes.length)] = 0 := by
                rw [cuts, List.countP_singleton, whole]
                rfl
              rw [cuts_append, none']
              exact cut

/-- Steps of other tasks. -/
theorem Wired.Carries.aside (carries : wired.Carries failed pieces) {system : System W F I}
    (spares : wired.system.view.Spares system.view) :
    ({ wired with system } : Wired W F I).Carries failed pieces :=
  carries.keep rfl rfl spares.delivered spares.transmitter

end Pieces

section Runs

variable [Board W] [RustUnifying W] [FirmwareUpdater F I] {buildTime : Nat} {wired : Wired W F I}
  {failed : Nat}

theorem Wired.Carries.step {pieces : List (Piece UInt8)} (word : buildTime < 2 ^ 64)
    (carries : wired.Carries failed pieces) (served : wired.system.view.Served)
    (action : WiredAction) :
    ∃ later, (wired.step buildTime action).Carries
      (failed + if wired.fails action then 1 else 0) later := by
  have spares (seen : Action) (other : seen.IsOther) :
      wired.system.view.Spares (wired.system.step buildTime seen).view :=
    (System.step_changes wired.system buildTime other).spares
  cases action with
  | usb event => exact ⟨pieces, carries.aside (spares (.usb event) trivial)⟩
  | control => exact ⟨pieces, carries.aside (spares .control trivial)⟩
  | work clock =>
      obtain ⟨kept, transmitter⟩ := (System.work_of_served served word clock).spares
      exact ⟨pieces, carries.keep rfl rfl kept transmitter⟩
  | receive reading => exact ⟨pieces, carries.aside (spares (.receive reading) trivial)⟩
  | transmit write =>
      cases busy : wired.system.transmitter with
      | writing reply => exact carries.write served busy write
      | waiting =>
          have idle : wired.fails (.transmit write) = false := by
            cases write with
            | failed => rw [Wired.fails, busy]; rfl
            | pending | accepted => rfl
          rw [idle]
          exact carries.take served busy write
  | serial input write =>
      have spares := spares (.serial input) trivial
      refine ⟨pieces, ?_⟩
      rw [Wired.step, Wired.serial]
      split
      · exact carries.keep rfl rfl spares.delivered spares.transmitter
      · split
        · exact carries.keep rfl rfl spares.delivered spares.transmitter
        · split
          all_goals exact carries.keep rfl rfl rfl rfl

/-- What holds between the steps of a run in which so many writes have failed. -/
structure Wired.Tracked (wired : Wired W F I) (failed : Nat) : Prop where
  served : wired.system.view.Served
  spoken : wired.system.view.Spoken
  carries : ∃ pieces, wired.Carries failed pieces

theorem Wired.tracked_boot (world : W) (flash : Nvmc) (dfu : F) :
    (Wired.boot world flash dfu : Wired W F I).Tracked 0 where
  served := System.served_boot world flash dfu
  spoken _ member := absurd member List.not_mem_nil
  carries := ⟨[], .waiting rfl rfl rfl (Nat.le_refl 0)⟩

theorem Wired.Tracked.step (word : buildTime < 2 ^ 64) (tracked : wired.Tracked failed)
    (action : WiredAction) :
    (wired.step buildTime action).Tracked
      (failed + if wired.fails action then 1 else 0) := by
  obtain ⟨pieces, carries⟩ := tracked.carries
  have later := carries.step word tracked.served action
  rcases Wired.shows buildTime wired action with same | ⟨seen, same⟩
  · refine ⟨?_, ?_, later⟩
    · rw [same]
      exact tracked.served
    · rw [same]
      exact tracked.spoken
  · refine ⟨?_, ?_, later⟩
    · rw [same]
      exact System.served_step tracked.served word seen
    · rw [same]
      exact System.spoken_step word tracked.served tracked.spoken seen

/-- How many writes of frames fail in a run. -/
def Wired.failures (buildTime : Nat) : Wired W F I → List WiredAction → Nat
  | _, [] => 0
  | wired, action :: rest =>
      (if wired.fails action then 1 else 0) +
        Wired.failures buildTime (wired.step buildTime action) rest

theorem Wired.Tracked.foldl (word : buildTime < 2 ^ 64) (tracked : wired.Tracked failed)
    (actions : List WiredAction) :
    (actions.foldl (Wired.step buildTime) wired).Tracked
      (failed + wired.failures buildTime actions) := by
  induction actions generalizing wired failed with
  | nil => exact tracked
  | cons action rest ih =>
      have rest := ih (tracked.step word action)
      rwa [Nat.add_assoc] at rest

end Runs

end Wire

/-! ## The property -/

/-- A part of what is matched is matched by a part. -/
theorem forall₂_of_sublist {First Second : Type} {related : First → Second → Prop}
    {chosen all : List First} {others : List Second} (part : chosen.Sublist all)
    (matched : List.Forall₂ related all others) :
    ∃ rest, List.Forall₂ related chosen rest ∧ rest.Sublist others := by
  induction part generalizing others with
  | slnil => exact ⟨others, matched, .refl _⟩
  | cons item _ ih =>
      cases matched with
      | cons _ matched =>
          obtain ⟨rest, pairs, fewer⟩ := ih matched
          exact ⟨rest, pairs, fewer.cons _⟩
  | cons_cons item _ ih =>
      cases matched with
      | cons pair matched =>
          obtain ⟨rest, pairs, fewer⟩ := ih matched
          exact ⟨_, .cons pair pairs, fewer.cons_cons _⟩

/--
In every run, however the driver splits the frames and wherever writes fail, a
peer reads from the wire nothing but whole replies, which answer in order a part
of the framed requests, each with its number. Of the replies that were taken it
misses at most two for each failed write and the one that is being written.
-/
theorem peer_reads_replies {W F I : Type} [Board W] [RustUnifying W] [FirmwareUpdater F I]
    (buildTime : UInt64) (world : W) (flash : Nvmc) (dfu : F) (actions : List WiredAction) :
    let start : Wired W F I := .boot world flash dfu
    let wired := actions.foldl (Wired.step buildTime.toNat) start
    let log := wired.system.record.log
    ∃ replies, readStream mark lineEnd [] wired.wire = replies.map Reply.line ∧
      replies.Sublist (delivered log) ∧ List.SublistForall₂ Answers replies (submitted log) ∧
      (delivered log).length ≤
        replies.length + 2 * start.failures buildTime.toNat actions +
          wired.system.transmitter.load := by
  have word : buildTime.toNat < 2 ^ 64 := buildTime.toNat_lt
  have tracked := (Wired.tracked_boot (I := I) world flash dfu).foldl word actions
  rw [Nat.zero_add] at tracked
  dsimp only
  generalize (Wired.boot world flash dfu : Wired W F I).failures buildTime.toNat actions =
    failures at tracked ⊢
  generalize actions.foldl (Wired.step buildTime.toNat) (Wired.boot world flash dfu : Wired W F I) =
    wired at tracked ⊢
  obtain ⟨pieces, carries⟩ := tracked.carries
  have taken (reply : Reply) (member : reply ∈ delivered wired.system.record.log) :
      reply ∈ wired.system.view.pipeline.replies :=
    List.mem_append_left _ (List.mem_append_left _ member)
  have plain : ∀ piece ∈ pieces, piece.Plain mark lineEnd := by
    intro piece member
    have body : piece.body ∈ pieces.map Piece.body := List.mem_map_of_mem member
    rw [carries.bodies] at body
    obtain ⟨reply, inside, line⟩ := List.mem_map.mp body
    obtain ⟨request, framed, answers⟩ := tracked.served.taken (taken reply inside)
    have same : piece = reply.piece piece.sent := by
      cases piece
      exact congrArg (Piece.mk · _) line.symm
    rw [same]
    exact answers.line_plain framed (tracked.spoken reply (taken reply inside)) piece.sent
  have part := (survivors_sublist true pieces).map Piece.body
  rw [carries.bodies] at part
  obtain ⟨replies, selected, lines⟩ := List.sublist_map_iff.mp part
  refine ⟨replies, ?_, selected, ?_, ?_⟩
  · rw [carries.wire, readStream_pieces (by decide) (.inl rfl) plain, ← lines]
    rfl
  · obtain ⟨answered, order, matched⟩ := tracked.served.exact.delivered
    obtain ⟨rest, pairs, fewer⟩ := forall₂_of_sublist selected matched
    exact List.sublistForall₂_iff.mpr ⟨rest, pairs, fewer.trans order⟩
  · have most := carries.length_le
    have count : pieces.length = (delivered wired.system.record.log).length := by
      have lengths := congrArg List.length carries.bodies
      rwa [List.length_map, List.length_map] at lengths
    have read : (survivors true pieces).length = replies.length := by
      have lengths := congrArg List.length lines
      rwa [List.length_map, List.length_map] at lengths
    rwa [count, read] at most

end NrfUnifying.Tasks
