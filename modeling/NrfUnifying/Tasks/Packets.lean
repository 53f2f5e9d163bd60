import NrfUnifying.Tasks.Moves
import NrfUnifying.Tasks.Segments
import NrfUnifying.Tasks.Wire

/-!
# What a host reads from the USB endpoint

A CDC reply goes out in packets of the endpoint's size, and a host puts them
together again. Whatever the end of a session or a disabled endpoint breaks off
leaves no trace in what the host reads: it gets exactly the replies whose last
packet was taken, in order.
-/

namespace NrfUnifying.Tasks

open Lib Lib.Bytes Lib.Runs Lib.Transfers Radio Storage UartLink Updater UartOta

/-- What the serial task set out to write to its hosts, oldest first; an empty reply has no
packets. -/
def hostReplies : List Event → List (List UInt8)
  | [] => []
  | .toHost _ bytes :: rest => hostReplies rest ++ if bytes = [] then [] else [bytes]
  | _ :: rest => hostReplies rest

section Steps

variable {W F I : Type}

/-- What the hosts were to be told. -/
def System.told (system : System W F I) : List (List UInt8) := hostReplies system.record.log

/-! ## Only the serial task writes -/

section Quiet

variable {before after : System W F I}

theorem System.UsbMove.told (move : before.UsbMove after) : after.told = before.told := by
  cases move <;> rfl

theorem System.RxMove.told (move : before.RxMove after) : after.told = before.told := by
  cases move <;> rfl

theorem System.TxMove.told {writing : Writing} (move : before.TxMove writing after) :
    after.told = before.told := by
  cases move <;> rfl

end Quiet

section Tasks

variable [Board W] [RustUnifying W] [FirmwareUpdater F I] (system : System W F I) (buildTime : Nat)

theorem System.step_told (action : Action) (beside : action.Beside) :
    (system.step buildTime action).told = system.told := by
  refine System.step_keeps (motive := fun after => after.told = system.told) buildTime beside rfl
    ?_ ?_ ?_
  · exact fun move kept => move.told.trans kept
  · exact fun move kept => move.told.trans kept
  · exact fun move kept => move.told.trans kept

theorem System.workerFut_told (clock : Clock) :
    (system.workerFut buildTime clock).told = system.told := by
  refine system.workerFut_keeps buildTime clock
    (motive := fun _ after => after.told = system.told) rfl fun move kept => ?_
  rw [← kept]
  cases move <;> rfl

end Tasks

/-! ## What it writes -/

section Writes

variable {system : System W F I}

theorem System.outcome_log (buildTime : Nat) (session : UInt32) (outcome : Serial.Outcome F I)
    (rest : List UInt8) :
    (system.outcome buildTime session outcome rest).record.log =
      (outcome.reply.map fun reply => Event.toHost session (reply.text buildTime)).toList ++
        system.record.log := by
  unfold System.outcome
  cases outcome.reply <;> rfl

/-- An open session goes on unless it has ended. -/
theorem System.ended_iff {input : SerialInput} {session : UInt32}
    (opened : system.serial.phase.open = some session) :
    system.ended input = true ↔ system.Cancels input session := by
  unfold System.ended System.Cancels
  rw [opened]
  dsimp only
  rw [Bool.and_eq_true, Bool.not_eq_true', Bool.and_eq_false_iff, beq_eq_false_iff_ne,
    not_and_or, Bool.not_eq_true]

variable [FirmwareUpdater F I] {buildTime : Nat} {input : SerialInput}

/-- A serial task that waits writes nothing. -/
theorem System.writes_waiting (waits : system.SerialWaits input) :
    system.writes buildTime input = none := by
  unfold System.writes
  split
  · rfl
  cases waits with
  | connecting phase | inactive phase | requesting phase => rw [phase]
  | handshake phase quiet => rw [phase, quiet]; rfl
  | reading phase empty => rw [phase, empty]
  | answering phase empty => rw [phase, empty]

/-- A segment of the serial task notes the reply that it starts to write, and nothing else. -/
theorem System.SerialMove.log {after : System W F I}
    (move : system.SerialMove buildTime input after) :
    after.record.log = ((system.writes buildTime input).map fun (session, bytes) =>
      Event.toHost session bytes).toList ++ system.record.log := by
  have running {session : UInt32} (opened : system.serial.phase.open = some session)
      (goesOn : ¬system.Cancels input session) : ¬system.ended input = true :=
    mt (System.ended_iff opened).mp goesOn
  cases move with
  | wait waits => rw [system.writes_waiting waits]; rfl
  | connect phase | opens phase =>
      unfold System.writes
      rw [phase]
      split <;> rfl
  | cancel opened cancels =>
      rw [System.writes, if_pos ((System.ended_iff opened).mpr cancels)]
      rfl
  | enter phase ready goesOn =>
      rw [System.writes, if_neg (running (by rw [phase]; rfl) goesOn), phase]
      dsimp only
      rw [if_pos ready]
      rfl
  | pass phase ready different goesOn =>
      rw [System.writes, if_neg (running (by rw [phase]; rfl) goesOn), phase]
      dsimp only
      rw [if_neg fun same => different (Option.some.inj (ready.symm.trans same))]
      rfl
  | fail phase failed goesOn =>
      rw [System.writes, if_neg (running (by rw [phase]; rfl) goesOn), phase, failed]
      rfl
  | upload phase packet uploading goesOn =>
      rw [System.writes, if_neg (running (by rw [phase]; rfl) goesOn), phase, packet]
      dsimp only
      rw [if_pos uploading, System.outcome_log, Option.map_map]
      rfl
  | packet phase packet lines goesOn =>
      rw [System.writes, if_neg (running (by rw [phase]; rfl) goesOn), phase, packet]
      dsimp only
      rw [if_neg (Bool.eq_false_iff.mp lines)]
      rfl
  | done phase goesOn =>
      rw [System.writes, if_neg (running (by rw [phase]; rfl) goesOn), phase]
      rfl
  | byte phase goesOn =>
      rw [System.writes, if_neg (running (by rw [phase]; rfl) goesOn), phase]
      dsimp only
      rw [System.outcome_log, Option.map_map]
      rfl
  | send phase room goesOn =>
      rw [System.writes, if_neg (running (by rw [phase]; rfl) goesOn), phase]
      rfl
  | receive phase queue own goesOn =>
      rw [System.writes, if_neg (running (by rw [phase]; rfl) goesOn), phase]
      dsimp only
      rw [queue]
      dsimp only
      rw [if_pos own]
      rfl
  | skip phase queue foreign goesOn =>
      rw [System.writes, if_neg (running (by rw [phase]; rfl) goesOn), phase]
      dsimp only
      rw [queue]
      dsimp only
      rw [if_neg foreign]
      rfl

theorem System.serialFut_told (system : System W F I) (buildTime : Nat) (input : SerialInput) :
    (system.serialFut buildTime input).told = system.told ++
      match system.writes buildTime input with
      | none => []
      | some (_, bytes) => if bytes = [] then [] else [bytes] := by
  unfold System.told
  rw [(system.serialFut_move buildTime input).log]
  cases system.writes buildTime input with
  | none => exact (List.append_nil _).symm
  | some write => rfl

end Writes

/-! ## What is on the endpoint -/

/-- The endpoint took these replies, as far as they were sent; the last one may still go on. -/
inductive Wired.Hosts (wired : Wired W F I) : List (Sending UInt8) → Prop where
  | idle {sendings : List (Sending UInt8)} (unsent : wired.unsent = [])
      (host : wired.host = sendings.flatMap (Sending.stream packetSize))
      (replies : sendings.map Sending.data = wired.system.told) : Hosts wired sendings
  | writing {front : List (Sending UInt8)} {bytes : List UInt8} {sent : Nat}
      (unsent : wired.unsent = (packets packetSize bytes).drop sent)
      (more : sent < (packets packetSize bytes).length)
      (host : wired.host = front.flatMap (Sending.stream packetSize) ++
        ((packets packetSize bytes).take sent).map some)
      (replies : (front ++ [Sending.mk bytes sent]).map Sending.data = wired.system.told) :
      Hosts wired (front ++ [Sending.mk bytes sent])

theorem Wired.Hosts.aside {wired : Wired W F I} {sendings : List (Sending UInt8)}
    (hosts : wired.Hosts sendings) {after : Wired W F I} (unsent : after.unsent = wired.unsent)
    (host : after.host = wired.host) (told : after.system.told = wired.system.told) :
    after.Hosts sendings := by
  cases hosts with
  | idle unsent' host' replies =>
      exact .idle (unsent.trans unsent') (host.trans host') (replies.trans told.symm)
  | writing unsent' more host' replies =>
      exact .writing (unsent.trans unsent') more (host.trans host') (replies.trans told.symm)

/-! ## What a host makes of it -/

/-- No written reply is empty. -/
theorem hostReplies_some {log : List Event} {bytes : List UInt8}
    (member : bytes ∈ hostReplies log) :
    bytes ≠ [] := by
  induction log with
  | nil => cases member
  | cons event rest ih =>
      cases event with
      | toHost session other =>
          rcases List.mem_append.mp member with old | new
          · exact ih old
          · split at new
            · cases new
            next some =>
              rw [List.mem_singleton.mp new]
              exact some
      | _ => exact ih member

/-- What a host makes of the packets. -/
def Wired.read (wired : Wired W F I) : List (List UInt8) := reassemble packetSize [] wired.host

theorem Wired.Hosts.reads {wired : Wired W F I} {sendings : List (Sending UInt8)}
    (hosts : wired.Hosts sendings) :
    wired.read.Sublist wired.system.told ∧
      wired.system.told.length = wired.read.length + breaks wired.host +
        if wired.unsent = [] then 0 else 1 := by
  have positive : 0 < packetSize := by decide
  have nonempty {all : List (Sending UInt8)} (replies : all.map Sending.data = wired.system.told) :
      ∀ sending ∈ all, sending.data ≠ [] := by
    intro sending member
    have written : sending.data ∈ wired.system.told := by
      rw [← replies]
      exact List.mem_map_of_mem member
    exact hostReplies_some written
  unfold Wired.read
  cases hosts with
  | idle unsent host replies =>
      have read := reassemble_sendings positive (nonempty replies) []
      have lost := length_eq_whole packetSize sendings
      rw [List.append_nil, reassemble, List.append_nil] at read
      rw [host, read, ← replies, if_pos unsent, List.length_map, List.length_map]
      exact ⟨List.filter_sublist.map _, lost⟩
  | @writing front bytes sent unsent more host replies =>
      have all := nonempty replies
      obtain ⟨before, last⟩ := List.forall_mem_append.mp all
      have some : bytes ≠ [] := last _ (List.mem_singleton_self _)
      have left : wired.unsent ≠ [] := by
        rw [unsent]
        intro nothing
        have length := congrArg List.length nothing
        rw [List.length_drop, List.length_nil] at length
        omega
      have read := reassemble_sendings positive before
        (((packets packetSize bytes).take sent).map Option.some)
      have lost := length_eq_whole packetSize front
      have none := breaks_packets ((packets packetSize bytes).take sent)
      rw [reassemble_unfinished positive some more, List.append_nil] at read
      rw [host, read, ← replies, if_neg left]
      unfold breaks at lost none ⊢
      rw [List.countP_append, none, List.length_map, List.length_map, List.length_append, lost]
      constructor
      · rw [List.map_append]
        exact (List.filter_sublist.map _).trans (List.sublist_append_left _ _)
      · rfl

theorem Wired.Hosts.sizes {wired : Wired W F I} {sendings : List (Sending UInt8)}
    (hosts : wired.Hosts sendings) {packet : List UInt8} (taken : some packet ∈ wired.host) :
    packet.length ≤ packetSize := by
  have positive : 0 < packetSize := by decide
  cases hosts with
  | idle unsent host replies =>
      rw [host] at taken
      obtain ⟨sending, -, inside⟩ := List.mem_flatMap.mp taken
      exact mem_stream_length_le positive inside
  | writing unsent more host replies =>
      rw [host] at taken
      rcases List.mem_append.mp taken with old | new
      · obtain ⟨sending, -, inside⟩ := List.mem_flatMap.mp old
        exact mem_stream_length_le positive inside
      · obtain ⟨other, inside, same⟩ := List.mem_map.mp new
        rw [← Option.some.inj same]
        exact packets_length_le positive (List.mem_of_mem_take inside)

/-! ## Steps -/

variable [FirmwareUpdater F I]

/-- The serial task takes a reply on. -/
theorem Wired.Hosts.start {buildTime : Nat} {wired : Wired W F I}
    {sendings : List (Sending UInt8)} (hosts : wired.Hosts sendings) (unsent : wired.unsent = [])
    (input : SerialInput) (write : PacketWrite) :
    ∃ later, (wired.serial buildTime input write).Hosts later := by
  have told := wired.system.serialFut_told buildTime input
  unfold Wired.serial
  rw [unsent]
  dsimp only
  cases hosts with
  | writing unsent' more =>
      have none := congrArg List.length (unsent'.symm.trans unsent)
      rw [List.length_drop, List.length_nil] at none
      omega
  | idle _ host replies =>
      cases writes : wired.system.writes buildTime input with
      | none =>
          rw [writes] at told
          exact ⟨sendings, .idle rfl host (replies.trans (told.trans (List.append_nil _)).symm)⟩
      | some reply =>
          obtain ⟨session, bytes⟩ := reply
          rw [writes] at told
          dsimp only at told ⊢
          by_cases empty : bytes = []
          · subst empty
            exact ⟨sendings, .idle rfl host (replies.trans (told.trans (List.append_nil _)).symm)⟩
          · rw [if_neg empty] at told
            obtain ⟨front, last, cut, -⟩ := packetized (show 0 < packetSize by decide) empty
            refine ⟨sendings ++ [Sending.mk bytes 0], .writing rfl ?_ ?_ ?_⟩
            · rw [cut, List.length_append, List.length_singleton]
              exact Nat.succ_pos _
            · rw [List.take_zero, List.map_nil, List.append_nil]
              exact host
            · rw [List.map_append, replies, told]
              rfl

/-- A packet of a reply is taken, or the reply is broken off. -/
theorem Wired.Hosts.write {buildTime : Nat} {wired : Wired W F I}
    {sendings : List (Sending UInt8)} (hosts : wired.Hosts sendings) {packet : List UInt8}
    {rest : List (List UInt8)} (unsent : wired.unsent = packet :: rest) (input : SerialInput)
    (write : PacketWrite) :
    ∃ later, (wired.serial buildTime input write).Hosts later := by
  have told := wired.system.serialFut_told buildTime input
  cases hosts with
  | idle unsent' => rw [unsent'] at unsent; cases unsent
  | @writing front bytes sent unsent' more host replies =>
      have cut : (packets packetSize bytes).drop sent = packet :: rest := unsent'.symm.trans unsent
      have broken : (Sending.mk bytes sent).stream packetSize =
          ((packets packetSize bytes).take sent).map some ++ [none] := by
        have partly : (Sending.mk bytes sent).whole packetSize = false :=
          decide_eq_false (Nat.not_le.mpr more)
        rw [Sending.stream, partly, if_neg Bool.false_ne_true]
      unfold Wired.serial
      rw [unsent]
      dsimp only
      split
      next ended =>
        have quiet : wired.system.writes buildTime input = none := by
          rw [System.writes, if_pos ended]
        rw [quiet] at told
        refine ⟨front ++ [Sending.mk bytes sent], .idle rfl ?_ ?_⟩
        · rw [List.flatMap_append, List.flatMap_singleton, broken, ← List.append_assoc, host]
        · exact replies.trans (told.trans (List.append_nil _)).symm
      · cases write with
        | pending => exact ⟨_, .writing unsent' more host replies⟩
        | disabled =>
            refine ⟨front ++ [Sending.mk bytes sent], .idle rfl ?_ replies⟩
            rw [List.flatMap_append, List.flatMap_singleton, broken, ← List.append_assoc, host]
        | taken =>
            dsimp only
            have taken : (packets packetSize bytes).take (sent + 1) =
                (packets packetSize bytes).take sent ++ [packet] := by
              rw [List.take_add, cut]
              rfl
            have left : rest = (packets packetSize bytes).drop (sent + 1) := by
              rw [← List.drop_drop, cut]
              rfl
            have further : wired.host ++ [some packet] =
                front.flatMap (Sending.stream packetSize) ++
                  ((packets packetSize bytes).take (sent + 1)).map some := by
              rw [taken, List.map_append, host, List.append_assoc]
              rfl
            have replies' : (front ++ [Sending.mk bytes (sent + 1)]).map Sending.data =
                wired.system.told := by
              rw [← replies, List.map_append, List.map_append]
              rfl
            by_cases last : sent + 1 < (packets packetSize bytes).length
            · exact ⟨_, .writing left last further replies'⟩
            · have whole : (Sending.mk bytes (sent + 1)).whole packetSize = true :=
                decide_eq_true (Nat.not_lt.mp last)
              refine ⟨_, .idle ?_ ?_ replies'⟩
              · rw [left]
                exact List.drop_of_length_le (Nat.not_lt.mp last)
              · rw [further, List.flatMap_append, List.flatMap_singleton,
                  Sending.stream_whole whole, List.take_of_length_le (Nat.not_lt.mp last)]

variable [Board W] [RustUnifying W]

theorem Wired.Hosts.step {wired : Wired W F I} {sendings : List (Sending UInt8)}
    (hosts : wired.Hosts sendings) (buildTime : Nat) (action : WiredAction) :
    ∃ later, (wired.step buildTime action).Hosts later := by
  cases action with
  | usb event =>
      have told := wired.system.step_told buildTime (.usb event) trivial
      exact ⟨sendings, hosts.aside rfl rfl told⟩
  | control =>
      have told := wired.system.step_told buildTime .control trivial
      exact ⟨sendings, hosts.aside rfl rfl told⟩
  | work clock =>
      exact ⟨sendings, hosts.aside rfl rfl (wired.system.workerFut_told buildTime clock)⟩
  | receive reading =>
      have told := wired.system.step_told buildTime (.receive reading) trivial
      exact ⟨sendings, hosts.aside rfl rfl told⟩
  | transmit write =>
      have told : (wired.transmit write).system.told = wired.system.told := by
        rcases wired.transmit_shows write with same | ⟨writing, same⟩
        · rw [same]
        · rw [same]
          exact (wired.system.uartTxFut_move writing).told
      obtain ⟨unsent, host⟩ := wired.transmit_aside write
      exact ⟨sendings, hosts.aside unsent host told⟩
  | serial input write =>
      cases unsent : wired.unsent with
      | nil => exact hosts.start unsent input write
      | cons packet rest => exact hosts.write unsent input write

theorem Wired.Hosts.foldl {wired : Wired W F I} {sendings : List (Sending UInt8)}
    (hosts : wired.Hosts sendings) (buildTime : Nat) (actions : List WiredAction) :
    ∃ later, (actions.foldl (Wired.step buildTime) wired).Hosts later := by
  induction actions generalizing wired sendings with
  | nil => exact ⟨sendings, hosts⟩
  | cons action rest ih =>
      obtain ⟨later, hosts'⟩ := hosts.step buildTime action
      exact ih hosts'

end Steps

/--
In every run, whenever sessions end and endpoints are disabled in the middle of
a reply, a host that puts the packets together reads whole replies only, in the
order in which they were written. It misses those that were broken off, and the
one that is being written; and no packet is larger than the endpoint.
-/
theorem host_reads_replies {W F I : Type} [Board W] [RustUnifying W] [FirmwareUpdater F I]
    (buildTime : Nat) (world : W) (flash : Nvmc) (dfu : F) (actions : List WiredAction) :
    let wired := actions.foldl (Wired.step buildTime) (Wired.boot world flash dfu : Wired W F I)
    (wired.read.Sublist wired.system.told ∧
      wired.system.told.length = wired.read.length + breaks wired.host +
        if wired.unsent = [] then 0 else 1) ∧
      ∀ packet, some packet ∈ wired.host → packet.length ≤ packetSize := by
  have booted : (Wired.boot world flash dfu : Wired W F I).Hosts [] := .idle rfl rfl rfl
  obtain ⟨sendings, hosts⟩ := booted.foldl buildTime actions
  exact ⟨hosts.reads, fun _ taken => hosts.sizes taken⟩

end NrfUnifying.Tasks
