import NrfUnifying.Tasks.Replies

/-!
# How long a request waits

`Waits` bounds what is ahead of a request: the others in the queue, the one in
service and the replies that have to get out. No step raises the bound, and each
round in which the worker and the transmit task both run lowers it.
-/

namespace NrfUnifying.Tasks

open Lib.Bytes Lib.Runs Lib.Service Radio Storage UartLink Updater UartOta Relation

/-! ## What is ahead -/

def Transmitter.load : Transmitter → Nat
  | .waiting => 0
  | .writing _ => 1

def Phase.load : Phase → Nat
  | .selecting | .stopped => 0
  | .starting => 1
  | .sending _ => 3
  | .executing _ => 4

/-- The steps that the worker and the transmit task owe to what is in service. -/
def View.load (view : View) : Nat :=
  view.transmitter.load + 2 * view.replies.length + view.phase.load

/-- A queued request has its reply taken, or is dropped, in at most `bound` such steps. -/
inductive View.Waits (view : View) (request : Request) (bound : Nat) : Prop where
  | queued {ahead behind : List Request} (queue : view.requests = ahead ++ request :: behind)
      (load : view.load + 5 * (ahead.length + 1) ≤ bound)
  | executing (phase : view.phase = .executing request) (load : view.load ≤ bound)
  | sending {reply : Reply} (phase : view.phase = .sending reply)
      (answers : Answers reply request) (load : view.load ≤ bound)
  | posted {ahead behind : List Reply} {reply : Reply}
      (replies : view.replies = ahead ++ reply :: behind) (answers : Answers reply request)
      (load : view.transmitter.load + 2 * (ahead.length + 1) ≤ bound)
  | taken {reply : Reply} (taken : reply ∈ delivered view.log) (answers : Answers reply request)
  | dropped {now : Snapshot} (dropped : (request, now) ∈ discarded view.log)

section Waits

variable {before after : View} {request : Request} {bound : Nat}

theorem delivered_subset (event : Event) (log : List Event) :
    delivered log ⊆ delivered (event :: log) := by
  cases event with
  | taken reply => exact List.subset_append_left _ _
  | _ => exact fun _ => id

theorem discarded_subset (event : Event) (log : List Event) :
    discarded log ⊆ discarded (event :: log) := by
  cases event with
  | dropped request now => exact List.subset_append_left _ _
  | _ => exact fun _ => id

theorem View.Waits.mono (waits : before.Waits request bound) {larger : Nat}
    (le : bound ≤ larger) : before.Waits request larger := by
  cases waits with
  | queued queue load => exact .queued queue (Nat.le_trans load le)
  | executing phase load => exact .executing phase (Nat.le_trans load le)
  | sending phase answers load => exact .sending phase answers (Nat.le_trans load le)
  | posted replies answers load => exact .posted replies answers (Nat.le_trans load le)
  | taken taken answers => exact .taken taken answers
  | dropped dropped => exact .dropped dropped

/-! ## The other tasks -/

/-- Nothing gets ahead of a request, and what is noted stays noted. -/
theorem View.Waits.keep (waits : before.Waits request bound)
    (phase : after.phase = before.phase) (replies : after.replies = before.replies)
    (transmitter : after.transmitter.load ≤ before.transmitter.load)
    (requests : ∃ more, after.requests = before.requests ++ more)
    (taken : delivered before.log ⊆ delivered after.log)
    (dropped : discarded before.log ⊆ discarded after.log) : after.Waits request bound := by
  have lighter : after.load ≤ before.load := by
    rw [View.load, View.load, phase, replies]
    omega
  cases waits with
  | @queued ahead behind queue load =>
      obtain ⟨more, requests⟩ := requests
      have same : after.requests = ahead ++ request :: (behind ++ more) := by
        rw [requests, queue, List.append_assoc, List.cons_append]
      exact .queued same (by omega)
  | executing executing load => exact .executing (phase.trans executing) (Nat.le_trans lighter load)
  | sending sending answers load =>
      exact .sending (phase.trans sending) answers (Nat.le_trans lighter load)
  | posted posted answers load => exact .posted (replies.trans posted) answers (by omega)
  | taken member answers => exact .taken (taken member) answers
  | dropped member => exact .dropped (dropped member)

theorem View.Change.replies (change : before.Change after) : after.replies = before.replies := by
  cases change <;> rfl

theorem View.Change.waits (change : before.Change after) (waits : before.Waits request bound) :
    after.Waits request bound := by
  have phase := change.phase
  have replies := change.replies
  cases change with
  | note | damage | overflow =>
      exact waits.keep phase replies (Nat.le_refl _) ⟨[], (List.append_nil _).symm⟩
        (delivered_subset _ _) (discarded_subset _ _)
  | request => exact waits.keep phase replies (Nat.le_refl _) ⟨_, rfl⟩ (fun _ => id) (fun _ => id)
  | frame =>
      exact waits.keep phase replies (Nat.le_refl _) ⟨_, rfl⟩
        (delivered_subset _ _) (discarded_subset _ _)

theorem View.Changes.replies (changes : before.Changes after) :
    after.replies = before.replies := by
  induction changes with
  | refl => rfl
  | tail _ change ih => exact change.replies.trans ih

theorem View.Changes.waits (changes : before.Changes after)
    (waits : before.Waits request bound) : after.Waits request bound := by
  induction changes with
  | refl => exact waits
  | tail _ change ih => exact change.waits ih

/-! ## The transmit task -/

theorem Transmitter.load_le (transmitter : Transmitter) : transmitter.load ≤ 1 := by
  cases transmitter with
  | waiting => exact Nat.zero_le 1
  | writing => exact Nat.le_refl 1

/-- A step of the transmit task lowers the bound unless there is nothing to do or the wire is
busy. -/
theorem View.Transmit.waits {writing : Writing} (transmit : before.Transmit writing after)
    (waits : before.Waits request (bound + 1)) :
    after.Waits request bound ∨
      after = before ∧ (before.replies = [] ∨ writing = .pending) := by
  cases transmit with
  | idle waiting empty => exact .inr ⟨rfl, .inl empty⟩
  | pending busy pending => exact .inr ⟨rfl, .inr pending⟩
  | @take reply rest waiting replies transmitter =>
      left
      have light := transmitter.load_le
      have idle : before.transmitter.load = 0 := congrArg Transmitter.load waiting
      have lighter : View.load { before with
          replies := rest, transmitter, log := .taken reply :: before.log } + 1 ≤ before.load := by
        change transmitter.load + 2 * rest.length + before.phase.load + 1 ≤ _
        rw [View.load, replies, List.length_cons, idle]
        omega
      cases waits with
      | queued queue load => exact .queued queue (by omega)
      | executing executing load => exact .executing executing (by omega)
      | sending sending answers load => exact .sending sending answers (by omega)
      | @posted ahead behind reply' posted answers load =>
          rw [replies] at posted
          cases ahead with
          | nil =>
              obtain ⟨rfl, -⟩ := List.cons.inj posted
              exact .taken (List.mem_append_right _ (List.mem_singleton_self _)) answers
          | cons first ahead =>
              rw [List.length_cons] at load
              refine .posted (List.cons.inj posted).2 answers ?_
              change transmitter.load + 2 * (ahead.length + 1) ≤ bound
              omega
      | taken taken answers => exact .taken (delivered_subset _ _ taken) answers
      | dropped dropped => exact .dropped (discarded_subset (.taken reply) _ dropped)
  | written busy changes =>
      left
      refine changes.waits ?_
      have writing : before.transmitter.load = 1 := congrArg Transmitter.load busy
      have lighter : View.load { before with transmitter := .waiting } + 1 = before.load := by
        change 0 + 2 * before.replies.length + before.phase.load + 1 = _
        rw [View.load, writing]
        omega
      cases waits with
      | queued queue load => exact .queued queue (by omega)
      | executing executing load => exact .executing executing (by omega)
      | sending sending answers load => exact .sending sending answers (by omega)
      | posted posted answers load =>
          refine .posted posted answers ?_
          change 0 + 2 * _ ≤ bound
          omega
      | taken taken answers => exact .taken taken answers
      | dropped dropped => exact .dropped dropped

/-! ## The worker -/

theorem View.Work.grows (work : before.Work after) :
    (∃ more, after.ledger.replies = before.ledger.replies ++ more) ∧
      after.ledger.delivered = before.ledger.delivered ∧
      before.ledger.discarded ⊆ after.ledger.discarded ∧
      after.ledger.transmitter = before.ledger.transmitter := by
  cases work with
  | rest _ ledger | take _ _ ledger | finish _ ledger =>
      rw [ledger]
      exact ⟨⟨[], (List.append_nil _).symm⟩, rfl, fun _ => id, rfl⟩
  | drop _ _ _ now _ ledger =>
      rw [ledger]
      exact ⟨⟨[], (List.append_nil _).symm⟩, rfl, List.subset_append_left _ _, rfl⟩
  | send _ _ ledger =>
      rw [ledger]
      exact ⟨⟨_, rfl⟩, rfl, fun _ => id, rfl⟩
  | blocked _ _ same =>
      rw [same]
      exact ⟨⟨[], (List.append_nil _).symm⟩, rfl, fun _ => id, rfl⟩

theorem Phase.Finishes.load {phase : Phase} (finishes : phase.Finishes request) :
    phase.load ≤ 3 := by
  cases finishes with
  | replying => exact Nat.le_refl 3
  | done => exact Nat.zero_le 3

theorem Phase.Serves.load {phase : Phase} (serves : phase.Serves request) : phase.load ≤ 4 := by
  rcases serves with finishes | ⟨rfl, -⟩
  · exact Nat.le_succ_of_le finishes.load
  · exact Nat.le_refl 4

/-- The load of a view whose ledger and phase are known. -/
theorem View.load_eq {ledger : Ledger} (same : before.ledger = ledger) :
    before.load = ledger.transmitter.load + 2 * ledger.replies.length + before.phase.load :=
  same ▸ rfl

/-- A UART request that the worker has taken is executed, or its reply is on the way. -/
theorem Phase.Serves.waits (serves : after.phase.Serves request)
    (uart : request.source.isUart = true) (load : after.load ≤ bound) :
    after.Waits request bound := by
  rcases serves with finishes | ⟨executing, -⟩
  · generalize same : after.phase = phase at finishes
    cases finishes with
    | replying _ answers => exact .sending same answers load
    | done cdc =>
        rw [uart] at cdc
        cases cdc
  · exact .executing executing load

/-- What is queued moves up, or is taken. -/
theorem View.Work.waits_queued (work : before.Work after) (uart : request.source.isUart = true)
    {ahead behind : List Request} (queue : before.requests = ahead ++ request :: behind)
    (load : before.load + 5 * (ahead.length + 1) ≤ bound + 1) :
    after.Waits request bound ∨ after.Waits request (bound + 1) ∧ before.replies ≠ [] := by
  cases work with
  | rest waiting ledger phase =>
      rcases waiting with starting | ⟨_, empty⟩
      · left
        have lighter : after.load + 1 = before.load := by
          rw [View.load_eq ledger, phase, View.load, starting]
          rfl
        exact .queued ((congrArg Ledger.requests ledger).trans queue) (by omega)
      · rw [empty] at queue
        exact absurd queue.symm (List.append_ne_nil_of_right_ne_nil _ (List.cons_ne_nil _ _))
  | @drop head rest waiting first _ now _ ledger phase =>
      left
      have same : after.load = before.load := by
        rw [View.load_eq ledger, phase, View.load, waiting]
        rfl
      rw [first] at queue
      cases ahead with
      | nil =>
          obtain ⟨rfl, -⟩ := List.cons.inj queue
          have dropped : (head, now) ∈ discarded after.log := by
            rw [show discarded after.log = _ from congrArg Ledger.discarded ledger]
            exact List.mem_append_right _ (List.mem_singleton_self _)
          exact .dropped dropped
      | cons other ahead =>
          rw [List.length_cons] at load
          exact .queued ((congrArg Ledger.requests ledger).trans (List.cons.inj queue).2)
            (by omega)
  | take waiting first ledger phase =>
      left
      have heavier : after.load ≤ before.load + 4 := by
        have light := phase.load
        rw [View.load_eq ledger, View.load, waiting]
        exact Nat.add_le_add_left light _
      rw [first] at queue
      cases ahead with
      | nil =>
          obtain ⟨rfl, -⟩ := List.cons.inj queue
          exact phase.waits uart (by rw [List.length_nil] at load; omega)
      | cons other ahead =>
          rw [List.length_cons] at load
          exact .queued ((congrArg Ledger.requests ledger).trans (List.cons.inj queue).2)
            (by omega)
  | finish executing ledger phase =>
      left
      have lighter : after.load + 1 ≤ before.load := by
        have light := phase.load
        rw [View.load_eq ledger, View.load, executing]
        exact Nat.add_le_add_left (Nat.succ_le_succ light) _
      exact .queued ((congrArg Ledger.requests ledger).trans queue) (by omega)
  | send sending room ledger phase =>
      left
      have lighter : after.load + 1 = before.load := by
        rw [View.load_eq ledger, phase, View.load, sending]
        change _ + 2 * (before.replies ++ [_]).length + 0 + 1 = _ + 2 * before.replies.length + 3
        rw [List.length_append, List.length_singleton]
        rfl
      exact .queued ((congrArg Ledger.requests ledger).trans queue) (by omega)
  | blocked sending full same =>
      exact .inr ⟨same ▸ .queued queue load, fun empty => by
        rw [empty] at full
        exact absurd full (by decide)⟩

/-- A step of the worker lowers the bound unless a reply has to get out first. -/
theorem View.Work.waits (work : before.Work after) (uart : request.source.isUart = true)
    (waits : before.Waits request (bound + 1)) :
    after.Waits request bound ∨ after.Waits request (bound + 1) ∧ before.replies ≠ [] := by
  obtain ⟨⟨more, replies⟩, taken, dropped, transmitter⟩ := work.grows
  cases waits with
  | taken member answers =>
      have same : delivered after.log = delivered before.log := taken
      exact .inl (.taken (same ▸ member) answers)
  | dropped member => exact .inl (.dropped (dropped member))
  | @posted ahead behind reply posted answers load =>
      have moved : after.replies = ahead ++ reply :: (behind ++ more) := by
        rw [show after.replies = _ from replies, show before.ledger.replies = _ from posted,
          List.append_assoc, List.cons_append]
      refine .inr ⟨.posted moved answers ?_, fun empty => ?_⟩
      · rwa [show after.transmitter = _ from transmitter]
      · rw [empty] at posted
        exact List.append_ne_nil_of_right_ne_nil _ (List.cons_ne_nil _ _) posted.symm
  | executing phase load =>
      cases work with
      | rest waiting =>
          rcases waiting with other | ⟨other, -⟩ <;> cases phase.symm.trans other
      | drop other | take other | send other | blocked other => cases phase.symm.trans other
      | finish executing ledger finishes =>
          obtain rfl := Phase.executing.inj (phase.symm.trans executing)
          left
          refine Phase.Serves.waits (.inl finishes) uart (Nat.le_of_succ_le_succ ?_)
          refine Nat.le_trans ?_ load
          rw [View.load_eq ledger, View.load, phase]
          exact Nat.add_le_add_left (Nat.succ_le_succ finishes.load) _
  | @sending reply phase answers load =>
      cases work with
      | rest waiting =>
          rcases waiting with other | ⟨other, -⟩ <;> cases phase.symm.trans other
      | drop other | take other | finish other => cases phase.symm.trans other
      | blocked sending full same =>
          exact .inr ⟨same ▸ .sending phase answers load, fun empty => by
            rw [empty] at full
            exact absurd full (by decide)⟩
      | send sending room ledger =>
          obtain rfl := Phase.sending.inj (phase.symm.trans sending)
          left
          have posted : after.replies = before.replies ++ [reply] := congrArg Ledger.replies ledger
          refine .posted posted answers ?_
          rw [show after.transmitter = _ from transmitter]
          rw [View.load, phase] at load
          change before.transmitter.load + 2 * (before.replies.length + 1) ≤ bound
          change before.transmitter.load + 2 * before.replies.length + 3 ≤ bound + 1 at load
          omega
  | queued queue load => exact work.waits_queued uart queue load

/-! ## The end of the wait -/

/-- The transmit task has taken the reply to a request, or the worker has dropped it. -/
def View.Settled (view : View) (request : Request) : Prop :=
  (∃ reply ∈ delivered view.log, Answers reply request) ∨
    ∃ now, (request, now) ∈ discarded view.log

theorem View.Waits.settled (waits : before.Waits request 0) : before.Settled request := by
  cases waits with
  | queued _ load => exact absurd load (by omega)
  | executing phase load | sending phase _ load =>
      rw [View.load, phase] at load
      exact absurd load (Nat.not_succ_le_zero _)
  | posted _ _ load => exact absurd load (by omega)
  | taken taken answers => exact .inl ⟨_, taken, answers⟩
  | dropped dropped => exact .inr ⟨_, dropped⟩

theorem View.Settled.waits (settled : before.Settled request)
    (taken : delivered before.log ⊆ delivered after.log)
    (dropped : discarded before.log ⊆ discarded after.log) : after.Waits request bound := by
  rcases settled with ⟨reply, member, answers⟩ | ⟨now, member⟩
  · exact .taken (taken member) answers
  · exact .dropped (dropped member)

theorem View.Work.waits_keep (work : before.Work after) (uart : request.source.isUart = true)
    (waits : before.Waits request bound) : after.Waits request bound := by
  cases bound with
  | zero =>
      obtain ⟨-, taken, dropped, -⟩ := work.grows
      have same : delivered after.log = delivered before.log := taken
      exact waits.settled.waits (fun _ member => same ▸ member) dropped
  | succ bound =>
      rcases work.waits uart waits with lowered | ⟨kept, -⟩
      · exact lowered.mono (Nat.le_succ bound)
      · exact kept

theorem View.Transmit.waits_keep {writing : Writing} (transmit : before.Transmit writing after)
    (waits : before.Waits request bound) : after.Waits request bound := by
  cases bound with
  | zero =>
      cases transmit with
      | idle | pending => exact waits
      | take => exact waits.settled.waits (delivered_subset _ _) (discarded_subset _ _)
      | written _ changes =>
          exact changes.waits (waits.settled.waits (fun _ => id) (fun _ => id))
  | succ bound =>
      rcases transmit.waits waits with lowered | ⟨rfl, -⟩
      · exact lowered.mono (Nat.le_succ bound)
      · exact waits

end Waits

/-! ## Rounds -/

/-- The actions contain so many rounds, in each of which the worker runs and the transmit task
runs with a wire that is not busy; anything else may happen in between. -/
inductive Rounds : Nat → List Action → Prop where
  | zero (actions : List Action) : Rounds 0 actions
  | succ {rounds : Nat} {round rest : List Action} (work : ∃ clock, .work clock ∈ round)
      (transmit : ∃ writing, .transmit writing ∈ round ∧ writing ≠ .pending)
      (more : Rounds rounds rest) : Rounds (rounds + 1) (round ++ rest)

section Runs

variable {W F I : Type} [Board W] [RustUnifying W] [FirmwareUpdater F I]
  {system : System W F I} {buildTime : Nat} {request : Request} {bound : Nat}

theorem System.waits_keep (served : system.view.Served) (word : buildTime < 2 ^ 64)
    (uart : request.source.isUart = true) (waits : system.view.Waits request bound)
    (action : Action) : (system.step buildTime action).view.Waits request bound := by
  cases action with
  | work clock => exact (System.work_of_served served word clock).waits_keep uart waits
  | transmit writing => exact (system.uartTxFut_transmit writing).waits_keep waits
  | usb | control | receive | serial =>
      refine View.Changes.waits (System.step_changes system buildTime ?_) waits
      trivial

/-- The actions that leave a request where it is: with a free channel the worker does not run, with
a reply in the channel the transmit task does not. -/
def Action.Idles (free : Prop) : Action → Prop
  | .work _ => ¬free
  | .transmit writing => free ∨ writing = .pending
  | _ => True

theorem System.waits_step (served : system.view.Served) (word : buildTime < 2 ^ 64)
    (uart : request.source.isUart = true) (waits : system.view.Waits request (bound + 1))
    (action : Action) :
    (system.step buildTime action).view.Waits request bound ∨
      (system.step buildTime action).view.Waits request (bound + 1) ∧
        ((system.step buildTime action).view.replies = [] ↔ system.view.replies = []) ∧
        action.Idles (system.view.replies = []) := by
  cases action with
  | work clock =>
      have work := System.work_of_served served word clock
      rcases work.waits uart waits with lowered | ⟨kept, replies⟩
      · exact .inl lowered
      · obtain ⟨⟨more, grown⟩, -⟩ := work.grows
        refine .inr ⟨kept, iff_of_false (fun empty => replies ?_) replies, replies⟩
        exact (List.append_eq_nil_iff.mp (grown.symm.trans empty)).1
  | transmit writing =>
      rcases (system.uartTxFut_transmit writing).waits waits with lowered | ⟨same, idle⟩
      · exact .inl lowered
      · refine .inr ⟨System.waits_keep served word uart waits _, ?_, idle⟩
        rw [System.step, same]
  | usb | control | receive | serial =>
      refine .inr ⟨System.waits_keep served word uart waits _, ?_, trivial⟩
      rw [View.Changes.replies (System.step_changes system buildTime _)]
      trivial

theorem System.served_foldl (served : system.view.Served) (word : buildTime < 2 ^ 64)
    (actions : List Action) :
    (actions.foldl (System.step buildTime) system).view.Served := by
  induction actions generalizing system with
  | nil => exact served
  | cons action rest ih => exact ih (System.served_step served word action)

theorem System.waits_foldl (served : system.view.Served) (word : buildTime < 2 ^ 64)
    (uart : request.source.isUart = true) (waits : system.view.Waits request bound)
    (actions : List Action) :
    (actions.foldl (System.step buildTime) system).view.Waits request bound := by
  induction actions generalizing system with
  | nil => exact waits
  | cons action rest ih =>
      exact ih (System.served_step served word action)
        (System.waits_keep served word uart waits action)

/-- Over several steps a request moves on unless each of them leaves it where it is. -/
theorem System.waits_steps (served : system.view.Served) (word : buildTime < 2 ^ 64)
    (uart : request.source.isUart = true) (waits : system.view.Waits request (bound + 1))
    (actions : List Action) :
    (actions.foldl (System.step buildTime) system).view.Waits request bound ∨
      ∀ action ∈ actions, action.Idles (system.view.replies = []) := by
  induction actions generalizing system with
  | nil => exact .inr fun _ member => absurd member List.not_mem_nil
  | cons action rest ih =>
      have after := System.served_step served word action
      rcases System.waits_step served word uart waits action with lowered | ⟨kept, same, idles⟩
      · exact .inl (System.waits_foldl after word uart lowered rest)
      · rcases ih after kept with lowered | others
        · exact .inl lowered
        · rw [same] at others
          exact .inr (List.forall_mem_cons.mpr ⟨idles, others⟩)

/-- Every round lowers the bound. -/
theorem System.waits_rounds (served : system.view.Served) (word : buildTime < 2 ^ 64)
    (uart : request.source.isUart = true) {rounds : Nat} {actions : List Action}
    (runs : Rounds rounds actions) (waits : system.view.Waits request rounds) :
    (actions.foldl (System.step buildTime) system).view.Settled request := by
  induction runs generalizing system with
  | zero actions => exact (System.waits_foldl served word uart waits actions).settled
  | @succ rounds round rest work transmit more ih =>
      rw [List.foldl_append]
      refine ih (System.served_foldl served word round) ?_
      rcases System.waits_steps served word uart waits round with lowered | idles
      · exact lowered
      · obtain ⟨clock, worked⟩ := work
        obtain ⟨writing, transmitted, ready⟩ := transmit
        have busy : ¬system.view.replies = [] := idles _ worked
        rcases idles _ transmitted with free | pending
        · exact absurd free busy
        · exact absurd pending ready

/-- The rounds that the longest wait takes. -/
def serviceRounds : Nat := 1 + 2 * repliesCapacity + 4 + 5 * requestsCapacity

theorem Phase.load_le (phase : Phase) : phase.load ≤ 4 := by
  cases phase <;> simp [Phase.load]

theorem View.Served.load_le {view : View} (served : view.Served) :
    view.load ≤ 1 + 2 * repliesCapacity + 4 :=
  Nat.add_le_add (Nat.add_le_add view.transmitter.load_le
    (Nat.mul_le_mul_left 2 served.sound.replies)) view.phase.load_le

theorem Phase.executing_of_slot {phase : Phase} {request : Request}
    (serving : request ∈ phase.slot.requests) : phase = .executing request := by
  cases phase with
  | executing other =>
      rw [Phase.slot] at serving
      split at serving
      · rw [List.mem_singleton.mp serving]
      · exact absurd serving List.not_mem_nil
  | starting | selecting | sending | stopped => exact absurd serving List.not_mem_nil

theorem Phase.sending_of_slot {phase : Phase} {reply : Reply}
    (replying : reply ∈ phase.slot.replies) : phase = .sending reply := by
  cases phase with
  | sending other => rw [List.mem_singleton.mp replying]
  | executing other =>
      rw [Phase.slot] at replying
      split at replying <;> exact absurd replying List.not_mem_nil
  | starting | selecting | stopped => exact absurd replying List.not_mem_nil

/-- A request that was queued does not wait longer than that. -/
theorem View.Served.waits {view : View} (served : view.Served) {request : Request}
    (queued : request ∈ entered view.log) : view.Waits request serviceRounds := by
  have load := served.load_le
  have light : view.load ≤ serviceRounds := Nat.le_trans load (Nat.le_add_right _ _)
  rcases served.exact.entered_mem queued with discarded | pending | ⟨reply, made, answers⟩
  · obtain ⟨⟨request, now⟩, member, rfl⟩ := List.mem_map.mp discarded
    exact .dropped member
  · rcases List.mem_append.mp pending with serving | waiting
    · exact .executing (Phase.executing_of_slot serving) light
    · obtain ⟨ahead, behind, split⟩ := List.append_of_mem (List.mem_of_mem_filter waiting)
      have queue : view.requests = ahead ++ request :: behind := split
      have bound : view.requests.length ≤ requestsCapacity := served.sound.requests
      rw [queue, List.length_append, List.length_cons] at bound
      refine .queued queue ?_
      rw [serviceRounds]
      omega
  · rcases List.mem_append.mp made with out | replying
    · rcases List.mem_append.mp out with taken | posted
      · exact .taken taken answers
      · obtain ⟨ahead, behind, split⟩ := List.append_of_mem posted
        have channel : view.replies = ahead ++ reply :: behind := split
        have bound : view.replies.length ≤ repliesCapacity := served.sound.replies
        rw [channel, List.length_append, List.length_cons] at bound
        refine .posted channel answers ?_
        have light := view.transmitter.load_le
        rw [serviceRounds]
        omega
    · exact .sending (Phase.sending_of_slot replying) answers light

end Runs

/-! ## The property -/

/-- The replies that were taken answer, in order, a part of the framed requests; no request has
two. -/
structure Exact (log : List Event) : Prop where
  image : ∃ answered, answered.Sublist (submitted log) ∧
    List.Forall₂ Answers (delivered log) answered
  distinct : ((submitted log).map fun request => request.stamp.id).Nodup
  once : ((delivered log).map fun reply => reply.stamp.id).Nodup

def repliesTo (request : Request) (log : List Event) : List Reply :=
  (delivered log).filter fun reply => reply.stamp.id = request.stamp.id

/-- When the worker took this request from the queue there had been no damage since it was
framed. -/
def Event.Spares (request : Request) : Event → Prop
  | .dropped other now | .dequeued other now =>
      other = request → now.damages = request.stamp.damages
  | _ => True

theorem mem_of_discarded {request : Request} {now : Snapshot} {log : List Event}
    (member : (request, now) ∈ discarded log) : .dropped request now ∈ log := by
  induction log with
  | nil => exact absurd member List.not_mem_nil
  | cons event rest ih =>
      cases event with
      | dropped other moment =>
          rcases List.mem_append.mp member with old | new
          · exact List.mem_cons_of_mem _ (ih old)
          · obtain ⟨rfl, rfl⟩ := Prod.mk.inj (List.mem_singleton.mp new)
            exact List.mem_cons_self
      | _ => exact List.mem_cons_of_mem _ (ih member)

theorem View.Served.exactLog {view : View} (served : view.Served) : Exact view.log where
  image := served.exact.delivered
  distinct := served.sound.distinct
  once := served.exact.nodup (fun request => request.stamp.id) (fun reply => reply.stamp.id)
    (fun _ _ answers => congrArg Stamp.id answers.stamp) served.sound.distinct

/-- In every run the replies are an ordered image of the requests without duplicates; and a request
that was queued has exactly one reply, after enough rounds, if there was no damage between its
framing and its turn. -/
theorem uart_replies_exact {W F I : Type} [Board W] [RustUnifying W] [FirmwareUpdater F I]
    (buildTime : UInt64) (world : W) (flash : Nvmc) (dfu : F) (actions : List Action) :
    Always (System.step buildTime.toNat) (fun system => Exact system.record.log)
        (System.boot world flash dfu : System W F I) actions ∧
      ∀ before after request, actions = before ++ after →
        request ∈ entered (before.foldl (System.step buildTime.toNat)
          (System.boot world flash dfu : System W F I)).record.log →
        Rounds serviceRounds after →
        (∀ event ∈ (actions.foldl (System.step buildTime.toNat)
          (System.boot world flash dfu : System W F I)).record.log, event.Spares request) →
        ∃ reply, Answers reply request ∧
          repliesTo request (actions.foldl (System.step buildTime.toNat)
            (System.boot world flash dfu : System W F I)).record.log = [reply] := by
  have word : buildTime.toNat < 2 ^ 64 := buildTime.toNat_lt
  have booted := System.served_boot (W := W) (F := F) (I := I) world flash dfu
  constructor
  · intro before after _
    exact (System.served_foldl booted word before).exactLog
  · rintro before after request rfl queued rounds spares
    have served := System.served_foldl booted word before
    have uart : request.source.isUart = true := by
      obtain ⟨_, _, source⟩ :=
        (served.exact.valid request (served.exact.entered.subset queued)).source
      rw [source]
      rfl
    have settled := System.waits_rounds served word uart rounds (served.waits queued)
    rw [← List.foldl_append] at settled
    have last := System.served_foldl booted word (before ++ after)
    rcases settled with ⟨reply, taken, answers⟩ | ⟨now, dropped⟩
    · refine ⟨reply, answers, ?_⟩
      have only := filter_key_eq (fun reply : Reply => reply.stamp.id) last.exactLog.once taken
      rwa [answers.stamp] at only
    · exact absurd (spares _ (mem_of_discarded dropped) rfl).symm (last.sound.damaged _ dropped)

instance (request : Request) : (event : Event) → Decidable (event.Spares request)
  | .dropped .. | .dequeued .. => inferInstanceAs (Decidable (_ → _))
  | .framed .. | .damaged .. | .activated | .timedOut | .allUp | .maintained _ | .synced ..
  | .started .. | .taken _ | .toHost .. => .isTrue trivial

/-- Rounds of the worker and the transmit task alone. -/
def quietRounds (rounds : Nat) : List Action :=
  (List.replicate rounds [.work {}, .transmit .done]).flatten

theorem rounds_quiet (rounds : Nat) : Rounds rounds (quietRounds rounds) := by
  induction rounds with
  | zero => exact .zero _
  | succ rounds ih =>
      exact .succ ⟨{}, List.mem_cons_self⟩
        ⟨.done, List.mem_cons_of_mem _ (List.mem_singleton_self _), Writing.noConfusion⟩ ih

/-- The first line that the board is sent. -/
def versionRequest : Request where
  source := .uart 1 0 0
  line := ascii "VER"
  stamp := { id := 0, sessions := List.replicate 14 0, damages := 0 }

def queueVersion : List Action := [.work {}, .receiveText "@00000001 VER\n"]

theorem uart_replies_exact_version :
    ∃ reply, Answers reply versionRequest ∧
      repliesTo versionRequest ((queueVersion ++ quietRounds serviceRounds).foldl
        (System.step (0 : UInt64).toNat) benchBoot).record.log = [reply] := by
  obtain ⟨-, once⟩ := uart_replies_exact (W := Bench) (F := Partition) (I := Option Nat) 0
    ⟨true, []⟩ erasedChip ⟨fun _ => 0xFF⟩ (queueVersion ++ quietRounds serviceRounds)
  rw [benchBoot]
  exact once queueVersion _ versionRequest rfl (by decide +kernel) (rounds_quiet serviceRounds)
    (by decide +kernel)

end NrfUnifying.Tasks
