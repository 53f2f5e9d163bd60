import Mathlib.Data.List.Forall2
import Mathlib.Logic.Relation

/-!
# Service of requests in order

Requests enter a queue, unless they are refused. One at a time is served and
becomes its reply, which leaves through a channel; others are discarded from the
queue. `Exact` says that nothing is lost, repeated or reordered on the way.
-/

namespace NrfUnifying.Lib.Service

inductive Slot (Request Reply : Type) where
  | idle
  | serving (request : Request)
  | replying (reply : Reply)

/-- All lists are oldest first; `entered` are those of the `submitted` that were not refused. -/
structure Pipeline (Request Reply : Type) where
  submitted : List Request := []
  entered : List Request := []
  queue : List Request := []
  slot : Slot Request Reply := .idle
  channel : List Reply := []
  delivered : List Reply := []
  discarded : List Request := []

section Moves

variable {Request Reply : Type} (valid : Request → Prop) (answers : Reply → Request → Prop)

def Slot.requests : Slot Request Reply → List Request
  | .serving request => [request]
  | .idle | .replying _ => []

def Slot.replies : Slot Request Reply → List Reply
  | .replying reply => [reply]
  | .idle | .serving _ => []

namespace Pipeline

/-- The requests that have no reply yet. -/
def pending (pipeline : Pipeline Request Reply) : List Request :=
  pipeline.slot.requests ++ pipeline.queue

/-- The replies made so far. -/
def replies (pipeline : Pipeline Request Reply) : List Reply :=
  pipeline.delivered ++ pipeline.channel ++ pipeline.slot.replies

inductive Move : Pipeline Request Reply → Pipeline Request Reply → Prop where
  | refuse {pipeline : Pipeline Request Reply} {request : Request} (isValid : valid request) :
      Move pipeline { pipeline with submitted := pipeline.submitted ++ [request] }
  | submit {pipeline : Pipeline Request Reply} {request : Request} (isValid : valid request) :
      Move pipeline { pipeline with
        submitted := pipeline.submitted ++ [request]
        entered := pipeline.entered ++ [request]
        queue := pipeline.queue ++ [request] }
  | discard {pipeline : Pipeline Request Reply} {request : Request} {rest : List Request}
      (queue : pipeline.queue = request :: rest) :
      Move pipeline { pipeline with
        queue := rest, discarded := pipeline.discarded ++ [request] }
  | serve {pipeline : Pipeline Request Reply} {request : Request} {rest : List Request}
      (idle : pipeline.slot = .idle) (queue : pipeline.queue = request :: rest) :
      Move pipeline { pipeline with queue := rest, slot := .serving request }
  | reply {pipeline : Pipeline Request Reply} {request : Request} {made : Reply}
      (serving : pipeline.slot = .serving request) (answer : answers made request) :
      Move pipeline { pipeline with slot := .replying made }
  | send {pipeline : Pipeline Request Reply} {made : Reply}
      (replying : pipeline.slot = .replying made) :
      Move pipeline { pipeline with slot := .idle, channel := pipeline.channel ++ [made] }
  | deliver {pipeline : Pipeline Request Reply} {made : Reply} {rest : List Reply}
      (channel : pipeline.channel = made :: rest) :
      Move pipeline { pipeline with
        channel := rest, delivered := pipeline.delivered ++ [made] }

/-- The replies answer, in order, a part of the requests that entered; the others of these are
pending behind it or were discarded. -/
structure Exact (pipeline : Pipeline Request Reply) : Prop where
  valid : ∀ request ∈ pipeline.submitted, valid request
  entered : pipeline.entered.Sublist pipeline.submitted
  answered : ∃ answered, List.Forall₂ answers pipeline.replies answered ∧
    (answered ++ pipeline.pending).Sublist pipeline.entered ∧
    (answered ++ pipeline.pending ++ pipeline.discarded).Perm pipeline.entered

variable {valid answers} {pipeline after : Pipeline Request Reply}

theorem Exact.empty : Exact valid answers ({} : Pipeline Request Reply) where
  valid _ member := absurd member List.not_mem_nil
  entered := .refl _
  answered := ⟨[], .nil, .refl _, .refl _⟩

theorem Exact.refuse (exact : Exact valid answers pipeline) {request : Request}
    (isValid : valid request) :
    Exact valid answers { pipeline with submitted := pipeline.submitted ++ [request] } where
  valid other member := by
    rcases List.mem_append.mp member with old | new
    · exact exact.valid other old
    · rwa [List.mem_singleton.mp new]
  entered := exact.entered.trans (List.sublist_append_left _ _)
  answered := exact.answered

theorem Exact.submit (exact : Exact valid answers pipeline) {request : Request}
    (isValid : valid request) :
    Exact valid answers { pipeline with
      submitted := pipeline.submitted ++ [request]
      entered := pipeline.entered ++ [request]
      queue := pipeline.queue ++ [request] } where
  valid := (exact.refuse isValid).valid
  entered := exact.entered.append (.refl _)
  answered := by
    obtain ⟨answered, replied, order, conserved⟩ := exact.answered
    refine ⟨answered, replied, ?_, ?_⟩
    · rw [pending, ← List.append_assoc, ← List.append_assoc, List.append_assoc answered]
      exact order.append (.refl _)
    · have moved : (answered ++ (pipeline.slot.requests ++ (pipeline.queue ++ [request])) ++
          pipeline.discarded).Perm
          (answered ++ pipeline.pending ++ pipeline.discarded ++ [request]) := by
        rw [pending]
        simp only [List.append_assoc]
        exact ((((List.perm_append_comm).append_left _).append_left _).append_left _)
      exact moved.trans (conserved.append_right _)

theorem Exact.discard (exact : Exact valid answers pipeline) {request : Request}
    {rest : List Request} (queue : pipeline.queue = request :: rest) :
    Exact valid answers { pipeline with
      queue := rest, discarded := pipeline.discarded ++ [request] } where
  valid := exact.valid
  entered := exact.entered
  answered := by
    obtain ⟨answered, replied, order, conserved⟩ := exact.answered
    rw [pending, queue] at order conserved
    refine ⟨answered, replied, .trans ?_ order, .trans ?_ conserved⟩
    · exact ((List.sublist_cons_self _ _).append_left _).append_left _
    · rw [pending]
      simp only [List.append_assoc, List.cons_append]
      refine (List.Perm.append_left _ ?_).append_left _
      rw [← List.append_assoc]
      exact List.perm_append_singleton _ _

/-- A step of the slot keeps the replies and what is pending together in place. -/
theorem Exact.congr (exact : Exact valid answers pipeline) (replied : List Reply)
    (submitted : after.submitted = pipeline.submitted) (entered : after.entered = pipeline.entered)
    (discarded : after.discarded = pipeline.discarded)
    (replies : after.replies = pipeline.replies ++ replied)
    (pending : ∃ requests, List.Forall₂ answers replied requests ∧
      pipeline.pending = requests ++ after.pending) : Exact valid answers after where
  valid := submitted ▸ exact.valid
  entered := by rw [submitted, entered]; exact exact.entered
  answered := by
    obtain ⟨answered, before, order, conserved⟩ := exact.answered
    obtain ⟨requests, matched, rest⟩ := pending
    rw [rest, ← List.append_assoc] at order conserved
    refine ⟨answered ++ requests, ?_, ?_, ?_⟩
    · rw [replies]
      exact List.rel_append before matched
    · rwa [entered]
    · rwa [entered, discarded]

/-- Every move keeps the pipeline exact. -/
theorem Exact.move (exact : Exact valid answers pipeline)
    (move : Move valid answers pipeline after) : Exact valid answers after := by
  cases move with
  | refuse isValid => exact exact.refuse isValid
  | submit isValid => exact exact.submit isValid
  | discard queue => exact exact.discard queue
  | serve idle queue =>
      refine exact.congr [] rfl rfl rfl ?_ ⟨[], .nil, ?_⟩
      · simp [replies, Slot.replies, idle]
      · simp [pending, Slot.requests, idle, queue]
  | @reply request made serving answer =>
      refine exact.congr [made] rfl rfl rfl ?_ ⟨[request], .cons answer .nil, ?_⟩
      · simp [replies, Slot.replies, serving]
      · simp [pending, Slot.requests, serving]
  | send replying =>
      refine exact.congr [] rfl rfl rfl ?_ ⟨[], .nil, ?_⟩
      · simp [replies, Slot.replies, replying]
      · simp [pending, Slot.requests, replying]
  | deliver channel =>
      refine exact.congr [] rfl rfl rfl ?_ ⟨[], .nil, rfl⟩
      simp [replies, channel]

theorem Exact.moves (exact : Exact valid answers pipeline)
    (moves : Relation.ReflTransGen (Move valid answers) pipeline after) :
    Exact valid answers after := by
  induction moves with
  | refl => exact exact
  | tail _ move ih => exact ih.move move

/-! ## What follows -/

/-- The delivered replies answer a part of the submitted requests, in order. -/
theorem Exact.delivered (exact : Exact valid answers pipeline) :
    ∃ answered, answered.Sublist pipeline.submitted ∧
      List.Forall₂ answers pipeline.delivered answered := by
  obtain ⟨answered, replied, order, -⟩ := exact.answered
  refine ⟨answered.take pipeline.delivered.length, ?_, ?_⟩
  · exact ((List.take_sublist _ _).trans (List.sublist_append_left _ _)).trans
      (order.trans exact.entered)
  · have start := List.forall₂_take pipeline.delivered.length replied
    rwa [replies, List.append_assoc, List.take_left] at start

/-- Every request that entered was discarded, is pending or has a reply. -/
theorem Exact.entered_mem (exact : Exact valid answers pipeline) {request : Request}
    (entered : request ∈ pipeline.entered) :
    request ∈ pipeline.discarded ∨ request ∈ pipeline.pending ∨
      ∃ made ∈ pipeline.replies, answers made request := by
  obtain ⟨answered, replied, -, conserved⟩ := exact.answered
  rcases List.mem_append.mp (conserved.mem_iff.mpr entered) with inside | discarded
  · rcases List.mem_append.mp inside with done | pending
    · obtain ⟨index, bound, rfl⟩ := List.getElem_of_mem done
      have inside : index < pipeline.replies.length := by rwa [replied.length_eq]
      exact .inr (.inr ⟨_, List.getElem_mem inside, replied.get inside bound⟩)
    · exact .inr (.inl pending)
  · exact .inl discarded

/-- When a key that replies share with their requests tells requests apart, no request has two
replies. -/
theorem Exact.nodup {Key : Type} (exact : Exact valid answers pipeline) (key : Request → Key)
    (replyKey : Reply → Key) (same : ∀ reply request, answers reply request →
      replyKey reply = key request) (distinct : (pipeline.submitted.map key).Nodup) :
    (pipeline.delivered.map replyKey).Nodup := by
  obtain ⟨answered, order, replied⟩ := exact.delivered
  have keys : pipeline.delivered.map replyKey = answered.map key := by
    rw [← List.forall₂_eq_eq_eq]
    exact List.rel_map (P := (· = ·)) (fun _ _ answer => same _ _ answer) replied
  rw [keys]
  exact distinct.sublist (order.map key)

end Pipeline

end Moves

/-- A key that tells items apart picks out one of them. -/
theorem filter_key_eq {Item Key : Type} [DecidableEq Key] (key : Item → Key) {items : List Item}
    (distinct : (items.map key).Nodup) {item : Item} (member : item ∈ items) :
    items.filter (fun other => key other = key item) = [item] := by
  induction items with
  | nil => exact absurd member List.not_mem_nil
  | cons first rest ih =>
      rw [List.map_cons, List.nodup_cons] at distinct
      rcases List.mem_cons.mp member with rfl | later
      · rw [List.filter_cons_of_pos (by rw [decide_eq_true_eq]), List.cons_inj_right,
          List.filter_eq_nil_iff]
        intro other inside same
        rw [← of_decide_eq_true same] at distinct
        exact distinct.1 (List.mem_map_of_mem inside)
      · rw [List.filter_cons_of_neg, ih distinct.2 later]
        rw [decide_eq_true_eq]
        intro same
        rw [same] at distinct
        exact distinct.1 (List.mem_map_of_mem later)

end NrfUnifying.Lib.Service
