import NrfUnifying.Lib.Deadlines
import NrfUnifying.Lib.Framing
import NrfUnifying.Radio.Device
import NrfUnifying.Uart.Smoke

/-!
# The tasks of the diagnostic build

One task reads the UART into the parser, the other sends a ping a second. Six
counters that saturate record what they do. The driver takes a ping in parts of
any sizes, and a write may fail in the middle of one.
-/

namespace NrfUnifying.UartSmoke

open Lib.Bytes Lib.Deadlines Lib.Framing
open UartLink (numberDigits)

/-! ## Counters -/

/-- `u32::saturating_add` -/
def saturatingAdd (old value : UInt32) : UInt32 :=
  if old.toNat + value.toNat < 2 ^ 32 then old + value else .ofNat (2 ^ 32 - 1)

/-- Received bytes, peer frames, bad frames, UART errors, the last sequence, sent frames. -/
abbrev Counters := Vector UInt32 6

def add (counters : Counters) (index : Fin 6) (value : UInt32) : Counters :=
  counters.set index (saturatingAdd counters[index] value)

def receivedBytes (counters : Counters) (count : Nat) : Counters := add counters 0 (.ofNat count)
def badFrame (counters : Counters) : Counters := add counters 2 1
def uartError (counters : Counters) : Counters := add counters 3 1

def receivedPeer (counters : Counters) (sequence : UInt32) : Counters :=
  (add counters 1 1).set 4 sequence (Nat.le_succ 5)

def transmittedFrame (counters : Counters) : Counters := add counters 5 1

/-! ## Tasks -/

/-- `Duration::from_secs(1)` -/
def interval : Nat := Radio.tickHz

theorem interval_pos : 0 < interval := by decide

/-- A ping without its marker and its LF. -/
def pingBody (sequence : UInt32) : List UInt8 := ascii "NRF52840 PING " ++ numberDigits sequence

/-- Both tasks, with the time, what the driver took, and how much of each ping it took. -/
structure Diagnosis where
  counters : Counters := .replicate 6 0
  parser : Parser := {}
  clock : Nat
  deadline : Nat
  sequence : UInt32 := 1
  /-- The rest of the ping that is being written. -/
  unsent : Option (List UInt8) := none
  wire : List UInt8 := []
  taken : Nat := 0
  pings : List (Piece UInt8) := []

inductive Action where
  | pass (ticks : Nat)
  | receive (bytes : List UInt8)
  | receiveError
  | start
  | accept (count : Nat)
  | refuse
  deriving DecidableEq, Repr

def Diagnosis.boot (start : Nat) : Diagnosis where
  clock := start
  deadline := start + interval

def count (counters : Counters) : Option Frame → Counters
  | some (.peer sequence) => receivedPeer counters sequence
  | some .bad => badFrame counters
  | none => counters

def Diagnosis.push (diagnosis : Diagnosis) (byte : UInt8) : Diagnosis :=
  let (frame, parser) := diagnosis.parser.push byte
  { diagnosis with parser, counters := count diagnosis.counters frame }

/-- A read of the UART brings at most 256 bytes. -/
def Diagnosis.receive (diagnosis : Diagnosis) (bytes : List UInt8) : Diagnosis :=
  let bytes := bytes.take 256
  bytes.foldl Diagnosis.push
    { diagnosis with counters := receivedBytes diagnosis.counters bytes.length }

def Diagnosis.receiveError (diagnosis : Diagnosis) : Diagnosis :=
  let counters := uartError diagnosis.counters
  let (new, parser) := diagnosis.parser.damaged
  { diagnosis with parser, counters := if new then badFrame counters else counters }

/-- The ping that is being written, or that is next. -/
def Diagnosis.writing (diagnosis : Diagnosis) : Piece UInt8 :=
  ⟨pingBody diagnosis.sequence, diagnosis.taken⟩

/-- A ping is over; the next one has the next number. -/
def Diagnosis.finish (diagnosis : Diagnosis) (counters : Counters) : Diagnosis :=
  { diagnosis with
    counters
    unsent := none
    sequence := diagnosis.sequence + 1
    deadline := catchUp interval_pos diagnosis.deadline diagnosis.clock
    taken := 0
    pings := diagnosis.pings ++ [diagnosis.writing] }

def Diagnosis.start (diagnosis : Diagnosis) : Diagnosis :=
  if diagnosis.unsent.isNone ∧ diagnosis.deadline ≤ diagnosis.clock then
    { diagnosis with unsent := some (encodePing diagnosis.sequence) }
  else diagnosis

/-- The driver takes the next bytes of the ping. -/
def Diagnosis.accept (diagnosis : Diagnosis) (count : Nat) : Diagnosis :=
  match diagnosis.unsent with
  | none => diagnosis
  | some rest =>
      let diagnosis := { diagnosis with
        wire := diagnosis.wire ++ rest.take count
        taken := diagnosis.taken + (rest.take count).length }
      if (rest.drop count).isEmpty then diagnosis.finish (transmittedFrame diagnosis.counters)
      else { diagnosis with unsent := some (rest.drop count) }

def Diagnosis.refuse (diagnosis : Diagnosis) : Diagnosis :=
  if diagnosis.unsent.isSome then diagnosis.finish (uartError diagnosis.counters) else diagnosis

def Diagnosis.step (diagnosis : Diagnosis) : Action → Diagnosis
  | .pass ticks => { diagnosis with clock := diagnosis.clock + ticks }
  | .receive bytes => diagnosis.receive bytes
  | .receiveError => diagnosis.receiveError
  | .start => diagnosis.start
  | .accept count => diagnosis.accept count
  | .refuse => diagnosis.refuse

/-- What the parser sees of an action. -/
def Action.events : Action → List Event
  | .receive bytes => (bytes.take 256).map .push
  | .receiveError => [.damaged]
  | .pass _ | .start | .accept _ | .refuse => []

def Event.isPush : Event → Bool
  | .push _ => true
  | .damaged => false

/-! ## What the counters count -/

/-- A count as a counter shows it. -/
def counted (number : Nat) : UInt32 := .ofNat (min number (2 ^ 32 - 1))

def Yield.sequence (yield : Yield) : Option UInt32 :=
  match yield.frame with
  | some (.peer sequence) => some sequence
  | _ => none

def lastSequence (yields : List Yield) : UInt32 :=
  (yields.filterMap Yield.sequence).getLastD 0

/-- The counters after some bytes, yields, errors and pings that were sent. -/
def tally (received : Nat) (yields : List Yield) (errors sent : Nat) : Counters :=
  #v[counted received, counted (yields.countP Yield.isPeer),
    counted (yields.countP Yield.isBad + yields.countP Yield.newlyDamaged), counted errors,
    lastSequence yields, counted sent]

theorem counted_toNat (number : Nat) : (counted number).toNat = min number (2 ^ 32 - 1) := by
  unfold counted
  rw [UInt32.toNat_ofNat']
  exact Nat.mod_eq_of_lt (by omega)

theorem saturatingAdd_counted (number : Nat) (value : UInt32) :
    saturatingAdd (counted number) value = counted (number + value.toNat) := by
  have small := value.toNat_lt
  have shown := counted_toNat number
  apply UInt32.toNat_inj.mp
  rw [counted_toNat]
  unfold saturatingAdd
  split
  next room => rw [UInt32.toNat_add, Nat.mod_eq_of_lt room]; omega
  next full =>
    change 2 ^ 32 - 1 = _
    omega

section Tally

variable (received : Nat) (yields : List Yield) (errors sent : Nat)

theorem receivedBytes_tally {count : Nat} (small : count < 2 ^ 32) :
    receivedBytes (tally received yields errors sent) count =
      tally (received + count) yields errors sent := by
  have value : (UInt32.ofNat count).toNat = count := by
    rw [UInt32.toNat_ofNat', Nat.mod_eq_of_lt small]
  have first := saturatingAdd_counted received (.ofNat count)
  rw [value] at first
  unfold tally
  rw [← first]
  rfl

theorem uartError_tally : uartError (tally received yields errors sent) =
    tally received yields (errors + 1) sent := by
  have fourth := saturatingAdd_counted errors 1
  unfold tally
  rw [show errors + 1 = errors + (1 : UInt32).toNat from rfl, ← fourth]
  rfl

theorem transmittedFrame_tally : transmittedFrame (tally received yields errors sent) =
    tally received yields errors (sent + 1) := by
  have last := saturatingAdd_counted sent 1
  unfold tally
  rw [show sent + 1 = sent + (1 : UInt32).toNat from rfl, ← last]
  rfl

theorem count_tally (frame : Option Frame) :
    count (tally received yields errors sent) frame =
      tally received (yields ++ [⟨frame, false⟩]) errors sent := by
  have peers := saturatingAdd_counted (yields.countP Yield.isPeer) 1
  have bads :=
    saturatingAdd_counted (yields.countP Yield.isBad + yields.countP Yield.newlyDamaged) 1
  unfold tally lastSequence
  rw [List.countP_append, List.countP_append, List.countP_append, List.filterMap_append]
  cases frame with
  | none => simp [count, Yield.isPeer, Yield.isBad, Yield.sequence, List.filterMap_cons]
  | some frame =>
      cases frame with
      | peer sequence =>
          have last : (yields.filterMap Yield.sequence ++ [sequence]).getLastD 0 = sequence := by
            simp
          change _ = #v[_, counted (_ + 1), counted (_ + 0 + (_ + 0)), _,
            (yields.filterMap Yield.sequence ++ [sequence]).getLastD 0, _]
          rw [last]
          exact congrArg (fun peers => #v[_, peers, _, _, _, _]) peers
      | bad =>
          change _ = #v[_, counted (_ + 0), counted (_ + 1 + (_ + 0)), _,
            (yields.filterMap Yield.sequence ++ []).getLastD 0, _]
          rw [List.append_nil, Nat.add_right_comm]
          exact congrArg (fun bads => #v[_, _, bads, _, _, _]) bads

theorem damaged_tally (new : Bool) :
    (if new then badFrame (tally received yields errors sent)
      else tally received yields errors sent) =
      tally received (yields ++ [⟨none, new⟩]) errors sent := by
  have bads :=
    saturatingAdd_counted (yields.countP Yield.isBad + yields.countP Yield.newlyDamaged) 1
  unfold tally lastSequence
  rw [List.countP_append, List.countP_append, List.countP_append, List.filterMap_append]
  cases new with
  | false => simp [Yield.isPeer, Yield.isBad, Yield.sequence, List.filterMap_cons]
  | true =>
      change _ = #v[_, counted (_ + 0), counted (_ + 0 + (_ + 1)), _,
        (yields.filterMap Yield.sequence ++ []).getLastD 0, _]
      rw [List.append_nil]
      exact congrArg (fun bads => #v[_, _, bads, _, _, _]) bads

end Tally

/-! ## Reading -/

theorem yields_snoc (parser : Parser) (events : List Event) (event : Event) :
    parser.yields (events ++ [event]) =
      parser.yields events ++ [(events.foldl Parser.next parser).yield event] := by
  induction events generalizing parser with
  | nil => rfl
  | cons first rest ih => exact congrArg (_ :: ·) (ih (parser.next first))

/-- The parser and the counters after some events, whose bytes may be counted ahead. -/
structure Diagnosis.Reads (diagnosis : Diagnosis) (received : Nat) (events : List Event)
    (errors sent : Nat) : Prop where
  parser : diagnosis.parser = events.foldl Parser.next {}
  counters : diagnosis.counters = tally received (({} : Parser).yields events) errors sent

section Reads

variable {diagnosis : Diagnosis} {received : Nat} {events : List Event} {errors sent : Nat}

theorem Diagnosis.Reads.push (reads : diagnosis.Reads received events errors sent) (byte : UInt8) :
    (diagnosis.push byte).Reads received (events ++ [.push byte]) errors sent := by
  constructor
  · rw [List.foldl_append, ← reads.parser]
    rfl
  · rw [yields_snoc, ← reads.parser]
    change count diagnosis.counters (diagnosis.parser.push byte).1 = _
    rw [reads.counters]
    exact count_tally _ _ _ _ _

theorem Diagnosis.Reads.pushes (reads : diagnosis.Reads received events errors sent)
    (bytes : List UInt8) : (bytes.foldl Diagnosis.push diagnosis).Reads received
      (events ++ bytes.map .push) errors sent := by
  induction bytes generalizing diagnosis events with
  | nil =>
      rw [List.map_nil, List.append_nil]
      exact reads
  | cons byte rest ih =>
      have later := ih (reads.push byte)
      rw [List.append_assoc] at later
      exact later

theorem Diagnosis.Reads.receive (reads : diagnosis.Reads received events errors sent)
    (bytes : List UInt8) : (diagnosis.receive bytes).Reads (received + (bytes.take 256).length)
      (events ++ (bytes.take 256).map .push) errors sent := by
  have small : (bytes.take 256).length < 2 ^ 32 :=
    Nat.lt_of_le_of_lt (List.length_take_le 256 bytes) (by decide)
  have counters := receivedBytes_tally received (({} : Parser).yields events) errors sent small
  rw [← reads.counters] at counters
  have started : Diagnosis.Reads
      { diagnosis with counters := receivedBytes diagnosis.counters (bytes.take 256).length }
      (received + (bytes.take 256).length) events errors sent := ⟨reads.parser, counters⟩
  exact started.pushes _

theorem Diagnosis.Reads.receiveError (reads : diagnosis.Reads received events errors sent) :
    diagnosis.receiveError.Reads received (events ++ [.damaged]) (errors + 1) sent := by
  constructor
  · rw [List.foldl_append, ← reads.parser]
    rfl
  · rw [yields_snoc, ← reads.parser]
    change (if diagnosis.parser.damaged.1 then badFrame (uartError diagnosis.counters)
      else uartError diagnosis.counters) = _
    rw [reads.counters, uartError_tally]
    exact damaged_tally _ _ _ _ _

end Reads

/-! ## Writing -/

def marker : UInt8 := 0x23
def lineEnd : UInt8 := 0x0A

theorem encodePing_frame (sequence : UInt32) :
    encodePing sequence = frame marker lineEnd (pingBody sequence) := by
  rw [encodePing_eq]
  rfl

theorem pingBody_length (sequence : UInt32) : (pingBody sequence).length = 22 := by
  unfold pingBody
  rw [List.length_append, UartLink.numberDigits_length]
  rfl

theorem encodePing_length (sequence : UInt32) : (encodePing sequence).length = 24 := by
  have body := pingBody_length sequence
  rw [encodePing_frame]
  unfold frame
  rw [List.length_cons, List.length_append, body]
  rfl

theorem pingBody_plain (sequence : UInt32) (sent : Nat) :
    (⟨pingBody sequence, sent⟩ : Piece UInt8).Plain marker lineEnd := by
  have digits (byte : UInt8) (member : byte ∈ numberDigits sequence) :
      byte ∈ UartLink.upperDigits := UartLink.numberDigits_upper sequence byte member
  constructor
  · intro inside
    rcases List.mem_append.mp inside with word | digit
    · exact absurd word (by decide)
    · exact absurd (digits _ digit) (by decide)
  · intro inside
    rcases List.mem_append.mp inside with word | digit
    · exact absurd word (by decide)
    · exact absurd (digits _ digit) (by decide)

/-- What the sending task has done since it started. -/
structure Diagnosis.Sent (diagnosis : Diagnosis) (start : Nat) : Prop where
  bodies : diagnosis.pings.map Piece.body =
    (List.range diagnosis.pings.length).map fun i => pingBody (.ofNat (i + 1))
  sequence : diagnosis.sequence = .ofNat (diagnosis.pings.length + 1)
  wire : diagnosis.wire =
    (diagnosis.pings ++ [diagnosis.writing]).flatMap (Piece.stream marker lineEnd)
  onGrid : OnGrid start interval diagnosis.pings.length diagnosis.deadline diagnosis.clock

/-- A ping is written only when it is due. -/
structure Diagnosis.Sends (diagnosis : Diagnosis) (start : Nat) : Prop
    extends diagnosis.Sent start where
  rest : diagnosis.unsent = none ∧ diagnosis.taken = 0 ∨
    diagnosis.unsent = some ((encodePing diagnosis.sequence).drop diagnosis.taken) ∧
      diagnosis.taken < 24 ∧ diagnosis.deadline ≤ diagnosis.clock

section Sends

variable {diagnosis : Diagnosis} {origin : Nat}

theorem Diagnosis.Sends.boot (origin : Nat) : (Diagnosis.boot origin).Sends origin where
  bodies := rfl
  sequence := rfl
  wire := rfl
  rest := .inl ⟨rfl, rfl⟩
  onGrid := OnGrid.first origin interval

/-- The ping that is being written is over. -/
theorem Diagnosis.Sent.finish (sent : diagnosis.Sent origin)
    (due : diagnosis.deadline ≤ diagnosis.clock) (counters : Counters) :
    (diagnosis.finish counters).Sends origin := by
  have length : (diagnosis.pings ++ [diagnosis.writing]).length = diagnosis.pings.length + 1 :=
    List.length_append
  refine ⟨⟨?_, ?_, ?_, ?_⟩, .inl ⟨rfl, rfl⟩⟩
  · change (diagnosis.pings ++ [diagnosis.writing]).map Piece.body =
      (List.range (diagnosis.pings ++ [diagnosis.writing]).length).map _
    rw [length, List.range_succ, List.map_append, List.map_append, sent.bodies]
    change _ ++ [pingBody diagnosis.sequence] = _
    rw [sent.sequence]
    rfl
  · change diagnosis.sequence + 1 = .ofNat ((diagnosis.pings ++ [diagnosis.writing]).length + 1)
    rw [length, sent.sequence, UInt32.ofNat_add (diagnosis.pings.length + 1)]
    rfl
  · change diagnosis.wire = ((diagnosis.pings ++ [diagnosis.writing]) ++
      [(diagnosis.finish counters).writing]).flatMap _
    rw [List.flatMap_append, ← sent.wire]
    exact (List.append_nil _).symm
  · change OnGrid origin interval (diagnosis.pings ++ [diagnosis.writing]).length _ _
    rw [length]
    exact sent.onGrid.run interval_pos due

/-- More of the ping is on the wire. -/
theorem Diagnosis.Sent.took (sent : diagnosis.Sent origin) {chunk : List UInt8} {count : Nat}
    (more : ((encodePing diagnosis.sequence).drop diagnosis.taken).take count = chunk) :
    Diagnosis.Sent { diagnosis with
      wire := diagnosis.wire ++ chunk, taken := diagnosis.taken + chunk.length } origin := by
  rw [encodePing_frame] at more
  refine ⟨sent.bodies, sent.sequence, ?_, sent.onGrid⟩
  change diagnosis.wire ++ chunk = (diagnosis.pings ++
    [(⟨pingBody diagnosis.sequence, diagnosis.taken + chunk.length⟩ : Piece UInt8)]).flatMap _
  rw [sent.wire, List.flatMap_append, List.flatMap_append, List.flatMap_singleton,
    List.flatMap_singleton, Piece.stream_grow more, List.append_assoc]
  rfl

/-- What the sending task counts when a ping is over. -/
inductive Diagnosis.Counts (before after : Diagnosis) : Prop where
  | nothing (parser : after.parser = before.parser) (counters : after.counters = before.counters)
      (pings : after.pings = before.pings)
  | sent (ping : Piece UInt8) (whole : ping.whole = true) (parser : after.parser = before.parser)
      (counters : after.counters = transmittedFrame before.counters)
      (pings : after.pings = before.pings ++ [ping])
  | failed (ping : Piece UInt8) (cut : ping.whole = false) (parser : after.parser = before.parser)
      (counters : after.counters = uartError before.counters)
      (pings : after.pings = before.pings ++ [ping])

theorem Diagnosis.Sends.writing_cut (sends : diagnosis.Sends origin) :
    diagnosis.writing.whole = false := by
  unfold Diagnosis.writing Piece.whole
  rw [decide_eq_false_iff_not, pingBody_length]
  change ¬24 ≤ diagnosis.taken
  rcases sends.rest with ⟨-, nothing⟩ | ⟨-, short, -⟩
  · rw [nothing]
    decide
  · exact Nat.not_le.mpr short

/-- The driver takes some bytes: the ping is sent, or there is a rest of it. -/
theorem Diagnosis.Sends.accept (sends : diagnosis.Sends origin) (count : Nat) :
    (diagnosis.accept count).Sends origin ∧ diagnosis.Counts (diagnosis.accept count) := by
  unfold Diagnosis.accept
  rcases sends.rest with ⟨idle, -⟩ | ⟨busy, short, due⟩
  · rw [idle]
    exact ⟨sends, .nothing rfl rfl rfl⟩
  · rw [busy]
    dsimp only
    generalize restIs : (encodePing diagnosis.sequence).drop diagnosis.taken = rest
    have length : rest.length = 24 - diagnosis.taken := by
      rw [← restIs, List.length_drop, encodePing_length]
    have chunk : (rest.take count).length = min count rest.length := List.length_take
    have took := sends.took (congrArg (List.take count) restIs)
    by_cases all : (rest.drop count).isEmpty = true
    · rw [if_pos all]
      have beyond : rest.length ≤ count := List.drop_eq_nil_iff.mp (List.isEmpty_iff.mp all)
      have whole : (⟨pingBody diagnosis.sequence,
          diagnosis.taken + (rest.take count).length⟩ : Piece UInt8).whole = true := by
        unfold Piece.whole
        rw [decide_eq_true_eq, pingBody_length]
        change 24 ≤ diagnosis.taken + (rest.take count).length
        omega
      exact ⟨took.finish due _, .sent _ whole rfl rfl rfl⟩
    · rw [if_neg all]
      have inside : count < rest.length := by
        by_contra beyond
        rw [List.drop_eq_nil_of_le (Nat.not_lt.mp beyond)] at all
        exact all rfl
      rw [Nat.min_eq_left (Nat.le_of_lt inside)] at chunk
      refine ⟨⟨⟨took.bodies, took.sequence, took.wire, took.onGrid⟩, .inr ⟨?_, ?_, due⟩⟩,
        .nothing rfl rfl rfl⟩
      · change some (rest.drop count) = some (_ : List UInt8)
        rw [chunk, ← List.drop_drop, restIs]
      · change diagnosis.taken + (rest.take count).length < 24
        omega

/-- A write fails: the ping is given up. -/
theorem Diagnosis.Sends.refuse (sends : diagnosis.Sends origin) :
    diagnosis.refuse.Sends origin ∧ diagnosis.Counts diagnosis.refuse := by
  unfold Diagnosis.refuse
  rcases sends.rest with ⟨idle, -⟩ | ⟨busy, -, due⟩
  · rw [idle]
    exact ⟨sends, .nothing rfl rfl rfl⟩
  · rw [busy]
    exact ⟨sends.finish due _, .failed _ sends.writing_cut rfl rfl rfl⟩

theorem Diagnosis.Sends.start (sends : diagnosis.Sends origin) :
    diagnosis.start.Sends origin ∧ diagnosis.Counts diagnosis.start := by
  unfold Diagnosis.start
  split
  next ready =>
    obtain ⟨idle, due⟩ := ready
    rcases sends.rest with ⟨-, nothing⟩ | ⟨busy, -⟩
    · refine ⟨⟨⟨sends.bodies, sends.sequence, sends.wire, sends.onGrid⟩, .inr ⟨?_, ?_, due⟩⟩,
        .nothing rfl rfl rfl⟩
      · change some (encodePing diagnosis.sequence) = some (List.drop diagnosis.taken _)
        rw [nothing]
        rfl
      · change diagnosis.taken < 24
        omega
    · rw [busy] at idle
      cases idle
  · exact ⟨sends, .nothing rfl rfl rfl⟩

theorem Diagnosis.Sends.pass (sends : diagnosis.Sends origin) (ticks : Nat) :
    Diagnosis.Sends { diagnosis with clock := diagnosis.clock + ticks } origin := by
  have later : diagnosis.clock ≤ diagnosis.clock + ticks := Nat.le_add_right _ _
  refine ⟨⟨sends.bodies, sends.sequence, sends.wire, sends.onGrid.wait later⟩, ?_⟩
  exact sends.rest.imp_right fun ⟨busy, short, due⟩ => ⟨busy, short, Nat.le_trans due later⟩

end Sends

/-! ## Both tasks -/

/-- What reading changes. -/
structure Diagnosis.Aside (before after : Diagnosis) : Prop where
  same : after = { before with parser := after.parser, counters := after.counters }

theorem Diagnosis.Aside.pushes (diagnosis : Diagnosis) (bytes : List UInt8) :
    diagnosis.Aside (bytes.foldl Diagnosis.push diagnosis) := by
  induction bytes generalizing diagnosis with
  | nil => exact ⟨rfl⟩
  | cons byte rest ih =>
      have later := (ih (diagnosis.push byte)).same
      exact ⟨later⟩

theorem Diagnosis.Sends.aside {before after : Diagnosis} {origin : Nat}
    (sends : before.Sends origin) (aside : before.Aside after) : after.Sends origin := by
  rw [aside.same]
  exact ⟨⟨sends.bodies, sends.sequence, sends.wire, sends.onGrid⟩, sends.rest⟩

/-- What the tasks have read and sent after some events. -/
structure Diagnosis.Tracked (diagnosis : Diagnosis) (origin : Nat) (events : List Event) :
    Prop where
  reads : diagnosis.Reads (events.countP Event.isPush) events
    (events.count .damaged + cuts diagnosis.pings) (diagnosis.pings.countP Piece.whole)
  sends : diagnosis.Sends origin

section Tracked

variable {diagnosis after : Diagnosis} {origin : Nat} {events : List Event}

theorem Diagnosis.Tracked.boot (origin : Nat) : (Diagnosis.boot origin).Tracked origin [] where
  reads := ⟨rfl, rfl⟩
  sends := .boot origin

/-- A step of the sending task counts each ping once. -/
theorem Diagnosis.Tracked.counts (tracked : diagnosis.Tracked origin events)
    (sends : after.Sends origin) (counts : diagnosis.Counts after) :
    after.Tracked origin events := by
  refine ⟨?_, sends⟩
  cases counts with
  | nothing parser counters pings =>
      rw [pings]
      exact ⟨parser.trans tracked.reads.parser, counters.trans tracked.reads.counters⟩
  | sent ping whole parser counters pings =>
      refine ⟨parser.trans tracked.reads.parser, ?_⟩
      have none : cuts [ping] = 0 := List.countP_eq_zero.mpr (by simpa using whole)
      have one : [ping].countP Piece.whole = 1 := by simp [whole]
      rw [counters, tracked.reads.counters, pings, cuts_append, none, List.countP_append, one]
      exact transmittedFrame_tally _ _ _ _
  | failed ping cut parser counters pings =>
      refine ⟨parser.trans tracked.reads.parser, ?_⟩
      have one : cuts [ping] = 1 := by simp [cuts, cut]
      have none : [ping].countP Piece.whole = 0 := List.countP_eq_zero.mpr (by simpa using cut)
      rw [counters, tracked.reads.counters, pings, cuts_append, one, List.countP_append, none]
      exact uartError_tally _ _ _ _

theorem Diagnosis.Tracked.step (tracked : diagnosis.Tracked origin events) (action : Action) :
    (diagnosis.step action).Tracked origin (events ++ action.events) := by
  cases action with
  | pass ticks =>
      rw [Action.events, List.append_nil]
      exact ⟨⟨tracked.reads.parser, tracked.reads.counters⟩, tracked.sends.pass ticks⟩
  | receive bytes =>
      have aside : diagnosis.Aside (diagnosis.receive bytes) :=
        ⟨(Diagnosis.Aside.pushes { diagnosis with
          counters := receivedBytes diagnosis.counters (bytes.take 256).length } _).same⟩
      have pings : (diagnosis.receive bytes).pings = diagnosis.pings := by rw [aside.same]
      have reads := tracked.reads.receive bytes
      have pushes : (events ++ (bytes.take 256).map Event.push).countP Event.isPush =
          events.countP Event.isPush + (bytes.take 256).length := by
        have all : ((bytes.take 256).map Event.push).countP Event.isPush =
            ((bytes.take 256).map Event.push).length := by
          refine List.countP_eq_length.mpr fun event member => ?_
          obtain ⟨byte, -, rfl⟩ := List.mem_map.mp member
          rfl
        rw [List.countP_append, all, List.length_map]
      have damages : (events ++ (bytes.take 256).map Event.push).count .damaged =
          events.count .damaged := by
        have none : ((bytes.take 256).map Event.push).count .damaged = 0 := by
          refine List.count_eq_zero.mpr fun member => ?_
          obtain ⟨byte, -, impossible⟩ := List.mem_map.mp member
          cases impossible
        rw [List.count_append, none, Nat.add_zero]
      refine ⟨?_, tracked.sends.aside aside⟩
      change (diagnosis.receive bytes).Reads _ _ (_ + cuts (diagnosis.receive bytes).pings)
        ((diagnosis.receive bytes).pings.countP _)
      rw [pings]
      change (diagnosis.receive bytes).Reads
        ((events ++ (bytes.take 256).map Event.push).countP _) _
        ((events ++ (bytes.take 256).map Event.push).count _ + _) _
      rw [pushes, damages]
      exact reads
  | receiveError =>
      have aside : diagnosis.Aside diagnosis.receiveError := ⟨rfl⟩
      have reads := tracked.reads.receiveError
      refine ⟨?_, tracked.sends.aside aside⟩
      change diagnosis.receiveError.Reads ((events ++ [Event.damaged]).countP _) _
        ((events ++ [Event.damaged]).count _ + cuts diagnosis.pings) (diagnosis.pings.countP _)
      rw [List.countP_append, List.count_append, Nat.add_right_comm]
      exact reads
  | start =>
      obtain ⟨sends, counts⟩ := tracked.sends.start
      rw [Action.events, List.append_nil]
      exact tracked.counts sends counts
  | accept count =>
      obtain ⟨sends, counts⟩ := tracked.sends.accept count
      rw [Action.events, List.append_nil]
      exact tracked.counts sends counts
  | refuse =>
      obtain ⟨sends, counts⟩ := tracked.sends.refuse
      rw [Action.events, List.append_nil]
      exact tracked.counts sends counts

theorem Diagnosis.Tracked.run (tracked : diagnosis.Tracked origin events)
    (actions : List Action) : (actions.foldl Diagnosis.step diagnosis).Tracked origin
      (events ++ actions.flatMap Action.events) := by
  induction actions generalizing diagnosis events with
  | nil =>
      rw [List.flatMap_nil, List.append_nil]
      exact tracked
  | cons action rest ih =>
      have later := ih (tracked.step action)
      rw [List.append_assoc] at later
      exact later

end Tracked

/-- Pings are begun at most once for each interval. -/
theorem Diagnosis.Sends.paced {diagnosis : Diagnosis} {origin : Nat}
    (sends : diagnosis.Sends origin) :
    origin + (diagnosis.pings.length + diagnosis.unsent.isSome.toNat) * interval ≤
      diagnosis.clock := by
  rcases sends.rest with ⟨idle, -⟩ | ⟨busy, -, due⟩
  · rw [idle]
    exact sends.onGrid.runs_le
  · obtain ⟨steps, enough, same⟩ := sends.onGrid.grid
    rw [busy]
    have most : (diagnosis.pings.length + 1) * interval ≤ (steps + 1) * interval :=
      Nat.mul_le_mul_right interval (Nat.succ_le_succ enough)
    change origin + (diagnosis.pings.length + 1) * interval ≤ diagnosis.clock
    omega

/--
In every run, the counters show what was read and sent, up to where they saturate;
every LF ends exactly one line that was counted as a peer's or as bad; the pings
are numbered from one, and a peer that reads the wire gets whole pings only, in
order, and misses at most two for each that was given up; and at most one ping is
begun for each interval.
-/
theorem diagnosis_accounts (origin : Nat) (actions : List Action) :
    let diagnosis := actions.foldl Diagnosis.step (.boot origin)
    let events := actions.flatMap Action.events
    let yields := ({} : Parser).yields events
    diagnosis.counters = #v[counted (events.countP Event.isPush),
        counted (yields.countP Yield.isPeer),
        counted (yields.countP Yield.isBad + yields.countP Yield.newlyDamaged),
        counted (events.count .damaged + cuts diagnosis.pings), lastSequence yields,
        counted (diagnosis.pings.countP Piece.whole)] ∧
      yields.countP Yield.isPeer + yields.countP Yield.isBad +
          yields.countP Yield.newlyDamaged =
        events.count (.push 0x0A) + diagnosis.parser.discard.toNat ∧
      diagnosis.pings.map Piece.body =
        (List.range diagnosis.pings.length).map (fun i => pingBody (.ofNat (i + 1))) ∧
      readStream marker lineEnd [] diagnosis.wire =
        (survivors true diagnosis.pings).map Piece.body ∧
      diagnosis.pings.length ≤
        (survivors true diagnosis.pings).length + 2 * cuts diagnosis.pings ∧
      origin + (diagnosis.pings.length + diagnosis.unsent.isSome.toNat) * interval ≤
        diagnosis.clock := by
  intro diagnosis events yields
  have tracked : diagnosis.Tracked origin events := (Diagnosis.Tracked.boot origin).run actions
  have sends := tracked.sends
  refine ⟨tracked.reads.counters, ?_, sends.bodies, ?_, ?_, sends.paced⟩
  · rw [tracked.reads.parser]
    exact yields_account {} events
  · have plain : ∀ piece ∈ diagnosis.pings ++ [diagnosis.writing],
        piece.Plain marker lineEnd := by
      intro piece member
      rcases List.mem_append.mp member with done | current
      · have body : piece.body ∈ diagnosis.pings.map Piece.body := List.mem_map_of_mem done
        rw [sends.bodies] at body
        obtain ⟨i, -, same⟩ := List.mem_map.mp body
        have plain := pingBody_plain (.ofNat (i + 1)) piece.sent
        rw [same] at plain
        exact plain
      · rw [List.mem_singleton.mp current]
        exact pingBody_plain _ _
    rw [sends.wire, readStream_pieces (by decide) (.inl rfl) plain]
    exact congrArg (List.map Piece.body)
      (survivors_append_cut true diagnosis.pings sends.writing_cut)
  · have most := length_le_survivors true diagnosis.pings
    rw [if_pos rfl] at most
    exact most

end NrfUnifying.UartSmoke
