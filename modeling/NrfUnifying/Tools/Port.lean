import NrfUnifying.Radio.Replies
import NrfUnifying.Serial.Session

/-!
# A CDC session as a tool uses it

What a tool writes comes to the device in packets of any sizes. What the tool has
not read of the replies waits for it, and a reply that is there is read in time.
-/

namespace NrfUnifying.Tools

open Lib.Bytes Radio Serial Updater

def isSpace (byte : UInt8) : Bool :=
  byte = 0x20 || (0x09 ≤ byte && byte ≤ 0x0D) || (0x1C ≤ byte && byte ≤ 0x1F)

/-- `str.strip` -/
def strip (text : List UInt8) : List UInt8 :=
  ((text.dropWhile isSpace).reverse.dropWhile isSpace).reverse

/-- A session of the device, the replies that wait for the tool, the lines that the worker has got,
and whether a reboot was asked for. -/
structure Port (F I : Type) where
  cdc : Cdc F I
  replies : List Serial.Reply := []
  requests : List (List UInt8) := []
  reboot : Bool := false

section Steps

variable {F I : Type}

/-- A port just opened. -/
def Port.opened (updater : I) (flash : F) : Port F I where
  cdc := { updater, flash }

def Port.answer (port : Port F I) (outcome : Outcome F I) : Port F I where
  cdc := outcome.cdc
  replies := port.replies ++ outcome.reply.toList
  requests := port.requests ++ outcome.request.toList
  reboot := port.reboot || outcome.reboot

/-- A line from the port without its white space, or nothing when no reply comes. -/
def Port.readLine (buildTime : Nat) (port : Port F I) : List UInt8 × Port F I :=
  match port.replies with
  | [] => ([], port)
  | reply :: rest => (strip (reply.text buildTime), { port with replies := rest })

variable [FirmwareUpdater F I]

def Port.push (uartOta : Bool) (port : Port F I) (byte : UInt8) : Port F I :=
  port.answer (port.cdc.push uartOta byte)

def Port.packet (uartOta : Bool) (port : Port F I) (packet : List UInt8) : Port F I :=
  if port.cdc.session.uploadActive then port.answer (port.cdc.upload packet)
  else packet.foldl (Port.push uartOta) port

def Port.write (uartOta : Bool) (port : Port F I) (packets : List (List UInt8)) : Port F I :=
  packets.foldl (Port.packet uartOta) port

end Steps

/-! ## Lines -/

section Lines

variable {F I : Type}

/-- A session between two lines, outside an upload. -/
structure Port.Idle (port : Port F I) : Prop where
  line : port.cdc.session.line = []
  kept : port.cdc.session.discardLine = false
  inactive : port.cdc.session.uploadActive = false

/-- The port in the middle of a line. -/
def Port.within (port : Port F I) (line : List UInt8) (discardLine : Bool) : Port F I :=
  { port with cdc := { port.cdc with session := { port.cdc.session with line, discardLine } } }

/-- The start of a line has come; what does not fit the line is dropped. -/
def Port.typed (port : Port F I) (line : List UInt8) : Port F I :=
  port.within (line.take lineLimit) (decide (lineLimit < line.length))

theorem opened_idle (updater : I) (flash : F) : (Port.opened updater flash).Idle :=
  ⟨rfl, rfl, rfl⟩

theorem Port.answer_quiet (port : Port F I) (cdc : Cdc F I) :
    port.answer { cdc } = { port with cdc } := by
  unfold Port.answer
  simp

theorem Port.Idle.typed_nil {port : Port F I} (idle : port.Idle) : port.typed [] = port := by
  change port.within [] false = port
  unfold Port.within
  rw [← idle.line, ← idle.kept]

variable [FirmwareUpdater F I]

/-- What a line of any length leads to. -/
def endLine (cdc : Cdc F I) (uartOta : Bool) (line : List UInt8) : Outcome F I :=
  if lineLimit < line.length then { cdc, reply := some .errArg } else cdc.dispatch uartOta line

variable {port : Port F I} (uartOta : Bool)

theorem Port.push_within (line : List UInt8) (discardLine : Bool) {byte : UInt8}
    (plain : byte ≠ 0x0D ∧ byte ≠ 0x0A) : (port.within line discardLine).push uartOta byte =
      if discardLine = true ∨ line.length = lineLimit then port.within line true
      else port.within (line ++ [byte]) false := by
  unfold Port.push Cdc.push
  dsimp only
  rw [if_neg plain.2]
  cases discardLine with
  | true =>
      rw [if_neg fun lineOpen => Bool.noConfusion lineOpen.2, if_pos (.inl rfl)]
      exact Port.answer_quiet _ _
  | false =>
      have held : (port.within line false).cdc.session.line = line := rfl
      rw [if_pos ⟨plain.1, rfl⟩, held]
      by_cases full : line.length = lineLimit
      · rw [if_pos full, if_pos (.inr full)]
        exact Port.answer_quiet _ _
      · rw [if_neg full, if_neg (by simpa using full)]
        exact Port.answer_quiet _ _

theorem Port.push_typed (seen : List UInt8) {byte : UInt8} (plain : byte ≠ 0x0D ∧ byte ≠ 0x0A) :
    (port.typed seen).push uartOta byte = port.typed (seen ++ [byte]) := by
  have length : (seen ++ [byte]).length = seen.length + 1 := List.length_append
  have taken : (seen.take lineLimit).length = min lineLimit seen.length := List.length_take
  unfold Port.typed
  rw [Port.push_within uartOta _ _ plain]
  by_cases room : seen.length < lineLimit
  · rw [if_neg (by rw [decide_eq_true_eq, taken]; omega), List.take_of_length_le (by omega),
      List.take_of_length_le (by omega), decide_eq_false (by omega)]
  · rw [if_pos (by rw [taken]; omega), List.take_append_of_le_length (by omega),
      decide_eq_true (by omega)]

theorem Port.pushes_typed (seen : List UInt8) {more : List UInt8} (plain : NoBreak more) :
    more.foldl (Port.push uartOta) (port.typed seen) = port.typed (seen ++ more) := by
  induction more generalizing seen with
  | nil => rw [List.append_nil]; rfl
  | cons byte rest ih =>
      obtain ⟨first, others⟩ := List.forall_mem_cons.mp plain
      rw [List.foldl_cons, Port.push_typed uartOta seen first, ih _ others, List.append_assoc]
      rfl

/-- The line is served when its end comes. -/
theorem Port.push_end (idle : port.Idle) (line : List UInt8) :
    (port.typed line).push uartOta 0x0A = port.answer (endLine port.cdc uartOta line) := by
  have dropped : (port.typed line).cdc.session.discardLine = decide (lineLimit < line.length) :=
    rfl
  have back : ({ (port.typed line).cdc with session := { (port.typed line).cdc.session with
      line := [], discardLine := false } } : Cdc F I) = port.cdc := by
    unfold Port.typed Port.within
    dsimp only
    rw [← idle.line, ← idle.kept]
  unfold Port.push Cdc.push endLine
  dsimp only
  rw [if_pos rfl, dropped, back]
  by_cases long : lineLimit < line.length
  · rw [if_pos long, if_pos (decide_eq_true long)]
    rfl
  · have whole : (port.typed line).cdc.session.line = line :=
      List.take_of_length_le (Nat.not_lt.mp long)
    rw [if_neg long, if_neg (by simpa using long), whole]
    rfl

/-- A line comes in packets of any sizes. -/
theorem Port.write_rest (idle : port.Idle) (seen : List UInt8) {rest : List UInt8}
    (plain : NoBreak rest) {packets : List (List UInt8)}
    (flatten : packets.flatten = rest ++ [0x0A]) (nonempty : ∀ packet ∈ packets, packet ≠ []) :
    (port.typed seen).write uartOta packets =
      port.answer (endLine port.cdc uartOta (seen ++ rest)) := by
  induction packets generalizing seen rest with
  | nil => exact absurd flatten.symm (List.append_ne_nil_of_right_ne_nil _ (List.cons_ne_nil _ _))
  | cons packet more ih =>
      have scanned : (port.typed seen).packet uartOta packet =
          packet.foldl (Port.push uartOta) (port.typed seen) := by
        unfold Port.packet
        refine if_neg ?_
        change port.cdc.session.uploadActive ≠ true
        rw [idle.inactive]
        exact Bool.false_ne_true
      unfold Port.write at ih ⊢
      rw [List.foldl_cons, scanned]
      rw [List.flatten_cons] at flatten
      -- a packet that the line's end is not in
      have front {tail : List UInt8} (same : rest = packet ++ tail)
          (behind : more.flatten = tail ++ [0x0A]) :
          more.foldl (Port.packet uartOta) (packet.foldl (Port.push uartOta)
            (port.typed seen)) = port.answer (endLine port.cdc uartOta (seen ++ rest)) := by
        subst same
        obtain ⟨first, second⟩ := List.forall_mem_append.mp plain
        rw [Port.pushes_typed uartOta seen first, ← List.append_assoc]
        exact ih _ second behind fun other member => nonempty other (List.mem_cons_of_mem _ member)
      rcases List.append_eq_append_iff.mp flatten with
        ⟨tail, same, behind⟩ | ⟨tail, same, behind⟩
      · exact front same behind
      · cases tail with
        | nil =>
            have rest' : more.flatten = [] ++ [0x0A] := behind.symm
            exact front (by rw [same, List.append_nil, List.append_nil]) rest'
        | cons last tail =>
            obtain ⟨rfl, nothing⟩ := List.cons.inj behind
            have both : tail ++ more.flatten = [] := nothing.symm
            obtain ⟨rfl, blank⟩ := List.append_eq_nil_iff.mp both
            have empty : more = [] := by
              cases more with
              | nil => rfl
              | cons other others =>
                  have first : other ++ others.flatten = [] := blank
                  exact absurd (List.append_eq_nil_iff.mp first).1
                    (nonempty other (List.mem_cons_of_mem _ List.mem_cons_self))
            rw [empty, same, List.foldl_append, Port.pushes_typed uartOta seen plain]
            exact Port.push_end uartOta idle _

/-- A whole line from an idle session. -/
theorem Port.Idle.write_line (idle : port.Idle) {text : List UInt8} (plain : NoBreak text)
    {packets : List (List UInt8)} (flatten : packets.flatten = text ++ [0x0A])
    (nonempty : ∀ packet ∈ packets, packet ≠ []) :
    port.write uartOta packets = port.answer (endLine port.cdc uartOta text) := by
  have written := Port.write_rest uartOta idle [] plain flatten nonempty
  rw [idle.typed_nil] at written
  exact written

end Lines

end NrfUnifying.Tools
