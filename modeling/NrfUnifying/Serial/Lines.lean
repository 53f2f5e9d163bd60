import NrfUnifying.Lib.Lines
import NrfUnifying.Serial.Session

/-!
# Lines in a CDC session

The session holds the first bytes of the unfinished line and whether it has
become too long. The end of a line is one of an update command, of a line for
the worker, or of one that is refused.
-/

namespace NrfUnifying.Serial

open Lib.Bytes Lib.Lines Updater

/-- The session's line is the unfinished one of what was scanned, as far as it fits. -/
structure Session.Assembled (session : Session) (scanned : List UInt8) : Prop where
  line : session.line = (unfinishedLine scanned).take lineLimit
  discardLine : session.discardLine = decide (lineLimit < (unfinishedLine scanned).length)

section Line

variable {F I : Type} [FirmwareUpdater F I]

/-- An upload or a command leaves the line alone. -/
structure Cdc.KeepsLine (before after : Cdc F I) : Prop where
  line : after.session.line = before.session.line
  discardLine : after.session.discardLine = before.session.discardLine

omit [FirmwareUpdater F I] in
theorem Session.Assembled.keep {before after : Cdc F I} {scanned : List UInt8}
    (assembled : before.session.Assembled scanned) (keeps : before.KeepsLine after) :
    after.session.Assembled scanned :=
  ⟨keeps.line.trans assembled.line, keeps.discardLine.trans assembled.discardLine⟩

theorem Session.Assembled.fresh : ({} : Session).Assembled [] := ⟨rfl, rfl⟩

variable (cdc : Cdc F I) (uartOta : Bool)

theorem Cdc.write_keepsLine (bytes : List UInt8) : cdc.KeepsLine (cdc.write bytes).2 := by
  rw [Cdc.write]
  split <;> exact ⟨rfl, rfl⟩

theorem Cdc.finish_keepsLine :
    cdc.KeepsLine cdc.finish.cdc ∧ cdc.finish.request = none := by
  have written := cdc.write_keepsLine
    (cdc.session.staging ++ List.replicate (4 - cdc.session.staging.length) 0xFF)
  rw [Cdc.finish]
  dsimp only
  split
  · exact ⟨⟨rfl, rfl⟩, rfl⟩
  · generalize cdc.write _ = result at written
    obtain ⟨done, after⟩ := result
    cases done with
    | false => exact ⟨written, rfl⟩
    | true => exact ⟨⟨written.line, written.discardLine⟩, rfl⟩

theorem Cdc.stage_keepsLine (staging : List UInt8) :
    cdc.KeepsLine (cdc.stage staging).cdc ∧ (cdc.stage staging).request = none := by
  rw [Cdc.stage]
  dsimp only
  split
  · have finished := Cdc.finish_keepsLine { cdc with session := { cdc.session with staging } }
    exact ⟨⟨finished.1.line, finished.1.discardLine⟩, finished.2⟩
  · exact ⟨⟨rfl, rfl⟩, rfl⟩

/-- A packet of an upload leaves the line alone and asks the worker nothing. -/
theorem Cdc.upload_keepsLine (packet : List UInt8) :
    cdc.KeepsLine (cdc.upload packet).cdc ∧ (cdc.upload packet).request = none := by
  rw [Cdc.upload]
  dsimp only
  split
  · exact cdc.stage_keepsLine _
  · have written := cdc.write_keepsLine ((cdc.session.staging ++ packet).take
      ((cdc.session.staging ++ packet).length / 4 * 4))
    generalize cdc.write _ = result at written
    obtain ⟨done, after⟩ := result
    cases done with
    | false => exact ⟨written, rfl⟩
    | true =>
        dsimp only
        generalize ((cdc.session.staging ++ packet).drop _) = staging
        generalize ((cdc.session.staging ++ packet).length / 4 * 4) = aligned
        have staged := Cdc.stage_keepsLine { after with session := { after.session with
          uploadReceived := after.session.uploadReceived + aligned } } staging
        exact ⟨⟨staged.1.line.trans written.line, staged.1.discardLine.trans written.discardLine⟩,
          staged.2⟩

/-! ## The end of a line -/

theorem parseOtaCommand_reboot {line : List UInt8} :
    parseOtaCommand line = some .reboot ↔ line = ascii "REBOOT" := by
  constructor
  · unfold parseOtaCommand
    split
    · rintro ⟨⟩
    split
    · rintro ⟨⟩
    split
    · rintro ⟨⟩
    split
    · rintro ⟨⟩
    split
    next same => exact fun _ => same
    · intro parsed
      obtain ⟨size, -, write⟩ := Option.map_eq_some_iff.mp parsed
      cases write
  · rintro rfl
    decide

/-- A line that is no update command is the worker's, unless it is empty. -/
theorem Cdc.dispatch_other {line : List UInt8} (other : parseOtaCommand line = none) :
    cdc.dispatch uartOta line =
      { cdc, request := if line.isEmpty then none else some line } := by
  rw [Cdc.dispatch, other]

theorem Cdc.dispatch_reboot :
    (cdc.dispatch uartOta (ascii "REBOOT")).reply = some .reboot ∧
      (cdc.dispatch uartOta (ascii "REBOOT")).request = some (ascii "REBOOT") := by
  rw [Cdc.dispatch, parseOtaCommand_reboot.mpr rfl]
  exact ⟨rfl, rfl⟩

/-- Any other update command is answered and asks the worker nothing. -/
theorem Cdc.dispatch_command {line : List UInt8}
    (command : (parseOtaCommand line).isSome = true) (other : line ≠ ascii "REBOOT") :
    (∃ reply, (cdc.dispatch uartOta line).reply = some reply) ∧
      (cdc.dispatch uartOta line).request = none := by
  obtain ⟨parsed, known⟩ := Option.isSome_iff_exists.mp command
  rw [Cdc.dispatch, known]
  cases parsed with
  | ping => exact ⟨⟨_, rfl⟩, rfl⟩
  | info => exact ⟨⟨_, rfl⟩, rfl⟩
  | write size =>
      dsimp only
      rw [Cdc.beginUpload]
      split
      · exact ⟨⟨_, rfl⟩, rfl⟩
      · split <;> exact ⟨⟨_, rfl⟩, rfl⟩
  | boot =>
      dsimp only
      rw [Cdc.boot]
      split
      · exact ⟨⟨_, rfl⟩, rfl⟩
      · split
        · exact ⟨⟨_, rfl⟩, rfl⟩
        · split <;> exact ⟨⟨_, rfl⟩, rfl⟩
  | abort => exact ⟨⟨_, rfl⟩, rfl⟩
  | reboot => exact absurd (parseOtaCommand_reboot.mp known) other

/-- The worker is handed the line itself. -/
theorem Cdc.dispatch_request {line request : List UInt8}
    (asks : (cdc.dispatch uartOta line).request = some request) : request = line := by
  cases parsed : parseOtaCommand line with
  | none =>
      rw [cdc.dispatch_other uartOta parsed] at asks
      dsimp only at asks
      split at asks
      · cases asks
      · exact (Option.some.inj asks).symm
  | some command =>
      by_cases reboot : line = ascii "REBOOT"
      · subst reboot
        exact (Option.some.inj ((cdc.dispatch_reboot uartOta).2.symm.trans asks)).symm
      · have none' := (cdc.dispatch_command uartOta (by rw [parsed]; rfl) reboot).2
        cases none'.symm.trans asks

theorem Cdc.dispatch_keepsLine (line : List UInt8) :
    cdc.KeepsLine (cdc.dispatch uartOta line).cdc := by
  rw [Cdc.dispatch]
  split
  · exact ⟨rfl, rfl⟩
  · exact ⟨rfl, rfl⟩
  · rw [Cdc.beginUpload]
    split
    · exact ⟨rfl, rfl⟩
    · split <;> exact ⟨rfl, rfl⟩
  · rw [Cdc.boot]
    split
    · exact ⟨rfl, rfl⟩
    · split
      · exact ⟨rfl, rfl⟩
      · split <;> exact ⟨rfl, rfl⟩
  · exact ⟨rfl, rfl⟩
  · exact ⟨rfl, rfl⟩
  · exact ⟨rfl, rfl⟩

/-! ## Bytes -/

/-- The session at the end of a line, before the line is looked at. -/
def Cdc.endLine (cdc : Cdc F I) : Cdc F I :=
  { cdc with session := { cdc.session with line := [], discardLine := false } }

variable {scanned : List UInt8}

/-- A line that is too long is refused, any other is dispatched as it was received. -/
theorem Cdc.push_lf (assembled : cdc.session.Assembled scanned) :
    cdc.push uartOta 0x0A =
      if lineLimit < (unfinishedLine scanned).length then
        { cdc := cdc.endLine, reply := some .errArg }
      else cdc.endLine.dispatch uartOta (unfinishedLine scanned) := by
  rw [Cdc.push, if_pos rfl]
  dsimp only
  rw [assembled.discardLine, assembled.line]
  by_cases long : lineLimit < (unfinishedLine scanned).length
  · rw [if_pos long, if_pos (decide_eq_true long)]
    rfl
  · rw [if_neg long, if_neg (by rw [decide_eq_false long]; exact Bool.false_ne_true),
      List.take_of_length_le (Nat.not_lt.mp long)]
    rfl

/-- Any other byte changes the line only. -/
theorem Cdc.push_byte (assembled : cdc.session.Assembled scanned) {byte : UInt8}
    (other : byte ≠ 0x0A) : ∃ line discardLine,
      let session := { cdc.session with line, discardLine }
      cdc.push uartOta byte = { cdc := { cdc with session } } ∧
        session.Assembled (scanned ++ [byte]) := by
  obtain ⟨line, discardLine⟩ := assembled
  obtain ⟨-, unfinished⟩ := lines_snoc scanned other
  rw [Cdc.push, if_neg other]
  dsimp only
  rw [discardLine, line]
  generalize unfinishedLine scanned = old at line discardLine unfinished
  by_cases cr : byte = 0x0D
  · rw [if_pos cr, List.append_nil] at unfinished
    rw [if_neg (fun both => both.1 cr)]
    refine ⟨cdc.session.line, cdc.session.discardLine, rfl, ?_, ?_⟩
    · rw [unfinished, line]
    · rw [unfinished, discardLine]
  rw [if_neg cr] at unfinished
  by_cases long : lineLimit < old.length
  · rw [if_neg (fun both => by simp [long] at both)]
    refine ⟨cdc.session.line, cdc.session.discardLine, rfl, ?_, ?_⟩
    · rw [unfinished, line, List.take_append_of_le_length (Nat.le_of_lt long)]
    · rw [unfinished, discardLine, List.length_append]
      simp only [decide_eq_decide]
      omega
  rw [if_pos ⟨cr, decide_eq_false long⟩, List.take_of_length_le (Nat.not_lt.mp long)]
  by_cases full : old.length = lineLimit
  · rw [if_pos full]
    refine ⟨old, true, rfl, ?_, ?_⟩
    · rw [unfinished, List.take_append_of_le_length (Nat.le_of_eq full.symm), ← full,
        List.take_length]
    · rw [unfinished, List.length_append]
      exact (decide_eq_true (Nat.lt_succ_of_le (Nat.le_of_eq full.symm))).symm
  · rw [if_neg full]
    refine ⟨old ++ [byte], decide (lineLimit < old.length), rfl, ?_, ?_⟩
    · rw [unfinished, List.take_of_length_le]
      rw [List.length_append]
      exact Nat.lt_of_le_of_ne (Nat.not_lt.mp long) full
    · rw [unfinished, List.length_append]
      simp only [decide_eq_decide, List.length_singleton]
      omega

/-- After its end the line is empty. -/
theorem Session.Assembled.ended {session : Session} (line : session.line = [])
    (kept : session.discardLine = false) (scanned : List UInt8) :
    session.Assembled (scanned ++ [0x0A]) := by
  obtain ⟨-, unfinished⟩ := lines_snoc_lf scanned
  constructor
  · rw [line, unfinished]
    rfl
  · rw [kept, unfinished]
    rfl

/-- After each byte the line is assembled, and a line for the worker is the last complete one. -/
theorem Cdc.push_assembled (assembled : cdc.session.Assembled scanned) (byte : UInt8) :
    (cdc.push uartOta byte).cdc.session.Assembled (scanned ++ [byte]) ∧
      ∀ line, (cdc.push uartOta byte).request = some line →
        (completeLines (scanned ++ [byte])).getLast? = some line := by
  by_cases lf : byte = 0x0A
  · subst lf
    obtain ⟨lines, -⟩ := lines_snoc_lf scanned
    have ended : cdc.endLine.session.Assembled (scanned ++ [0x0A]) := .ended rfl rfl scanned
    rw [cdc.push_lf uartOta assembled]
    split
    · exact ⟨ended, nofun⟩
    · constructor
      · exact ended.keep (cdc.endLine.dispatch_keepsLine uartOta _)
      · intro line request
        rw [lines, List.getLast?_concat, cdc.endLine.dispatch_request uartOta request]
  · obtain ⟨line, discardLine, pushed, assembled'⟩ :=
      cdc.push_byte uartOta assembled lf
    rw [pushed]
    exact ⟨assembled', nofun⟩

end Line

end NrfUnifying.Serial
