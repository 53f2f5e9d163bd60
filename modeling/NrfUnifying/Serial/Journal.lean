import NrfUnifying.Ota.Journal
import NrfUnifying.Serial.Session

/-!
# The calls of a CDC session

A packet writes only during an upload; a byte outside one makes no call, but for
a `BOOT` while an image is complete.
-/

namespace NrfUnifying.Serial

open Lib.Bytes Updater

/-- A CDC session that receives an image, or has it complete. -/
def Session.holds (session : Session) : Bool := session.uploadActive || session.imageReady

section Calls

variable {F I : Type} [FirmwareUpdater F I]

variable (cdc : Cdc (Journaled F) I)

theorem Cdc.write_calls (bytes : List UInt8) :
    (cdc.write bytes).2.flash.calls = cdc.flash.calls ++ [.write] := by
  have calls := Journaled.writeFirmware_calls cdc.updater cdc.flash cdc.session.uploadReceived bytes
  rw [Cdc.write]
  split
  next written =>
    rw [written] at calls
    exact calls
  next failed =>
    rw [failed] at calls
    exact calls

theorem Cdc.finish_calls : cdc.flash.calls <+: cdc.finish.cdc.flash.calls := by
  rw [Cdc.finish]
  dsimp only
  split
  · exact List.prefix_refl _
  · have calls := cdc.write_calls
      (cdc.session.staging ++ List.replicate (4 - cdc.session.staging.length) 0xFF)
    split
    next failed =>
      rw [failed] at calls
      exact ⟨_, calls.symm⟩
    next written =>
      rw [written] at calls
      exact ⟨_, calls.symm⟩

theorem Cdc.stage_calls (staging : List UInt8) :
    cdc.flash.calls <+: (cdc.stage staging).cdc.flash.calls := by
  rw [Cdc.stage]
  dsimp only
  split
  · exact Cdc.finish_calls { cdc with session := { cdc.session with staging } }
  · exact List.prefix_refl _

theorem Cdc.upload_calls (packet : List UInt8) :
    cdc.flash.calls <+: (cdc.upload packet).cdc.flash.calls := by
  rw [Cdc.upload]
  dsimp only
  split
  · exact cdc.stage_calls _
  · have calls := cdc.write_calls ((cdc.session.staging ++ packet).take
      ((cdc.session.staging ++ packet).length / 4 * 4))
    split
    next failed =>
      rw [failed] at calls
      exact ⟨_, calls.symm⟩
    next cdc' written =>
      rw [written] at calls
      have staged (session : Session) (staging : List UInt8) :
          cdc'.flash.calls <+: (Cdc.stage { cdc' with session } staging).cdc.flash.calls :=
        Cdc.stage_calls { cdc' with session } staging
      exact List.IsPrefix.trans ⟨_, calls.symm⟩ (staged _ _)

/-- What a byte outside an upload can do: nothing to the images, accept one, or mark one. -/
inductive Cdc.Pushed (uartOta : Bool) : Outcome (Journaled F) I → Prop where
  | idle {outcome : Outcome (Journaled F) I}
      (calls : outcome.cdc.flash.calls = cdc.flash.calls)
      (held : outcome.cdc.session.holds = true → cdc.session.holds = true) :
      Pushed uartOta outcome
  | accepted {outcome : Outcome (Journaled F) I} (free : uartOta = false)
      (calls : outcome.cdc.flash.calls = cdc.flash.calls)
      (reply : outcome.reply = some .ready) : Pushed uartOta outcome
  | marked {outcome : Outcome (Journaled F) I} (held : cdc.session.holds = true)
      (calls : ∃ done, outcome.cdc.flash.calls = cdc.flash.calls ++ [.mark done]) :
      Pushed uartOta outcome

theorem Cdc.boot_pushed (uartOta : Bool) : cdc.Pushed uartOta (cdc.boot uartOta) := by
  rw [Cdc.boot]
  split
  · exact .idle rfl id
  split
  · exact .idle rfl id
  next ready =>
    have held : cdc.session.holds = true := by
      rw [Session.holds, eq_true_of_ne_false ready, Bool.or_true]
    have calls := Journaled.markUpdated_calls cdc.updater cdc.flash
    split
    next marked =>
      rw [marked] at calls
      exact .marked held calls
    next marked =>
      rw [marked] at calls
      exact .marked held calls

theorem Cdc.dispatch_pushed (uartOta : Bool) (line : List UInt8) :
    cdc.Pushed uartOta (cdc.dispatch uartOta line) := by
  rw [Cdc.dispatch]
  split
  · exact .idle rfl id
  · exact .idle rfl id
  · rw [Cdc.beginUpload]
    split
    · exact .idle rfl id
    next free =>
      split
      · exact .idle rfl id
      · exact .accepted (Bool.eq_false_iff.mpr free) rfl rfl
  · exact cdc.boot_pushed uartOta
  · exact .idle rfl nofun
  · exact .idle rfl id
  · exact .idle rfl id

theorem Cdc.push_pushed (uartOta : Bool) (byte : UInt8) :
    cdc.Pushed uartOta (cdc.push uartOta byte) := by
  rw [Cdc.push]
  dsimp only
  split
  · split
    · exact .idle rfl id
    · cases Cdc.dispatch_pushed { cdc with session := { cdc.session with
        line := [], discardLine := false } } uartOta cdc.session.line with
      | idle calls held => exact .idle calls held
      | accepted free calls reply => exact .accepted free calls reply
      | marked held calls => exact .marked held calls
  split
  · split
    · exact .idle rfl id
    · exact .idle rfl id
  · exact .idle rfl id

end Calls

end NrfUnifying.Serial
