import NrfUnifying.Lib.Runs
import NrfUnifying.Tasks.CdcView

/-!
# The maintenance handshake

The worker signals each session once, and any handshake that waits takes the
value. A handshake of an ended session that has not been cancelled yet can take
the value of its successor, which then waits for the whole session.
-/

namespace NrfUnifying.Tasks

open Lib.Bytes Lib.Runs Radio Storage UartLink Updater UartOta

section Property

variable {W F I : Type}

/-- The current session waits for a signal that the worker has given, and that is gone. -/
structure System.HandshakeLost (system : System W F I) : Prop where
  active : system.shared.cdcActive = true
  seen : system.worker.sessionSeen = system.shared.cdcSession
  waiting : system.serial.phase = .handshake system.shared.cdcSession
  gone : system.shared.maintenanceReady ≠ some system.shared.cdcSession

/-- The session number does not come round to the one that the worker saw last; no handshake of
another session is polled before its millisecond is over while the signal is for the current one;
and the endpoint fails only in a session that has ended. -/
def System.KeepsHandshake (system : System W F I) : Action → Prop
  | .control => system.shared.cdcSession + 1 ≠ system.worker.sessionSeen
  | .serial input =>
      match system.serial.phase with
      | .handshake session =>
          session ≠ system.shared.cdcSession → system.shared.cdcActive = true →
            system.shared.maintenanceReady = some system.shared.cdcSession → input.timer = true
      | .reading session =>
          input.packet = some none →
            ¬(system.shared.cdcActive = true ∧ system.shared.cdcSession = session)
      | _ => True
  | _ => True

end Property

/-! ## The invariant -/

/-- What the worker signalled for the current session is still there, unless the serial task has
taken it for that session. -/
def CdcView.Signalled (view : CdcView) : Prop :=
  view.active = true → view.seen = view.session →
    view.ready = some view.session ∨ view.serial.entered = some view.session

section Invariant

variable {view after : CdcView}

theorem CdcView.Change.signalled (change : view.Change after) (signalled : view.Signalled) :
    after.Signalled := by
  cases change with
  | overlook inactive => exact fun active => absurd (inactive.symm.trans active) Bool.false_ne_true
  | handOver active => exact fun _ _ => .inl rfl
  | _ => exact signalled

theorem CdcView.Changes.signalled (changes : view.Changes after) (signalled : view.Signalled) :
    after.Signalled := by
  induction changes with
  | refl => exact signalled
  | tail _ change ih => exact change.signalled ih

theorem CdcView.Listens.signalled (listens : view.Listens after) (signalled : view.Signalled) :
    after.Signalled := by
  induction listens with
  | refl => exact signalled
  | tail _ listen ih => cases listen <;> exact ih

theorem CdcView.Renumber.signalled (renumber : view.Renumber after) (signalled : view.Signalled)
    (fresh : after.active = true → after.session ≠ view.session →
      view.session + 1 ≠ view.seen) : after.Signalled := by
  cases renumber with
  | same => exact signalled
  | lose => exact nofun
  | activate =>
      have next : view.session + 1 ≠ view.session := by
        intro same
        simp at same
      exact fun _ seen => absurd seen.symm (fresh rfl next)

/-- A serial step takes the signal of the current session only for that session. -/
theorem CdcView.Serial.signalled {input : SerialInput} (serial : view.Serial input after)
    (signalled : view.Signalled)
    (polled : ∀ session, view.serial = .handshake session → session ≠ view.session →
      view.active = true → view.ready = some view.session → input.timer = true)
    (failed : ∀ session, view.serial = .reading session → input.packet = some none →
      ¬view.Live session) : after.Signalled := by
  cases serial with
  | same => exact signalled
  | connect waiting =>
      intro active seen
      have before := signalled active seen
      rw [waiting] at before
      exact before
  | opens waiting _ =>
      intro active seen
      have before := signalled active seen
      rw [waiting] at before
      exact before.imp_right nofun
  | @cancel session open_ cancels =>
      intro active seen
      refine (signalled active seen).imp_right fun entered => ?_
      have own : session = view.session := by
        cases phase : view.serial with
        | connecting | inactive | handshake => rw [phase] at entered; cases entered
        | reading | scanning | requesting | answering =>
            rw [phase] at entered open_
            exact (Option.some.inj open_).symm.trans (Option.some.inj entered)
      exact absurd ⟨active, own.symm⟩ cancels.2
  | @ready session _ waiting ready =>
      intro active seen
      have before := signalled active seen
      rw [waiting, ready] at before
      rcases before with own | entered
      · exact .inr own
      · cases entered
  | @other session other waiting ready different open_ =>
      intro active seen
      have before := signalled active seen
      rw [waiting] at before
      rcases before with held | entered
      · have foreign : session ≠ view.session := by
          rintro rfl
          exact different (Option.some.inj (ready.symm.trans held))
        refine absurd ⟨polled session waiting foreign active held, ?_⟩ open_
        exact fun live => foreign live.2.symm
      · cases entered
  | @fail session reading ended open_ =>
      intro active seen
      refine (signalled active seen).imp_right fun entered => ?_
      rw [reading] at entered
      exact absurd ⟨active, (Option.some.inj entered).symm⟩ (failed session reading ended)
  | move entered quiet stays still =>
      intro active seen
      exact (signalled active seen).imp_right fun before => stays.trans (entered.symm.trans before)
  | send requesting =>
      intro active seen
      have before := signalled active seen
      rw [requesting] at before
      exact before
  | receive answering =>
      intro active seen
      have before := signalled active seen
      rw [answering] at before
      exact before
  | skip => exact signalled

end Invariant

/-! ## Runs -/

section Runs

variable {W F I : Type} [Board W] [RustUnifying W] [FirmwareUpdater F I]

theorem System.step_signalled {system : System W F I} {buildTime : Nat}
    (signalled : system.cdcView.Signalled) {action : Action}
    (keeps : system.KeepsHandshake action) : (system.step buildTime action).cdcView.Signalled := by
  cases action with
  | work clock => exact (system.workerFut_cdc buildTime clock).signalled signalled
  | receive reading => exact (system.uartRxFut_cdcView reading).signalled signalled
  | transmit writing => exact (system.uartTxFut_cdcView writing).signalled signalled
  | usb event =>
      exact (system.usb_renumber event).signalled signalled fun active different =>
        absurd (system.usb_session event active) different
  | control => exact system.controlFut_renumber.signalled signalled fun _ _ => keeps
  | serial input =>
      refine (system.serialFut_serial buildTime input).signalled signalled ?_ ?_
      · intro session waiting
        rw [System.KeepsHandshake, show system.serial.phase = _ from waiting] at keeps
        exact keeps
      · intro session reading
        rw [System.KeepsHandshake, show system.serial.phase = _ from reading] at keeps
        exact keeps

/-- In every run in which no handshake of an ended session takes the signal of the current one, the
maintenance handshake is never lost. -/
theorem handshake_kept (buildTime : Nat) (world : W) (flash : Nvmc) (dfu : F)
    (actions : List Action)
    (keeps : EveryStep (System.step buildTime) System.KeepsHandshake
      (System.boot world flash dfu : System W F I) actions) :
    Always (System.step buildTime) (fun system => ¬system.HandshakeLost)
      (System.boot world flash dfu : System W F I) actions := by
  have always : Always (System.step buildTime) (fun system => system.cdcView.Signalled)
      (System.boot world flash dfu : System W F I) actions :=
    .of_everyStep (fun _ _ signalled keeps => System.step_signalled signalled keeps)
      nofun keeps
  intro before after split lost
  rcases always before after split lost.active lost.seen with held | entered
  · exact lost.gone held
  · have waiting : (before.foldl (System.step buildTime)
        (System.boot world flash dfu : System W F I)).cdcView.serial = _ := lost.waiting
    rw [waiting] at entered
    cases entered

end Runs

instance {W F I : Type} (system : System W F I) :
    (action : Action) → Decidable (system.KeepsHandshake action)
  | .control => inferInstanceAs (Decidable (_ ≠ _))
  | .serial _ =>
      show Decidable (match system.serial.phase with
          | .handshake _ => _
          | .reading _ => _
          | _ => True) from
        match system.serial.phase with
        | .handshake _ => inferInstanceAs (Decidable (_ → _ → _ → _))
        | .reading _ => inferInstanceAs (Decidable (_ → _))
        | .connecting | .inactive | .scanning .. | .requesting .. | .answering .. => .isTrue trivial
  | .usb _ | .work _ | .receive _ | .transmit _ => .isTrue trivial

theorem handshake_kept_raised :
    (raiseOnce.foldl (System.step 0) benchBoot).serial.phase = .reading 1 ∧
      Always (System.step 0) (fun system => ¬system.HandshakeLost) benchBoot raiseOnce := by
  refine ⟨by decide +kernel, handshake_kept 0 _ _ _ _ ?_⟩
  simp only [raiseOnce, raiseDtr, openSession, List.cons_append, List.nil_append, everyStep_cons,
    everyStep_nil, and_true]
  decide +kernel

/-- While a pairing runs DTR rises, falls and rises again; the worker then signals session 3, and
the handshake of session 1 takes the value before its millisecond is over. -/
def raiseTwice : List Action :=
  pairByUart ++ [.receiveText "@00000003 UPAIR 00\n", .work {}] ++ raiseDtr ++ openSession ++
    dropDtr ++ raiseDtr ++ [.work {}, .work {}, .serial {}, .serial { timer := true }] ++
    openSession

/-- The handshake of session 3 waits for a signal that is gone. -/
theorem handshake_lost :
    ¬∀ actions, Always (System.step 0) (fun system => ¬system.HandshakeLost) benchBoot actions := by
  intro kept
  refine not_always_of_last raiseTwice ?_ (kept raiseTwice)
  refine not_not.mpr ⟨?_, ?_, ?_, ?_⟩ <;> decide +kernel

end NrfUnifying.Tasks
