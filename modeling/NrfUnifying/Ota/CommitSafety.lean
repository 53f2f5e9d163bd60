import NrfUnifying.Ota.UartOta

/-!
# A commit accepts only the announced image

A run feeds request lines and aborts to a session over a storage that keeps
what was written and may fail at any call. `Recorded` notes the storage calls,
and `Session` is what an observer of lines, replies and calls knows about the
update in progress.
-/

namespace NrfUnifying.UartOta

open Lib.Bytes

variable {S : Type} [Storage S]

/-- A storage whose reads return the bytes last written; a failed write may leave anything. -/
structure Remembers (contents : S → Nat → UInt8) : Prop where
  read_bytes : ∀ storage offset count bytes,
    (Storage.read storage offset count).1 = some bytes →
      bytes = slice (contents storage) offset count
  read_keeps : ∀ storage offset count,
    contents (Storage.read storage offset count).2 = contents storage
  write_inside : ∀ storage offset bytes, (Storage.write storage offset bytes).1 = true →
    ∀ i (inside : i < bytes.length),
      contents (Storage.write storage offset bytes).2 (offset + i) = bytes[i]
  write_outside : ∀ storage offset bytes, (Storage.write storage offset bytes).1 = true →
    ∀ i, i < offset ∨ offset + bytes.length ≤ i →
      contents (Storage.write storage offset bytes).2 i = contents storage i

/-! ## Runs and what an observer sees -/

/-- A call of a storage operation and its result; a commit with the storage it was made on. -/
inductive Call (S : Type) where
  | write (offset : Nat) (bytes : List UInt8) (done : Bool)
  | read (offset count : Nat) (done : Bool)
  | commit (before : S) (done : Bool)
  deriving DecidableEq

/-- A storage that notes its calls, oldest first. -/
structure Recorded (S : Type) where
  storage : S
  calls : List (Call S) := []

instance : Storage (Recorded S) where
  write recorded offset bytes :=
    let (done, storage) := Storage.write recorded.storage offset bytes
    (done, ⟨storage, recorded.calls ++ [.write offset bytes done]⟩)
  read recorded offset count :=
    let (found, storage) := Storage.read recorded.storage offset count
    (found, ⟨storage, recorded.calls ++ [.read offset count found.isSome]⟩)
  commit recorded :=
    let (done, storage) := Storage.commit recorded.storage
    (done, ⟨storage, recorded.calls ++ [.commit recorded.storage done]⟩)

theorem Recorded.read_eq (recorded : Recorded S) (offset count : Nat) :
    Storage.read recorded offset count = ((Storage.read recorded.storage offset count).1,
      ⟨(Storage.read recorded.storage offset count).2, recorded.calls ++
        [.read offset count (Storage.read recorded.storage offset count).1.isSome]⟩) := rfl

theorem Recorded.write_eq (recorded : Recorded S) (offset : Nat) (bytes : List UInt8) :
    Storage.write recorded offset bytes = ((Storage.write recorded.storage offset bytes).1,
      ⟨(Storage.write recorded.storage offset bytes).2, recorded.calls ++
        [.write offset bytes (Storage.write recorded.storage offset bytes).1]⟩) := rfl

theorem Recorded.commit_eq (recorded : Recorded S) :
    Storage.commit recorded = ((Storage.commit recorded.storage).1,
      ⟨(Storage.commit recorded.storage).2, recorded.calls ++
        [.commit recorded.storage (Storage.commit recorded.storage).1]⟩) := rfl

inductive Input where
  | line (bytes : List UInt8)
  | abort
  deriving DecidableEq

structure Event (S : Type) where
  input : Input
  reply : Option Reply := none
  calls : List (Call S) := []
  deriving DecidableEq

structure State (S : Type) where
  ota : Ota := {}
  storage : S

/-- Handle one line, or abort, and note the storage calls it made. -/
def State.step (state : State S) : Input → Event S × State S
  | .line bytes =>
      let outcome := state.ota.handle bytes ({ storage := state.storage } : Recorded S)
      ({ input := .line bytes, reply := some outcome.reply, calls := outcome.storage.calls },
        { ota := outcome.ota, storage := outcome.storage.storage })
  | .abort => ({ input := .abort }, { state with ota := state.ota.abort })

/-- The events of a run, oldest first. -/
def State.trace (state : State S) : List Input → List (Event S)
  | [] => []
  | input :: rest => (state.step input).1 :: (state.step input).2.trace rest

def State.run (state : State S) (inputs : List Input) : State S :=
  inputs.foldl (fun state input => (state.step input).2) state

/-- An update since its `BEGIN` was accepted. -/
structure Session where
  size : Nat
  crc : UInt32
  /-- The new payloads answered `OK`, in order. -/
  image : List UInt8 := []
  /-- How often a commit has succeeded. -/
  commits : Nat := 0
  deriving DecidableEq

def Call.isWrite : Call S → Bool
  | .write .. => true
  | _ => false

def Call.isCommit : Call S → Bool
  | .commit .. => true
  | _ => false

def Call.commits : Call S → Bool
  | .commit _ done => done
  | _ => false

/-- The session as an observer follows it: a chunk is new when it was written. -/
def Session.observe (session : Option Session) (event : Event S) : Option Session :=
  match event.input, event.reply with
  | .abort, _ => none
  | .line _, none => session
  | .line bytes, some reply =>
      if reply = .ready then (announced bytes).map fun (size, crc) => { size := size.toNat, crc }
      else if reply.ends then none
      else session.map fun session => { session with
        image := session.image ++
          if reply = .ok ∧ event.calls.any Call.isWrite then ((chunk bytes).map (·.2)).getD []
          else []
        commits := session.commits + event.calls.countP Call.commits }

/-- The first two words of a bootable image of `size` bytes. -/
structure LegalVectors (size : Nat) (image : List UInt8) : Prop where
  sp_low : 0x20000000 ≤ (ofLe32 image).toNat
  sp_high : (ofLe32 image).toNat ≤ 0x20040000
  sp_aligned : (ofLe32 image).toNat % 8 = 0
  reset_odd : (ofLe32 (image.drop 4)).toNat % 2 = 1
  reset_low : 0x7100 ≤ (ofLe32 (image.drop 4)).toNat - 1
  reset_high : (ofLe32 (image.drop 4)).toNat - 1 < 0x7000 + size

/-- A session whose image is complete, legal and stored. -/
structure Session.Complete (session : Session) (contents : Nat → UInt8) : Prop where
  large : 256 ≤ session.size
  small : session.size ≤ limit
  whole : session.size % 4 = 0
  length : session.image.length = session.size
  stored : slice contents 0 session.size = session.image
  vectors : 8 ≤ session.image.length ∧ LegalVectors session.size session.image
  crc : crc32 session.image = session.crc

/-! ## The invariant of a run -/

/-- An active session is the one the observer knows, and its image so far is stored. -/
structure Invariant (contents : S → Nat → UInt8) (ota : Ota) (storage : S)
    (session : Session) : Prop where
  size : ota.size = session.size
  crc : ota.expectedCrc = session.crc
  large : 256 ≤ session.size
  small : session.size ≤ limit
  whole : session.size % 4 = 0
  received : ota.received = session.image.length
  fits : session.image.length ≤ session.size
  stored : slice (contents storage) 0 session.image.length = session.image
  vectors : session.image = [] ∨
    8 ≤ session.image.length ∧ legalVectors session.size session.image = true
  fresh : session.commits = 0

/-- The invariant holds whenever the session is active; no session has committed twice. -/
structure Tracks (contents : S → Nat → UInt8) (state : State S) (session : Option Session) :
    Prop where
  active : state.ota.active = true →
    ∃ known, session = some known ∧ Invariant contents state.ota state.storage known
  once : ∀ known, session = some known → known.commits ≤ 1

/-- Every commit call of an event finds a complete session that has not committed. -/
def CommitsComplete (contents : S → Nat → UInt8) (session : Option Session) (event : Event S) :
    Prop :=
  ∀ before done, Call.commit before done ∈ event.calls →
    ∃ known, session = some known ∧ known.commits = 0 ∧ known.Complete (contents before)

/-! ## Reading the image back -/

section ReadBack

variable {contents : S → Nat → UInt8}

theorem Remembers.recorded (remembers : Remembers contents) :
    Remembers fun recorded : Recorded S => contents recorded.storage where
  read_bytes recorded := remembers.read_bytes recorded.storage
  read_keeps recorded := remembers.read_keeps recorded.storage
  write_inside recorded := remembers.write_inside recorded.storage
  write_outside recorded := remembers.write_outside recorded.storage

/-- The read-back loop computes the register of everything behind `offset`. -/
theorem readBack_spec (remembers : Remembers contents) (size blocks offset : Nat) (crc : UInt32)
    (storage : S) (count : blocks = (size - offset + 63) / 64) :
    (∀ found, (readBack size blocks offset crc storage).1 = some found →
      found = crcUpdate crc (slice (contents storage) offset (size - offset))) ∧
    contents (readBack size blocks offset crc storage).2 = contents storage := by
  induction blocks generalizing offset crc storage with
  | zero =>
      have none : size - offset = 0 := by omega
      rw [none]
      exact ⟨fun found same => (Option.some.inj same).symm, rfl⟩
  | succ blocks ih =>
      have keeps := remembers.read_keeps storage offset (min (size - offset) 64)
      have bytes := remembers.read_bytes storage offset (min (size - offset) 64)
      rw [readBack]
      cases read : Storage.read storage offset (min (size - offset) 64) with
      | mk found after =>
          rw [read] at keeps bytes
          cases found with
          | none =>
              refine ⟨fun _ impossible => ?_, keeps⟩
              cases impossible
          | some found =>
              obtain ⟨value, same⟩ := ih (offset + 64) (crcUpdate crc found) after (by omega)
              refine ⟨fun result equal => ?_, same.trans keeps⟩
              rw [value result equal, bytes found rfl, keeps, ← crcUpdate_append]
              rcases Nat.lt_or_ge (size - offset) 64 with short | long
              · rw [Nat.min_eq_left (by omega), show size - (offset + 64) = 0 by omega]
                simp [slice]
              · rw [Nat.min_eq_right long, ← slice_add]
                congr 2
                omega

theorem readBack_calls (size blocks offset : Nat) (crc : UInt32) (recorded : Recorded S) :
    ∃ reads : List (Call S), (readBack size blocks offset crc recorded).2.calls =
      recorded.calls ++ reads ∧ ∀ call ∈ reads, call.isCommit = false ∧ call.isWrite = false := by
  induction blocks generalizing offset crc recorded with
  | zero => exact ⟨[], (List.append_nil _).symm, by simp⟩
  | succ blocks ih =>
      rw [readBack, Recorded.read_eq]
      cases found : (Storage.read recorded.storage offset (min (size - offset) 64)).1 with
      | none => exact ⟨_, rfl, by simp [Call.isCommit, Call.isWrite]⟩
      | some bytes =>
          obtain ⟨reads, calls, quiet⟩ := ih (offset + 64) (crcUpdate crc bytes)
            ⟨(Storage.read recorded.storage offset (min (size - offset) 64)).2,
              recorded.calls ++ [.read offset (min (size - offset) 64) true]⟩
          refine ⟨.read offset (min (size - offset) 64) true :: reads, ?_, ?_⟩
          · refine calls.trans ?_
            rw [List.append_assoc]
            rfl
          · simpa [Call.isCommit, Call.isWrite] using quiet

end ReadBack

/-! ## Vectors of a growing image -/

theorem ofLe32_append {first : List UInt8} (rest : List UInt8) (long : 4 ≤ first.length) :
    ofLe32 (first ++ rest) = ofLe32 first :=
  ofLe32_congr fun i inside => List.getD_append _ _ _ _ (by omega)

theorem legalVectors_append (size : Nat) {first : List UInt8} (rest : List UInt8)
    (long : 8 ≤ first.length) : legalVectors size (first ++ rest) = legalVectors size first := by
  have tail : ofLe32 ((first ++ rest).drop 4) = ofLe32 (first.drop 4) := by
    rw [List.drop_append_of_le_length (by omega)]
    exact ofLe32_append _ (by simp; omega)
  unfold legalVectors
  rw [tail, ofLe32_append _ (by omega)]

theorem clearLowBit (word : UInt32) : (word &&& ~~~1).toNat = word.toNat / 2 * 2 := by
  have ones : ∀ i < 31, (4294967294#32).getLsbD (i + 1) = true := by decide
  have same : (word &&& ~~~1).toBitVec = (word.toBitVec >>> 1) <<< 1 := by
    refine BitVec.eq_of_getLsbD_eq fun i inside => ?_
    rcases i with _ | i
    · simp
    · change (word.toBitVec &&& 4294967294#32).getLsbD (i + 1) = _
      rw [BitVec.getLsbD_and, ones i (by omega)]
      simp [inside, Nat.add_comm 1]
  rw [← UInt32.toNat_toBitVec, same]
  have bound := word.toNat_lt
  simp [Nat.shiftLeft_eq, Nat.shiftRight_eq_div_pow]
  omega

/-- The check of the source, in numbers. -/
theorem LegalVectors.of_check {size : Nat} {image : List UInt8} (small : size ≤ limit)
    (legal : legalVectors size image = true) : LegalVectors size image := by
  change size ≤ 480 * 1024 at small
  simp only [legalVectors, Bool.and_eq_true, decide_eq_true_eq, beq_iff_eq, bne_iff_ne] at legal
  obtain ⟨⟨⟨⟨⟨low, high⟩, aligned⟩, odd⟩, resetLow⟩, resetHigh⟩ := legal
  have one : (ofLe32 (image.drop 4) &&& 1).toNat = (ofLe32 (image.drop 4)).toNat % 2 := by
    simp [Nat.and_one_is_mod]
  have isOdd : (ofLe32 (image.drop 4)).toNat % 2 = 1 := by
    have nonzero : (ofLe32 (image.drop 4) &&& 1).toNat ≠ 0 := fun zero =>
      odd (UInt32.toNat_inj.mp zero)
    omega
  have clear : (ofLe32 (image.drop 4) &&& ~~~1).toNat = (ofLe32 (image.drop 4)).toNat - 1 := by
    rw [clearLowBit]
    omega
  rw [UInt32.le_iff_toNat_le] at low high resetLow
  rw [UInt32.lt_iff_toNat_lt, clear] at resetHigh
  rw [clear] at resetLow
  refine ⟨low, high, ?_, isOdd, resetLow, ?_⟩
  · simpa using congrArg UInt32.toNat aligned
  · simp at resetHigh
    omega

theorem LegalVectors.check {size : Nat} {image : List UInt8} (small : size ≤ limit)
    (legal : LegalVectors size image) : legalVectors size image = true := by
  change size ≤ 480 * 1024 at small
  obtain ⟨low, high, aligned, odd, resetLow, resetHigh⟩ := legal
  have one : (ofLe32 (image.drop 4) &&& 1).toNat = 1 := by
    rw [UInt32.toNat_and]
    exact (Nat.and_one_is_mod _).trans odd
  have clear : (ofLe32 (image.drop 4) &&& ~~~1).toNat = (ofLe32 (image.drop 4)).toNat - 1 := by
    rw [clearLowBit]
    omega
  simp only [legalVectors, Bool.and_eq_true, decide_eq_true_eq, beq_iff_eq, bne_iff_ne]
  refine ⟨⟨⟨⟨⟨?_, ?_⟩, ?_⟩, ?_⟩, ?_⟩, ?_⟩
  · exact UInt32.le_iff_toNat_le.mpr low
  · exact UInt32.le_iff_toNat_le.mpr high
  · exact UInt32.toNat_inj.mp (by rw [UInt32.toNat_mod]; exact aligned)
  · intro zero
    rw [zero] at one
    cases one
  · rw [UInt32.le_iff_toNat_le, clear]
    exact resetLow
  · rw [UInt32.lt_iff_toNat_lt, clear]
    simp
    omega

/-! ## What a commit line does -/

/-- A commit line reads the image back; only when its CRC is the announced one does it commit. -/
theorem commit_calls {contents : S → Nat → UInt8} (remembers : Remembers contents) (ota : Ota)
    (storage : S) (active : ota.active = true) (complete : ota.received = ota.size) :
    (ota.commit ({ storage } : Recorded S)).ota.active = false ∧
    ∃ reads : List (Call S), (∀ call ∈ reads, call.isCommit = false ∧ call.isWrite = false) ∧
      ((ota.commit ({ storage } : Recorded S)).reply.ends = true ∧
          (ota.commit ({ storage } : Recorded S)).storage.calls = reads ∨
        ∃ before done, (ota.commit ({ storage } : Recorded S)).storage.calls =
            reads ++ [.commit before done] ∧
          (ota.commit ({ storage } : Recorded S)).reply = (if done then .reboot else .errMark) ∧
          contents before = contents storage ∧
          crc32 (slice (contents storage) 0 ota.size) = ota.expectedCrc) := by
  obtain ⟨value, same⟩ := readBack_spec remembers.recorded ota.size ((ota.size + 63) / 64) 0
    0xFFFFFFFF { storage } (by omega)
  obtain ⟨reads, calls, quiet⟩ := readBack_calls ota.size ((ota.size + 63) / 64) 0 0xFFFFFFFF
    ({ storage } : Recorded S)
  have equal {crc : UInt32} (found : (readBack ota.size ((ota.size + 63) / 64) 0 0xFFFFFFFF
      ({ storage } : Recorded S)).1 = some crc) (right : ~~~crc = ota.expectedCrc) :
      crc32 (slice (contents storage) 0 ota.size) = ota.expectedCrc := by
    rw [← not_crcUpdate, ← right, value crc found]
    rfl
  have commits := ota.commits ({ storage } : Recorded S) active complete
  generalize ota.commit ({ storage } : Recorded S) = outcome at commits
  cases commits with
  | unread after read =>
      rw [read] at calls
      exact ⟨rfl, reads, quiet, .inl ⟨rfl, calls⟩⟩
  | differs crc after read wrong =>
      rw [read] at calls
      exact ⟨rfl, reads, quiet, .inl ⟨rfl, calls⟩⟩
  | unmarked crc before read right failed =>
      have right := equal (congrArg Prod.fst read) right
      rw [read] at same calls
      rw [Recorded.commit_eq] at failed ⊢
      refine ⟨rfl, reads, quiet, .inr ⟨before.storage, false, ?_, rfl, same, right⟩⟩
      exact congrArg₂ (fun calls done => calls ++ [.commit before.storage done]) calls failed
  | marked crc before read right done =>
      have right := equal (congrArg Prod.fst read) right
      rw [read] at same calls
      rw [Recorded.commit_eq] at done ⊢
      refine ⟨rfl, reads, quiet, .inr ⟨before.storage, true, ?_, rfl, same, right⟩⟩
      exact congrArg₂ (fun calls done => calls ++ [.commit before.storage done]) calls done

/-! ## One line -/

section Step

variable {contents : S → Nat → UInt8} {ota : Ota} {storage : S} {session : Option Session}
  {line : List UInt8}

omit [Storage S] in
theorem countP_commits {calls : List (Call S)}
    (quiet : ∀ call ∈ calls, call.isCommit = false ∧ call.isWrite = false) :
    calls.countP Call.commits = 0 := by
  refine List.countP_eq_zero.mpr fun call found => ?_
  have := (quiet call found).1
  cases call with
  | commit => simp [Call.isCommit] at this
  | _ => simp [Call.commits]

omit [Storage S] in
/-- A line that stores nothing new and commits nothing leaves the session as it was. -/
theorem Session.observe_quiet {reply : Reply} {calls : List (Call S)} (ready : reply ≠ .ready)
    (ends : reply.ends = false)
    (quiet : ∀ call ∈ calls, call.isCommit = false ∧ call.isWrite = false) :
    observe session { input := .line line, reply := some reply, calls } = session := by
  have unwritten : calls.any Call.isWrite = false := by
    simpa using fun call found => (quiet call found).2
  simp [observe, ready, ends, unwritten, countP_commits quiet]

omit [Storage S] in
theorem CommitsComplete.of_quiet {event : Event S}
    (quiet : ∀ call ∈ event.calls, call.isCommit = false ∧ call.isWrite = false) :
    CommitsComplete contents session event := by
  intro before done found
  have := (quiet _ found).1
  simp [Call.isCommit] at this

/-- Bytes written behind what is stored extend it. -/
theorem Remembers.stored_append (remembers : Remembers contents) {storage : S}
    {image bytes : List UInt8} (stored : slice (contents storage) 0 image.length = image)
    (written : (Storage.write storage image.length bytes).1 = true) :
    slice (contents (Storage.write storage image.length bytes).2) 0 (image.length + bytes.length) =
      image ++ bytes := by
  have inside := remembers.write_inside _ _ _ written
  have outside := remembers.write_outside _ _ _ written
  rw [slice_add, Nat.zero_add]
  refine congrArg₂ (· ++ ·) ?_ (slice_eq_iff.mpr inside)
  exact Eq.trans (slice_congr fun i below => outside (0 + i) (.inl (by omega))) stored

theorem Invariant.stored_chunk (remembers : Remembers contents) {known : Session}
    (invariant : Invariant contents ota storage known) {bytes : List UInt8}
    (accepts : ota.Accepts bytes)
    (written : (Storage.write storage ota.received bytes).1 = true) :
    Invariant contents { ota with received := ota.received + bytes.length }
      (Storage.write storage ota.received bytes).2
      { known with image := known.image ++ bytes } where
  size := invariant.size
  crc := invariant.crc
  large := invariant.large
  small := invariant.small
  whole := invariant.whole
  received := by
    change ota.received + bytes.length = (known.image ++ bytes).length
    rw [invariant.received, List.length_append]
  fits := by
    have fits := accepts.fits
    rw [invariant.size, invariant.received] at fits
    rwa [List.length_append]
  stored := by
    rw [invariant.received] at written ⊢
    rw [List.length_append]
    exact remembers.stored_append invariant.stored written
  vectors := by
    right
    rcases invariant.vectors with start | ⟨long, legal⟩
    · obtain ⟨long, legal⟩ := accepts.vectors (by rw [invariant.received, start]; rfl)
      rw [start, List.nil_append, ← invariant.size]
      exact ⟨long, legal⟩
    · rw [legalVectors_append _ _ long, List.length_append]
      exact ⟨by omega, legal⟩
  fresh := invariant.fresh

omit [Storage S] in
/-- A complete session whose read-back CRC was the announced one. -/
theorem Invariant.complete {known : Session} (invariant : Invariant contents ota storage known)
    (complete : ota.received = ota.size)
    (crc : crc32 (slice (contents storage) 0 ota.size) = ota.expectedCrc) :
    known.Complete (contents storage) := by
  have length : known.image.length = known.size := by
    rw [← invariant.received, complete, invariant.size]
  have stored := invariant.stored
  rw [length] at stored
  have large := invariant.large
  refine {
    large := invariant.large, small := invariant.small, whole := invariant.whole
    length, stored, vectors := ?_, crc := ?_ }
  · rcases invariant.vectors with start | ⟨long, legal⟩
    · rw [start, List.length_nil] at length
      omega
    · exact ⟨long, LegalVectors.of_check invariant.small legal⟩
  · rw [← stored, ← invariant.crc, ← crc, invariant.size]

omit [Storage S] in
/-- The commit calls of a commit line, in terms of its reply. -/
theorem Session.observe_commit {known : Session} (fresh : known.commits = 0) {reply : Reply}
    {reads calls : List (Call S)}
    (quiet : ∀ call ∈ reads, call.isCommit = false ∧ call.isWrite = false)
    (result : reply.ends = true ∨
      reply = .reboot ∧ ∃ before, calls = reads ++ [.commit before true])
    {after : Session} (seen : observe (some known) {
      input := .line line, reply := some reply, calls } = some after) : after.commits ≤ 1 := by
  rcases result with ends | ⟨rfl, before, rfl⟩
  · have ready : reply ≠ .ready := by rintro rfl; cases ends
    simp [observe, ready, ends] at seen
  · simp [observe, Reply.ends, countP_commits quiet, Call.commits, fresh] at seen
    exact Nat.le_of_eq (congrArg Session.commits seen.symm)

/-- What one line does to a tracked session. -/
theorem Tracks.handled (remembers : Remembers contents)
    (tracks : Tracks contents { ota, storage } session) {outcome : Outcome (Recorded S)}
    (handled : ota.Handled line ({ storage } : Recorded S) outcome) :
    Tracks contents { ota := outcome.ota, storage := outcome.storage.storage }
        (Session.observe session {
          input := .line line, reply := some outcome.reply, calls := outcome.storage.calls }) ∧
      CommitsComplete contents session {
        input := .line line, reply := some outcome.reply, calls := outcome.storage.calls } := by
  cases handled with
  | refused reply refuses =>
      have ready : reply ≠ .ready := by rintro rfl; cases refuses
      have ends : reply.ends = false := by cases reply <;> first | rfl | cases refuses
      rw [Session.observe_quiet ready ends (by simp)]
      exact ⟨tracks, CommitsComplete.of_quiet (by simp)⟩
  | began size crc args large small whole =>
      refine ⟨⟨fun _ => ⟨{ size := size.toNat, crc }, ?_, ?_⟩, ?_⟩,
        CommitsComplete.of_quiet (by simp)⟩
      · simp [Session.observe, args]
      · exact {
          size := rfl, crc := rfl, large, small, whole, received := rfl, fits := Nat.zero_le _
          stored := rfl, vectors := .inl rfl, fresh := rfl }
      · intro known same
        simp only [Session.observe, if_true, args, Option.map_some, Option.some.injEq] at same
        rw [← same]
        exact Nat.zero_le 1
  | retried offset bytes args active inside =>
      have keeps := remembers.read_keeps storage offset bytes.length
      simp only [Recorded.read_eq]
      rw [Session.observe_quiet (by split <;> simp) (by split <;> rfl)
        (by simp [Call.isCommit, Call.isWrite])]
      refine ⟨⟨fun still => ?_, tracks.once⟩,
        CommitsComplete.of_quiet (by simp [Call.isCommit, Call.isWrite])⟩
      obtain ⟨known, same, invariant⟩ := tracks.active still
      exact ⟨known, same, { invariant with stored := by rw [keeps]; exact invariant.stored }⟩
  | stored bytes args accepts written =>
      obtain ⟨known, same, invariant⟩ := tracks.active accepts.active
      have seen : Session.observe session {
          input := .line line, reply := some .ok
          calls := (Storage.write ({ storage } : Recorded S) ota.received bytes).2.calls } =
            some { known with image := known.image ++ bytes } := by
        rw [Recorded.write_eq, same]
        simp [Session.observe, Reply.ends, Call.isWrite, Call.commits, args]
      rw [seen]
      refine ⟨⟨fun _ => ⟨_, rfl, invariant.stored_chunk remembers accepts written⟩, ?_⟩, ?_⟩
      · intro known' same'
        rw [← Option.some.inj same']
        exact tracks.once known same
      · intro before done found
        simp [Recorded.write_eq] at found
  | writeFailed bytes args accepts failed =>
      refine ⟨⟨fun impossible => ?_, fun known same => ?_⟩, ?_⟩
      · cases impossible
      · simp [Session.observe, Reply.ends] at same
      · intro before done found
        simp [Recorded.write_eq] at found
  | committed active complete =>
      obtain ⟨known, same, invariant⟩ := tracks.active active
      obtain ⟨inactive, reads, quiet, result⟩ :=
        commit_calls remembers ota storage active complete
      refine ⟨⟨fun impossible => ?_, ?_⟩, ?_⟩
      · rw [inactive] at impossible
        cases impossible
      · intro known' seen
        rw [same] at seen
        refine Session.observe_commit invariant.fresh quiet ?_ seen
        rcases result with ⟨ends, _⟩ | ⟨before, done, calls, reply, _⟩
        · exact .inl ends
        · cases done with
          | true => exact .inr ⟨reply, before, calls⟩
          | false => exact .inl (by rw [reply]; rfl)
      · intro before done found
        rcases result with ⟨_, calls⟩ | ⟨before', done', calls, _, kept, crc⟩
        · rw [calls] at found
          have := (quiet _ found).1
          simp [Call.isCommit] at this
        · rw [calls] at found
          rcases List.mem_append.mp found with old | last
          · have := (quiet _ old).1
            simp [Call.isCommit] at this
          · obtain ⟨rfl, rfl⟩ := Call.commit.inj (List.mem_singleton.mp last)
            refine ⟨known, same, invariant.fresh, ?_⟩
            rw [kept]
            exact invariant.complete complete crc
  | aborted =>
      refine ⟨⟨fun impossible => ?_, fun known same => ?_⟩, CommitsComplete.of_quiet (by simp)⟩
      · cases impossible
      · simp [Session.observe, Reply.ends] at same

/-- One line or abort keeps the session tracked. -/
theorem Tracks.step (remembers : Remembers contents) {state : State S}
    (tracks : Tracks contents state session) (input : Input) :
    Tracks contents (state.step input).2 (Session.observe session (state.step input).1) ∧
      CommitsComplete contents session (state.step input).1 := by
  cases input with
  | line bytes => exact tracks.handled remembers (state.ota.handle_cases bytes _)
  | abort =>
      refine ⟨⟨fun impossible => ?_, fun known same => ?_⟩, ?_⟩
      · cases impossible
      · cases same
      · exact CommitsComplete.of_quiet (by simp [State.step])

end Step

/-! ## A whole run -/

section Run

variable {contents : S → Nat → UInt8}

/-- At every event of a run the session known so far is tracked. -/
theorem Tracks.trace (remembers : Remembers contents) {state : State S} {session : Option Session}
    (tracks : Tracks contents state session) {inputs : List Input} {before after : List (Event S)}
    (split : state.trace inputs = before ++ after) :
    (∀ known, before.foldl Session.observe session = some known → known.commits ≤ 1) ∧
      ∀ event rest, after = event :: rest →
        CommitsComplete contents (before.foldl Session.observe session) event := by
  induction before generalizing state session inputs with
  | nil =>
      refine ⟨tracks.once, fun event rest same => ?_⟩
      cases inputs with
      | nil => simp [State.trace, same] at split
      | cons input inputs =>
          rw [State.trace, List.nil_append, same] at split
          obtain ⟨rfl, rfl⟩ := List.cons.inj split
          exact (tracks.step remembers input).2
  | cons event before ih =>
      cases inputs with
      | nil => simp [State.trace] at split
      | cons input inputs =>
          obtain ⟨rfl, tail⟩ := List.cons.inj split
          exact ih (tracks.step remembers input).1 tail

/-- A storage commit is called only for an announced image that was sent, is legal, is stored and
has the announced CRC; and no update is committed twice. -/
theorem commit_safety (remembers : Remembers contents) (storage : S) (inputs : List Input)
    (before after : List (Event S))
    (split : ({ storage } : State S).trace inputs = before ++ after) :
    (∀ known, before.foldl Session.observe none = some known → known.commits ≤ 1) ∧
      ∀ event rest, after = event :: rest →
        ∀ stored done, Call.commit stored done ∈ event.calls →
          ∃ known, before.foldl Session.observe none = some known ∧ known.commits = 0 ∧
            known.Complete (contents stored) := by
  refine Tracks.trace remembers ⟨fun impossible => ?_, fun known same => ?_⟩ split
  · cases impossible
  · cases same

end Run

/-! ## A memory as storage -/

/-- A memory of some bytes; accesses beyond its end fail. -/
structure Memory where
  bytes : List UInt8
  deriving DecidableEq

instance : Storage Memory where
  write memory offset bytes :=
    if offset + bytes.length ≤ memory.bytes.length then
      (true, ⟨memory.bytes.take offset ++ bytes ++ memory.bytes.drop (offset + bytes.length)⟩)
    else (false, memory)
  read memory offset count :=
    (if offset + count ≤ memory.bytes.length then
        some (slice (memory.bytes.getD · 0) offset count)
      else none, memory)
  commit memory := (true, memory)

theorem Memory.write_eq {memory : Memory} {offset : Nat} {bytes : List UInt8}
    (written : (Storage.write memory offset bytes).1 = true) :
    offset + bytes.length ≤ memory.bytes.length ∧ (Storage.write memory offset bytes).2.bytes =
      memory.bytes.take offset ++ bytes ++ memory.bytes.drop (offset + bytes.length) := by
  change (if _ then _ else _ : Bool × Memory).1 = true at written
  change _ ∧ (if _ then _ else _ : Bool × Memory).2.bytes = _
  split at written
  next fits => exact ⟨fits, by rw [if_pos fits]⟩
  · cases written

theorem Memory.remembers : Remembers fun (memory : Memory) i => memory.bytes.getD i 0 where
  read_bytes memory offset count bytes found := by
    change (if _ then _ else _) = _ at found
    split at found
    · exact (Option.some.inj found).symm
    · cases found
  read_keeps _ _ _ := rfl
  write_inside memory offset bytes written i inside := by
    obtain ⟨fits, result⟩ := Memory.write_eq written
    rw [result, List.append_assoc,
      List.getD_append_right _ _ _ _ (by rw [List.length_take]; omega),
      List.getD_append _ _ _ _ (by rw [List.length_take]; omega)]
    simp [Nat.min_eq_left (show offset ≤ memory.bytes.length by omega), inside]
  write_outside memory offset bytes written i outside := by
    obtain ⟨fits, result⟩ := Memory.write_eq written
    rw [result, List.append_assoc]
    rcases outside with before | after
    · rw [List.getD_append _ _ _ _ (by simp; omega)]
      simp [List.getD_eq_getElem?_getD, before]
    · rw [List.getD_append_right _ _ _ _ (by simp; omega),
        List.getD_append_right _ _ _ _ (by simp; omega)]
      simp only [List.getD_eq_getElem?_getD, List.length_take, List.getElem?_drop]
      congr 2
      omega

/-- The bytes of a payload as hexadecimal digits. -/
def hexText (bytes : List UInt8) : List UInt8 :=
  bytes.flatMap fun byte => [byte / 16, byte % 16].map fun digit =>
    if digit < 10 then 0x30 + digit else 0x37 + digit

/-- A bootable image of 260 bytes and its upload in five chunks. -/
def smallImage : List UInt8 := [0, 0, 0, 0x20, 1, 0x71, 0, 0] ++ List.replicate 252 0

def smallUpload : List Input := [
  .line (ascii "OTA BEGIN 104 8674F5C3"),
  .line (ascii "OTA DATA 0 " ++ hexText (smallImage.take 64)),
  .line (ascii "OTA DATA 40 " ++ hexText ((smallImage.drop 64).take 64)),
  .line (ascii "OTA DATA 80 " ++ hexText ((smallImage.drop 128).take 64)),
  .line (ascii "OTA DATA C0 " ++ hexText ((smallImage.drop 192).take 64)),
  .line (ascii "OTA DATA 100 " ++ hexText (smallImage.drop 256)),
  .line (ascii "OTA COMMIT")]

/-- The commit of an upload with the CRC of its image. -/
theorem commit_safety_smallUpload :
    ∃ known : Session,
      ((({ storage := ⟨List.replicate 260 0xFF⟩ } : State Memory).trace smallUpload).take 6).foldl
        Session.observe none = some known ∧ known.commits = 0 ∧
      known.Complete (smallImage.getD · 0) := by
  obtain ⟨_, commits⟩ := commit_safety Memory.remembers ⟨List.replicate 260 0xFF⟩ smallUpload
    _ _ (List.take_append_drop 6 _).symm
  exact commits
    { input := .line (ascii "OTA COMMIT"), reply := some .reboot
      calls := [.read 0 64 true, .read 64 64 true, .read 128 64 true, .read 192 64 true,
        .read 256 4 true, .commit ⟨smallImage⟩ true] } [] (by decide +kernel) ⟨smallImage⟩ true
    (by simp)

end NrfUnifying.UartOta
