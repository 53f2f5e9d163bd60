import NrfUnifying.Ota.AppendOnly

/-!
# Delivery of an image over a lossy line

A stop-and-wait sender and the session it talks to. Requests and replies are
numbered and wait in flight, oldest first; any of them may be lost, and the
sender repeats the current request until it sees the reply it waits for.
-/

namespace NrfUnifying.UartOta

open Lib.Bytes

/-! ## The sender -/

/-- An image, how it is split into chunks, and the request lines that carry it. -/
structure Upload where
  chunks : List (List UInt8)
  beginLine : List UInt8
  dataLine : Nat → List UInt8
  large : 256 < chunks.flatten.length
  small : chunks.flatten.length ≤ limit
  whole : chunks.flatten.length % 4 = 0
  vectors : LegalVectors chunks.flatten.length chunks.flatten
  chunk_short : ∀ bytes ∈ chunks, 4 ≤ bytes.length ∧ bytes.length ≤ 64
  chunk_whole : ∀ bytes ∈ chunks, bytes.length % 4 = 0
  first_long : ∀ bytes, chunks[0]? = some bytes → 8 ≤ bytes.length
  begins : announced beginLine =
    some (chunks.flatten.length.toUInt32, crc32 chunks.flatten)
  carries : ∀ i bytes, chunks[i]? = some bytes →
    chunk (dataLine i) = some ((chunks.take i).flatten.length, bytes)

namespace Upload

def image (upload : Upload) : List UInt8 := upload.chunks.flatten

/-- Where chunk `i` starts; behind the last chunk the size of the image. -/
def offset (upload : Upload) (i : Nat) : Nat := (upload.chunks.take i).flatten.length

/-- The number of the `COMMIT` request; `BEGIN` is 0 and chunk `i` is `i + 1`. -/
def commit (upload : Upload) : Nat := upload.chunks.length + 1

def line (upload : Upload) (number : Nat) : List UInt8 :=
  if number = 0 then upload.beginLine
  else if number < upload.commit then upload.dataLine (number - 1)
  else ascii "OTA COMMIT"

/-- The reply that the sender waits for. -/
def expected (upload : Upload) (number : Nat) : Reply :=
  if number = 0 then .ready else if number < upload.commit then .ok else .reboot

end Upload

/-! ## The line -/

/-- Sender, session and what is in flight between them. -/
structure Link (S : Type) where
  ota : Ota
  storage : S
  /-- The number of the request that the sender waits for. -/
  current : Nat := 0
  requests : List Nat := []
  replies : List (Nat × Reply) := []
  /-- The requests delivered so far and their replies. -/
  handled : List (Nat × Reply) := []
  calls : List (Call S) := []

inductive Transfer where
  | send
  | deliver
  | answer
  | loseRequest (i : Nat)
  | loseReply (i : Nat)
  deriving DecidableEq, Repr

variable {S : Type} [Storage S]

/-- The oldest request in flight reaches the session. -/
def Link.deliver (upload : Upload) (link : Link S) (number : Nat) (rest : List Nat) : Link S :=
  let outcome := link.ota.handle (upload.line number) ({ storage := link.storage } : Recorded S)
  { link with
    ota := outcome.ota
    storage := outcome.storage.storage
    requests := rest
    replies := link.replies ++ [(number, outcome.reply)]
    handled := link.handled ++ [(number, outcome.reply)]
    calls := link.calls ++ outcome.storage.calls }

def Link.step (upload : Upload) (link : Link S) : Transfer → Link S
  | .send =>
      if link.current ≤ upload.commit then
        { link with requests := link.requests ++ [link.current] }
      else link
  | .deliver =>
      match link.requests with
      | [] => link
      | number :: rest => link.deliver upload number rest
  | .answer =>
      match link.replies with
      | [] => link
      | (number, reply) :: rest =>
          { link with
            replies := rest
            current := if number = link.current ∧ reply = upload.expected number then
              link.current + 1 else link.current }
  | .loseRequest i => { link with requests := link.requests.eraseIdx i }
  | .loseReply i => { link with replies := link.replies.eraseIdx i }

/-- A storage that remembers and whose operations succeed inside the largest image. -/
structure Reliable (contents : S → Nat → UInt8) : Prop extends Remembers contents where
  write_done : ∀ (storage : S) offset bytes, offset + bytes.length ≤ limit →
    (Storage.write storage offset bytes).1 = true
  read_done : ∀ (storage : S) offset count, offset + count ≤ limit →
    (Storage.read storage offset count).1.isSome
  commit_done : ∀ storage : S, (Storage.commit storage).1 = true

/-! ## The chunks of an image -/

namespace Upload

variable (upload : Upload)

theorem offset_succ {i : Nat} {bytes : List UInt8} (entry : upload.chunks[i]? = some bytes) :
    upload.offset (i + 1) = upload.offset i + bytes.length := by
  rw [offset, offset, List.take_add_one, entry, Option.toList_some, List.flatten_append,
    List.length_append, List.flatten_singleton]

theorem image_take_succ {i : Nat} {bytes : List UInt8} (entry : upload.chunks[i]? = some bytes) :
    (upload.chunks.take (i + 1)).flatten = (upload.chunks.take i).flatten ++ bytes := by
  rw [List.take_add_one, entry, Option.toList_some, List.flatten_append, List.flatten_singleton]

theorem offset_all {i : Nat} (all : upload.chunks.length ≤ i) :
    upload.offset i = upload.image.length := by
  rw [offset, List.take_of_length_le all, image]

theorem offset_le (i : Nat) : upload.offset i ≤ upload.image.length := by
  rw [offset, image]
  conv => rhs; rw [← List.take_append_drop i upload.chunks, List.flatten_append, List.length_append]
  exact Nat.le_add_right _ _

theorem offset_mono {i j : Nat} (order : i ≤ j) : upload.offset i ≤ upload.offset j := by
  rw [offset, offset, ← List.take_append_drop i (upload.chunks.take j), List.take_take,
    Nat.min_eq_left order, List.flatten_append, List.length_append]
  exact Nat.le_add_right _ _

/-- The writes that store the first `k` chunks. -/
def writes (upload : Upload) (k : Nat) : List (Call S) :=
  (List.range k).map fun i => .write (upload.offset i) (upload.chunks.getD i []) true

omit [Storage S] in
theorem writes_succ {i : Nat} {bytes : List UInt8} (entry : upload.chunks[i]? = some bytes) :
    (upload.writes (i + 1) : List (Call S)) =
      upload.writes i ++ [.write (upload.offset i) bytes true] := by
  rw [writes, List.range_succ, List.map_append, List.map_singleton, List.getD_eq_getElem?_getD,
    entry]
  rfl

section Session

variable (contents : S → Nat → UInt8) (ota : Ota) (storage : S) (handled : List (Nat × Reply))
  (calls : List (Call S))

/-- The update is active and its first `k` chunks are stored. -/
structure Storing (k : Nat) : Prop where
  started : handled ≠ []
  inside : k ≤ upload.chunks.length
  active : ota.active = true
  size : ota.size = upload.image.length
  crc : ota.expectedCrc = crc32 upload.image
  received : ota.received = upload.offset k
  stored : slice (contents storage) 0 (upload.offset k) = (upload.chunks.take k).flatten
  replies : ∀ entry ∈ handled, entry.1 < upload.commit ∧ entry.2 = upload.expected entry.1
  written : calls.filter Call.isWrite = upload.writes k

/-- The image is stored and committed. -/
structure Committed : Prop where
  started : handled ≠ []
  inactive : ota.active = false
  received : ota.received = upload.image.length
  replies : ∀ entry ∈ handled, entry.1 < upload.commit → entry.2 = upload.expected entry.1
  first : handled.find? (·.1 = upload.commit) = some (upload.commit, .reboot)
  written : calls.filter Call.isWrite = upload.writes upload.chunks.length
  committed : ∃ before, Call.commit before true ∈ calls ∧
    slice (contents before) 0 upload.image.length = upload.image

/-- The session by the number of different requests delivered. -/
inductive Session : Nat → Prop where
  | waiting (none : handled = []) (quiet : calls = []) : Session 0
  | storing {k : Nat} (storing : upload.Storing contents ota storage handled calls k) :
      Session (k + 1)
  | done (committed : upload.Committed contents ota handled calls) : Session (upload.commit + 1)

end Session

end Upload

/-! ## What one delivered request does -/

section Deliver

variable {upload : Upload} {contents : S → Nat → UInt8}

theorem Reliable.recorded (reliable : Reliable contents) :
    Reliable fun recorded : Recorded S => contents recorded.storage where
  toRemembers := reliable.toRemembers.recorded
  write_done recorded := reliable.write_done recorded.storage
  read_done recorded := reliable.read_done recorded.storage
  commit_done recorded := reliable.commit_done recorded.storage

theorem Reliable.read_eq (reliable : Reliable contents) (storage : S) (offset count : Nat)
    (inside : offset + count ≤ limit) :
    (Storage.read storage offset count).1 = some (slice (contents storage) offset count) := by
  obtain ⟨bytes, found⟩ :=
    Option.isSome_iff_exists.mp (reliable.read_done storage offset count inside)
  rw [found, reliable.read_bytes storage offset count bytes found]

theorem Reliable.readBack_done (reliable : Reliable contents) {size : Nat} (small : size ≤ limit)
    (blocks offset : Nat) (crc : UInt32) (storage : S)
    (count : blocks = (size - offset + 63) / 64) :
    (readBack size blocks offset crc storage).1.isSome := by
  induction blocks generalizing offset crc storage with
  | zero => rfl
  | succ blocks ih =>
      have read := reliable.read_eq storage offset (min (size - offset) 64) (by omega)
      rw [readBack]
      cases result : Storage.read storage offset (min (size - offset) 64) with
      | mk found after =>
          rw [result] at read
          obtain rfl := read
          exact ih (offset + 64) _ after (by omega)

/-- A complete image with the announced CRC is committed. -/
theorem Reliable.commit_succeeds (reliable : Reliable contents) {ota : Ota} (storage : S)
    (active : ota.active = true) (complete : ota.received = ota.size) (small : ota.size ≤ limit)
    (crc : crc32 (slice (contents storage) 0 ota.size) = ota.expectedCrc) :
    ∃ (reads : List (Call S)) (before : S) (after : S),
      (∀ call ∈ reads, call.isCommit = false ∧ call.isWrite = false) ∧
      contents before = contents storage ∧
      ota.commit ({ storage } : Recorded S) = {
        reply := .reboot, reboot := true, ota := { ota with active := false }
        storage := ⟨after, reads ++ [.commit before true]⟩ } := by
  have found := reliable.recorded.readBack_done small ((ota.size + 63) / 64) 0 0xFFFFFFFF
    { storage } (by omega)
  obtain ⟨value, same⟩ := readBack_spec reliable.toRemembers.recorded ota.size
    ((ota.size + 63) / 64) 0 0xFFFFFFFF { storage } (by omega)
  obtain ⟨reads, calls, quiet⟩ := readBack_calls ota.size ((ota.size + 63) / 64) 0 0xFFFFFFFF
    ({ storage } : Recorded S)
  have commits := ota.commits ({ storage } : Recorded S) active complete
  generalize ota.commit ({ storage } : Recorded S) = outcome at commits
  cases commits with
  | unread after read =>
      rw [read] at found
      cases found
  | differs register after read wrong =>
      refine absurd ?_ wrong
      rw [value register (congrArg Prod.fst read), not_crcUpdate, ← crc, Nat.sub_zero]
  | unmarked register before read right failed =>
      exact absurd (failed.symm.trans (reliable.recorded.commit_done before)) Bool.false_ne_true
  | marked register before read right done =>
      rw [read] at same calls
      rw [Recorded.commit_eq] at done ⊢
      have done : (Storage.commit before.storage).1 = true := done
      have calls : before.calls = reads := calls
      refine ⟨reads, before.storage, (Storage.commit before.storage).2, quiet, same, ?_⟩
      rw [done, calls]

theorem Upload.size_toNat (upload : Upload) :
    upload.chunks.flatten.length.toUInt32.toNat = upload.image.length := by
  have small := upload.small
  change upload.chunks.flatten.length ≤ 480 * 1024 at small
  rw [Nat.toUInt32_eq, UInt32.toNat_ofNat', Nat.mod_eq_of_lt (by omega)]
  rfl

variable {ota : Ota} {storage : S} {handled : List (Nat × Reply)} {calls : List (Call S)}

/-- What delivering request `number` leads to. -/
def Upload.Delivers (upload : Upload) (contents : S → Nat → UInt8) (ota : Ota) (storage : S)
    (handled : List (Nat × Reply)) (calls : List (Call S)) (number : Nat) : Prop :=
  upload.Session contents
    (ota.handle (upload.line number) ({ storage } : Recorded S)).ota
    (ota.handle (upload.line number) ({ storage } : Recorded S)).storage.storage
    (handled ++ [(number, (ota.handle (upload.line number) ({ storage } : Recorded S)).reply)])
    (calls ++ (ota.handle (upload.line number) ({ storage } : Recorded S)).storage.calls)
    (number + 1)

/-- `BEGIN` starts the update, also when it is repeated. -/
theorem Upload.Session.begin {stage : Nat}
    (session : upload.Session contents ota storage handled calls stage) (early : stage ≤ 1) :
    upload.Delivers contents ota storage handled calls 0 := by
  have old : (∀ entry ∈ handled, entry.1 < upload.commit ∧ entry.2 = upload.expected entry.1) ∧
      calls.filter Call.isWrite = upload.writes 0 := by
    cases session with
    | waiting none quiet =>
        rw [none, quiet]
        exact ⟨by simp, rfl⟩
    | storing storing =>
        obtain rfl := Nat.le_zero.mp (Nat.le_of_succ_le_succ early)
        exact ⟨storing.replies, storing.written⟩
    | done => simp [Upload.commit] at early
  have size := upload.size_toNat
  rw [Upload.Delivers, show upload.line 0 = upload.beginLine from rfl,
    ota.handle_begins upload.begins (by rw [size]; exact Nat.le_of_lt upload.large)
      (by rw [size]; exact upload.small) (by rw [size]; exact upload.whole)]
  refine .storing {
    started := by simp, inside := Nat.zero_le _, active := rfl, size := upload.size_toNat
    crc := rfl, received := rfl, stored := rfl, replies := ?_, written := ?_ }
  · exact List.forall_mem_append.mpr
      ⟨old.1, List.forall_mem_singleton.mpr ⟨Nat.succ_pos _, rfl⟩⟩
  · rw [List.append_nil]
    exact old.2

theorem Upload.data_number {i : Nat} {bytes : List UInt8}
    (entry : upload.chunks[i]? = some bytes) :
    upload.line (i + 1) = upload.dataLine i ∧ upload.expected (i + 1) = .ok ∧
      i + 1 < upload.commit := by
  have inside : i + 1 < upload.commit := by
    have := (List.getElem?_eq_some_iff.mp entry).1
    rw [Upload.commit]
    omega
  refine ⟨?_, ?_, inside⟩
  · rw [Upload.line, if_neg (Nat.succ_ne_zero i), if_pos inside, Nat.add_sub_cancel]
  · rw [Upload.expected, if_neg (Nat.succ_ne_zero i), if_pos inside]

theorem Upload.offset_pos {i : Nat} {bytes : List UInt8}
    (entry : upload.chunks[i]? = some bytes) (later : i ≠ 0) : 0 < upload.offset i := by
  have inside := (List.getElem?_eq_some_iff.mp entry).1
  have nonempty : 0 < upload.chunks.length := by omega
  have first := upload.offset_succ (List.getElem?_eq_getElem nonempty)
  have long := (upload.chunk_short _ (List.getElem_mem nonempty)).1
  have mono := upload.offset_mono (show 0 + 1 ≤ i by omega)
  omega

/-- The first chunk of an image holds its vectors. -/
theorem Upload.first_vectors {bytes : List UInt8} (entry : upload.chunks[0]? = some bytes) :
    8 ≤ bytes.length ∧ legalVectors upload.image.length bytes = true := by
  have long := upload.first_long bytes entry
  have image : upload.image = bytes ++ (upload.chunks.drop 1).flatten := by
    obtain ⟨inside, first⟩ := List.getElem?_eq_some_iff.mp entry
    rw [Upload.image, ← first, ← List.flatten_cons, List.getElem_cons_drop, List.drop_zero]
  have legal := upload.vectors.check upload.small
  change legalVectors upload.image.length upload.image = true at legal
  refine ⟨long, ?_⟩
  rw [← legalVectors_append _ (upload.chunks.drop 1).flatten long, ← image]
  exact legal

/-- A new chunk is written behind the ones before it. -/
theorem Upload.Session.data (reliable : Reliable contents) {i : Nat} {bytes : List UInt8}
    (entry : upload.chunks[i]? = some bytes)
    (session : upload.Session contents ota storage handled calls (i + 1)) :
    upload.Delivers contents ota storage handled calls (i + 1) := by
  obtain ⟨line, expected, isData⟩ := Upload.data_number entry
  have member := List.mem_of_getElem? entry
  have short := upload.chunk_short bytes member
  have whole := upload.chunk_whole bytes member
  cases session with
  | done => omega
  | storing storing =>
      obtain ⟨started, inside, active, size, crc, received, stored, replies, written⟩ := storing
      have fits : upload.offset i + bytes.length ≤ upload.image.length := by
        rw [← upload.offset_succ entry]
        exact upload.offset_le (i + 1)
      have small : upload.image.length ≤ limit := upload.small
      have accepts : ota.Accepts bytes := {
        active, short := short.2, whole
        fits := by rw [received, size]; exact fits
        positive := by omega
        vectors := fun start => by
          rcases Nat.eq_zero_or_pos i with rfl | later
          · rw [size]
            exact Upload.first_vectors entry
          · have := Upload.offset_pos entry (Nat.ne_of_gt later)
            omega }
      have carried := upload.carries i bytes entry
      have done := reliable.write_done storage (upload.offset i) bytes (by omega)
      have result : ota.handle (upload.dataLine i) ({ storage } : Recorded S) = {
          reply := .ok, ota := { ota with received := upload.offset (i + 1) }
          storage := ⟨(Storage.write storage (upload.offset i) bytes).2,
            [.write (upload.offset i) bytes true]⟩ } := by
        rw [ota.handle_stores (by rw [size]; exact small) (by rw [received]; exact carried) accepts
          (by rw [received]; exact done), upload.offset_succ entry, received, Recorded.write_eq,
          done]
        rfl
      rw [Upload.Delivers, line, result]
      refine .storing {
        started := by simp, inside := (List.getElem?_eq_some_iff.mp entry).1, active, size, crc
        received := rfl, stored := ?_, replies := ?_, written := ?_ }
      · rw [upload.offset_succ entry, upload.image_take_succ entry]
        exact reliable.stored_append stored done
      · exact List.forall_mem_append.mpr
          ⟨replies, List.forall_mem_singleton.mpr ⟨isData, expected.symm⟩⟩
      · rw [List.filter_append, written, upload.writes_succ entry]
        rfl

/-- A repeated chunk is compared with what is stored and accepted. -/
theorem Upload.Session.data_again (reliable : Reliable contents) {i : Nat} {bytes : List UInt8}
    (entry : upload.chunks[i]? = some bytes)
    (session : upload.Session contents ota storage handled calls (i + 2)) :
    upload.Delivers contents ota storage handled calls (i + 1) := by
  obtain ⟨line, expected, isData⟩ := Upload.data_number entry
  have member := List.mem_of_getElem? entry
  have short := upload.chunk_short bytes member
  have whole := upload.chunk_whole bytes member
  cases session with
  | done => exact absurd isData (Nat.lt_irrefl _)
  | storing storing =>
      obtain ⟨started, inside, active, size, crc, received, stored, replies, written⟩ := storing
      have small : upload.image.length ≤ limit := upload.small
      have fits := upload.offset_le (i + 1)
      have next := upload.offset_succ entry
      have read : (Storage.read ({ storage } : Recorded S) (upload.offset i) bytes.length).1 =
          some bytes := by
        rw [Recorded.read_eq, reliable.read_eq storage _ _ (by omega)]
        rw [next, upload.image_take_succ entry, slice_add, Nat.zero_add] at stored
        exact congrArg some (List.append_inj stored (slice_length _ _ _)).2
      have result := ota.handle_retries (by omega) (upload.carries i bytes entry) active (by omega)
        short.2 whole (by rw [received, next]; exact Nat.le_refl _) (by omega) read
      rw [Upload.Delivers, line, result]
      refine .storing {
        started := by simp, inside, active, size, crc, received, stored := ?_, replies := ?_
        written := ?_ }
      · change slice (contents (Storage.read storage _ _).2) 0 _ = _
        rw [reliable.read_keeps]
        exact stored
      · exact List.forall_mem_append.mpr
          ⟨replies, List.forall_mem_singleton.mpr ⟨isData, expected.symm⟩⟩
      · rw [List.filter_append, written]
        exact List.append_nil _

theorem Upload.commit_number (upload : Upload) :
    upload.line upload.commit = ascii "OTA COMMIT" := by
  rw [Upload.line, if_neg (show upload.commit ≠ 0 from Nat.succ_ne_zero _),
    if_neg (Nat.lt_irrefl _)]

theorem commit_tokens : (ascii "OTA COMMIT").splitOn 0x20 = [ascii "OTA", ascii "COMMIT"] := by
  decide

/-- The first `COMMIT` behind all chunks succeeds on the image. -/
theorem Upload.Session.commit (reliable : Reliable contents)
    (session : upload.Session contents ota storage handled calls upload.commit) :
    upload.Delivers contents ota storage handled calls upload.commit := by
  generalize stageIs : upload.commit = stage at session
  cases session with
  | waiting => cases stageIs
  | done => omega
  | storing storing =>
      obtain rfl := Nat.succ.inj stageIs
      obtain ⟨started, inside, active, size, crc, received, stored, replies, written⟩ := storing
      rw [upload.offset_all (Nat.le_refl _)] at received stored
      rw [List.take_length] at stored
      obtain ⟨reads, before, after, quiet, same, result⟩ := reliable.commit_succeeds storage active
        (received.trans size.symm) (by rw [size]; exact upload.small)
        (by rw [size, stored]; exact crc.symm)
      change upload.Delivers contents ota storage handled calls upload.commit
      rw [Upload.Delivers, upload.commit_number, ota.handle_commit commit_tokens, result]
      refine .done {
        started := by simp, inactive := rfl, received, replies := ?_, first := ?_, written := ?_
        committed := ⟨before, by simp, by rw [same]; exact stored⟩ }
      · refine List.forall_mem_append.mpr ⟨fun entry member _ => (replies entry member).2, ?_⟩
        exact List.forall_mem_singleton.mpr fun early => absurd early (Nat.lt_irrefl _)
      · rw [List.find?_append, List.find?_eq_none.mpr]
        · simp
        · intro entry member same
          have early := (replies entry member).1
          rw [of_decide_eq_true same] at early
          exact absurd early (Nat.lt_irrefl _)
      · have noWrites : (reads ++ [Call.commit before true]).filter Call.isWrite = [] := by
          refine List.filter_eq_nil_iff.mpr fun call member => ?_
          rcases List.mem_append.mp member with read | last
          · simp [(quiet call read).2]
          · rw [List.mem_singleton.mp last]
            exact Bool.false_ne_true
        rw [List.filter_append, written, noWrites, List.append_nil]

/-- A repeated `COMMIT` finds no session and changes nothing. -/
theorem Upload.Session.commit_again
    (session : upload.Session contents ota storage handled calls (upload.commit + 1)) :
    upload.Delivers contents ota storage handled calls upload.commit := by
  generalize stageIs : upload.commit + 1 = stage at session
  cases session with
  | waiting => cases stageIs
  | storing storing =>
      have inside := storing.inside
      rw [← Nat.succ.inj stageIs, Upload.commit] at inside
      omega
  | done committed =>
      have result : ota.commit ({ storage } : Recorded S) =
          { reply := .errIncomplete, ota, storage := { storage } } := by
        rw [Ota.commit, if_pos (.inl committed.inactive)]
      rw [Upload.Delivers, upload.commit_number, ota.handle_commit commit_tokens, result]
      obtain ⟨before, called, image⟩ := committed.committed
      refine .done { committed with
        started := by simp, replies := ?_, first := ?_, written := ?_
        committed := ⟨before, List.mem_append_left _ called, image⟩ }
      · refine List.forall_mem_append.mpr ⟨committed.replies, ?_⟩
        exact List.forall_mem_singleton.mpr fun early => absurd early (Nat.lt_irrefl _)
      · rw [List.find?_append, committed.first]
        rfl
      · rw [List.append_nil]
        exact committed.written

/-- The current request, new or repeated, does what the sender expects of it. -/
theorem Upload.Session.deliver (reliable : Reliable contents) {stage number : Nat}
    (session : upload.Session contents ota storage handled calls stage)
    (due : number = stage ∨ number + 1 = stage) (known : number ≤ upload.commit) :
    upload.Delivers contents ota storage handled calls number := by
  rcases Nat.eq_zero_or_pos number with rfl | positive
  · exact session.begin (by omega)
  rcases Nat.lt_or_ge number upload.commit with isData | last
  · obtain ⟨i, rfl⟩ : ∃ i, number = i + 1 := ⟨number - 1, by omega⟩
    have entry := List.getElem?_eq_getElem
      (show i < upload.chunks.length from Nat.lt_of_succ_lt_succ isData)
    rcases due with rfl | rfl
    · exact session.data reliable entry
    · exact session.data_again reliable entry
  · obtain rfl := Nat.le_antisymm known last
    rcases due with rfl | rfl
    · exact session.commit reliable
    · exact session.commit_again

end Deliver

/-! ## Whole transfers -/

section Run

variable {upload : Upload} {contents : S → Nat → UInt8}

/-- Sender and session agree on the current request, and so does what is in flight. -/
structure Link.Agrees (upload : Upload) (contents : S → Nat → UInt8) (link : Link S)
    (stage : Nat) : Prop where
  session : upload.Session contents link.ota link.storage link.handled link.calls stage
  behind : link.current ≤ stage
  ahead : stage ≤ link.current + 1
  requests : ∀ number ∈ link.requests,
    stage ≤ number + 1 ∧ number ≤ link.current ∧ number ≤ upload.commit
  ordered : link.requests.Pairwise (· ≤ ·)
  replies : ∀ entry ∈ link.replies, entry.1 < stage

theorem Link.Agrees.step (reliable : Reliable contents) {link : Link S} {stage : Nat}
    (agrees : link.Agrees upload contents stage) (transfer : Transfer) :
    ∃ next, (link.step upload transfer).Agrees upload contents next := by
  obtain ⟨session, behind, ahead, requests, ordered, replies⟩ := agrees
  cases transfer with
  | send =>
      rw [Link.step]
      split
      next open_ =>
        refine ⟨stage, session, behind, ahead, ?_, ?_, replies⟩
        · exact List.forall_mem_append.mpr
            ⟨requests, List.forall_mem_singleton.mpr ⟨ahead, Nat.le_refl _, open_⟩⟩
        · refine List.pairwise_append.mpr ⟨ordered, List.pairwise_singleton _ _, ?_⟩
          intro number member current same
          rw [List.mem_singleton.mp same]
          exact (requests number member).2.1
      · exact ⟨stage, session, behind, ahead, requests, ordered, replies⟩
  | deliver =>
      rw [Link.step]
      split
      · exact ⟨stage, session, behind, ahead, requests, ordered, replies⟩
      next number rest inFlight =>
        rw [inFlight] at requests ordered
        obtain ⟨first, others⟩ := List.forall_mem_cons.mp requests
        obtain ⟨oldest, ordered⟩ := List.pairwise_cons.mp ordered
        refine ⟨number + 1, session.deliver reliable (by omega) first.2.2, ?_, ?_, ?_, ordered, ?_⟩
        · change link.current ≤ number + 1
          omega
        · exact Nat.succ_le_succ first.2.1
        · intro other member
          exact ⟨Nat.succ_le_succ (oldest other member), (others other member).2⟩
        · refine List.forall_mem_append.mpr ⟨fun entry member => ?_, ?_⟩
          · have := replies entry member
            omega
          · exact List.forall_mem_singleton.mpr (Nat.lt_succ_self number)
  | answer =>
      rw [Link.step]
      split
      · exact ⟨stage, session, behind, ahead, requests, ordered, replies⟩
      next number reply rest inFlight =>
        rw [inFlight] at replies
        obtain ⟨first, others⟩ := List.forall_mem_cons.mp replies
        by_cases accepted : number = link.current ∧ reply = upload.expected number
        · simp only [if_pos accepted]
          refine ⟨stage, session, ?_, Nat.le_succ_of_le ahead, ?_, ordered, others⟩
          · exact accepted.1 ▸ first
          · intro other member
            have := requests other member
            exact ⟨this.1, Nat.le_succ_of_le this.2.1, this.2.2⟩
        · simp only [if_neg accepted]
          exact ⟨stage, session, behind, ahead, requests, ordered, others⟩
  | loseRequest i =>
      refine ⟨stage, session, behind, ahead, ?_, ?_, replies⟩
      · exact fun number member => requests number (List.mem_of_mem_eraseIdx member)
      · exact ordered.sublist (List.eraseIdx_sublist _ _)
  | loseReply i =>
      refine ⟨stage, session, behind, ahead, requests, ordered, ?_⟩
      exact fun entry member => replies entry (List.mem_of_mem_eraseIdx member)

theorem Link.Agrees.run (reliable : Reliable contents) {link : Link S} {stage : Nat}
    (agrees : link.Agrees upload contents stage) (transfers : List Transfer) :
    ∃ next, (transfers.foldl (Link.step upload) link).Agrees upload contents next := by
  induction transfers generalizing link stage with
  | nil => exact ⟨stage, agrees⟩
  | cons transfer transfers ih =>
      obtain ⟨next, agrees⟩ := agrees.step reliable transfer
      exact ih agrees

/-- Whatever is lost on the way, no delivered `BEGIN` or `DATA` is answered with an error, each
chunk is stored once and in order, the session is at the end of the last acknowledged chunk or of
the one in flight, and the first delivered `COMMIT` replies `REBOOT` on the image. -/
theorem upload_delivers (reliable : Reliable contents) (upload : Upload) (ota : Ota) (storage : S)
    (transfers : List Transfer) :
    let link := transfers.foldl (Link.step upload) ({ ota, storage } : Link S)
    (∀ entry ∈ link.handled, entry.1 < upload.commit →
      entry.2 = if entry.1 = 0 then .ready else .ok) ∧
    (∃ k ≤ upload.chunks.length, link.calls.filter Call.isWrite =
        (List.range k).map fun i => .write (upload.offset i) (upload.chunks.getD i []) true) ∧
    (upload.chunks.length < link.current →
      link.calls.filter Call.isWrite = (List.range upload.chunks.length).map fun i =>
        .write (upload.offset i) (upload.chunks.getD i []) true) ∧
    (link.handled ≠ [] → link.ota.received = upload.offset (link.current - 1) ∨
      link.ota.received = upload.offset link.current) ∧
    ∀ first, link.handled.find? (·.1 = upload.commit) = some first → first.2 = .reboot ∧
      ∃ before, Call.commit before true ∈ link.calls ∧
        slice (contents before) 0 upload.image.length = upload.image := by
  intro link
  have start : ({ ota, storage } : Link S).Agrees upload contents 0 :=
    ⟨.waiting rfl rfl, Nat.le_refl 0, Nat.zero_le 1, by simp, List.Pairwise.nil, by simp⟩
  obtain ⟨stage, session, behind, ahead, -⟩ := start.run reliable transfers
  change upload.Session contents link.ota link.storage link.handled link.calls stage at session
  change link.current ≤ stage at behind
  change stage ≤ link.current + 1 at ahead
  cases session with
  | waiting none quiet =>
      rw [none, quiet]
      exact ⟨by simp, ⟨0, Nat.zero_le _, rfl⟩, fun late => by omega, fun some => absurd rfl some,
        by simp⟩
  | @storing k storing =>
      obtain ⟨started, inside, active, size, crc, received, stored, replies, written⟩ := storing
      refine ⟨?_, ⟨k, inside, written⟩, ?_, ?_, ?_⟩
      · intro entry member isData
        have expected := (replies entry member).2
        rwa [Upload.expected, if_pos isData] at expected
      · intro late
        obtain rfl : k = upload.chunks.length := by omega
        exact written
      · intro _
        rw [received]
        rcases Nat.lt_or_ge k link.current with last | new
        · exact .inl (by rw [show link.current - 1 = k by omega])
        · exact .inr (by rw [show link.current = k by omega])
      · intro first found
        have member := List.mem_of_find?_eq_some found
        have same := List.find?_some found
        simp only [decide_eq_true_eq] at same
        have early := (replies first member).1
        omega
  | done committed =>
      obtain ⟨started, inactive, received, replies, firstIs, written, before⟩ := committed
      refine ⟨?_, ⟨_, Nat.le_refl _, written⟩, fun _ => written, ?_, ?_⟩
      · intro entry member isData
        have expected := replies entry member isData
        rwa [Upload.expected, if_pos isData] at expected
      · intro _
        rw [received, upload.offset_all, upload.offset_all]
        · exact .inl rfl
        · rw [Upload.commit] at ahead behind
          omega
        · rw [Upload.commit] at ahead behind
          omega
      · intro first found
        rw [firstIs] at found
        obtain rfl := Option.some.inj found
        exact ⟨rfl, before⟩

end Run

/-! ## A memory without bounds -/

/-- A storage that never fails. -/
structure Drum where
  cells : Nat → UInt8

instance : Storage Drum where
  write memory offset bytes := (true, ⟨fun i =>
    if offset ≤ i ∧ i < offset + bytes.length then bytes.getD (i - offset) 0 else memory.cells i⟩)
  read memory offset count := (some (slice memory.cells offset count), memory)
  commit memory := (true, memory)

theorem Drum.reliable : Reliable Drum.cells where
  read_bytes _ _ _ _ found := (Option.some.inj found).symm
  read_keeps _ _ _ := rfl
  write_inside memory offset bytes _ i inside := by
    change (if _ then _ else _) = _
    rw [if_pos ⟨Nat.le_add_right _ _, by omega⟩, Nat.add_sub_cancel_left,
      List.getD_eq_getElem _ _ inside]
  write_outside memory offset bytes _ i outside := if_neg (by omega)
  write_done _ _ _ _ := rfl
  read_done _ _ _ _ := rfl
  commit_done _ := rfl

def smallChunks : List (List UInt8) :=
  [smallImage.take 64, (smallImage.drop 64).take 64, (smallImage.drop 128).take 64,
    (smallImage.drop 192).take 64, smallImage.drop 256]

def smallLines : List (List UInt8) :=
  ["OTA DATA 0 ", "OTA DATA 40 ", "OTA DATA 80 ", "OTA DATA C0 ", "OTA DATA 100 "].zipWith
    (fun start bytes => ascii start ++ hexText bytes) smallChunks

def smallSender : Upload where
  chunks := smallChunks
  beginLine := ascii "OTA BEGIN 104 8674F5C3"
  dataLine i := smallLines.getD i []
  large := by decide +kernel
  small := by decide +kernel
  whole := by decide +kernel
  vectors := LegalVectors.of_check (by decide +kernel) (by decide +kernel)
  chunk_short := by decide +kernel
  chunk_whole := by decide +kernel
  first_long bytes first := by
    obtain rfl := Option.some.inj first
    decide
  begins := by
    rw [← not_crcUpdate]
    decide +kernel
  carries i bytes entry := by
    have all : ∀ i < 5, chunk (smallLines.getD i []) =
        some ((smallChunks.take i).flatten.length, smallChunks.getD i []) := by
      decide +kernel
    have inside := (List.getElem?_eq_some_iff.mp entry).1
    rw [all i inside, List.getD_eq_getElem?_getD, entry]
    rfl

/-- A transfer with a lost `BEGIN`, a lost reply and a repeated chunk. -/
def smallTransfers : List Transfer :=
  [.send, .loseRequest 0, .send, .deliver, .answer, .send, .deliver, .loseReply 0, .send, .send,
    .deliver, .deliver, .answer, .answer] ++
    (List.replicate 4 [.send, .deliver, .answer]).flatten ++ [.send, .deliver]

theorem upload_delivers_smallSender :
    ∃ before : Drum, Call.commit before true ∈ (smallTransfers.foldl (Link.step smallSender)
        ({ ota := {}, storage := ⟨fun _ => 0xFF⟩ } : Link Drum)).calls ∧
      slice before.cells 0 smallSender.image.length = smallSender.image :=
  ((upload_delivers Drum.reliable smallSender {} ⟨fun _ => 0xFF⟩ smallTransfers).2.2.2.2
    (6, .reboot) (by decide +kernel)).2

end NrfUnifying.UartOta
