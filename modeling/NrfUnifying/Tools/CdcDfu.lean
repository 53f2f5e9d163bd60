import NrfUnifying.Serial.CdcUpload
import NrfUnifying.Tools.Port

/-!
# The upload tool

`cdc_dfu.py` asks for the state, announces the size of the image, sends the
image when the port is ready, and boots it when all of it is written. After a
failed write the rest of the image is read as lines; what the worker replies to
such lines is left out.
-/

namespace NrfUnifying.Tools

open Lib.Bytes Lib.Numerals Lib.SectorWriter Radio Serial Updater

/-! ## The tool -/

/-- The image, filled up to whole words. -/
def payload (image : List UInt8) : List UInt8 :=
  if image.length % 4 ≠ 0 then image ++ List.replicate (4 - image.length % 4) 0xFF else image

inductive Result where
  | notReady (line : List UInt8)
  | writeFailed (line : List UInt8)
  | sent
  deriving DecidableEq, Repr

/-- The packets of what the tool writes. -/
structure Packets (image : List UInt8) where
  info : List (List UInt8)
  write : List (List UInt8)
  data : List (List UInt8)
  boot : List (List UInt8)
  info_flatten : info.flatten = ascii "INFO" ++ [0x0A]
  write_flatten : write.flatten =
    ascii "WRITE " ++ decimal (payload image).length ++ [0x0A]
  data_flatten : data.flatten = payload image
  boot_flatten : boot.flatten = ascii "BOOT" ++ [0x0A]
  nonempty : ∀ packet ∈ info ++ write ++ boot, packet ≠ []

/-- What `main` does once the port is open; a UART update may be active when the size is announced,
and when the image is booted. -/
def update {F I : Type} [FirmwareUpdater F I] {image : List UInt8} (buildTime : Nat)
    (uartOta atBoot : Bool) (port : Port F I) (packets : Packets image) : Result × Port F I :=
  let (_, port) := (port.write uartOta packets.info).readLine buildTime
  let (ready, port) := (port.write uartOta packets.write).readLine buildTime
  if ready ≠ ascii "READY" then (.notReady ready, port)
  else
    let (ok, port) := (port.write uartOta packets.data).readLine buildTime
    if ok ≠ ascii "OK" then (.writeFailed ok, port)
    else
      let (_, port) := (port.write atBoot packets.boot).readLine buildTime
      (.sent, port)

/-! ## Texts -/

theorem strip_ready (buildTime : Nat) : strip (Reply.ready.text buildTime) = ascii "READY" := by
  change strip (ascii "READY\r\n") = ascii "READY"
  decide

theorem strip_ok (buildTime : Nat) : strip (Reply.ok.text buildTime) = ascii "OK" := by
  change strip (ascii "OK\r\n") = ascii "OK"
  decide

theorem le_readDecimal (start : Nat) (text : List UInt8) : start ≤ readDecimal start text := by
  induction text generalizing start with
  | nil => exact Nat.le_refl start
  | cons byte rest ih =>
      have step := ih (10 * start + (byte.toNat - 0x30))
      change start ≤ readDecimal (10 * start + (byte.toNat - 0x30)) rest
      omega

/-- The tool's numeral of a size is read as that size. -/
theorem parseUsize_decimal {size : Nat} (small : size < 2 ^ 32) :
    parseUsize (decimal size) = some size := by
  have numeral := decimal_isNumeral size
  have reads : ∀ (text : List UInt8) (start : Nat),
      (∀ byte ∈ text, 0x30 ≤ byte.toNat ∧ byte.toNat ≤ 0x39) → readDecimal start text < 2 ^ 32 →
      text.foldlM (fun value byte =>
        if 0x30 ≤ byte ∧ byte ≤ 0x39 then
          let value := value * 10 + (byte - 0x30).toNat
          if value < 2 ^ 32 then some value else none
        else none) start = some (readDecimal start text) := by
    intro text
    induction text with
    | nil => exact fun _ _ _ => rfl
    | cons byte rest ih =>
        intro start digits fits
        obtain ⟨low, high⟩ := digits byte List.mem_cons_self
        have digit : 0x30 ≤ byte ∧ byte ≤ 0x39 :=
          ⟨UInt8.le_iff_toNat_le.mpr low, UInt8.le_iff_toNat_le.mpr high⟩
        have value : start * 10 + (byte - 0x30).toNat = 10 * start + (byte.toNat - 0x30) := by
          rw [UInt8.toNat_sub_of_le _ _ digit.1, Nat.mul_comm]
          rfl
        have room : start * 10 + (byte - 0x30).toNat < 2 ^ 32 := by
          rw [value]
          exact Nat.lt_of_le_of_lt (le_readDecimal _ rest) fits
        rw [List.foldlM_cons, if_pos digit]
        dsimp only
        rw [if_pos room, value]
        exact ih _ (fun other member => digits other (List.mem_cons_of_mem _ member)) fits
  have unsigned : stripPrefix (ascii "+") (decimal size) = none := by
    cases text : decimal size with
    | nil => exact absurd text numeral.nonempty
    | cons first rest =>
        rw [text] at numeral
        obtain ⟨low, -⟩ := numeral.digits first List.mem_cons_self
        refine if_neg fun starts => ?_
        obtain ⟨tail, same⟩ := List.isPrefixOf_iff_prefix.mp starts
        obtain ⟨rfl, -⟩ := List.cons.inj same
        exact absurd low (by decide)
  unfold parseUsize
  rw [unsigned]
  dsimp only [Option.getD_none]
  rw [if_neg (by rw [List.isEmpty_iff]; exact numeral.nonempty),
    reads _ 0 numeral.digits (by rw [numeral.value]; exact small), numeral.value]

theorem parseOtaCommand_write {size : Nat} (small : size < 2 ^ 32) :
    parseOtaCommand (ascii "WRITE " ++ decimal size) = some (.write size) := by
  have starts : (ascii "WRITE ").isPrefixOf (ascii "WRITE " ++ decimal size) = true :=
    List.isPrefixOf_iff_prefix.mpr (List.prefix_append _ _)
  unfold parseOtaCommand
  rw [if_neg (ne_of_starts starts (by decide)), if_neg (ne_of_starts starts (by decide)),
    if_neg (ne_of_starts starts (by decide)), if_neg (ne_of_starts starts (by decide)),
    if_neg (ne_of_starts starts (by decide)), stripPrefix_append]
  change (parseUsize (decimal size)).map OtaCommand.write = _
  rw [parseUsize_decimal small]
  rfl

theorem noBreak_write (size : Nat) : NoBreak (ascii "WRITE " ++ decimal size) :=
  .append (by decide) (.decimal size)

theorem write_length {size : Nat} (small : size < 2 ^ 32) :
    (ascii "WRITE " ++ decimal size).length ≤ lineLimit := by
  have digits : (decimal size).length ≤ 10 :=
    decimal_length_le (by decide) (Nat.lt_trans small (by decide))
  rw [List.length_append]
  change 6 + _ ≤ 256
  omega

/-! ## The image -/

section Data

variable {F I : Type} [FirmwareUpdater F I]

/-- What a packet does to the session: it goes on, a write fails, or the image is complete. -/
inductive Received (before : Cdc F I) (outcome : Outcome F I) : Prop where
  | more (reply : outcome.reply = none) (reboot : outcome.reboot = false)
      (session : ∃ staging uploadReceived, outcome.cdc.session =
        { before.session with staging, uploadReceived } ∧
        uploadReceived + staging.length < before.session.uploadSize)
  | failed (reply : outcome.reply = some .errWrite)
      (write : ∃ (updater : I) (flash : F) (offset : Nat) (bytes : List UInt8),
        (FirmwareUpdater.writeFirmware updater flash offset bytes).1 = false)
  | complete (reply : outcome.reply = some .ok) (reboot : outcome.reboot = false)
      (session : ∃ staging uploadReceived, outcome.cdc.session =
        { before.session with
          staging, uploadReceived, uploadActive := false, imageReady := true })

theorem Cdc.write_result (cdc : Cdc F I) (bytes : List UInt8) :
    (cdc.write bytes).1 = true ∧ (cdc.write bytes).2.session = cdc.session ∨
      (cdc.write bytes).1 = false ∧ ∃ (updater : I) (flash : F) (offset : Nat)
        (bytes : List UInt8),
        (FirmwareUpdater.writeFirmware updater flash offset bytes).1 = false := by
  unfold Serial.Cdc.write
  cases written : FirmwareUpdater.writeFirmware cdc.updater cdc.flash
      cdc.session.uploadReceived bytes with
  | mk done after =>
      cases done with
      | true => exact .inl ⟨rfl, rfl⟩
      | false => exact .inr ⟨rfl, _, _, _, _, congrArg Prod.fst written⟩

theorem Cdc.stage_received (before cdc : Cdc F I)
    (session : ∃ staging uploadReceived,
      cdc.session = { before.session with staging, uploadReceived })
    (rest : List UInt8) : Received before (cdc.stage rest) := by
  obtain ⟨staging, uploadReceived, session⟩ := session
  unfold Cdc.stage
  dsimp only
  split
  · unfold Cdc.finish
    dsimp only
    split
    · refine .complete rfl rfl ⟨rest, uploadReceived, ?_⟩
      dsimp only
      rw [session]
    · have result := Cdc.write_result { cdc with session := { cdc.session with staging := rest } }
        (rest ++ List.replicate (4 - rest.length) 0xFF)
      generalize Serial.Cdc.write (F := F) (I := I) _ _ = written at result
      obtain ⟨done, after⟩ := written
      rcases result with ⟨rfl, kept⟩ | ⟨rfl, failed⟩
      · refine .complete rfl rfl ⟨[], after.session.uploadReceived + rest.length, ?_⟩
        dsimp only at kept ⊢
        rw [kept, session]
      · exact .failed rfl failed
  next short =>
    refine .more rfl rfl ⟨rest, uploadReceived, ?_, ?_⟩
    · rw [session]
    · rw [session] at short
      exact Nat.not_le.mp short

theorem Cdc.upload_received (cdc : Cdc F I) (packet : List UInt8) :
    Received cdc (cdc.upload packet) := by
  unfold Cdc.upload
  dsimp only
  split
  · exact Cdc.stage_received cdc cdc ⟨_, _, rfl⟩ _
  · have result := Cdc.write_result cdc ((cdc.session.staging ++ packet).take
      ((cdc.session.staging ++ packet).length / 4 * 4))
    generalize Serial.Cdc.write (F := F) (I := I) _ _ = written at result
    obtain ⟨done, after⟩ := written
    rcases result with ⟨rfl, kept⟩ | ⟨rfl, failed⟩
    · refine Cdc.stage_received cdc _ ⟨cdc.session.staging,
        after.session.uploadReceived + (cdc.session.staging ++ packet).length / 4 * 4, ?_⟩ _
      dsimp only at kept ⊢
      rw [kept]
    · exact .failed rfl failed

variable {port : Port F I} (uartOta : Bool)

theorem Port.write_replies (port : Port F I) (packets : List (List UInt8)) :
    port.replies <+: (port.write uartOta packets).replies := by
  have pushes (port : Port F I) (packet : List UInt8) :
      port.replies <+: (packet.foldl (Port.push uartOta) port).replies := by
    induction packet generalizing port with
    | nil => exact List.prefix_refl _
    | cons byte rest ih =>
        have first : port.replies <+: (port.push uartOta byte).replies :=
          List.prefix_append _ _
        exact first.trans (ih _)
  induction packets generalizing port with
  | nil => exact List.prefix_refl _
  | cons packet rest ih =>
      refine List.IsPrefix.trans ?_ (ih (port.packet uartOta packet))
      unfold Port.packet
      split
      · exact List.prefix_append _ _
      · exact pushes port packet

/-- Empty packets do nothing outside an upload. -/
theorem Port.write_empty (inactive : port.cdc.session.uploadActive = false)
    {packets : List (List UInt8)} (empty : packets.flatten = []) :
    port.write uartOta packets = port := by
  induction packets with
  | nil => rfl
  | cons packet rest ih =>
      obtain ⟨rfl, blank⟩ := List.append_eq_nil_iff.mp (List.flatten_cons.symm.trans empty)
      have same : port.packet uartOta [] = port := by
        unfold Port.packet
        rw [inactive, if_neg Bool.false_ne_true]
        rfl
      change Port.write uartOta (port.packet uartOta []) rest = port
      rw [same]
      exact ih blank

variable {dfu : F → Lib.Flash.Cells} {lastErased : I → Option Nat}

/-- The device has all of the image, and waits for the next line. -/
structure Port.Complete (port : Port F I) (before : Port F I) (upload : Upload F I)
    (dfu : F → Lib.Flash.Cells) (lastErased : I → Option Nat) : Prop where
  replies : port.replies = before.replies ++ [.ok]
  reboot : port.reboot = before.reboot
  line : port.cdc.session.line = before.cdc.session.line
  kept : port.cdc.session.discardLine = before.cdc.session.discardLine
  inactive : port.cdc.session.uploadActive = false
  ready : port.cdc.session.imageReady = true
  enough : upload.size ≤ upload.sent.length
  stored : ∃ padding, port.cdc.sectors dfu lastErased =
    (upload.sectors dfu lastErased).write sectorSize 0 (upload.sent ++ padding)

/-- The image comes in packets of any sizes: a write fails, or all of it is stored. -/
theorem Port.write_data (lawful : FirmwareUpdater.Lawful dfu lastErased)
    {upload : Upload F I} {written : List UInt8}
    (writing : Writing dfu lastErased port.cdc upload written)
    (active : port.cdc.session.uploadActive = true) (start : upload.sent.length < upload.size)
    {packets : List (List UInt8)}
    (total : upload.sent.length + packets.flatten.length = upload.size) :
    ((port.replies ++ [.errWrite]) <+: (port.write uartOta packets).replies ∧
      ∃ (updater : I) (flash : F) (offset : Nat) (bytes : List UInt8),
        (FirmwareUpdater.writeFirmware updater flash offset bytes).1 = false) ∨
    (port.write uartOta packets).Complete port
      { upload with sent := upload.sent ++ packets.flatten } dfu lastErased := by
  induction packets generalizing port upload written with
  | nil => exact absurd total (Nat.ne_of_lt start)
  | cons packet more ih =>
      have answered : port.packet uartOta packet = port.answer (port.cdc.upload packet) :=
        if_pos active
      change (_ <+: ((port.packet uartOta packet).write uartOta more).replies ∧ _) ∨
        ((port.packet uartOta packet).write uartOta more).Complete _ _ _ _
      rw [answered, List.flatten_cons, ← List.append_assoc]
      rw [List.flatten_cons, List.length_append] at total
      have progress := writing.packet lawful packet
      have length : (upload.sent ++ packet).length = upload.sent.length + packet.length :=
        List.length_append
      cases Cdc.upload_received port.cdc packet with
      | more reply reboot session =>
          obtain ⟨staging, uploadReceived, session, less⟩ := session
          have quiet : (port.answer (port.cdc.upload packet)).replies = port.replies := by
            unfold Port.answer
            rw [reply]
            exact List.append_nil _
          have still : (port.answer (port.cdc.upload packet)).reboot = port.reboot := by
            unfold Port.answer
            rw [reboot]
            exact Bool.or_false _
          cases progress with
          | failed failed _ => cases reply.symm.trans failed
          | complete _ done => cases reply.symm.trans done
          | more written' _ writing' =>
              have active' : (port.answer (port.cdc.upload packet)).cdc.session.uploadActive =
                  true := by
                change (port.cdc.upload packet).cdc.session.uploadActive = true
                rw [session]
                exact active
              have short : (upload.sent ++ packet).length < upload.size := by
                have sent : upload.sent ++ packet = _ := writing'.sent
                have received := writing'.received
                have size := writing'.size
                rw [session] at sent received size
                dsimp only at sent received size
                rw [sent, List.length_append]
                omega
              have total' : (upload.sent ++ packet).length + more.flatten.length =
                  upload.size := by omega
              have line : (port.answer (port.cdc.upload packet)).cdc.session.line =
                  port.cdc.session.line := by
                change (port.cdc.upload packet).cdc.session.line = _
                rw [session]
              have kept : (port.answer (port.cdc.upload packet)).cdc.session.discardLine =
                  port.cdc.session.discardLine := by
                change (port.cdc.upload packet).cdc.session.discardLine = _
                rw [session]
              rcases ih writing' active' short total' with ⟨failed, write⟩ | complete
              · rw [quiet] at failed
                exact .inl ⟨failed, write⟩
              · refine .inr ⟨?_, ?_, ?_, ?_, complete.inactive, complete.ready, complete.enough,
                  complete.stored⟩
                · rw [complete.replies, quiet]
                · rw [complete.reboot, still]
                · rw [complete.line, line]
                · rw [complete.kept, kept]
      | failed reply write =>
          refine .inl ⟨?_, write⟩
          have first : (port.answer (port.cdc.upload packet)).replies =
              port.replies ++ [.errWrite] := by
            unfold Port.answer
            rw [reply]
            rfl
          rw [← first]
          exact Port.write_replies uartOta _ more
      | complete reply reboot session =>
          obtain ⟨staging, uploadReceived, session⟩ := session
          cases progress with
          | failed failed _ => cases reply.symm.trans failed
          | more _ quiet _ => cases reply.symm.trans quiet
          | complete padding _ inactive enough stored =>
              have blank : more.flatten = [] := by
                apply List.eq_nil_of_length_eq_zero
                change upload.size ≤ (upload.sent ++ packet).length at enough
                omega
              rw [Port.write_empty uartOta inactive blank, blank, List.append_nil]
              refine .inr ⟨?_, ?_, ?_, ?_, inactive, ?_, enough, padding, stored⟩
              · unfold Port.answer
                rw [reply]
                rfl
              · unfold Port.answer
                rw [reboot]
                exact Bool.or_false _
              · change (port.cdc.upload packet).cdc.session.line = _
                rw [session]
              · change (port.cdc.upload packet).cdc.session.discardLine = _
                rw [session]
              · change (port.cdc.upload packet).cdc.session.imageReady = _
                rw [session]

end Data

/-! ## The update -/

section Update

variable {F I : Type} [FirmwareUpdater F I]

/-- Every write and every mark is carried out. -/
structure Working (F I : Type) [FirmwareUpdater F I] : Prop where
  write : ∀ (updater : I) (flash : F) (offset : Nat) (bytes : List UInt8),
    (FirmwareUpdater.writeFirmware updater flash offset bytes).1 = true
  mark : ∀ (updater : I) (flash : F), (FirmwareUpdater.markUpdated updater flash).1 = true

omit [FirmwareUpdater F I] in
theorem Port.answer_readLine (buildTime : Nat) {port : Port F I} (read : port.replies = [])
    {outcome : Outcome F I} {reply : Reply} (answered : outcome.reply = some reply) :
    (port.answer outcome).readLine buildTime = (strip (reply.text buildTime),
      { port.answer outcome with replies := [] }) := by
  have replies : (port.answer outcome).replies = [reply] := by
    unfold Port.answer
    rw [read, answered]
    rfl
  unfold Port.readLine
  rw [replies]

omit [FirmwareUpdater F I] in
/-- A reply that has been read leaves nothing behind. -/
theorem Port.read_reply {port : Port F I} (read : port.replies = []) (reply : Serial.Reply) :
    { port.answer { cdc := port.cdc, reply := some reply } with replies := [] } = port := by
  unfold Port.answer
  dsimp only [Option.toList_none]
  rw [List.append_nil, Bool.or_false, ← read]

/-- Asking for the state changes nothing. -/
theorem Port.Idle.info (buildTime : Nat) (uartOta : Bool) {port : Port F I}
    (idle : port.Idle) (read : port.replies = []) {image : List UInt8}
    (packets : Packets image) :
    ((port.write uartOta packets.info).readLine buildTime).2 = port := by
  have nonempty : ∀ packet ∈ packets.info, packet ≠ [] := fun packet member =>
    packets.nonempty packet (List.mem_append_left _ (List.mem_append_left _ member))
  rw [idle.write_line uartOta (by decide) packets.info_flatten nonempty]
  change ((port.answer { cdc := port.cdc, reply := some _ }).readLine buildTime).2 = port
  rw [Port.answer_readLine buildTime read rfl]
  exact Port.read_reply read _

/-- The announcement of the image is answered. -/
theorem Port.Idle.announce (uartOta : Bool) {port : Port F I} (idle : port.Idle)
    {image : List UInt8} (packets : Packets image) (small : (payload image).length < 2 ^ 32) :
    port.write uartOta packets.write =
      port.answer (port.cdc.beginUpload uartOta (payload image).length) := by
  have nonempty : ∀ packet ∈ packets.write, packet ≠ [] := fun packet member =>
    packets.nonempty packet (List.mem_append_left _ (List.mem_append_right _ member))
  rw [idle.write_line uartOta (noBreak_write _) packets.write_flatten nonempty]
  unfold endLine Cdc.dispatch
  rw [if_neg (Nat.not_lt.mpr (write_length small)), parseOtaCommand_write small]

theorem Port.Idle.finish (atBoot : Bool) {port : Port F I} (idle : port.Idle)
    {image : List UInt8} (packets : Packets image) :
    port.write atBoot packets.boot = port.answer (port.cdc.boot atBoot) := by
  have nonempty : ∀ packet ∈ packets.boot, packet ≠ [] := fun packet member =>
    packets.nonempty packet (List.mem_append_right _ member)
  exact idle.write_line atBoot (by decide) packets.boot_flatten nonempty

/-- The device boots a stored image unless a UART update is active or the mark fails. -/
theorem Cdc.boot_stored {dfu : F → Lib.Flash.Cells} {lastErased : I → Option Nat}
    (lawful : FirmwareUpdater.Lawful dfu lastErased) (atBoot : Bool) {cdc : Cdc F I}
    (ready : cdc.session.imageReady = true) :
    (∃ reply, (cdc.boot atBoot).reply = some reply) ∧
      (cdc.boot atBoot).cdc.sectors dfu lastErased = cdc.sectors dfu lastErased ∧
      (Working F I → (cdc.boot atBoot).reboot = !atBoot) := by
  unfold Cdc.boot
  cases atBoot with
  | true => exact ⟨⟨.errBusy, rfl⟩, rfl, fun _ => rfl⟩
  | false =>
      have keeps := lawful.mark_keeps cdc.updater cdc.flash
      have marks : Working F I → (FirmwareUpdater.markUpdated cdc.updater cdc.flash).1 = true :=
        fun working => working.mark _ _
      rw [if_neg Bool.false_ne_true, if_neg (by rw [ready]; exact Bool.noConfusion)]
      generalize FirmwareUpdater.markUpdated cdc.updater cdc.flash = result at keeps marks
      obtain ⟨done, updater, flash⟩ := result
      cases done with
      | false => exact ⟨⟨.errMark, rfl⟩, keeps, fun working => nomatch marks working⟩
      | true => exact ⟨⟨.reboot, rfl⟩, keeps, fun _ => rfl⟩

omit [FirmwareUpdater F I] in
/-- An announcement that is refused changes nothing. -/
theorem Cdc.beginUpload_refused {uartOta : Bool} {size : Nat} (cdc : Cdc F I)
    (refused : uartOta = true ∨ size = 0 ∨ size > activeImageLimit) :
    ∃ reply, cdc.beginUpload uartOta size = { cdc, reply := some reply } ∧
      ∀ buildTime, strip (reply.text buildTime) ≠ ascii "READY" := by
  unfold Cdc.beginUpload
  by_cases busy : uartOta = true
  · refine ⟨.errBusy, if_pos busy, fun buildTime => ?_⟩
    change strip (ascii "ERR BUSY\r\n") ≠ ascii "READY"
    decide
  · rw [if_neg busy, if_pos (refused.resolve_left busy)]
    refine ⟨.errSize, rfl, fun buildTime => ?_⟩
    change strip (ascii "ERR SIZE\r\n") ≠ ascii "READY"
    decide

/-- How an update ends that the device takes: a write fails, or the image is stored. -/
inductive Taken (dfu : F → Lib.Flash.Cells) (lastErased : I → Option Nat) (before : Sectors)
    (image : List UInt8) (atBoot : Bool) (ended : Result × Port F I) : Prop where
  | failed (line : List UInt8) (result : ended.1 = .writeFailed line) (broken : ¬Working F I)
  | stored (padding : List UInt8) (result : ended.1 = .sent)
      (sectors : ended.2.cdc.sectors dfu lastErased =
        before.write sectorSize 0 (payload image ++ padding))
      (boots : Working F I → ended.2.reboot = !atBoot)

section Cases

variable (buildTime : Nat) (uartOta atBoot : Bool) (updater : I) (flash : F) {image : List UInt8}
  (packets : Packets image)

/-- An image that the device does not take leaves it as it was. -/
theorem update_refused (small : (payload image).length < 2 ^ 32)
    (refused : uartOta = true ∨ (payload image).length = 0 ∨
      (payload image).length > activeImageLimit) :
    ∃ line, update buildTime uartOta atBoot (.opened updater flash) packets =
      (.notReady line, .opened updater flash) := by
  have idle := opened_idle updater flash
  obtain ⟨reply, begun, other⟩ :=
    Cdc.beginUpload_refused (Port.opened updater flash).cdc refused
  unfold update
  dsimp only
  rw [idle.info buildTime uartOta rfl packets, idle.announce uartOta packets small, begun,
    Port.answer_readLine buildTime rfl rfl]
  dsimp only
  rw [if_pos (other buildTime)]
  exact ⟨_, rfl⟩

/-- An image that the device takes is stored, or a write fails. -/
theorem update_taken {dfu : F → Lib.Flash.Cells} {lastErased : I → Option Nat}
    (lawful : FirmwareUpdater.Lawful dfu lastErased) (occupied : (payload image).length ≠ 0)
    (fits : (payload image).length ≤ activeImageLimit) :
    Taken dfu lastErased (sectors dfu lastErased updater flash) image atBoot
      (update buildTime false atBoot (.opened updater flash) packets) := by
  have idle := opened_idle updater flash
  have small : (payload image).length < 2 ^ 32 := Nat.lt_of_le_of_lt fits (by decide)
  have begun : (Port.opened updater flash).cdc.beginUpload false (payload image).length = {
      cdc := { updater, flash, uploading := true, session := {
        uploadActive := true, uploadSize := (payload image).length } }
      reply := some .ready } := by
    unfold Cdc.beginUpload
    rw [if_neg Bool.false_ne_true, if_neg (by omega)]
    rfl
  unfold update
  dsimp only
  rw [idle.info buildTime false rfl packets, idle.announce false packets small, begun,
    Port.answer_readLine buildTime rfl rfl, strip_ready]
  dsimp only
  rw [if_neg (not_not_intro rfl)]
  generalize receiving : ({ (Port.opened updater flash).answer _ with replies := [] } : Port F I) =
    port
  have cdc : port.cdc = { updater, flash, uploading := true, session := {
      uploadActive := true, uploadSize := (payload image).length } } := by
    rw [← receiving]
    rfl
  have calm : port.reboot = false := by
    rw [← receiving]
    rfl
  -- the upload that `READY` starts
  have writing : Writing dfu lastErased port.cdc
      { size := (payload image).length, updater, flash } [] := by
    rw [cdc]
    exact ⟨rfl, rfl, rfl, rfl, rfl⟩
  have active : port.cdc.session.uploadActive = true := by rw [cdc]
  have total : 0 + packets.data.flatten.length = (payload image).length := by
    rw [packets.data_flatten, Nat.zero_add]
  have replies : port.replies = [] := by rw [← receiving]
  rcases Port.write_data false lawful writing active (Nat.pos_of_ne_zero occupied) total with
    ⟨⟨others, failed⟩, updater, flash, offset, bytes, broken⟩ | complete
  · rw [replies] at failed
    have read : ((port.write false packets.data).readLine buildTime).1 ≠ ascii "OK" := by
      unfold Port.readLine
      rw [← failed]
      change strip (ascii "ERR WRITE\r\n") ≠ ascii "OK"
      decide
    rw [if_pos read]
    refine .failed _ rfl fun working => ?_
    rw [working.write] at broken
    cases broken
  · have idle : (port.write false packets.data).Idle := by
      refine ⟨?_, ?_, complete.inactive⟩
      · rw [complete.line, cdc]
      · rw [complete.kept, cdc]
    have read : (port.write false packets.data).readLine buildTime =
        (ascii "OK", { port.write false packets.data with replies := [] }) := by
      unfold Port.readLine
      rw [complete.replies, replies]
      dsimp only [List.nil_append]
      rw [strip_ok]
    rw [read]
    dsimp only
    rw [if_neg (not_not_intro rfl)]
    have emptied : ({ port.write false packets.data with replies := [] } : Port F I).Idle :=
      ⟨idle.line, idle.kept, idle.inactive⟩
    rw [emptied.finish atBoot packets]
    dsimp only
    obtain ⟨⟨reply, answered⟩, keeps, boots⟩ :=
      Cdc.boot_stored lawful atBoot complete.ready
    obtain ⟨padding, stored⟩ := complete.stored
    rw [packets.data_flatten] at stored
    rw [Port.answer_readLine buildTime rfl answered]
    refine .stored padding rfl (keeps.trans stored) fun working => ?_
    change ((port.write false packets.data).reboot || _) = !atBoot
    rw [boots working, complete.reboot, calm, Bool.false_or]

end Cases

end Update

/-- An image that is not taken leaves the device as it was. One that is taken is sent and booted
when no write or mark fails and no UART update is active by then. Whenever the tool ends with the
image sent, the partition holds it exactly when its first sector was erased for it or needed no
erasing. -/
theorem update_delivers {F I : Type} [FirmwareUpdater F I] {dfu : F → Lib.Flash.Cells}
    {lastErased : I → Option Nat} (lawful : FirmwareUpdater.Lawful dfu lastErased)
    (buildTime : Nat) (uartOta atBoot : Bool) (updater : I) (flash : F) {image : List UInt8}
    (small : (payload image).length < 2 ^ 32) (packets : Packets image) :
    let ended := update buildTime uartOta atBoot (.opened updater flash) packets
    ((uartOta = true ∨ (payload image).length = 0 ∨ (payload image).length > activeImageLimit) →
        ∃ line, ended = (.notReady line, .opened updater flash)) ∧
      (Working F I → uartOta = false → (payload image).length ≠ 0 →
        (payload image).length ≤ activeImageLimit →
        ended.1 = .sent ∧ ended.2.reboot = !atBoot) ∧
      (ended.1 = .sent →
        (slice (dfu ended.2.cdc.flash) 0 (payload image).length = payload image ↔
          lastErased updater ≠ some 0 ∨
            ∀ i < min (payload image).length sectorSize,
              dfu flash i &&& (payload image).getD i 0xFF = (payload image).getD i 0xFF)) := by
  intro ended
  refine ⟨update_refused buildTime uartOta atBoot updater flash packets small, ?_, ?_⟩
  · intro working free occupied fits
    subst free
    cases update_taken buildTime atBoot updater flash packets lawful occupied fits with
    | failed line result broken => exact absurd working broken
    | stored padding result sectors boots => exact ⟨result, boots working⟩
  · intro sent
    by_cases refused : uartOta = true ∨ (payload image).length = 0 ∨
        (payload image).length > activeImageLimit
    · obtain ⟨line, same⟩ :=
        update_refused buildTime uartOta atBoot updater flash packets small refused
      rw [show ended = _ from same] at sent
      cases sent
    · simp only [not_or, Bool.not_eq_true] at refused
      obtain ⟨rfl, occupied, fits⟩ := refused
      cases update_taken buildTime atBoot updater flash packets lawful occupied
          (Nat.not_lt.mp fits) with
      | failed line result broken => cases sent.symm.trans result
      | stored padding result sectors boots =>
          let upload : Upload F I :=
            { size := (payload image).length, updater, flash, sent := payload image }
          have kept : Answered.Characterized dfu lastErased ⟨upload, ended.2.cdc.flash⟩ :=
            Answered.characterized (Nat.le_refl _) sectors
          unfold Answered.Characterized at kept
          dsimp only [upload] at kept
          rw [List.take_length] at kept
          exact kept

theorem Partition.working : Working Partition (Option Nat) where
  write _ _ _ _ := rfl
  mark _ _ := rfl

/-- Five bytes, whose words come in two packets. -/
def fiveBytes : Packets [1, 2, 3, 4, 5] where
  info := [ascii "INFO\n"]
  write := [ascii "WRITE ", ascii "8\n"]
  data := [[1, 2, 3], [4, 5, 0xFF, 0xFF, 0xFF]]
  boot := [ascii "BOOT\n"]
  info_flatten := by decide
  write_flatten := by decide +kernel
  data_flatten := by decide
  boot_flatten := by decide
  nonempty := by decide

theorem update_delivers_five :
    let ended := update 0 false false (.opened none (⟨fun _ => 0⟩ : Partition)) fiveBytes
    ended.1 = .sent ∧ ended.2.reboot = true ∧
      slice ended.2.cdc.flash.cells 0 8 = [1, 2, 3, 4, 5, 0xFF, 0xFF, 0xFF] := by
  have small : (payload [1, 2, 3, 4, 5]).length < 2 ^ 32 := by decide
  obtain ⟨-, delivers, stores⟩ := update_delivers Partition.lawful 0 false false none
    (⟨fun _ => 0⟩ : Partition) small fiveBytes
  obtain ⟨sent, reboot⟩ := delivers Partition.working rfl (by decide) (by decide)
  exact ⟨sent, reboot, (stores sent).mpr (.inl (by decide))⟩

end NrfUnifying.Tools
