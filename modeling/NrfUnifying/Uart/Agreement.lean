import NrfUnifying.Radio.Worker
import NrfUnifying.Uart.Reference

/-!
# Validator and command handler agree

The transport checks a command token by token; the handler strips prefixes and
reads fixed offsets. `Validated` is what the validator has read, `Accepts` what
the handler's own conditions read, both as the branch and its arguments; past its
conditions the handler works on these arguments, and without them it refuses.
-/

namespace NrfUnifying.UartLink

open Lib.Bytes Radio Storage

/-- The branches of the handler that a UART command may take, with their arguments. -/
inductive Branch where
  | ver
  | status
  | switch (slot : UInt8)
  | pair (slot : UInt8)
  | keyDown (modifier : UInt8) (report : Keys)

/-- The tokens of a command with what the validator has read of them; a report is filled up with
zeros. -/
inductive Validated : List (List UInt8) → Branch → Prop where
  | ver : Validated [ascii "VER"] .ver
  | status : Validated [ascii "USTATUS"] .status
  | switch {token : List UInt8} {slot : UInt8} (read : hexByte token = some slot)
      (small : slot < 4) : Validated [ascii "USWITCH", token] (.switch slot)
  | pair {token : List UInt8} {slot : UInt8} (read : hexByte token = some slot)
      (small : slot < 4) : Validated [ascii "UPAIR", token] (.pair slot)
  | keyDown {arguments : List (List UInt8)} {modifier : UInt8} {keys : List UInt8}
      {report : Keys} (read : arguments.map hexByte = some modifier :: keys.map some)
      (few : keys.length ≤ 6)
      (padded : report.toList = keys ++ List.replicate (6 - keys.length) 0) :
      Validated (ascii "UKEYDOWN" :: arguments) (.keyDown modifier report)

section Handler

variable {W : Type} [Board W] [RustUnifying W]

/-- The handler's own conditions for each branch, past its checks of the arguments. -/
inductive Accepts (handler : Handler W) (line : List UInt8) : Branch → Prop where
  | ver (is : line = ascii "VER") : Accepts handler line .ver
  | status (is : line = ascii "USTATUS") : Accepts handler line .status
  | switch {rest : List UInt8} {slot : UInt8}
      (starts : stripPrefix (ascii "USWITCH ") line = some rest)
      (slotIs : (parseU8Hex rest).filter (· < maxProfiles) = some slot) :
      Accepts handler line (.switch slot)
  | pair {slot : UInt8} (starts : (ascii "UPAIR ").isPrefixOf line = true)
      (explicit : 6 < line.length) (slotIs : handler.state.pairSlot line = some slot) :
      Accepts handler line (.pair slot)
  | keyDown {rest : List UInt8} {modifier : UInt8} {report : Keys}
      (starts : stripPrefix (ascii "UKEYDOWN ") line = some rest)
      (reportIs : parseReport rest = some (modifier, report)) :
      Accepts handler line (.keyDown modifier report)

/-- What the handler does in each branch, past the checks and with the arguments they have read. -/
def Branch.result (buildTime : Nat) (handler : Handler W) : Branch → Option (Handler W)
  | .ver => some (handler.write (versionReply buildTime))
  | .status => handler.writeOut (formatStatus (List.replicate 96 0) handler.state)
  | .switch slot => handler.switchInto slot
  | .pair slot => handler.pairInto slot
  | .keyDown modifier report =>
      if handler.state.connected = false then some (handler.write (ascii "ERR NOTCONN\r\n"))
      else some (Handler.keyDown { handler with state := handler.state.wake } modifier report)

/-- The commands whose arguments the handler checks, with an explicit slot for `UPAIR`. -/
def Argued (line : List UInt8) : Prop :=
  (ascii "USWITCH ").isPrefixOf line = true ∨
    (ascii "UPAIR ").isPrefixOf line = true ∧ 6 < line.length ∨
    (ascii "UKEYDOWN ").isPrefixOf line = true

/-- What the handler does about arguments that it does not take. -/
inductive Refuses (handler : Handler W) (line : List UInt8) : Option (Handler W) → Prop where
  | slot (starts : (ascii "USWITCH ").isPrefixOf line = true ∨
        (ascii "UPAIR ").isPrefixOf line = true) :
      Refuses handler line (some (handler.write (ascii "ERR SLOT\r\n")))
  | argument (starts : (ascii "UKEYDOWN ").isPrefixOf line = true)
      (connected : handler.state.connected = true) :
      Refuses handler line (some
        (Handler.write { handler with state := handler.state.wake } (ascii "ERR ARG\r\n")))
  | disconnected (starts : (ascii "UKEYDOWN ").isPrefixOf line = true)
      (connected : handler.state.connected = false) :
      Refuses handler line (some (handler.write (ascii "ERR NOTCONN\r\n")))

end Handler

/-! ## One reader of hexadecimal bytes -/

/-- Both readers take the same digits to the same bytes. -/
theorem parseU8Hex_eq (token : List UInt8) : parseU8Hex token = hexByte token := by
  have digits : ∀ n < 256, (if 0x30 ≤ UInt8.ofNat n ∧ UInt8.ofNat n ≤ 0x39 then
        some (UInt8.ofNat n - 0x30)
      else if 0x61 ≤ UInt8.ofNat n ∧ UInt8.ofNat n ≤ 0x66 then some (UInt8.ofNat n - 0x61 + 10)
      else if 0x41 ≤ UInt8.ofNat n ∧ UInt8.ofNat n ≤ 0x46 then some (UInt8.ofNat n - 0x41 + 10)
      else none) = hex (.ofNat n) := by
    decide +kernel
  unfold parseU8Hex hexByte
  congr 2
  funext value byte
  have digit := digits byte.toNat byte.toNat_lt
  rw [UInt8.ofNat_toNat] at digit
  exact congrArg (Option.map _) digit

/-- The bytes of a hexadecimal byte are digits. -/
theorem HexByte.plain {token : List UInt8} {value : Nat} (byte : HexByte token value) :
    token ≠ [] ∧ 0x20 ∉ token ∧ 0x0D ∉ token := by
  have digits : (upperDigits ++ lowerDigits).all fun digit => digit != 0x20 && digit != 0x0D := by
    decide
  have listed {digit : UInt8} {value : Nat}
      (is : upperDigits[value]? = some digit ∨ lowerDigits[value]? = some digit) :
      digit ≠ 0x20 ∧ digit ≠ 0x0D := by
    have member : digit ∈ upperDigits ++ lowerDigits := by
      rcases is with upper | lower
      · exact List.mem_append_left _ (List.mem_of_getElem? upper)
      · exact List.mem_append_right _ (List.mem_of_getElem? lower)
    simpa using List.all_eq_true.mp digits digit member
  cases byte with
  | one is =>
      obtain ⟨space, cr⟩ := listed is
      refine ⟨List.cons_ne_nil _ _, ?_, ?_⟩
      · simpa using space.symm
      · simpa using cr.symm
  | two highIs lowIs =>
      obtain ⟨highSpace, highCr⟩ := listed highIs
      obtain ⟨lowSpace, lowCr⟩ := listed lowIs
      refine ⟨List.cons_ne_nil _ _, ?_, ?_⟩
      · simpa using ⟨highSpace.symm, lowSpace.symm⟩
      · simpa using ⟨highCr.symm, lowCr.symm⟩

theorem hexByte_plain {token : List UInt8} {value : UInt8} (read : hexByte token = some value) :
    token ≠ [] ∧ 0x20 ∉ token ∧ 0x0D ∉ token :=
  (hexByte_eq_some.mp read).plain

/-! ## Tokens of a line and its rest -/

/-- The tokens behind a first word. -/
theorem tokens_cons {word : List UInt8} (rest : List UInt8) (some : word ≠ [])
    (plain : 0x20 ∉ word) : tokens (word ++ 0x20 :: rest) = word :: tokens rest := by
  rw [tokens, List.splitOn_append_cons_self_of_not_mem plain, List.filter_cons_of_pos]
  · rfl
  · simpa using some

theorem tokens_single {word : List UInt8} (some : word ≠ []) (plain : 0x20 ∉ word) :
    tokens word = [word] := by
  rw [tokens, List.splitOn_eq_singleton plain]
  simpa using some

/-- Every byte of a line that is not a space is in a token. -/
theorem mem_tokens {line : List UInt8} {byte : UInt8} (member : byte ∈ line) (other : byte ≠ 0x20) :
    ∃ token ∈ tokens line, byte ∈ token := by
  have piece : ∃ token ∈ line.splitOn 0x20, byte ∈ token := by
    induction line with
    | nil => cases member
    | cons first line ih =>
        rw [List.splitOn_cons_eq_if_modifyHead]
        split
        next space =>
          rcases List.mem_cons.mp member with rfl | later
          · exact absurd (beq_iff_eq.mp space) other
          · obtain ⟨token, found, inside⟩ := ih later
            exact ⟨token, List.mem_cons_of_mem _ found, inside⟩
        · obtain ⟨head, tail, same⟩ := List.exists_cons_of_ne_nil (List.splitOn_ne_nil 0x20 line)
          rw [same] at ih ⊢
          rcases List.mem_cons.mp member with rfl | later
          · exact ⟨byte :: head, List.mem_cons_self, List.mem_cons_self⟩
          · obtain ⟨token, found, inside⟩ := ih later
            rcases List.mem_cons.mp found with rfl | later'
            · exact ⟨first :: token, List.mem_cons_self, List.mem_cons_of_mem _ inside⟩
            · exact ⟨token, List.mem_cons_of_mem _ later', inside⟩
  obtain ⟨token, found, inside⟩ := piece
  refine ⟨token, List.mem_filter.mpr ⟨found, ?_⟩, inside⟩
  cases token with
  | nil => cases inside
  | cons => rfl

/-! ## Keys -/

/-- The handler's keys fill the report in order, six of them at most. -/
theorem keyTokens_eq_some {arguments : List (List UInt8)} {count : Nat} {keys report : Keys}
    (read : keyTokens arguments count keys = some report) (few : count ≤ 6) :
    ∃ values, arguments.map hexByte = values.map some ∧ count + values.length ≤ 6 ∧
      report.toList =
        keys.toList.take count ++ values ++ keys.toList.drop (count + values.length) := by
  induction arguments generalizing count keys with
  | nil =>
      obtain rfl := Option.some.inj read
      exact ⟨[], rfl, few, by simp⟩
  | cons token arguments ih =>
      rw [keyTokens] at read
      split at read
      next inside =>
        obtain ⟨key, first, rest⟩ := Option.bind_eq_some_iff.mp read
        obtain ⟨values, all, short, filled⟩ := ih rest inside
        rw [parseU8Hex_eq] at first
        refine ⟨key :: values, ?_, ?_, ?_⟩
        · rw [List.map_cons, List.map_cons, first, all]
        · rw [List.length_cons]
          omega
        · have filled : report.toList = (keys.toList.set count key).take (count + 1) ++ values ++
              (keys.toList.set count key).drop (count + 1 + values.length) := filled
          have long : count < keys.toList.length := by
            rw [Vector.length_toList]
            exact inside
          rw [filled, List.take_add_one, List.take_set_of_le (Nat.le_refl count),
            List.getElem?_set_self long, List.drop_set_of_lt (by omega), List.length_cons]
          simp [Nat.add_comm, Nat.add_left_comm]
      · cases read

theorem keyTokens_isSome {arguments : List (List UInt8)} {values : List UInt8} {count : Nat}
    (keys : Keys) (read : arguments.map hexByte = values.map some)
    (few : count + values.length ≤ 6) : (keyTokens arguments count keys).isSome = true := by
  induction arguments generalizing values count keys with
  | nil => rfl
  | cons token arguments ih =>
      cases values with
      | nil => cases read
      | cons key values =>
          obtain ⟨first, rest⟩ := List.cons.inj read
          rw [List.length_cons] at few
          have inside : count < keysLen := by
            change count < 6
            omega
          rw [keyTokens, dif_pos inside, parseU8Hex_eq, first]
          exact ih _ rest (by omega)

/-- The validator's reading of a report's tokens is the handler's. -/
theorem parseReport_iff {rest : List UInt8} {modifier : UInt8} {report : Keys} :
    parseReport rest = some (modifier, report) ↔
      ∃ keys : List UInt8, (tokens rest).map hexByte = some modifier :: keys.map some ∧
        keys.length ≤ 6 ∧ report.toList = keys ++ List.replicate (6 - keys.length) 0 := by
  rw [parseReport, ← tokens]
  cases tokens rest with
  | nil =>
      constructor
      · rintro ⟨⟩
      · rintro ⟨keys, impossible, -⟩
        cases impossible
  | cons token arguments =>
      have filling {keys : List UInt8} {report : Keys} (filled : report.toList =
          (Vector.replicate 6 (0 : UInt8)).toList.take 0 ++ keys ++
            (Vector.replicate 6 (0 : UInt8)).toList.drop (0 + keys.length)) :
          report.toList = keys ++ List.replicate (6 - keys.length) 0 := by
        rwa [Vector.toList_replicate, List.take_zero, List.nil_append, Nat.zero_add,
          List.drop_replicate] at filled
      simp only [parseU8Hex_eq, List.map_cons]
      constructor
      · intro read
        obtain ⟨value, first, others⟩ := Option.bind_eq_some_iff.mp read
        obtain ⟨found, run, same⟩ := Option.map_eq_some_iff.mp others
        obtain ⟨rfl, rfl⟩ := Prod.mk.inj same
        obtain ⟨keys, all, few, filled⟩ := keyTokens_eq_some run (Nat.zero_le 6)
        exact ⟨keys, by rw [first, all], by omega, filling filled⟩
      · rintro ⟨keys, read, few, padded⟩
        obtain ⟨first, rest⟩ := List.cons.inj read
        obtain ⟨found, run⟩ := Option.isSome_iff_exists.mp
          (keyTokens_isSome (.replicate 6 0) rest (show 0 + keys.length ≤ 6 by omega))
        obtain ⟨keys', all, few', filled⟩ := keyTokens_eq_some run (Nat.zero_le 6)
        have sameKeys : keys' = keys :=
          List.map_injective_iff.mpr (fun _ _ => Option.some.inj) (all.symm.trans rest)
        subst sameKeys
        have same : found = report := by
          rw [← Vector.toList_inj, filling filled, padded]
        rw [first, Option.bind_some, run, Option.map_some, same]

/-! ## Validated commands are accepted -/

section Agreement

variable {W : Type} [Board W] [RustUnifying W] {buildTime : Nat} {handler : Handler W}

theorem Legal.validated {words : List (List UInt8)} (legal : Legal words)
    (other : words.head? ≠ some (ascii "OTA")) : ∃ branch, Validated words branch := by
  have slot {token : List UInt8} {value : Nat} (byte : HexByte token value) (small : value < 4) :
      hexByte token = some (.ofNat value) ∧ UInt8.ofNat value < 4 := by
    refine ⟨byte.read, UInt8.lt_iff_toNat_lt.mpr ?_⟩
    rwa [UInt8.toNat_ofNat', Nat.mod_eq_of_lt byte.lt]
  cases legal with
  | ver => exact ⟨_, .ver⟩
  | status => exact ⟨_, .status⟩
  | switch byte small => exact ⟨_, .switch (slot byte small).1 (slot byte small).2⟩
  | pair byte small => exact ⟨_, .pair (slot byte small).1 (slot byte small).2⟩
  | @keyDown keys nonempty few bytes =>
      obtain ⟨values, read⟩ : ∃ values : List UInt8, keys.map hexByte = values.map some := by
        clear nonempty few other
        induction keys with
        | nil => exact ⟨[], rfl⟩
        | cons key keys ih =>
            obtain ⟨⟨value, byte⟩, others⟩ := List.forall_mem_cons.mp bytes
            obtain ⟨values, read⟩ := ih others
            exact ⟨.ofNat value :: values, by rw [List.map_cons, byte.read, read, List.map_cons]⟩
      have length := congrArg List.length read
      rw [List.length_map, List.length_map] at length
      cases values with
      | nil => exact absurd (List.eq_nil_of_length_eq_zero length) nonempty
      | cons modifier values =>
          rw [List.length_cons] at length
          have few : values.length ≤ 6 := by omega
          have full : (values ++ List.replicate (6 - values.length) 0).length = 6 := by
            rw [List.length_append, List.length_replicate]
            omega
          exact ⟨.keyDown modifier ⟨(values ++ List.replicate (6 - values.length) 0).toArray, full⟩,
            .keyDown read few rfl⟩
  | ota rest => exact absurd rfl other

theorem Validated.legal {words : List (List UInt8)} {branch : Branch}
    (validated : Validated words branch) : Legal words := by
  cases validated with
  | ver => exact .ver
  | status => exact .status
  | switch read small => exact .switch (hexByte_eq_some.mp read) (UInt8.lt_iff_toNat_lt.mp small)
  | pair read small => exact .pair (hexByte_eq_some.mp read) (UInt8.lt_iff_toNat_lt.mp small)
  | @keyDown arguments modifier keys report read few padded =>
      have length := congrArg List.length read
      rw [List.length_map, List.length_cons, List.length_map] at length
      refine .keyDown ?_ (by omega) ?_
      · rintro rfl
        cases length
      · intro argument member
        have found : hexByte argument ∈ some modifier :: keys.map some :=
          read ▸ List.mem_map_of_mem member
        rw [← List.map_cons] at found
        obtain ⟨value, -, same⟩ := List.mem_map.mp found
        exact ⟨value.toNat, hexByte_eq_some.mp same.symm⟩

/-- The line of a first word and its arguments. -/
theorem intercalate_cons {word argument : List UInt8} {arguments : List (List UInt8)} :
    [0x20].intercalate (word :: argument :: arguments) =
      (word ++ [0x20]) ++ [0x20].intercalate (argument :: arguments) :=
  List.intercalate_cons_cons

theorem intercalate_pair {word argument : List UInt8} :
    [0x20].intercalate [word, argument] = (word ++ [0x20]) ++ argument := by
  rw [intercalate_cons, List.intercalate_singleton]

omit [Board W] [RustUnifying W] in
/-- The handler accepts the canonical line of a validated command. -/
theorem Validated.accepts {words : List (List UInt8)} {branch : Branch}
    (validated : Validated words branch) (plain : ∀ word ∈ words, word ≠ [] ∧ 0x20 ∉ word) :
    Accepts handler ([0x20].intercalate words) branch := by
  cases validated with
  | ver => exact .ver rfl
  | status => exact .status rfl
  | @switch token slot read small =>
      rw [intercalate_pair]
      refine .switch (stripPrefix_append (ascii "USWITCH ") token) ?_
      rw [parseU8Hex_eq, read]
      exact Option.filter_some_pos (decide_eq_true small)
  | @pair token slot read small =>
      rw [intercalate_pair]
      have explicit : 6 < (ascii "UPAIR" ++ [0x20] ++ token).length := by
        have := List.length_pos_iff.mpr (hexByte_plain read).1
        change 6 < (ascii "UPAIR " ++ token).length
        rw [List.length_append]
        change 6 < 6 + token.length
        omega
      refine .pair ?_ explicit ?_
      · exact List.isPrefixOf_iff_prefix.mpr (List.prefix_append (ascii "UPAIR ") token)
      · have rest : (ascii "UPAIR" ++ [0x20] ++ token).drop 6 = token :=
          @List.drop_left _ (ascii "UPAIR ") token
        rw [UnifyingState.pairSlot, if_pos explicit, rest, parseU8Hex_eq, read]
        exact Option.filter_some_pos (decide_eq_true small)
  | @keyDown arguments modifier keys report read few padded =>
      cases arguments with
      | nil => cases read
      | cons argument arguments =>
          have words := tokens_intercalate (List.forall_mem_cons.mp plain).2
          rw [intercalate_cons]
          refine .keyDown (stripPrefix_append (ascii "UKEYDOWN ") _) ?_
          exact parseReport_iff.mpr ⟨keys, words.symm ▸ read, few, padded⟩

omit [Board W] [RustUnifying W] in
/-- What the handler accepts the validator has read, with the same arguments. -/
theorem Accepts.validated {line : List UInt8} {branch : Branch}
    (accepts : Accepts handler line branch) : Validated (tokens line) branch := by
  cases accepts with
  | ver is =>
      rw [is]
      exact .ver
  | status is =>
      rw [is]
      exact .status
  | @switch rest slot starts slotIs =>
      obtain ⟨read, small⟩ := Option.filter_eq_some_iff.mp slotIs
      rw [parseU8Hex_eq] at read
      obtain ⟨nonempty, plain, -⟩ := hexByte_plain read
      rw [stripPrefix_eq_some starts]
      change Validated (tokens (ascii "USWITCH" ++ 0x20 :: rest)) _
      rw [tokens_cons rest (by decide) (by decide), tokens_single nonempty plain]
      exact .switch read (of_decide_eq_true small)
  | @pair slot starts explicit slotIs =>
      obtain ⟨rest, rfl⟩ := List.isPrefixOf_iff_prefix.mp starts
      have dropped : (ascii "UPAIR " ++ rest).drop 6 = rest :=
        @List.drop_left _ (ascii "UPAIR ") rest
      rw [UnifyingState.pairSlot, if_pos explicit, dropped] at slotIs
      obtain ⟨read, small⟩ := Option.filter_eq_some_iff.mp slotIs
      rw [parseU8Hex_eq] at read
      obtain ⟨nonempty, plain, -⟩ := hexByte_plain read
      change Validated (tokens (ascii "UPAIR" ++ 0x20 :: rest)) _
      rw [tokens_cons rest (by decide) (by decide), tokens_single nonempty plain]
      exact .pair read (of_decide_eq_true small)
  | @keyDown rest modifier report starts reportIs =>
      obtain ⟨keys, read, few, padded⟩ := parseReport_iff.mp reportIs
      rw [stripPrefix_eq_some starts]
      change Validated (tokens (ascii "UKEYDOWN" ++ 0x20 :: rest)) _
      rw [tokens_cons rest (by decide) (by decide)]
      exact .keyDown read few padded

/-- No token of a validated command holds a CR. -/
theorem Validated.no_cr {words : List (List UInt8)} {branch : Branch}
    (validated : Validated words branch) : ∀ word ∈ words, 0x0D ∉ word := by
  cases validated with
  | ver => exact List.forall_mem_singleton.mpr (by decide)
  | status => exact List.forall_mem_singleton.mpr (by decide)
  | switch read small =>
      exact List.forall_mem_cons.mpr
        ⟨by decide, List.forall_mem_singleton.mpr (hexByte_plain read).2.2⟩
  | pair read small =>
      exact List.forall_mem_cons.mpr
        ⟨by decide, List.forall_mem_singleton.mpr (hexByte_plain read).2.2⟩
  | @keyDown arguments modifier keys report read few padded =>
      refine List.forall_mem_cons.mpr ⟨by decide, fun argument member => ?_⟩
      have found : hexByte argument ∈ some modifier :: keys.map some :=
        read ▸ List.mem_map_of_mem member
      rw [← List.map_cons] at found
      obtain ⟨value, -, same⟩ := List.mem_map.mp found
      exact (hexByte_plain same.symm).2.2

theorem Validated.not_ota {words : List (List UInt8)} {branch : Branch}
    (validated : Validated words branch) : words.head? ≠ some (ascii "OTA") := by
  have differ : ∀ name ∈ [ascii "VER", ascii "USTATUS", ascii "USWITCH", ascii "UPAIR",
      ascii "UKEYDOWN"], some name ≠ some (ascii "OTA") := by decide
  cases validated with
  | ver => exact differ _ (by simp)
  | status => exact differ _ (by simp)
  | switch read small => exact differ _ (by simp)
  | pair read small => exact differ _ (by simp)
  | keyDown read few padded => exact differ _ (by simp)

/-! ## What the handler does -/

/-- The handler takes the branch whose conditions it accepts. -/
theorem Accepts.result {line : List UInt8} {branch : Branch}
    (accepts : Accepts handler line branch) :
    handleUnifyingCommand buildTime handler line = branch.result buildTime handler := by
  cases accepts with
  | ver is =>
      rw [is]
      rfl
  | status is =>
      rw [is]
      rfl
  | @switch rest slot starts slotIs =>
      rw [stripPrefix_eq_some starts, handle_uswitch, Handler.uswitch, slotIs]
      rfl
  | @pair slot starts explicit slotIs =>
      rw [handle_upair (.inr starts), Handler.upair, slotIs]
      rfl
  | @keyDown rest modifier report starts reportIs =>
      rw [stripPrefix_eq_some starts, handle_ukeydown, Handler.ukeydown, Branch.result, reportIs]
      split <;> rfl

/-- No branch ends in a refusal. -/
theorem Branch.result_replies (branch : Branch) :
    Radio.Replies (Radio.Accepted buildTime) handler (branch.result buildTime handler) := by
  cases branch with
  | ver => exact .write rfl .version
  | status => exact .writeOut (formatStatus_wrote _) rfl (.status _)
  | switch slot => exact handler.switchInto_replies buildTime slot
  | pair slot => exact handler.pairInto_replies buildTime slot
  | keyDown modifier report =>
      rw [Branch.result]
      split
      · exact .fixed rfl (by decide)
      · exact Handler.keyDown_replies { handler with state := handler.state.wake } buildTime
          modifier report

/-- Arguments that no branch accepts are refused. -/
theorem Argued.refuses {line : List UInt8} (argued : Argued line)
    (none : ∀ branch, ¬Accepts handler line branch) :
    Refuses handler line (handleUnifyingCommand buildTime handler line) := by
  have stripped {start : List UInt8} (starts : start.isPrefixOf line = true) :
      ∃ rest, stripPrefix start line = some rest := ⟨_, if_pos starts⟩
  rcases argued with starts | ⟨starts, explicit⟩ | starts
  · obtain ⟨rest, strip⟩ := stripped starts
    cases slotIs : (parseU8Hex rest).filter (· < maxProfiles) with
    | some slot => exact absurd (.switch strip slotIs) (none (.switch slot))
    | none =>
        have refusal : handleUnifyingCommand buildTime handler line =
            some (handler.write (ascii "ERR SLOT\r\n")) := by
          rw [stripPrefix_eq_some strip, handle_uswitch, Handler.uswitch, slotIs]
        rw [refusal]
        exact .slot (.inl starts)
  · cases slotIs : handler.state.pairSlot line with
    | some slot => exact absurd (.pair starts explicit slotIs) (none (.pair slot))
    | none =>
        rw [handle_upair (.inr starts), Handler.upair, slotIs]
        exact .slot (.inr starts)
  · obtain ⟨rest, strip⟩ := stripped starts
    cases reportIs : parseReport rest with
    | some report => exact absurd (.keyDown strip reportIs) (none (.keyDown report.1 report.2))
    | none =>
        have refusal : handleUnifyingCommand buildTime handler line =
            some (handler.ukeydown rest) := by
          rw [stripPrefix_eq_some strip, handle_ukeydown]
        rw [refusal, Handler.ukeydown, reportIs]
        split
        next down => exact .disconnected starts down
        next up => exact .argument starts (by simpa using up)

/-! ## Frames -/

omit [Board W] [RustUnifying W] in
theorem exists_of_forall₂ {α β : Type} {related : α → β → Prop} {first : List α}
    {second : List β} (all : List.Forall₂ related first second) :
    ∀ value ∈ second, ∃ other, related other value := by
  induction all with
  | nil => simp
  | cons head tail ih => exact List.forall_mem_cons.mpr ⟨⟨_, head⟩, ih⟩

/-- A frame without an error that is no update command is what a branch of the handler accepts,
with the arguments the validator has read; the handler then works on these arguments and answers
with no refusal; and whatever these branches accept is framed without an error. Arguments that
none of them accepts the handler refuses. -/
theorem transport_agrees (buildTime : Nat) (handler : Handler W) (inputs : List Input)
    (frame : Frame) (framed : frame ∈ ({} : Parser).frames inputs) :
    ((frame.error = none ∧ (tokens frame.command).head? ≠ some (ascii "OTA")) ↔
      ∃ branch, Accepts handler frame.command branch) ∧
    (∀ branch, Accepts handler frame.command branch →
      Validated (tokens frame.command) branch ∧
      handleUnifyingCommand buildTime handler frame.command = branch.result buildTime handler ∧
      ∃ after text, branch.result buildTime handler = some after ∧
        after.sink = handler.sink.write text ∧ text ∉ refusals) ∧
    (Argued frame.command → (∀ branch, ¬Accepts handler frame.command branch) →
      Refuses handler frame.command (handleUnifyingCommand buildTime handler frame.command)) := by
  obtain ⟨line, digits, rest, numbered, number, command, error⟩ :=
    exists_of_forall₂ (frames_eq_reference inputs).1 frame framed
  have words : tokens frame.command = tokens rest := by
    rw [command]
    exact tokens_canonical rest
  refine ⟨⟨?_, ?_⟩, fun branch accepts => ⟨accepts.validated, accepts.result, ?_⟩,
    fun argued none => argued.refuses none⟩
  · rintro ⟨sound, other⟩
    rw [words] at other
    obtain ⟨branch, validated⟩ := (error.mp sound).2.validated other
    refine ⟨branch, ?_⟩
    rw [command]
    exact validated.accepts (tokens_plain rest)
  · rintro ⟨branch, accepts⟩
    have validated := accepts.validated
    rw [words] at validated
    refine ⟨error.mpr ⟨fun hidden => ?_, validated.legal⟩, ?_⟩
    · obtain ⟨token, member, inside⟩ := mem_tokens hidden (by decide)
      exact validated.no_cr token member inside
    · rw [words]
      exact validated.not_ota
  · obtain ⟨after, text, done, accepted, sink⟩ :=
      @Branch.result_replies W _ _ buildTime handler branch
    exact ⟨after, text, done, sink, accepted.not_refusal⟩

/-- A report with repeated blanks, as a host may send it. -/
def spacedReport : List Input := (ascii "@00000001 UKEYDOWN  02 04 \r\n").map Input.push

theorem transport_agrees_spacedReport :
    ∃ branch, Accepts (Handler.boot (⟨true, []⟩ : Bench) erasedChip) (ascii "UKEYDOWN 02 04")
      branch := by
  have framed : Frame.mk 1 (ascii "UKEYDOWN 02 04") none ∈ ({} : Parser).frames spacedReport := by
    decide +kernel
  have agrees :=
    transport_agrees 0 (Handler.boot (⟨true, []⟩ : Bench) erasedChip) spacedReport _ framed
  exact agrees.1.mp ⟨rfl, by decide +kernel⟩

end Agreement

end NrfUnifying.UartLink
