import Mathlib.Data.List.Forall2
import NrfUnifying.Uart.Link

/-!
# The language of the line parser

A reference that says which lines are read and what they mean, without the
parser's state. Bytes, damage and session changes are split at what ends a
line; a line that an LF completes is kept when nothing spoiled it and it has
the form of a numbered command.
-/

namespace NrfUnifying.UartLink

open Lib.Bytes

/-! ## Lines -/

/-- What the receive task feeds to the parser. -/
inductive Input where
  | push (byte : UInt8)
  | damaged
  | sessionChanged (pending : List UInt8)
  deriving DecidableEq, Repr

/-- An LF completes a line; pending bytes that end in LF drop it. -/
def Input.ends : Input → Bool
  | .push byte => byte = 0x0A
  | .damaged => false
  | .sessionChanged pending => pending.getLast? = some 0x0A

/-- The inputs of each line with what ends it; the last line is unfinished. -/
def segments : List Input → List (List Input × Option Input)
  | [] => [([], none)]
  | input :: rest =>
      if input.ends then ([], some input) :: segments rest
      else
        match segments rest with
        | [] => []
        | (line, last) :: others => (input :: line, last) :: others

/-- The line of a segment that an LF completes. -/
def completedLine (segment : List Input × Option Input) : Option (List Input) :=
  if segment.2 = some (.push 0x0A) then some segment.1 else none

/-- The lines that an LF completes. -/
def completed (inputs : List Input) : List (List Input) :=
  (segments inputs).filterMap completedLine

def received (line : List Input) : List UInt8 :=
  line.filterMap fun
    | .push byte => some byte
    | _ => none

/-- Damage, and a session change that hits bytes of the line or brings its own, spoil a line. -/
inductive Spoiled : List Input → Prop where
  | damaged (before after : List Input) : Spoiled (before ++ .damaged :: after)
  | pending (before after : List Input) {pending : List UInt8} (some : pending ≠ []) :
      Spoiled (before ++ .sessionChanged pending :: after)
  | interrupted (before after : List Input) (started : received before ≠ []) :
      Spoiled (before ++ .sessionChanged [] :: after)

/-! ## Numbered commands -/

def upperDigits : List UInt8 := ascii "0123456789ABCDEF"

def lowerDigits : List UInt8 := ascii "0123456789abcdef"

/-- A line as `@`, eight digits, a space and the rest. -/
structure Numbered (line digits rest : List UInt8) : Prop where
  form : stripCr line = 0x40 :: (digits ++ 0x20 :: rest)
  eight : digits.length = 8
  upper : ∀ digit ∈ digits, digit ∈ upperDigits

/-- One or two hexadecimal digits of either case. -/
inductive HexByte : List UInt8 → Nat → Prop where
  | one {digit : UInt8} {value : Nat}
      (is : upperDigits[value]? = some digit ∨ lowerDigits[value]? = some digit) :
      HexByte [digit] value
  | two {high low : UInt8} {highValue lowValue : Nat}
      (highIs : upperDigits[highValue]? = some high ∨ lowerDigits[highValue]? = some high)
      (lowIs : upperDigits[lowValue]? = some low ∨ lowerDigits[lowValue]? = some low) :
      HexByte [high, low] (16 * highValue + lowValue)

/-- The commands of the transport. -/
inductive Legal : List (List UInt8) → Prop where
  | ver : Legal [ascii "VER"]
  | status : Legal [ascii "USTATUS"]
  | switch {token : List UInt8} {slot : Nat} (byte : HexByte token slot) (small : slot < 4) :
      Legal [ascii "USWITCH", token]
  | pair {token : List UInt8} {slot : Nat} (byte : HexByte token slot) (small : slot < 4) :
      Legal [ascii "UPAIR", token]
  | keyDown {keys : List (List UInt8)} (some : keys ≠ []) (few : keys.length ≤ 7)
      (bytes : ∀ key ∈ keys, ∃ value, HexByte key value) : Legal (ascii "UKEYDOWN" :: keys)
  | ota (rest : List (List UInt8)) : Legal (ascii "OTA" :: rest)

/-- The value of a number's digits, most significant first. -/
def numberOf (digits : List UInt8) : Nat :=
  digits.foldl (fun number digit => 16 * number + upperDigits.idxOf digit) 0

/-- What the frame of a numbered line holds. -/
def Means (line : List UInt8) (frame : Frame) : Prop :=
  ∃ digits rest, Numbered line digits rest ∧ frame.number.toNat = numberOf digits ∧
    frame.command = [0x20].intercalate (tokens rest) ∧
    (frame.error = none ↔ 0x0D ∉ rest ∧ Legal (tokens rest))

/-- A completed line that becomes a frame. -/
structure Kept (line : List Input) : Prop where
  whole : ¬Spoiled line
  short : (received line).length ≤ 256
  printable : ∀ byte ∈ received line, byte = 0x0D ∨ (0x20 ≤ byte ∧ byte ≤ 0x7E)
  numbered : ∃ digits rest, Numbered (received line) digits rest

open Classical in
/-- The completed lines that become frames. -/
noncomputable def keptLines (inputs : List Input) : List (List Input) :=
  (completed inputs).filter fun line => Kept line

/-! ## The parser's run -/

def Parser.step (parser : Parser) : Input → Option Frame × Parser
  | .push byte => parser.push byte
  | .damaged => (none, parser.damaged)
  | .sessionChanged pending => (none, parser.sessionChanged pending)

/-- The frames of a run, in order. -/
def Parser.frames (parser : Parser) : List Input → List Frame
  | [] => []
  | input :: rest => (parser.step input).1.toList ++ (parser.step input).2.frames rest

/-! ## Spoiled lines grow at the end -/

theorem concat_split {line before after : List Input} {last input : Input}
    (same : line ++ [last] = before ++ input :: after) :
    after = [] ∧ line = before ∧ last = input ∨
      ∃ shorter, line = before ++ input :: shorter := by
  rcases List.eq_nil_or_concat after with rfl | ⟨shorter, final, rfl⟩
  · left
    obtain ⟨lines, lasts⟩ := List.append_inj' same rfl
    exact ⟨rfl, lines, (List.cons.inj lasts).1⟩
  · right
    refine ⟨shorter, ?_⟩
    rw [List.concat_eq_append, ← List.cons_append, ← List.append_assoc] at same
    exact (List.append_inj' same rfl).1

theorem Spoiled.append {line : List Input} (spoiled : Spoiled line) (more : List Input) :
    Spoiled (line ++ more) := by
  cases spoiled with
  | damaged before after =>
      rw [List.append_assoc]
      exact .damaged before (after ++ more)
  | pending before after some =>
      rw [List.append_assoc]
      exact .pending before (after ++ more) some
  | interrupted before after started =>
      rw [List.append_assoc]
      exact .interrupted before (after ++ more) started

theorem not_spoiled_nil : ¬Spoiled [] := by
  intro spoiled
  generalize lineIs : ([] : List Input) = line at spoiled
  cases spoiled with
  | damaged before after => cases before <;> cases lineIs
  | pending before after some => cases before <;> cases lineIs
  | interrupted before after started => cases before <;> cases lineIs

theorem spoiled_push {line : List Input} {byte : UInt8} :
    Spoiled (line ++ [.push byte]) ↔ Spoiled line := by
  constructor
  · intro spoiled
    generalize grownIs : line ++ [.push byte] = grown at spoiled
    cases spoiled with
    | damaged before after =>
        rcases concat_split grownIs with ⟨-, -, same⟩ | ⟨shorter, rfl⟩
        · cases same
        · exact .damaged before shorter
    | pending before after some =>
        rcases concat_split grownIs with ⟨-, -, same⟩ | ⟨shorter, rfl⟩
        · cases same
        · exact .pending before shorter some
    | interrupted before after started =>
        rcases concat_split grownIs with ⟨-, -, same⟩ | ⟨shorter, rfl⟩
        · cases same
        · exact .interrupted before shorter started
  · exact fun spoiled => spoiled.append _

theorem spoiled_sessionChanged {line : List Input} {pending : List UInt8} :
    Spoiled (line ++ [.sessionChanged pending]) ↔
      Spoiled line ∨ received line ≠ [] ∨ pending ≠ [] := by
  constructor
  · intro spoiled
    generalize grownIs : line ++ [.sessionChanged pending] = grown at spoiled
    cases spoiled with
    | damaged before after =>
        rcases concat_split grownIs with ⟨-, -, same⟩ | ⟨shorter, rfl⟩
        · cases same
        · exact .inl (.damaged before shorter)
    | pending before after some =>
        rcases concat_split grownIs with ⟨-, -, same⟩ | ⟨shorter, rfl⟩
        · obtain rfl := Input.sessionChanged.inj same
          exact .inr (.inr some)
        · exact .inl (.pending before shorter some)
    | interrupted before after started =>
        rcases concat_split grownIs with ⟨-, rfl, -⟩ | ⟨shorter, rfl⟩
        · exact .inr (.inl started)
        · exact .inl (.interrupted before shorter started)
  · rintro (spoiled | started | some)
    · exact spoiled.append _
    · cases pending with
      | nil => exact .interrupted line [] started
      | cons byte pending => exact .pending line [] (List.cons_ne_nil _ _)
    · exact .pending line [] some

/-! ## The parser's state is that of the unfinished line -/

/-- A line that is still read. -/
structure Open (line : List Input) : Prop where
  whole : ¬Spoiled line
  short : (received line).length ≤ lineLimit
  printable : ∀ byte ∈ received line, byte = 0x0D ∨ (0x20 ≤ byte ∧ byte ≤ 0x7E)

theorem open_nil : Open [] := ⟨not_spoiled_nil, Nat.zero_le _, by simp [received]⟩

/-- The state after the inputs of a line. -/
structure Parser.After (parser : Parser) (line : List Input) : Prop where
  reads : Open line → parser = { line := received line, discard := false }
  skips : ¬Open line → parser = { line := [], discard := true }

theorem Parser.after_nil : ({} : Parser).After [] :=
  ⟨fun _ => rfl, fun closed => absurd open_nil closed⟩

theorem received_append (line : List Input) (input : Input) :
    received (line ++ [input]) = received line ++ received [input] := List.filterMap_append

theorem Parser.After.push {parser : Parser} {line : List Input} (after : parser.After line)
    {byte : UInt8} (inside : byte ≠ 0x0A) :
    (parser.push byte).1 = none ∧ (parser.push byte).2.After (line ++ [.push byte]) := by
  have grown : received (line ++ [.push byte]) = received line ++ [byte] := received_append _ _
  by_cases opened : Open line
  · obtain rfl := after.reads opened
    rw [Parser.push, if_neg inside, if_neg Bool.false_ne_true]
    by_cases bad : (received line).length = lineLimit ∨
        ¬(byte = 0x0D ∨ (0x20 ≤ byte ∧ byte ≤ 0x7E))
    · rw [if_pos bad]
      refine ⟨rfl, fun still => ?_, fun _ => rfl⟩
      rcases bad with full | strange
      · have short := still.short
        rw [grown, List.length_append, full, List.length_singleton] at short
        omega
      · have printable := still.printable byte
        rw [grown] at printable
        exact absurd (printable (List.mem_append_right _ (List.mem_singleton_self _))) strange
    · rw [if_neg bad]
      obtain ⟨room, fine⟩ := not_or.mp bad
      refine ⟨rfl, fun _ => by rw [grown], fun closed => ?_⟩
      refine absurd ?_ closed
      refine ⟨fun spoiled => opened.whole (spoiled_push.mp spoiled), ?_, ?_⟩
      · have short := opened.short
        rw [grown, List.length_append, List.length_singleton]
        omega
      · rw [grown]
        exact List.forall_mem_append.mpr
          ⟨opened.printable, List.forall_mem_singleton.mpr (Decidable.not_not.mp fine)⟩
  · obtain rfl := after.skips opened
    rw [Parser.push, if_neg inside, if_pos rfl]
    refine ⟨rfl, fun still => absurd ?_ opened, fun _ => rfl⟩
    refine ⟨fun spoiled => still.whole (spoiled_push.mpr spoiled), ?_, ?_⟩
    · have short := still.short
      rw [grown, List.length_append] at short
      omega
    · have printable := still.printable
      rw [grown] at printable
      exact fun byte member => printable byte (List.mem_append_left _ member)

theorem Parser.after_damaged (parser : Parser) (line : List Input) :
    parser.damaged.After (line ++ [.damaged]) :=
  ⟨fun still => absurd (.damaged line []) still.whole, fun _ => rfl⟩

theorem Parser.After.sessionChanged {parser : Parser} {line : List Input}
    (after : parser.After line) {pending : List UInt8} (open_ : pending.getLast? ≠ some 0x0A) :
    (parser.sessionChanged pending).After (line ++ [.sessionChanged pending]) := by
  have grown : received (line ++ [.sessionChanged pending]) = received line :=
    (received_append _ _).trans (List.append_nil _)
  have skips : ({ line := [], discard := decide (pending.getLast? ≠ some 0x0A) } : Parser) =
      { line := [], discard := true } := by
    rw [decide_eq_true open_]
  by_cases hit : received line ≠ [] ∨ pending ≠ []
  · have spoiled := spoiled_sessionChanged.mpr (.inr hit)
    refine ⟨fun still => absurd spoiled still.whole, fun _ => ?_⟩
    by_cases opened : Open line
    · obtain rfl := after.reads opened
      rw [Parser.sessionChanged, if_pos hit, skips]
    · obtain rfl := after.skips opened
      rw [Parser.sessionChanged]
      split
      · exact skips
      · rfl
  · obtain ⟨none, empty⟩ := not_or.mp hit
    have same : Open (line ++ [.sessionChanged pending]) ↔ Open line := by
      constructor
      · intro still
        refine ⟨fun spoiled => still.whole (spoiled.append _), ?_, ?_⟩
        · exact grown ▸ still.short
        · exact grown ▸ still.printable
      · intro still
        refine ⟨fun spoiled => ?_, grown.symm ▸ still.short, grown.symm ▸ still.printable⟩
        rcases spoiled_sessionChanged.mp spoiled with before | started
        · exact still.whole before
        · exact hit started
    have unchanged : parser.sessionChanged pending = parser := by
      by_cases opened : Open line
      · obtain rfl := after.reads opened
        rw [Parser.sessionChanged, if_neg hit]
      · obtain rfl := after.skips opened
        rw [Parser.sessionChanged, if_neg (by simpa using empty)]
    rw [unchanged]
    refine ⟨fun still => ?_, fun closed => after.skips (mt same.mpr closed)⟩
    rw [grown]
    exact after.reads (same.mp still)

/-- What does not end a line extends it, and yields no frame. -/
theorem Parser.After.step {parser : Parser} {line : List Input} (after : parser.After line)
    {input : Input} (inside : input.ends = false) :
    (parser.step input).1 = none ∧ (parser.step input).2.After (line ++ [input]) := by
  cases input with
  | push byte => exact after.push (of_decide_eq_false inside)
  | damaged => exact ⟨rfl, parser.after_damaged line⟩
  | sessionChanged pending =>
      exact ⟨rfl, after.sessionChanged (of_decide_eq_false inside)⟩

open Classical in
/-- The frame of a line and its end: an open line that an LF completes is read. -/
noncomputable def frameOf (segment : List Input × Option Input) : Option Frame :=
  if segment.2 = some (.push 0x0A) ∧ Open segment.1 then parseLine (received segment.1) else none

/-- The end of a line yields its frame and a fresh parser. -/
theorem Parser.After.ended {parser : Parser} {line : List Input} (after : parser.After line)
    {input : Input} (ends : input.ends = true) :
    (parser.step input).1 = frameOf (line, some input) ∧ (parser.step input).2 = {} := by
  cases input with
  | push byte =>
      obtain rfl : byte = 0x0A := of_decide_eq_true ends
      refine ⟨?_, ?_⟩
      · by_cases opened : Open line
        · obtain rfl := after.reads opened
          rw [frameOf, if_pos ⟨rfl, opened⟩]
          rfl
        · obtain rfl := after.skips opened
          rw [frameOf, if_neg fun both => opened both.2]
          rfl
      · rfl
  | damaged => cases ends
  | sessionChanged pending =>
      have last : pending.getLast? = some 0x0A := of_decide_eq_true ends
      have some : pending ≠ [] := by
        rintro rfl
        cases last
      refine ⟨(if_neg fun both => nomatch both.1).symm, ?_⟩
      rw [Parser.step, Parser.sessionChanged, if_pos (.inr some), last]
      rfl

/-! ## Tokens -/

theorem not_mem_of_splitOn {separator : UInt8} (line : List UInt8) :
    ∀ token ∈ line.splitOn separator, separator ∉ token := by
  induction line with
  | nil => simp
  | cons byte line ih =>
      rw [List.splitOn_cons_eq_if_modifyHead]
      split
      · exact List.forall_mem_cons.mpr ⟨List.not_mem_nil, ih⟩
      next other =>
        obtain ⟨first, others, same⟩ :=
          List.exists_cons_of_ne_nil (List.splitOn_ne_nil separator line)
        rw [same] at ih ⊢
        obtain ⟨head, tail⟩ := List.forall_mem_cons.mp ih
        refine List.forall_mem_cons.mpr ⟨?_, tail⟩
        rw [List.mem_cons, not_or]
        exact ⟨fun equal => other (beq_iff_eq.mpr equal.symm), head⟩

/-- A token is not empty and holds no space. -/
theorem tokens_plain (command : List UInt8) :
    ∀ token ∈ tokens command, token ≠ [] ∧ 0x20 ∉ token := by
  intro token member
  obtain ⟨piece, some⟩ := List.mem_filter.mp member
  exact ⟨by simpa using some, not_mem_of_splitOn command token piece⟩

theorem tokens_intercalate {words : List (List UInt8)}
    (plain : ∀ word ∈ words, word ≠ [] ∧ 0x20 ∉ word) :
    tokens ([0x20].intercalate words) = words := by
  cases words with
  | nil => rfl
  | cons word words =>
      rw [tokens, List.splitOn_intercalate _ (fun token member => (plain token member).2)
        (List.cons_ne_nil _ _)]
      exact List.filter_eq_self.mpr fun token member => by simpa using (plain token member).1

/-- The canonical command has the tokens of the line. -/
theorem tokens_canonical (rest : List UInt8) :
    tokens ([0x20].intercalate (tokens rest)) = tokens rest :=
  tokens_intercalate (tokens_plain rest)

/-! ## Digits and bytes -/

/-- The digits the source reads are in the two digit tables. -/
theorem hex_table : ∀ n < 256, (hex (.ofNat n)).all fun digit =>
    upperDigits[digit.toNat]? == some (.ofNat n) ||
      lowerDigits[digit.toNat]? == some (.ofNat n) := by
  decide +kernel

theorem hex_digits : ∀ value < 16, ∀ digits ∈ [upperDigits, lowerDigits],
    digits[value]?.bind hex = some (.ofNat value) := by
  decide +kernel

/-- A digit of either table with its value. -/
theorem hex_listed {byte : UInt8} {value : Nat}
    (listed : upperDigits[value]? = some byte ∨ lowerDigits[value]? = some byte) :
    value < 16 ∧ hex byte = some (.ofNat value) := by
  have small : value < 16 := by
    rcases listed with upper | lower
    · exact (List.getElem?_eq_some_iff.mp upper).1
    · exact (List.getElem?_eq_some_iff.mp lower).1
  refine ⟨small, ?_⟩
  have upper := hex_digits value small upperDigits (by simp)
  have lower := hex_digits value small lowerDigits (by simp)
  rcases listed with same | same
  · rwa [same] at upper
  · rwa [same] at lower

theorem listed_of_hex {byte digit : UInt8} (found : hex byte = some digit) :
    upperDigits[digit.toNat]? = some byte ∨ lowerDigits[digit.toNat]? = some byte := by
  have entry := hex_table byte.toNat byte.toNat_lt
  rw [UInt8.ofNat_toNat, found] at entry
  simpa using entry

theorem shift_or {high low : Nat} (highSmall : high < 16) (lowSmall : low < 16) :
    ((UInt8.ofNat high <<< 4) ||| .ofNat low).toNat = 16 * high + low := by
  have all : ∀ high < 16, ∀ low < 16,
      ((UInt8.ofNat high <<< 4) ||| .ofNat low).toNat = 16 * high + low := by decide +kernel
  exact all high highSmall low lowSmall

/-- The source reads one or two digits as their value. -/
theorem hexByte_eq_some {token : List UInt8} {value : UInt8} :
    hexByte token = some value ↔ HexByte token value.toNat := by
  match token with
  | [] =>
      refine ⟨fun found => ?_, fun byte => ?_⟩
      · cases found
      · cases byte
  | [digit] =>
      have read : hexByte [digit] = hex digit := by
        rw [hexByte, if_neg (by simp), List.foldlM_cons]
        cases hex digit with
        | none => rfl
        | some nibble => simp
      rw [read]
      constructor
      · exact fun found => .one (listed_of_hex found)
      · intro byte
        cases byte with
        | one is =>
            rw [(hex_listed is).2, UInt8.ofNat_toNat]
  | [high, low] =>
      have read : hexByte [high, low] = (hex high).bind fun highDigit =>
          (hex low).map fun lowDigit => (highDigit <<< 4) ||| lowDigit := by
        rw [hexByte, if_neg (by simp), List.foldlM_cons]
        cases hex high with
        | none => rfl
        | some highDigit =>
            cases lowIs : hex low with
            | none => simp [lowIs]
            | some lowDigit => simp [lowIs]
      rw [read]
      constructor
      · intro found
        obtain ⟨highDigit, highIs, rest⟩ := Option.bind_eq_some_iff.mp found
        obtain ⟨lowDigit, lowIs, rfl⟩ := Option.map_eq_some_iff.mp rest
        have highListed := listed_of_hex highIs
        have lowListed := listed_of_hex lowIs
        have sum := shift_or (hex_listed highListed).1 (hex_listed lowListed).1
        rw [UInt8.ofNat_toNat, UInt8.ofNat_toNat] at sum
        rw [sum]
        exact .two highListed lowListed
      · intro byte
        generalize valueIs : value.toNat = number at byte
        cases byte with
        | two highIs lowIs =>
            obtain ⟨highSmall, highDigit⟩ := hex_listed highIs
            obtain ⟨lowSmall, lowDigit⟩ := hex_listed lowIs
            rw [highDigit, lowDigit, Option.bind_some, Option.map_some, Option.some.injEq,
              ← UInt8.toNat_inj, shift_or highSmall lowSmall, valueIs]
  | first :: second :: third :: more =>
      refine ⟨fun found => ?_, fun byte => ?_⟩
      · rw [hexByte, if_pos (.inr (by simp))] at found
        cases found
      · cases byte

theorem HexByte.lt {token : List UInt8} {value : Nat} (byte : HexByte token value) :
    value < 256 := by
  cases byte with
  | one is =>
      have := (hex_listed is).1
      omega
  | two highIs lowIs =>
      have := (hex_listed highIs).1
      have := (hex_listed lowIs).1
      omega

theorem HexByte.read {token : List UInt8} {value : Nat} (byte : HexByte token value) :
    hexByte token = some (.ofNat value) := by
  refine hexByte_eq_some.mpr ?_
  rwa [UInt8.toNat_ofNat', Nat.mod_eq_of_lt byte.lt]

/-! ## Legal commands -/

/-- The keys of a `UKEYDOWN` are hexadecimal bytes, six of them at most. -/
theorem validateKeys_iff (count : Nat) (keys : List (List UInt8)) (few : count ≤ 6) :
    validateKeys count keys = none ↔
      count + keys.length ≤ 6 ∧ ∀ key ∈ keys, ∃ value, HexByte key value := by
  induction keys generalizing count with
  | nil => simp [validateKeys, few]
  | cons key keys ih =>
      rw [validateKeys, List.length_cons, List.forall_mem_cons]
      by_cases bad : count + 1 > 6 ∨ hexByte key = none
      · rw [if_pos bad]
        refine ⟨fun impossible => (nomatch impossible), ?_⟩
        rintro ⟨short, ⟨value, byte⟩, -⟩
        rcases bad with many | unread
        · omega
        · rw [byte.read] at unread
          cases unread
      · rw [if_neg bad]
        obtain ⟨room, read⟩ := not_or.mp bad
        obtain ⟨value, read⟩ := Option.ne_none_iff_exists'.mp read
        rw [ih (count + 1) (by omega)]
        constructor
        · rintro ⟨short, others⟩
          exact ⟨by omega, ⟨_, hexByte_eq_some.mp read⟩, others⟩
        · rintro ⟨short, -, others⟩
          exact ⟨by omega, others⟩

/-- The slot of a `USWITCH` or `UPAIR` command. -/
theorem slot_iff (rest : List (List UInt8)) :
    ((rest.head?.bind hexByte).any (· < 4) ∧ rest.tail.isEmpty) ↔
      ∃ token slot, rest = [token] ∧ HexByte token slot ∧ slot < 4 := by
  constructor
  · rintro ⟨small, last⟩
    cases rest with
    | nil => cases small
    | cons token rest =>
        obtain rfl := List.isEmpty_iff.mp last
        rw [List.head?_cons, Option.bind_some] at small
        cases read : hexByte token with
        | none =>
            rw [read] at small
            cases small
        | some slot =>
            rw [read, Option.any_some, decide_eq_true_eq] at small
            exact ⟨token, slot.toNat, rfl, hexByte_eq_some.mp read, UInt8.lt_iff_toNat_lt.mp small⟩
  · rintro ⟨token, slot, rfl, byte, small⟩
    rw [List.head?_cons, Option.bind_some, byte.read, Option.any_some, decide_eq_true_eq,
      UInt8.lt_iff_toNat_lt, UInt8.toNat_ofNat', Nat.mod_eq_of_lt byte.lt]
    exact ⟨small, rfl⟩

/-- The modifier and keys of a `UKEYDOWN` command. -/
theorem keyDown_iff (keys : List (List UInt8)) :
    (if keys.head?.bind hexByte = none then some CommandError.argument
      else validateKeys 0 keys.tail) = none ↔
      keys ≠ [] ∧ keys.length ≤ 7 ∧ ∀ key ∈ keys, ∃ value, HexByte key value := by
  cases keys with
  | nil => simp
  | cons modifier keys =>
      rw [List.head?_cons, Option.bind_some, List.tail_cons, List.forall_mem_cons,
        List.length_cons]
      cases read : hexByte modifier with
      | none =>
          rw [if_pos rfl]
          refine ⟨fun impossible => (nomatch impossible), ?_⟩
          rintro ⟨-, -, ⟨value, byte⟩, -⟩
          rw [byte.read] at read
          cases read
      | some value =>
          rw [if_neg (by simp), validateKeys_iff 0 keys (Nat.zero_le 6)]
          constructor
          · rintro ⟨short, others⟩
            exact ⟨List.cons_ne_nil _ _, by omega, ⟨_, hexByte_eq_some.mp read⟩, others⟩
          · rintro ⟨-, short, -, others⟩
            exact ⟨by omega, others⟩

theorem validateTokens_iff (words : List (List UInt8)) :
    validateTokens words = none ↔ Legal words := by
  cases words with
  | nil =>
      refine ⟨fun impossible => (nomatch impossible), fun legal => ?_⟩
      cases legal
  | cons first rest =>
      constructor
      · intro valid
        rw [validateTokens] at valid
        split at valid
        next ota => exact ota ▸ .ota rest
        · split at valid
          next plain =>
            split at valid
            next last =>
              obtain rfl := List.isEmpty_iff.mp last
              rcases plain with rfl | rfl
              · exact .ver
              · exact .status
            · cases valid
          · split at valid
            next slotted =>
              split at valid
              next good =>
                obtain ⟨token, slot, rfl, byte, small⟩ := (slot_iff rest).mp good
                rcases slotted with rfl | rfl
                · exact .switch byte small
                · exact .pair byte small
              · cases valid
            · split at valid
              next keyDown =>
                subst keyDown
                obtain ⟨some, few, bytes⟩ := (keyDown_iff rest).mp valid
                exact .keyDown some few bytes
              · cases valid
      · intro legal
        cases legal with
        | ver => decide
        | status => decide
        | switch byte small =>
            rw [validateTokens, if_neg (by decide), if_neg (by decide), if_pos (by decide),
              if_pos ((slot_iff _).mpr ⟨_, _, rfl, byte, small⟩)]
        | pair byte small =>
            rw [validateTokens, if_neg (by decide), if_neg (by decide), if_pos (by decide),
              if_pos ((slot_iff _).mpr ⟨_, _, rfl, byte, small⟩)]
        | keyDown some few bytes =>
            rw [validateTokens, if_neg (by decide), if_neg (by decide), if_neg (by decide),
              if_pos rfl]
            exact (keyDown_iff rest).mpr ⟨some, few, bytes⟩
        | ota rest => rfl

/-! ## The number of a line -/

theorem upper_table : ∀ n < 256,
    ((0x30 ≤ UInt8.ofNat n ∧ UInt8.ofNat n ≤ 0x39) ∨
      (0x41 ≤ UInt8.ofNat n ∧ UInt8.ofNat n ≤ 0x46)) ↔ UInt8.ofNat n ∈ upperDigits := by
  decide +kernel

theorem upper_iff (byte : UInt8) :
    ((0x30 ≤ byte ∧ byte ≤ 0x39) ∨ (0x41 ≤ byte ∧ byte ≤ 0x46)) ↔ byte ∈ upperDigits := by
  have entry := upper_table byte.toNat byte.toNat_lt
  rwa [UInt8.ofNat_toNat] at entry

theorem upper_listed {byte : UInt8} (member : byte ∈ upperDigits) :
    upperDigits[upperDigits.idxOf byte]? = some byte := by
  rw [List.getElem?_eq_getElem (List.idxOf_lt_length_of_mem member), List.getElem_idxOf]

/-- One more digit of a number that still fits. -/
theorem number_shift {number : UInt32} {digit : Nat} (small : digit < 16)
    (fits : number.toNat < 2 ^ 28) :
    ((number <<< 4) ||| (UInt8.ofNat digit).toUInt32).toNat = 16 * number.toNat + digit := by
  have shifted : (number <<< 4).toNat = number.toNat <<< 4 := by
    rw [UInt32.toNat_shiftLeft, Nat.shiftLeft_eq, Nat.shiftLeft_eq]
    simp
    omega
  have low : (UInt8.ofNat digit).toUInt32.toNat = digit := by
    rw [UInt8.toNat_toUInt32, UInt8.toNat_ofNat', Nat.mod_eq_of_lt (by omega)]
  rw [UInt32.toNat_or, shifted, low, ← Nat.shiftLeft_add_eq_or_of_lt (by omega), Nat.shiftLeft_eq]
  omega

/-- One digit of `parseNumber`. -/
def numberDigit (number : UInt32) (byte : UInt8) : Option UInt32 :=
  if (0x30 ≤ byte ∧ byte ≤ 0x39) ∨ (0x41 ≤ byte ∧ byte ≤ 0x46) then
    (hex byte).map fun nibble => (number <<< 4) ||| nibble.toUInt32
  else none

/-- The digits behind a number that still fits. -/
theorem numberDigit_foldlM {digits : List UInt8} (number : UInt32)
    (fits : (number.toNat + 1) * 16 ^ digits.length ≤ 2 ^ 32)
    (upper : ∀ digit ∈ digits, digit ∈ upperDigits) :
    ∃ result : UInt32, digits.foldlM numberDigit number = some result ∧
      result.toNat = digits.foldl (fun number digit => 16 * number + upperDigits.idxOf digit)
        number.toNat := by
  induction digits generalizing number with
  | nil => exact ⟨number, rfl, rfl⟩
  | cons digit digits ih =>
      obtain ⟨first, others⟩ := List.forall_mem_cons.mp upper
      obtain ⟨small, read⟩ := hex_listed (.inl (upper_listed first))
      rw [List.length_cons, Nat.pow_succ] at fits
      have positive : 1 ≤ 16 ^ digits.length := Nat.one_le_pow _ _ (by decide)
      have room : (number.toNat + 1) * 16 ≤ 2 ^ 32 :=
        Nat.le_trans (Nat.mul_le_mul_left _ (Nat.le_mul_of_pos_left 16 positive)) fits
      have next := number_shift small (show number.toNat < 2 ^ 28 by omega)
      have nextFits : (16 * number.toNat + upperDigits.idxOf digit + 1) * 16 ^ digits.length ≤
          2 ^ 32 := by
        calc (16 * number.toNat + upperDigits.idxOf digit + 1) * 16 ^ digits.length
            ≤ (number.toNat + 1) * 16 * 16 ^ digits.length :=
              Nat.mul_le_mul_right _ (by omega)
          _ = (number.toNat + 1) * (16 ^ digits.length * 16) := by
              rw [Nat.mul_assoc, Nat.mul_comm 16]
          _ ≤ 2 ^ 32 := fits
      obtain ⟨result, run, value⟩ := ih _ (next.symm ▸ nextFits) others
      refine ⟨result, ?_, ?_⟩
      · rw [List.foldlM_cons, numberDigit, if_pos ((upper_iff digit).mpr first), read]
        exact run
      · rw [value, next, List.foldl_cons]

theorem parseNumber_eq {digits : List UInt8} (eight : digits.length = 8)
    (upper : ∀ digit ∈ digits, digit ∈ upperDigits) :
    ∃ number, parseNumber digits = some number ∧ number.toNat = numberOf digits :=
  numberDigit_foldlM 0 (by rw [eight]; decide) upper

theorem upper_of_foldlM {digits : List UInt8} (number : UInt32) {result : UInt32}
    (parsed : digits.foldlM numberDigit number = some result) :
    ∀ digit ∈ digits, digit ∈ upperDigits := by
  induction digits generalizing number with
  | nil => simp
  | cons digit digits ih =>
      rw [List.foldlM_cons] at parsed
      obtain ⟨next, first, rest⟩ := Option.bind_eq_some_iff.mp parsed
      refine List.forall_mem_cons.mpr ⟨?_, ih next rest⟩
      rw [numberDigit] at first
      split at first
      next is => exact (upper_iff digit).mp is
      · cases first

/-! ## What a completed line means -/

/-- The frame of a line in the form of a numbered command, if its number can be read. -/
theorem parseLine_form {line digits rest : List UInt8}
    (form : stripCr line = 0x40 :: (digits ++ 0x20 :: rest)) (eight : digits.length = 8) :
    parseLine line = (parseNumber digits).map fun number =>
      { number, command := [0x20].intercalate (tokens rest)
        error := if 0x0D ∈ rest then some .argument
          else validate ([0x20].intercalate (tokens rest)) } := by
  have header : ¬((stripCr line).length < 10 ∨ (stripCr line).head? ≠ some 0x40 ∨
      (stripCr line).getD 9 0 ≠ 0x20) := by
    rw [form]
    simp [eight, List.getD_eq_getElem?_getD]
    omega
  have digitsIs : ((stripCr line).drop 1).take 8 = digits := by
    rw [form, List.drop_succ_cons, List.drop_zero, List.take_append_of_le_length (by omega),
      List.take_of_length_le (by omega)]
  have restIs : (stripCr line).drop 10 = rest := by
    rw [form, List.drop_succ_cons, List.drop_append]
    simp [eight, List.drop_eq_nil_of_le]
  unfold parseLine
  simp only [if_neg header, digitsIs, restIs]

/-- A numbered line becomes a frame that means what the line says. -/
theorem parseLine_numbered {line digits rest : List UInt8} (numbered : Numbered line digits rest) :
    ∃ frame, parseLine line = some frame ∧ Means line frame := by
  obtain ⟨form, eight, upper⟩ := numbered
  obtain ⟨number, parsed, value⟩ := parseNumber_eq eight upper
  have framed := parseLine_form form eight
  rw [parsed] at framed
  refine ⟨_, framed, digits, rest, ⟨form, eight, upper⟩, value, rfl, ?_⟩
  change (if 0x0D ∈ rest then _ else _) = none ↔ _
  split
  next hidden => simp [hidden]
  next plain =>
    rw [validate, tokens_canonical, validateTokens_iff]
    exact ⟨fun legal => ⟨plain, legal⟩, And.right⟩

/-- Only a numbered line becomes a frame. -/
theorem numbered_of_parseLine {line : List UInt8} {frame : Frame}
    (parsed : parseLine line = some frame) : ∃ digits rest, Numbered line digits rest := by
  rw [parseLine] at parsed
  dsimp only at parsed
  split at parsed
  · cases parsed
  next header =>
    obtain ⟨number, digits, -⟩ := Option.map_eq_some_iff.mp parsed
    obtain ⟨long, rest⟩ := not_or.mp header
    obtain ⟨first, space⟩ := not_or.mp rest
    generalize stripped : stripCr line = bare at *
    cases bare with
    | nil => simp at long
    | cons byte bare =>
        obtain rfl : byte = 0x40 := by simpa using first
        rw [List.length_cons] at long
        have here : 8 < bare.length := by omega
        have last : bare[8] = 0x20 := by
          simpa [List.getD_eq_getElem?_getD, here] using space
        refine ⟨bare.take 8, bare.drop 9, ?_, ?_, upper_of_foldlM 0 digits⟩
        · rw [← last, ← List.drop_eq_getElem_cons here, List.take_append_drop, stripped]
        · rw [List.length_take]
          omega

/-- The lines that are kept are the open lines that become a frame. -/
theorem kept_iff (line : List Input) :
    Kept line ↔ Open line ∧ ∃ frame, parseLine (received line) = some frame := by
  constructor
  · rintro ⟨whole, short, printable, digits, rest, numbered⟩
    obtain ⟨frame, parsed, -⟩ := parseLine_numbered numbered
    exact ⟨⟨whole, short, printable⟩, frame, parsed⟩
  · rintro ⟨⟨whole, short, printable⟩, frame, parsed⟩
    exact ⟨whole, short, printable, numbered_of_parseLine parsed⟩

/-! ## Runs -/

/-- The segments behind the inputs of an unfinished line. -/
def behind (line : List Input) :
    List (List Input × Option Input) → List (List Input × Option Input)
  | [] => []
  | (first, last) :: others => (line ++ first, last) :: others

theorem segments_ne_nil (inputs : List Input) : segments inputs ≠ [] := by
  induction inputs with
  | nil => exact List.cons_ne_nil _ _
  | cons input rest ih =>
      rw [segments]
      split
      · exact List.cons_ne_nil _ _
      · split
        next none => exact absurd none ih
        · exact List.cons_ne_nil _ _

theorem behind_nil (inputs : List Input) : behind [] (segments inputs) = segments inputs := by
  cases segments inputs with
  | nil => rfl
  | cons first others => rfl

/-- The frames of a run are those of its lines. -/
theorem Parser.After.frames {parser : Parser} {line : List Input} (after : parser.After line)
    (inputs : List Input) :
    parser.frames inputs = (behind line (segments inputs)).filterMap frameOf := by
  induction inputs generalizing parser line with
  | nil =>
      have none : frameOf (line ++ [], none) = none := if_neg fun both => nomatch both.1
      rw [segments, behind, List.filterMap_cons_none none]
      rfl
  | cons input rest ih =>
      rw [Parser.frames, segments]
      cases ends : input.ends with
      | true =>
          obtain ⟨frame, fresh⟩ := after.ended ends
          rw [frame, fresh, ih Parser.after_nil, behind_nil, if_pos rfl, behind, List.append_nil,
            List.filterMap_cons]
          cases frameOf (line, some input) with
          | none => rfl
          | some frame => rfl
      | false =>
          obtain ⟨none, next⟩ := after.step ends
          obtain ⟨⟨first, last⟩, others, same⟩ := List.exists_cons_of_ne_nil (segments_ne_nil rest)
          rw [none, ih next, if_neg Bool.false_ne_true, same]
          simp [behind]

open Classical in
/-- The frames of segments are those of the kept lines among them. -/
theorem frames_kept (segments : List (List Input × Option Input)) :
    List.Forall₂ (fun line frame => Means (received line) frame)
      ((segments.filterMap completedLine).filter fun line => Kept line)
      (segments.filterMap frameOf) := by
  induction segments with
  | nil => exact .nil
  | cons segment segments ih =>
      obtain ⟨line, last⟩ := segment
      by_cases complete : last = some (.push 0x0A)
      · have completed : completedLine (line, last) = some line := if_pos complete
        rw [List.filterMap_cons_some completed]
        by_cases kept : Kept line
        · obtain ⟨opened, frame, parsed⟩ := (kept_iff line).mp kept
          obtain ⟨digits, rest, numbered⟩ := kept.numbered
          obtain ⟨frame', parsed', means⟩ := parseLine_numbered numbered
          obtain rfl := Option.some.inj (parsed.symm.trans parsed')
          have framed : frameOf (line, last) = some frame :=
            (if_pos ⟨complete, opened⟩).trans parsed
          rw [List.filter_cons_of_pos (by simpa using kept), List.filterMap_cons_some framed]
          exact .cons means ih
        · have dropped : frameOf (line, last) = none := by
            rw [frameOf]
            split
            next both =>
              cases parsed : parseLine (received line) with
              | none => rfl
              | some frame => exact absurd ((kept_iff line).mpr ⟨both.2, frame, parsed⟩) kept
            · rfl
          rw [List.filter_cons_of_neg (by simpa using kept), List.filterMap_cons_none dropped]
          exact ih
      · have unfinished : completedLine (line, last) = none := if_neg complete
        have dropped : frameOf (line, last) = none := if_neg fun both => complete both.1
        rw [List.filterMap_cons_none unfinished, List.filterMap_cons_none dropped]
        exact ih

/-- The parser's frames are those of the reference: one for each kept line, in order, with its
number, canonical command and error; and a frame comes only with an LF. -/
theorem frames_eq_reference (inputs : List Input) :
    List.Forall₂ (fun line frame => Means (received line) frame) (keptLines inputs)
        (({} : Parser).frames inputs) ∧
      ∀ (parser : Parser) (input : Input), (parser.step input).1 ≠ none → input = .push 0x0A := by
  constructor
  · rw [Parser.after_nil.frames, behind_nil]
    exact frames_kept (segments inputs)
  · intro parser input some
    cases input with
    | push byte =>
        by_cases ends : byte = 0x0A
        · rw [ends]
        · refine absurd ?_ some
          rw [Parser.step, Parser.push, if_neg ends]
          split
          · rfl
          · split <;> rfl
    | damaged => exact absurd rfl some
    | sessionChanged pending => exact absurd rfl some

end NrfUnifying.UartLink
