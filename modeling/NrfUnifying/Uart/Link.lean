import NrfUnifying.Lib.Bytes

/-!
# Numbered UART lines

The receive task feeds bytes to `Parser`; a complete line becomes a `Frame` with
its request number and a canonical command. A reply carries the number back.
-/

namespace NrfUnifying.UartLink

open Lib.Bytes

def lineLimit : Nat := 256

inductive CommandError where
  | command | argument
  deriving DecidableEq, Repr

structure Frame where
  number : UInt32
  command : List UInt8
  error : Option CommandError
  deriving DecidableEq, Repr

/-- The bytes of the line so far; a line that is discarded ends at the next LF. -/
structure Parser where
  line : List UInt8 := []
  discard : Bool := false
  deriving DecidableEq, Repr

def hex (byte : UInt8) : Option UInt8 :=
  if 0x30 ≤ byte ∧ byte ≤ 0x39 then some (byte - 0x30)
  else if 0x41 ≤ byte ∧ byte ≤ 0x46 then some (byte - 0x41 + 10)
  else if 0x61 ≤ byte ∧ byte ≤ 0x66 then some (byte - 0x61 + 10)
  else none

def hexByte (token : List UInt8) : Option UInt8 :=
  if token.isEmpty ∨ token.length > 2 then none
  else token.foldlM (fun value byte => (hex byte).map fun nibble => (value <<< 4) ||| nibble) 0

/-- The tokens between spaces. -/
def tokens (command : List UInt8) : List (List UInt8) :=
  (command.splitOn 0x20).filter fun token => !token.isEmpty

/-- The keys of a `UKEYDOWN`, `count` of them seen before. -/
def validateKeys : (count : Nat) → (keys : List (List UInt8)) → Option CommandError
  | _, [] => none
  | count, key :: rest =>
      if count + 1 > 6 ∨ hexByte key = none then some .argument else validateKeys (count + 1) rest

/-- The tokens of a command, as the transport accepts them. -/
def validateTokens : List (List UInt8) → Option CommandError
  | [] => some .command
  | first :: rest =>
      -- The update commands are checked where they are handled.
      if first = ascii "OTA" then none
      else if first = ascii "VER" ∨ first = ascii "USTATUS" then
        if rest.isEmpty then none else some .argument
      else if first = ascii "USWITCH" ∨ first = ascii "UPAIR" then
        if (rest.head?.bind hexByte).any (· < 4) ∧ rest.tail.isEmpty then none
        else some .argument
      else if first = ascii "UKEYDOWN" then
        if rest.head?.bind hexByte = none then some .argument else validateKeys 0 rest.tail
      else some .command

def validate (command : List UInt8) : Option CommandError := validateTokens (tokens command)

/-- Eight digits, most significant first; lower case is not a number. -/
def parseNumber (digits : List UInt8) : Option UInt32 :=
  digits.foldlM (fun number byte =>
    if (0x30 ≤ byte ∧ byte ≤ 0x39) ∨ (0x41 ≤ byte ∧ byte ≤ 0x46) then
      (hex byte).map fun nibble => (number <<< 4) ||| nibble.toUInt32
    else none) 0

def stripCr (line : List UInt8) : List UInt8 :=
  if line.getLast? = some 0x0D then line.dropLast else line

def parseLine (line : List UInt8) : Option Frame :=
  let line := stripCr line
  if line.length < 10 ∨ line.head? ≠ some 0x40 ∨ line.getD 9 0 ≠ 0x20 then none
  else
    (parseNumber ((line.drop 1).take 8)).map fun number =>
      let rest := line.drop 10
      let command := [0x20].intercalate (tokens rest)
      { number, command
        error := if 0x0D ∈ rest then some .argument else validate command }

/-- After hardware damage no suffix of the damaged line may become a command. -/
def Parser.damaged (_ : Parser) : Parser := { line := [], discard := true }

/-- Drop what was received, keeping a received LF as a boundary. -/
def Parser.sessionChanged (parser : Parser) (pending : List UInt8) : Parser :=
  if parser.line ≠ [] ∨ pending ≠ [] then
    { line := [], discard := decide (pending.getLast? ≠ some 0x0A) }
  else parser

def Parser.push (parser : Parser) (byte : UInt8) : Option Frame × Parser :=
  if byte = 0x0A then
    (if parser.discard then none else parseLine parser.line, {})
  else if parser.discard then (none, parser)
  else if parser.line.length = lineLimit ∨ ¬(byte = 0x0D ∨ (0x20 ≤ byte ∧ byte ≤ 0x7E)) then
    (none, parser.damaged)
  else (none, { parser with line := parser.line ++ [byte] })

/-- The number of a reply, as its eight digits. -/
def numberDigits (number : UInt32) : List UInt8 :=
  (List.range 8).map fun index =>
    (ascii "0123456789ABCDEF").getD ((number >>> (28 - index * 4).toUInt32) &&& 15).toNat 0

/-- Prefix a reply with its request number; `none` when the buffer is too small. -/
def encodeReply (number : UInt32) (body out : List UInt8) : Option (List UInt8 × Nat) :=
  if out.length < body.length + 10 then none
  else some (0x40 :: numberDigits number ++ 0x20 :: body ++ out.drop (body.length + 10),
    body.length + 10)

theorem encodeReply_isSome (number : UInt32) {body out : List UInt8}
    (room : body.length + 10 ≤ out.length) : (encodeReply number body out).isSome = true := by
  rw [encodeReply, if_neg (Nat.not_lt.mpr room)]
  rfl

theorem parseLine_validated {line : List UInt8} {frame : Frame}
    (parsed : parseLine line = some frame) (sound : frame.error = none) :
    validate frame.command = none := by
  rw [parseLine] at parsed
  dsimp only at parsed
  split at parsed
  · cases parsed
  · obtain ⟨number, -, rfl⟩ := Option.map_eq_some_iff.mp parsed
    dsimp only at sound ⊢
    split at sound
    · cases sound
    · exact sound

/-- A command that is framed without an error passed the transport's checks. -/
theorem Parser.push_validated {parser : Parser} {byte : UInt8} {frame : Frame}
    (pushed : (parser.push byte).1 = some frame) (sound : frame.error = none) :
    validate frame.command = none := by
  rw [Parser.push] at pushed
  split at pushed
  · dsimp only at pushed
    split at pushed
    · cases pushed
    · exact parseLine_validated pushed sound
  · split at pushed
    · cases pushed
    · split at pushed <;> cases pushed

/-- The canonical command keeps the request's number. -/
example : (ascii "@00000001 UKEYDOWN  02 04 \r\n").foldl (fun (frames, parser) byte =>
      let (frame, parser) := Parser.push parser byte
      (frames ++ frame.toList, parser)) ([], {}) =
    ([⟨1, ascii "UKEYDOWN 02 04", none⟩], {}) := by decide +kernel

end NrfUnifying.UartLink
