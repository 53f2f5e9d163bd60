import NrfUnifying.Radio.Replies
import NrfUnifying.Radio.WriteNumber

/-!
# No reply looks like the start of another

A numbered line starts with an at sign. No reply to a command contains one, so
the sign always tells a peer where a reply starts.
-/

namespace NrfUnifying.Radio

open Lib.Bytes Lib.Numerals Storage

/-- No at sign occurs in the text. -/
def Unmarked (text : List UInt8) : Prop := 0x40 ∉ text

instance (text : List UInt8) : Decidable (Unmarked text) :=
  inferInstanceAs (Decidable (0x40 ∉ text))

theorem Unmarked.append {first second : List UInt8} (front : Unmarked first)
    (back : Unmarked second) : Unmarked (first ++ second) := by
  intro member
  rcases List.mem_append.mp member with inside | inside
  · exact front inside
  · exact back inside

theorem Unmarked.decimal (value : Nat) : Unmarked (decimal value) := by
  intro member
  have high : (0x40 : UInt8).toNat ≤ 0x39 := ((decimal_isNumeral value).digits _ member).2
  exact absurd high (by decide)

theorem Unmarked.numeral (value : UInt32) : Unmarked (numeral value) := by
  rw [numeral_eq]
  exact .decimal _

theorem Unmarked.hexDigits (bytes : List UInt8) : Unmarked (bytes.flatMap hexDigits) := by
  have digit (nibble : UInt8) : hexDigit nibble ≠ 0x40 := by
    have all : Unmarked (ascii "0123456789ABCDEF") := by decide
    rw [hexDigit, List.getD_eq_getElem?_getD]
    cases found : (ascii "0123456789ABCDEF")[nibble.toNat]? with
    | none => decide
    | some digit => exact fun same => all (same ▸ List.mem_of_getElem? found)
  intro member
  obtain ⟨byte, -, inside⟩ := List.mem_flatMap.mp member
  rcases List.mem_cons.mp inside with same | inside
  · exact digit _ same.symm
  · exact digit _ (List.mem_singleton.mp inside).symm

/-! ## The formatted lines -/

theorem unmarked_flag (flag : Bool) : Unmarked (if flag then ascii "1" else ascii "0") := by
  cases flag <;> decide

theorem Accepted.unmarked {buildTime : Nat} {text : List UInt8}
    (accepted : Accepted buildTime text) : Unmarked text := by
  have fixed : ∀ text ∈ fixedTexts, Unmarked text := by decide +kernel
  have crlf : Unmarked (ascii "\r\n") := by decide
  cases accepted with
  | fixed listed => exact fixed text listed
  | version => exact .append (.append (by decide) (.decimal _)) crlf
  | typed ok total =>
      exact .append (.append (.append (.append (by decide) (.numeral ok)) (by decide))
        (.numeral total)) crlf
  | paired address channel =>
      exact .append (.append (.append (.append (by decide) (.hexDigits _)) (by decide))
        (.numeral _)) crlf
  | connected channel => exact .append (.append (by decide) (.numeral _)) crlf
  | status state =>
      have slot : Unmarked (ascii "STATUS SLOT=" ++ numeral state.activeSlot.toUInt32) :=
        .append (by decide) (.numeral _)
      have paired : Unmarked (ascii " PAIRED=") := by decide
      have connected : Unmarked (ascii " CONN=") := by decide
      have channel : Unmarked (ascii " CH=") := by decide
      have counter : Unmarked (ascii " CNT=") := by decide
      exact ((((((((slot.append paired).append (unmarked_flag _)).append connected).append
        (unmarked_flag _)).append channel).append (.numeral _)).append counter).append
          (.numeral _)).append crlf
  | switched slot connected =>
      refine .append (.append (.append (by decide) (.numeral _)) ?_) crlf
      cases connected <;> decide
  | switchedEmpty slot =>
      exact .append (.append (.append (by decide) (.numeral _)) (by decide)) crlf

theorem unmarked_radiotest (encoding : UInt8) (acks : UInt32) :
    Unmarked (radiotestLine encoding acks) := by
  refine .append (.append (.append (.append ?_ (.numeral _)) ?_) (.numeral _)) ?_
  all_goals decide

/-! ## The replies -/

theorem ReplySink.write_unmarked {sink : ReplySink} {data : List UInt8}
    (start : Unmarked sink.bytes) (unmarked : Unmarked data) :
    Unmarked (sink.write data).bytes := by
  unfold ReplySink.write
  dsimp only
  split
  · exact start
  · exact start.append unmarked

theorem ReplySink.writes_unmarked {bodies : List (List UInt8)} {sink : ReplySink}
    (start : Unmarked sink.bytes) (unmarked : ∀ body ∈ bodies, Unmarked body) :
    Unmarked (bodies.foldl ReplySink.write sink).bytes := by
  induction bodies generalizing sink with
  | nil => exact start
  | cons body rest ih =>
      obtain ⟨first, others⟩ := List.forall_mem_cons.mp unmarked
      exact ih (ReplySink.write_unmarked start first) others

theorem Answers.unmarked {buildTime : Nat} {line : List UInt8} {bodies : List (List UInt8)}
    (answers : Answers buildTime line bodies) : ∀ body ∈ bodies, Unmarked body := by
  have refused : ∀ text ∈ refusals, Unmarked text := by decide
  cases answers with
  | nothing => simp
  | one _ _ text =>
      rw [List.forall_mem_singleton]
      cases text with
      | refused listed => exact refused _ listed
      | accepted accepted => exact accepted.unmarked
  | noRadio =>
      rw [List.forall_mem_singleton]
      decide
  | @tested acks whole =>
      intro body member
      rcases List.mem_append.mp member with line | done
      · obtain ⟨i, inside, rfl⟩ := List.mem_iff_getElem.mp line
        rw [List.getElem_zipWith]
        exact unmarked_radiotest _ _
      · rw [List.mem_singleton.mp done]
        decide

/-- No command puts an at sign in its reply. -/
theorem handleUnifyingCommand_unmarked {W : Type} [Board W] [RustUnifying W]
    {handler after : Handler W} {line : List UInt8} {buildTime : Nat}
    (done : handleUnifyingCommand buildTime handler line = some after)
    (start : Unmarked handler.sink.bytes) : Unmarked after.sink.bytes := by
  obtain ⟨same, bodies, handled, answers, sink⟩ :=
    handleUnifyingCommand_writes handler line buildTime
  obtain rfl : same = after := Option.some.inj (handled.symm.trans done)
  rw [sink]
  exact ReplySink.writes_unmarked start answers.unmarked

end NrfUnifying.Radio
