import Rendezvous.Proofs.Text.Decoding

/-!
Encoding text and decoding it again.

The bytes of a character take a decoder that is between characters to the next
such place, with this character read, so encoded text is decoded without loss.
-/

set_option autoImplicit false

namespace Rendezvous

theorem ByteArray.toList_eq (bytes : ByteArray) : bytes.toList = bytes.data.toList := by
  have loop (index : Nat) (before : List UInt8) : ByteArray.toList.loop bytes index before =
      before.reverse ++ bytes.data.toList.drop index := by
    fun_induction ByteArray.toList.loop bytes index before with
    | case1 index before inside inductionHypothesis =>
        have within : index < bytes.data.toList.length := inside
        have same : bytes.get! index = bytes.data.toList[index] :=
          getElem!_pos bytes.data index inside
        rw [inductionHypothesis, List.drop_eq_getElem_cons within, same]
        simp
    | case2 index before outside =>
        have beyond : bytes.data.toList.length ≤ index := Nat.le_of_not_lt outside
        rw [List.drop_eq_nil_of_le beyond, List.append_nil]
  exact loop 0 []

namespace Utf8

theorem encode_eq (text : String) : encode text = text.toList.flatMap String.utf8EncodeChar := by
  rw [encode, ByteArray.toList_eq, String.toUTF8_eq_toByteArray, ← String.ofList_toList (s := text),
    String.toByteArray_ofList, List.utf8Encode, List.toList_data_toByteArray, String.toList_ofList]

theorem encode_append (first second : String) :
    encode (first ++ second) = encode first ++ encode second := by
  rw [encode_eq, encode_eq, encode_eq, String.toList_append, List.flatMap_append]

namespace Decoder

variable {decoder : Decoder} {byte : UInt8}

/-- Between characters, with one more character read and no flaw. -/
structure Got (decoder : Decoder) (char : Char) (after : Decoder) : Prop where
  chars : after.chars = decoder.chars.push char
  flaws : after.flaws = decoder.flaws
  owed : after.owed = 0

theorem begin_one (ascii : byte.toNat < 0x80) :
    decoder.begin byte = decoder.emit (Char.ofNat byte.toNat) :=
  if_pos ascii

theorem begin_two (lead : 0xC2 ≤ byte.toNat) (below : byte.toNat < 0xE0) :
    decoder.begin byte = decoder.await 1 0x80 0xBF (byte.toNat - 0xC0) := by
  unfold begin
  grind

theorem begin_three (lead : 0xE0 ≤ byte.toNat) (below : byte.toNat < 0xF0) :
    decoder.begin byte = decoder.await 2 (if byte.toNat = 0xE0 then 0xA0 else 0x80)
      (if byte.toNat = 0xED then 0x9F else 0xBF) (byte.toNat - 0xE0) := by
  unfold begin
  grind

theorem begin_four (lead : 0xF0 ≤ byte.toNat) (below : byte.toNat < 0xF5) :
    decoder.begin byte = decoder.await 3 (if byte.toNat = 0xF0 then 0x90 else 0x80)
      (if byte.toNat = 0xF4 then 0x8F else 0xBF) (byte.toNat - 0xF0) := by
  unfold begin
  grind

/-- A byte in the middle of a character. -/
theorem step_await_more {owed low high value : Nat} (above : low ≤ byte.toNat)
    (below : byte.toNat ≤ high) :
    (decoder.await (owed + 2) low high value).step byte =
      decoder.await (owed + 1) 0x80 0xBF (value * 64 + byte.toNat % 64) := by
  simp [step, await, above, below]

/-- The last byte of a character. -/
theorem step_await_last {low high value : Nat} (above : low ≤ byte.toNat)
    (below : byte.toNat ≤ high) :
    (decoder.await 1 low high value).step byte =
      (decoder.await 1 low high value).emit (Char.ofNat (value * 64 + byte.toNat % 64)) := by
  simp [step, await, above, below]

/-- The bytes of a character are read as this character. -/
theorem got_encodeChar (between : decoder.owed = 0) (char : Char) :
    Got decoder char ((String.utf8EncodeChar char).foldl step decoder) := by
  have begun (byte : UInt8) : decoder.step byte = decoder.begin byte := by
    rw [step, if_pos between]
  have code (number : Nat) (small : number < 256) : (UInt8.ofNat number).toNat = number :=
    UInt8.toNat_ofNat_of_lt' small
  have same : Char.ofNat char.val.toNat = char := Char.ofNat_toNat char
  -- in each case the bits that the bytes carry are those of the code point
  fun_cases String.utf8EncodeChar char with
  | case1 value one =>
      change value ≤ 0x7F at one
      have first := code value (by omega)
      rw [List.foldl_cons, List.foldl_nil, begun, begin_one (by omega), first, same]
      exact ⟨rfl, rfl, rfl⟩
  | case2 value _ two =>
      change value ≤ 0x7FF at two
      have first := code (value / 64 % 32 + 192) (by omega)
      have last := code (value % 64 + 128) (by omega)
      have whole : (value / 64 % 32 + 192 - 0xC0) * 64 + (value % 64 + 128) % 64 = value := by
        omega
      rw [List.foldl_cons, List.foldl_cons, List.foldl_nil, begun,
        begin_two (by omega) (by omega), step_await_last (by omega) (by omega), first, last,
        whole, same]
      exact ⟨rfl, rfl, rfl⟩
  | case3 value _ _ three =>
      change value ≤ 0xFFFF at three
      have valid : value < 0xD800 ∨ 0xDFFF < value ∧ value < 0x110000 := char.valid
      have first := code (value / 4096 % 16 + 224) (by omega)
      have second := code (value / 64 % 64 + 128) (by omega)
      have last := code (value % 64 + 128) (by omega)
      have whole : ((value / 4096 % 16 + 224 - 0xE0) * 64 + (value / 64 % 64 + 128) % 64) * 64 +
          (value % 64 + 128) % 64 = value := by
        omega
      rw [List.foldl_cons, List.foldl_cons, List.foldl_cons, List.foldl_nil, begun,
        begin_three (by omega) (by omega), step_await_more (by grind) (by grind),
        step_await_last (by omega) (by omega), first, second, last, whole, same]
      exact ⟨rfl, rfl, rfl⟩
  | case4 value _ _ four =>
      change ¬ value ≤ 0xFFFF at four
      have valid : value < 0xD800 ∨ 0xDFFF < value ∧ value < 0x110000 := char.valid
      have first := code (value / 262144 % 8 + 240) (by omega)
      have second := code (value / 4096 % 64 + 128) (by omega)
      have third := code (value / 64 % 64 + 128) (by omega)
      have last := code (value % 64 + 128) (by omega)
      have whole : (((value / 262144 % 8 + 240 - 0xF0) * 64 + (value / 4096 % 64 + 128) % 64) * 64 +
          (value / 64 % 64 + 128) % 64) * 64 + (value % 64 + 128) % 64 = value := by
        omega
      rw [List.foldl_cons, List.foldl_cons, List.foldl_cons, List.foldl_cons, List.foldl_nil,
        begun, begin_four (by omega) (by omega), step_await_more (by grind) (by grind),
        step_await_more (by omega) (by omega), step_await_last (by omega) (by omega), first,
        second, third, last, whole, same]
      exact ⟨rfl, rfl, rfl⟩

theorem foldl_step_encode (between : decoder.owed = 0) (chars : List Char) :
    let after := (chars.flatMap String.utf8EncodeChar).foldl step decoder
    after.chars = decoder.chars ++ chars.toArray ∧ after.flaws = decoder.flaws ∧
      after.owed = 0 := by
  induction chars generalizing decoder with
  | nil => exact ⟨(Array.append_empty).symm, rfl, between⟩
  | cons char chars inductionHypothesis =>
      have first := got_encodeChar between char
      obtain ⟨read, flaws, owed⟩ := inductionHypothesis first.owed
      rw [List.flatMap_cons, List.foldl_append]
      refine ⟨?_, flaws.trans first.flaws, owed⟩
      rw [read, first.chars, Array.push_eq_append, Array.append_assoc]
      simp

end Decoder

theorem run_encode (text : String) :
    (Decoder.run (encode text)).chars = text.toList.toArray ∧
      (Decoder.run (encode text)).flaws = 0 := by
  have begun : Decoder.start.owed = 0 := rfl
  obtain ⟨read, flaws, owed⟩ := Decoder.foldl_step_encode begun text.toList
  rw [Decoder.run, encode_eq, Decoder.finish, if_pos owed]
  exact ⟨read.trans Array.empty_append, flaws⟩

theorem charsOf_encode (text : String) : charsOf (encode text) = text.toList := by
  rw [charsOf, (run_encode text).1]

theorem decode?_encode (text : String) : decode? (encode text) = some text := by
  obtain ⟨read, flaws⟩ := run_encode text
  simp [decode?, read, flaws]

theorem decodeLossy_encode (text : String) : decodeLossy (encode text) = text := by
  rw [decodeLossy_eq, charsOf_encode, String.ofList_toList]

/-- An ASCII byte is the encoding of its character only. -/
theorem not_mem_encode {text : String} {byte : UInt8} (ascii : byte.toNat < 0x80)
    (absent : Char.ofNat byte.toNat ∉ text.toList) : byte ∉ encode text := by
  intro membership
  obtain ⟨first, second, same⟩ := List.append_of_mem membership
  have read := charsOf_append_ascii first second ascii
  rw [← same, charsOf_encode] at read
  exact absent (read ▸ by simp)

end Utf8

end Rendezvous
