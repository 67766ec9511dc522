import GatedManager.Http.Form
import GatedManager.Http.Message
import GatedManager.Proofs.Text.Utf8

/-!
# Percent-encoded segments

A text without percent signs stands for itself, every text has a percent-encoding, and no decoding
takes away a byte that is neither a percent sign nor a hexadecimal digit.
-/

namespace GatedManager.Http

variable {b : UInt8} {bytes : List UInt8} {segment : List Char} {name : String}

theorem percentDecode_cons (other : b ≠ 0x25) :
    percentDecode (b :: bytes) = b :: percentDecode bytes := by
  rw [percentDecode]
  exact fun _ _ _ percent => absurd percent other

theorem percentDecode_eq_self (free : 0x25 ∉ bytes) : percentDecode bytes = bytes := by
  induction bytes with
  | nil => rfl
  | cons b bytes ih =>
      rw [List.mem_cons, not_or] at free
      rw [percentDecode_cons (Ne.symm free.1), ih free.2]

theorem mem_percentDecode (plain : b ≠ 0x25) (noDigit : hexByte? b = none) (found : b ∈ bytes) :
    b ∈ percentDecode bytes := by
  fun_induction percentDecode bytes with
  | case1 first second rest high low second_digit first_digit ih =>
      have not_first : b ≠ first := by
        rintro rfl
        simp [noDigit] at first_digit
      have not_second : b ≠ second := by
        rintro rfl
        simp [noDigit] at second_digit
      simp only [List.mem_cons, plain, not_first, not_second, false_or] at found
      exact List.mem_cons_of_mem _ (ih found)
  | case2 first second rest _ ih =>
      exact List.mem_cons_of_mem _ (ih ((List.mem_cons.1 found).resolve_left plain))
  | case3 first rest _ ih =>
      rcases List.mem_cons.1 found with rfl | found
      · exact List.mem_cons_self
      · exact List.mem_cons_of_mem _ (ih found)
  | case4 => exact found

theorem decodeSegment?_eq_some_iff : decodeSegment? segment = some name ↔
    percentDecode (Text.utf8Encode segment) = Text.utf8Encode name.toList := by
  rw [decodeSegment?, Option.map_eq_some_iff, ← Text.utf8Decode?_eq_some_iff]
  constructor
  · rintro ⟨s, decoded, rfl⟩
    rwa [String.toList_ofList]
  · intro decoded
    exact ⟨name.toList, decoded, String.ofList_toList⟩

/-- A text without percent signs stands for itself. -/
theorem decodeSegment?_toList (free : '%' ∉ name.toList) :
    decodeSegment? name.toList = some name := by
  have bytes : 0x25 ∉ Text.utf8Encode name.toList :=
    fun found => free ((Text.mem_utf8Encode_iff (c := '%') (by decide)).1 found)
  rw [decodeSegment?_eq_some_iff, percentDecode_eq_self bytes]

/-- An `&` of a segment stays in the text that it is decoded to. -/
theorem ampersand_mem_of_decodeSegment? (found : '&' ∈ segment)
    (decoded : decodeSegment? segment = some name) : '&' ∈ name.toList := by
  have bytes := (Text.mem_utf8Encode_iff (c := '&') (by decide)).2 found
  rw [← Text.mem_utf8Encode_iff (by decide), ← decodeSegment?_eq_some_iff.1 decoded]
  exact mem_percentDecode (by decide) (by decide) bytes

/-! ### The percent-encoding of a text -/

/-- A hexadecimal digit in upper case. -/
def upperDigit (d : Nat) : Char := (Nat.digitChar d).toUpper

theorem highDigit_lt (b : UInt8) : b.toNat / 16 < 16 := by
  have bound := b.toNat_lt
  omega

theorem lowDigit_lt (b : UInt8) : b.toNat % 16 < 16 := Nat.mod_lt _ (by decide)

theorem upperDigit_lt : ∀ d < 16, (upperDigit d).toNat < 128 := by decide

theorem hexByte?_upperDigit : ∀ d < 16, hexByte? (.ofNat (upperDigit d).toNat) = some d := by decide

theorem percentByte_eq (b : UInt8) :
    percentByte b = ['%', upperDigit (b.toNat / 16), upperDigit (b.toNat % 16)] := by
  by_cases short : b.toNat < 16
  · rw [percentByte, Text.hex, Nat.toDigits_of_lt_base short, Nat.div_eq_of_lt short,
      Nat.mod_eq_of_lt short]
    rfl
  · rw [percentByte, Text.hex, Nat.toDigits_of_base_le (by decide) (not_lt.1 short),
      Nat.toDigits_of_lt_base (highDigit_lt b)]
    rfl

theorem percentDecode_percentByte (b : UInt8) (bytes : List UInt8) :
    percentDecode (Text.utf8Encode (percentByte b) ++ bytes) = b :: percentDecode bytes := by
  have encoded : Text.utf8Encode (percentByte b) = [0x25,
      .ofNat (upperDigit (b.toNat / 16)).toNat, .ofNat (upperDigit (b.toNat % 16)).toNat] := by
    rw [percentByte_eq, Text.utf8Encode, List.flatMap_cons, List.flatMap_cons, List.flatMap_cons,
      Text.utf8EncodeChar_of_lt (upperDigit_lt _ (highDigit_lt b)),
      Text.utf8EncodeChar_of_lt (upperDigit_lt _ (lowDigit_lt b))]
    rfl
  rw [encoded]
  simp only [List.cons_append, List.nil_append, percentDecode,
    hexByte?_upperDigit _ (highDigit_lt b), hexByte?_upperDigit _ (lowDigit_lt b),
    Nat.div_add_mod, UInt8.ofNat_toNat]

/-- A text with the percent form of each of its bytes. -/
def percentEncode (name : String) : List Char :=
  (Text.utf8Encode name.toList).flatMap percentByte

theorem decodeSegment?_percentEncode (name : String) :
    decodeSegment? (percentEncode name) = some name := by
  rw [decodeSegment?_eq_some_iff, percentEncode]
  induction Text.utf8Encode name.toList with
  | nil => rfl
  | cons b bytes ih =>
      rw [List.flatMap_cons, Text.utf8Encode, List.flatMap_append]
      exact (percentDecode_percentByte b _).trans (congrArg _ ih)

theorem percentEncode_ne_nil (some_name : name ≠ "") : percentEncode name ≠ [] := by
  intro empty
  have decoded := decodeSegment?_percentEncode name
  rw [empty] at decoded
  exact some_name (Option.some.inj decoded).symm

theorem slash_notMem_percentEncode : '/' ∉ percentEncode name := by
  have digit : ∀ d < 16, '/' ≠ upperDigit d := by decide
  intro found
  obtain ⟨b, -, found⟩ := List.mem_flatMap.1 found
  simp [percentByte_eq, digit _ (highDigit_lt b), digit _ (lowDigit_lt b)] at found

end GatedManager.Http
