import DensityGraph.Text
import DensityGraph.Bytes

/-!
# Text that comes back from its bytes

Characters are read one by one at the places where they have been written.
-/

namespace DensityGraph.Text

theorem encode_append (early late : List Char) : encode (early ++ late) = encode early ++ encode late :=
  List.flatMap_append

theorem length_encode (text : String) : (encode text.toList).length = text.utf8ByteSize := by
  have bytes : (encode text.toList).toByteArray = text.toByteArray := String.utf8Encode_toList
  rw [← List.size_toByteArray, bytes]
  rfl

/-- Offsets count the bytes of the characters in front of them. -/
theorem byteLength_eq_length (text : List Char) : byteLength text = (encode text).length := by
  have folded (n : Nat) : text.foldl (fun n c => n + c.utf8Size) n = n + (encode text).length := by
    induction text generalizing n with
    | nil => rfl
    | cons c rest ih =>
        rw [List.foldl_cons, ih]
        simp [encode, Nat.add_assoc]
  rw [byteLength, folded, Nat.zero_add]

theorem byteLength_append (early late : List Char) :
    byteLength (early ++ late) = byteLength early + byteLength late := by
  simp only [byteLength_eq_length, encode_append, List.length_append]

theorem byteLength_cons (c : Char) (text : List Char) : byteLength (c :: text) = c.utf8Size + byteLength text := by
  rw [← List.singleton_append, byteLength_append]
  simp [byteLength]

theorem byteLength_toList (text : String) : byteLength text.toList = text.utf8ByteSize := by
  rw [byteLength_eq_length, length_encode]

theorem size_mk (bytes : Bytes) : (ByteArray.mk bytes.toArray).size = bytes.length :=
  List.size_toArray

theorem extract_append (early late : Bytes) :
    (ByteArray.mk (early ++ late).toArray).extract early.length (early ++ late).length = late.toByteArray := by
  apply ByteArray.ext
  simp [ByteArray.data_extract]

/-- Where a character has been written it is read. -/
theorem utf8DecodeChar?_encode (early late : List Char) (c : Char) :
    (ByteArray.mk (encode (early ++ c :: late)).toArray).utf8DecodeChar? (encode early).length = some c := by
  have parts : encode (early ++ c :: late) = encode early ++ (String.utf8EncodeChar c ++ encode late) := by
    simp [encode]
  rw [ByteArray.utf8DecodeChar?_eq_utf8DecodeChar?_extract, size_mk, parts, extract_append,
    List.toByteArray_append]
  exact ByteArray.utf8DecodeChar?_utf8EncodeChar_append

theorem decodeFrom_encode (early late before : List Char) :
    decodeFrom ⟨(encode (early ++ late)).toArray⟩ (encode early).length before = (before.reverse ++ late, true) := by
  induction late generalizing early before with
  | nil =>
      rw [decodeFrom, List.append_nil, if_neg]
      · rw [List.append_nil]
      · exact Nat.lt_irrefl _
  | cons c rest ih =>
      have length : (encode (early ++ [c])).length = (encode early).length + c.utf8Size := by
        simp [encode]
      have inside : (encode early).length < (ByteArray.mk (encode (early ++ c :: rest)).toArray).size := by
        have positive := c.utf8Size_pos
        rw [size_mk, List.append_cons, encode_append, List.length_append, length]
        omega
      rw [decodeFrom, if_pos inside, utf8DecodeChar?_encode]
      dsimp only
      rw [← length, List.append_cons, ih]
      simp

/-- Bytes that spell a text are decoded as that text, to the end. -/
theorem decode_encode (text : List Char) : decode (encode text) = (text, true) :=
  decodeFrom_encode [] text []

end DensityGraph.Text
