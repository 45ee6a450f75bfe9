import DensityGraph.Artifact.Frame
import DensityGraph.Proofs.Json.Size
import DensityGraph.Proofs.Json.Writer
import DensityGraph.Proofs.Result
import DensityGraph.Proofs.Text.Utf8
import Mathlib.Algebra.Group.Nat.Defs

/-!
# Artifacts

A decoded artifact holds a complete document.  The bytes that are taken apart
into a payload are those of its frame, and what has been written as an artifact
is decoded from it.
-/

namespace DensityGraph

variable {α : Type} {decoder : Json.Decoder α} {a : α}

theorem Json.Document.decode_eq_ok {document : Document} :
    document.decode decoder = .ok a ↔ decoder document.value = .ok a ∧ document.complete = true := by
  rw [decode, bind_eq_ok]
  constructor
  · rintro ⟨found, decoded, completed⟩
    split at completed
    · rename_i complete
      obtain rfl := pure_eq_ok.1 completed
      exact ⟨decoded, complete⟩
    · cases completed
  · rintro ⟨decoded, complete⟩
    exact ⟨a, decoded, by rw [if_pos complete]; rfl⟩

namespace Bytes

theorem length_littleEndian (width n : Nat) : (littleEndian width n).length = width := by
  induction width generalizing n with
  | zero => rfl
  | succ width ih => rw [littleEndian, List.length_cons, ih]

theorem toNat_littleEndian {width n : Nat} (fits : n < 256 ^ width) : toNat (littleEndian width n) = n := by
  induction width generalizing n with
  | zero =>
      rw [Nat.pow_zero] at fits
      rw [littleEndian, toNat]
      omega
  | succ width ih =>
      have fitsRest : n / 256 < 256 ^ width := by
        apply Nat.div_lt_of_lt_mul
        rwa [Nat.pow_succ, Nat.mul_comm] at fits
      have lowest : (UInt8.ofNat (n % 256)).toNat = n % 256 := by
        rw [UInt8.toNat_ofNat']
        omega
      rw [littleEndian, toNat, ih fitsRest, lowest]
      exact Nat.mod_add_div n 256

theorem toNat_lt (bytes : Bytes) : toNat bytes < 256 ^ bytes.length := by
  induction bytes with
  | nil => exact Nat.one_pos
  | cons b rest ih =>
      have byte := b.toNat_lt
      rw [toNat, List.length_cons, Nat.pow_succ]
      omega

theorem littleEndian_toNat (bytes : Bytes) : littleEndian bytes.length (toNat bytes) = bytes := by
  induction bytes with
  | nil => rfl
  | cons b rest ih =>
      have byte := b.toNat_lt
      have lowest : (b.toNat + 256 * toNat rest) % 256 = b.toNat := by omega
      have others : (b.toNat + 256 * toNat rest) / 256 = toNat rest := by omega
      rw [List.length_cons, toNat, littleEndian, lowest, others, ih, UInt8.ofNat_toNat]

end Bytes

namespace Artifact

variable {bytes rest held : Bytes} {value : Json}

theorem take_eq_ok {count : Nat} {first : Bytes} :
    take count bytes = .ok (first, rest) ↔ first.length = count ∧ bytes = first ++ rest := by
  unfold take Bytes.split?
  constructor
  · intro taken
    split at taken
    case h_2 => cases taken
    case h_1 split =>
      obtain rfl := Except.ok.inj taken
      split at split
      case isFalse => cases split
      case isTrue enough =>
        obtain ⟨rfl, rfl⟩ := Prod.mk.inj (Option.some.inj split)
        exact ⟨List.length_take_of_le enough, (List.take_append_drop count bytes).symm⟩
  · rintro ⟨rfl, rfl⟩
    simp

theorem takeByte_eq_ok {b : UInt8} : takeByte bytes = .ok (b, rest) ↔ bytes = b :: rest := by
  cases bytes with
  | nil => simp [takeByte]
  | cons first others => simp [takeByte]

theorem length_frame (held : Bytes) : (frame held).length = held.length + overhead := by
  simp only [frame, overhead, List.length_append, List.length_cons, Bytes.length_littleEndian]
  omega

/-- The length of a payload is read from what stands for it in a frame. -/
theorem toNat_size (fits : held.length ≤ maxPayload) : (Bytes.littleEndian 4 held.length).toNat = held.length :=
  Bytes.toNat_littleEndian (Nat.lt_of_le_of_lt fits (by decide))

/-- The bytes that begin with a frame are the frame and what follows it. -/
theorem unframe_eq_ok :
    unframe bytes = .ok (held, rest) ↔ held.length ≤ maxPayload ∧ bytes = frame held ++ rest := by
  simp only [unframe, bind_eq_ok, throw_bind, guard_eq_ok, pure_eq_ok, Prod.exists, takeByte_eq_ok, take_eq_ok]
  constructor
  · rintro ⟨version, _, rfl, current, size, _, ⟨sizeLength, rfl⟩, short, payload, _, ⟨heldLength, rfl⟩, stored, _,
      ⟨storedLength, rfl⟩, matched, same⟩
    obtain ⟨rfl, rfl⟩ := Prod.mk.inj same
    obtain rfl : version = codecVersion := not_not.mp current
    have sizeEq : size = Bytes.littleEndian 4 held.length := by
      rw [heldLength, ← sizeLength, Bytes.littleEndian_toNat]
    have storedFits := Bytes.toNat_lt stored
    rw [storedLength] at storedFits
    have storedEq : stored = Bytes.littleEndian 4 (checksum held).toNat := by
      rw [← not_not.mp matched, UInt32.toNat_ofNat_of_lt' storedFits, ← storedLength, Bytes.littleEndian_toNat]
    refine ⟨by omega, ?_⟩
    simp only [frame, ← sizeEq, ← storedEq, List.cons_append, List.append_assoc]
  · rintro ⟨fits, rfl⟩
    let size := Bytes.littleEndian 4 held.length
    let sum := Bytes.littleEndian 4 (checksum held).toNat
    have sizeRead : Bytes.toNat size = held.length := toNat_size fits
    have sumRead : UInt32.ofNat (Bytes.toNat sum) = checksum held := by
      rw [Bytes.toNat_littleEndian (checksum held).toNat_lt]
      exact UInt32.ofNat_toNat
    have width := Bytes.length_littleEndian 4
    refine ⟨codecVersion, size ++ (held ++ (sum ++ rest)), ?_, by simp, size, held ++ (sum ++ rest), ⟨width _, rfl⟩,
      by omega, held, sum ++ rest, ⟨sizeRead.symm, rfl⟩, sum, rest, ⟨width _, rfl⟩, by simp [sumRead], rfl⟩
    simp only [frame, List.cons_append, List.append_assoc, size, sum]

/-- The frame of a payload that is not too long is taken apart into the payload. -/
theorem unframe_frame (fits : held.length ≤ maxPayload) : unframe (frame held ++ rest) = .ok (held, rest) :=
  unframe_eq_ok.2 ⟨fits, rfl⟩

theorem readHeader_eq_ok : readHeader bytes = .ok rest ↔ bytes = header ++ rest := by
  simp only [readHeader, bind_eq_ok, throw_bind, guard_eq_ok, pure_eq_ok, Prod.exists, takeByte_eq_ok, take_eq_ok]
  constructor
  · rintro ⟨found, _, ⟨_, rfl⟩, isMagic, version, _, rfl, current, rfl⟩
    rw [not_not.mp isMagic, not_not.mp current]
    simp only [header, List.append_assoc, List.cons_append, List.nil_append]
  · rintro rfl
    exact ⟨magic, _, ⟨rfl, List.append_assoc ..⟩, by simp, formatVersion, rest, rfl, by simp, rfl⟩

theorem readHeader_append : readHeader (header ++ rest) = .ok rest :=
  readHeader_eq_ok.2 rfl

theorem exists_value_of_decode (decoded : decode decoder bytes = .ok (a, rest)) : ∃ value, decoder value = .ok a := by
  simp only [decode, bind_eq_ok, mapError_eq_ok, pure_eq_ok, Json.Document.decode_eq_ok] at decoded
  obtain ⟨_, _, found, ⟨valueDecoded, _⟩, same⟩ := decoded
  obtain ⟨rfl, _⟩ := Prod.mk.inj same
  exact ⟨_, valueDecoded⟩

theorem compactSize_eq_length (value : Json) : value.compactSize = (payload value).length := by
  rw [Json.compactSize_eq, payload, Text.length_encode]

theorem encode_eq_ok : encode value = .ok bytes ↔
    (payload value).length ≤ maxPayload ∧ bytes = frame (payload value) := by
  rw [encode, compactSize_eq_length]
  by_cases large : maxPayload < (payload value).length
  · simp [large, Nat.not_le.mpr large]
  · simp [large, Nat.le_of_not_lt large, eq_comm]

theorem readBytes_payload (readable : value.sound Json.Number.readsBack = true) :
    Json.readBytes (payload value) = ⟨value, true⟩ := by
  rw [Json.readBytes, payload, Text.decode_encode]
  exact Json.read_compact readable

/-- What the payload of a value is read as is what its frame is decoded to. -/
theorem decode_frame_of_read (rest : Bytes) (fits : (payload value).length ≤ maxPayload)
    (read : (Json.readBytes (payload value)).decode decoder = .ok a) :
    decode decoder (frame (payload value) ++ rest) = .ok (a, rest) := by
  simp only [decode, bind_eq_ok, mapError_eq_ok, pure_eq_ok]
  exact ⟨_, unframe_frame fits, a, read, rfl⟩

/-- A value that has been put in a frame is decoded from it. -/
theorem decode_frame (rest : Bytes) (readable : value.sound Json.Number.readsBack = true)
    (fits : (payload value).length ≤ maxPayload) (decoded : decoder value = .ok a) :
    decode decoder (frame (payload value) ++ rest) = .ok (a, rest) := by
  apply decode_frame_of_read rest fits
  rw [readBytes_payload readable]
  exact Json.Document.decode_eq_ok.2 ⟨decoded, rfl⟩

end Artifact

end DensityGraph
