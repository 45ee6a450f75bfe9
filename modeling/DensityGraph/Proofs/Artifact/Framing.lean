import DensityGraph.Proofs.Artifact

/-!
# Frames and other bytes

No bytes begin with two frames.  Bytes that begin with none are of four kinds: they
end before a frame does, or they have the layout of a frame up to a version, a
length or a checksum that no frame has there.  The first kind is reported as an end
that comes too soon, the others as invalid data.
-/

namespace DensityGraph.Artifact

/-- How the reader of a frame reports what is wrong. -/
inductive FaultKind where
  | unexpectedEnd
  | invalidData
  deriving DecidableEq, Repr

def faultKind : FrameFault → FaultKind
  | .shortRead => .unexpectedEnd
  | _ => .invalidData

/-- A frame of a payload whose checksum is yet to be compared. -/
def layout (held sum : Bytes) : Bytes := codecVersion :: Bytes.littleEndian 4 held.length ++ held ++ sum

/-- Bytes that end before a frame does. -/
def Unfinished (bytes : Bytes) : Prop :=
  ∃ missing held sum, missing ≠ [] ∧ held.length ≤ maxPayload ∧ sum.length = 4 ∧ bytes ++ missing = layout held sum

/-- Bytes that begin with no frame, and what is wrong with them. -/
inductive Rejected : Bytes → FrameFault → Prop where
  | unfinished (ends : Unfinished bytes) : Rejected bytes .shortRead
  | version {found : UInt8} {rest : Bytes} (unknown : found ≠ codecVersion) :
      Rejected (found :: rest) (.codecVersion codecVersion found)
  | tooLong {size rest : Bytes} (width : size.length = 4) (long : maxPayload < size.toNat) :
      Rejected (codecVersion :: size ++ rest) (.tooLong size.toNat maxPayload)
  | checksum {held sum rest : Bytes} (fits : held.length ≤ maxPayload) (width : sum.length = 4)
      (differs : UInt32.ofNat sum.toNat ≠ checksum held) :
      Rejected (layout held sum ++ rest) (.checksum (UInt32.ofNat sum.toNat) (Artifact.checksum held))

variable {bytes rest missing held sum : Bytes} {fault : FrameFault}

theorem frame_eq_layout (held : Bytes) : frame held = layout held (Bytes.littleEndian 4 (checksum held).toNat) :=
  rfl

/-- The checksum of a frame is the only one that is right. -/
theorem layout_eq_frame (width : sum.length = 4) (same : UInt32.ofNat sum.toNat = checksum held) :
    layout held sum = frame held := by
  have small := Bytes.toNat_lt sum
  rw [width] at small
  rw [frame_eq_layout, ← same, UInt32.toNat_ofNat_of_lt' small, ← width, Bytes.littleEndian_toNat]

theorem frame_injective : Function.Injective frame := by
  intro held other same
  have sameLength : held.length = other.length := by
    have lengths := congrArg List.length same
    rw [length_frame, length_frame] at lengths
    omega
  simp only [frame, ← sameLength, List.cons_append, List.cons.injEq, true_and, List.append_assoc] at same
  obtain ⟨_, same⟩ := List.append_inj same rfl
  exact (List.append_inj same sameLength).1

theorem take_append {count : Nat} {first : Bytes} (width : first.length = count) :
    take count (first ++ rest) = .ok (first, rest) :=
  take_eq_ok.2 ⟨width, rfl⟩

theorem take_of_short {count : Nat} (short : bytes.length < count) : take count bytes = .error .shortRead := by
  rw [take, Bytes.split?, if_neg (Nat.not_le.mpr short)]

/-- What is short of `first ++ others` is short of `first`, or it goes on behind it. -/
theorem short_or_append {first others : Bytes} (continued : bytes ++ missing = first ++ others) :
    bytes.length < first.length ∨ ∃ more, bytes = first ++ more ∧ more ++ missing = others := by
  rcases Nat.lt_or_ge bytes.length first.length with short | enough
  · exact .inl short
  · obtain ⟨more, rfl⟩ := List.prefix_of_prefix_length_le (List.prefix_append first others)
      (continued ▸ List.prefix_append bytes missing) enough
    rw [List.append_assoc] at continued
    exact .inr ⟨more, rfl, List.append_cancel_left continued⟩

theorem Unfinished.unframe_eq (ends : Unfinished bytes) : unframe bytes = .error .shortRead := by
  obtain ⟨missing, held, sum, nonempty, fits, width, continued⟩ := ends
  simp only [layout, List.cons_append, List.append_assoc] at continued
  have sizeWidth := Bytes.length_littleEndian 4 held.length
  cases bytes with
  | nil => rfl
  | cons version bytes =>
      rw [List.cons_append, List.cons.injEq] at continued
      obtain ⟨rfl, fromSize⟩ := continued
      simp only [unframe, takeByte, ok_bind, ne_eq, not_true, if_false]
      obtain short | ⟨afterSize, rfl, fromHeld⟩ := short_or_append fromSize
      · rw [take_of_short (sizeWidth ▸ short)]
        rfl
      rw [take_append sizeWidth, ok_bind]
      dsimp only
      rw [toNat_size fits, if_neg (Nat.not_lt.mpr fits)]
      obtain short | ⟨afterHeld, rfl, fromSum⟩ := short_or_append fromHeld
      · rw [take_of_short short]
        rfl
      rw [take_append rfl, ok_bind]
      dsimp only
      have short : afterHeld.length < 4 := by
        have some := List.length_pos_iff.mpr nonempty
        rw [← width, ← fromSum, List.length_append]
        omega
      rw [take_of_short short]
      rfl

theorem Rejected.unframe_eq (rejected : Rejected bytes fault) : unframe bytes = .error fault := by
  cases rejected with
  | unfinished ends => exact ends.unframe_eq
  | version unknown => simp only [unframe, takeByte, ok_bind, if_pos unknown, throw_bind]
  | tooLong width long =>
      simp only [unframe, takeByte, ok_bind, List.cons_append, take_append width, if_pos long, throw_bind, ne_eq,
        not_true, if_false]
  | @checksum held _ _ fits width differs =>
      simp only [unframe, layout, takeByte, ok_bind, List.cons_append, List.append_assoc,
        take_append (Bytes.length_littleEndian 4 held.length), toNat_size fits, if_neg (Nat.not_lt.mpr fits),
        take_append rfl, take_append width, if_pos differs, throw_bind, ne_eq, not_true, if_false]

theorem toNat_zeros (count : Nat) : Bytes.toNat (List.replicate count 0) = 0 := by
  induction count with
  | zero => rfl
  | succ count ih => simp [List.replicate_succ, Bytes.toNat, ih]

theorem toNat_append_zeros (bytes : Bytes) (count : Nat) :
    Bytes.toNat (bytes ++ List.replicate count 0) = bytes.toNat := by
  induction bytes with
  | nil => exact toNat_zeros count
  | cons b rest ih => rw [List.cons_append, Bytes.toNat, Bytes.toNat, ih]

/-- Bytes that are too few can be filled up. -/
theorem exists_filled {width : Nat} (short : bytes.length < width) :
    ∃ missing, missing ≠ [] ∧ (bytes ++ missing).length = width ∧ Bytes.toNat (bytes ++ missing) = bytes.toNat := by
  have nonempty : width - bytes.length ≠ 0 := by omega
  refine ⟨List.replicate (width - bytes.length) 0, by simpa using nonempty, ?_, toNat_append_zeros ..⟩
  rw [List.length_append, List.length_replicate]
  omega

theorem exists_append {width : Nat} (enough : width ≤ bytes.length) :
    ∃ first rest, first.length = width ∧ bytes = first ++ rest :=
  ⟨_, _, List.length_take_of_le enough, (List.take_append_drop width bytes).symm⟩

theorem unfinished_of_size (short : bytes.length < 4) : Unfinished (codecVersion :: bytes) := by
  obtain ⟨missing, nonempty, width, sameNumber⟩ := exists_filled short
  -- three bytes spell no number beyond the limit
  have small : bytes.toNat < 256 ^ 3 :=
    Nat.lt_of_lt_of_le (Bytes.toNat_lt bytes) (Nat.pow_le_pow_right (by decide) (by omega))
  refine ⟨missing ++ (List.replicate bytes.toNat 0 ++ List.replicate 4 0), List.replicate bytes.toNat 0,
    List.replicate 4 0, by simp [nonempty], ?_, rfl, ?_⟩
  · rw [List.length_replicate, maxPayload]
    omega
  · rw [layout, List.length_replicate, ← sameNumber, ← width, Bytes.littleEndian_toNat]
    simp only [List.cons_append, List.append_assoc]

theorem unfinished_of_payload {size : Bytes} (width : size.length = 4) (fits : size.toNat ≤ maxPayload)
    (short : bytes.length < size.toNat) : Unfinished (codecVersion :: (size ++ bytes)) := by
  obtain ⟨missing, nonempty, filled, _⟩ := exists_filled short
  refine ⟨missing ++ List.replicate 4 0, bytes ++ missing, List.replicate 4 0, by simp [nonempty], filled ▸ fits,
    rfl, ?_⟩
  rw [layout, filled, ← width, Bytes.littleEndian_toNat]
  simp only [List.cons_append, List.append_assoc]

theorem unfinished_of_sum {size : Bytes} (width : size.length = 4) (fits : size.toNat ≤ maxPayload)
    (whole : held.length = size.toNat) (short : bytes.length < 4) :
    Unfinished (codecVersion :: (size ++ (held ++ bytes))) := by
  obtain ⟨missing, nonempty, filled, _⟩ := exists_filled short
  refine ⟨missing, held, bytes ++ missing, nonempty, whole ▸ fits, filled, ?_⟩
  rw [layout, whole, ← width, Bytes.littleEndian_toNat]
  simp only [List.cons_append, List.append_assoc]

/-- Bytes begin with a frame, or they are rejected. -/
theorem framed_or_rejected (bytes : Bytes) :
    (∃ held rest, held.length ≤ maxPayload ∧ bytes = frame held ++ rest) ∨ ∃ fault, Rejected bytes fault := by
  cases bytes with
  | nil => exact .inr ⟨_, .unfinished ⟨layout [] [0, 0, 0, 0], [], [0, 0, 0, 0], List.cons_ne_nil _ _, Nat.zero_le _,
      rfl, rfl⟩⟩
  | cons version bytes =>
      by_cases known : version = codecVersion
      case neg => exact .inr ⟨_, .version known⟩
      subst known
      rcases Nat.lt_or_ge bytes.length 4 with short | enough
      · exact .inr ⟨_, .unfinished (unfinished_of_size short)⟩
      obtain ⟨size, bytes, width, rfl⟩ := exists_append enough
      rcases Nat.lt_or_ge maxPayload size.toNat with long | fits
      · exact .inr ⟨_, .tooLong width long⟩
      rcases Nat.lt_or_ge bytes.length size.toNat with short | enough
      · exact .inr ⟨_, .unfinished (unfinished_of_payload width fits short)⟩
      obtain ⟨held, bytes, whole, rfl⟩ := exists_append enough
      rcases Nat.lt_or_ge bytes.length 4 with short | enough
      · exact .inr ⟨_, .unfinished (unfinished_of_sum width fits whole short)⟩
      obtain ⟨sum, rest, sumWidth, rfl⟩ := exists_append enough
      have spelled : codecVersion :: (size ++ (held ++ (sum ++ rest))) = layout held sum ++ rest := by
        rw [layout, whole, ← width, Bytes.littleEndian_toNat]
        simp only [List.cons_append, List.append_assoc]
      rw [spelled]
      by_cases same : UInt32.ofNat sum.toNat = checksum held
      · exact .inl ⟨held, rest, whole ▸ fits, by rw [layout_eq_frame sumWidth same]⟩
      · exact .inr ⟨_, .checksum (whole ▸ fits) sumWidth same⟩

/-- What is reported is what is wrong. -/
theorem unframe_eq_error : unframe bytes = .error fault ↔ Rejected bytes fault := by
  constructor
  · intro failed
    obtain ⟨held, rest, fits, rfl⟩ | ⟨found, rejected⟩ := framed_or_rejected bytes
    · rw [unframe_frame fits] at failed
      cases failed
    · rw [rejected.unframe_eq] at failed
      obtain rfl := Except.error.inj failed
      exact rejected
  · exact Rejected.unframe_eq

/-- An end that comes too soon is reported as such, and everything else as invalid
data. -/
theorem Rejected.kind (rejected : Rejected bytes fault) :
    faultKind fault = .unexpectedEnd ∧ Unfinished bytes ∨ faultKind fault = .invalidData ∧ ¬ Unfinished bytes := by
  by_cases ends : Unfinished bytes
  · have same : Except.error fault = Except.error .shortRead := rejected.unframe_eq.symm.trans ends.unframe_eq
    rw [Except.error.inj same]
    exact .inl ⟨rfl, ends⟩
  · refine .inr ⟨?_, ends⟩
    cases rejected with
    | unfinished finished => exact absurd finished ends
    | version | tooLong | checksum => rfl

theorem decode_of_rejected {α : Type} (decoder : Json.Decoder α) (rejected : Rejected bytes fault) :
    decode decoder bytes = .error fault := by
  rw [decode, rejected.unframe_eq]
  rfl

/-- Frames are uniquely decodable: bytes that begin with a frame are taken apart into
its payload and the rest, and all others are rejected.  A value that the reader of
documents reads back from its payload is decoded from its frame. -/
theorem uniquely_decodable :
    (∀ held rest : Bytes, held.length ≤ maxPayload → unframe (frame held ++ rest) = .ok (held, rest)) ∧
    (∀ bytes held rest : Bytes, unframe bytes = .ok (held, rest) →
      held.length ≤ maxPayload ∧ bytes = frame held ++ rest) ∧
    (∀ (α : Type) (decoder : Json.Decoder α) (value : Json) (a : α) (bytes rest : Bytes),
      encode value = .ok bytes → (Json.readBytes (payload value)).decode decoder = .ok a →
        bytes = frame (payload value) ∧ decode decoder (bytes ++ rest) = .ok (a, rest)) ∧
    (∀ held other : Bytes, frame held = frame other → held = other) ∧
    ∀ bytes : Bytes, (¬ ∃ held rest, held.length ≤ maxPayload ∧ bytes = frame held ++ rest) →
      ∃ fault, unframe bytes = .error fault ∧
        (∀ (α : Type) (decoder : Json.Decoder α), decode decoder bytes = .error fault) ∧
        (faultKind fault = .unexpectedEnd ∧ Unfinished bytes ∨
          faultKind fault = .invalidData ∧ ¬ Unfinished bytes) := by
  refine ⟨fun held rest fits => unframe_frame fits, fun bytes held rest => unframe_eq_ok.1, ?_,
    fun held other => @frame_injective held other, ?_⟩
  · intro α decoder value a bytes rest encoded read
    obtain ⟨fits, rfl⟩ := encode_eq_ok.1 encoded
    exact ⟨rfl, decode_frame_of_read rest fits read⟩
  · intro bytes unframed
    obtain framed | ⟨fault, rejected⟩ := framed_or_rejected bytes
    · exact absurd framed unframed
    · exact ⟨fault, rejected.unframe_eq, fun α decoder => decode_of_rejected decoder rejected, rejected.kind⟩

/-- A quoted letter in a frame with a byte behind it, and in a frame that lacks its
last byte. -/
theorem uniquely_decodable_quoted :
    [0x22, 0x67, 0x22].length ≤ maxPayload ∧
      unframe (frame [0x22, 0x67, 0x22] ++ [7]) = .ok ([0x22, 0x67, 0x22], [7]) ∧
      encode (.string "g") = .ok (frame [0x22, 0x67, 0x22]) ∧
      decode Json.Decode.string (frame [0x22, 0x67, 0x22] ++ [7]) = .ok ("g", [7]) ∧
      (¬ ∃ held rest, held.length ≤ maxPayload ∧ (frame [0x22, 0x67, 0x22]).take 11 = frame held ++ rest) ∧
      ∃ fault, decode Json.Decode.string ((frame [0x22, 0x67, 0x22]).take 11) = .error fault ∧
        faultKind fault = .unexpectedEnd := by
  obtain ⟨taken, _, decoded, _, rejected⟩ := uniquely_decodable
  have fits : [0x22, 0x67, 0x22].length ≤ maxPayload := by decide
  have encoded : encode (.string "g") = .ok (frame [0x22, 0x67, 0x22]) := by
    have spelled : payload (.string "g") = [0x22, 0x67, 0x22] := by decide
    rw [encode_eq_ok, spelled]
    exact ⟨fits, rfl⟩
  have read : (Json.readBytes (payload (.string "g"))).decode Json.Decode.string = .ok "g" := by
    rw [readBytes_payload rfl]
    rfl
  have unframed : ¬ ∃ held rest, held.length ≤ maxPayload ∧
      (frame [0x22, 0x67, 0x22]).take 11 = frame held ++ rest := by
    rintro ⟨held, rest, within, same⟩
    have whole := taken held rest within
    rw [← same] at whole
    cases whole
  have ends : Unfinished ((frame [0x22, 0x67, 0x22]).take 11) :=
    ⟨_, [0x22, 0x67, 0x22], _, by decide, fits, Bytes.length_littleEndian .., List.take_append_drop 11 (frame _)⟩
  obtain ⟨fault, _, everyDecoder, kind⟩ := rejected _ unframed
  refine ⟨fits, taken _ [7] fits, encoded, (decoded _ _ _ _ _ [7] encoded read).2, unframed, fault,
    everyDecoder _ _, ?_⟩
  obtain ⟨early, _⟩ | ⟨_, complete⟩ := kind
  · exact early
  · exact absurd ends complete

end DensityGraph.Artifact
