import DensityGraph.Proofs.Artifact
import DensityGraph.Proofs.Artifact.Checksum

/-!
# Damaged artifacts

The artifacts of two payloads differ in more than one byte, and neither of them
begins the other.  So a damaged artifact is no artifact, not even of another
payload: a changed byte of the payload shows in the checksum, and where the
length is changed the checksum may match, but the number of bytes does not.
-/

namespace DensityGraph.Artifact

variable {held other bytes damaged rest : Bytes} {position : Nat} {old new : UInt8}

/-- Bytes that are damaged: one of them is changed, or some are missing at the end
or are too many there. -/
inductive Damaged (bytes : Bytes) : Bytes → Prop where
  | changed {position : Nat} {old new : UInt8} (found : bytes[position]? = some old) (different : new ≠ old) :
      Damaged bytes (bytes.set position new)
  | cut {length : Nat} (short : length < bytes.length) : Damaged bytes (bytes.take length)
  | extended {suffix : Bytes} (nonempty : suffix ≠ []) : Damaged bytes (bytes ++ suffix)

/-- A payload and its checksum. -/
def summed (held : Bytes) : Bytes := held ++ Bytes.littleEndian 4 (checksum held).toNat

/-- What stands in front of a payload of some length. -/
def preamble (length : Nat) : Bytes := header ++ codecVersion :: Bytes.littleEndian 4 length

theorem header_append_frame (held : Bytes) : header ++ frame held = preamble held.length ++ summed held := by
  simp only [frame, preamble, summed, List.cons_append, List.append_assoc]

theorem length_preamble (length : Nat) : (preamble length).length = 10 := by
  simp [preamble, header, magic, Bytes.length_littleEndian]

theorem length_summed (held : Bytes) : (summed held).length = held.length + 4 := by
  rw [summed, List.length_append, Bytes.length_littleEndian]

theorem set_ne_self (found : bytes[position]? = some old) (different : new ≠ old) :
    bytes.set position new ≠ bytes := by
  intro same
  obtain ⟨inside, _⟩ := List.getElem?_eq_some_iff.mp found
  rw [← same, List.getElem?_set_self inside, Option.some.injEq] at found
  exact different found

/-- A byte that is changed in a payload or in its checksum leaves no payload with
its checksum. -/
theorem set_summed_ne (sameLength : held.length = other.length) (found : (summed held)[position]? = some old)
    (different : new ≠ old) : (summed held).set position new ≠ summed other := by
  intro same
  unfold summed at found same
  rcases Nat.lt_or_ge position held.length with inPayload | behind
  · -- the payloads differ in this byte alone, and yet have the same checksum
    rw [List.set_append_left _ _ inPayload] at same
    obtain ⟨rfl, sameSum⟩ := List.append_inj same (by rw [List.length_set, sameLength])
    rw [List.getElem?_append_left inPayload] at found
    have sameNumber := congrArg Bytes.toNat sameSum
    rw [Bytes.toNat_littleEndian (UInt32.toNat_lt _), Bytes.toNat_littleEndian (UInt32.toNat_lt _),
      UInt32.toNat_inj] at sameNumber
    exact checksum_set_ne found different sameNumber.symm
  · rw [List.set_append_right _ _ behind] at same
    obtain ⟨rfl, sameSum⟩ := List.append_inj same sameLength
    rw [List.getElem?_append_right behind] at found
    exact set_ne_self found different sameSum

theorem set_artifact_ne (found : (header ++ frame held)[position]? = some old) (different : new ≠ old) :
    (header ++ frame held).set position new ≠ header ++ frame other := by
  rw [header_append_frame] at found
  rw [header_append_frame, header_append_frame]
  intro same
  have sameLength : held.length = other.length := by
    have lengths := congrArg List.length same
    simp only [List.length_set, List.length_append, length_preamble, length_summed] at lengths
    omega
  rw [← sameLength] at same
  rcases Nat.lt_or_ge position (preamble held.length).length with inFront | behind
  · rw [List.set_append_left _ _ inFront] at same
    obtain ⟨sameFront, _⟩ := List.append_inj same List.length_set
    rw [List.getElem?_append_left inFront] at found
    exact set_ne_self found different sameFront
  · rw [List.set_append_right _ _ behind] at same
    obtain ⟨_, sameSummed⟩ := List.append_inj same rfl
    rw [List.getElem?_append_right behind] at found
    exact set_summed_ne sameLength found different sameSummed

/-- No artifact begins another one. -/
theorem eq_nil_of_artifact_append (fits : held.length ≤ maxPayload) (fitsToo : other.length ≤ maxPayload)
    (same : header ++ frame held ++ rest = header ++ frame other) : rest = [] := by
  rw [List.append_assoc] at same
  have sameFrames : frame held ++ rest = frame other ++ [] := by
    rw [List.append_nil]
    exact List.append_cancel_left same
  have taken : unframe (frame held ++ rest) = .ok (held, rest) := unframe_frame fits
  rw [sameFrames, unframe_frame fitsToo] at taken
  exact (Prod.mk.inj (Except.ok.inj taken)).2.symm

/-- What is damaged is no longer an artifact. -/
theorem Damaged.ne_artifact (damage : Damaged (header ++ frame held) damaged) (fits : held.length ≤ maxPayload)
    (fitsToo : other.length ≤ maxPayload) : damaged ≠ header ++ frame other := by
  cases damage with
  | changed found different => exact set_artifact_ne found different
  | @cut length short =>
      intro same
      have continued : header ++ frame other ++ (header ++ frame held).drop length = header ++ frame held := by
        rw [← same, List.take_append_drop]
      have nothing := eq_nil_of_artifact_append fitsToo fits continued
      -- nothing was missing
      rw [List.drop_eq_nil_iff] at nothing
      omega
  | extended nonempty => exact fun same => nonempty (eq_nil_of_artifact_append fits fitsToo same)

end DensityGraph.Artifact
