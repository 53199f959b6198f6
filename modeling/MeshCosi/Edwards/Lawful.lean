import MeshCosi.Edwards.Encoding

/-!
# The curve meets the assumptions

The points of the curve, their encoding and the base point, as the primitives that the
rest of the program is stated over.  Decoding is given by what bytes mean, and
`FromBytes` computes it on limbs.
-/

namespace MeshCosi.Edwards25519

open Foundation

open Classical in
/-- The point that bytes stand for, if there is one. -/
noncomputable def decodePoint (s : Block 32) : Option CurvePoint :=
  if h : ∃ P, Encodes s P then some h.choose else none

theorem decodePoint_eq_some_iff {s : Block 32} {P : CurvePoint} :
    decodePoint s = some P ↔ Encodes s P := by
  unfold decodePoint
  split_ifs with h
  · rw [Option.some.injEq]
    constructor
    · rintro rfl
      exact h.choose_spec
    · intro hP
      exact h.choose_spec.unique hP
  · constructor
    · intro hnone
      cases hnone
    · intro hP
      exact absurd ⟨P, hP⟩ h

/-- The curve and a hash function. -/
noncomputable def curvePrimitives (sha512 : Bytes → Block 64) : Primitives CurvePoint where
  base := basePoint
  toBytes := encodePoint
  fromBytes := decodePoint
  sha512 := sha512

/-- `FromBytes` fails where decoding fails, and otherwise gives the point on limbs. -/
theorem fromBytes_rel (s : Block 32) :
    Option.Rel ExtendedGroupElement.Represents (ExtendedGroupElement.fromBytes s)
      (decodePoint s) := by
  have hspec := fromBytes_spec s
  cases hbytes : ExtendedGroupElement.fromBytes s with
  | none =>
      rw [hbytes] at hspec
      have hnone : decodePoint s = none := by
        rw [Option.eq_none_iff_forall_ne_some]
        exact fun P hP => hspec P (decodePoint_eq_some_iff.1 hP)
      rw [hnone]
      exact Option.Rel.none
  | some e =>
      rw [hbytes] at hspec
      obtain ⟨P, he, hP⟩ := hspec
      rw [decodePoint_eq_some_iff.2 hP]
      exact Option.Rel.some he

theorem decodePoint_encodePoint (P : CurvePoint) : decodePoint (encodePoint P) = some P :=
  decodePoint_eq_some_iff.2 (encodes_encodePoint P)

/-- What the package assumes of the curve holds of it. -/
theorem curvePrimitives_lawful (sha512 : Bytes → Block 64) : (curvePrimitives sha512).Lawful where
  addOrderOf_base := addOrderOf_basePoint
  fromBytes_toBytes := decodePoint_encodePoint

/-- The bytes of a point are read as that point. -/
theorem exists_fromBytes_encodePoint (P : CurvePoint) :
    ∃ e, ExtendedGroupElement.fromBytes (encodePoint P) = some e ∧ e.Represents P := by
  have hrel := fromBytes_rel (encodePoint P)
  rw [decodePoint_encodePoint] at hrel
  cases hbytes : ExtendedGroupElement.fromBytes (encodePoint P) with
  | none =>
      rw [hbytes] at hrel
      cases hrel
  | some e =>
      rw [hbytes] at hrel
      cases hrel with
      | some he => exact ⟨e, rfl, he⟩

/-- Writing a point and reading it again gives the point, on limbs that may differ, and
the same bytes once more. -/
theorem fromBytes_of_toBytes {e : ExtendedGroupElement} {P : CurvePoint} (he : e.Represents P) :
    ∃ e', ExtendedGroupElement.fromBytes e.toBytes = some e' ∧ e'.Represents P ∧
      e'.toBytes = e.toBytes := by
  obtain ⟨e', hbytes, he'⟩ := exists_fromBytes_encodePoint P
  rw [he.toBytes]
  exact ⟨e', hbytes, he', he'.toBytes⟩

/-- The base point is written and read. -/
theorem fromBytes_of_toBytes_base :
    ∃ e e' : ExtendedGroupElement, e.Represents basePoint ∧
      ExtendedGroupElement.fromBytes e.toBytes = some e' ∧ e'.Represents basePoint ∧
      e'.toBytes = e.toBytes := by
  obtain ⟨e, -, he⟩ := exists_fromBytes_encodePoint basePoint
  obtain ⟨e', h⟩ := fromBytes_of_toBytes he
  exact ⟨e, e', he, h⟩

/-- `Add` and `Sub` on what has been read write the sum and the difference of the points
that the bytes stand for. -/
theorem add_sub_of_fromBytes {s t : Block 32} {e f : ExtendedGroupElement}
    (hs : ExtendedGroupElement.fromBytes s = some e)
    (ht : ExtendedGroupElement.fromBytes t = some f) :
    ∃ P Q : CurvePoint, Encodes s P ∧ Encodes t Q ∧ (e.add f).toBytes = encodePoint (P + Q) ∧
      (e.sub f).toBytes = encodePoint (P - Q) := by
  have hspec := fromBytes_spec s
  have hspec' := fromBytes_spec t
  rw [hs] at hspec
  rw [ht] at hspec'
  obtain ⟨P, he, hP⟩ := hspec
  obtain ⟨Q, hf, hQ⟩ := hspec'
  exact ⟨P, Q, hP, hQ, (he.add hf).toBytes, (he.sub hf).toBytes⟩

/-- Twice the base point. -/
theorem add_sub_of_fromBytes_base :
    ∃ e, ExtendedGroupElement.fromBytes (encodePoint basePoint) = some e ∧
      ∃ P Q : CurvePoint, Encodes (encodePoint basePoint) P ∧ Encodes (encodePoint basePoint) Q ∧
        (e.add e).toBytes = encodePoint (P + Q) ∧ (e.sub e).toBytes = encodePoint (P - Q) := by
  obtain ⟨e, he, -⟩ := exists_fromBytes_encodePoint basePoint
  exact ⟨e, he, add_sub_of_fromBytes he he⟩

end MeshCosi.Edwards25519
