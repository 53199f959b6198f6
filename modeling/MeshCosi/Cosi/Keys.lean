import MeshCosi.Cosi.Aggregate

/-!
# Key lists with entries of any length

`NewCosigners` copies every entry into one buffer and does not look at its
length.  A list of 32-byte entries is decoded entry by entry.  An entry of
another length is decoded together with what earlier entries left in the
buffer, and is refused only if that happens not to be a point.
-/

namespace MeshCosi.Cosi

open Foundation Ed25519

variable {G : Type} [AddCommGroup G]

/-- What `NewCosigners` promises for a list of keys: it accepts the list when
every entry is the encoding of a point, the keys are these points, and the
order of the list does not matter. -/
structure DecodesKeywise (P : Primitives G) (publicKeys : List PublicKey) : Prop where
  accepts : (newCosigners P publicKeys none).isSome ↔
    ∀ pk ∈ publicKeys, pk.length = 32 ∧ (P.decode pk).isSome
  keys_eq : ∀ cos, newCosigners P publicKeys none = some cos →
    P.decodeAll publicKeys = some cos.keys
  verdict_perm : ∀ order, order.Perm publicKeys →
    (newCosigners P order none).isSome = (newCosigners P publicKeys none).isSome
  keys_perm : ∀ order, order.Perm publicKeys → ∀ cos cos',
    newCosigners P publicKeys none = some cos → newCosigners P order none = some cos' →
    (order.zip cos'.keys).Perm (publicKeys.zip cos.keys) ∧
      cos'.aggregatePublicKey P = cos.aggregatePublicKey P

variable {P : Primitives G}

/-- A permutation of the strings permutes the points along. -/
theorem zip_perm_of_decodeAll {list order : List Bytes} {points points' : List G}
    (hperm : order.Perm list) (h : P.decodeAll list = some points)
    (h' : P.decodeAll order = some points') :
    (order.zip points').Perm (list.zip points) ∧ points'.Perm points := by
  rw [P.eq_map_of_decodeAll h, P.eq_map_of_decodeAll h', ← List.map_prod_left_eq_zip,
    ← List.map_prod_left_eq_zip]
  exact ⟨hperm.map _, hperm.map _⟩

/-- Acceptance asks every buffer to decode. -/
theorem newCosigners_isSome (publicKeys : List PublicKey) :
    (newCosigners P publicKeys none).isSome ↔
      ∀ buffer ∈ buffers (Block.zero 32) publicKeys, (P.decode buffer).isSome := by
  rw [newCosigners_none, Option.isSome_map, P.decodeAll_isSome]

/-- Entries of 32 bytes are decoded one by one. -/
theorem decodesKeywise_of_length_eq {publicKeys : List PublicKey}
    (h : ∀ pk ∈ publicKeys, pk.length = 32) : DecodesKeywise P publicKeys := by
  have hnew : ∀ order : List PublicKey, order.Perm publicKeys →
      newCosigners P order none = (P.decodeAll order).map Cosigners.ofKeys :=
    fun order hperm => newCosigners_of_length_eq fun pk hpk => h pk (hperm.mem_iff.1 hpk)
  have hself := hnew publicKeys (List.Perm.refl _)
  refine ⟨?_, ?_, ?_, ?_⟩
  · rw [hself, Option.isSome_map, P.decodeAll_isSome]
    exact ⟨fun hall pk hpk => ⟨h pk hpk, hall pk hpk⟩, fun hall pk hpk => (hall pk hpk).2⟩
  · intro cos hcos
    rw [hself, Option.map_eq_some_iff] at hcos
    obtain ⟨keys, hkeys, rfl⟩ := hcos
    exact hkeys
  · intro order hperm
    rw [hnew order hperm, hself, Option.isSome_map, Option.isSome_map, Bool.eq_iff_iff,
      P.decodeAll_isSome, P.decodeAll_isSome]
    simp only [hperm.mem_iff]
  · intro order hperm cos cos' hcos hcos'
    rw [hself, Option.map_eq_some_iff] at hcos
    rw [hnew order hperm, Option.map_eq_some_iff] at hcos'
    obtain ⟨keys, hkeys, rfl⟩ := hcos
    obtain ⟨keys', hkeys', rfl⟩ := hcos'
    obtain ⟨hzip, hpoints⟩ := zip_perm_of_decodeAll hperm hkeys hkeys'
    refine ⟨hzip, ?_⟩
    change (P.toBytes keys'.sum).toList = (P.toBytes keys.sum).toList
    rw [hpoints.sum_eq]

/-- A list is refused when some content of the shared buffer is not a point. -/
theorem newCosigners_eq_none_iff (publicKeys : List PublicKey) :
    newCosigners P publicKeys none = none ↔
      ∃ buffer ∈ buffers (Block.zero 32) publicKeys, P.decode buffer = none := by
  rw [← Option.not_isSome_iff_eq_none, newCosigners_isSome]
  push Not
  simp only [Bool.not_eq_true, Option.isSome_eq_false_iff, Option.isNone_iff_eq_none]

/-- A list with an entry of another length that is refused in every order. -/
theorem decodesKeywise_of_refused {publicKeys : List PublicKey}
    (hlength : ¬ ∀ pk ∈ publicKeys, pk.length = 32)
    (hnone : ∀ order, order.Perm publicKeys → newCosigners P order none = none) :
    DecodesKeywise P publicKeys := by
  have hself := hnone publicKeys (List.Perm.refl _)
  refine ⟨?_, ?_, ?_, ?_⟩
  · rw [hself]
    simp only [Option.isSome_none, Bool.false_eq_true, false_iff]
    exact fun hall => hlength fun pk hpk => (hall pk hpk).1
  · intro cos hcos
    rw [hself] at hcos
    exact absurd hcos (by simp)
  · intro order hperm
    rw [hnone order hperm, hself]
  · intro order _ cos cos' hcos _
    rw [hself] at hcos
    exact absurd hcos (by simp)

/-- **Which lists are decoded entry by entry.**  Exactly those whose entries
all have 32 bytes, and those with other entries that are refused in every order
because some content of the shared buffer is not a point. -/
theorem decodesKeywise_iff (P : Primitives G) (publicKeys : List PublicKey) :
    DecodesKeywise P publicKeys ↔
      (∀ pk ∈ publicKeys, pk.length = 32) ∨
        ∀ order, order.Perm publicKeys →
          ∃ buffer ∈ buffers (Block.zero 32) order, P.decode buffer = none := by
  simp only [← newCosigners_eq_none_iff]
  by_cases hlength : ∀ pk ∈ publicKeys, pk.length = 32
  · exact iff_of_true (decodesKeywise_of_length_eq hlength) (Or.inl hlength)
  · constructor
    · intro h
      refine Or.inr fun order hperm => ?_
      rw [← Option.not_isSome_iff_eq_none, h.verdict_perm order hperm, h.accepts]
      exact fun hall => hlength fun pk hpk => (hall pk hpk).1
    · intro h
      exact decodesKeywise_of_refused hlength (h.resolve_left hlength)

/-- An empty second entry is accepted and counts as a copy of the first. -/
theorem newCosigners_empty_entry :
    ∃ cos, newCosigners cyclicPrimitives
        [(cyclicPrimitives.toBytes cyclicPrimitives.base).toList, []] none = some cos ∧
      cos.keys = [cyclicPrimitives.base, cyclicPrimitives.base] ∧
      ¬ DecodesKeywise cyclicPrimitives
        [(cyclicPrimitives.toBytes cyclicPrimitives.base).toList, []] := by
  have hbuffers : buffers (Block.zero 32)
      [(cyclicPrimitives.toBytes cyclicPrimitives.base).toList, []] =
      [(cyclicPrimitives.toBytes cyclicPrimitives.base).toList,
        (cyclicPrimitives.toBytes cyclicPrimitives.base).toList] := by
    simp only [buffers, Block.copyFrom_toList]
    rfl
  have hnew : newCosigners cyclicPrimitives
      [(cyclicPrimitives.toBytes cyclicPrimitives.base).toList, []] none =
      some (Cosigners.ofKeys [cyclicPrimitives.base, cyclicPrimitives.base]) := by
    rw [newCosigners_none, hbuffers]
    simp only [Primitives.decodeAll_cons, Primitives.decodeAll_nil,
      cyclicPrimitives_lawful.decode_toBytes, Option.bind_some, Option.map_some]
  refine ⟨_, hnew, rfl, fun h => ?_⟩
  have haccepts := h.accepts.1 (by rw [hnew]; rfl) [] (by simp)
  exact absurd haccepts.1 (by decide)

end MeshCosi.Cosi
