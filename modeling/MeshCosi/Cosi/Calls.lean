import Mathlib.Algebra.Order.Floor.Div
import Mathlib.GroupTheory.GroupAction.Ring
import MeshCosi.Cosi.Honest
import MeshCosi.Cosi.Reachable

/-!
# Sequences of mask calls

`SetMask`, `SetMaskBit` and `Verify` all change the mask and with it the cached
aggregate.  A call requests a bit for some of the cosigners.  After any
sequence of calls the bit of a cosigner is what the last call that addressed it
requested, and the aggregate is the sum of the keys whose bit is clear.
-/

namespace MeshCosi.Cosi

open Foundation Ed25519

variable {G : Type} [AddCommGroup G]

/-! ## Calls and what they request -/

/-- A call that can change the mask. -/
inductive Call where
  | setMask (mask : Bytes)
  | setMaskBit (signer : ℕ) (value : MaskBit)
  | verify (message sig : Bytes)
  deriving DecidableEq

/-- The object as a call leaves it. -/
def Call.apply (P : Primitives G) (cos : Cosigners G) : Call → Go (Cosigners G)
  | .setMask mask => .ok (cos.setMask mask)
  | .setMaskBit signer value => cos.setMaskBit signer value
  | .verify message sig => .ok (cos.verify P message sig).1

/-- `SetMaskBit` is called with the index of one of `n` cosigners. -/
def Call.InRange (n : ℕ) : Call → Prop
  | .setMask _ => True
  | .setMaskBit signer _ => signer < n
  | .verify _ _ => True

/-- The bit a call requests for a cosigner, if it addresses it.  Missing bytes
of a mask enable; a signature below 64 bytes addresses nobody. -/
def Call.request (i : ℕ) : Call → Option MaskBit
  | .setMask mask => some (isSet mask i)
  | .setMaskBit signer value => if i = signer then some value else none
  | .verify _ sig => if sig.length < signatureSize then none else some (isSet (sig.drop 64) i)

/-- What was requested last for a cosigner, by `NewCosigners` or a later call. -/
def requested (mask : Option Bytes) (calls : List Call) (i : ℕ) : MaskBit :=
  (calls.filterMap (Call.request i)).getLast?.getD (isSet (mask.getD []) i)

/-- `NewCosigners`, then a sequence of calls. -/
def session (P : Primitives G) (publicKeys : List PublicKey) (mask : Option Bytes)
    (calls : List Call) : Go (Cosigners G) := do
  let cos ← deref (newCosigners P publicKeys mask)
  calls.foldlM (Call.apply P) cos

/-! ## One call, and a sequence of them -/

/-- An object on the keys whose bits are as given, with nothing in the padding. -/
structure HasBits (keys : List G) (bits : ℕ → MaskBit) (cos : Cosigners G) : Prop where
  consistent : cos.Consistent
  keys_eq : cos.keys = keys
  isSet_eq : ∀ i < keys.length, isSet cos.mask i = bits i
  padding : ∀ i, keys.length ≤ i → isSet cos.mask i = false

variable {P : Primitives G} {keys : List G} {bits : ℕ → MaskBit} {cos : Cosigners G}

theorem hasBits_ofKeys (keys : List G) :
    HasBits keys (fun _ => enabled) (Cosigners.ofKeys keys) where
  consistent := Cosigners.ofKeys_consistent keys
  keys_eq := rfl
  isSet_eq i _ := isSet_replicate_zero _ i
  padding i _ := isSet_replicate_zero _ i

theorem HasBits.setMask (h : HasBits keys bits cos) (mask : Bytes) :
    HasBits keys (isSet mask) (cos.setMask mask) := by
  obtain ⟨hcons, hkeys, -, hbits⟩ := h.consistent.setMask mask
  rw [h.keys_eq] at hkeys hbits
  refine ⟨hcons, hkeys, ?_, ?_⟩
  · intro i hi
    rw [hbits, if_pos hi]
  · intro i hi
    rw [hbits, if_neg (not_lt.2 hi), h.padding i hi]

theorem HasBits.assign (h : HasBits keys bits cos) {signer : ℕ} {key : G}
    (hkey : keys[signer]? = some key) (value : MaskBit) :
    HasBits keys (fun i => if i = signer then value else bits i)
      (cos.assign signer key value) := by
  rw [← h.keys_eq] at hkey
  have hlt : signer < cos.keys.length := (List.getElem?_eq_some_iff.1 hkey).1
  have hbits := Cosigners.isSet_assign (h.consistent.byte_lt hlt) key value
  refine ⟨h.consistent.assign hkey value,
    (Cosigners.assign_frame cos signer key value).1.trans h.keys_eq, ?_, ?_⟩
  · intro i hi
    rw [hbits, h.isSet_eq i hi]
  · intro i hi
    have hne : i ≠ signer := by
      rw [h.keys_eq] at hlt
      omega
    rw [hbits, if_neg hne, h.padding i hi]

/-- A call succeeds and gives every cosigner it addresses the bit it requests. -/
theorem HasBits.apply (h : HasBits keys bits cos) {call : Call}
    (hcall : call.InRange keys.length) :
    ∃ next, call.apply P cos = .ok next ∧
      HasBits keys (fun i => (call.request i).getD (bits i)) next := by
  cases call with
  | setMask mask => exact ⟨_, rfl, h.setMask mask⟩
  | setMaskBit signer value =>
      obtain ⟨key, hkey⟩ : ∃ key, keys[signer]? = some key := ⟨_, List.getElem?_eq_getElem hcall⟩
      have hassign := h.assign hkey value
      rw [← h.keys_eq] at hkey
      refine ⟨_, h.consistent.setMaskBit_eq hkey value, ?_⟩
      simp only [Call.request]
      convert hassign using 2 with i
      split_ifs <;> rfl
  | verify message sig =>
      refine ⟨_, rfl, ?_⟩
      rw [cos.verify_fst message sig]
      by_cases hshort : sig.length < signatureSize
      · simp only [Call.request, if_pos hshort, Option.getD_none]
        exact h
      · simp only [Call.request, if_neg hshort, Option.getD_some]
        have hset := h.setMask (signatureMask cos.keys.length sig)
        rwa [funext (isSet_signatureMask cos.keys.length sig)] at hset

/-- A sequence of calls succeeds, each taking over where the last one left off. -/
theorem HasBits.foldlM (calls : List Call) (hcalls : ∀ call ∈ calls, call.InRange keys.length) :
    ∀ {bits : ℕ → MaskBit} {cos : Cosigners G}, HasBits keys bits cos →
      ∃ final, calls.foldlM (Call.apply P) cos = .ok final ∧
        HasBits keys (fun i =>
          (calls.filterMap (Call.request i)).getLast?.getD (bits i)) final := by
  induction calls with
  | nil =>
      intro bits cos h
      exact ⟨cos, rfl, h⟩
  | cons call calls ih =>
      intro bits cos h
      rw [List.forall_mem_cons] at hcalls
      obtain ⟨next, hnext, hbits⟩ := h.apply (P := P) hcalls.1
      obtain ⟨final, hfinal, hlast⟩ := ih hcalls.2 hbits
      refine ⟨final, ?_, ?_⟩
      · rw [List.foldlM_cons, hnext, ok_bind, hfinal]
      · convert hlast using 2 with i
        -- the first request counts only when no later call addresses the cosigner
        cases hrequest : call.request i with
        | none => rw [List.filterMap_cons_none hrequest, Option.getD_none]
        | some value =>
            rw [List.filterMap_cons_some hrequest, List.getLast?_cons, Option.getD_some,
              Option.getD_some]

/-- What a session on decodable keys ends with. -/
theorem session_hasBits {publicKeys : List PublicKey}
    (hdecode : P.decodeAll publicKeys = some keys) (mask : Option Bytes) {calls : List Call}
    (hcalls : ∀ call ∈ calls, call.InRange publicKeys.length) :
    ∃ cos, session P publicKeys mask calls = .ok cos ∧
      HasBits keys (requested mask calls) cos := by
  rw [← P.length_of_decodeAll hdecode] at hcalls
  have hnew := hasBits_ofKeys keys
  cases mask with
  | none =>
      obtain ⟨cos, hcos, hbits⟩ := HasBits.foldlM (P := P) calls hcalls hnew
      refine ⟨cos, ?_, ?_⟩
      · rw [session, newCosigners_eq hdecode, deref_some, ok_bind, hcos]
      · have hempty : ∀ i, isSet [] i = enabled := fun i => isSet_of_length_le (Nat.zero_le _)
        convert hbits using 2 with i
        rw [requested, Option.getD_none, hempty]
  | some mask =>
      obtain ⟨cos, hcos, hbits⟩ := HasBits.foldlM (P := P) calls hcalls (hnew.setMask mask)
      refine ⟨cos, ?_, hbits⟩
      rw [session, newCosigners_mask_eq hdecode, deref_some, ok_bind, hcos]

/-- **The cached aggregate is exact.**  After any sequence of calls on any
initial mask the mask has its length and clean padding, every bit is as last
requested, and the aggregate is the sum of the keys whose bit is clear.  So
setting the mask to itself changes nothing, and the mask determines the
aggregate public key. -/
theorem cached_aggregate_exact {publicKeys : List PublicKey}
    (hdecode : P.decodeAll publicKeys = some keys) (mask : Option Bytes) {calls : List Call}
    (hcalls : ∀ call ∈ calls, call.InRange publicKeys.length) :
    ∃ cos, session P publicKeys mask calls = .ok cos ∧
      cos.mask.length = cos.maskLen ∧ cos.maskLen = publicKeys.length ⌈/⌉ 8 ∧
      (∀ i, publicKeys.length ≤ i → isSet cos.mask i = false) ∧
      (∀ i < publicKeys.length, cos.maskBit i = .ok (requested mask calls i)) ∧
      cos.aggr = ∑ i ∈ (Finset.range publicKeys.length).filter (fun i => isSet cos.mask i = false),
        keys.getD i 0 ∧
      cos.setMask cos.mask = cos ∧
      ∀ (mask' : Option Bytes) (calls' : List Call) (cos' : Cosigners G),
        (∀ call ∈ calls', call.InRange publicKeys.length) →
        session P publicKeys mask' calls' = .ok cos' → cos'.mask = cos.mask →
        cos'.aggregatePublicKey P = cos.aggregatePublicKey P := by
  obtain ⟨cos, hcos, hbits⟩ := session_hasBits hdecode mask hcalls
  have hlength := P.length_of_decodeAll hdecode
  refine ⟨cos, hcos, hbits.consistent.mask_length, ?_, ?_, ?_, ?_, cos.setMask_mask, ?_⟩
  · rw [Cosigners.maskLen, hbits.keys_eq, hlength, Nat.ceilDiv_eq_add_pred_div]
    rfl
  · rw [← hlength]
    exact hbits.padding
  · rw [← hlength]
    intro i hi
    rw [hbits.consistent.maskBit_eq (by rw [hbits.keys_eq]; exact hi), hbits.isSet_eq i hi]
  · rw [← hlength, hbits.consistent.aggr_eq, Cosigners.enabledSum, Cosigners.enabledIndices,
      hbits.keys_eq]
  · intro mask' calls' cos' hcalls' hcos' hmask
    obtain ⟨other, hother, hbits'⟩ := session_hasBits hdecode mask' hcalls'
    obtain rfl : other = cos' := by
      rw [hcos'] at hother
      exact (Except.ok.inj hother).symm
    have haggr : other.aggr = cos.aggr := by
      rw [hbits'.consistent.aggr_eq, hbits.consistent.aggr_eq, Cosigners.enabledSum,
        Cosigners.enabledSum, Cosigners.enabledIndices, Cosigners.enabledIndices,
        hbits'.keys_eq, hbits.keys_eq, hmask]
    rw [Cosigners.aggregatePublicKey, Cosigners.aggregatePublicKey, haggr]

/-- The first of two cosigners is disabled and enabled again, the second
disabled; a signature that is too short changes nothing. -/
theorem cached_aggregate_exact_two :
    ∃ cos, session cyclicPrimitives (twoParticipants.map Participant.publicKey) (some [1])
        [.setMaskBit 0 enabled, .setMaskBit 1 disabled, .verify [104, 105] []] = .ok cos ∧
      cos.maskBit 0 = .ok enabled ∧ cos.maskBit 1 = .ok disabled := by
  have hcalls : ∀ call ∈ [Call.setMaskBit 0 enabled, .setMaskBit 1 disabled,
      .verify [104, 105] []],
      call.InRange (twoParticipants.map Participant.publicKey).length := by
    simp [Call.InRange, twoParticipants]
  obtain ⟨cos, hcos, -, -, -, hbits, -⟩ := cached_aggregate_exact
    (decodeAll_publicKeys cyclicPrimitives_lawful twoParticipants) (some [1]) hcalls
  refine ⟨cos, hcos, ?_, ?_⟩
  · rw [hbits 0 (by simp [twoParticipants])]
    decide
  · rw [hbits 1 (by simp [twoParticipants])]
    decide

end MeshCosi.Cosi
