import Mathlib.Data.ZMod.Basic
import MeshCosi.Edwards.Scalar

/-!
# The field of `2^255 - 19` elements

A field element is ten signed 32-bit limbs of alternately 26 and 25 bits.  Sums and
differences are not reduced, so every function relies on bounds of its arguments:
`Denotes n f x` says that `f` stands for `x` and that its limbs are at most `n` times
as large as a product leaves them.  Products need `n ≤ 3`, since 19 times a limb has
to fit into 32 bits, and the code never adds more than that.

The functions are irreducible: proofs go through the one lemma that says what each of
them computes.
-/

namespace MeshCosi.Edwards25519

open Foundation

/-- The order of the field. -/
def fieldPrime : ℕ := 2 ^ 255 - 19

/-- `FieldElement`. -/
abbrev FieldElement := Limbs 32 10

/-- The width of limb `i`. -/
def limbBits (i : ℕ) : ℕ := if i % 2 = 0 then 26 else 25

/-- The weight of limb `i`: 0, 26, 51, 77, ... bits. -/
def feWeight (i : ℕ) : ℤ := 2 ^ ((51 * i + 1) / 2)

/-! ## Sums -/

/-- `FeZero`. -/
def feZero : FieldElement := List.Vector.replicate 10 0

/-- `FeOne`. -/
def feOne : FieldElement := feZero.set 0 1

/-- `FeAdd`. -/
@[irreducible] def feAdd (a b : FieldElement) : FieldElement :=
  List.Vector.ofFn fun i => a.get i + b.get i

/-- `FeSub`. -/
@[irreducible] def feSub (a b : FieldElement) : FieldElement :=
  List.Vector.ofFn fun i => a.get i - b.get i

/-- `FeNeg`. -/
@[irreducible] def feNeg (f : FieldElement) : FieldElement :=
  List.Vector.ofFn fun i => -f.get i

/-- `FeCMove`: without a branch on `b`. -/
@[irreducible] def feCMove (f g : FieldElement) (b : BitVec 32) : FieldElement :=
  List.Vector.ofFn fun i => f.get i ^^^ (-b &&& (f.get i ^^^ g.get i))

/-! ## Products -/

/-- The carries of `FeCombine`. -/
def combineSteps : List (LimbStep 10) :=
  [.carry 0 26 (2 ^ 25) 1 1, .carry 4 26 (2 ^ 25) 5 1,
    .carry 1 25 (2 ^ 24) 2 1, .carry 5 25 (2 ^ 24) 6 1,
    .carry 2 26 (2 ^ 25) 3 1, .carry 6 26 (2 ^ 25) 7 1,
    .carry 3 25 (2 ^ 24) 4 1, .carry 7 25 (2 ^ 24) 8 1,
    .carry 4 26 (2 ^ 25) 5 1, .carry 8 26 (2 ^ 25) 9 1,
    .carry 9 25 (2 ^ 24) 0 19, .carry 0 26 (2 ^ 25) 1 1]

/-- `FeCombine`. -/
@[irreducible] def feCombine (h : Limbs 64 10) : FieldElement :=
  (runAll combineSteps h).map (BitVec.setWidth 32)

/-- The left factor of term `i` of `h[k]` in `FeMul`: `f[i]`, or `2 * f[i]` where two
rounded weights meet. -/
def mulLeft (f : FieldElement) (k i : Fin 10) : BitVec 64 :=
  if i.val % 2 = 1 ∧ k.val % 2 = 0 then (2 * f.get i).signExtend 64
  else (f.get i).signExtend 64

/-- The right factor: `g[k - i]`, or `19 * g[k - i + 10]` beyond the last limb. -/
def mulRight (g : FieldElement) (k i : Fin 10) : BitVec 64 :=
  if i ≤ k then (g.get (k - i)).signExtend 64
  else (19 * g.get (k - i)).signExtend 64 -- the difference wraps around

/-- `FeMul`. -/
@[irreducible] def feMul (f g : FieldElement) : FieldElement :=
  feCombine <| List.Vector.ofFn fun k =>
    (List.finRange 10).foldl (fun s i => s + mulLeft f k i * mulRight g k i) 0

/-- `feSquare`. -/
def squareLimbs (f : FieldElement) : Limbs 64 10 :=
  let f0 := (f.get 0).signExtend 64
  let f1 := (f.get 1).signExtend 64
  let f2 := (f.get 2).signExtend 64
  let f3 := (f.get 3).signExtend 64
  let f4 := (f.get 4).signExtend 64
  let f5 := (f.get 5).signExtend 64
  let f6 := (f.get 6).signExtend 64
  let f7 := (f.get 7).signExtend 64
  let f8 := (f.get 8).signExtend 64
  let f9 := (f.get 9).signExtend 64
  let f0_2 := (2 * f.get 0).signExtend 64
  let f1_2 := (2 * f.get 1).signExtend 64
  let f2_2 := (2 * f.get 2).signExtend 64
  let f3_2 := (2 * f.get 3).signExtend 64
  let f4_2 := (2 * f.get 4).signExtend 64
  let f5_2 := (2 * f.get 5).signExtend 64
  let f6_2 := (2 * f.get 6).signExtend 64
  let f7_2 := (2 * f.get 7).signExtend 64
  let f5_38 := 38 * f5
  let f6_19 := 19 * f6
  let f7_38 := 38 * f7
  let f8_19 := 19 * f8
  let f9_38 := 38 * f9
  ⟨[f0 * f0 + f1_2 * f9_38 + f2_2 * f8_19 + f3_2 * f7_38 + f4_2 * f6_19 + f5 * f5_38,
    f0_2 * f1 + f2 * f9_38 + f3_2 * f8_19 + f4 * f7_38 + f5_2 * f6_19,
    f0_2 * f2 + f1_2 * f1 + f3_2 * f9_38 + f4_2 * f8_19 + f5_2 * f7_38 + f6 * f6_19,
    f0_2 * f3 + f1_2 * f2 + f4 * f9_38 + f5_2 * f8_19 + f6 * f7_38,
    f0_2 * f4 + f1_2 * f3_2 + f2 * f2 + f5_2 * f9_38 + f6_2 * f8_19 + f7 * f7_38,
    f0_2 * f5 + f1_2 * f4 + f2_2 * f3 + f6 * f9_38 + f7_2 * f8_19,
    f0_2 * f6 + f1_2 * f5_2 + f2_2 * f4 + f3_2 * f3 + f7_2 * f9_38 + f8 * f8_19,
    f0_2 * f7 + f1_2 * f6 + f2_2 * f5 + f3_2 * f4 + f8 * f9_38,
    f0_2 * f8 + f1_2 * f7_2 + f2_2 * f6 + f3_2 * f5_2 + f4 * f4 + f9 * f9_38,
    f0_2 * f9 + f1_2 * f8 + f2_2 * f7 + f3_2 * f6 + f4_2 * f5], rfl⟩

/-- `FeSquare`. -/
@[irreducible] def feSquare (f : FieldElement) : FieldElement := feCombine (squareLimbs f)

/-- `FeSquare2`. -/
@[irreducible] def feSquare2 (f : FieldElement) : FieldElement :=
  feCombine ((squareLimbs f).map fun h => h + h)

/-- `FeSquare` in a loop. -/
def feSquareTimes (n : ℕ) (f : FieldElement) : FieldElement := feSquare^[n] f

/-- `FeInvert`. -/
@[irreducible] def feInvert (z : FieldElement) : FieldElement :=
  let t0 := feSquare z
  let t1 := feSquareTimes 2 t0
  let t1 := feMul z t1
  let t0 := feMul t0 t1
  let t2 := feSquare t0
  let t1 := feMul t1 t2
  let t2 := feSquareTimes 5 t1
  let t1 := feMul t2 t1
  let t2 := feSquareTimes 10 t1
  let t2 := feMul t2 t1
  let t3 := feSquareTimes 20 t2
  let t2 := feMul t3 t2
  let t2 := feSquareTimes 10 t2
  let t1 := feMul t2 t1
  let t2 := feSquareTimes 50 t1
  let t2 := feMul t2 t1
  let t3 := feSquareTimes 100 t2
  let t2 := feMul t3 t2
  let t2 := feSquareTimes 50 t2
  let t1 := feMul t2 t1
  let t1 := feSquareTimes 5 t1
  feMul t1 t0

/-- `fePow22523`. -/
@[irreducible] def fePow22523 (z : FieldElement) : FieldElement :=
  let t0 := feSquare z
  let t1 := feSquareTimes 2 t0
  let t1 := feMul z t1
  let t0 := feMul t0 t1
  let t0 := feSquare t0
  let t0 := feMul t1 t0
  let t1 := feSquareTimes 5 t0
  let t0 := feMul t1 t0
  let t1 := feSquareTimes 10 t0
  let t1 := feMul t1 t0
  let t2 := feSquareTimes 20 t1
  let t1 := feMul t2 t1
  let t1 := feSquareTimes 10 t1
  let t0 := feMul t1 t0
  let t1 := feSquareTimes 50 t0
  let t1 := feMul t1 t0
  let t2 := feSquareTimes 100 t1
  let t1 := feMul t2 t1
  let t1 := feSquareTimes 50 t1
  let t0 := feMul t1 t0
  let t0 := feSquareTimes 2 t0
  feMul t0 z

/-! ## Bytes -/

/-- `FeFromBytes`. -/
@[irreducible] def feFromBytes (src : Block 32) : FieldElement :=
  let src := src.toList
  feCombine
    ⟨[load4 src, load3 (src.drop 4) <<< 6, load3 (src.drop 7) <<< 5, load3 (src.drop 10) <<< 3,
      load3 (src.drop 13) <<< 2, load4 (src.drop 16), load3 (src.drop 20) <<< 7,
      load3 (src.drop 23) <<< 5, load3 (src.drop 26) <<< 4,
      (load3 (src.drop 29) &&& 8388607) <<< 2], rfl⟩

/-- The quotient that `FeToBytes` computes. -/
def feQuotient (h : FieldElement) : BitVec 32 :=
  (List.finRange 10).foldl (fun q i => (h.get i + q).sshiftRight (limbBits i))
    ((19 * h.get 9 + 1 <<< 24).sshiftRight 25)

/-- The carries of `FeToBytes`; nothing is done with the last. -/
def toBytesSteps : List (LimbStep 10) :=
  [.carry 0 26 0 1 1, .carry 1 25 0 2 1, .carry 2 26 0 3 1, .carry 3 25 0 4 1,
    .carry 4 26 0 5 1, .carry 5 25 0 6 1, .carry 6 26 0 7 1, .carry 7 25 0 8 1,
    .carry 8 26 0 9 1, .carry 9 25 0 0 0]

/-- The bytes of carried limbs. -/
def feBytes (h : FieldElement) : Block 32 :=
  ⟨[toByte ((h.get 0).sshiftRight 0),
    toByte ((h.get 0).sshiftRight 8),
    toByte ((h.get 0).sshiftRight 16),
    toByte ((h.get 0).sshiftRight 24 ||| h.get 1 <<< 2),
    toByte ((h.get 1).sshiftRight 6),
    toByte ((h.get 1).sshiftRight 14),
    toByte ((h.get 1).sshiftRight 22 ||| h.get 2 <<< 3),
    toByte ((h.get 2).sshiftRight 5),
    toByte ((h.get 2).sshiftRight 13),
    toByte ((h.get 2).sshiftRight 21 ||| h.get 3 <<< 5),
    toByte ((h.get 3).sshiftRight 3),
    toByte ((h.get 3).sshiftRight 11),
    toByte ((h.get 3).sshiftRight 19 ||| h.get 4 <<< 6),
    toByte ((h.get 4).sshiftRight 2),
    toByte ((h.get 4).sshiftRight 10),
    toByte ((h.get 4).sshiftRight 18),
    toByte ((h.get 5).sshiftRight 0),
    toByte ((h.get 5).sshiftRight 8),
    toByte ((h.get 5).sshiftRight 16),
    toByte ((h.get 5).sshiftRight 24 ||| h.get 6 <<< 1),
    toByte ((h.get 6).sshiftRight 7),
    toByte ((h.get 6).sshiftRight 15),
    toByte ((h.get 6).sshiftRight 23 ||| h.get 7 <<< 3),
    toByte ((h.get 7).sshiftRight 5),
    toByte ((h.get 7).sshiftRight 13),
    toByte ((h.get 7).sshiftRight 21 ||| h.get 8 <<< 4),
    toByte ((h.get 8).sshiftRight 4),
    toByte ((h.get 8).sshiftRight 12),
    toByte ((h.get 8).sshiftRight 20 ||| h.get 9 <<< 6),
    toByte ((h.get 9).sshiftRight 2),
    toByte ((h.get 9).sshiftRight 10),
    toByte ((h.get 9).sshiftRight 18)], rfl⟩

/-- `FeToBytes`: the bytes, and what it leaves in its argument. -/
@[irreducible] def feToBytes (h : FieldElement) : Block 32 × FieldElement :=
  let h := h.set 0 (h.get 0 + 19 * feQuotient h)
  let h := runAll toBytesSteps h
  (feBytes h, h)

/-- `FeIsNegative`: the lowest bit, and what `FeToBytes` leaves in the argument. -/
@[irreducible] def feIsNegative (f : FieldElement) : UInt8 × FieldElement :=
  ((feToBytes f).1.toList.getD 0 0 &&& 1, (feToBytes f).2)

/-- `FeIsNonZero`: 1 if a byte is not zero, and what `FeToBytes` leaves in the argument. -/
@[irreducible] def feIsNonZero (f : FieldElement) : BitVec 32 × FieldElement :=
  let x := (feToBytes f).1.toList.foldl (fun x b => x ||| b) 0
  let x := x ||| x >>> 4
  let x := x ||| x >>> 2
  let x := x ||| x >>> 1
  ((x &&& 1).toBitVec.setWidth 32, (feToBytes f).2)

end MeshCosi.Edwards25519
