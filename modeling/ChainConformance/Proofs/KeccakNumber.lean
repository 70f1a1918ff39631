import ChainConformance.Digest.Keccak
import Mathlib.Tactic.Common

/-!
# Keccak-256 on numbers

The sponge with its whole state in one natural number, of which each lane is a digit to base
2 ^ 64. It gives the same digests, and gives them by arithmetic, so that a digest can be
computed within a proof.
-/

namespace ChainConformance.Keccak

def assemble : List Nat → Nat
  | [] => 0
  | a :: rest => a + UInt64.size * assemble rest

def digit (n i : Nat) : Nat := n >>> (64 * i) % UInt64.size

def number (s : State) : Nat := assemble (s.toList.map UInt64.toNat)

lemma digit_assemble {l : List Nat} (h : ∀ a ∈ l, a < UInt64.size) {i : Nat}
    (hi : i < l.length) : digit (assemble l) i = l[i] := by
  induction l generalizing i with
  | nil => cases hi
  | cons a rest ih =>
    obtain ⟨ha, hrest⟩ := List.forall_mem_cons.mp h
    cases i with
    | zero =>
      rw [digit, assemble, Nat.mul_zero, Nat.shiftRight_zero, Nat.add_mul_mod_self_left,
        Nat.mod_eq_of_lt ha, List.getElem_cons_zero]
    | succ i =>
      have hfirst : (a + UInt64.size * assemble rest) / UInt64.size = assemble rest := by
        rw [Nat.add_mul_div_left _ _ (by decide), Nat.div_eq_of_lt ha, Nat.zero_add]
      have hshift : (a + UInt64.size * assemble rest) >>> 64 = assemble rest :=
        (Nat.shiftRight_eq_div_pow _ 64).trans hfirst
      rw [digit, assemble, Nat.mul_succ, Nat.add_comm (64 * i), Nat.shiftRight_add, hshift]
      exact ih hrest (Nat.lt_of_succ_lt_succ hi)

lemma digit_number (s : State) {i : Nat} (hi : i < 25) : digit (number s) i = s[i].toNat := by
  have hlength : i < (s.toList.map UInt64.toNat).length := by simpa using hi
  rw [number, digit_assemble _ hlength]
  · simp
  · intro a ha
    obtain ⟨w, _, rfl⟩ := List.mem_map.mp ha
    exact w.toNat_lt

/-- A state has the number that is assembled from what its lanes are. -/
lemma number_eq {s : State} {f : Nat → Nat} (h : ∀ i (hi : i < 25), s[i].toNat = f i) :
    number s = assemble ((List.range 25).map f) := by
  refine congrArg assemble (List.ext_getElem (by simp) fun i hi hi' => ?_)
  have hlt : i < 25 := by simpa using hi'
  simpa using h i hlt

def laneDigit (n x y : Nat) : Nat := digit n (x % 5 + 5 * (y % 5))

lemma lane_toNat (s : State) (x y : Nat) : (s.lane x y).toNat = laneDigit (number s) x y := by
  rw [laneDigit, digit_number s (by omega)]
  rfl

def turn (w n : Nat) : Nat := w <<< (n % 64) % UInt64.size ||| w >>> ((64 - n) % 64)

lemma rotate_toNat (w n : UInt64) (h : n.toNat ≤ 64) :
    (rotate w n).toNat = turn w.toNat n.toNat := by
  have hrest : (64 - n).toNat = 64 - n.toNat := UInt64.toNat_sub_of_le _ _ h
  rw [rotate, UInt64.toNat_or, UInt64.toNat_shiftLeft, UInt64.toNat_shiftRight, hrest]
  rfl

def column (s : State) (x : Nat) : UInt64 :=
  s.lane x 0 ^^^ s.lane x 1 ^^^ s.lane x 2 ^^^ s.lane x 3 ^^^ s.lane x 4

def columnsNumber (n : Nat) : Nat :=
  assemble ((List.range 5).map fun x =>
    laneDigit n x 0 ^^^ laneDigit n x 1 ^^^ laneDigit n x 2 ^^^ laneDigit n x 3 ^^^
      laneDigit n x 4)

lemma digit_columns (s : State) {x : Nat} (hx : x < 5) :
    digit (columnsNumber (number s)) x = (column s x).toNat := by
  have hcolumn : ∀ x, laneDigit (number s) x 0 ^^^ laneDigit (number s) x 1 ^^^
      laneDigit (number s) x 2 ^^^ laneDigit (number s) x 3 ^^^ laneDigit (number s) x 4 =
        (column s x).toNat := by
    intro x
    simp only [column, UInt64.toNat_xor, lane_toNat]
  rw [columnsNumber, digit_assemble _ (by simpa using hx)]
  · simp [hcolumn]
  · intro a ha
    obtain ⟨x, _, rfl⟩ := List.mem_map.mp ha
    rw [hcolumn]
    exact UInt64.toNat_lt _

def thetaNumber (n : Nat) : Nat :=
  assemble ((List.range 25).map fun i =>
    digit n i ^^^ digit (columnsNumber n) ((i + 4) % 5) ^^^
      turn (digit (columnsNumber n) ((i + 1) % 5)) 1)

lemma number_theta (s : State) : number (theta s) = thetaNumber (number s) := by
  refine number_eq fun i hi => ?_
  have hlane : (theta s)[i] =
      s[i] ^^^ column s ((i + 4) % 5) ^^^ rotate (column s ((i + 1) % 5)) 1 := by
    have hget : ∀ (f : Fin 5 → UInt64) (x : Fin 5), (Vector.ofFn f).get x = f x :=
      fun f x => Vector.getElem_ofFn x.isLt
    simp only [theta, Vector.getElem_ofFn, hget]
    rfl
  have hmod : ∀ n, n % 5 < 5 := fun n => Nat.mod_lt n (by decide)
  have hturn := rotate_toNat (column s ((i + 1) % 5)) 1 (by decide)
  rw [hlane, UInt64.toNat_xor, UInt64.toNat_xor, hturn, digit_number s hi,
    digit_columns s (hmod _), digit_columns s (hmod _)]
  rfl

def rhoPiNumber (n : Nat) : Nat :=
  assemble ((List.range 25).map fun i =>
    turn (laneDigit n (i % 5 + 3 * (i / 5)) (i % 5))
      (laneDigit (number offsets) (i % 5 + 3 * (i / 5)) (i % 5)))

lemma offset_le (x y : Nat) : (State.lane offsets x y).toNat ≤ 64 := by
  have hall : ∀ i : Fin 25, (offsets.get i).toNat ≤ 64 := by decide
  exact hall _

lemma number_rhoPi (s : State) : number (rhoPi s) = rhoPiNumber (number s) := by
  refine number_eq fun i hi => ?_
  rw [← lane_toNat, ← lane_toNat, ← rotate_toNat _ _ (offset_le _ _), rhoPi, Vector.getElem_ofFn]

def chiNumber (n : Nat) : Nat :=
  assemble ((List.range 25).map fun i =>
    digit n i ^^^ ((UInt64.size - 1 - laneDigit n (i + 1) (i / 5)) &&& laneDigit n (i + 2) (i / 5)))

lemma number_chi (s : State) : number (chi s) = chiNumber (number s) := by
  refine number_eq fun i hi => ?_
  rw [← lane_toNat, ← lane_toNat, digit_number s hi, chi, Vector.getElem_ofFn]
  rw [UInt64.toNat_xor, UInt64.toNat_and, UInt64.toNat_not]
  rfl

def roundNumber (n constant : Nat) : Nat :=
  assemble ((List.range 25).map fun i =>
    digit (chiNumber (rhoPiNumber (thetaNumber n))) i ^^^ if i = 0 then constant else 0)

lemma number_round (s : State) (constant : UInt64) :
    number (round s constant) = roundNumber (number s) constant.toNat := by
  rw [roundNumber, ← number_theta, ← number_rhoPi, ← number_chi]
  refine number_eq fun i hi => ?_
  rw [digit_number _ hi, round, Vector.getElem_set]
  by_cases hzero : i = 0
  · subst hzero
    simp
  · simp [hzero, Ne.symm hzero]

lemma number_foldl (constants : List UInt64) (s : State) : number (constants.foldl round s) =
    (constants.map UInt64.toNat).foldl roundNumber (number s) := by
  induction constants generalizing s with
  | nil => rfl
  | cons constant rest ih => rw [List.foldl_cons, ih, number_round, List.map_cons, List.foldl_cons]

def permuteNumber (n : Nat) : Nat := (roundConstants.map UInt64.toNat).foldl roundNumber n

lemma number_permute (s : State) : number (permute s) = permuteNumber (number s) :=
  number_foldl roundConstants s

def addBlock (n : Nat) (block : Bytes) : Nat :=
  assemble ((List.range 25).map fun i =>
    digit n i ^^^ (laneOfBytes ((block.drop (8 * i)).take 8)).toNat)

lemma number_absorb (s : State) (block : Bytes) :
    number (absorb s block) = permuteNumber (addBlock (number s) block) := by
  rw [absorb, number_permute]
  refine congrArg permuteNumber (number_eq fun i hi => ?_)
  rw [digit_number s hi, Vector.getElem_ofFn, UInt64.toNat_xor]
  rfl

def absorbBlocksNumber : Nat → Nat → Bytes → Nat
  | 0, n, _ => n
  | count + 1, n, bs =>
    absorbBlocksNumber count (permuteNumber (addBlock n (bs.take rate))) (bs.drop rate)

lemma number_absorbBlocks (count : Nat) (s : State) (bs : Bytes) :
    number (absorbBlocks count s bs) = absorbBlocksNumber count (number s) bs := by
  induction count generalizing s bs with
  | zero => rfl
  | succ count ih => rw [absorbBlocks, ih, number_absorb, absorbBlocksNumber]

def spongeNumber (message : Bytes) : Nat :=
  let padded := message ++ padding message.length
  absorbBlocksNumber (padded.length / rate) 0 padded

lemma number_sponge (message : Bytes) : number (sponge message) = spongeNumber message := by
  rw [sponge, number_absorbBlocks]
  rfl

lemma keccak256_bytes (message : Bytes) : (keccak256 message).bytes =
    (List.range 4).flatMap fun i =>
      bytesOfLane (UInt64.ofNat (digit (spongeNumber message) i)) := by
  have hlane : ∀ i (hi : i < 25),
      UInt64.ofNat (digit (spongeNumber message) i) = (sponge message)[i] := by
    intro i hi
    rw [← number_sponge, digit_number _ hi, UInt64.ofNat_toNat]
  have hrange : List.range 4 = [0, 1, 2, 3] := rfl
  rw [hrange]
  simp [hlane, keccak256]

end ChainConformance.Keccak
