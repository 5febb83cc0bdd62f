import WorkWatch.Decimal.Nearest
import WorkWatch.Proofs.Double.Order

/-! The mantissa and exponent that `Decimal.Binary` reads off the bits of a double are those of the
double as it is unpacked. The double at a rank has the quotient and the remainder of the rank by the
number of doubles in a binade as its two fields. -/

namespace WorkWatch.Double

open Float.Model Float.Model.UnpackedFloat
open Decimal (Binary)

def isNegative : Sign → Bool
  | .negative => true
  | .positive => false

/-- An unpacked double as a signed mantissa with an exponent. -/
def toBinary : UnpackedFloat → Binary
  | .notANumber => .nan
  | .infinity s => .infinite (isNegative s)
  | .zero s => .finite (isNegative s) 0 Decimal.leastExponent
  | .finite s m e _ => .finite (isNegative s) m e

theorem field_toNat (b : BitVec 64) :
    (@unpackExponent Format.binary64 b).toNat = b.toNat / 2 ^ 52 % 2 ^ 11 := by
  simp [unpackExponent, BitVec.extractLsb, Nat.shiftRight_eq_div_pow]

theorem fraction_toNat (b : BitVec 64) :
    (@unpackMantissa Format.binary64 b).toNat = b.toNat % 2 ^ 52 := by
  simp [unpackMantissa, BitVec.extractLsb]

theorem sign_toNat (b : BitVec 64) :
    (@unpackSign Format.binary64 b).toNat = b.toNat / 2 ^ 63 := by
  have hb := b.isLt
  simp [unpackSign, BitVec.extractLsb, Nat.shiftRight_eq_div_pow]
  omega

theorem isNegative_ofBitVec (v : BitVec 1) : isNegative (.ofBitVec v) = decide (v.toNat = 1) := by
  revert v
  decide

theorem toBinary_ofFields (s : Sign) {field fraction : Nat} (hfield : field < 2048)
    (hfraction : fraction < 2 ^ 52) :
    toBinary (ofFields s field fraction) =
      .ofRank (isNegative s) (field * 2 ^ 52 + fraction) := by
  have hbinade : Decimal.binade = 2 ^ 52 := rfl
  have hinfinite : Decimal.infiniteRank = 2047 * 2 ^ 52 := rfl
  have hleast : Decimal.leastExponent = -1074 := rfl
  unfold ofFields Binary.ofRank
  rw [hbinade, hinfinite, hleast]
  dsimp only
  have hdiv : (field * 2 ^ 52 + fraction) / 2 ^ 52 = field := by omega
  have hmod : (field * 2 ^ 52 + fraction) % 2 ^ 52 = fraction := by omega
  rw [hdiv, hmod]
  by_cases hinf : field = 2047
  · by_cases hz : fraction = 0
    · simp [hinf, hz, toBinary]
    · have : field * 2 ^ 52 + fraction ≠ 2047 * 2 ^ 52 := by omega
      have : 2047 * 2 ^ 52 < field * 2 ^ 52 + fraction := by omega
      simp_all [toBinary]
  · have hne : field * 2 ^ 52 + fraction ≠ 2047 * 2 ^ 52 := by omega
    have hle : ¬ 2047 * 2 ^ 52 < field * 2 ^ 52 + fraction := by omega
    simp only [hinf, hne, hle, if_false]
    by_cases hsub : field = 0
    · by_cases hz : fraction = 0
      · simp [hsub, hz, toBinary, hleast]
      · simp [hsub, hz, toBinary]
    · simp only [hsub, if_false, toBinary]
      rw [Nat.add_comm]
      congr 1
      omega

theorem binary_ofFloat (x : Float) : Binary.ofFloat x = toBinary x.toModel.unpack := by
  have hb : x.toModel.toBits.toBitVec.toNat < 2 ^ 64 := BitVec.isLt _
  have hbits : x.toBits.toNat = x.toModel.toBits.toBitVec.toNat := rfl
  have hsign : Decimal.signBit = 2 ^ 63 := rfl
  unfold Float.Model.unpack Binary.ofFloat
  rw [unpack_eq_ofFields, toBinary_ofFields _ (BitVec.isLt _) (BitVec.isLt _), isNegative_ofBitVec,
    sign_toNat, field_toNat, fraction_toNat, hbits, hsign]
  dsimp only
  generalize x.toModel.toBits.toBitVec.toNat = bits at hb
  have hrank : bits % 2 ^ 63 = bits / 2 ^ 52 % 2 ^ 11 * 2 ^ 52 + bits % 2 ^ 52 := by omega
  rw [hrank]
  congr 1
  simp only [decide_eq_decide]
  omega

theorem isFinite_iff {x : Float} :
    Decimal.isFinite x = true ↔ IsNumber x ∧ ∀ s, x.toModel.unpack ≠ .infinity s := by
  unfold Decimal.isFinite IsNumber
  rw [binary_ofFloat]
  cases x.toModel.unpack <;> simp [toBinary]

theorem unpack_ofRank (negative : Bool) {rank : Nat} (hrank : rank ≤ Decimal.infiniteRank) :
    (Decimal.ofRank negative rank).toModel.unpack =
      ofFields (if negative then .negative else .positive) (rank / 2 ^ 52) (rank % 2 ^ 52) := by
  have hinfinite : Decimal.infiniteRank = 2047 * 2 ^ 52 := rfl
  have hsign : Decimal.signBit = 2 ^ 63 := rfl
  have hstored (b : BitVec 64) : IsStored (UnpackedFloat.unpack Format.binary64 b) := by
    rw [unpack_eq_ofFields]
    exact ofFields_stored _ (BitVec.isLt _) (BitVec.isLt _)
  have hsigned (v : BitVec 1) : Sign.ofBitVec v = if v.toNat = 0 then .positive else .negative := by
    simp [Sign.ofBitVec, ← BitVec.toNat_inj]
  have hbits (k : Nat) : (UInt64.ofNat k).toNat = k % 2 ^ 64 := UInt64.toNat_ofNat'
  rw [hinfinite] at hrank
  change (Float.Model.pack (UnpackedFloat.unpack Format.binary64 _)).unpack = _
  rw [unpack_pack_stored (hstored _), unpack_eq_ofFields, hsigned, sign_toNat, field_toNat,
    fraction_toNat]
  simp only [hinfinite, Nat.min_eq_left hrank, hsign, UInt64.toNat_toBitVec, hbits]
  cases negative
  · have hpart : (rank + if false = true then 2 ^ 63 else 0) % 2 ^ 64 = rank := by
      simp only [Bool.false_eq_true, if_false]
      omega
    have hpositive : rank / 2 ^ 63 = 0 := by omega
    have hfield : rank / 2 ^ 52 % 2 ^ 11 = rank / 2 ^ 52 := by omega
    rw [hpart, hpositive, hfield]
    rfl
  · have hpart : (rank + if true = true then 2 ^ 63 else 0) % 2 ^ 64 = rank + 2 ^ 63 := by
      simp only [if_true]
      omega
    have hnegative : (rank + 2 ^ 63) / 2 ^ 63 = 1 := by omega
    have hfield : (rank + 2 ^ 63) / 2 ^ 52 % 2 ^ 11 = rank / 2 ^ 52 := by omega
    have hfraction : (rank + 2 ^ 63) % 2 ^ 52 = rank % 2 ^ 52 := by omega
    rw [hpart, hnegative, hfield, hfraction]
    rfl

end WorkWatch.Double
