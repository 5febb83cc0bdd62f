import Mathlib
import WorkWatch.Decimal.Binary

/-! The form in which doubles are stored: a mantissa below `2 ^ 53`, an exponent from `-1074` to
`971`, and no leading zeros in the mantissa unless the exponent is the least one. Unpacking gives
this form, and packing it loses nothing; an exponent past the greatest one packs to infinity. -/

namespace WorkWatch.Double

open Float.Model Float.Model.UnpackedFloat

/-- What an exponent field and a fraction field stand for. -/
def ofFields (s : Sign) (field fraction : Nat) : UnpackedFloat :=
  if field = 2047 then if fraction = 0 then .infinity s else .notANumber
  else if field = 0 then
    if h : fraction = 0 then .zero s else .finite s fraction (-1074) (Nat.pos_of_ne_zero h)
  else .finite s (2 ^ 52 + fraction) ((field : Int) - 1075) (by omega)

theorem implicit_toNat (m : BitVec 52) : (1#1 ++ m).toNat = 2 ^ 52 + m.toNat := by
  have hm := m.isLt
  rw [BitVec.toNat_append, ← Nat.shiftLeft_add_eq_or_of_lt hm]
  simp

theorem unpack_eq_ofFields (b : BitVec 64) :
    UnpackedFloat.unpack Format.binary64 b =
      ofFields (.ofBitVec (@unpackSign Format.binary64 b))
        (@unpackExponent Format.binary64 b).toNat
        (@unpackMantissa Format.binary64 b).toNat := by
  have hones (v : BitVec 11) : v = -1#11 ↔ v.toNat = 2047 := by
    rw [← BitVec.toNat_inj]
    rfl
  have hzero {n : Nat} (v : BitVec n) : v = 0#n ↔ v.toNat = 0 := by
    rw [← BitVec.toNat_inj]
    simp
  have hbias : (Format.binary64.exponentBias : Int) = 1023 := rfl
  unfold UnpackedFloat.unpack ofFields
  simp only [hones, hzero, implicit_toNat, hbias]
  split
  · rfl
  · split
    · rename_i hfield
      simp [hfield]
    · rfl

/-- A mantissa and an exponent without leading zeros, as far as the least exponent allows. -/
structure Canonical (m : Nat) (e : Int) : Prop where
  lt : m < 2 ^ 53
  least : -1074 ≤ e
  full : 2 ^ 52 ≤ m ∨ e = -1074

/-- What is unpacked from the bits of a double. -/
def IsStored : UnpackedFloat → Prop
  | .finite _ m e _ => Canonical m e ∧ e ≤ 971
  | _ => True

theorem ofFields_stored (s : Sign) {field fraction : Nat} (hfield : field < 2048)
    (hfraction : fraction < 2 ^ 52) : IsStored (ofFields s field fraction) := by
  unfold ofFields
  split
  · split <;> trivial
  · split
    · split
      · trivial
      · exact ⟨⟨by omega, by omega, Or.inr rfl⟩, by omega⟩
    · exact ⟨⟨by omega, by omega, Or.inl (by omega)⟩, by omega⟩

theorem unpack_stored (x : Float.Model) : IsStored x.unpack := by
  unfold Float.Model.unpack
  rw [unpack_eq_ofFields]
  exact ofFields_stored _ (BitVec.isLt _) (BitVec.isLt _)

@[simp] theorem unpackSign_packComponents (s : Sign) (field : BitVec 11) (fraction : BitVec 52) :
    unpackSign (packComponents Format.binary64 s field fraction) = s.toBitVec := by
  change ((s.toBitVec ++ field ++ fraction).extractLsb' 63 1) = s.toBitVec
  rw [BitVec.extractLsb'_append_eq_of_le (by decide),
    BitVec.extractLsb'_append_eq_of_le (by decide)]
  simp

@[simp] theorem ofBitVec_toBitVec (s : Sign) : Sign.ofBitVec s.toBitVec = s := by
  cases s <;> rfl

theorem unpack_of_components (u : UnpackedFloat) (s : Sign) (field : BitVec 11)
    (fraction : BitVec 52)
    (h : UnpackedFloat.pack Format.binary64 u = packComponents Format.binary64 s field fraction) :
    (Float.Model.pack u).unpack = ofFields s field.toNat fraction.toNat := by
  unfold Float.Model.unpack Float.Model.pack
  simp only [h, unpack_eq_ofFields, unpackMantissa_packComponents, unpackExponent_packComponents,
    unpackSign_packComponents, ofBitVec_toBitVec]

@[simp] theorem unpack_pack_infinity (s : Sign) :
    (Float.Model.pack (.infinity s)).unpack = .infinity s :=
  unpack_of_components (.infinity s) s (-1#11) 0#52 rfl

@[simp] theorem unpack_pack_zero (s : Sign) : (Float.Model.pack (.zero s)).unpack = .zero s :=
  unpack_of_components (.zero s) s 0#11 0#52 rfl

@[simp] theorem unpack_pack_notANumber :
    (Float.Model.pack .notANumber).unpack = .notANumber :=
  unpack_of_components .notANumber .positive (-1#11) (1#52 <<< 51) rfl

/-- Packing keeps what is stored; past the greatest exponent it gives infinity. -/
theorem unpack_pack_finite {m : Nat} {e : Int} (hc : Canonical m e) (s : Sign) (hm : 0 < m) :
    (Float.Model.pack (.finite s m e hm)).unpack =
      if e ≤ 971 then .finite s m e hm else .infinity s := by
  have hlt := hc.lt
  have hleast := hc.least
  have hpack : UnpackedFloat.pack Format.binary64 (.finite s m e hm) =
      if 2048 ≤ (e + 1023 + 52).toNat + 1 then packComponents Format.binary64 s (-1#11) 0#52
      else if m.log2 + 1 = 53 then
        packComponents Format.binary64 s (.ofNat 11 (e + 1023 + 52).toNat) (.ofNat 52 m)
      else packComponents Format.binary64 s 0#11 (.ofNat 52 m) := rfl
  split
  · rename_i hle
    rw [if_neg (by omega)] at hpack
    rcases Nat.lt_or_ge m (2 ^ 52) with hsub | hfull
    · have hlog : m.log2 < 52 := (Nat.log2_lt (by omega)).mpr hsub
      have he : e = -1074 := hc.full.resolve_left (by omega)
      rw [if_neg (by omega)] at hpack
      rw [unpack_of_components _ _ _ _ hpack]
      change ofFields s 0 (m % 2 ^ 52) = _
      rw [Nat.mod_eq_of_lt hsub]
      simp [ofFields, Nat.ne_of_gt hm, he]
    · have hlog : m.log2 = 52 := (Nat.log2_eq_iff (by omega)).mpr ⟨hfull, hlt⟩
      rw [if_pos (by omega)] at hpack
      rw [unpack_of_components _ _ _ _ hpack, BitVec.toNat_ofNat, BitVec.toNat_ofNat]
      unfold ofFields
      rw [if_neg (by omega), if_neg (by omega)]
      congr 1 <;> omega
  · rw [if_pos (by omega)] at hpack
    exact unpack_of_components _ _ _ _ hpack

theorem unpack_pack_stored {u : UnpackedFloat} (hu : IsStored u) :
    (Float.Model.pack u).unpack = u := by
  match u with
  | .notANumber => exact unpack_pack_notANumber
  | .infinity s => exact unpack_pack_infinity s
  | .zero s => exact unpack_pack_zero s
  | .finite s m e hm => rw [unpack_pack_finite hu.1, if_pos hu.2]

end WorkWatch.Double
