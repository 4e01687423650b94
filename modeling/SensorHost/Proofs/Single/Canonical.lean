import Mathlib
import SensorHost.Number.Single

/-!
# Singles and their parts

The bits of a single spell a sign, a significand and an exponent. `held_finite` says that a number
in canonical form is held in them as it is, and `wellformed_unpack` that whatever they spell is in
that form.
-/

namespace SensorHost.Single

open Float.Model Float.Model.UnpackedFloat

/-- The significand and the exponent of a finite single other than zero: 24 bits, or fewer at the
lowest exponent. -/
def Canonical (m : Nat) (e : Int) : Prop :=
  m < 2 ^ 24 ∧ -149 ≤ e ∧ (2 ^ 23 ≤ m ∨ e = -149)

/-- What a single unpacks to. -/
def Wellformed : UnpackedFloat → Prop
  | .finite _ m e _ => Canonical m e ∧ e ≤ 104
  | _ => True

/-- What a number is once it is held in 32 bits. -/
def held (u : UnpackedFloat) : UnpackedFloat :=
  UnpackedFloat.unpack Format.binary32 (UnpackedFloat.pack Format.binary32 u)

theorem unpackSign_packComponents (s : Sign) (e : BitVec 8) (m : BitVec 23) :
    unpackSign (packComponents Format.binary32 s e m) = s.toBitVec := by
  simp only [unpackSign, packComponents, BitVec.extractLsb]
  rw [BitVec.extractLsb'_append_eq_of_le (by decide),
    BitVec.extractLsb'_append_eq_of_le (by decide)]
  cases s <;> rfl

theorem ofBitVec_toBitVec (s : Sign) : Sign.ofBitVec s.toBitVec = s := by
  cases s <;> rfl

theorem toNat_implicit (m : BitVec 23) : (1#1 ++ m).toNat = 2 ^ 23 + m.toNat := by
  rw [BitVec.toNat_append, ← Nat.shiftLeft_add_eq_or_of_lt m.isLt]
  rfl

/-- What is unpacked is canonical. -/
theorem wellformed_unpack (b : BitVec 32) :
    Wellformed (UnpackedFloat.unpack Format.binary32 b) := by
  have hm := (@unpackMantissa Format.binary32 b).isLt
  have he := (@unpackExponent Format.binary32 b).isLt
  simp only [Format.binary32] at hm he
  unfold UnpackedFloat.unpack
  simp only
  split
  · split <;> trivial
  · rename_i notTop
    have top : (@unpackExponent Format.binary32 b).toNat ≠ 255 := by
      intro h
      exact notTop (BitVec.eq_of_toNat_eq h)
    split
    · split
      · trivial
      · rename_i zero _
        have e0 : (@unpackExponent Format.binary32 b).toNat = 0 := by
          rw [zero]; rfl
        refine ⟨⟨by omega, ?_, .inr ?_⟩, ?_⟩ <;> simp [e0, Format.exponentBias]
    · rename_i nonzero
      have e0 : (@unpackExponent Format.binary32 b).toNat ≠ 0 := by
        intro h
        exact nonzero (BitVec.eq_of_toNat_eq h)
      refine ⟨⟨?_, ?_, .inl ?_⟩, ?_⟩
      · rw [toNat_implicit]; omega
      · simp [Format.exponentBias]; omega
      · rw [toNat_implicit]; omega
      · simp [Format.exponentBias]; omega

theorem unpack_packComponents (s : Sign) (e : BitVec 8) (m : BitVec 23) :
    UnpackedFloat.unpack Format.binary32 (packComponents Format.binary32 s e m) =
      if e = -1#8 then (if m = 0#23 then .infinity s else .notANumber)
      else if e = 0#8 then
        if h : m = 0#23 then .zero s
        else .finite s m.toNat (-149) (by simpa [BitVec.toNat_pos, BitVec.pos_iff_ne_zero])
      else .finite s (2 ^ 23 + m.toNat) (e.toNat - 150) (by omega) := by
  have sign : Sign.ofBitVec (unpackSign (packComponents Format.binary32 s e m)) = s := by
    rw [unpackSign_packComponents, ofBitVec_toBitVec]
  unfold UnpackedFloat.unpack
  simp only [unpackMantissa_packComponents, unpackExponent_packComponents, sign]
  split
  · rfl
  · split
    · rename_i zero
      subst zero
      rfl
    · congr 1
      exact toNat_implicit m

theorem ofNat_ne {w n : Nat} {b : BitVec w} (h : n % 2 ^ w ≠ b.toNat) : BitVec.ofNat w n ≠ b := by
  intro eq
  rw [← eq, BitVec.toNat_ofNat] at h
  exact h rfl

/-- A number with 24 bits, the first of which is not written. -/
theorem held_normal {s : Sign} {m : Nat} {e : Int} (pos : 0 < m) (full : 2 ^ 23 ≤ m)
    (small : m < 2 ^ 24) (low : -149 ≤ e) (fits : e ≤ 104) :
    held (.finite s m e pos) = .finite s m e pos := by
  have top : ¬ 256 ≤ (e + 150).toNat + 1 := by omega
  have biased : e + 127 + 23 = e + 150 := by omega
  have log : m.log2 = 23 := (Nat.log2_eq_iff (by omega)).mpr ⟨full, small⟩
  have packed : UnpackedFloat.pack Format.binary32 (.finite s m e pos) =
      packComponents Format.binary32 s (BitVec.ofNat 8 (e + 150).toNat) (BitVec.ofNat 23 m) := by
    simp [UnpackedFloat.pack, Format.exponentBias, Format.mantissaBits, log, biased, top]
  have notTop : BitVec.ofNat 8 (e + 150).toNat ≠ -1#8 := by
    apply ofNat_ne
    show _ % 256 ≠ 255
    omega
  have notBottom : BitVec.ofNat 8 (e + 150).toNat ≠ 0#8 := by
    apply ofNat_ne
    show _ % 256 ≠ 0
    omega
  rw [held, packed, unpack_packComponents, if_neg notTop, if_neg notBottom]
  congr 1
  · rw [BitVec.toNat_ofNat]
    omega
  · rw [BitVec.toNat_ofNat]
    omega

/-- A number at the lowest exponent, with fewer bits. -/
theorem held_subnormal {s : Sign} {m : Nat} (pos : 0 < m) (small : m < 2 ^ 23) :
    held (.finite s m (-149) pos) = .finite s m (-149) pos := by
  have log : m.log2 < 23 := (Nat.log2_lt (by omega)).mpr small
  have short : ¬ m.log2 + 1 = 24 := by omega
  have packed : UnpackedFloat.pack Format.binary32 (.finite s m (-149) pos) =
      packComponents Format.binary32 s 0#8 (BitVec.ofNat 23 m) := by
    simp [UnpackedFloat.pack, Format.exponentBias, Format.mantissaBits, short]
  have nonzero : BitVec.ofNat 23 m ≠ 0#23 := by
    apply ofNat_ne
    show _ % 2 ^ 23 ≠ 0
    omega
  rw [held, packed, unpack_packComponents, if_neg (by decide), if_pos rfl, dif_neg nonzero]
  congr 1
  rw [BitVec.toNat_ofNat]
  omega

/-- A canonical number that is not beyond the largest one is held as it is. -/
theorem held_finite {s : Sign} {m : Nat} {e : Int} (pos : 0 < m) (canonical : Canonical m e)
    (fits : e ≤ 104) : held (.finite s m e pos) = .finite s m e pos := by
  obtain ⟨small, low, full⟩ := canonical
  by_cases normal : 2 ^ 23 ≤ m
  · exact held_normal pos normal small low fits
  · obtain rfl : e = -149 := full.resolve_left normal
    exact held_subnormal pos (by omega)

/-- A number beyond the largest one is held as an infinity. -/
theorem held_overflow {s : Sign} {m : Nat} {e : Int} (pos : 0 < m) (beyond : 104 < e) :
    held (.finite s m e pos) = .infinity s := by
  have top : 256 ≤ (e + 127 + 23).toNat + 1 := by omega
  have packed : UnpackedFloat.pack Format.binary32 (.finite s m e pos) =
      packComponents Format.binary32 s (-1#8) 0#23 := by
    simp [UnpackedFloat.pack, Format.exponentBias, top, packedInfinity]
  rw [held, packed, unpack_packComponents, if_pos rfl, if_pos rfl]

theorem held_zero (s : Sign) : held (.zero s) = .zero s := by
  cases s <;> rfl

theorem held_infinity (s : Sign) : held (.infinity s) = .infinity s := by
  cases s <;> rfl

theorem held_notANumber : held .notANumber = .notANumber := rfl

end SensorHost.Single
