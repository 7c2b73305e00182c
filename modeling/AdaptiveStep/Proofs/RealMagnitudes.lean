import AdaptiveStep.Value.Projection
import AdaptiveStep.Proofs.RoundedRoots

/-!
# Magnitudes without an imaginary part

The root that a format takes of a square is exact. So the magnitude of a complex number whose imaginary
part is zero is that of its real part, although it goes through a sum of squares and a root.
-/

namespace AdaptiveStep

open Extended FloatType

namespace ComplexNumber

variable {t : FloatType} {z : ComplexNumber}

theorem magnitude_of_isZero (hre : t.Holds z.re) (him : z.im.isZero = true) :
    z.magnitude t = z.re.abs := by
  obtain ⟨x, y⟩ := z
  have hvalue : y.value? = some 0 := by
    cases y <;> simp_all [isZero, value?]
  have hsquare {q : ℚ} (hq : t.Holds (.finite q)) :
      (if q * q = 0 then .finite 0 else t.format.sqrt (q * q)) = (Extended.finite q).abs := by
    split_ifs with hzero
    · obtain rfl : q = 0 := mul_self_eq_zero.mp hzero
      simp [Extended.abs]
    · have hpositive : 0 < |q| := abs_pos.mpr fun h => hzero (by simp [h])
      rw [← abs_mul_abs_self, Format.sqrt_mul_self hpositive hq.1, Format.nearest_eq_self hpositive hq]
      rcases lt_or_ge q 0 with h | h
      · simp [Extended.abs, h, abs_of_neg h]
      · simp [Extended.abs, h.not_gt, abs_of_nonneg h]
  rcases x with _ | _ | _ | q <;> rcases y with _ | _ | _ | p <;> simp [isZero] at him
  case finite.negativeZero => simpa [magnitude, value?] using hsquare hre
  case finite.finite =>
    subst him
    simpa [magnitude, value?] using hsquare hre
  all_goals simp_all [magnitude, value?, Extended.abs]

end ComplexNumber

end AdaptiveStep
