import Mathlib.Data.Nat.Digits.Defs
import Mathlib.Order.Basic

/-! Decimal texts padded with zeros. Texts of one width sort as their numbers do. -/

namespace DecimalText

/-- The digits of a number, padded with zeros to a width. -/
def padded (width n : Nat) : List Char := (Nat.toDigits 10 n).leftpad width '0'

theorem toDigits_length_le {w n : Nat} (hw : 0 < w) (h : n < 10 ^ w) :
    (Nat.toDigits 10 n).length ≤ w :=
  Nat.toDigits_length 10 n w hw h

theorem length_padded {w n : Nat} (hw : 0 < w) (h : n < 10 ^ w) : (padded w n).length = w := by
  have hle := toDigits_length_le hw h
  simp only [padded, List.leftpad, List.length_append, List.length_replicate]
  omega

/-- The last digit of a padded text. -/
theorem padded_succ {w : Nat} (hw : 0 < w) (n : Nat) :
    padded (w + 1) n = padded w (n / 10) ++ [Nat.digitChar (n % 10)] := by
  by_cases hsmall : n < 10
  · have hdigits : Nat.toDigits 10 n = [Nat.digitChar n] := Nat.toDigits_of_lt_base hsmall
    have hzero : n / 10 = 0 := Nat.div_eq_of_lt hsmall
    have hmod : n % 10 = n := Nat.mod_eq_of_lt hsmall
    have hreplicate : List.replicate w '0' = List.replicate (w - 1) '0' ++ ['0'] := by
      rw [← List.replicate_succ', Nat.sub_add_cancel hw]
    simp [padded, List.leftpad, hdigits, hzero, hmod, hreplicate]
  · have hdigits := Nat.toDigits_of_base_le (b := 10) (by decide) (Nat.le_of_not_lt hsmall)
    simp only [padded, List.leftpad, hdigits, List.length_append, List.length_singleton,
      Nat.add_sub_add_right, List.append_assoc]

/-- Two texts that begin with texts of one length are compared by these first. -/
theorem append_lt_append_iff {l l' r r' : List Char} (h : l.length = l'.length) :
    l ++ r < l' ++ r' ↔ l < l' ∨ l = l' ∧ r < r' := by
  induction l generalizing l' with
  | nil =>
    obtain rfl : l' = [] := List.length_eq_zero_iff.mp h.symm
    simp
  | cons a l ih =>
    cases l' with
    | nil => cases h
    | cons b l' =>
      have hlength : l.length = l'.length := Nat.succ.inj h
      simp only [List.cons_append, List.cons_lt_cons_iff, ih hlength, List.cons.injEq]
      tauto

theorem digitChar_lt_iff {a b : Nat} (ha : a < 10) (hb : b < 10) :
    Nat.digitChar a < Nat.digitChar b ↔ a < b := by
  have hall : ∀ a < 10, ∀ b < 10, (Nat.digitChar a < Nat.digitChar b ↔ a < b) := by decide
  exact hall a ha b hb

/-- Texts that sort as their numbers are those of different numbers. -/
theorem eq_iff_of_lt_iff {f : Nat → List Char} {a b : Nat} (hlt : f a < f b ↔ a < b)
    (hgt : f b < f a ↔ b < a) : f a = f b ↔ a = b := by
  refine ⟨fun heq => ?_, fun heq => by rw [heq]⟩
  have hnot : ¬ a < b := fun h => List.lt_irrefl (f b) (heq ▸ hlt.mpr h)
  have hnot' : ¬ b < a := fun h => List.lt_irrefl (f b) (heq ▸ hgt.mpr h)
  omega

theorem padded_lt_iff {w a b : Nat} (hw : 0 < w) (ha : a < 10 ^ w) (hb : b < 10 ^ w) :
    padded w a < padded w b ↔ a < b := by
  induction w generalizing a b with
  | zero => cases hw
  | succ w ih =>
    by_cases hw' : w = 0
    · subst hw'
      have htext {n : Nat} (hn : n < 10 ^ 1) : padded 1 n = [Nat.digitChar n] := by
        simp [padded, Nat.toDigits_of_lt_base (b := 10) hn, List.leftpad]
      rw [htext ha, htext hb, List.cons_lt_cons_iff, digitChar_lt_iff ha hb]
      simp
    · have hpos : 0 < w := Nat.pos_of_ne_zero hw'
      have hdiv {n : Nat} (hn : n < 10 ^ (w + 1)) : n / 10 < 10 ^ w := by
        rw [Nat.pow_succ] at hn
        omega
      have hmod (n : Nat) : n % 10 < 10 := Nat.mod_lt n (by decide)
      have hlt := ih hpos (hdiv ha) (hdiv hb)
      have heq := eq_iff_of_lt_iff hlt (ih hpos (hdiv hb) (hdiv ha))
      have hlength : (padded w (a / 10)).length = (padded w (b / 10)).length := by
        rw [length_padded hpos (hdiv ha), length_padded hpos (hdiv hb)]
      rw [padded_succ hpos, padded_succ hpos, append_lt_append_iff hlength, hlt, heq,
        List.cons_lt_cons_iff, digitChar_lt_iff (hmod a) (hmod b)]
      simp only [List.lt_irrefl, and_false, or_false]
      omega

/-- A padded text before another: the numbers are compared first. -/
theorem padded_append_lt_iff {w a b : Nat} (hw : 0 < w) (ha : a < 10 ^ w) (hb : b < 10 ^ w)
    {r r' : List Char} :
    padded w a ++ r < padded w b ++ r' ↔ a < b ∨ a = b ∧ r < r' := by
  have hlength : (padded w a).length = (padded w b).length := by
    rw [length_padded hw ha, length_padded hw hb]
  rw [append_lt_append_iff hlength, padded_lt_iff hw ha hb,
    eq_iff_of_lt_iff (padded_lt_iff hw ha hb) (padded_lt_iff hw hb ha)]

end DecimalText
