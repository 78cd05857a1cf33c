import Mathlib.Algebra.Order.BigOperators.Group.List
import ScyllaDriver.NativeValues

/-! `TryFrom<Relativedelta> for PyCqlDuration` against the integers: the checks on the way to the
three parts of a duration refuse no duration of one sign that has a place. -/

namespace ScyllaDriver

theorem checkedInt_eq_some_iff {width : Nat} {n m : Int} :
    checkedInt width n = some m ↔ inRange width n = true ∧ n = m := by
  simp [checkedInt]

theorem timeDelta_eq_some_iff {n m : Int} :
    timeDelta n = some m ↔ n.natAbs ≤ (2 ^ 63 - 1) * 10 ^ 6 ∧ n = m := by
  simp [timeDelta]

/-- All of one sign: none is negative, or none is positive. -/
def SameSign (values : List Int) : Prop := (∀ v ∈ values, 0 ≤ v) ∨ ∀ v ∈ values, v ≤ 0

theorem SameSign.mono {values values' : List Int} (h : SameSign values)
    (hsub : ∀ v ∈ values', v ∈ values) : SameSign values' := by
  rcases h with h | h
  · exact .inl fun v hv => h v (hsub v hv)
  · exact .inr fun v hv => h v (hsub v hv)

theorem hasUniformSign_iff {months days nanoseconds : Int} :
    hasUniformSign months days nanoseconds = true ↔ SameSign [months, days, nanoseconds] := by
  simp [hasUniformSign, SameSign, and_assoc]

section Sums

theorem sum_le_of_nonpos {values : List Int} (h : ∀ v ∈ values, v ≤ 0) :
    values.sum ≤ 0 ∧ ∀ v ∈ values, values.sum ≤ v := by
  induction values with
  | nil => simp
  | cons value values ih =>
    obtain ⟨hvalue, hrest⟩ := List.forall_mem_cons.mp h
    obtain ⟨hsum, hle⟩ := ih hrest
    rw [List.sum_cons]
    refine ⟨by omega, List.forall_mem_cons.mpr ⟨by omega, fun v hv => ?_⟩⟩
    have hv' := hle v hv
    omega

theorem SameSign.natAbs_le_sum {values : List Int} (h : SameSign values) {value : Int}
    (hmem : value ∈ values) : value.natAbs ≤ values.sum.natAbs := by
  rcases h with h | h
  · have hle := List.single_le_sum h value hmem
    have hvalue := h value hmem
    omega
  · have hle := (sum_le_of_nonpos h).2 value hmem
    have hvalue := h value hmem
    omega

/-- The fold of `try_from` over the parts, from any sum on. -/
def checkedSum (sum : Int) (parts : List (Option Int)) : Option Int :=
  parts.foldlM (fun sum part => do timeDelta (sum + (← part))) sum

theorem checkedSum_some {parts : List (Option Int)} {sum total : Int}
    (h : checkedSum sum parts = some total) :
    ∃ values : List Int, parts = values.map some ∧ total = sum + values.sum := by
  induction parts generalizing sum with
  | nil =>
    obtain rfl := Option.some.inj h
    exact ⟨[], rfl, by simp⟩
  | cons part parts ih =>
    rw [checkedSum, List.foldlM_cons] at h
    obtain ⟨sum', hsum', hrest⟩ := Option.bind_eq_some_iff.mp h
    obtain ⟨value, rfl, hvalue⟩ := Option.bind_eq_some_iff.mp hsum'
    obtain ⟨-, rfl⟩ := timeDelta_eq_some_iff.mp hvalue
    obtain ⟨values, rfl, rfl⟩ := ih hrest
    exact ⟨value :: values, rfl, by simp; omega⟩

/-- Sums of one sign only grow, so that the last one is the largest. -/
theorem checkedSum_of_sameSign {values : List Int} {sum : Int} (h : SameSign (sum :: values))
    (htotal : (sum + values.sum).natAbs ≤ (2 ^ 63 - 1) * 10 ^ 6) :
    checkedSum sum (values.map some) = some (sum + values.sum) := by
  induction values generalizing sum with
  | nil => simp [checkedSum]
  | cons value values ih =>
    have hsum : (value :: values).sum = value + values.sum := List.sum_cons
    have hsign : SameSign ((sum + value) :: values) := by
      rcases h with h | h
      · simp only [List.mem_cons, forall_eq_or_imp] at h
        exact .inl (List.forall_mem_cons.mpr ⟨by omega, h.2.2⟩)
      · simp only [List.mem_cons, forall_eq_or_imp] at h
        exact .inr (List.forall_mem_cons.mpr ⟨by omega, h.2.2⟩)
    have hfits : (sum + value).natAbs ≤ (2 ^ 63 - 1) * 10 ^ 6 := by
      have hle := hsign.natAbs_le_sum List.mem_cons_self
      rw [List.sum_cons, add_assoc, ← hsum] at hle
      omega
    have hrest := ih hsign (by rwa [hsum, ← add_assoc] at htotal)
    have hdelta : timeDelta (sum + value) = some (sum + value) :=
      timeDelta_eq_some_iff.mpr ⟨hfits, rfl⟩
    rw [hsum, ← add_assoc, ← hrest]
    simp [checkedSum, hdelta]

end Sums

namespace Relativedelta

def exactMonths (delta : Relativedelta) : Int := 12 * delta.years + delta.months

def exactNanoseconds (delta : Relativedelta) : Int :=
  3600 * 10 ^ 9 * delta.hours + 60 * 10 ^ 9 * delta.minutes + 10 ^ 9 * delta.seconds +
    1000 * delta.microseconds

/-- The exact values fit `i32`, `i32` and `i64`. -/
structure Fits (delta : Relativedelta) : Prop where
  months : -2 ^ 31 ≤ delta.exactMonths ∧ delta.exactMonths < 2 ^ 31
  days : -2 ^ 31 ≤ delta.days ∧ delta.days < 2 ^ 31
  nanoseconds : -2 ^ 63 ≤ delta.exactNanoseconds ∧ delta.exactNanoseconds < 2 ^ 63

def fields (delta : Relativedelta) : List Int :=
  [delta.years, delta.months, delta.days, delta.hours, delta.minutes, delta.seconds,
    delta.microseconds]

variable {delta : Relativedelta}

theorem totalMonths_some {n : Int} (h : delta.totalMonths = some n) :
    n = delta.exactMonths ∧ inRange 32 n = true := by
  obtain ⟨years, hyears, h⟩ := Option.bind_eq_some_iff.mp h
  obtain ⟨months, hmonths, h⟩ := Option.bind_eq_some_iff.mp h
  obtain ⟨-, rfl⟩ := checkedInt_eq_some_iff.mp hyears
  obtain ⟨-, rfl⟩ := checkedInt_eq_some_iff.mp hmonths
  obtain ⟨hrange, rfl⟩ := checkedInt_eq_some_iff.mp h
  exact ⟨by rw [exactMonths]; omega, hrange⟩

theorem totalMonths_of_fits (h : SameSign [delta.years, delta.months])
    (hfits : -2 ^ 31 ≤ delta.exactMonths ∧ delta.exactMonths < 2 ^ 31) :
    delta.totalMonths = some delta.exactMonths := by
  rw [exactMonths] at hfits
  have hyears : inRange 64 (delta.years * 12) = true := by
    simp only [SameSign, List.mem_cons, List.not_mem_nil, or_false, forall_eq_or_imp, forall_eq] at h
    simp only [inRange, Bool.and_eq_true, decide_eq_true_eq]
    omega
  have hmonths : inRange 64 (delta.years * 12 + delta.months) = true := by
    simp only [inRange, Bool.and_eq_true, decide_eq_true_eq]
    omega
  have hrange : inRange 32 (delta.years * 12 + delta.months) = true := by
    simp only [inRange, Bool.and_eq_true, decide_eq_true_eq]
    omega
  have hexact : delta.exactMonths = delta.years * 12 + delta.months := by
    rw [exactMonths]
    omega
  simp [totalMonths, checkedInt, hyears, hmonths, hrange, hexact]

theorem totalNanoseconds_eq : delta.totalNanoseconds =
    (checkedSum 0 [timeDelta (delta.hours * (3600 * 10 ^ 9)),
      timeDelta (delta.minutes * (60 * 10 ^ 9)), timeDelta (delta.seconds * 10 ^ 9),
      some (delta.microseconds * 10 ^ 3)]).bind (checkedInt 64) := rfl

/-- The parts that are added up, in nanoseconds. -/
def parts (delta : Relativedelta) : List Int :=
  [delta.hours * (3600 * 10 ^ 9), delta.minutes * (60 * 10 ^ 9), delta.seconds * 10 ^ 9,
    delta.microseconds * 10 ^ 3]

theorem sum_parts : delta.parts.sum = delta.exactNanoseconds := by
  simp only [parts, List.sum_cons, List.sum_nil, exactNanoseconds]
  omega

theorem totalNanoseconds_some {n : Int} (h : delta.totalNanoseconds = some n) :
    n = delta.exactNanoseconds ∧ inRange 64 n = true := by
  rw [totalNanoseconds_eq] at h
  obtain ⟨total, hsum, h⟩ := Option.bind_eq_some_iff.mp h
  obtain ⟨hrange, rfl⟩ := checkedInt_eq_some_iff.mp h
  obtain ⟨values, hvalues, rfl⟩ := checkedSum_some hsum
  have hparts : values = delta.parts := by
    have hmap := hvalues.symm
    simp only [List.map_eq_cons_iff, List.map_eq_nil_iff] at hmap
    obtain ⟨hours, _, rfl, hhours, minutes, _, rfl, hminutes, seconds, _, rfl, hseconds,
      microseconds, _, rfl, hmicroseconds, rfl⟩ := hmap
    obtain ⟨-, rfl⟩ := timeDelta_eq_some_iff.mp hhours.symm
    obtain ⟨-, rfl⟩ := timeDelta_eq_some_iff.mp hminutes.symm
    obtain ⟨-, rfl⟩ := timeDelta_eq_some_iff.mp hseconds.symm
    obtain rfl := Option.some.inj hmicroseconds
    rfl
  subst hparts
  rw [zero_add] at hrange ⊢
  exact ⟨sum_parts, hrange⟩

theorem totalNanoseconds_of_fits
    (h : SameSign [delta.hours, delta.minutes, delta.seconds, delta.microseconds])
    (hfits : -2 ^ 63 ≤ delta.exactNanoseconds ∧ delta.exactNanoseconds < 2 ^ 63) :
    delta.totalNanoseconds = some delta.exactNanoseconds := by
  have hsign : SameSign (0 :: delta.parts) := by
    simp only [SameSign, parts, List.mem_cons, List.not_mem_nil, or_false, forall_eq_or_imp,
      forall_eq] at h ⊢
    omega
  have hrange : inRange 64 delta.exactNanoseconds = true := by
    simp only [inRange, Bool.and_eq_true, decide_eq_true_eq]
    omega
  -- No part is larger than the sum.
  have hpart : ∀ part ∈ delta.parts, timeDelta part = some part := by
    intro part hmem
    refine timeDelta_eq_some_iff.mpr ⟨?_, rfl⟩
    have hle := hsign.natAbs_le_sum (List.mem_cons_of_mem 0 hmem)
    rw [List.sum_cons, zero_add, sum_parts] at hle
    omega
  have hsum := checkedSum_of_sameSign hsign (by rw [sum_parts]; omega)
  rw [sum_parts, zero_add] at hsum
  simp only [parts, List.mem_cons, List.not_mem_nil, or_false, forall_eq_or_imp, forall_eq] at hpart
  obtain ⟨hhours, hminutes, hseconds, -⟩ := hpart
  rw [totalNanoseconds_eq, hhours, hminutes, hseconds]
  simp only [parts, List.map_cons, List.map_nil] at hsum
  rw [hsum]
  exact checkedInt_eq_some_iff.mpr ⟨hrange, rfl⟩

theorem fits_iff : delta.Fits ↔ inRange 32 delta.exactMonths = true ∧
    inRange 32 delta.days = true ∧ inRange 64 delta.exactNanoseconds = true := by
  simp only [inRange, Bool.and_eq_true, decide_eq_true_eq]
  exact ⟨fun h => ⟨h.months, h.days, h.nanoseconds⟩, fun h => ⟨h.1, h.2.1, h.2.2⟩⟩

theorem parts_some {months days nanoseconds : Int} (hmonths : delta.totalMonths = some months)
    (hdays : checkedInt 32 delta.days = some days)
    (hnanoseconds : delta.totalNanoseconds = some nanoseconds) :
    months = delta.exactMonths ∧ days = delta.days ∧ nanoseconds = delta.exactNanoseconds ∧
      delta.Fits := by
  obtain ⟨rfl, hmonths'⟩ := totalMonths_some hmonths
  obtain ⟨hdays', rfl⟩ := checkedInt_eq_some_iff.mp hdays
  obtain ⟨rfl, hnanoseconds'⟩ := totalNanoseconds_some hnanoseconds
  exact ⟨rfl, rfl, rfl, fits_iff.mpr ⟨hmonths', hdays', hnanoseconds'⟩⟩

theorem tryFrom_cases (delta : Relativedelta) :
    (∃ duration, CqlDuration.tryFrom delta = .ok duration ∧ delta.Fits ∧
      duration.months.toInt = delta.exactMonths ∧ duration.days.toInt = delta.days ∧
      duration.nanoseconds.toInt = delta.exactNanoseconds ∧
      SameSign [delta.exactMonths, delta.days, delta.exactNanoseconds]) ∨
    (CqlDuration.tryFrom delta = .error .mixedSign ∧ delta.Fits ∧
      ¬ SameSign [delta.exactMonths, delta.days, delta.exactNanoseconds]) ∨
    (CqlDuration.tryFrom delta = .error .overflow ∧
      (delta.totalMonths = none ∨ checkedInt 32 delta.days = none ∨
        delta.totalNanoseconds = none)) := by
  unfold CqlDuration.tryFrom
  split
  · rename_i months days nanoseconds hmonths hdays hnanoseconds
    obtain ⟨rfl, rfl, rfl, hfits⟩ := parts_some hmonths hdays hnanoseconds
    split
    · rename_i hsign
      refine .inl ⟨_, rfl, hfits, ?_, ?_, ?_, hasUniformSign_iff.mp hsign⟩
      · exact BitVec.toInt_ofInt_eq_self (by decide) hfits.months.1 hfits.months.2
      · exact BitVec.toInt_ofInt_eq_self (by decide) hfits.days.1 hfits.days.2
      · exact BitVec.toInt_ofInt_eq_self (by decide) hfits.nanoseconds.1 hfits.nanoseconds.2
    · rename_i hsign
      exact .inr (.inl ⟨rfl, hfits, fun h => hsign (hasUniformSign_iff.mpr h)⟩)
  · rename_i hnone
    refine .inr (.inr ⟨rfl, ?_⟩)
    cases hmonths : delta.totalMonths with
    | none => exact .inl rfl
    | some months =>
      cases hdays : checkedInt 32 delta.days with
      | none => exact .inr (.inl rfl)
      | some days =>
        cases hnanoseconds : delta.totalNanoseconds with
        | none => exact .inr (.inr rfl)
        | some nanoseconds => exact absurd hnanoseconds (hnone _ _ _ hmonths hdays)

theorem parts_of_fits (h : SameSign delta.fields) (hfits : delta.Fits) :
    delta.totalMonths ≠ none ∧ checkedInt 32 delta.days ≠ none ∧ delta.totalNanoseconds ≠ none := by
  have hmonths := totalMonths_of_fits (h.mono (by simp [fields])) hfits.months
  have hnanoseconds := totalNanoseconds_of_fits (h.mono (by simp [fields])) hfits.nanoseconds
  have hdays := checkedInt_eq_some_iff.mpr ⟨(fits_iff.mp hfits).2.1, rfl⟩
  simp [hmonths, hnanoseconds, hdays]

theorem exact_sameSign (h : SameSign delta.fields) :
    SameSign [delta.exactMonths, delta.days, delta.exactNanoseconds] := by
  simp only [SameSign, fields, exactMonths, exactNanoseconds, List.mem_cons, List.not_mem_nil,
    or_false, forall_eq_or_imp, forall_eq] at h ⊢
  omega

/-- The conversion is exact, or it is refused for the right reason. -/
structure ExactConversion (delta : Relativedelta) : Prop where
  ok : ∀ duration, CqlDuration.tryFrom delta = .ok duration →
    duration.months.toInt = 12 * delta.years + delta.months ∧
    duration.days.toInt = delta.days ∧
    duration.nanoseconds.toInt = 3600 * 10 ^ 9 * delta.hours + 60 * 10 ^ 9 * delta.minutes +
      10 ^ 9 * delta.seconds + 1000 * delta.microseconds ∧
    SameSign [duration.months.toInt, duration.days.toInt, duration.nanoseconds.toInt]
  mixedSign : CqlDuration.tryFrom delta = .error .mixedSign →
    delta.Fits ∧ ¬ SameSign [delta.exactMonths, delta.days, delta.exactNanoseconds]
  overflow : SameSign delta.fields → (CqlDuration.tryFrom delta = .error .overflow ↔ ¬ delta.Fits)
  converts : SameSign delta.fields → delta.Fits →
    ∃ duration, CqlDuration.tryFrom delta = .ok duration

theorem tryFrom_exact (delta : Relativedelta) : delta.ExactConversion := by
  rcases delta.tryFrom_cases with ⟨duration, hok, hfits, hmonths, hdays, hnanoseconds, hsign⟩ |
    ⟨hmixed, hfits, hsign⟩ | ⟨hoverflow, hnone⟩
  · rw [← hmonths, ← hnanoseconds, ← hdays] at hsign
    refine ⟨fun duration' hok' => ?_, fun h => ?_, fun _ => ?_, fun _ _ => ⟨duration, hok⟩⟩
    · obtain rfl := Except.ok.inj (hok.symm.trans hok')
      exact ⟨hmonths, hdays, hnanoseconds, hsign⟩
    · exact absurd (hok.symm.trans h) (by simp)
    · simp [hok, hfits]
  · refine ⟨fun duration hok => ?_, fun _ => ⟨hfits, hsign⟩, fun h => ?_, fun h _ => ?_⟩
    · exact absurd (hmixed.symm.trans hok) (by simp)
    · exact absurd (exact_sameSign h) hsign
    · exact absurd (exact_sameSign h) hsign
  · -- A check on the way failed, which it does not for values of one sign that fit.
    have hunfit (h : SameSign delta.fields) : ¬ delta.Fits := by
      intro hfits
      obtain ⟨hmonths, hdays, hnanoseconds⟩ := parts_of_fits h hfits
      rcases hnone with hnone | hnone | hnone
      · exact hmonths hnone
      · exact hdays hnone
      · exact hnanoseconds hnone
    refine ⟨fun duration hok => ?_, fun h => ?_, fun h => ?_, fun h hfits => ?_⟩
    · exact absurd (hoverflow.symm.trans hok) (by simp)
    · exact absurd (hoverflow.symm.trans h) (by simp)
    · simp [hoverflow, hunfit h]
    · exact absurd hfits (hunfit h)

end Relativedelta

end ScyllaDriver
