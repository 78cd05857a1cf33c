import Mathlib.Data.String.Basic
import ScyllaDriver.DecimalText
import ScyllaDriver.NativeValues

/-! The Python values of CQL dates and times: how they sort, and what times are shown as. -/

namespace ScyllaDriver

namespace TemporalValues

open DecimalText

def nanosPerSecond : Int := 1000000000

def nanosPerDay : Int := 24 * 60 * 60 * nanosPerSecond

structure PyCqlTime where
  nanoseconds : Int
  deriving DecidableEq, Repr

/-- `{:0width}` of an `i64`. -/
def formatPadded (width : Nat) : Int → List Char
  | .ofNat n => padded width n
  | .negSucc n => '-' :: padded (width - 1) (n + 1)

namespace PyCqlTime

def new (nanoseconds : Int) : Except String PyCqlTime :=
  if 0 ≤ nanoseconds ∧ nanoseconds < nanosPerDay then .ok ⟨nanoseconds⟩
  else .error ("CqlTime must be from 0 to " ++ toString (nanosPerDay - 1) ++ " nanoseconds.")

variable (time : PyCqlTime)

def hour : Int := time.nanoseconds.tdiv (60 * 60 * nanosPerSecond)

def minute : Int := (time.nanoseconds.tdiv (60 * nanosPerSecond)).tmod 60

def second : Int := (time.nanoseconds.tdiv nanosPerSecond).tmod 60

def nanosecond : Int := time.nanoseconds.tmod nanosPerSecond

/-- `__str__` -/
def str : String :=
  String.ofList (formatPadded 2 time.hour ++ (':' :: (formatPadded 2 time.minute ++
    (':' :: (formatPadded 2 time.second ++ ('.' :: formatPadded 9 time.nanosecond))))))

end PyCqlTime

structure PyCqlDate where
  days : BitVec 32
  deriving DecidableEq, Repr

namespace PyCqlDate

/-- `From<CqlDate>`; the wire has an unsigned count of days. -/
def ofCqlDate (date : BitVec 32) : PyCqlDate := ⟨date - cqlDateEpoch⟩

def toCqlDate (date : PyCqlDate) : BitVec 32 := date.days + cqlDateEpoch

/-- The order that `days` as an `i32` gives. -/
def lt (a b : PyCqlDate) : Bool := a.days.slt b.days

end PyCqlDate

/-- A time that CQL can hold, in natural numbers. -/
structure Clock (time : PyCqlTime) (n : Nat) : Prop where
  eq : time.nanoseconds = n
  lt : n < 86400000000000

theorem clock_of_new {n : Int} {time : PyCqlTime} (h : PyCqlTime.new n = .ok time) :
    ∃ m, Clock time m := by
  unfold PyCqlTime.new at h
  split at h
  · rename_i hrange
    cases h
    obtain ⟨m, rfl⟩ := Int.eq_ofNat_of_zero_le hrange.1
    refine ⟨m, rfl, ?_⟩
    have hlt := hrange.2
    simp only [nanosPerDay, nanosPerSecond] at hlt
    omega
  · cases h

namespace Clock

variable {a b time : PyCqlTime} {n m : Nat}

theorem hour (h : Clock time n) : time.hour = ((n / 3600000000000 : Nat) : Int) := by
  rw [PyCqlTime.hour, h.eq]
  rfl

theorem minute (h : Clock time n) : time.minute = ((n / 60000000000 % 60 : Nat) : Int) := by
  rw [PyCqlTime.minute, h.eq]
  rfl

theorem second (h : Clock time n) : time.second = ((n / 1000000000 % 60 : Nat) : Int) := by
  rw [PyCqlTime.second, h.eq]
  rfl

theorem nanosecond (h : Clock time n) : time.nanosecond = ((n % 1000000000 : Nat) : Int) := by
  rw [PyCqlTime.nanosecond, h.eq]
  rfl

theorem toList_str (h : Clock time n) :
    time.str.toList = padded 2 (n / 3600000000000) ++ (':' :: (padded 2 (n / 60000000000 % 60) ++
      (':' :: (padded 2 (n / 1000000000 % 60) ++ ('.' :: padded 9 (n % 1000000000)))))) := by
  rw [PyCqlTime.str, String.toList_ofList, h.hour, h.minute, h.second, h.nanosecond]
  rfl

/-- Both are compared by the hours first, then by the minutes, and so on. -/
theorem str_lt_iff (ha : Clock a n) (hb : Clock b m) : a.str < b.str ↔ n < m := by
  have hn := ha.lt
  have hm := hb.lt
  rw [String.lt_iff_toList_lt, ha.toList_str, hb.toList_str,
    padded_append_lt_iff (by decide) (by omega) (by omega), List.cons_lt_cons_iff,
    padded_append_lt_iff (by decide) (by omega) (by omega), List.cons_lt_cons_iff,
    padded_append_lt_iff (by decide) (by omega) (by omega), List.cons_lt_cons_iff,
    padded_lt_iff (by decide) (by omega) (by omega)]
  simp only [lt_irrefl, false_or, true_and]
  omega

end Clock

theorem toInt_ofCqlDate (date : BitVec 32) :
    (PyCqlDate.ofCqlDate date).days.toInt = date.toNat - 2 ^ 31 := by
  have hepoch : cqlDateEpoch.toNat = 2 ^ 31 := by decide
  simp only [PyCqlDate.ofCqlDate]
  have hlt := date.isLt
  rw [BitVec.toInt_eq_toNat_cond, BitVec.toNat_sub, hepoch]
  split <;> omega

/-- Dates sort as on the wire. Times sort as their texts, and the numbers shown in them are
those of a clock. -/
theorem temporal_values_sort :
    (∀ date date', (PyCqlDate.ofCqlDate date).lt (.ofCqlDate date') = true ↔ date < date') ∧
    ∀ a b n m, PyCqlTime.new n = .ok a → PyCqlTime.new m = .ok b →
      (a.str < b.str ↔ a.nanoseconds < b.nanoseconds) ∧
      (0 ≤ a.hour ∧ a.hour < 24) ∧ (0 ≤ a.minute ∧ a.minute < 60) ∧
      (0 ≤ a.second ∧ a.second < 60) ∧ (0 ≤ a.nanosecond ∧ a.nanosecond < nanosPerSecond) ∧
      a.nanoseconds = ((a.hour * 60 + a.minute) * 60 + a.second) * nanosPerSecond + a.nanosecond := by
  constructor
  · intro date date'
    rw [PyCqlDate.lt, BitVec.slt, decide_eq_true_eq, toInt_ofCqlDate, toInt_ofCqlDate,
      BitVec.lt_def]
    omega
  · intro a b n m ha hb
    obtain ⟨n, hn⟩ := clock_of_new ha
    obtain ⟨m, hm⟩ := clock_of_new hb
    have hlt := hn.lt
    rw [hn.str_lt_iff hm, hn.hour, hn.minute, hn.second, hn.nanosecond, hn.eq, hm.eq]
    simp only [nanosPerSecond]
    refine ⟨by omega, by omega, by omega, by omega, by omega, by omega⟩

theorem temporal_values_sort_second :
    PyCqlTime.new 1 = .ok ⟨1⟩ ∧ PyCqlTime.new nanosPerSecond = .ok ⟨nanosPerSecond⟩ ∧
      PyCqlTime.str ⟨1⟩ < PyCqlTime.str ⟨nanosPerSecond⟩ :=
  have hearly : PyCqlTime.new 1 = .ok ⟨1⟩ := rfl
  have hlate : PyCqlTime.new nanosPerSecond = .ok ⟨nanosPerSecond⟩ := rfl
  ⟨hearly, hlate, (temporal_values_sort.2 _ _ _ _ hearly hlate).1.2 (by decide)⟩

end TemporalValues

end ScyllaDriver
