import Mathlib.Control.Monad.Basic
import Mathlib.Data.List.Basic
import Mathlib.Data.List.Forall2

/-! Lists of computations that may fail, made one after another up to the first that does. -/

namespace ScyllaDriver

namespace FirstFailures

variable {ρ ε α : Type*} {answer : ρ → Except ε α} {requests : List ρ}

theorem mapM_eq_ok {items : List α} (h : requests.mapM answer = .ok items) :
    List.Forall₂ (fun r item => answer r = .ok item) requests items := by
  induction requests generalizing items with
  | nil =>
    cases h
    exact .nil
  | cons r rest ih =>
    rw [List.mapM_cons] at h
    cases hr : answer r with
    | error e => rw [hr] at h; cases h
    | ok item =>
      cases hrest : rest.mapM answer with
      | error e => rw [hr, hrest] at h; cases h
      | ok others =>
        rw [hr, hrest] at h
        cases h
        exact .cons hr (ih hrest)

/-- The error is that of the first request that fails. -/
theorem mapM_eq_error {e : ε} (h : requests.mapM answer = .error e) :
    ∃ done r rest, requests = done ++ r :: rest ∧ answer r = .error e ∧
      ∀ r' ∈ done, ∃ item, answer r' = .ok item := by
  induction requests with
  | nil => cases h
  | cons r rest ih =>
    rw [List.mapM_cons] at h
    cases hr : answer r with
    | error e' =>
      rw [hr] at h
      cases h
      exact ⟨[], r, rest, rfl, hr, by simp⟩
    | ok item =>
      cases hrest : rest.mapM answer with
      | ok others => rw [hr, hrest] at h; cases h
      | error e' =>
        rw [hr, hrest] at h
        cases h
        obtain ⟨done, r', rest', rfl, hr', hdone⟩ := ih hrest
        exact ⟨r :: done, r', rest', rfl, hr', List.forall_mem_cons.mpr ⟨⟨item, hr⟩, hdone⟩⟩

theorem mapM_eq_error_iff {e : ε} :
    requests.mapM answer = .error e ↔ ∃ (i : Nat) (r : ρ), requests[i]? = some r ∧
      answer r = .error e ∧ ∀ j < i, ∀ r', requests[j]? = some r' → ∃ item, answer r' = .ok item := by
  constructor
  · intro h
    obtain ⟨done, r, rest, rfl, hr, hdone⟩ := mapM_eq_error h
    refine ⟨done.length, r, by simp, hr, fun j hj r' hr' => ?_⟩
    rw [List.getElem?_append_left hj] at hr'
    exact hdone r' (List.mem_of_getElem? hr')
  · rintro ⟨i, r, hi, hr, hbefore⟩
    induction requests generalizing i with
    | nil => simp at hi
    | cons first rest ih =>
      rw [List.mapM_cons]
      cases i with
      | zero =>
        obtain rfl : first = r := by simpa using hi
        rw [hr]
        rfl
      | succ i =>
        obtain ⟨item, hitem⟩ := hbefore 0 (Nat.succ_pos i) first rfl
        have hrest : rest.mapM answer = .error e := ih i (by simpa using hi)
          fun j hj r' hr' => hbefore (j + 1) (Nat.succ_lt_succ hj) r' (by simpa using hr')
        rw [hitem, hrest]
        rfl

end FirstFailures

end ScyllaDriver
