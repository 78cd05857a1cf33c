import ScyllaDriver.Interleaving

/-! A lock that at most one thread has: the threads inside its critical section are counted
by the flag that says whether it is taken. -/

namespace ScyllaDriver

/-- As many threads are inside as the lock says, one or none. -/
def OneInside {π : Type*} (inside : π → Bool) (locked : Bool) (T : Multiset π) : Prop :=
  T.countP (fun p => inside p = true) = locked.toNat

/-- What the step of a thread from `p` to `p'` does to the lock. -/
inductive LockStep {π : Type*} (inside : π → Bool) (p : π) : Bool → π → Bool → Prop
  | stays {locked p'} (h : inside p' = inside p) : LockStep inside p locked p' locked
  | enters {p'} (hp : inside p = false) (hp' : inside p' = true) : LockStep inside p false p' true
  | leaves {locked p'} (hp : inside p = true) (hp' : inside p' = false) :
    LockStep inside p locked p' false

theorem LockStep.map {π ρ : Type*} {inside : π → Bool} {inside' : ρ → Bool} {f : π → ρ}
    (hf : ∀ p, inside' (f p) = inside p) {p p' : π} {locked locked' : Bool}
    (h : LockStep inside p locked p' locked') : LockStep inside' (f p) locked (f p') locked' := by
  cases h with
  | stays h => exact .stays (by rw [hf, hf, h])
  | enters hp hp' => exact .enters ((hf p).trans hp) ((hf p').trans hp')
  | leaves hp hp' => exact .leaves ((hf p).trans hp) ((hf p').trans hp')

namespace OneInside

variable {π : Type*} {inside : π → Bool} {locked locked' : Bool} {p p' : π} {T : Multiset π}

theorem zero : OneInside inside false (0 : Multiset π) := rfl

theorem countP_cons (p : π) (T : Multiset π) : (p ::ₘ T).countP (fun p => inside p = true) =
    T.countP (fun p => inside p = true) + (inside p).toNat := by
  rw [Multiset.countP_cons]
  cases inside p <;> rfl

theorem others (h : OneInside inside locked (p ::ₘ T)) (hp : inside p = true) {t : π}
    (ht : t ∈ T) : inside t = false := by
  unfold OneInside at h
  rw [countP_cons, hp] at h
  have hle : locked.toNat ≤ 1 := Bool.toNat_le _
  by_contra hin
  have hpos : 0 < T.countP (fun p => inside p = true) :=
    Multiset.countP_pos.mpr ⟨t, ht, by simpa using hin⟩
  simp only [Bool.toNat_true] at h
  omega

theorem locked_of_inside (h : OneInside inside locked T) (hp : p ∈ T) (hin : inside p = true) :
    locked = true := by
  have hpos : 0 < T.countP (fun p => inside p = true) := Multiset.countP_pos.mpr ⟨p, hp, hin⟩
  unfold OneInside at h
  cases locked with
  | true => rfl
  | false =>
    rw [h] at hpos
    exact absurd hpos (lt_irrefl 0)

theorem exists_inside (h : OneInside inside locked T) (hlocked : locked = true) :
    ∃ p ∈ T, inside p = true :=
  Multiset.countP_pos.mp (by rw [h, hlocked]; decide)

theorem step (h : OneInside inside locked (p ::ₘ T))
    (hstep : LockStep inside p locked p' locked') : OneInside inside locked' (p' ::ₘ T) := by
  unfold OneInside at h ⊢
  have hle : locked.toNat ≤ 1 := Bool.toNat_le _
  rw [countP_cons] at h ⊢
  cases hstep with
  | stays hsame => rw [hsame, h]
  | enters hp hp' =>
    simp only [hp, hp', Bool.toNat_true, Bool.toNat_false] at h ⊢
    omega
  | leaves hp hp' =>
    simp only [hp, hp', Bool.toNat_true, Bool.toNat_false] at h ⊢
    omega

theorem cons (h : OneInside inside locked T) (hp : inside p = false) :
    OneInside inside locked (p ::ₘ T) := by
  unfold OneInside at h ⊢
  rw [countP_cons, hp, h]
  rfl

end OneInside

end ScyllaDriver
