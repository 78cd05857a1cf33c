import ScyllaDriver.Interleaving

/-! A call followed through the steps of its thread. The other threads go on meanwhile,
except for some that stand still, such as the one that waits for the call. -/

namespace ScyllaDriver

/-- A call in progress, with the threads that may go on beside it. -/
structure Followed (σ π : Type*) where
  shared : σ
  pc : π
  others : Multiset π

variable {σ π ε κ : Type*}

/-- All threads, those that stand still included. -/
def Followed.config (still : Multiset π) (x : Followed σ π) : Config σ π :=
  ⟨x.shared, x.pc ::ₘ (x.others + still)⟩

inductive Program.FollowStep (P : Program σ π ε κ) (ok : Config σ π → Label π ε κ → Prop)
    (still : Multiset π) : Followed σ π → Followed σ π → Prop
  | own {s p T e s' p'} (hok : ok (Followed.config still ⟨s, p, T⟩) (.thread p e))
      (h : P.step s p e = some (s', [p'])) : P.FollowStep ok still ⟨s, p, T⟩ ⟨s', p', T⟩
  | other {s p r T e s' q} (hok : ok (Followed.config still ⟨s, p, r ::ₘ T⟩) (.thread r e))
      (h : P.step s r e = some (s', q)) :
      P.FollowStep ok still ⟨s, p, r ::ₘ T⟩ ⟨s', p, (q : Multiset π) + T⟩
  | env {s p T k s' q} (hok : ok (Followed.config still ⟨s, p, T⟩) (.env k))
      (h : P.env s k = some (s', q)) :
      P.FollowStep ok still ⟨s, p, T⟩ ⟨s', p, (q : Multiset π) + T⟩

abbrev Program.Follow (P : Program σ π ε κ) (ok : Config σ π → Label π ε κ → Prop)
    (still : Multiset π) :=
  Relation.ReflTransGen (P.FollowStep ok still)

/-- The call can come to its end. -/
def Program.CanReturn (P : Program σ π ε κ) (ok : Config σ π → Label π ε κ → Prop)
    (still : Multiset π) (x : Followed σ π) : Prop :=
  ∃ y e s, P.Follow ok still x y ∧ ok (y.config still) (.thread y.pc e) ∧
    P.step y.shared y.pc e = some (s, [])

variable {P : Program σ π ε κ} {ok ok' : Config σ π → Label π ε κ → Prop} {still : Multiset π}
  {x y : Followed σ π} {s s' : σ} {p p' r : π} {e : ε} {k : κ} {q : List π} {T : Multiset π}

theorem Followed.config_cons (still : Multiset π) (s : σ) (p r : π) (T : Multiset π) :
    Followed.config still ⟨s, p, r ::ₘ T⟩ = ⟨s, r ::ₘ p ::ₘ (T + still)⟩ := by
  rw [config, Multiset.cons_add, Multiset.cons_swap]

theorem Followed.config_add (still : Multiset π) (s : σ) (p : π) (U T : Multiset π) :
    Followed.config still ⟨s, p, U + T⟩ = ⟨s, U + p ::ₘ (T + still)⟩ := by
  rw [config, Multiset.add_cons, add_assoc]

/-- The steps of a followed call are steps of the program. -/
theorem Program.FollowStep.runIn [DecidableEq π] (h : P.FollowStep ok still x y) :
    P.RunIn ok (x.config still) (y.config still) := by
  cases h with
  | own hok h => exact P.runIn_thread hok h
  | other hok h =>
    rw [Followed.config_cons] at hok ⊢
    rw [Followed.config_add]
    exact P.runIn_thread hok h
  | env hok h =>
    rw [Followed.config_add]
    exact P.runIn_env hok h

theorem Program.Follow.runIn [DecidableEq π] (h : P.Follow ok still x y) :
    P.RunIn ok (x.config still) (y.config still) := by
  induction h with
  | refl => exact .refl
  | tail _ hstep ih => exact ih.trans hstep.runIn

theorem Program.FollowStep.mono (hok : ∀ c l, ok c l → ok' c l)
    (h : P.FollowStep ok still x y) : P.FollowStep ok' still x y := by
  cases h with
  | own h hs => exact .own (hok _ _ h) hs
  | other h hs => exact .other (hok _ _ h) hs
  | env h hs => exact .env (hok _ _ h) hs

theorem Program.Follow.mono (hok : ∀ c l, ok c l → ok' c l) (h : P.Follow ok still x y) :
    P.Follow ok' still x y :=
  Relation.ReflTransGen.mono (fun _ _ => FollowStep.mono hok) x y h

namespace Program.CanReturn

theorem of_follow (h : P.Follow ok still x y) (hy : P.CanReturn ok still y) :
    P.CanReturn ok still x := by
  obtain ⟨z, e, s, hz, hret⟩ := hy
  exact ⟨z, e, s, h.trans hz, hret⟩

theorem now (hok : ok (Followed.config still ⟨s, p, T⟩) (.thread p e))
    (h : P.step s p e = some (s', [])) : P.CanReturn ok still ⟨s, p, T⟩ :=
  ⟨_, e, s', .refl, hok, h⟩

theorem own (hok : ok (Followed.config still ⟨s, p, T⟩) (.thread p e))
    (h : P.step s p e = some (s', [p'])) (hret : P.CanReturn ok still ⟨s', p', T⟩) :
    P.CanReturn ok still ⟨s, p, T⟩ :=
  of_follow (.single (.own hok h)) hret

end Program.CanReturn

/-- The step of another thread, wherever it stands among the others. -/
theorem Program.Follow.step_other [DecidableEq π] (hr : r ∈ T)
    (hok : ok (Followed.config still ⟨s, p, T⟩) (.thread r e)) (h : P.step s r e = some (s', q)) :
    P.Follow ok still ⟨s, p, T⟩ ⟨s', p, (q : Multiset π) + T.erase r⟩ := by
  rw [← Multiset.cons_erase hr] at hok
  have hstep : P.FollowStep ok still ⟨s, p, r ::ₘ T.erase r⟩ _ := .other hok h
  rw [Multiset.cons_erase hr] at hstep
  exact .single hstep

theorem Program.Follow.step_to [DecidableEq π] {r' : π} (hr : r ∈ T)
    (hok : ok (Followed.config still ⟨s, p, T⟩) (.thread r e))
    (h : P.step s r e = some (s', [r'])) :
    P.Follow ok still ⟨s, p, T⟩ ⟨s', p, r' ::ₘ T.erase r⟩ :=
  .step_other hr hok h

theorem Program.Follow.step_env (hok : ok (Followed.config still ⟨s, p, T⟩) (.env k))
    (h : P.env s k = some (s', q)) :
    P.Follow ok still ⟨s, p, T⟩ ⟨s', p, (q : Multiset π) + T⟩ :=
  .single (.env hok h)

end ScyllaDriver
