import Mathlib.Data.List.Forall2

/-! Computations that call foreign code in between, which may change the world they work on.
Each such call is recorded with what the computation holds at the time; a rely is what has to
be true when a call starts and what the calls have to keep of what is held. -/

namespace Reentrancy

variable {κ W ε ε' α β : Type}

/-- One call of foreign code. -/
structure Step (κ W : Type) where
  held : κ
  before : W
  after : W

structure State (κ W : Type) where
  world : W
  steps : List (Step κ W)

abbrev CallM (κ W ε : Type) := StateT (State κ W) (Except ε)

namespace CallM

def world : CallM κ W ε W := fun s => .ok (s.world, s)

def foreign (held : κ) (f : W → α × W) : CallM κ W ε α := fun s =>
  .ok ((f s.world).1, ⟨(f s.world).2, s.steps ++ [⟨held, s.world, (f s.world).2⟩]⟩)

/-- A point of the computation that is recorded like a call, with nothing called. -/
def note (held : κ) : CallM κ W ε Unit := foreign held fun w => ((), w)

def lift (x : Except ε α) : CallM κ W ε α := fun s => x.map fun a => (a, s)

def mapError (f : ε → ε') (m : CallM κ W ε α) : CallM κ W ε' α := fun s => (m s).mapError f

end CallM

structure Rely (κ W : Type) where
  starts : κ → W → Prop
  holds : κ → W → W → Prop
  refl : ∀ held w, holds held w w
  trans : ∀ {held w w' w''}, holds held w w' → holds held w' w'' → holds held w w''

variable {rely : Rely κ W} {held : κ}

def Rely.Met (rely : Rely κ W) (steps : List (Step κ W)) : Prop :=
  ∀ step ∈ steps, rely.starts step.held step.before ∧ rely.holds step.held step.before step.after

/-- If `m` returns and the foreign code it called met the rely, then what is held was kept from
the start to the end, and `P` is true of both worlds and the result. -/
def Ensures (rely : Rely κ W) (held : κ) (m : CallM κ W ε α) (P : W → α → W → Prop) : Prop :=
  ∀ s a s', m s = .ok (a, s') → ∃ new, s'.steps = s.steps ++ new ∧
    (rely.Met new → rely.holds held s.world s'.world ∧ P s.world a s'.world)

namespace Ensures

/-- A computation without foreign code that leaves the world alone. -/
theorem of_same_state {m : CallM κ W ε α} {P : W → α → W → Prop}
    (h : ∀ s a s', m s = .ok (a, s') → s' = s ∧ P s.world a s.world) : Ensures rely held m P := by
  intro s a s' hm
  obtain ⟨rfl, hP⟩ := h s a s' hm
  exact ⟨[], by simp, fun _ => ⟨rely.refl held s'.world, hP⟩⟩

theorem pure {a : α} {P : W → α → W → Prop} (h : ∀ w, P w a w) :
    Ensures rely held (Pure.pure a : CallM κ W ε α) P := by
  refine of_same_state ?_
  intro s b s' hm
  cases hm
  exact ⟨rfl, h s.world⟩

theorem lift {x : Except ε α} {P : W → α → W → Prop} (h : ∀ a w, x = .ok a → P w a w) :
    Ensures rely held (CallM.lift x) P := by
  refine of_same_state ?_
  intro s b s' hm
  cases x with
  | error err => cases hm
  | ok a =>
    cases hm
    exact ⟨rfl, h b s.world rfl⟩

theorem bind {m : CallM κ W ε α} {f : α → CallM κ W ε β} {P : W → α → W → Prop}
    {Q : W → β → W → Prop} (hm : Ensures rely held m P)
    (hf : ∀ a, Ensures rely held (f a) fun w' b w'' =>
      ∀ w, rely.holds held w w' → P w a w' → Q w b w'') :
    Ensures rely held (m >>= f) Q := by
  intro s b s'' h
  simp only [Bind.bind, StateT.bind] at h
  cases hfirst : m s with
  | error err => simp [hfirst, Except.bind] at h
  | ok result =>
    obtain ⟨a, s'⟩ := result
    simp only [hfirst, Except.bind] at h
    obtain ⟨new, hsteps, hP⟩ := hm s a s' hfirst
    obtain ⟨new', hsteps', hQ⟩ := hf a s' b s'' h
    refine ⟨new ++ new', by rw [hsteps', hsteps, List.append_assoc], ?_⟩
    intro hmet
    have hmet' := List.forall_mem_append.mp hmet
    obtain ⟨hheld, hp⟩ := hP hmet'.1
    obtain ⟨hheld', hq⟩ := hQ hmet'.2
    exact ⟨rely.trans hheld hheld', hq s.world hheld hp⟩

theorem mono {m : CallM κ W ε α} {P Q : W → α → W → Prop} (h : Ensures rely held m P)
    (himp : ∀ w a w', P w a w' → Q w a w') : Ensures rely held m Q := by
  intro s a s' hm
  obtain ⟨new, hsteps, hP⟩ := h s a s' hm
  refine ⟨new, hsteps, ?_⟩
  intro hmet
  obtain ⟨hheld, hp⟩ := hP hmet
  exact ⟨hheld, himp _ _ _ hp⟩

/-- Reading the world. -/
theorem world_bind {f : W → CallM κ W ε β} {Q : W → β → W → Prop}
    (hf : ∀ now, Ensures rely held (f now) fun w b w' => w = now → Q w b w') :
    Ensures rely held (CallM.world >>= f) Q := by
  have hworld : Ensures rely held (CallM.world : CallM κ W ε W) fun w now w' => now = w ∧ w' = w := by
    refine of_same_state ?_
    intro s now s' hm
    cases hm
    exact ⟨rfl, rfl, rfl⟩
  refine hworld.bind ?_
  intro now
  refine (hf now).mono ?_
  rintro w b w' h _ - ⟨rfl, rfl⟩
  exact h rfl

theorem foreign_bind {f : W → α × W} {g : α → CallM κ W ε β} {Q : W → β → W → Prop}
    (hg : ∀ now, Ensures rely held (g (f now).1) fun _ b w'' => ∀ w, Q w b w'') :
    Ensures rely held (CallM.foreign held f >>= g) Q := by
  intro s b s'' h
  obtain ⟨new, hsteps, hQ⟩ := hg s.world ⟨(f s.world).2, _⟩ b s'' h
  refine ⟨⟨held, s.world, (f s.world).2⟩ :: new, by simp [hsteps], ?_⟩
  intro hmet
  obtain ⟨hstep, hmet'⟩ := List.forall_mem_cons.mp hmet
  obtain ⟨hheld, hq⟩ := hQ hmet'
  exact ⟨rely.trans hstep.2 hheld, hq s.world⟩

/-- From a noted point on, what had to be true there is known. -/
theorem note_bind {noted : κ} {m : CallM κ W ε β} {Q : W → β → W → Prop}
    (hm : Ensures rely held m fun w b w' => rely.starts noted w → Q w b w') :
    Ensures rely held (CallM.note noted >>= fun _ => m) Q := by
  intro s b s' h
  obtain ⟨new, hsteps, hQ⟩ := hm ⟨s.world, _⟩ b s' h
  refine ⟨⟨noted, s.world, s.world⟩ :: new, by simp [hsteps], ?_⟩
  intro hmet
  obtain ⟨hstep, hmet'⟩ := List.forall_mem_cons.mp hmet
  obtain ⟨hheld, hq⟩ := hQ hmet'
  exact ⟨hheld, hq hstep.1⟩

/-- Holding less. -/
theorem weaken {held' : κ} {m : CallM κ W ε α} {P : W → α → W → Prop} (h : Ensures rely held' m P)
    (hless : ∀ w w', rely.holds held' w w' → rely.holds held w w') : Ensures rely held m P := by
  intro s a s' hm
  obtain ⟨new, hsteps, hP⟩ := h s a s' hm
  refine ⟨new, hsteps, ?_⟩
  intro hmet
  obtain ⟨hheld, hp⟩ := hP hmet
  exact ⟨hless _ _ hheld, hp⟩

theorem mapError {f : ε → ε'} {m : CallM κ W ε α} {P : W → α → W → Prop}
    (h : Ensures rely held m P) : Ensures rely held (CallM.mapError f m) P := by
  intro s a s' hm
  cases hresult : m s with
  | error err => simp [CallM.mapError, hresult, Except.mapError] at hm
  | ok result =>
    obtain rfl : result = (a, s') := by simpa [CallM.mapError, hresult, Except.mapError] using hm
    exact h s a s' hresult

theorem mapM {f : α → CallM κ W ε β} {Q : α → β → Prop} {items : List α}
    (h : ∀ item ∈ items, Ensures rely held (f item) fun _ b _ => Q item b) :
    Ensures rely held (items.mapM f) fun _ bs _ => List.Forall₂ Q items bs := by
  induction items with
  | nil =>
    rw [List.mapM_nil]
    exact .pure fun _ => .nil
  | cons item items ih =>
    rw [List.forall_mem_cons] at h
    rw [List.mapM_cons]
    refine .bind h.1 ?_
    intro b
    refine .bind (ih h.2) ?_
    intro bs
    refine .pure ?_
    intro _ _ _ hbs _ _ hb
    exact .cons hb hbs

end Ensures

end Reentrancy
