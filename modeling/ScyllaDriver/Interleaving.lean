import Mathlib.Algebra.BigOperators.Group.Multiset.Basic
import Mathlib.Algebra.Order.BigOperators.Group.Multiset
import Mathlib.Logic.Relation

/-! Threads interleaving over a shared state. A thread is its program counter,
locals included; the threads of a configuration are a multiset, so any number
of them may run the same code. -/

namespace ScyllaDriver

/-- A program run by any number of threads. `step` is what a thread does next,
`env` what happens without any thread taking a step. The choices `ε` and the
events `κ` resolve what the code does not decide. Both return the threads that
run afterwards in place of the one that stepped. -/
structure Program (σ π ε κ : Type*) where
  step : σ → π → ε → Option (σ × List π)
  env : σ → κ → Option (σ × List π)

@[ext]
structure Config (σ π : Type*) where
  shared : σ
  threads : Multiset π

inductive Label (π ε κ : Type*) where
  | thread (p : π) (e : ε)
  | env (k : κ)

variable {σ π ε κ : Type*} [DecidableEq π]

def Program.next (P : Program σ π ε κ) (c : Config σ π) :
    Label π ε κ → Option (Config σ π)
  | .thread p e =>
    if p ∈ c.threads then
      (P.step c.shared p e).map fun r => ⟨r.1, (r.2 : Multiset π) + c.threads.erase p⟩
    else none
  | .env k => (P.env c.shared k).map fun r => ⟨r.1, (r.2 : Multiset π) + c.threads⟩

/-- One step whose configuration and label satisfy `ok`. -/
def Program.StepIn (P : Program σ π ε κ) (ok : Config σ π → Label π ε κ → Prop)
    (c d : Config σ π) : Prop :=
  ∃ l, ok c l ∧ P.next c l = some d

abbrev Program.RunIn (P : Program σ π ε κ) (ok : Config σ π → Label π ε κ → Prop) :=
  Relation.ReflTransGen (P.StepIn ok)

/-- Every interleaving, with no restriction on the steps. -/
abbrev Program.Run (P : Program σ π ε κ) := P.RunIn fun _ _ => True

def Program.exec (P : Program σ π ε κ) (c : Config σ π) :
    List (Label π ε κ) → Option (Config σ π)
  | [] => some c
  | l :: ls => (P.next c l).bind fun d => P.exec d ls

/-- A run with its labels, whose steps satisfy `ok`. -/
def Program.TraceIn (P : Program σ π ε κ) (ok : Config σ π → Label π ε κ → Prop)
    (c : Config σ π) : List (Label π ε κ) → Config σ π → Prop
  | [], d => d = c
  | l :: ls, d => ok c l ∧ ∃ b, P.next c l = some b ∧ P.TraceIn ok b ls d

/-- What a step is: one thread replaced by its successors, or threads added by
the environment. -/
theorem Program.next_cases {P : Program σ π ε κ} {c d : Config σ π} {l : Label π ε κ}
    (h : P.next c l = some d) :
    (∃ p e T s q, l = .thread p e ∧ c = ⟨c.shared, p ::ₘ T⟩ ∧
      P.step c.shared p e = some (s, q) ∧ d = ⟨s, (q : Multiset π) + T⟩) ∨
    (∃ k s q, l = .env k ∧ P.env c.shared k = some (s, q) ∧
      d = ⟨s, (q : Multiset π) + c.threads⟩) := by
  cases l with
  | thread p e =>
    simp only [next] at h
    split at h
    · rename_i hp
      obtain ⟨⟨s, q⟩, hs, rfl⟩ := Option.map_eq_some_iff.mp h
      exact .inl ⟨p, e, c.threads.erase p, s, q, rfl,
        by rw [Multiset.cons_erase hp], hs, rfl⟩
    · cases h
  | env k =>
    obtain ⟨⟨s, q⟩, hs, rfl⟩ := Option.map_eq_some_iff.mp h
    exact .inr ⟨k, s, q, rfl, hs, rfl⟩

theorem Program.runIn_thread {P : Program σ π ε κ} {ok : Config σ π → Label π ε κ → Prop}
    {s s' : σ} {T : Multiset π} {p : π} {e : ε} {q : List π}
    (hok : ok ⟨s, p ::ₘ T⟩ (.thread p e)) (h : P.step s p e = some (s', q)) :
    P.RunIn ok ⟨s, p ::ₘ T⟩ ⟨s', (q : Multiset π) + T⟩ := by
  refine .single ⟨.thread p e, hok, ?_⟩
  simp only [next, Multiset.mem_cons_self, if_true, h, Option.map_some, Multiset.erase_cons_head]

theorem Program.runIn_env {P : Program σ π ε κ} {ok : Config σ π → Label π ε κ → Prop}
    {s s' : σ} {T : Multiset π} {k : κ} {q : List π} (hok : ok ⟨s, T⟩ (.env k))
    (h : P.env s k = some (s', q)) : P.RunIn ok ⟨s, T⟩ ⟨s', (q : Multiset π) + T⟩ :=
  .single ⟨.env k, hok, by simp only [next, h, Option.map_some]⟩

theorem Program.runIn_perm {P : Program σ π ε κ} {ok : Config σ π → Label π ε κ → Prop}
    {s s' : σ} {l l' r : List π} {p : π} {e : ε} {q : List π} (hl : l.Perm (p :: r))
    (hl' : (q ++ r).Perm l') (hok : ok ⟨s, p ::ₘ (r : Multiset π)⟩ (.thread p e))
    (h : P.step s p e = some (s', q)) : P.RunIn ok ⟨s, l⟩ ⟨s', l'⟩ := by
  have hrun := P.runIn_thread hok h
  rwa [Multiset.cons_coe, Multiset.coe_add, Multiset.coe_eq_coe.mpr hl',
    ← Multiset.coe_eq_coe.mpr hl] at hrun

theorem Program.run_thread {P : Program σ π ε κ} {s s' : σ} {T : Multiset π} {p : π} {e : ε}
    {q : List π} (h : P.step s p e = some (s', q)) :
    P.Run ⟨s, p ::ₘ T⟩ ⟨s', (q : Multiset π) + T⟩ :=
  P.runIn_thread trivial h

theorem Program.run_env {P : Program σ π ε κ} {s s' : σ} {T : Multiset π} {k : κ} {q : List π}
    (h : P.env s k = some (s', q)) : P.Run ⟨s, T⟩ ⟨s', (q : Multiset π) + T⟩ :=
  P.runIn_env trivial h

/-- A property that every thread step and every environment step preserves,
as long as the steps satisfy `ok`. -/
structure Program.Preserves (P : Program σ π ε κ) (ok : Config σ π → Label π ε κ → Prop)
    (I : Config σ π → Prop) : Prop where
  thread : ∀ {s T p e s' q}, ok ⟨s, p ::ₘ T⟩ (.thread p e) → I ⟨s, p ::ₘ T⟩ →
    P.step s p e = some (s', q) → I ⟨s', (q : Multiset π) + T⟩
  env : ∀ {s T k s' q}, ok ⟨s, T⟩ (.env k) → I ⟨s, T⟩ →
    P.env s k = some (s', q) → I ⟨s', (q : Multiset π) + T⟩

theorem Program.Preserves.next {P : Program σ π ε κ}
    {ok : Config σ π → Label π ε κ → Prop} {I : Config σ π → Prop} (h : P.Preserves ok I)
    {c d : Config σ π} {l : Label π ε κ} (hok : ok c l) (hI : I c)
    (hn : P.next c l = some d) : I d := by
  rcases next_cases hn with ⟨p, e, T, s, q, rfl, hc, hs, rfl⟩ | ⟨k, s, q, rfl, hs, rfl⟩
  · rw [hc] at hok hI
    exact h.thread hok hI hs
  · exact h.env hok hI hs

theorem Program.Preserves.run {P : Program σ π ε κ}
    {ok : Config σ π → Label π ε κ → Prop} {I : Config σ π → Prop} (h : P.Preserves ok I)
    {c d : Config σ π} (hI : I c) (hr : P.RunIn ok c d) : I d := by
  induction hr with
  | refl => exact hI
  | tail _ hs ih =>
    obtain ⟨l, hok, hn⟩ := hs
    exact h.next hok ih hn

theorem Program.exec_runIn {P : Program σ π ε κ} {ok : Config σ π → Label π ε κ → Prop}
    {c d : Config σ π} (ls : List (Label π ε κ)) (hok : ∀ l ∈ ls, ∀ c, ok c l)
    (h : P.exec c ls = some d) : P.RunIn ok c d := by
  induction ls generalizing c with
  | nil => cases h; exact .refl
  | cons l ls ih =>
    obtain ⟨b, hb, hd⟩ := Option.bind_eq_some_iff.mp h
    exact .head ⟨l, hok l List.mem_cons_self c, hb⟩
      (ih (fun l' hl' => hok l' (List.mem_cons_of_mem l hl')) hd)

theorem Program.TraceIn.concat {P : Program σ π ε κ} {ok : Config σ π → Label π ε κ → Prop}
    {c d e : Config σ π} {ls : List (Label π ε κ)} {l : Label π ε κ} (h : P.TraceIn ok c ls d)
    (hok : ok d l) (hn : P.next d l = some e) : P.TraceIn ok c (ls ++ [l]) e := by
  induction ls generalizing c with
  | nil =>
    obtain rfl : d = c := h
    exact ⟨hok, e, hn, rfl⟩
  | cons k ls ih =>
    obtain ⟨hk, b, hb, hrest⟩ := h
    exact ⟨hk, b, hb, ih hrest⟩

theorem Program.exec_traceIn {P : Program σ π ε κ} {ok : Config σ π → Label π ε κ → Prop}
    {c d : Config σ π} (ls : List (Label π ε κ)) (hok : ∀ l ∈ ls, ∀ c, ok c l)
    (h : P.exec c ls = some d) : P.TraceIn ok c ls d := by
  induction ls generalizing c with
  | nil => cases h; exact rfl
  | cons l ls ih =>
    obtain ⟨b, hb, hd⟩ := Option.bind_eq_some_iff.mp h
    exact ⟨hok l List.mem_cons_self c, b, hb,
      ih (fun l' hl' => hok l' (List.mem_cons_of_mem l hl')) hd⟩

theorem Program.exec_run {P : Program σ π ε κ} {c d : Config σ π}
    (ls : List (Label π ε κ)) (h : P.exec c ls = some d) : P.Run c d :=
  Program.exec_runIn ls (fun _ _ _ => trivial) h

end ScyllaDriver
