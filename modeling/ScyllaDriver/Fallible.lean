import Mathlib.Data.List.Basic

/-! Computations that make requests which may be refused. A run returns, raises what it was
refused with, or panics; the rules below say how each of them can come about. -/

namespace Fallible

inductive Failure (ε : Type) where
  | raised (err : ε)
  | panicked (message : String)
  deriving DecidableEq, Repr

/-- The state counts the requests that were granted. -/
abbrev RunM (ε : Type) := StateT Nat (Except (Failure ε))

variable {ε ε' α β : Type}

namespace RunM

/-- `refuses` tells for the number of a request what it is refused with. -/
def request (refuses : Nat → Option ε) (a : α) : RunM ε α := fun made =>
  match refuses made with
  | some err => .error (.raised err)
  | none => .ok (a, made + 1)

def panicWith (message : String) : RunM ε α := fun _ => .error (.panicked message)

def mapErr (f : ε → ε') (m : RunM ε α) : RunM ε' α := fun made =>
  match m made with
  | .ok result => .ok result
  | .error (.raised err) => .error (.raised (f err))
  | .error (.panicked message) => .error (.panicked message)

end RunM

inductive Outcome (fails : ε → Prop) (P : α → Prop) (panics : Prop) :
    Except (Failure ε) (α × Nat) → Prop
  | returned {a : α} {made : Nat} (h : P a) : Outcome fails P panics (.ok (a, made))
  | raised {err : ε} (h : fails err) : Outcome fails P panics (.error (.raised err))
  | panicked {message : String} (h : panics) : Outcome fails P panics (.error (.panicked message))

/-- Every run of `m` returns a value with `P`, raises something with `fails`, or panics where
`panics` allows it. -/
def Ends (fails : ε → Prop) (m : RunM ε α) (P : α → Prop) (panics : Prop) : Prop :=
  ∀ made, Outcome fails P panics (m made)

namespace Ends

variable {fails : ε → Prop} {P : α → Prop} {Q : β → Prop} {panics : Prop} {m : RunM ε α}

theorem pure {a : α} (h : P a) : Ends fails (Pure.pure a) P panics :=
  fun _ => .returned h

theorem bind {f : α → RunM ε β} (hm : Ends fails m P panics)
    (hf : ∀ a, P a → Ends fails (f a) Q panics) : Ends fails (m >>= f) Q panics := by
  intro made
  have hfirst := hm made
  simp only [Bind.bind, StateT.bind]
  generalize m made = result at hfirst
  cases hfirst with
  | returned h => exact hf _ h _
  | raised h => exact .raised h
  | panicked h => exact .panicked h

theorem imp {P' : α → Prop} (hm : Ends fails m P panics) (h : ∀ a, P a → P' a) :
    Ends fails m P' panics := by
  intro made
  have houtcome := hm made
  generalize m made = result at houtcome
  cases houtcome with
  | returned ha => exact .returned (h _ ha)
  | raised herr => exact .raised herr
  | panicked hpanics => exact .panicked hpanics

theorem request {refuses : Nat → Option ε} {a : α} (h : P a) :
    Ends (fun err => ∃ k, refuses k = some err) (RunM.request refuses a) P panics := by
  intro made
  unfold RunM.request
  cases hrefuses : refuses made with
  | some err => exact .raised ⟨made, hrefuses⟩
  | none => exact .returned h

theorem panicWith {message : String} (h : panics) :
    Ends fails (RunM.panicWith message) P panics :=
  fun _ => .panicked h

theorem mapErr {f : ε → ε'} {fails' : ε' → Prop} (hm : Ends fails m P panics)
    (hf : ∀ err, fails err → fails' (f err)) : Ends fails' (RunM.mapErr f m) P panics := by
  intro made
  have hfirst := hm made
  unfold RunM.mapErr
  generalize m made = result at hfirst
  cases hfirst with
  | returned h => exact .returned h
  | raised h => exact .raised (hf _ h)
  | panicked h => exact .panicked h

/-- A loop with an accumulator. `I` relates the items done so far to what is accumulated. -/
theorem foldlM {f : β → α → RunM ε β} {I : List α → β → Prop} {items : List α}
    (hstep : ∀ done, ∀ item ∈ items, ∀ b, I done b →
      Ends fails (f b item) (I (done ++ [item])) panics) {done : List α} {b : β} (hb : I done b) :
    Ends fails (items.foldlM f b) (I (done ++ items)) panics := by
  induction items generalizing done b with
  | nil =>
    rw [List.append_nil]
    exact pure hb
  | cons item items ih =>
    rw [List.foldlM_cons]
    refine (hstep done item (by simp) b hb).bind fun b' hb' => ?_
    have hrest := ih (fun done' item' hitem' => hstep done' item' (by simp [hitem'])) hb'
    rwa [List.append_assoc] at hrest

theorem of_eq_ok (h : Ends fails m P panics) {made made' : Nat} {a : α}
    (hm : m made = .ok (a, made')) : P a := by
  have houtcome := h made
  rw [hm] at houtcome
  cases houtcome with
  | returned ha => exact ha

theorem of_eq_error (h : Ends fails m P False) {made : Nat} {failure : Failure ε}
    (hm : m made = .error failure) : ∃ err, fails err ∧ failure = .raised err := by
  have houtcome := h made
  rw [hm] at houtcome
  cases houtcome with
  | raised herr => exact ⟨_, herr, rfl⟩
  | panicked hfalse => exact hfalse.elim

theorem returns (h : Ends fails m P False) (hfails : ∀ err, ¬ fails err) (made : Nat) :
    ∃ a made', m made = .ok (a, made') := by
  cases hm : m made with
  | ok result => exact ⟨result.1, result.2, rfl⟩
  | error failure =>
    obtain ⟨err, herr, -⟩ := h.of_eq_error hm
    exact absurd herr (hfails err)

end Ends

end Fallible
