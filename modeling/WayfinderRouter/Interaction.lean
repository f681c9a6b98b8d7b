import Mathlib.Data.List.Basic

/-!
# Interactions

A script is a computation that does one operation after another on a state that it shares with
others. What an operation answers decides how the script goes on.

A system takes actions of two kinds, visible and hidden ones, in any order. When the hidden actions
leave a view of the state alone and the visible ones read nothing but the view, the hidden actions
can be left out of a run, or put in at other places, and nobody who watches the visible actions
sees a difference.

## Main definitions

- `Script` — the operations of a computation
- `Script.MayCall` — an operation that some acceptable answers lead to
- `run`, `Throughout` — a run, and a condition on all of its actions
- `Unwinding` — what makes the hidden actions hidden

## Main results

- `Unwinding.purge` — a run without its hidden actions
- `Unwinding.same_outputs` — runs with the same visible actions
-/

namespace Interaction

/-! ## Scripts -/

/-- A computation that does operations. -/
inductive Script {ω : Type*} (ans : ω → Type*) where
  | done
  | call (op : ω) (next : ans op → Script ans)

namespace Script

variable {ω : Type*} {ans : ω → Type*} {ok : ∀ op, ans op → Prop}

/-- The operation is called after some acceptable answers. -/
inductive MayCall (ok : ∀ op, ans op → Prop) : Script ans → ω → Prop where
  | now {op : ω} {next : ans op → Script ans} : MayCall ok (.call op next) op
  | later {op op' : ω} {next : ans op → Script ans} {answer : ans op} (h : ok op answer)
      (h' : MayCall ok (next answer) op') : MayCall ok (.call op next) op'

@[simp] theorem mayCall_done {op : ω} : ¬ MayCall ok .done op := by
  intro h
  cases h

@[simp] theorem mayCall_call {op op' : ω} {next : ans op → Script ans} :
    MayCall ok (.call op next) op' ↔
      op' = op ∨ ∃ answer, ok op answer ∧ MayCall ok (next answer) op' := by
  constructor
  · intro h
    cases h with
    | now => exact .inl rfl
    | later h h' => exact .inr ⟨_, h, h'⟩
  · rintro (rfl | ⟨_, h, h'⟩)
    · exact .now
    · exact .later h h'

/-- The next operation, if the computation has not ended. -/
def nextOp : Script ans → Option ω
  | done => none
  | call op _ => some op

end Script

/-! ## Runs -/

variable {σ α β π : Type*} (step : α → σ → β × σ) (visible : α → Bool)

/-- The outputs of the visible actions of a run, and the last state. -/
def run : List α → σ → List β × σ
  | [], s => ([], s)
  | a :: l, s =>
    let result := step a s
    let rest := run l result.2
    (if visible a then result.1 :: rest.1 else rest.1, rest.2)

/-- Every action of the run meets a condition in the state in which it is taken. -/
def Throughout (ok : α → σ → Prop) : List α → σ → Prop
  | [], _ => True
  | a :: l, s => ok a s ∧ Throughout ok l (step a s).2

/-- Visible actions depend on the view only, and acceptable hidden actions keep it. -/
structure Unwinding (ok : α → σ → Prop) (view : σ → π) : Prop where
  output : ∀ a s t, visible a = true → view s = view t → (step a s).1 = (step a t).1
  after : ∀ a s t, visible a = true → view s = view t → view (step a s).2 = view (step a t).2
  hidden : ∀ a s, visible a = false → ok a s → view (step a s).2 = view s

variable {step visible} {ok : α → σ → Prop} {view : σ → π}

/-- Without its hidden actions a run shows the same. -/
theorem Unwinding.purge (h : Unwinding step visible ok view) {l : List α} {s t : σ}
    (hl : Throughout step ok l s) (hview : view s = view t) :
    (run step visible l s).1 = (run step visible (l.filter visible) t).1 ∧
      view (run step visible l s).2 = view (run step visible (l.filter visible) t).2 := by
  induction l generalizing s t with
  | nil => exact ⟨rfl, hview⟩
  | cons a l ih =>
    cases hv : visible a with
    | true =>
      obtain ⟨houtputs, hlast⟩ := ih hl.2 (h.after a s t hv hview)
      rw [List.filter_cons_of_pos hv]
      simp only [run, hv, if_true]
      exact ⟨by rw [houtputs, h.output a s t hv hview], hlast⟩
    | false =>
      have hkeep := (h.hidden a s hv hl.1).trans hview
      rw [List.filter_cons_of_neg (by rw [hv]; exact Bool.false_ne_true)]
      simp only [run, hv, Bool.false_eq_true, if_false]
      exact ih hl.2 hkeep

/-- Runs that differ only in their hidden actions show the same. -/
theorem Unwinding.same_outputs (h : Unwinding step visible ok view) {l l' : List α} {s : σ}
    (hl : Throughout step ok l s) (hl' : Throughout step ok l' s)
    (hsame : l.filter visible = l'.filter visible) :
    (run step visible l s).1 = (run step visible l' s).1 ∧
      view (run step visible l s).2 = view (run step visible l' s).2 := by
  obtain ⟨houtputs, hlast⟩ := h.purge hl rfl
  obtain ⟨houtputs', hlast'⟩ := h.purge hl' rfl
  rw [houtputs, hlast, houtputs', hlast', hsame]
  exact ⟨rfl, rfl⟩

end Interaction
