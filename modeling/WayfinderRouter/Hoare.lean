/-!
# Hoare triples

Specifications of computations that change a state and may stop with an error. The error has its
own postcondition, so a computation that stops early still says what it leaves behind.

## Main definitions

- `Triple` — a precondition, a postcondition, and a postcondition for errors
- `zoom` — a computation on a part of the state
-/

namespace Hoare

universe u

variable {ε σ τ α β : Type u}

/-- From a state that meets `P` the computation ends in one that meets `Q`, or stops in one that
meets `E`. -/
def Triple (P : σ → Prop) (c : EStateM ε σ α) (Q : α → σ → Prop) (E : ε → σ → Prop) : Prop :=
  ∀ s, P s → match c s with
    | .ok a s' => Q a s'
    | .error e s' => E e s'

variable {P P' : σ → Prop} {Q Q' : α → σ → Prop} {R : β → σ → Prop} {E E' : ε → σ → Prop}
variable {c : EStateM ε σ α} {f : α → EStateM ε σ β}

/-- **Consequence rule**. -/
theorem Triple.consequence (h : Triple P c Q E) (hpre : ∀ s, P' s → P s)
    (hpost : ∀ a s, Q a s → Q' a s) (herror : ∀ e s, E e s → E' e s) : Triple P' c Q' E' := by
  intro s hs
  have hc := h s (hpre s hs)
  revert hc
  cases c s with
  | ok a s' => exact hpost a s'
  | error e s' => exact herror e s'

theorem Triple.weaken_pre (h : Triple P c Q E) (hpre : ∀ s, P' s → P s) : Triple P' c Q E :=
  h.consequence hpre (fun _ _ h => h) (fun _ _ h => h)

theorem Triple.weaken_error (h : Triple P c Q E) (herror : ∀ e s, E e s → E' e s) :
    Triple P c Q E' :=
  h.consequence (fun _ h => h) (fun _ _ h => h) herror

theorem Triple.pure (a : α) (h : ∀ s, P s → Q a s) :
    Triple P (Pure.pure a : EStateM ε σ α) Q E := fun s hs => h s hs

theorem Triple.throw (e : ε) (h : ∀ s, P s → E e s) :
    Triple P (MonadExcept.throw e : EStateM ε σ α) Q E := fun s hs => h s hs

/-- **Sequencing rule**. -/
theorem Triple.bind (hc : Triple P c Q E) (hf : ∀ a, Triple (Q a) (f a) R E) :
    Triple P (c >>= f) R E := by
  intro s hs
  have h := hc s hs
  show match EStateM.bind c f s with
    | .ok b s' => R b s'
    | .error e s' => E e s'
  unfold EStateM.bind
  revert h
  cases c s with
  | ok a s' => exact fun h => hf a s' h
  | error e s' => exact fun h => h

/-- A fact that does not depend on the state. -/
theorem Triple.of_fact {φ : Prop} (h : φ → Triple P c Q E) :
    Triple (fun s => φ ∧ P s) c Q E := fun s hs => h hs.1 s hs.2

/-! ## A part of the state -/

variable (view : σ → τ) (put : τ → σ → σ)

/-- A computation on a part of the state. -/
def zoom (c : EStateM ε τ α) : EStateM ε σ α := fun s =>
  match c (view s) with
  | .ok a t => .ok a (put t s)
  | .error e t => .error e (put t s)

/-- **Frame rule**: what does not read the part is kept. -/
theorem Triple.zoom {view : σ → τ} {put : τ → σ → σ} {P : τ → Prop} {Q : α → τ → Prop}
    {E : ε → τ → Prop} {c : EStateM ε τ α} (h : Triple P c Q E) {F : σ → Prop}
    (hview : ∀ t s, view (put t s) = t) (hframe : ∀ t s, F s → F (put t s)) :
    Triple (fun s => P (view s) ∧ F s) (Hoare.zoom view put c) (fun a s => Q a (view s) ∧ F s)
      (fun e s => E e (view s) ∧ F s) := by
  intro s hs
  have hc := h (view s) hs.1
  unfold Hoare.zoom
  revert hc
  cases c (view s) with
  | ok a t => exact fun hc => ⟨by rwa [hview], hframe t s hs.2⟩
  | error e t => exact fun hc => ⟨by rwa [hview], hframe t s hs.2⟩

end Hoare
