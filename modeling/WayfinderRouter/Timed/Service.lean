import Mathlib.Order.Lattice

/-!
# Runs of a timed service

Clients call a service one at a time: every call is atomic, carries the time at which
it takes effect, and answers with a reply. A run is the history of the calls served so
far, newest first, with the state they lead to. Times never decrease along a run.

The history is what an observer of the service sees, so a specification is a function
of histories and a correctness statement relates it to the state. `Ok` restricts the
calls that a run may make; it sees the history and the state before the call.

## Main definitions

- `Event` — one served call
- `Service` — the state transition of one call
- `Service.Run` — histories with the state they lead to
- `Service.replay` — the history of a given list of calls
-/

namespace Timed

/-- One served call. -/
structure Event (τ ι ο : Type*) where
  time : τ
  call : ι
  reply : ο

/-- A service: what a call at a given time answers and which state it leaves. -/
abbrev Service (τ σ ι ο : Type*) := τ → ι → σ → ο × σ

namespace Service

variable {τ σ ι ο : Type*}

/-- Every call is allowed. -/
def Any : List (Event τ ι ο) → σ → τ → ι → Prop := fun _ _ _ _ => True

/-- The event of serving `call` at time `now` in state `s`. -/
def event (serve : Service τ σ ι ο) (now : τ) (call : ι) (s : σ) : Event τ ι ο :=
  ⟨now, call, (serve now call s).1⟩

variable [LE τ]

/-- Histories of the service from `init`, newest event first, with the state reached. -/
inductive Run (serve : Service τ σ ι ο) (Ok : List (Event τ ι ο) → σ → τ → ι → Prop) (init : σ) :
    List (Event τ ι ο) → σ → Prop where
  | nil : Run serve Ok init [] init
  | cons {h : List (Event τ ι ο)} {s : σ} (now : τ) (call : ι) (run : Run serve Ok init h s)
      (time_le : ∀ e ∈ h, e.time ≤ now) (ok : Ok h s now call) :
      Run serve Ok init (serve.event now call s :: h) (serve now call s).2

variable {serve : Service τ σ ι ο} {Ok Ok' : List (Event τ ι ο) → σ → τ → ι → Prop} {init s : σ}
  {h : List (Event τ ι ο)}

/-- **Invariant rule**: what holds at the start and is kept by every allowed call holds
after every run. -/
theorem Run.invariant {I : List (Event τ ι ο) → σ → Prop} (run : Run serve Ok init h s)
    (start : I [] init)
    (step : ∀ h s now call, I h s → (∀ e ∈ h, e.time ≤ now) → Ok h s now call →
      I (serve.event now call s :: h) (serve now call s).2) : I h s := by
  induction run with
  | nil => exact start
  | cons now call _ time_le ok ih => exact step _ _ now call ih time_le ok

/-- A run under a stronger restriction is a run under a weaker one. -/
theorem Run.mono (run : Run serve Ok init h s)
    (weaken : ∀ h s now call, Ok h s now call → Ok' h s now call) : Run serve Ok' init h s := by
  induction run with
  | nil => exact .nil
  | cons now call _ time_le ok ih => exact .cons now call ih time_le (weaken _ _ _ _ ok)

/-- **Until rule**: what holds at the start and is kept by every allowed call before the
deadline holds until some call has reached the deadline. -/
theorem Run.until {τ : Type*} [LinearOrder τ] {serve : Service τ σ ι ο}
    {Ok : List (Event τ ι ο) → σ → τ → ι → Prop} {h : List (Event τ ι ο)}
    {I : List (Event τ ι ο) → σ → Prop} {deadline : τ} (run : Run serve Ok init h s)
    (start : I [] init)
    (step : ∀ h s now call, I h s → now < deadline → Ok h s now call →
      I (serve.event now call s :: h) (serve now call s).2) :
    (∃ e ∈ h, deadline ≤ e.time) ∨ I h s := by
  induction run with
  | nil => exact .inr start
  | cons now call _ _ ok ih =>
    rcases ih with ⟨e, he, hle⟩ | hI
    · exact .inl ⟨e, List.mem_cons_of_mem _ he, hle⟩
    · rcases le_or_gt deadline now with hle | hlt
      · exact .inl ⟨_, List.mem_cons_self, hle⟩
      · exact .inr (step _ _ now call hI hlt ok)

section Replay

variable (serve) (Ok) (init)

/-- The history and the state after the given calls, newest call first. -/
def replay : List (τ × ι) → List (Event τ ι ο) × σ
  | [] => ([], init)
  | (now, call) :: rest =>
    (serve.event now call (replay rest).2 :: (replay rest).1, (serve now call (replay rest).2).2)

/-- The calls come in the order of their times and are all allowed. -/
def Admissible : List (τ × ι) → Prop
  | [] => True
  | (now, call) :: rest =>
    (∀ e ∈ (serve.replay init rest).1, e.time ≤ now) ∧
      Ok (serve.replay init rest).1 (serve.replay init rest).2 now call ∧ Admissible rest

instance decidableAdmissible [DecidableLE τ] [∀ h s now call, Decidable (Ok h s now call)] :
    (calls : List (τ × ι)) → Decidable (serve.Admissible Ok init calls)
  | [] => isTrue trivial
  | (now, call) :: rest =>
    have := decidableAdmissible rest
    inferInstanceAs (Decidable ((∀ e ∈ (serve.replay init rest).1, e.time ≤ now) ∧
      Ok (serve.replay init rest).1 (serve.replay init rest).2 now call ∧
        serve.Admissible Ok init rest))

end Replay

theorem run_replay {calls : List (τ × ι)} (h : serve.Admissible Ok init calls) :
    Run serve Ok init (serve.replay init calls).1 (serve.replay init calls).2 := by
  induction calls with
  | nil => exact .nil
  | cons c rest ih => exact .cons c.1 c.2 (ih h.2.2) h.1 h.2.1

end Service

end Timed
