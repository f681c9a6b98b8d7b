import Mathlib.Data.List.Basic

/-!
# Traces

A trace grows at its end. A property that relates each event to the events before it holds of a
trace when it has held of every event at its time.

## Main definitions

- `Trace.Always` — every event fits the events before it
- `Trace.Always.concat`, `Trace.always_concat_iff` — one more event
-/

namespace Trace

variable {α : Type*} {fits : List α → α → Prop} {trace : List α}

/-- Every event fits the events before it. -/
def Always (fits : List α → α → Prop) (trace : List α) : Prop :=
  ∀ before event after, trace = before ++ event :: after → fits before event

theorem always_nil : Always fits [] := by
  intro before event after h
  cases before <;> cases h

theorem Always.concat (h : Always fits trace) {event : α} (he : fits trace event) :
    Always fits (trace ++ [event]) := by
  intro before e after split
  rcases List.eq_nil_or_concat after with rfl | ⟨rest, last, rfl⟩
  · obtain ⟨rfl, heq⟩ := List.append_inj' split rfl
    cases heq
    exact he
  · have split' : trace ++ [event] = (before ++ e :: rest) ++ [last] := by simpa using split
    obtain ⟨rfl, -⟩ := List.append_inj' split' rfl
    exact h before e rest rfl

theorem always_concat_iff {event : α} :
    Always fits (trace ++ [event]) ↔ Always fits trace ∧ fits trace event := by
  constructor
  · intro h
    refine ⟨?_, h trace event [] rfl⟩
    intro before e after split
    exact h before e (after ++ [event]) (by rw [split, List.append_assoc, List.cons_append])
  · exact fun h => h.1.concat h.2

end Trace
