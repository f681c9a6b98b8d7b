import Mathlib.Tactic.Linarith
import WayfinderRouter.Double
import WayfinderRouter.Fallible

/-!
# The shared-state backend: errors, script replies and numbers

What every operation of `RedisStateBackend` has in common: the sanitized errors, how a
script's reply becomes a result, and how amounts and durations given as doubles become
the integers that the scripts count in.

Script numbers are exact integers: the counters of the scripts stay in the range in which
the doubles of the script language are exact.
-/

namespace WayfinderRouter

/-- Sanitized shared-state failures. -/
inductive StateBackendError where
  | invalidWindow
  | unavailable
  | lockPoisoned
deriving DecidableEq, Repr

/-- What a script answers. -/
inductive ScriptReply where
  | integer (value : ℤ)
  | errorReply (message : String)
deriving DecidableEq, Repr

/-- The result of an operation that grants on the reply `1`. -/
def ScriptReply.granted : ScriptReply → Except StateBackendError Bool
  | integer value => .ok (value == 1)
  | errorReply _ => .error .unavailable

theorem ScriptReply.granted_eq_true {reply : ScriptReply} :
    reply.granted = .ok true ↔ reply = .integer 1 := by
  cases reply with
  | integer value => simp [granted]
  | errorReply message => simp [granted]

/-- The result of an operation that ignores the integer. -/
def ScriptReply.done : ScriptReply → Except StateBackendError Unit
  | integer _ => .ok ()
  | errorReply _ => .error .unavailable

instance decidableForallOk {ε α : Type} (x : Except ε α) (P : α → Prop) [DecidablePred P] :
    Decidable (∀ a, x = .ok a → P a) :=
  match x with
  | .error _ => isTrue fun _ h => nomatch h
  | .ok a => decidable_of_iff (P a) ⟨fun h _ ha => Except.ok.inj ha ▸ h, fun h => h a rfl⟩

/-- `SHARED_COST_SCALE`. -/
def sharedCostScale : ℚ := 1000000

/-- `i64::MAX`. -/
def i64Max : ℤ := 2 ^ 63 - 1

/-- `scaled_cost`. The bound compares with `i64::MAX as f64`, which is `2 ^ 63`, and the
final cast saturates. -/
def scaledCost (value : Double) : Except StateBackendError ℤ :=
  match value with
  | .notFinite => .error .unavailable
  | .finite q =>
    if q < 0 then .error .unavailable
    else
      let scaled := roundHalfAway (q * sharedCostScale)
      if 2 ^ 63 < scaled then .error .unavailable else .ok (min scaled i64Max)

theorem scaledCost_nonneg {value : Double} {n : ℤ} (h : scaledCost value = .ok n) : 0 ≤ n := by
  cases value with
  | notFinite => simp [scaledCost] at h
  | finite q =>
    simp only [scaledCost] at h
    split at h
    · simp at h
    · next hq =>
      split at h
      · simp at h
      · obtain rfl := Except.ok.inj h
        have hscaled : 0 ≤ q * sharedCostScale :=
          mul_nonneg (not_lt.mp hq) (by simp [sharedCostScale])
        exact le_min (roundHalfAway_nonneg hscaled) (by decide)

end WayfinderRouter
