import Mathlib.Data.List.Nodup
import Mathlib.Logic.Function.Basic
import Mathlib.Order.Monotone.Basic

/-!
# Charging several accounts

A caller charges a list of accounts one after another, at the times of a clock, and takes
back what it charged when a later account refuses. Each account has a state of its own;
`Same` compares two states of an account by what any later call can tell of them.

A refusal is always undone. Whether a failure is undone as well is left to the caller,
and `chargeAll_cases` says what an attempt that does not undo it leaves behind. Calls travel
over a line that may fail: a call does not arrive, or it is served and the caller does not
get the answer.

## Main definitions

- `Accounts` — accounts that can be charged, and the laws of taking a charge back
- `Delivery` — what the line makes of a call
- `chargeAll` — the attempt to charge all accounts of a list
- `Charged` — the accounts with receipts are charged and the others are as before
-/

namespace Timed.Compensation

/-- What charging one account can come to. -/
inductive Outcome (ρ α ε : Type*) where
  | charged (receipt : ρ)
  | exempt
  | refused (answer : α)
  | failed (error : ε)

/-- Accounts behind keys. A charge that was made is taken back for certain. -/
structure Accounts (κ τ σ ρ α ε : Type*) [Preorder τ] where
  charge : κ → τ → σ → Outcome ρ α ε × σ
  undo : κ → ρ → τ → σ → Bool × σ
  /-- The states that calls up to a time can leave. -/
  Ready : κ → τ → σ → Prop
  /-- No call from a time on can tell the two states apart. -/
  Same : κ → τ → σ → σ → Prop
  ready_mono : ∀ {k t t' s}, t ≤ t' → Ready k t s → Ready k t' s
  same_refl : ∀ k t s, Same k t s s
  same_mono : ∀ {k t t' s s'}, t ≤ t' → Same k t s s' → Same k t' s s'
  charge_same : ∀ {k t s}, Ready k t s → (∀ r, (charge k t s).1 ≠ .charged r) →
    Same k t s (charge k t s).2
  undo_same : ∀ {k t t' s r}, Ready k t s → (charge k t s).1 = .charged r → t ≤ t' →
    (undo k r t' (charge k t s).2).1 = true ∧ Same k t' s (undo k r t' (charge k t s).2).2

/-- What becomes of a call on its way: it is served, it does not arrive, or it is served and
the caller is told of an error. -/
inductive Delivery (ε : Type*) where
  | served
  | unreached (error : ε)
  | unanswered (error : ε)

/-- The result of charging all accounts. `undone` tells whether every charge was taken back. -/
inductive Result (κ ρ α ε : Type*) where
  | charged (receipts : List (κ × ρ))
  | refused (answer : α) (undone : Bool)
  | failed (error : ε) (undone : Bool)

/-- Some account refused. -/
def Result.isRefused {κ ρ α ε : Type*} : Result κ ρ α ε → Bool
  | .refused _ _ => true
  | _ => false

namespace Delivery

variable {σ ρ α ε : Type*}

/-- A call as the caller sees it, and the state it leaves. -/
def deliver {β : Type*} (fail : ε → β) (d : Delivery ε) (result : β × σ) (s : σ) : β × σ :=
  match d with
  | .served => result
  | .unreached error => (fail error, s)
  | .unanswered error => (fail error, result.2)

/-- Charging an account over the line. -/
def charge (d : Delivery ε) (result : Outcome ρ α ε × σ) (s : σ) : Outcome ρ α ε × σ :=
  d.deliver .failed result s

/-- Taking a charge back over the line. -/
def undo (d : Delivery ε) (result : Bool × σ) (s : σ) : Bool × σ :=
  d.deliver (fun _ => false) result s

variable {d : Delivery ε} {result : Outcome ρ α ε × σ} {s s' : σ}

/-- The caller learns of a charge only from the account. -/
theorem eq_of_charge_eq_charged {r : ρ} (h : d.charge result s = (.charged r, s')) :
    result = (.charged r, s') := by
  cases d <;> simp_all [charge, deliver]

theorem eq_of_charge_eq_exempt (h : d.charge result s = (.exempt, s')) :
    result = (.exempt, s') := by
  cases d <;> simp_all [charge, deliver]

/-- The caller learns that a charge is taken back only from the account. -/
theorem undo_of_fst {result : Bool × σ} (h : (d.undo result s).1 = true) :
    d.undo result s = result := by
  cases d <;> simp_all [undo, deliver]

end Delivery

/-- No call that was to take a charge back reported an error. -/
def Result.undone {κ ρ α ε : Type*} : Result κ ρ α ε → Bool
  | .charged _ => true
  | .refused _ undone | .failed _ undone => undone

variable {κ τ σ ρ α ε : Type*} [Preorder τ]

/-- A line that serves every call. -/
def reliable : ℕ → Delivery ε := fun _ => .served

/-- Against the states `S₀` before the attempt: the accounts with receipts were charged once
before call `i`, and nobody can tell the others apart from what they were. -/
structure Charged (A : Accounts κ τ σ ρ α ε) (clock : ℕ → τ) (S₀ : κ → σ) (i : ℕ)
    (receipts : List (κ × ρ)) (S : κ → σ) : Prop where
  nodup : (receipts.map Prod.fst).Nodup
  once : ∀ k r, (k, r) ∈ receipts → ∃ j ≤ i, A.Ready k (clock j) (S₀ k) ∧
    A.charge k (clock j) (S₀ k) = (.charged r, S k)
  other : ∀ k, k ∉ receipts.map Prod.fst → A.Same k (clock i) (S₀ k) (S k)

theorem charged_nil (A : Accounts κ τ σ ρ α ε) (clock : ℕ → τ) (S₀ : κ → σ) (i : ℕ) :
    Charged A clock S₀ i [] S₀ where
  nodup := List.nodup_nil
  once := by simp
  other := by
    intro k _
    exact A.same_refl k _ _

section Loops

variable [DecidableEq κ] (A : Accounts κ τ σ ρ α ε) (clock : ℕ → τ) (line : ℕ → Delivery ε)

/-- Take the receipts back in the given order, the `i`-th call at `clock i`. -/
def undoAll : ℕ → List (κ × ρ) → (κ → σ) → Bool × (κ → σ)
  | _, [], S => (true, S)
  | i, (k, r) :: rest, S =>
    let (done, s) := (line i).undo (A.undo k r (clock i) (S k)) (S k)
    let (undone, S) := undoAll (i + 1) rest (Function.update S k s)
    (done && undone, S)

/-- Charge the accounts in order. The newest receipt is the first to be taken back. -/
def chargeAll (compensate : Bool) :
    ℕ → List κ → List (κ × ρ) → (κ → σ) → Result κ ρ α ε × (κ → σ)
  | _, [], receipts, S => (.charged receipts, S)
  | i, k :: rest, receipts, S =>
    match (line i).charge (A.charge k (clock i) (S k)) (S k) with
    | (.charged r, s) =>
      chargeAll compensate (i + 1) rest ((k, r) :: receipts) (Function.update S k s)
    | (.exempt, s) => chargeAll compensate (i + 1) rest receipts (Function.update S k s)
    | (.refused answer, s) =>
      let (undone, S) := undoAll A clock line (i + 1) receipts (Function.update S k s)
      (.refused answer undone, S)
    | (.failed error, s) =>
      if compensate then
        let (undone, S) := undoAll A clock line (i + 1) receipts (Function.update S k s)
        (.failed error undone, S)
      else (.failed error false, Function.update S k s)

end Loops

variable [DecidableEq κ] {A : Accounts κ τ σ ρ α ε} {clock : ℕ → τ} {line : ℕ → Delivery ε}
  {S₀ S : κ → σ} {i : ℕ} {receipts : List (κ × ρ)}

/-- Taking back the newest charge. -/
theorem Charged.undo {k : κ} {r : ρ} (hclock : Monotone clock)
    (charged : Charged A clock S₀ i ((k, r) :: receipts) S) :
    (A.undo k r (clock i) (S k)).1 = true ∧
      Charged A clock S₀ (i + 1) receipts
        (Function.update S k (A.undo k r (clock i) (S k)).2) := by
  obtain ⟨hk, hrest⟩ := List.nodup_cons.mp charged.nodup
  obtain ⟨j, hj, hready, hcharge⟩ := charged.once k r List.mem_cons_self
  have hundo := A.undo_same hready (congrArg Prod.fst hcharge) (hclock hj)
  rw [hcharge] at hundo
  have hnext : clock i ≤ clock (i + 1) := hclock (Nat.le_succ i)
  refine ⟨hundo.1, hrest, ?_, ?_⟩
  · intro k' r' hmem
    have hne : k' ≠ k := by
      rintro rfl
      exact hk (List.mem_map.mpr ⟨_, hmem, rfl⟩)
    obtain ⟨j', hj', hready', hcharge'⟩ := charged.once k' r' (List.mem_cons_of_mem _ hmem)
    rw [Function.update_of_ne hne]
    exact ⟨j', by omega, hready', hcharge'⟩
  · intro k' hk'
    by_cases hkk : k' = k
    · subst hkk
      rw [Function.update_self]
      exact A.same_mono hnext hundo.2
    · rw [Function.update_of_ne hkk]
      refine A.same_mono hnext (charged.other k' ?_)
      rw [List.map_cons, List.mem_cons, not_or]
      exact ⟨hkk, hk'⟩

/-- Undoing the receipts brings back states that nobody can tell from those before, if every
call says that its charge is taken back. -/
theorem undoAll_same (hclock : Monotone clock) (charged : Charged A clock S₀ i receipts S)
    (hundone : (undoAll A clock line i receipts S).1 = true) (k : κ) :
    A.Same k (clock (i + receipts.length)) (S₀ k)
      ((undoAll A clock line i receipts S).2 k) := by
  induction receipts generalizing i S with
  | nil => exact charged.other k (by simp)
  | cons p rest ih =>
    obtain ⟨k₁, r⟩ := p
    simp only [undoAll, Bool.and_eq_true] at hundone ⊢
    obtain ⟨hdone, hundone⟩ := hundone
    rw [Delivery.undo_of_fst hdone] at hundone ⊢
    have hlen : i + ((k₁, r) :: rest).length = i + 1 + rest.length := by
      rw [List.length_cons]
      omega
    rw [hlen]
    exact ih (charged.undo hclock).2 hundone

/-- Every call says so when the line serves the calls. -/
theorem undoAll_reliable (hclock : Monotone clock) (charged : Charged A clock S₀ i receipts S)
    (hserved : ∀ j, i ≤ j → line j = .served) : (undoAll A clock line i receipts S).1 = true := by
  induction receipts generalizing i S with
  | nil => rfl
  | cons p rest ih =>
    obtain ⟨k, r⟩ := p
    obtain ⟨hdone, hcharged⟩ := charged.undo hclock
    have hrest := ih hcharged fun j hj => hserved j (by omega)
    simp only [undoAll, hserved i le_rfl, Delivery.undo, Bool.and_eq_true]
    exact ⟨hdone, hrest⟩

variable {k : κ} {ks : List κ}

/-- A charge that was made. -/
theorem Charged.charge (charged : Charged A clock S₀ i receipts S) (hclock : Monotone clock)
    (hk : k ∉ receipts.map Prod.fst) (hS : S k = S₀ k) (hready : A.Ready k (clock i) (S₀ k)) {r : ρ}
    {s : σ} (hcharge : A.charge k (clock i) (S k) = (.charged r, s)) :
    Charged A clock S₀ (i + 1) ((k, r) :: receipts) (Function.update S k s) := by
  refine ⟨List.nodup_cons.mpr ⟨hk, charged.nodup⟩, ?_, ?_⟩
  · intro k' r' hmem
    rcases List.mem_cons.mp hmem with heq | hold
    · obtain ⟨rfl, rfl⟩ := Prod.mk.inj heq
      rw [Function.update_self]
      exact ⟨i, Nat.le_succ i, hready, hS ▸ hcharge⟩
    · have hne : k' ≠ k := by
        rintro rfl
        exact hk (List.mem_map.mpr ⟨_, hold, rfl⟩)
      obtain ⟨j, hj, hready', hcharge'⟩ := charged.once k' r' hold
      rw [Function.update_of_ne hne]
      exact ⟨j, by omega, hready', hcharge'⟩
  · intro k' hk'
    rw [List.map_cons, List.mem_cons, not_or] at hk'
    rw [Function.update_of_ne hk'.1]
    exact A.same_mono (hclock (Nat.le_succ i)) (charged.other k' hk'.2)

/-- An attempt that charged nothing. -/
theorem Charged.skip (charged : Charged A clock S₀ i receipts S) (hclock : Monotone clock)
    (hk : k ∉ receipts.map Prod.fst) (hS : S k = S₀ k) (hready : A.Ready k (clock i) (S₀ k))
    (hanswered : ∀ error, line i ≠ .unanswered error)
    (hnot : ∀ r, ((line i).charge (A.charge k (clock i) (S k)) (S k)).1 ≠ .charged r) :
    Charged A clock S₀ (i + 1) receipts
      (Function.update S k ((line i).charge (A.charge k (clock i) (S k)) (S k)).2) := by
  refine ⟨charged.nodup, ?_, ?_⟩
  · intro k' r' hmem
    have hne : k' ≠ k := by
      rintro rfl
      exact hk (List.mem_map.mpr ⟨_, hmem, rfl⟩)
    obtain ⟨j, hj, hready', hcharge'⟩ := charged.once k' r' hmem
    rw [Function.update_of_ne hne]
    exact ⟨j, by omega, hready', hcharge'⟩
  · intro k' hk'
    by_cases hkk : k' = k
    · subst hkk
      rw [Function.update_self]
      rw [hS] at hnot ⊢
      refine A.same_mono (hclock (Nat.le_succ i)) ?_
      cases hline : line i with
      | served =>
        rw [hline] at hnot
        exact A.charge_same hready hnot
      | unreached error => exact A.same_refl k' _ _
      | unanswered error => exact absurd hline (hanswered error)
    · rw [Function.update_of_ne hkk]
      exact A.same_mono (hclock (Nat.le_succ i)) (charged.other k' hk')

/-- The receipts are of the given accounts, and an account without one is exempt. -/
def Covers (A : Accounts κ τ σ ρ α ε) (clock : ℕ → τ) (S₀ : κ → σ) (ks : List κ)
    (receipts : List (κ × ρ)) : Prop :=
  (∀ k ∈ receipts.map Prod.fst, k ∈ ks) ∧
    ∀ k ∈ ks, k ∈ receipts.map Prod.fst ∨ ∃ j, A.Ready k (clock j) (S₀ k) ∧
      (A.charge k (clock j) (S₀ k)).1 = .exempt

omit [DecidableEq κ] in
theorem Charged.mono (charged : Charged A clock S₀ i receipts S) (hclock : Monotone clock) {n : ℕ}
    (hle : i ≤ n) : Charged A clock S₀ n receipts S where
  nodup := charged.nodup
  once := by
    intro k r hmem
    obtain ⟨j, hj, hrest⟩ := charged.once k r hmem
    exact ⟨j, hj.trans hle, hrest⟩
  other := by
    intro k hk
    exact A.same_mono (hclock hle) (charged.other k hk)

section Failure

variable (A clock line) in
/-- Some account fails and those before it let the attempt go on. -/
def FailsFrom (S : κ → σ) : ℕ → List κ → Prop
  | _, [] => False
  | i, k :: rest => match ((line i).charge (A.charge k (clock i) (S k)) (S k)).1 with
    | .charged _ | .exempt => FailsFrom S (i + 1) rest
    | .refused _ => False
    | .failed _ => True

variable (A clock line) in
/-- Some account fails after an account before it was charged. -/
def FailsCharged (S : κ → σ) : ℕ → List κ → Prop
  | _, [] => False
  | i, k :: rest => match ((line i).charge (A.charge k (clock i) (S k)) (S k)).1 with
    | .charged _ => FailsFrom A clock line S (i + 1) rest
    | .exempt => FailsCharged S (i + 1) rest
    | .refused _ | .failed _ => False

end Failure

/-- How an attempt ends: all accounts were asked, or the accounts charged so far are undone,
or they are left because a failure is not undone. -/
theorem chargeAll_cases (compensate : Bool) (hclock : Monotone clock)
    (charged : Charged A clock S₀ i receipts S) (hnodup : ks.Nodup)
    (hfresh : ∀ k ∈ ks, k ∉ receipts.map Prod.fst ∧ S k = S₀ k)
    (hready : ∀ k ∈ ks, A.Ready k (clock i) (S₀ k))
    (hanswered : ∀ j error, line j ≠ .unanswered error) {done : List κ}
    (covers : Covers A clock S₀ done receipts) :
    ∃ j receipts' S', j + receipts'.length ≤ i + 2 * ks.length + receipts.length ∧
      Charged A clock S₀ j receipts' S' ∧
      ((chargeAll A clock line compensate i ks receipts S = (.charged receipts', S') ∧
          Covers A clock S₀ (done ++ ks) receipts') ∨
        (∃ answer, chargeAll A clock line compensate i ks receipts S =
          (.refused answer (undoAll A clock line j receipts' S').1,
            (undoAll A clock line j receipts' S').2)) ∨
        (compensate = true ∧ ∃ error, chargeAll A clock line compensate i ks receipts S =
          (.failed error (undoAll A clock line j receipts' S').1,
            (undoAll A clock line j receipts' S').2)) ∨
        (compensate = false ∧ FailsFrom A clock line S₀ i ks ∧
          (receipts' = receipts ∨ FailsCharged A clock line S₀ i ks) ∧
          ∃ error, chargeAll A clock line compensate i ks receipts S =
            (.failed error false, S'))) := by
  induction ks generalizing i receipts S done with
  | nil =>
    rw [List.append_nil]
    exact ⟨i, receipts, S, by omega, charged, .inl ⟨rfl, covers⟩⟩
  | cons k rest ih =>
    obtain ⟨hknot, hrest⟩ := List.nodup_cons.mp hnodup
    obtain ⟨hk, hS⟩ := hfresh k List.mem_cons_self
    have hkready := hready k List.mem_cons_self
    have hrestready : ∀ k' ∈ rest, A.Ready k' (clock (i + 1)) (S₀ k') := fun k' hk' =>
      A.ready_mono (hclock (Nat.le_succ i)) (hready k' (List.mem_cons_of_mem _ hk'))
    have hrestS : ∀ k' ∈ rest, ∀ s, k' ≠ k ∧ Function.update S k s k' = S₀ k' := by
      intro k' hk' s
      have hne : k' ≠ k := by
        rintro rfl
        exact hknot hk'
      rw [Function.update_of_ne hne]
      exact ⟨hne, (hfresh k' (List.mem_cons_of_mem _ hk')).2⟩
    have happend : done ++ k :: rest = (done ++ [k]) ++ rest := by simp
    have hskip := charged.skip hclock hk hS hkready (hanswered i)
    rcases hc : (line i).charge (A.charge k (clock i) (S k)) (S k) with ⟨outcome, s⟩
    rw [hc] at hskip
    simp only [chargeAll, FailsFrom, FailsCharged, ← hS, hc]
    rw [happend]
    cases outcome with
    | charged r =>
      have hcharge := Delivery.eq_of_charge_eq_charged hc
      have hcovers : Covers A clock S₀ (done ++ [k]) ((k, r) :: receipts) := by
        refine ⟨?_, ?_⟩
        · intro k' hk'
          rw [List.map_cons, List.mem_cons] at hk'
          rcases hk' with rfl | hk'
          · simp
          · exact List.mem_append_left _ (covers.1 k' hk')
        · intro k' hk'
          rw [List.map_cons, List.mem_cons]
          rcases List.mem_append.mp hk' with hk' | hk'
          · exact (covers.2 k' hk').imp .inr id
          · exact .inl (.inl (List.mem_singleton.mp hk'))
      obtain ⟨j, receipts', S', hj, hcharged, hend⟩ := ih
        (charged.charge hclock hk hS hkready hcharge) hrest (fun k' hk' => ⟨by
          rw [List.map_cons, List.mem_cons, not_or]
          exact ⟨(hrestS k' hk' s).1, (hfresh k' (List.mem_cons_of_mem _ hk')).1⟩,
          (hrestS k' hk' s).2⟩) hrestready hcovers
      refine ⟨j, receipts', S', ?_, hcharged, ?_⟩
      · rw [List.length_cons] at hj ⊢
        omega
      · refine hend.imp_right (.imp_right (.imp_right ?_))
        rintro ⟨hcomp, hfails, -, herror⟩
        exact ⟨hcomp, hfails, .inr hfails, herror⟩
    | exempt =>
      have hcovers : Covers A clock S₀ (done ++ [k]) receipts := by
        refine ⟨?_, ?_⟩
        · intro k' hk'
          exact List.mem_append_left _ (covers.1 k' hk')
        · intro k' hk'
          rcases List.mem_append.mp hk' with hk' | hk'
          · exact covers.2 k' hk'
          · obtain rfl := List.mem_singleton.mp hk'
            exact .inr ⟨i, hkready, by rw [← hS, Delivery.eq_of_charge_eq_exempt hc]⟩
      obtain ⟨j, receipts', S', hj, hend⟩ := ih (hskip (by simp)) hrest (fun k' hk' =>
        ⟨(hfresh k' (List.mem_cons_of_mem _ hk')).1, (hrestS k' hk' s).2⟩) hrestready hcovers
      refine ⟨j, receipts', S', ?_, hend⟩
      rw [List.length_cons]
      omega
    | refused answer =>
      refine ⟨i + 1, receipts, _, ?_, hskip (by simp), .inr (.inl ⟨answer, rfl⟩)⟩
      rw [List.length_cons]
      omega
    | failed error =>
      refine ⟨i + 1, receipts, _, ?_, hskip (by simp), .inr (.inr ?_)⟩
      · rw [List.length_cons]
        omega
      · cases compensate with
        | true => exact .inl ⟨rfl, error, rfl⟩
        | false => exact .inr ⟨rfl, trivial, .inl rfl, error, rfl⟩

/-- **Compensation**: an attempt charges the accounts or, if everything was taken back, leaves
states that nobody can tell from those before it. A failure that is not undone leaves them
when it comes before the first charge. -/
theorem chargeAll_settled (compensate : Bool) (hclock : Monotone clock) (hnodup : ks.Nodup)
    (hready : ∀ k ∈ ks, A.Ready k (clock 0) (S₀ k))
    (hanswered : ∀ j error, line j ≠ .unanswered error) :
    match (chargeAll A clock line compensate 0 ks [] S₀).1 with
    | .charged receipts => Covers A clock S₀ ks receipts ∧
        Charged A clock S₀ (2 * ks.length) receipts
          (chargeAll A clock line compensate 0 ks [] S₀).2
    | .refused _ undone =>
        ((∀ j, line j = .served) → undone = true) ∧ (undone = true → ∀ k,
          A.Same k (clock (2 * ks.length)) (S₀ k)
            ((chargeAll A clock line compensate 0 ks [] S₀).2 k))
    | .failed _ undone =>
        (compensate = true → (∀ j, line j = .served) → undone = true) ∧
          (undone = true ∨ compensate = false ∧ ¬FailsCharged A clock line S₀ 0 ks → ∀ k,
            A.Same k (clock (2 * ks.length)) (S₀ k)
              ((chargeAll A clock line compensate 0 ks [] S₀).2 k)) := by
  have covers : Covers A clock S₀ [] [] := ⟨by simp, by simp⟩
  obtain ⟨j, receipts, S', hj, charged, hend⟩ := chargeAll_cases compensate hclock
    (charged_nil A clock S₀ 0) hnodup (fun k _ => ⟨by simp, rfl⟩) hready hanswered covers
  have hlast : 0 + 2 * ks.length + ([] : List (κ × ρ)).length = 2 * ks.length := by simp
  rw [hlast] at hj
  have hundone : (∀ j, line j = .served) → (undoAll A clock line j receipts S').1 = true :=
    fun hserved => undoAll_reliable hclock charged fun j' _ => hserved j'
  have hsame : (undoAll A clock line j receipts S').1 = true → ∀ k,
      A.Same k (clock (2 * ks.length)) (S₀ k) ((undoAll A clock line j receipts S').2 k) :=
    fun h k => A.same_mono (hclock hj) (undoAll_same hclock charged h k)
  obtain ⟨heq, covers⟩ | ⟨answer, heq⟩ | ⟨hcomp, error, heq⟩ | ⟨hcomp, -, hnone, error, heq⟩ := hend
  · rw [heq]
    exact ⟨covers, charged.mono hclock (by omega)⟩
  · rw [heq]
    exact ⟨hundone, hsame⟩
  · rw [heq]
    refine ⟨fun _ => hundone, ?_⟩
    rintro (h | ⟨h, -⟩)
    · exact hsame h
    · simp [hcomp] at h
  · rw [heq]
    refine ⟨by simp [hcomp], ?_⟩
    rintro (h | ⟨-, h⟩)
    · simp at h
    · obtain rfl := hnone.resolve_right h
      exact fun k => A.same_mono (hclock (by omega)) (charged.other k (by simp))

end Timed.Compensation
