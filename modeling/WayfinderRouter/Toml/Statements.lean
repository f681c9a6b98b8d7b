import Mathlib.Data.List.Basic
import Mathlib.Logic.Function.Basic
import Mathlib.Tactic.Common

/-!
# Statements of TOML

A document is a list of statements: headers of tables, headers of elements of arrays of tables,
and assignments. They build a tree, and a document is not valid when one of them defines a thing
twice.

## Main definitions

- `TableTree`, `Statement.apply` — what a statement builds
- `run`, `denote` — statements one after the other, and the tree of a document

## Main results

- `run_frame` — statements that leave a path alone do not depend on what is there
- `run_reassign`, `run_assign_new`, `run_append_table` — documents with one statement more, or
  with another one
-/

namespace WayfinderRouter.Toml.Statements

variable {V : Type}

/-! ## Trees -/

/-- One step down in a tree: a key of a table, or an element of an array of tables. -/
inductive Step where
  | key (name : String)
  | element (index : ℕ)
deriving DecidableEq

abbrev Path := List Step

/-- How a table came to be: by a header below it, by its own header, or by a dotted key. -/
inductive Origin where
  | implicit
  | header
  | dotted

/-- What is at a path. Inline tables and arrays are values: nothing is added to them. -/
inductive Entry (V : Type) where
  | value (value : V)
  | table (origin : Origin)
  | tables (last : ℕ)

/-- What is at each path. The table of the root has no entry of its own. -/
abbrev TableTree (V : Type) := Path → Option (Entry V)

/-- Where the keys under an entry are: those of an array of tables are in its last element. -/
def Entry.inside (p : Path) : Entry V → Path
  | .tables last => p ++ [.element last]
  | _ => p

/-- What a statement makes of an entry that it passes. -/
abbrev Visit (V : Type) := Option (Entry V) → Option (Entry V)

/-- A header passes the entries above its table. -/
def pass : Visit V
  | none => some (.table .implicit)
  | some (.value _) => none
  | some entry => some entry

/-- A dotted key only passes tables that were made by dotted keys. -/
def passDotted : Visit V
  | none => some (.table .dotted)
  | some (.table .dotted) => some (.table .dotted)
  | _ => none

/-- A header defines a table that is new, or was only made for headers below it. -/
def define : Visit V
  | none => some (.table .header)
  | some (.table .implicit) => some (.table .header)
  | _ => none

/-- A header in double brackets adds an element. -/
def extend : Visit V
  | none => some (.tables 0)
  | some (.tables last) => some (.tables (last + 1))
  | _ => none

/-- An assignment needs a new key. -/
def put (value : V) : Visit V
  | none => some (.value value)
  | _ => none

/-- Visit the entries along keys, below a path. -/
def walk : List (String × Visit V) → Path → TableTree V → Option (TableTree V × Path)
  | [], q, t => some (t, q)
  | (name, visit) :: steps, q, t =>
    (visit (t (q ++ [.key name]))).bind fun entry =>
      walk steps (entry.inside (q ++ [.key name]))
        (Function.update t (q ++ [.key name]) (some entry))

/-- A statement with its key: the names before the last dot, and the last name. -/
inductive Statement (V : Type) where
  | blank
  | table (above : List String) (name : String)
  | tables (above : List String) (name : String)
  | assign (above : List String) (name : String) (value : V)

/-- The keys that a statement walks, with what it does at each. -/
def Statement.steps : Statement V → List (String × Visit V)
  | .blank => []
  | .table above name => above.map (·, pass) ++ [(name, define)]
  | .tables above name => above.map (·, pass) ++ [(name, extend)]
  | .assign above name value => above.map (·, passDotted) ++ [(name, put value)]

/-- The tree after a statement, and the path of the current table. -/
def Statement.apply (statement : Statement V) (s : TableTree V × Path) :
    Option (TableTree V × Path) :=
  match statement with
  | .blank => some s
  | .table _ _ | .tables _ _ => walk statement.steps [] s.1
  | .assign _ _ _ => (walk statement.steps s.2 s.1).map fun s' => (s'.1, s.2)

/-- The statements one after the other. -/
def run (statements : List (Statement V)) (s : TableTree V × Path) : Option (TableTree V × Path) :=
  statements.foldlM (fun s statement => statement.apply s) s

/-- The tree of a document; `none` when it is not valid. -/
def denote (statements : List (Statement V)) : Option (TableTree V) :=
  (run statements (fun _ => none, [])).map Prod.fst

/-! ## What a walk leaves alone -/

/-- Nothing is done to a value. -/
def Visit.RejectsValues (visit : Visit V) : Prop := ∀ value, visit (some (.value value)) = none

theorem Statement.rejectsValues (statement : Statement V) :
    ∀ step ∈ statement.steps, Visit.RejectsValues step.2 := by
  have hpassed : ∀ {visit last : Visit V} {above : List String} {name : String},
      visit.RejectsValues → last.RejectsValues →
      ∀ step ∈ above.map (fun key => (key, visit)) ++ [(name, last)],
        Visit.RejectsValues step.2 := by
    intro visit last above name hvisit hlast step hstep
    rcases List.mem_append.mp hstep with hstep | hstep
    · obtain ⟨key, -, rfl⟩ := List.mem_map.mp hstep
      exact hvisit
    · rw [List.mem_singleton.mp hstep]
      exact hlast
  cases statement with
  | blank => exact fun _ h => absurd h List.not_mem_nil
  | table above name => exact hpassed (fun _ => rfl) fun _ => rfl
  | tables above name => exact hpassed (fun _ => rfl) fun _ => rfl
  | assign above name value => exact hpassed (fun _ => rfl) fun _ => rfl

section Walk

variable {steps : List (String × Visit V)} {q q' p : Path} {t t' r : TableTree V}

/-- Entries stay. -/
theorem walk_keeps (h : walk steps q t = some (r, q')) (hp : t p ≠ none) : r p ≠ none := by
  induction steps generalizing q t with
  | nil =>
    cases h
    exact hp
  | cons step steps ih =>
    obtain ⟨entry, -, hrest⟩ := Option.bind_eq_some_iff.mp h
    refine ih hrest ?_
    rw [Function.update_apply]
    split_ifs
    · exact Option.some_ne_none entry
    · exact hp

/-- A value is in the way of every walk. -/
theorem walk_value (hsteps : ∀ step ∈ steps, Visit.RejectsValues step.2) {value : V}
    (h : walk steps q t = some (r, q')) (hp : t p = some (.value value)) :
    r p = some (.value value) := by
  induction steps generalizing q t with
  | nil =>
    cases h
    exact hp
  | cons step steps ih =>
    obtain ⟨entry, hentry, hrest⟩ := Option.bind_eq_some_iff.mp h
    have hne : p ≠ q ++ [.key step.1] := by
      rintro rfl
      rw [hp, hsteps step List.mem_cons_self value] at hentry
      cases hentry
    refine ih (fun step' h' => hsteps step' (List.mem_cons_of_mem _ h')) hrest ?_
    rw [Function.update_of_ne hne, hp]

/-- A path at which a walk leaves nothing, or finds a value, does not matter to it. -/
theorem walk_frame (hsteps : ∀ step ∈ steps, Visit.RejectsValues step.2)
    (hagree : ∀ p' ≠ p, t' p' = t p') (h : walk steps q t = some (r, q'))
    (hp : r p = none ∨ ∃ value, t p = some (.value value)) :
    ∃ r', walk steps q t' = some (r', q') ∧ (∀ p' ≠ p, r' p' = r p') ∧ r' p = t' p := by
  induction steps generalizing q t t' with
  | nil =>
    cases h
    exact ⟨t', rfl, hagree, rfl⟩
  | cons step steps ih =>
    obtain ⟨entry, hentry, hrest⟩ := Option.bind_eq_some_iff.mp h
    have hne : q ++ [.key step.1] ≠ p := by
      rintro rfl
      rcases hp with hp | ⟨value, hp⟩
      · refine walk_keeps hrest ?_ hp
        rw [Function.update_self]
        exact Option.some_ne_none entry
      · rw [hp, hsteps step List.mem_cons_self value] at hentry
        cases hentry
    have hupdate : ∀ p' ≠ p, Function.update t' (q ++ [.key step.1]) (some entry) p' =
        Function.update t (q ++ [.key step.1]) (some entry) p' := by
      intro p' hp'
      rw [Function.update_apply, Function.update_apply, hagree p' hp']
    obtain ⟨r', hrun, hagree', hvalue⟩ :=
      ih (fun step' h' => hsteps step' (List.mem_cons_of_mem _ h')) hupdate hrest
        (hp.imp_right fun ⟨value, hvalue⟩ =>
          ⟨value, by rw [Function.update_of_ne hne.symm, hvalue]⟩)
    refine ⟨r', ?_, hagree', ?_⟩
    · rw [walk, hagree _ hne, hentry]
      exact hrun
    · rw [hvalue, Function.update_of_ne hne.symm]

end Walk

section Run

variable {statements : List (Statement V)} {s s' : TableTree V × Path} {p : Path}

theorem Statement.apply_keeps {statement : Statement V} (h : statement.apply s = some s')
    (hp : s.1 p ≠ none) : s'.1 p ≠ none := by
  cases statement with
  | blank =>
    cases h
    exact hp
  | table above name => exact walk_keeps h hp
  | tables above name => exact walk_keeps h hp
  | assign above name value =>
    obtain ⟨s'', hwalk, rfl⟩ := Option.map_eq_some_iff.mp h
    exact walk_keeps hwalk hp

theorem Statement.apply_value {statement : Statement V} {value : V}
    (h : statement.apply s = some s') (hp : s.1 p = some (.value value)) :
    s'.1 p = some (.value value) := by
  cases statement with
  | blank =>
    cases h
    exact hp
  | table above name => exact walk_value (rejectsValues _) h hp
  | tables above name => exact walk_value (rejectsValues _) h hp
  | assign above name value' =>
    obtain ⟨s'', hwalk, rfl⟩ := Option.map_eq_some_iff.mp h
    exact walk_value (rejectsValues _) hwalk hp

theorem Statement.apply_frame {statement : Statement V} {t' : TableTree V}
    (hagree : ∀ p' ≠ p, t' p' = s.1 p') (h : statement.apply s = some s')
    (hp : s'.1 p = none ∨ ∃ value, s.1 p = some (.value value)) :
    ∃ r', statement.apply (t', s.2) = some (r', s'.2) ∧ (∀ p' ≠ p, r' p' = s'.1 p') ∧
      r' p = t' p := by
  cases statement with
  | blank =>
    cases h
    exact ⟨t', rfl, hagree, rfl⟩
  | table above name => exact walk_frame (rejectsValues _) hagree h hp
  | tables above name => exact walk_frame (rejectsValues _) hagree h hp
  | assign above name value =>
    obtain ⟨s'', hwalk, rfl⟩ := Option.map_eq_some_iff.mp h
    obtain ⟨r', hrun, hagree', hvalue⟩ := walk_frame (rejectsValues _) hagree hwalk hp
    exact ⟨r', by rw [apply, hrun]; rfl, hagree', hvalue⟩

theorem run_cons {statement : Statement V} :
    run (statement :: statements) s = (statement.apply s).bind (run statements) :=
  List.foldlM_cons

theorem run_append (statements' : List (Statement V)) :
    run (statements ++ statements') s = (run statements s).bind (run statements') :=
  List.foldlM_append

theorem run_keeps (h : run statements s = some s') (hp : s.1 p ≠ none) : s'.1 p ≠ none := by
  induction statements generalizing s with
  | nil =>
    cases h
    exact hp
  | cons statement statements ih =>
    rw [run_cons] at h
    obtain ⟨s₁, hfirst, hrest⟩ := Option.bind_eq_some_iff.mp h
    exact ih hrest (Statement.apply_keeps hfirst hp)

/-- A path at which statements leave nothing, or find a value, does not matter to them. -/
theorem run_frame {t' : TableTree V} (hagree : ∀ p' ≠ p, t' p' = s.1 p')
    (h : run statements s = some s')
    (hp : s'.1 p = none ∨ ∃ value, s.1 p = some (.value value)) :
    ∃ r', run statements (t', s.2) = some (r', s'.2) ∧ (∀ p' ≠ p, r' p' = s'.1 p') ∧
      r' p = t' p := by
  induction statements generalizing s t' with
  | nil =>
    cases h
    exact ⟨t', rfl, hagree, rfl⟩
  | cons statement statements ih =>
    rw [run_cons] at h
    obtain ⟨s₁, hfirst, hrest⟩ := Option.bind_eq_some_iff.mp h
    have hafter : s₁.1 p = none ∨ ∃ value, s.1 p = some (.value value) := by
      refine hp.imp_left fun hnone => ?_
      by_contra hsome
      exact run_keeps hrest hsome hnone
    obtain ⟨r₁, hrun, hagree', hvalue⟩ := Statement.apply_frame hagree hfirst hafter
    obtain ⟨r', hrun', hagree'', hvalue'⟩ :=
      ih hagree' hrest (hp.imp_right fun ⟨value, hvalue⟩ =>
        ⟨value, Statement.apply_value hfirst hvalue⟩)
    refine ⟨r', ?_, hagree'', hvalue'.trans hvalue⟩
    rw [run_cons, hrun]
    exact hrun'

end Run

/-! ## Keys of the root -/

/-- What is below a key of the root is there only with the key. -/
def Rooted (name : String) (s : TableTree V × Path) : Prop :=
  ∀ p, s.1 (.key name :: p) ≠ none ∨ s.2 = .key name :: p → s.1 [.key name] ≠ none

section Rooted

variable {name : String} {s s' : TableTree V × Path}

theorem update_keeps {t : TableTree V} {p : Path} (hp : t p ≠ none) (p' : Path) (entry : Entry V) :
    Function.update t p' (some entry) p ≠ none := by
  rw [Function.update_apply]
  split_ifs
  · exact Option.some_ne_none entry
  · exact hp

theorem Rooted.visit {t : TableTree V} {q : Path} (h : Rooted name (t, q)) (key : String)
    (entry : Entry V) :
    Rooted name (Function.update t (q ++ [.key key]) (some entry),
      entry.inside (q ++ [.key key])) := by
  -- The key is new here, or it was there before the visit.
  have hkey : ∀ p, q ++ [.key key] = .key name :: p →
      Function.update t (q ++ [.key key]) (some entry) [.key name] ≠ none := by
    intro p hp
    cases q with
    | nil =>
      rw [List.nil_append, List.cons.injEq] at hp
      rw [List.nil_append, hp.1, Function.update_self]
      exact Option.some_ne_none entry
    | cons step q =>
      rw [List.cons_append, List.cons.injEq] at hp
      exact update_keeps (h q (.inr (by rw [hp.1]))) _ entry
  intro p hp
  rcases hp with hp | hp
  · by_cases heq : Step.key name :: p = q ++ [.key key]
    · exact hkey p heq.symm
    · have hold : t (.key name :: p) ≠ none := fun hnone =>
        hp ((Function.update_of_ne heq _ _).trans hnone)
      exact update_keeps (h p (.inl hold)) _ entry
  · cases entry with
    | value value => exact hkey p hp
    | table origin => exact hkey p hp
    | tables last =>
      rcases hq : q ++ [Step.key key] with _ | ⟨step, p'⟩
      · cases List.append_ne_nil_of_right_ne_nil q (List.cons_ne_nil _ []) hq
      · rw [Entry.inside, hq, List.cons_append, List.cons.injEq] at hp
        rw [← hq]
        exact hkey p' (by rw [hq, hp.1])

theorem Rooted.walk {steps : List (String × Visit V)} {t r : TableTree V} {q q' : Path}
    (h : Rooted name (t, q)) (hwalk : walk steps q t = some (r, q')) : Rooted name (r, q') := by
  induction steps generalizing q t with
  | nil =>
    cases hwalk
    exact h
  | cons step steps ih =>
    obtain ⟨entry, -, hrest⟩ := Option.bind_eq_some_iff.mp hwalk
    exact ih (h.visit step.1 entry) hrest

theorem Rooted.apply {statement : Statement V} (h : Rooted name s)
    (happly : statement.apply s = some s') : Rooted name s' := by
  have hroot : Rooted name (s.1, []) := fun p hp =>
    h p (hp.imp_right fun hnil => absurd hnil.symm (List.cons_ne_nil _ _))
  cases statement with
  | blank =>
    cases happly
    exact h
  | table above name => exact hroot.walk happly
  | tables above name => exact hroot.walk happly
  | assign above name value =>
    obtain ⟨s'', hwalk, rfl⟩ := Option.map_eq_some_iff.mp happly
    have hrooted : Rooted _ s'' := Rooted.walk h hwalk
    intro p hp
    rcases hp with hp | hp
    · exact hrooted p (.inl hp)
    · exact walk_keeps hwalk (h p (.inr hp))

theorem Rooted.run {statements : List (Statement V)} (h : Rooted name s)
    (hrun : run statements s = some s') : Rooted name s' := by
  induction statements generalizing s with
  | nil =>
    cases hrun
    exact h
  | cons statement statements ih =>
    rw [run_cons] at hrun
    obtain ⟨s₁, hfirst, hrest⟩ := Option.bind_eq_some_iff.mp hrun
    exact ih (h.apply hfirst) hrest

theorem rooted_empty : Rooted name ((fun _ => none, []) : TableTree V × Path) := by
  intro p hp
  rcases hp with hp | hp
  · exact absurd rfl hp
  · exact absurd hp.symm (List.cons_ne_nil _ _)

end Rooted

/-! ## One key of one table -/

section Key

variable {statements : List (Statement V)} {s s' : TableTree V × Path} {table key : String}

/-- An assignment makes an entry that was not there. -/
theorem apply_assign_iff {value : V} :
    (Statement.assign [] key value).apply s = some s' ↔
      s.1 (s.2 ++ [.key key]) = none ∧
        s' = (Function.update s.1 (s.2 ++ [.key key]) (some (.value value)), s.2) := by
  show ((put value (s.1 (s.2 ++ [.key key]))).bind _).map _ = _ ↔ _
  cases s.1 (s.2 ++ [.key key]) with
  | none => simp [put, walk, Entry.inside, eq_comm]
  | some entry => simp [put]

/-- A header of the root opens its table. -/
theorem apply_table (h : (Statement.table [] table).apply s = some s') :
    s' = (Function.update s.1 [.key table] (some (.table .header)), [.key table]) := by
  obtain ⟨entry, hentry, hwalk⟩ := Option.bind_eq_some_iff.mp h
  have hheader : entry = .table .header := by
    rcases hold : s.1 [.key table] with _ | (value | (_ | _ | _) | last) <;>
      simp_all [define]
  subst hheader
  cases hwalk
  rfl

/-- Neither a header of a table nor one of an array of tables. -/
def Statement.IsHeader : Statement V → Prop
  | .table _ _ | .tables _ _ => True
  | _ => False

theorem run_current (hstatements : ∀ statement ∈ statements, ¬statement.IsHeader)
    (h : run statements s = some s') : s'.2 = s.2 := by
  induction statements generalizing s with
  | nil =>
    cases h
    rfl
  | cons statement statements ih =>
    rw [run_cons] at h
    obtain ⟨s₁, hfirst, hrest⟩ := Option.bind_eq_some_iff.mp h
    rw [List.forall_mem_cons] at hstatements
    rw [ih hstatements.2 hrest]
    cases statement with
    | blank =>
      cases hfirst
      rfl
    | table above name => exact absurd trivial hstatements.1
    | tables above name => exact absurd trivial hstatements.1
    | assign above name value =>
      obtain ⟨s'', -, rfl⟩ := Option.map_eq_some_iff.mp hfirst
      rfl

/-- The entry of a key of a table. -/
def keyPath (table key : String) : Path := [.key table, .key key]

/-- Another value for a key that has one. -/
theorem run_reassign {before mid after : List (Statement V)} {value : V}
    (hmid : ∀ statement ∈ mid, ¬statement.IsHeader)
    (h : run (before ++ .table [] table :: (mid ++ .assign [] key value :: after)) s = some s')
    (value' : V) :
    ∃ r, run (before ++ .table [] table :: (mid ++ .assign [] key value' :: after)) s = some r ∧
      r.1 (keyPath table key) = some (.value value') := by
  rw [run_append] at h ⊢
  obtain ⟨s₁, hbefore, h⟩ := Option.bind_eq_some_iff.mp h
  rw [run_cons] at h
  obtain ⟨s₂, hheader, h⟩ := Option.bind_eq_some_iff.mp h
  rw [run_append] at h
  obtain ⟨s₃, hmid', h⟩ := Option.bind_eq_some_iff.mp h
  rw [run_cons] at h
  obtain ⟨s₄, hassign, hafter⟩ := Option.bind_eq_some_iff.mp h
  have hcurrent : s₃.2 = [.key table] := by
    rw [run_current hmid hmid', apply_table hheader]
  obtain ⟨hnew, rfl⟩ := apply_assign_iff.mp hassign
  have hagree : ∀ p' ≠ s₃.2 ++ [.key key],
      Function.update s₃.1 (s₃.2 ++ [.key key]) (some (.value value')) p' =
        Function.update s₃.1 (s₃.2 ++ [.key key]) (some (.value value)) p' := by
    intro p' hp'
    rw [Function.update_of_ne hp', Function.update_of_ne hp']
  obtain ⟨r, hrun, -, hvalue⟩ := run_frame hagree hafter (.inr ⟨value, Function.update_self ..⟩)
  refine ⟨(r, s'.2), ?_, ?_⟩
  · rw [hbefore, Option.bind_some, run_cons, hheader, Option.bind_some, run_append, hmid',
      Option.bind_some, run_cons, apply_assign_iff.mpr ⟨hnew, rfl⟩]
    exact hrun
  · rw [Function.update_self, hcurrent] at hvalue
    exact hvalue

/-- A value for a key that has none, after the header of its table. -/
theorem run_assign_new {before after : List (Statement V)}
    (h : run (before ++ .table [] table :: after) s = some s')
    (hkey : s'.1 (keyPath table key) = none) (value : V) :
    ∃ r, run (before ++ .table [] table :: .assign [] key value :: after) s = some r ∧
      r.1 (keyPath table key) = some (.value value) := by
  rw [run_append] at h ⊢
  obtain ⟨s₁, hbefore, h⟩ := Option.bind_eq_some_iff.mp h
  rw [run_cons] at h
  obtain ⟨s₂, hheader, hafter⟩ := Option.bind_eq_some_iff.mp h
  have hcurrent : s₂.2 = [.key table] := by rw [apply_table hheader]
  have hpath : s₂.2 ++ [.key key] = keyPath table key := by
    rw [hcurrent]
    rfl
  have hnew : s₂.1 (keyPath table key) = none := by
    by_contra hsome
    exact run_keeps hafter hsome hkey
  have hagree : ∀ p' ≠ keyPath table key,
      Function.update s₂.1 (keyPath table key) (some (.value value)) p' = s₂.1 p' :=
    fun p' hp' => Function.update_of_ne hp' _ _
  obtain ⟨r, hrun, -, hvalue⟩ := run_frame hagree hafter (.inl hkey)
  refine ⟨(r, s'.2), ?_, ?_⟩
  · rw [hbefore, Option.bind_some, run_cons, hheader, Option.bind_some, run_cons,
      apply_assign_iff.mpr ⟨hpath ▸ hnew, rfl⟩, hpath]
    exact hrun
  · exact hvalue.trans (Function.update_self ..)

/-- A value for a key of a table that is not there. -/
theorem run_append_table (hroot : Rooted table s) (h : run statements s = some s')
    (htable : s'.1 [.key table] = none) (value : V) :
    ∃ r, run (statements ++ [.blank, .table [] table, .assign [] key value]) s = some r ∧
      r.1 (keyPath table key) = some (.value value) := by
  have hnew : s'.1 (keyPath table key) = none := by
    by_contra hsome
    exact hroot.run h _ (.inl hsome) htable
  have hopen : (Statement.table [] table).apply s' =
      some (Function.update s'.1 [.key table] (some (.table .header)), [.key table]) := by
    show (define (s'.1 [.key table])).bind _ = _
    rw [htable]
    rfl
  have hclosed : Function.update s'.1 [.key table] (some (.table .header))
      (keyPath table key) = none := by
    rw [Function.update_of_ne (by simp [keyPath]), hnew]
  refine ⟨(Function.update (Function.update s'.1 [.key table] (some (.table .header)))
    (keyPath table key) (some (.value value)), [.key table]), ?_, Function.update_self ..⟩
  rw [run_append, h, Option.bind_some, run_cons]
  show run [.table [] table, .assign [] key value] s' = _
  rw [run_cons, hopen, Option.bind_some, run_cons, apply_assign_iff.mpr ⟨hclosed, rfl⟩]
  rfl

end Key

end WayfinderRouter.Toml.Statements
