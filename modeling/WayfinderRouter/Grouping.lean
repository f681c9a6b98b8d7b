import Mathlib.Data.List.SplitBy

/-!
# Grouping by key

Lists of groups, each under a key. A new group is joined to the last one when their keys agree.
What is pushed in this way alternates, and an alternating list of groups is determined by its
elements and their keys.

## Main definitions

- `Grouping.tagged` — the elements of all groups in order, each with its key
- `Grouping.Alternating` — no group is empty, and neighbours have different keys
- `Grouping.push` — append a group, joined to the last one when their keys agree

## Main results

- `Grouping.Alternating.push`, `Grouping.tagged_push` — what pushing keeps, and what it adds
- `Grouping.Alternating.ext` — alternating lists with the same elements are equal
-/

namespace Grouping

variable {K A : Type*}

/-- The elements of a group, each with its key. -/
def tag (group : K × List A) : List (K × A) := group.2.map (Prod.mk group.1)

/-- The elements of all groups in order, each with its key. -/
def tagged (groups : List (K × List A)) : List (K × A) := groups.flatMap tag

structure Alternating (groups : List (K × List A)) : Prop where
  nonempty : ∀ group ∈ groups, group.2 ≠ []
  alternates : groups.IsChain fun group next => group.1 ≠ next.1

theorem alternating_nil : Alternating ([] : List (K × List A)) :=
  ⟨fun _ h => absurd h List.not_mem_nil, .nil⟩

theorem tagged_append (groups groups' : List (K × List A)) :
    tagged (groups ++ groups') = tagged groups ++ tagged groups' :=
  List.flatMap_append

theorem tagged_singleton (group : K × List A) : tagged [group] = tag group :=
  List.flatMap_singleton tag group

/-! ## Uniqueness -/

theorem tag_injective {group group' : K × List A} (hne : group.2 ≠ [])
    (h : tag group = tag group') : group = group' := by
  obtain ⟨k, as⟩ := group
  obtain ⟨k', as'⟩ := group'
  have has : as = as' := by
    have hsnd := congrArg (List.map Prod.snd) h
    simpa only [tag, List.map_map, Function.comp_def, List.map_id'] using hsnd
  subst has
  cases as with
  | nil => exact absurd rfl hne
  | cons a as =>
    have hhead : (k, a) = (k', a) := (List.cons.inj h).1
    cases hhead
    rfl

section Keys

variable [DecidableEq K]

/-- The groups are the runs of elements under one key. -/
theorem Alternating.splitBy_tagged {groups : List (K × List A)} (h : Alternating groups) :
    (tagged groups).splitBy (fun x y => decide (x.1 = y.1)) = groups.map tag := by
  rw [List.splitBy_eq_iff]
  refine ⟨List.flatMap_def, ?_, ?_, ?_⟩
  · intro hmem
    obtain ⟨group, hgroup, hnil⟩ := List.mem_map.mp hmem
    exact h.nonempty group hgroup (List.map_eq_nil_iff.mp hnil)
  · intro run hrun
    obtain ⟨group, -, rfl⟩ := List.mem_map.mp hrun
    -- all elements of a group have its key
    apply List.Pairwise.isChain
    apply List.pairwise_of_forall_mem_list
    intro x hx y hy
    obtain ⟨a, -, rfl⟩ := List.mem_map.mp hx
    obtain ⟨b, -, rfl⟩ := List.mem_map.mp hy
    exact decide_eq_true rfl
  · rw [List.isChain_map]
    refine (h.alternates.imp_of_mem_imp ?_)
    intro group next hgroup hnext hne
    have hleft : tag group ≠ [] := fun hnil =>
      h.nonempty group hgroup (List.map_eq_nil_iff.mp hnil)
    have hright : tag next ≠ [] := fun hnil =>
      h.nonempty next hnext (List.map_eq_nil_iff.mp hnil)
    obtain ⟨a, -, ha⟩ := List.mem_map.mp (List.getLast_mem hleft)
    obtain ⟨b, -, hb⟩ := List.mem_map.mp (List.head_mem hright)
    refine ⟨hleft, hright, ?_⟩
    rw [← ha, ← hb]
    exact decide_eq_false hne

theorem Alternating.ext {groups groups' : List (K × List A)} (h : Alternating groups)
    (h' : Alternating groups') (htagged : tagged groups = tagged groups') : groups = groups' := by
  have hruns : groups.map tag = groups'.map tag := by
    rw [← h.splitBy_tagged, htagged, h'.splitBy_tagged]
  clear htagged
  induction groups generalizing groups' with
  | nil => exact (List.map_eq_nil_iff.mp hruns.symm).symm
  | cons group groups ih =>
    cases groups' with
    | nil => cases hruns
    | cons group' groups' =>
      obtain ⟨hhead, htail⟩ := List.cons.inj hruns
      rw [tag_injective (h.nonempty group List.mem_cons_self) hhead,
        ih ⟨fun g hg => h.nonempty g (List.mem_cons_of_mem _ hg), h.alternates.tail⟩
          ⟨fun g hg => h'.nonempty g (List.mem_cons_of_mem _ hg), h'.alternates.tail⟩ htail]

/-! ## Pushing -/

/-- Append a group, joined to the last one when their keys agree. -/
def push (groups : List (K × List A)) (key : K) (elements : List A) : List (K × List A) :=
  if elements.isEmpty then groups
  else
    match groups.getLast? with
    | some (last, content) =>
      if last = key then groups.dropLast ++ [(last, content ++ elements)]
      else groups ++ [(key, elements)]
    | none => groups ++ [(key, elements)]

/-- What pushing does. -/
theorem push_cases (groups : List (K × List A)) (key : K) (elements : List A) :
    (elements = [] ∧ push groups key elements = groups) ∨
    (elements ≠ [] ∧ ∃ before content, groups = before ++ [(key, content)] ∧
      push groups key elements = before ++ [(key, content ++ elements)]) ∨
    (elements ≠ [] ∧ (∀ group ∈ groups.getLast?, group.1 ≠ key) ∧
      push groups key elements = groups ++ [(key, elements)]) := by
  by_cases hempty : elements = []
  · exact .inl ⟨hempty, if_pos (List.isEmpty_iff.mpr hempty)⟩
  rw [push, if_neg (mt List.isEmpty_iff.mp hempty)]
  cases hlast : groups.getLast? with
  | none => exact .inr (.inr ⟨hempty, fun _ h => (Option.not_mem_none _ h).elim, rfl⟩)
  | some group =>
    obtain ⟨last, content⟩ := group
    obtain ⟨before, rfl⟩ := List.getLast?_eq_some_iff.mp hlast
    by_cases hkey : last = key
    · subst hkey
      refine .inr (.inl ⟨hempty, before, content, rfl, ?_⟩)
      show (if last = last then (before ++ [(last, content)]).dropLast ++ _ else _) = _
      rw [if_pos rfl, List.dropLast_concat]
    · refine .inr (.inr ⟨hempty, ?_, if_neg hkey⟩)
      intro group hgroup
      cases hgroup
      exact hkey

theorem tagged_push (groups : List (K × List A)) (key : K) (elements : List A) :
    tagged (push groups key elements) = tagged groups ++ tag (key, elements) := by
  obtain ⟨rfl, hpush⟩ | ⟨-, before, content, rfl, hpush⟩ | ⟨-, -, hpush⟩ :=
    push_cases groups key elements
  · rw [hpush]
    exact (List.append_nil _).symm
  · rw [hpush, tagged_append, tagged_append, tagged_singleton, tagged_singleton,
      List.append_assoc]
    exact congrArg (tagged before ++ ·) List.map_append
  · rw [hpush, tagged_append, tagged_singleton]

theorem Alternating.push {groups : List (K × List A)} (h : Alternating groups) (key : K)
    (elements : List A) : Alternating (push groups key elements) := by
  obtain ⟨rfl, hpush⟩ | ⟨-, before, content, rfl, hpush⟩ | ⟨hne, hlast, hpush⟩ :=
    push_cases groups key elements
  · rw [hpush]
    exact h
  · rw [hpush]
    obtain ⟨hbefore, -, hjoin⟩ := List.isChain_append.mp h.alternates
    refine ⟨?_, hbefore.append (.singleton _) ?_⟩
    · intro group hgroup
      rcases List.mem_append.mp hgroup with hgroup | hgroup
      · exact h.nonempty group (List.mem_append_left _ hgroup)
      · rw [List.mem_singleton.mp hgroup]
        have hcontent := h.nonempty (key, content) (List.mem_append_right _ List.mem_cons_self)
        exact fun hnil => hcontent (List.append_eq_nil_iff.mp hnil).1
    · intro group hgroup next hnext
      cases hnext
      exact hjoin group hgroup (key, content) rfl
  · rw [hpush]
    refine ⟨?_, h.alternates.append (.singleton _) ?_⟩
    · intro group hgroup
      rcases List.mem_append.mp hgroup with hgroup | hgroup
      · exact h.nonempty group hgroup
      · rw [List.mem_singleton.mp hgroup]
        exact hne
    · intro group hgroup next hnext
      cases hnext
      exact hlast group hgroup

end Keys

end Grouping
