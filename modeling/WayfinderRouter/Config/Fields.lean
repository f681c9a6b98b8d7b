import WayfinderRouter.Config.Gateway
import WayfinderRouter.Config.RoutingRoundTrip
import WayfinderRouter.Fallible.Rules

/-!
# The fields of a gateway configuration

Every reader of a field ensures a condition on its result. On the value that is written for a
field it yields that field, with its numbers rounded.

## Main results

- `ensures_tableMap` — every entry of a map meets what its reader ensures
- `yields_tableMap` — a written map is read back entry by entry
-/

namespace WayfinderRouter.Config

open Toml

variable {α : Type} {value : Option Value} {where_ label message expected : String}

/-! ## Ensured -/

theorem ensures_okOr {o : Option α} : Ensures (okOr o where_ message) fun a => o = some a :=
  fun _ h => okOr_eq_ok.mp h

theorem ensures_require {condition : Bool} :
    Ensures (require condition where_ message) fun _ => condition = true :=
  fun _ h => require_eq_ok.mp h

theorem ensures_numberWhere {p : ℚ → Bool} :
    Ensures (numberWhere p value where_ message) fun x => p x = true :=
  fun _ h => of_numberWhere h

theorem ensures_optionalAllowedString {default : String} {allowed : List String}
    (hdefault : default ∈ allowed) :
    Ensures (optionalAllowedString value default allowed where_ label) fun s => s ∈ allowed := by
  cases value with
  | none => exact .ok hdefault
  | some value =>
    intro s h
    exact of_decide_eq_true (Option.filter_eq_some_iff.mp (okOr_eq_ok.mp h)).2

theorem ensures_positiveInteger :
    Ensures (positiveInteger value where_ label) fun o => ∀ n ∈ o, 0 < n := by
  cases value with
  | none => exact .ok fun n hn => nomatch hn
  | some value =>
    refine .map ?_
    intro n h n' hn'
    cases hn'
    exact of_decide_eq_true (Option.filter_eq_some_iff.mp (okOr_eq_ok.mp h)).2

theorem ensures_optionalPositiveInteger {default : ℕ} (hdefault : 0 < default) :
    Ensures (optionalPositiveInteger value default where_ label) fun n => 0 < n := by
  refine .map (ensures_positiveInteger.mono fun o ho => ?_)
  cases o with
  | none => exact hdefault
  | some n => exact ho n rfl

theorem ensures_optionalNumber {p : ℚ → Bool} {default : ℚ} (hdefault : p default = true) :
    Ensures (optionalNumber p expected value default where_ label) fun x => p x = true := by
  cases value with
  | none => exact .ok hdefault
  | some value => exact ensures_numberWhere

theorem ensures_optionalNonNegativeNumber {default : ℚ} (hdefault : 0 ≤ default) :
    Ensures (optionalNonNegativeNumber value default where_ label) fun x => 0 ≤ x :=
  (ensures_optionalNumber (decide_eq_true hdefault)).mono fun _ => of_decide_eq_true

theorem ensures_optionalPositiveNumber {default : ℚ} (hdefault : 0 < default) :
    Ensures (optionalPositiveNumber value default where_ label) fun x => 0 < x :=
  (ensures_optionalNumber (decide_eq_true hdefault)).mono fun _ => of_decide_eq_true

theorem ensures_optionalNonNegativeFiniteNumber :
    Ensures (optionalNonNegativeFiniteNumber value where_ label) fun o => ∀ x ∈ o, 0 ≤ x := by
  cases value with
  | none => exact .ok fun x hx => nomatch hx
  | some value =>
    refine .map (ensures_numberWhere.mono ?_)
    intro x hx x' hx'
    cases hx'
    exact of_decide_eq_true hx

theorem ensures_nonEmptyStr {value : Value} :
    Ensures (okOr (nonEmptyStr value) where_ message) fun s => s ≠ "" :=
  fun _ h => of_decide_eq_true (Option.filter_eq_some_iff.mp (okOr_eq_ok.mp h)).2

theorem ensures_requiredNonEmptyString :
    Ensures (requiredNonEmptyString value where_ label expected) fun s => s ≠ "" := by
  intro s h
  obtain ⟨value, -, hs⟩ := Option.bind_eq_some_iff.mp (okOr_eq_ok.mp h)
  exact of_decide_eq_true (Option.filter_eq_some_iff.mp hs).2

theorem ensures_optionalString {p : String → Bool} :
    Ensures (optionalString p value where_ message) fun o => ∀ s ∈ o, p s = true := by
  cases value with
  | none => exact .ok fun s hs => nomatch hs
  | some value =>
    refine .map ?_
    intro s h s' hs'
    cases hs'
    exact (Option.filter_eq_some_iff.mp (okOr_eq_ok.mp h)).2

theorem ensures_optionalNonEmptyString :
    Ensures (optionalNonEmptyString value where_ label) fun o => ∀ s ∈ o, s ≠ "" :=
  ensures_optionalString.mono fun _ ho s hs => of_decide_eq_true (ho s hs)

theorem ensures_optionalNonEmptyStringList :
    Ensures (optionalNonEmptyStringList value where_ label expected) fun l => ∀ s ∈ l, s ≠ "" := by
  cases value with
  | none => exact .ok fun s hs => nomatch hs
  | some value => exact .bind .trivial fun values _ => .mapM fun value _ => ensures_nonEmptyStr

theorem ensures_optionalTable {default : α} {name : String} {read : Table → Except ConfigError α}
    {p : α → Prop} (hdefault : p default) (hread : ∀ table, Ensures (read table) p) :
    Ensures (optionalTable value default where_ name read) p := by
  cases value with
  | none => exact .ok hdefault
  | some value => exact .bind .trivial fun table _ => hread table

theorem length_insertEntry_le (key : String) (a : α) (l : List (String × α)) :
    (IndexMap.insertEntry key a l).length ≤ l.length + 1 := by
  unfold IndexMap.insertEntry
  split <;> simp

theorem length_collect_le {ε β : Type} {f : String → β → Except ε α} {l : List (String × β)}
    {m : IndexMap α} (h : IndexMap.collect f l = .ok m) : m.entries.length ≤ l.length := by
  have hfold : ∀ (l : List (String × β)) (m₀ : IndexMap α),
      l.foldlM (fun m e => m.insert e.1 <$> f e.1 e.2) m₀ = .ok m →
        m.entries.length ≤ m₀.entries.length + l.length := by
    intro l
    induction l with
    | nil =>
      intro m₀ heq
      cases heq
      exact le_rfl
    | cons e l ih =>
      intro m₀ heq
      obtain ⟨m₁, hm₁, hrest⟩ := bind_eq_ok.mp heq
      obtain ⟨a, -, rfl⟩ := map_eq_ok.mp hm₁
      have hinsert : (m₀.insert e.1 a).entries.length ≤ m₀.entries.length + 1 :=
        length_insertEntry_le e.1 a m₀.entries
      have htail := ih _ hrest
      rw [List.length_cons]
      omega
  have hlength := hfold l .empty h
  exact hlength.trans_eq (Nat.zero_add _)

/-- Every entry of a map meets what its reader ensures. -/
theorem ensures_tableMap {name : String} {limit : Table → Except ConfigError Unit}
    {read : String → Value → Except ConfigError α} {p : String → α → Prop} {b : ℕ → Prop}
    (hzero : b 0) (hbound : ∀ m n, m ≤ n → b n → b m)
    (hlimit : ∀ table, Ensures (limit table) fun _ => b table.length)
    (hread : ∀ key value, Ensures (read key value) (p key)) :
    Ensures (tableMap value where_ name limit read) fun m =>
      b m.entries.length ∧ ∀ e ∈ m.entries, p e.1 e.2 := by
  refine ensures_optionalTable ⟨hzero, fun e he => nomatch he⟩ fun table => ?_
  refine .bind (hlimit table) fun _ hlength m hm => ⟨?_, fun e he => ?_⟩
  · exact hbound _ _ (length_collect_le hm) hlength
  · obtain ⟨value, hvalue⟩ := IndexMap.of_collect hm e he
    exact hread e.1 value e.2 hvalue

/-! ## Yielded -/

theorem yields_okOr {o : Option α} {a : α} (h : o = some a) :
    Yields (okOr o where_ message) a True := by
  rw [h]
  exact .ok a

theorem yields_require (condition : Bool) :
    Yields (require condition where_ message) () (condition = true) := by
  intro u
  rw [require_eq_ok]
  exact ⟨fun h => ⟨rfl, h⟩, And.right⟩

theorem yields_numberWhere {p : ℚ → Bool} {x : ℚ} (h : value = some (formatNumber x)) :
    Yields (numberWhere p value where_ message) (written x) (p (written x) = true) := by
  rw [h]
  exact fun _ => numberWhere_formatNumber

theorem yields_optionalBool {b default : Bool} (h : value = omitIf (b = default) (.boolean b)) :
    Yields (optionalBool value default where_ label) b True := by
  unfold omitIf at h
  split at h
  · next hb =>
    rw [h, ← of_decide_eq_true hb]
    exact .ok b
  · rw [h]
    exact .ok b

theorem yields_writtenBool {b default : Bool} (h : value = some (.boolean b)) :
    Yields (optionalBool value default where_ label) b True := by
  rw [h]
  exact .ok b

theorem yields_filter {p : String → Bool} {s : String} :
    Yields (okOr ((Value.string s).asStr.filter p) where_ message) s (p s = true) := by
  intro s'
  rw [okOr_eq_ok, Option.filter_eq_some_iff, Value.asStr, Option.some.injEq]
  constructor
  · rintro ⟨rfl, h⟩
    exact ⟨rfl, h⟩
  · rintro ⟨rfl, h⟩
    exact ⟨rfl, h⟩

theorem yields_optionalAllowedString {s default : String} {allowed : List String}
    (hdefault : default ∈ allowed) (h : value = omitIf (s = default) (.string s)) :
    Yields (optionalAllowedString value default allowed where_ label) s (s ∈ allowed) := by
  unfold omitIf at h
  split at h
  · next hs =>
    rw [h, of_decide_eq_true hs]
    exact (Yields.ok default).iff (iff_of_true True.intro hdefault)
  · rw [h]
    exact yields_filter.iff (by simp)

theorem unsigned_integer (n : ℕ) : unsigned (.integer n) = some n := by
  simp [unsigned, Value.asInteger]

theorem yields_optionalNonNegativeInteger {n default : ℕ}
    (h : value = omitIf (n = default) (.integer n)) :
    Yields (optionalNonNegativeInteger value default where_ label) n True := by
  unfold omitIf at h
  split at h
  · next hn =>
    rw [h, of_decide_eq_true hn]
    exact .ok default
  · rw [h]
    show Yields (okOr (unsigned (.integer n)) where_
      ("'" ++ label ++ "' must be a non-negative integer")) n True
    exact yields_okOr (unsigned_integer n)

theorem yields_positiveInteger {o : Option ℕ} (h : value = o.map fun n : ℕ => .integer n) :
    Yields (positiveInteger value where_ label) o (∀ n ∈ o, 0 < n) := by
  rw [h]
  cases o with
  | none => exact (Yields.ok none).iff (iff_of_true True.intro fun n hn => nomatch hn)
  | some n =>
    intro o'
    show some <$> okOr ((unsigned (.integer n)).filter _) where_ _ = _ ↔ _
    rw [map_eq_ok, unsigned_integer]
    simp only [okOr_eq_ok, Option.filter_eq_some_iff, Option.some.injEq, decide_eq_true_eq]
    constructor
    · rintro ⟨_, ⟨rfl, hpos⟩, rfl⟩
      refine ⟨rfl, fun n' hn' => ?_⟩
      cases hn'
      exact hpos
    · rintro ⟨rfl, hpos⟩
      exact ⟨n, ⟨rfl, hpos n rfl⟩, rfl⟩

theorem yields_optionalPositiveInteger {n default : ℕ} (hdefault : 0 < default)
    (h : value = omitIf (n = default) (.integer n)) :
    Yields (optionalPositiveInteger value default where_ label) n (0 < n) := by
  by_cases hn : n = default
  · subst hn
    have hnone : value = (none : Option ℕ).map fun n : ℕ => .integer n := by
      rw [h, omitIf, if_pos (decide_eq_true rfl)]
      rfl
    exact ((yields_positiveInteger hnone).map fun o => o.getD n).iff
      ⟨fun _ => hdefault, fun _ k hk => by cases hk⟩
  · have hsome : value = (some n).map fun n : ℕ => .integer n := by
      rw [h, omitIf, if_neg (by simpa using hn)]
      rfl
    refine ((yields_positiveInteger hsome).map fun o => o.getD default).iff
      ⟨fun hpos => hpos n rfl, fun hpos k hk => ?_⟩
    cases hk
    exact hpos

theorem yields_optionalNumber {p : ℚ → Bool} {x default : ℚ} (hdefault : p default = true)
    (hkept : written default = default) (h : value = omitIf (x = default) (formatNumber x)) :
    Yields (optionalNumber p expected value default where_ label) (written x)
      (p (written x) = true) := by
  unfold omitIf at h
  split at h
  · next hx =>
    rw [h, of_decide_eq_true hx, hkept]
    exact (Yields.ok default).iff (iff_of_true True.intro hdefault)
  · rw [h]
    exact yields_numberWhere rfl

theorem yields_optionalNonNegativeNumber {x default : ℚ} (hdefault : 0 ≤ default)
    (hkept : written default = default) (h : value = omitIf (x = default) (formatNumber x)) :
    Yields (optionalNonNegativeNumber value default where_ label) (written x) (0 ≤ written x) :=
  (yields_optionalNumber (decide_eq_true hdefault) hkept h).iff decide_eq_true_iff

theorem yields_optionalPositiveNumber {x default : ℚ} (hdefault : 0 < default)
    (hkept : written default = default) (h : value = omitIf (x = default) (formatNumber x)) :
    Yields (optionalPositiveNumber value default where_ label) (written x) (0 < written x) :=
  (yields_optionalNumber (decide_eq_true hdefault) hkept h).iff decide_eq_true_iff

theorem yields_optionalNonNegativeFiniteNumber {o : Option ℚ} (h : value = o.map formatNumber) :
    Yields (optionalNonNegativeFiniteNumber value where_ label) (o.map written)
      (∀ x ∈ o.map written, 0 ≤ x) := by
  rw [h]
  cases o with
  | none => exact (Yields.ok none).iff (iff_of_true True.intro fun x hx => nomatch hx)
  | some x =>
    refine (Yields.map (yields_numberWhere rfl) some).iff ⟨fun hpos y hy => ?_, fun hpos => ?_⟩
    · cases hy
      exact of_decide_eq_true hpos
    · exact decide_eq_true (hpos _ rfl)

theorem yields_requiredNonEmptyString {s : String} (h : value = some (.string s)) :
    Yields (requiredNonEmptyString value where_ label expected) s (s ≠ "") := by
  rw [h]
  show Yields (okOr ((Value.string s).asStr.filter fun s => s ≠ "") where_
    ("'" ++ label ++ "' must be " ++ expected)) s (s ≠ "")
  exact yields_filter.iff decide_eq_true_iff

theorem yields_optionalString {p : String → Bool} {o : Option String}
    (h : value = o.map .string) :
    Yields (optionalString p value where_ message) o (∀ s ∈ o, p s = true) := by
  rw [h]
  cases o with
  | none => exact (Yields.ok none).iff (iff_of_true True.intro fun s hs => nomatch hs)
  | some s =>
    refine (Yields.map yields_filter some).iff ⟨fun hp s' hs' => ?_, fun hp => hp s rfl⟩
    cases hs'
    exact hp

theorem yields_optionalNonEmptyString {o : Option String} (h : value = o.map .string) :
    Yields (optionalNonEmptyString value where_ label) o (∀ s ∈ o, s ≠ "") :=
  (yields_optionalString h).iff (by simp)

theorem yields_stringList {l : List String} (h : value = some (stringList l)) :
    Yields (optionalNonEmptyStringList value where_ label expected) l (∀ s ∈ l, s ≠ "") := by
  rw [h]
  have hread := Yields.mapM_map (g := Value.string) (r := id) (c := fun s => s ≠ "")
    (f := fun value => okOr (nonEmptyStr value) where_ ("'" ++ label ++ "' must be " ++ expected))
    (fun s => yields_filter.iff decide_eq_true_iff) l
  rw [List.map_id] at hread
  exact ((yields_okOr rfl).bind hread).iff (iff_of_eq (true_and _))

theorem yields_optionalNonEmptyStringList {l : List String}
    (h : value = omitIf (l = []) (stringList l)) :
    Yields (optionalNonEmptyStringList value where_ label expected) l (∀ s ∈ l, s ≠ "") := by
  unfold omitIf at h
  split at h
  · next hl =>
    rw [h, of_decide_eq_true hl]
    exact (Yields.ok []).iff (iff_of_true True.intro fun s hs => nomatch hs)
  · exact yields_stringList h

section Tables

variable {name : String} {read : Table → Except ConfigError α} {a default : α} {p : Prop}

theorem yields_table {table : Table} (h : value = some (.table table))
    (hread : Yields (read table) a p) :
    Yields (optionalTable value default where_ name read) a p := by
  rw [h]
  exact ((yields_okOr rfl).bind hread).iff (iff_of_eq (true_and _))

/-- A table that is left out at its default. -/
theorem yields_omittedTable {omitted : Bool} {table : Table}
    (h : value = omitIf omitted (.table table)) (homitted : omitted = true → a = default ∧ p)
    (hread : Yields (read table) a p) :
    Yields (optionalTable value default where_ name read) a p := by
  unfold omitIf at h
  split at h
  · next ho =>
    obtain ⟨rfl, hp⟩ := homitted ho
    rw [h]
    exact (Yields.ok a).iff (iff_of_true True.intro hp)
  · exact yields_table h hread

/-- A table that may be missing. -/
theorem yields_optionTable {β : Type} {read : Table → Except ConfigError (Option β)} {o : Option α}
    {table : α → Table} {r : α → β} {c : β → Prop} (h : value = o.map fun a => .table (table a))
    (hread : ∀ a ∈ o, Yields (read (table a)) (some (r a)) (c (r a))) :
    Yields (optionalTable value none where_ name read) (o.map r) (∀ b ∈ o.map r, c b) := by
  cases o with
  | none =>
    rw [h]
    exact (Yields.ok none).iff (iff_of_true True.intro fun b hb => nomatch hb)
  | some a =>
    refine (yields_table h (hread a rfl)).iff ⟨fun hc b hb => ?_, fun hc => hc _ rfl⟩
    cases hb
    exact hc

/-- A written map is read back entry by entry. -/
theorem yields_tableMap {β : Type} {limit : Table → Except ConfigError Unit}
    {read : String → Value → Except ConfigError β} (m : IndexMap α) {w : α → Value}
    {r : α → β} {c : String × α → Prop} {b : ℕ → Prop} (hzero : b 0)
    (h : value = omitIf m.entries.isEmpty (.table (m.entries.map fun e => (e.1, w e.2))))
    (hlimit : ∀ table, Yields (limit table) () (b table.length))
    (hread : ∀ e ∈ m.entries, Yields (read e.1 (w e.2)) (r e.2) (c e)) :
    Yields (tableMap value where_ name limit read) (m.map r)
      (b m.entries.length ∧ ∀ e ∈ m.entries, c e) := by
  refine yields_omittedTable h (fun hempty => ?_) ?_
  · have hnil : m.entries = [] := List.isEmpty_iff.mp hempty
    rw [hnil]
    exact ⟨IndexMap.ext (List.map_eq_nil_iff.mpr hnil), hzero, fun e he => nomatch he⟩
  · -- the entry of a key is the only one, so its condition is one on the key
    have hunique : ∀ e ∈ m.entries, c e ↔ ∀ e' ∈ m.entries, e'.1 = e.1 → c e' := by
      intro e he
      refine ⟨fun hc e' he' hkey => ?_, fun hall => hall e he rfl⟩
      have hget := IndexMap.get_eq_some_iff.mpr he
      rw [← hkey, IndexMap.get_eq_some_iff.mpr he'] at hget
      have heq : e' = e := Prod.ext hkey (Option.some.inj hget)
      exact heq ▸ hc
    have hcollect : Yields (IndexMap.collect read (m.entries.map fun e => (e.1, w e.2)))
        (m.map r) (∀ e ∈ m.entries, c e) := by
      intro m'
      rw [IndexMap.collect_eq_ok (p := fun key _ => ∀ e' ∈ m.entries, e'.1 = key → c e') m
        fun e he => (hread e he).iff (hunique e he)]
      exact and_congr_right' (forall₂_congr fun e he => (hunique e he).symm)
    refine ((hlimit _).bind hcollect).iff ?_
    rw [List.length_map]

end Tables

end WayfinderRouter.Config
