import WayfinderRouter.Config.Routing
import WayfinderRouter.Fallible

/-!
# Reading back a routing configuration

Reading a written configuration gives the configuration with its numbers rounded, as long as that
one is acceptable. So a configuration survives when its numbers are kept and it is not the ladder
that stands for the threshold zero.

## Main definitions

- `RoutingConfig.rounded` — the configuration with rounded numbers
- `RoutingConfig.Accepted` — what every configuration that was read meets
- `routingConfigFromTable_eq_ok` — what is read back
-/

namespace WayfinderRouter.Config

open Toml

/-- The number that is written for a number. -/
def written (x : ℚ) : ℚ := pythonRound x 6

theorem require_eq_ok {condition : Bool} {where_ message : String} {u : Unit} :
    require condition where_ message = .ok u ↔ condition = true := by
  rw [require, invalid, ite_eq_ok]
  exact ⟨fun h => h.2, fun h => ⟨rfl, h⟩⟩

theorem okOr_eq_ok {α : Type} {value : Option α} {where_ message : String} {a : α} :
    okOr value where_ message = .ok a ↔ value = some a := by
  cases value with
  | none => simp [okOr, invalid]
  | some b => rw [okOr, Except.ok.injEq, Option.some.injEq]

theorem numberWhere_formatNumber {p : ℚ → Bool} {x y : ℚ} {where_ message : String} :
    numberWhere p (some (formatNumber x)) where_ message = .ok y ↔
      y = written x ∧ p (written x) = true := by
  show okOr ((some (written x)).filter p) where_ message = _ ↔ _
  rw [okOr_eq_ok, Option.filter_eq_some_iff, Option.some.injEq]
  constructor
  · rintro ⟨rfl, hp⟩
    exact ⟨rfl, hp⟩
  · rintro ⟨rfl, hp⟩
    exact ⟨rfl, hp⟩

theorem of_numberWhere {p : ℚ → Bool} {value : Option Value} {where_ message : String} {y : ℚ}
    (h : numberWhere p value where_ message = .ok y) : p y = true :=
  (Option.filter_eq_some_iff.mp (okOr_eq_ok.mp h)).2

/-! ## Weights -/

theorem featureIndex_featureOrder (i : Fin 11) : featureIndex (featureOrder i) = some i := by
  revert i
  decide

theorem featureOrder_injective : Function.Injective featureOrder := by
  intro i j h
  have hindex := featureIndex_featureOrder i
  rw [h, featureIndex_featureOrder j] at hindex
  exact (Option.some.inj hindex).symm

theorem featureOrder_mem (i : Fin 11) : featureOrder i ∈ featureNames :=
  List.mem_ofFn.mpr ⟨i, rfl⟩

theorem featureNames_eq : featureNames = (List.finRange 11).map featureOrder :=
  List.ofFn_eq_map

theorem featureNames_nodup : featureNames.Nodup := by
  rw [featureNames_eq]
  exact (List.nodup_finRange 11).map featureOrder_injective

/-- The weights as they are written. -/
def Weights.rounded (weights : Weights) : Weights := ⟨fun i => written (weights.values i)⟩

theorem weightEntries_eq (weights : Weights) :
    weightEntries weights =
      (List.finRange 11).map fun i => (featureOrder i, formatNumber (weights.values i)) := by
  rw [weightEntries, featureNames_eq, List.map_map]
  refine List.map_congr_left fun i _ => ?_
  simp only [Function.comp, Weights.get, featureIndex_featureOrder, Option.map_some,
    Option.getD_some]

theorem parseWeight_eq_ok {where_ : String} {ws ws' : Weights} {i : Fin 11} {x : ℚ} :
    parseWeight where_ ws (featureOrder i, formatNumber x) = .ok ws' ↔
      ws' = ⟨Function.update ws.values i (written x)⟩ ∧ 0 ≤ written x := by
  simp only [parseWeight, bind_eq_ok, require_eq_ok, okOr_eq_ok, numberWhere_formatNumber,
    Weights.set, featureIndex_featureOrder, Option.map_some, featureOrder_mem, decide_true,
    decide_eq_true_eq]
  constructor
  · rintro ⟨-, -, y, ⟨rfl, hpos⟩, h⟩
    exact ⟨(Option.some.inj h).symm, hpos⟩
  · rintro ⟨rfl, hpos⟩
    exact ⟨(), trivial, _, ⟨rfl, hpos⟩, rfl⟩

/-- The fold writes the weights of the features that it has seen. -/
theorem foldlM_parseWeight_eq_ok {where_ : String} (weights : Weights) (l : List (Fin 11))
    (ws ws' : Weights) :
    (l.map fun i => (featureOrder i, formatNumber (weights.values i))).foldlM
        (parseWeight where_) ws = .ok ws' ↔
      ws' = ⟨fun i => if i ∈ l then written (weights.values i) else ws.values i⟩ ∧
        ∀ i ∈ l, 0 ≤ written (weights.values i) := by
  induction l generalizing ws with
  | nil =>
    simp only [List.map_nil, List.foldlM_nil, List.not_mem_nil, if_false, false_imp_iff,
      implies_true, and_true]
    exact ⟨fun h => (Except.ok.inj h).symm, fun h => h ▸ rfl⟩
  | cons i l ih =>
    have hstep : (⟨fun j => if j ∈ l then written (weights.values j) else
        Function.update ws.values i (written (weights.values i)) j⟩ : Weights) =
          ⟨fun j => if j ∈ i :: l then written (weights.values j) else ws.values j⟩ := by
      congr 1
      funext j
      by_cases hji : j = i
      · subst hji
        simp
      · simp [hji]
    rw [List.map_cons, List.foldlM_cons, bind_eq_ok, List.forall_mem_cons]
    constructor
    · rintro ⟨ws₁, hfirst, hrest⟩
      obtain ⟨rfl, hpos⟩ := parseWeight_eq_ok.mp hfirst
      obtain ⟨rfl, hall⟩ := (ih _).mp hrest
      exact ⟨hstep, hpos, hall⟩
    · rintro ⟨rfl, hpos, hall⟩
      exact ⟨_, parseWeight_eq_ok.mpr ⟨rfl, hpos⟩, (ih _).mpr ⟨hstep.symm, hall⟩⟩

theorem default_rounded : Weights.default.rounded = .default := by
  have hkept : ∀ i, written (Weights.default.values i) = Weights.default.values i := by
    decide +kernel
  exact congrArg Weights.mk (funext hkept)

/-- Written weights are read back rounded. -/
theorem parseWeights_eq_ok {where_ : String} {weights ws : Weights} :
    parseWeights (omitIf (weights = .default) (.table (weightEntries weights))) where_ = .ok ws ↔
      ws = weights.rounded ∧ ∀ i, 0 ≤ weights.rounded.values i := by
  by_cases hdefault : weights = .default
  · subst hdefault
    have hpos : ∀ i, 0 ≤ Weights.default.values i := by decide +kernel
    simp only [default_rounded, omitIf, decide_true, if_true, parseWeights]
    exact ⟨fun h => ⟨(Except.ok.inj h).symm, hpos⟩, fun h => h.1 ▸ rfl⟩
  · simp only [omitIf, hdefault, decide_false, Bool.false_eq_true, if_false]
    show (weightEntries weights).foldlM (parseWeight where_) .default = _ ↔ _
    rw [weightEntries_eq, foldlM_parseWeight_eq_ok]
    simp only [List.mem_finRange, if_true, forall_const]
    rfl

theorem of_parseWeight {where_ : String} {ws ws' : Weights} {entry : String × Value}
    (hws : ∀ i, 0 ≤ ws.values i) (h : parseWeight where_ ws entry = .ok ws') :
    ∀ i, 0 ≤ ws'.values i := by
  simp only [parseWeight, bind_eq_ok, okOr_eq_ok, Weights.set, Option.map_eq_some_iff] at h
  obtain ⟨-, -, weight, hweight, j, -, rfl⟩ := h
  have hpos : 0 ≤ weight := of_decide_eq_true (of_numberWhere hweight)
  intro i
  by_cases hij : i = j
  · subst hij
    simpa using hpos
  · simpa [hij] using hws i

/-- Weights that were read are not negative. -/
theorem of_parseWeights {value : Option Value} {where_ : String} {ws : Weights}
    (h : parseWeights value where_ = .ok ws) : ∀ i, 0 ≤ ws.values i := by
  have hpos : ∀ i, 0 ≤ Weights.default.values i := by decide +kernel
  have hfold : ∀ (l : Table) (ws₀ : Weights), (∀ i, 0 ≤ ws₀.values i) →
      l.foldlM (parseWeight where_) ws₀ = .ok ws → ∀ i, 0 ≤ ws.values i := by
    intro l
    induction l with
    | nil =>
      intro ws₀ hws₀ heq
      cases heq
      exact hws₀
    | cons entry l ih =>
      intro ws₀ hws₀ heq
      obtain ⟨ws₁, hfirst, hrest⟩ := bind_eq_ok.mp heq
      exact ih ws₁ (of_parseWeight hws₀ hfirst) hrest
  cases value with
  | none =>
    cases h
    exact hpos
  | some value =>
    obtain ⟨table, -, h⟩ := bind_eq_ok.mp h
    exact hfold table .default hpos h

/-! ## Lexicons -/

/-- Terms that can be read back: those of the default, or a bounded set without the empty one. -/
def TermsReadable (terms default : Finset String) : Prop :=
  terms = default ∨ "" ∉ terms ∧ terms.card ≤ maxLexiconTerms

/-- Both sets of terms can be read back. -/
structure Lexicon.Readable (lexicon : Lexicon) : Prop where
  reasoning : TermsReadable lexicon.reasoning Lexicon.default.reasoning
  constraints : TermsReadable lexicon.constraints Lexicon.default.constraints

theorem toAsciiLowercase_eq_empty {text : String} : toAsciiLowercase text = "" ↔ text = "" := by
  rw [toAsciiLowercase, ← String.toList_inj, ← String.toList_inj, String.toList_ofList]
  simp

theorem parseTerm_string {where_ label term : String} (hnormal : normalize term = term)
    (hterm : term ≠ "") : parseTerm where_ label (.string term) = .ok term := by
  have htrim : trim term ≠ "" := by
    intro htrim
    refine hterm ?_
    rw [← hnormal, normalize, htrim]
    rfl
  have hfilter : (some (trim term)).filter (fun term => decide (term ≠ "")) =
      some (trim term) := by
    rw [Option.filter_eq_some_iff]
    exact ⟨rfl, decide_eq_true htrim⟩
  show toAsciiLowercase <$> okOr ((some (trim term)).filter _) where_ _ = _
  rw [hfilter]
  exact congrArg Except.ok hnormal

/-- Written terms are read back. -/
theorem parseTerms_eq {where_ label : String} {terms default : Finset String}
    (hreadable : TermsReadable terms default) (hnormal : ∀ term ∈ terms, normalize term = term) :
    parseTerms (omitIf (terms = default) (stringList (sortedTerms terms))) where_ label default =
      .ok (sortedTerms terms) := by
  by_cases hdefault : terms = default
  · simp only [omitIf, hdefault, decide_true, if_true, parseTerms]
  · obtain ⟨hempty, hcard⟩ := hreadable.resolve_left hdefault
    simp only [omitIf, hdefault, decide_false, Bool.false_eq_true, if_false, parseTerms,
      parseTermList, stringList, Value.asArray]
    rw [bind_eq_ok]
    refine ⟨_, okOr_eq_ok.mpr rfl, bind_eq_ok.mpr ⟨(), require_eq_ok.mpr ?_, ?_⟩⟩
    · rw [List.length_map, sortedTerms, Finset.length_sort]
      exact decide_eq_true hcard
    · rw [mapM_eq_ok, List.forall₂_map_left_iff, List.forall₂_same]
      intro term hterm
      have hmem : term ∈ terms := Finset.mem_sort _ |>.mp hterm
      exact parseTerm_string (hnormal term hmem) fun h => hempty (h ▸ hmem)

theorem of_parseTerm {where_ label term : String} {value : Value}
    (h : parseTerm where_ label value = .ok term) : normalize term ≠ "" := by
  obtain ⟨trimmed, htrimmed, rfl⟩ := map_eq_ok.mp h
  obtain ⟨hvalue, hne⟩ := Option.filter_eq_some_iff.mp (okOr_eq_ok.mp htrimmed)
  obtain ⟨raw, -, rfl⟩ := Option.map_eq_some_iff.mp hvalue
  show normalize (normalize raw) ≠ ""
  rw [normalize_normalize]
  exact toAsciiLowercase_eq_empty.not.mpr (of_decide_eq_true hne)

theorem sortedTerms_normal {terms : Finset String}
    (hnormal : ∀ term ∈ terms, normalize term = term) :
    ((sortedTerms terms).map normalize).toFinset = terms := by
  have hmap : (sortedTerms terms).map normalize = sortedTerms terms := by
    rw [List.map_congr_left (g := id), List.map_id]
    exact fun term hterm => hnormal term ((Finset.mem_sort _).mp hterm)
  rw [hmap, sortedTerms, Finset.sort_toFinset]

/-- Terms that were read can be read back. -/
theorem of_parseTerms {value : Option Value} {where_ label : String} {default : Finset String}
    {terms : List String} (hnormal : ∀ term ∈ default, normalize term = term)
    (h : parseTerms value where_ label default = .ok terms) :
    TermsReadable (terms.map normalize).toFinset default := by
  cases value with
  | none =>
    cases h
    exact .inl (sortedTerms_normal hnormal)
  | some value =>
    simp only [parseTerms, parseTermList, bind_eq_ok, require_eq_ok] at h
    obtain ⟨values, -, -, hlength, hterms⟩ := h
    refine .inr ⟨?_, ?_⟩
    · simp only [List.mem_toFinset, List.mem_map, not_exists, not_and]
      exact forall_of_mapM hterms fun _ _ => of_parseTerm
    · calc (terms.map normalize).toFinset.card ≤ (terms.map normalize).length :=
            List.toFinset_card_le _
        _ = values.length := by rw [List.length_map, length_of_mapM hterms]
        _ ≤ maxLexiconTerms := of_decide_eq_true hlength

theorem Lexicon.new_sortedTerms (lexicon : Lexicon) :
    Lexicon.new (sortedTerms lexicon.reasoning) (sortedTerms lexicon.constraints) = lexicon := by
  have hreasoning := sortedTerms_normal fun term h =>
    lexicon.normal term (Finset.mem_union_left _ h)
  have hconstraints := sortedTerms_normal fun term h =>
    lexicon.normal term (Finset.mem_union_right _ h)
  cases lexicon
  simp only [Lexicon.new, Lexicon.mk.injEq]
  exact ⟨hreasoning, hconstraints⟩

theorem lexiconFields_nodup (lexicon : Lexicon) :
    ((lexiconFields lexicon).map Prod.fst).Nodup := by
  simp [lexiconFields]

/-- A written lexicon is read back. -/
theorem parseLexicon_eq {where_ : String} {lexicon : Lexicon} (hreadable : lexicon.Readable) :
    parseLexicon (.table (lexiconFields lexicon).entries) where_ = .ok lexicon := by
  have hunknown : parseLexicon.unknown (lexiconFields lexicon).entries = [] := by
    refine List.filter_eq_nil_iff.mpr fun key hkey => ?_
    have hmem := (keys_entries_sublist _).subset hkey
    simp only [lexiconFields, List.map_cons, List.map_nil, List.mem_cons, List.not_mem_nil,
      or_false] at hmem
    rcases hmem with rfl | rfl <;> decide
  have hlookup := lookup_entries (lexiconFields_nodup lexicon)
  simp only [parseLexicon, bind_eq_ok, require_eq_ok, okOr_eq_ok]
  refine ⟨_, rfl, (), decide_eq_true hunknown, sortedTerms lexicon.reasoning, ?_,
    sortedTerms lexicon.constraints, ?_, ?_⟩
  · rw [hlookup]
    exact parseTerms_eq hreadable.reasoning fun term h =>
      lexicon.normal term (Finset.mem_union_left _ h)
  · rw [hlookup]
    exact parseTerms_eq hreadable.constraints fun term h =>
      lexicon.normal term (Finset.mem_union_right _ h)
  · exact congrArg Except.ok lexicon.new_sortedTerms

theorem parseOptionalLexicon_eq {where_ : String} {lexicon : Lexicon}
    (hreadable : lexicon.Readable) :
    parseOptionalLexicon (omitIf (lexicon = .default) (.table (lexiconFields lexicon).entries))
      where_ = .ok lexicon := by
  by_cases hdefault : lexicon = .default
  · simp only [omitIf, hdefault, decide_true, if_true, parseOptionalLexicon]
  · simp only [omitIf, hdefault, decide_false, Bool.false_eq_true, if_false,
      parseOptionalLexicon]
    exact parseLexicon_eq hreadable

theorem of_parseLexicon {value : Value} {where_ : String} {lexicon : Lexicon}
    (h : parseLexicon value where_ = .ok lexicon) : lexicon.Readable := by
  simp only [parseLexicon, bind_eq_ok] at h
  obtain ⟨table, -, -, -, reasoning, hreasoning, constraints, hconstraints, h⟩ := h
  cases h
  constructor
  · exact of_parseTerms
      (fun term hterm => Lexicon.default.normal term (Finset.mem_union_left _ hterm)) hreasoning
  · exact of_parseTerms
      (fun term hterm => Lexicon.default.normal term (Finset.mem_union_right _ hterm)) hconstraints

theorem of_parseOptionalLexicon {value : Option Value} {where_ : String} {lexicon : Lexicon}
    (h : parseOptionalLexicon value where_ = .ok lexicon) : lexicon.Readable := by
  cases value with
  | some value => exact of_parseLexicon h
  | none =>
    cases h
    exact ⟨.inl rfl, .inl rfl⟩

/-! ## Tiers -/

/-- The tier as it is written. -/
def Tier.rounded (tier : Tier) : Tier :=
  { tier with minScore := written tier.minScore, cost := tier.cost.map written }

/-- A tier that can be read. -/
structure Tier.Acceptable (tier : Tier) : Prop where
  score : 0 ≤ tier.minScore ∧ tier.minScore ≤ 1
  named : tier.model ≠ ""
  cost : ∀ cost ∈ tier.cost, 0 ≤ cost

/-- Tiers that can be read as they stand. -/
structure Ladder (tiers : List Tier) : Prop where
  acceptable : ∀ tier ∈ tiers, tier.Acceptable
  first : tiers.head?.map Tier.minScore = some 0
  ascending : ascending tiers = true

theorem nonEmptyStr_string {text : String} {value : String} :
    nonEmptyStr (.string text) = some value ↔ value = text ∧ text ≠ "" := by
  show (some text).filter (fun s => decide (s ≠ "")) = some value ↔ _
  rw [Option.filter_eq_some_iff, Option.some.injEq, decide_eq_true_eq]
  constructor
  · rintro ⟨rfl, h⟩
    exact ⟨rfl, h⟩
  · rintro ⟨rfl, h⟩
    exact ⟨rfl, h⟩

theorem parseCost_eq_ok {where_ : String} {cost cost' : Option ℚ} :
    parseCost (cost.map formatNumber) where_ = .ok cost' ↔
      cost' = cost.map written ∧ ∀ c ∈ cost.map written, 0 ≤ c := by
  cases cost with
  | none =>
    simp only [parseCost, Option.map_none, Except.ok.injEq, Option.mem_def, reduceCtorEq,
      false_imp_iff, implies_true, and_true]
    exact eq_comm
  | some c =>
    simp only [parseCost, Option.map_some, map_eq_ok, numberWhere_formatNumber,
      decide_eq_true_eq, Option.mem_def, Option.some.injEq, forall_eq']
    constructor
    · rintro ⟨y, ⟨rfl, hpos⟩, rfl⟩
      exact ⟨rfl, hpos⟩
    · rintro ⟨rfl, hpos⟩
      exact ⟨_, ⟨rfl, hpos⟩, rfl⟩

theorem of_parseCost {value : Option Value} {where_ : String} {cost : Option ℚ}
    (h : parseCost value where_ = .ok cost) : ∀ c ∈ cost, 0 ≤ c := by
  cases value with
  | none =>
    cases h
    exact fun c hc => nomatch hc
  | some value =>
    obtain ⟨c, hc, rfl⟩ := map_eq_ok.mp h
    intro c' hc'
    cases hc'
    exact of_decide_eq_true (of_numberWhere hc)

/-- A written tier is read back rounded. -/
theorem parseTier_eq_ok {where_ : String} {tier tier' : Tier} :
    parseTier where_ (.table (tierFields tier).entries) = .ok tier' ↔
      tier' = tier.rounded ∧ tier.rounded.Acceptable := by
  have hlookup := lookup_entries (l := tierFields tier) (by simp [tierFields])
  have hscore : (tierFields tier).entries.lookup "min_score" =
      some (formatNumber tier.minScore) := hlookup _
  have hmodel : (tierFields tier).entries.lookup "model" = some (.string tier.model) := hlookup _
  have hcost : (tierFields tier).entries.lookup "cost" = tier.cost.map formatNumber := hlookup _
  simp only [parseTier, bind_eq_ok, okOr_eq_ok, Value.asTable, Option.some.injEq]
  constructor
  · rintro ⟨-, rfl, score, hscore', model, hmodel', cost, hcost', h⟩
    rw [hscore, numberWhere_formatNumber] at hscore'
    rw [hmodel, Option.bind_some, nonEmptyStr_string] at hmodel'
    rw [hcost, parseCost_eq_ok] at hcost'
    cases h
    obtain ⟨rfl, hscore'⟩ := hscore'
    obtain ⟨rfl, hmodel'⟩ := hmodel'
    obtain ⟨rfl, hcost'⟩ := hcost'
    exact ⟨rfl, of_decide_eq_true hscore', hmodel', hcost'⟩
  · rintro ⟨rfl, hok⟩
    refine ⟨_, rfl, written tier.minScore, ?_, tier.model, ?_, tier.cost.map written, ?_, rfl⟩
    · rw [hscore, numberWhere_formatNumber]
      exact ⟨rfl, decide_eq_true hok.score⟩
    · rw [hmodel, Option.bind_some, nonEmptyStr_string]
      exact ⟨rfl, hok.named⟩
    · rw [hcost, parseCost_eq_ok]
      exact ⟨rfl, hok.cost⟩

theorem of_parseTier {where_ : String} {value : Value} {tier : Tier}
    (h : parseTier where_ value = .ok tier) : tier.Acceptable := by
  simp only [parseTier, bind_eq_ok, okOr_eq_ok] at h
  obtain ⟨table, -, score, hscore, model, hmodel, cost, hcost, h⟩ := h
  cases h
  obtain ⟨value, -, hmodel⟩ := Option.bind_eq_some_iff.mp hmodel
  exact ⟨of_decide_eq_true (of_numberWhere hscore),
    of_decide_eq_true (Option.filter_eq_some_iff.mp hmodel).2, of_parseCost hcost⟩

/-- The tiers, as they are written. -/
def tiersValue (tiers : List Tier) : Value :=
  .array (tiers.map fun tier => .table (tierFields tier).entries)

/-- Written tiers are read back rounded. -/
theorem parseTiers_eq_ok {where_ : String} {tiers tiers' : List Tier} :
    parseTiers (tiersValue tiers) where_ .strictInput = .ok tiers' ↔
      tiers' = tiers.map Tier.rounded ∧ Ladder (tiers.map Tier.rounded) := by
  simp only [parseTiers, tiersValue, Value.asArray, bind_eq_ok, okOr_eq_ok, require_eq_ok,
    map_eq_ok, TierOrderPolicy.arrange, Option.filter_eq_some_iff, Option.some.injEq]
  constructor
  · rintro ⟨_, ⟨rfl, -⟩, _, ⟨read, htiers, rfl⟩, -, hfirst, -, hascending, h⟩
    obtain ⟨rfl, hok⟩ := (mapM_map_eq_ok fun _ _ => parseTier_eq_ok).mp htiers
    cases h
    exact ⟨rfl, hok, of_decide_eq_true hfirst, hascending⟩
  · rintro ⟨rfl, hladder⟩
    refine ⟨_, ⟨rfl, ?_⟩, _, ⟨tiers.map Tier.rounded, ?_, rfl⟩, (),
      decide_eq_true hladder.first, (), hladder.ascending, rfl⟩
    · have hfirst := hladder.first
      cases tiers with
      | nil => cases hfirst
      | cons tier tiers => rfl
    · exact (mapM_map_eq_ok fun _ _ => parseTier_eq_ok).mpr ⟨rfl, hladder.acceptable⟩

theorem of_parseTiers {value : Value} {where_ : String} {order : TierOrderPolicy}
    {tiers : List Tier} (h : parseTiers value where_ order = .ok tiers) : Ladder tiers := by
  simp only [parseTiers, bind_eq_ok, require_eq_ok, map_eq_ok] at h
  obtain ⟨values, -, _, ⟨read, hread, rfl⟩, -, hfirst, -, hascending, h⟩ := h
  cases h
  refine ⟨?_, of_decide_eq_true hfirst, hascending⟩
  have hall := forall_of_mapM hread fun _ _ => of_parseTier
  cases order with
  | strictInput => exact hall
  | compatibilitySort => exact fun tier htier => hall tier (List.mem_mergeSort.mp htier)

/-! ## Classifiers -/

/-- The classifier as it is written. -/
def ClassifierModel.rounded (classifier : ClassifierModel) : ClassifierModel where
  models := classifier.models
  weights i := (classifier.weights i).map written
  intercepts := classifier.intercepts.map written
  two := classifier.two
  named := classifier.named
  unique := classifier.unique
  intercepts_length := by rw [List.length_map, classifier.intercepts_length]
  weights_length i := by rw [List.length_map, classifier.weights_length]

theorem parseNumberVector_numberList {where_ label : String} (values : List ℚ) :
    parseNumberVector (some (numberList values)) where_ label values.length =
      .ok (values.map written) := by
  have hfilter : (some (values.map formatNumber)).filter
      (fun read => decide (read.length = values.length)) = some (values.map formatNumber) := by
    rw [Option.filter_eq_some_iff, List.length_map]
    exact ⟨rfl, decide_eq_true rfl⟩
  simp only [parseNumberVector, numberList, Option.bind_some, Value.asArray, hfilter, bind_eq_ok,
    okOr_eq_ok]
  refine ⟨_, rfl, ?_⟩
  rw [mapM_map_eq_ok (p := fun _ => True) fun x y => ?_]
  · exact ⟨rfl, fun _ _ => trivial⟩
  · rw [numberWhere_formatNumber]
    simp only [and_true]

theorem asStrings_stringList (values : List String) :
    asStrings (stringList values) = some values := by
  show (values.map Value.string).mapM Value.asStr = some values
  induction values with
  | nil => rfl
  | cons value values ih =>
    rw [List.map_cons, List.mapM_cons, ih]
    rfl

/-- The value of a key among entries with different keys. -/
theorem lookup_map {α β : Type} {key : α → String} (hkey : Function.Injective key) (g : α → β)
    {l : List α} {a : α} (ha : a ∈ l) :
    (l.map fun b => (key b, g b)).lookup (key a) = some (g a) := by
  induction l with
  | nil => cases ha
  | cons b l ih =>
    rw [List.map_cons, List.lookup_cons]
    by_cases hab : a = b
    · subst hab
      rw [beq_self_eq_true]
    · rw [beq_false_of_ne (hkey.ne hab)]
      exact ih (List.mem_of_ne_of_mem hab ha)

/-- The fields of a classifier, with its weights. -/
def classifierTableFields (classifier : ClassifierModel) : Fields :=
  classifierFields classifier ++
    [("weights", some (.table (classifierWeightFields classifier).entries))]

theorem classifierWeightFields_eq (classifier : ClassifierModel) :
    (classifierWeightFields classifier).entries =
      (List.finRange 11).map fun i => (featureOrder i, numberList (classifier.weights i)) := by
  rw [classifierWeightFields, List.ofFn_eq_map]
  exact entries_map_some _ featureOrder fun i => numberList (classifier.weights i)

theorem parseFeatureVector_eq (classifier : ClassifierModel) (where_ : String) (i : Fin 11) :
    parseFeatureVector (classifierWeightFields classifier).entries where_
        classifier.models.length (featureOrder i) =
      .ok (featureOrder i, (classifier.weights i).map written) := by
  have hlookup := lookup_map featureOrder_injective (fun i => numberList (classifier.weights i))
    (List.mem_finRange i)
  rw [parseFeatureVector, classifierWeightFields_eq, hlookup]
  show Prod.mk _ <$> parseNumberVector _ _ _ _ = _
  rw [← classifier.weights_length i, parseNumberVector_numberList]
  rfl

theorem ClassifierModel.new_eq (classifier : ClassifierModel) :
    ClassifierModel.new classifier.models
        ((List.finRange 11).map fun i => (featureOrder i, classifier.weights i))
        classifier.intercepts = .ok classifier := by
  have hproblem : ((List.finRange 11).map fun i => (featureOrder i, classifier.weights i)).findSome?
      (vectorProblem classifier.models.length) = none := by
    rw [List.findSome?_eq_none_iff]
    intro entry hentry
    obtain ⟨i, -, rfl⟩ := List.mem_map.mp hentry
    simp [vectorProblem, featureIndex_featureOrder, classifier.weights_length]
  have hlookup := fun i => lookup_map featureOrder_injective classifier.weights
    (List.mem_finRange i)
  have htwo := classifier.two
  unfold ClassifierModel.new
  rw [dif_neg (by omega), dif_neg classifier.named, dif_pos classifier.unique,
    dif_pos classifier.intercepts_length]
  split
  · next message h =>
    rw [hproblem] at h
    cases h
  · refine congrArg Except.ok (ClassifierModel.ext rfl (funext fun i => ?_) rfl)
    simp only [hlookup i, Option.getD_some]

/-- A written classifier is read back rounded. -/
theorem parseClassifier_eq (classifier : ClassifierModel) (where_ : String) :
    parseClassifier (.table (classifierTableFields classifier).entries) where_ =
      .ok classifier.rounded := by
  have hlookup := lookup_entries (l := classifierTableFields classifier)
    (by simp [classifierTableFields, classifierFields])
  have hmodels : (((classifierTableFields classifier).entries.lookup "models").bind
      asStrings).filter (fun models => 2 ≤ models.length ∧ "" ∉ models ∧ models.Nodup) =
        some classifier.models := by
    rw [hlookup, Option.filter_eq_some_iff]
    exact ⟨asStrings_stringList classifier.models,
      decide_eq_true ⟨classifier.two, classifier.named, classifier.unique⟩⟩
  have hintercepts : parseNumberVector ((classifierTableFields classifier).entries.lookup
      "intercepts") where_ "routing.classifier.intercepts" classifier.models.length =
        .ok (classifier.intercepts.map written) := by
    rw [hlookup, ← classifier.intercepts_length]
    exact parseNumberVector_numberList classifier.intercepts
  have hweights : ((classifierTableFields classifier).entries.lookup "weights").bind
      Value.asTable = some (classifierWeightFields classifier).entries := by
    rw [hlookup]
    rfl
  simp only [parseClassifier, bind_eq_ok, okOr_eq_ok]
  refine ⟨_, rfl, _, hmodels, _, hintercepts, _, hweights, (), ?_,
    (List.finRange 11).map fun i => (featureOrder i, (classifier.weights i).map written), ?_, ?_⟩
  · rw [forM_eq_ok, classifierWeightFields_eq]
    intro name hname
    simp only [Table.keys, List.map_map, List.mem_map, Function.comp] at hname
    obtain ⟨i, -, rfl⟩ := hname
    exact require_eq_ok.mpr (decide_eq_true (featureOrder_mem i))
  · rw [featureNames_eq, mapM_map_eq_ok (p := fun _ => True) fun i y => ?_]
    · exact ⟨rfl, fun _ _ => trivial⟩
    · rw [parseFeatureVector_eq, Except.ok.injEq, and_true]
      exact eq_comm
  · show (ClassifierModel.new classifier.rounded.models _
      classifier.rounded.intercepts).mapError _ = _
    have hnew := classifier.rounded.new_eq
    rw [show (fun i => (featureOrder i, (classifier.weights i).map written)) =
      fun i => (featureOrder i, classifier.rounded.weights i) from rfl, hnew]
    rfl

/-! ## Configurations -/

/-- The tiers and the classifier of a configuration that was read. -/
inductive Mode : List Tier → Option ClassifierModel → Prop where
  | classifier (classifier : ClassifierModel) :
    Mode (binaryTiers defaultThreshold) (some classifier)
  | tiers {tiers : List Tier} (ladder : Ladder tiers) : Mode tiers none
  | threshold {threshold : ℚ} (range : 0 ≤ threshold ∧ threshold ≤ 1) :
    Mode (binaryTiers threshold) none

namespace RoutingConfig

/-- What every configuration that was read meets. -/
structure Accepted (config : RoutingConfig) : Prop where
  weights : ∀ i, 0 ≤ config.weights.values i
  lexicon : config.lexicon.Readable
  mode : Mode config.tiers config.classifier

/-- The configuration as it is written. -/
def rounded (config : RoutingConfig) : RoutingConfig where
  weights := config.weights.rounded
  tiers := config.tiers.map Tier.rounded
  classifier := config.classifier.map ClassifierModel.rounded
  lexicon := config.lexicon

/-- The ladder that stands for the threshold zero. -/
def ThresholdZero (config : RoutingConfig) : Prop :=
  config.classifier = none ∧ config.tiers = binaryTiers 0

/-- The numbers of a configuration. -/
def numbers (config : RoutingConfig) : List ℚ :=
  List.ofFn config.weights.values ++
    config.tiers.flatMap (fun tier => tier.minScore :: tier.cost.toList) ++
    config.classifier.elim [] fun classifier =>
      classifier.intercepts ++ (List.ofFn classifier.weights).flatten

end RoutingConfig

theorem of_parseThreshold {value : Option Value} {where_ : String} {default threshold : ℚ}
    (hdefault : 0 ≤ default ∧ default ≤ 1)
    (h : parseThreshold value where_ default = .ok threshold) :
    0 ≤ threshold ∧ threshold ≤ 1 := by
  cases value with
  | none =>
    cases h
    exact hdefault
  | some value => exact of_decide_eq_true (of_numberWhere h)

theorem of_parseEnvironmentThreshold {raw : Option String} {where_ : String}
    {default threshold : ℚ} (hdefault : 0 ≤ default ∧ default ≤ 1)
    (h : parseEnvironmentThreshold raw where_ default = .ok threshold) :
    0 ≤ threshold ∧ threshold ≤ 1 := by
  unfold parseEnvironmentThreshold at h
  split at h
  · cases h
    exact hdefault
  · split at h
    · cases h
      exact hdefault
    · split at h
      · cases h
      · split at h
        · split at h
          · next hrange =>
            cases h
            exact hrange
          · cases h
        · cases h

theorem of_parseMode {routing : Table} {where_ : String} {env : Option String}
    {order : TierOrderPolicy} {mode : List Tier × Option ClassifierModel}
    (h : parseMode routing where_ env order = .ok mode) : Mode mode.1 mode.2 := by
  have hdefault : 0 ≤ defaultThreshold ∧ defaultThreshold ≤ 1 := by decide +kernel
  unfold parseMode at h
  split at h
  · obtain ⟨classifier, -, h⟩ := bind_eq_ok.mp h
    cases h
    exact .classifier classifier
  · obtain ⟨tiers, htiers, h⟩ := bind_eq_ok.mp h
    cases h
    exact .tiers (of_parseTiers htiers)
  · obtain ⟨configured, hconfigured, h⟩ := bind_eq_ok.mp h
    obtain ⟨threshold, hthreshold, h⟩ := bind_eq_ok.mp h
    cases h
    exact .threshold
      (of_parseEnvironmentThreshold (of_parseThreshold hdefault hconfigured) hthreshold)

theorem of_routingConfigFromTable {routing : Table} {where_ : String} {env : Option String}
    {order : TierOrderPolicy} {config : RoutingConfig}
    (h : routingConfigFromTable routing where_ env order = .ok config) : config.Accepted := by
  simp only [routingConfigFromTable, bind_eq_ok] at h
  obtain ⟨weights, hweights, lexicon, hlexicon, mode, hmode, h⟩ := h
  cases h
  exact ⟨of_parseWeights hweights, of_parseOptionalLexicon hlexicon, of_parseMode hmode⟩

/-- Every configuration that was read is acceptable. -/
theorem of_routingConfigFromToml {lib : Library} {text where_ : String} {env : Option String}
    {order : TierOrderPolicy} {config : RoutingConfig}
    (h : routingConfigFromToml lib text where_ env order = .ok config) : config.Accepted := by
  unfold routingConfigFromToml at h
  split at h
  · cases h
  · obtain ⟨root, -, h⟩ := bind_eq_ok.mp h
    obtain ⟨routing, -, h⟩ := bind_eq_ok.mp h
    exact of_routingConfigFromTable h

/-- The fields that have their own sections. -/
def routingSectionFields (config : RoutingConfig) : Fields :=
  [("lexicon", omitIf (config.lexicon = .default) (.table (lexiconFields config.lexicon).entries)),
    ("classifier", config.classifier.map fun c => .table (classifierTableFields c).entries),
    ("tiers", omitIf config.classifier.isSome (tiersValue config.tiers))]

/-- The fields of the `routing` table. -/
def routingFields (config : RoutingConfig) : Fields :=
  ("weights", omitIf (config.weights = .default) (.table (weightEntries config.weights))) ::
    routingSectionFields config

theorem routingFields_nodup (config : RoutingConfig) :
    ((routingFields config).map Prod.fst).Nodup := by
  simp [routingFields, routingSectionFields]

theorem binaryTiers_rounded (threshold : ℚ) :
    (binaryTiers threshold).map Tier.rounded = binaryTiers (written threshold) := by
  have hzero : written 0 = 0 := by decide +kernel
  simp [binaryTiers, Tier.rounded, hzero]

theorem written_defaultThreshold : written defaultThreshold = defaultThreshold := by
  decide +kernel

/-- What is read back of the mode. -/
theorem parseMode_eq_ok {config : RoutingConfig} (hmode : Mode config.tiers config.classifier)
    {where_ : String} {env : Option String} {mode : List Tier × Option ClassifierModel} :
    parseMode (routingFields config).entries where_ env .strictInput = .ok mode ↔
      mode = (config.rounded.tiers, config.rounded.classifier) ∧
        (config.classifier = none → Ladder config.rounded.tiers) := by
  have hlookup := lookup_entries (routingFields_nodup config)
  have hclassifier : (routingFields config).entries.lookup "classifier" =
      config.classifier.map fun c => .table (classifierTableFields c).entries := hlookup _
  have htiers : (routingFields config).entries.lookup "tiers" =
      omitIf config.classifier.isSome (tiersValue config.tiers) := hlookup _
  unfold parseMode
  rw [hclassifier, htiers]
  cases hc : config.classifier with
  | some classifier =>
    have hbinary : config.tiers.map Tier.rounded = binaryTiers defaultThreshold := by
      rw [hc] at hmode
      generalize config.tiers = tiers at hmode
      cases hmode
      rw [binaryTiers_rounded, written_defaultThreshold]
    simp only [Option.map_some, bind_eq_ok, parseClassifier_eq, RoutingConfig.rounded, hc,
      hbinary, reduceCtorEq, false_imp_iff, and_true, Except.ok.injEq, exists_eq_left']
    exact eq_comm
  | none =>
    simp only [Option.map_none, omitIf, Option.isSome_none, Bool.false_eq_true, if_false,
      bind_eq_ok, parseTiers_eq_ok, RoutingConfig.rounded, hc, forall_const]
    constructor
    · rintro ⟨_, ⟨rfl, hladder⟩, h⟩
      exact ⟨(Except.ok.inj h).symm, hladder⟩
    · rintro ⟨rfl, hladder⟩
      exact ⟨_, ⟨rfl, hladder⟩, rfl⟩

/-- What is read back of the `routing` table. -/
theorem routingConfigFromTable_eq_ok {config read : RoutingConfig} (hconfig : config.Accepted)
    {where_ : String} {env : Option String} :
    routingConfigFromTable (routingFields config).entries where_ env .strictInput = .ok read ↔
      read = config.rounded ∧ (∀ i, 0 ≤ config.rounded.weights.values i) ∧
        (config.classifier = none → Ladder config.rounded.tiers) := by
  have hlookup := lookup_entries (routingFields_nodup config)
  have hweights : (routingFields config).entries.lookup "weights" =
      omitIf (config.weights = .default) (.table (weightEntries config.weights)) := hlookup _
  have hlexicon : (routingFields config).entries.lookup "lexicon" =
      omitIf (config.lexicon = .default) (.table (lexiconFields config.lexicon).entries) :=
    hlookup _
  simp only [routingConfigFromTable, bind_eq_ok, hweights, hlexicon, parseWeights_eq_ok,
    parseOptionalLexicon_eq hconfig.lexicon, parseMode_eq_ok hconfig.mode]
  constructor
  · rintro ⟨_, ⟨rfl, hpos⟩, _, hlex, _, ⟨rfl, hladder⟩, h⟩
    cases hlex
    cases h
    exact ⟨rfl, hpos, hladder⟩
  · rintro ⟨rfl, hpos, hladder⟩
    exact ⟨_, ⟨rfl, hpos⟩, _, rfl, _, ⟨rfl, hladder⟩, rfl⟩

theorem ladder_binaryTiers {threshold : ℚ} (hpos : 0 < threshold) (hle : threshold ≤ 1) :
    Ladder (binaryTiers threshold) where
  acceptable := by
    intro tier htier
    simp only [binaryTiers, List.mem_cons, List.not_mem_nil, or_false] at htier
    rcases htier with rfl | rfl
    · exact ⟨⟨le_rfl, zero_le_one⟩, by decide, fun c hc => nomatch hc⟩
    · exact ⟨⟨hpos.le, hle⟩, (by decide : "cloud" ≠ ""), fun c hc => nomatch hc⟩
  first := rfl
  ascending := by simp [ascending, binaryTiers, hpos]

theorem Mode.ladder {tiers : List Tier} (hmode : Mode tiers none)
    (hzero : tiers ≠ binaryTiers 0) : Ladder tiers := by
  cases hmode with
  | tiers hladder => exact hladder
  | threshold hrange =>
    exact ladder_binaryTiers (lt_of_le_of_ne hrange.1 fun h => hzero (h ▸ rfl)) hrange.2

/-- A configuration that was read survives exactly when its numbers are kept and it does not stand
for the threshold zero. -/
theorem reads_back_iff {config : RoutingConfig} (hconfig : config.Accepted) {where_ : String}
    {env : Option String} :
    routingConfigFromTable (routingFields config).entries where_ env .strictInput = .ok config ↔
      config.rounded = config ∧ ¬ config.ThresholdZero := by
  rw [routingConfigFromTable_eq_ok hconfig]
  constructor
  · rintro ⟨hrounded, -, hladder⟩
    rw [← hrounded] at hladder
    refine ⟨hrounded.symm, ?_⟩
    rintro ⟨hnone, hzero⟩
    have hascending := (hladder hnone).ascending
    rw [hzero] at hascending
    exact absurd hascending (by decide +kernel)
  · rintro ⟨hrounded, hzero⟩
    rw [hrounded]
    refine ⟨rfl, hconfig.weights, fun hnone => ?_⟩
    have hmode := hconfig.mode
    rw [hnone] at hmode
    exact hmode.ladder fun htiers => hzero ⟨hnone, htiers⟩

/-! ## Numbers -/

theorem map_written_eq {l : List ℚ} : l.map written = l ↔ ∀ x ∈ l, written x = x := by
  induction l with
  | nil => simp
  | cons x l ih => rw [List.map_cons, List.cons.injEq, ih, List.forall_mem_cons]

theorem Tier.rounded_eq {tier : Tier} :
    tier.rounded = tier ↔ ∀ x ∈ tier.minScore :: tier.cost.toList, written x = x := by
  rcases tier with ⟨score, model, _ | cost⟩ <;> simp [Tier.rounded]

theorem map_rounded_eq {tiers : List Tier} :
    tiers.map Tier.rounded = tiers ↔ ∀ tier ∈ tiers, tier.rounded = tier := by
  induction tiers with
  | nil => simp
  | cons tier tiers ih => rw [List.map_cons, List.cons.injEq, ih, List.forall_mem_cons]

theorem ClassifierModel.rounded_eq {classifier : ClassifierModel} :
    classifier.rounded = classifier ↔
      ∀ x ∈ classifier.intercepts ++ (List.ofFn classifier.weights).flatten, written x = x := by
  simp only [ClassifierModel.ext_iff, ClassifierModel.rounded, funext_iff, true_and,
    map_written_eq, List.mem_append, List.mem_flatten, List.mem_ofFn]
  constructor
  · rintro ⟨hweights, hintercepts⟩ x (hx | ⟨l, ⟨i, rfl⟩, hx⟩)
    · exact hintercepts x hx
    · exact hweights i x hx
  · intro h
    exact ⟨fun i x hx => h x (.inr ⟨_, ⟨i, rfl⟩, hx⟩), fun x hx => h x (.inl hx)⟩

/-- A configuration is written as it stands when each of its numbers is. -/
theorem RoutingConfig.rounded_eq {config : RoutingConfig} :
    config.rounded = config ↔ ∀ x ∈ config.numbers, written x = x := by
  rcases config with ⟨⟨weights⟩, tiers, classifier, lexicon⟩
  have hweights : (⟨weights⟩ : Weights).rounded = ⟨weights⟩ ↔
      ∀ x ∈ List.ofFn weights, written x = x := by
    simp only [Weights.rounded, Weights.mk.injEq, funext_iff, List.mem_ofFn,
      forall_exists_index, forall_apply_eq_imp_iff]
  have htiers : tiers.map Tier.rounded = tiers ↔
      ∀ x ∈ tiers.flatMap (fun tier => tier.minScore :: tier.cost.toList), written x = x := by
    simp only [map_rounded_eq, Tier.rounded_eq, List.mem_flatMap, forall_exists_index, and_imp]
    exact ⟨fun h x tier htier hx => h tier htier x hx, fun h tier htier x hx => h x tier htier hx⟩
  have hclassifier : classifier.map ClassifierModel.rounded = classifier ↔
      ∀ x ∈ classifier.elim [] (fun classifier =>
        classifier.intercepts ++ (List.ofFn classifier.weights).flatten), written x = x := by
    cases classifier with
    | none => simp
    | some classifier =>
      rw [Option.map_some, Option.some.injEq, ClassifierModel.rounded_eq]
      rfl
  simp only [RoutingConfig.rounded, RoutingConfig.mk.injEq, hweights, htiers, hclassifier,
    and_true, RoutingConfig.numbers, List.forall_mem_append, and_assoc]

/-! ## The document -/

theorem distinct_stringList (values : List String) : (stringList values).distinct = true := by
  show Value.distinctAll (values.map .string) = true
  induction values with
  | nil => rfl
  | cons value values ih => exact ih

theorem distinct_numberList (values : List ℚ) : (numberList values).distinct = true := by
  show Value.distinctAll (values.map formatNumber) = true
  induction values with
  | nil => rfl
  | cons value values ih => exact ih

theorem distinctEntries_map {α : Type} (l : List α) (key : α → String) (g : α → Value)
    (hg : ∀ a, (g a).distinct = true) :
    Value.distinctEntries (l.map fun a => (key a, g a)) = true := by
  induction l with
  | nil => rfl
  | cons a l ih =>
    rw [List.map_cons, Value.distinctEntries, hg a, ih]
    rfl

theorem distinct_weightEntries (weights : Weights) :
    (Value.table (weightEntries weights)).distinct = true := by
  rw [weightEntries_eq, Value.distinct, distinctEntries_map _ _ _ fun _ => rfl, Bool.and_true,
    decide_eq_true_eq, Table.keys, List.map_map]
  exact (List.nodup_finRange 11).map featureOrder_injective

theorem distinct_tierFields (tier : Tier) :
    (Value.table (tierFields tier).entries).distinct = true := by
  rw [Value.distinct, Bool.and_eq_true, decide_eq_true_eq]
  refine ⟨.sublist (keys_entries_sublist _) (by simp [tierFields]), ?_⟩
  rcases tier with ⟨score, model, _ | cost⟩ <;> rfl

theorem distinct_lexiconFields (lexicon : Lexicon) :
    Value.distinctEntries (lexiconFields lexicon).entries = true := by
  unfold lexiconFields omitIf
  split <;> split <;> simp [Fields.entries, Value.distinctEntries, distinct_stringList]

theorem adds_classifier (classifier : ClassifierModel) :
    Adds (Document.group "classifier" (classifierFields classifier).entries
        (Document.group "weights" (classifierWeightFields classifier).entries []))
      [("classifier", some (.table (classifierTableFields classifier).entries))] := by
  have hweights : Adds (Document.group "weights" (classifierWeightFields classifier).entries [])
      [("weights", some (.table (classifierWeightFields classifier).entries))] := by
    have hgroup := adds_group "weights" (l := classifierWeightFields classifier) adds_nil
      ?_ ?_
    · rwa [List.append_nil] at hgroup
    · rw [List.append_nil, classifierWeightFields, List.map_ofFn]
      exact featureNames_nodup
    · rw [classifierWeightFields_eq]
      exact distinctEntries_map _ _ _ fun i => distinct_numberList _
  refine adds_group "classifier" hweights (by simp [classifierFields]) ?_
  simp [classifierFields, Fields.entries, Value.distinctEntries, distinct_stringList,
    distinct_numberList]

theorem adds_mode {config : RoutingConfig} (hmode : Mode config.tiers config.classifier) :
    Adds (modeDocument config)
      [("classifier", config.classifier.map fun c => .table (classifierTableFields c).entries),
        ("tiers", omitIf config.classifier.isSome (tiersValue config.tiers))] := by
  unfold modeDocument
  cases hc : config.classifier with
  | some classifier =>
    have hadds := (adds_classifier classifier).append (adds_none "tiers") (by simp)
    rwa [List.append_nil] at hadds
  | none =>
    have hne : config.tiers ≠ [] := by
      intro hnil
      rw [hc, hnil] at hmode
      cases hmode with
      | tiers hladder => exact nomatch hladder.first
    have hwritten : config.tiers.map (fun tier => (tierFields tier).entries) ≠ [] :=
      List.map_eq_nil_iff.not.mpr hne
    have htables := adds_tables "tiers" hwritten ?_
    · rw [List.map_map] at htables
      exact (adds_none "classifier").append htables (by simp)
    · intro entries hentries
      obtain ⟨tier, -, rfl⟩ := List.mem_map.mp hentries
      exact distinct_tierFields tier

theorem modeDocument_ne_nil {config : RoutingConfig} (hmode : Mode config.tiers config.classifier) :
    modeDocument config ≠ [] := by
  unfold modeDocument
  cases hc : config.classifier with
  | some classifier => exact List.cons_ne_nil _ _
  | none =>
    intro hnil
    simp only [Document.tables, List.map_eq_nil_iff] at hnil
    rw [hc, hnil] at hmode
    cases hmode with
    | tiers hladder => exact nomatch hladder.first

theorem adds_routingSections {config : RoutingConfig}
    (hmode : Mode config.tiers config.classifier) :
    Adds (routingSections config) (routingSectionFields config) := by
  have hlexicon : Adds (if config.lexicon = .default then []
      else Document.group "lexicon" (lexiconFields config.lexicon).entries [])
      [("lexicon", omitIf (config.lexicon = .default)
        (.table (lexiconFields config.lexicon).entries))] := by
    unfold omitIf
    by_cases hdefault : config.lexicon = .default
    · simp only [hdefault, if_true, decide_true]
      exact adds_none "lexicon"
    · simp only [hdefault, if_false, decide_false, Bool.false_eq_true]
      have hgroup := adds_group "lexicon" (l := lexiconFields config.lexicon) adds_nil
        (by rw [List.append_nil]; exact lexiconFields_nodup _) (distinct_lexiconFields _)
      rwa [List.append_nil] at hgroup
  exact hlexicon.append (adds_mode hmode) (by simp)

/-- The document denotes the `routing` table. -/
theorem table_routingDocument {config : RoutingConfig}
    (hmode : Mode config.tiers config.classifier) :
    (routingDocument config).table = some [("routing", .table (routingFields config).entries)] := by
  have hsections := adds_routingSections hmode
  unfold routingDocument
  by_cases hdefault : config.weights = .default
  · have hne : (routingSections config).isEmpty = false := by
      rw [List.isEmpty_eq_false_iff, routingSections]
      exact List.append_ne_nil_of_right_ne_nil _ (modeDocument_ne_nil hmode)
    have hunder := adds_under "routing" hsections [] fun _ _ => List.not_mem_nil
    rw [hne] at hunder
    simp only [hdefault, if_true, routingFields, omitIf, decide_true]
    exact hunder
  · have hgroup := adds_group "routing" (l := [("weights",
        some (.table (weightEntries config.weights)))]) hsections (routingFields_nodup config)
      (by simp [Fields.entries, Value.distinctEntries, distinct_weightEntries])
      [] fun _ _ => List.not_mem_nil
    simp only [hdefault, if_false, routingFields, omitIf, decide_false, Bool.false_eq_true]
    exact hgroup

/-- Reading a written configuration is reading its `routing` table. -/
theorem routingConfigFromToml_dump {lib : Library} {config : RoutingConfig}
    (hmode : Mode config.tiers config.classifier)
    (hreads : lib.Reads (routingDocument config) "\n") (where_ : String) (env : Option String)
    (order : TierOrderPolicy) :
    routingConfigFromToml lib (dumpRoutingToml lib config) where_ env order =
      routingConfigFromTable (routingFields config).entries where_ env order := by
  have hparse := hreads _ (table_routingDocument hmode)
  unfold routingConfigFromToml
  rw [show lib.parse (dumpRoutingToml lib config) = _ from hparse]
  rfl

end WayfinderRouter.Config
