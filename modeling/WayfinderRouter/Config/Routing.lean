import Mathlib.Data.Fin.VecNotation
import Mathlib.Data.Finset.Sort
import Mathlib.Data.Fintype.Pi
import Mathlib.Data.String.Basic
import WayfinderRouter.Config.Number
import WayfinderRouter.Text
import WayfinderRouter.Toml.Document

/-!
# Routing configurations

A routing configuration is read from the `routing` table of a document and written back as a
fragment. Reading has three modes: a classifier, a ladder of tiers, and one threshold. Writing
leaves defaults out and writes a threshold as a ladder of two tiers.

Numbers are finite doubles at their exact values, with one zero. The error texts of the TOML
parser are its own.

## Main definitions

- `RoutingConfig` — weights, tiers, a classifier and a lexicon
- `routingConfigFromToml` — reading
- `routingDocument`, `dumpRoutingToml` — writing
-/

namespace WayfinderRouter.Config

open Toml

inductive ConfigError where
  | invalidToml (where_ message : String)
  | invalidValue (where_ message : String)
deriving DecidableEq

/-- `invalid`. -/
def invalid {α : Type} (where_ message : String) : Except ConfigError α :=
  .error (.invalidValue where_ message)

/-- A check, with the message of its error. -/
def require (condition : Bool) (where_ message : String) : Except ConfigError Unit :=
  if condition then .ok () else invalid where_ message

/-- `ok_or_else` with the message of the error. -/
def okOr {α : Type} (value : Option α) (where_ message : String) : Except ConfigError α :=
  match value with
  | some value => .ok value
  | none => invalid where_ message

/-- `TierOrderPolicy`. -/
inductive TierOrderPolicy where
  | compatibilitySort
  | strictInput
deriving DecidableEq

/-! ## Features and weights -/

/-- `FEATURE_ORDER`. -/
def featureOrder : Fin 11 → String :=
  !["word_count", "heading_count", "max_heading_depth", "list_item_count", "link_count",
    "code_block_count", "table_row_count", "reasoning_term_count", "math_symbol_count",
    "constraint_term_count", "question_count"]

/-- The names of the features, in order. -/
def featureNames : List String := List.ofFn featureOrder

/-- `feature_index`. -/
def featureIndex (name : String) : Option (Fin 11) :=
  (List.finRange 11).find? fun i => featureOrder i = name

structure Weights where
  values : Fin 11 → ℚ
deriving DecidableEq

namespace Weights

/-- `Weights::default`. -/
def default : Weights := ⟨![3, 3 / 2, 1, 2, 1, 3 / 2, 1, 0, 0, 0, 0]⟩

/-- `Weights::get`. -/
def get (weights : Weights) (name : String) : Option ℚ :=
  (featureIndex name).map weights.values

/-- `Weights::set`: nothing for an unknown feature. -/
def set (weights : Weights) (name : String) (value : ℚ) : Option Weights :=
  (featureIndex name).map fun i => ⟨Function.update weights.values i value⟩

end Weights

/-! ## Lexicons -/

/-- `str::to_ascii_lowercase`. -/
def toAsciiLowercase (text : String) : String := String.ofList (text.toList.map Char.toLower)

/-- A term as the lexicon keeps it. -/
def normalize (term : String) : String := toAsciiLowercase (trim term)

theorem toNat_toLower (c : Char) :
    c.toLower.toNat = if 65 ≤ c.toNat ∧ c.toNat ≤ 90 then c.toNat + 32 else c.toNat := by
  have hiff : (c.val ≥ 'A'.val ∧ c.val ≤ 'Z'.val) ↔ 65 ≤ c.toNat ∧ c.toNat ≤ 90 := Iff.rfl
  unfold Char.toLower
  by_cases h : c.val ≥ 'A'.val ∧ c.val ≤ 'Z'.val
  · rw [dif_pos h, if_pos (hiff.mp h)]
    have hle : c.val.toNat ≤ 90 := (hiff.mp h).2
    show (c.val + 32).toNat = c.val.toNat + 32
    rw [UInt32.toNat_add]
    exact Nat.mod_eq_of_lt (by show c.val.toNat + 32 < 2 ^ 32; omega)
  · rw [dif_neg h, if_neg (hiff.not.mp h)]

theorem isWhitespace_toLower (c : Char) : isWhitespace c.toLower = isWhitespace c := by
  rw [Bool.eq_iff_iff]
  simp only [isWhitespace, toNat_toLower, Bool.or_eq_true, Bool.and_eq_true, decide_eq_true_eq]
  split <;> omega

theorem toLower_toLower (c : Char) : c.toLower.toLower = c.toLower := by
  refine Char.toNat_inj.mp ?_
  rw [toNat_toLower c.toLower, toNat_toLower c]
  split_ifs <;> omega

/-- Trimming twice is trimming once. -/
theorem trim_trim {α : Type} (p : α → Bool) (l : List α) :
    (((l.dropWhile p).rdropWhile p).dropWhile p).rdropWhile p =
      (l.dropWhile p).rdropWhile p := by
  have hfirst : ((l.dropWhile p).rdropWhile p).dropWhile p = (l.dropWhile p).rdropWhile p := by
    rw [List.dropWhile_eq_self_iff]
    intro hpos
    have hstart := List.rdropWhile_prefix p (l.dropWhile p)
    have hlen : 0 < (l.dropWhile p).length := lt_of_lt_of_le hpos hstart.length_le
    rw [hstart.getElem hpos]
    exact List.dropWhile_eq_self_iff.mp (List.dropWhile_idempotent p l) hlen
  rw [hfirst, List.rdropWhile_idempotent]

theorem normalize_normalize (term : String) : normalize (normalize term) = normalize term := by
  have hcomp : isWhitespace ∘ Char.toLower = isWhitespace := funext isWhitespace_toLower
  have hlower : ∀ l : List Char, (l.map Char.toLower).map Char.toLower = l.map Char.toLower := by
    intro l
    rw [List.map_map]
    exact List.map_congr_left fun c _ => toLower_toLower c
  have hreverse : ∀ l : List Char, (l.map Char.toLower).rdropWhile isWhitespace =
      (l.rdropWhile isWhitespace).map Char.toLower := by
    intro l
    rw [List.rdropWhile, List.rdropWhile, ← List.map_reverse, List.dropWhile_map, hcomp,
      List.map_reverse]
  simp only [normalize, toAsciiLowercase, trim, String.toList_ofList, List.dropWhile_map, hcomp,
    hreverse, hlower, trim_trim]

/-- The two sets of normalized terms. -/
structure Lexicon where
  reasoning : Finset String
  constraints : Finset String
  normal : ∀ term ∈ reasoning ∪ constraints, normalize term = term
deriving DecidableEq

/-- `Lexicon::new`. -/
def Lexicon.new (reasoning constraints : List String) : Lexicon where
  reasoning := (reasoning.map normalize).toFinset
  constraints := (constraints.map normalize).toFinset
  normal := by
    intro term hterm
    simp only [Finset.mem_union, List.mem_toFinset, List.mem_map] at hterm
    rcases hterm with ⟨raw, -, rfl⟩ | ⟨raw, -, rfl⟩ <;> exact normalize_normalize raw

/-- `REASONING_TERMS`. -/
def reasoningTerms : List String :=
  ["prove", "proof", "proofs", "proven", "derive", "derives", "derivation", "theorem",
    "theorems", "lemma", "lemmas", "corollary", "axiom", "axioms", "irrational", "undecidable",
    "undecidability", "decidable", "infinitely", "asymptotic", "complexity", "invariant",
    "invariants", "concurrency", "concurrent", "deadlock", "induction", "contradiction",
    "optimal", "optimality", "optimize", "optimise", "minimise", "minimize", "maximise",
    "maximize", "recurrence", "halting", "eigenvalue", "eigenvalues", "integral", "derivative",
    "polynomial", "prime", "primes", "modulo", "isomorphism", "monotonic", "bijection",
    "injective", "surjective", "combinatorial"]

/-- `CONSTRAINT_TERMS`. -/
def constraintTerms : List String :=
  ["must", "without", "only", "ensure", "exactly", "guarantee", "constraint", "constraints",
    "subject", "preserving", "preserve"]

/-- `Lexicon::default`. -/
def Lexicon.default : Lexicon := .new reasoningTerms constraintTerms

/-! ## Tiers and classifiers -/

structure Tier where
  minScore : ℚ
  model : String
  cost : Option ℚ
deriving DecidableEq

/-- `binary_tiers`. -/
def binaryTiers (threshold : ℚ) : List Tier := [⟨0, "local", none⟩, ⟨threshold, "cloud", none⟩]

/-- `DEFAULT_THRESHOLD`. -/
def defaultThreshold : ℚ := nearest (1 / 100)

/-- A classifier over the features: each vector has a value for each model. -/
@[ext] structure ClassifierModel where
  models : List String
  weights : Fin 11 → List ℚ
  intercepts : List ℚ
  two : 2 ≤ models.length
  named : "" ∉ models
  unique : models.Nodup
  intercepts_length : intercepts.length = models.length
  weights_length : ∀ i, (weights i).length = models.length
deriving DecidableEq

/-- What is wrong with a weight vector. -/
def vectorProblem (count : ℕ) (entry : String × List ℚ) : Option String :=
  if featureIndex entry.1 = none then some ("unknown feature " ++ entry.1.quote)
  else if entry.2.length ≠ count then
    some ("weight vector for " ++ entry.1.quote ++ " must contain " ++ toString count ++ " values")
  else none

theorem lookup_length {count : ℕ} {weights : List (String × List ℚ)}
    (h : weights.findSome? (vectorProblem count) = none) (i : Fin 11) :
    ((weights.lookup (featureOrder i)).getD (List.replicate count 0)).length = count := by
  cases hlookup : weights.lookup (featureOrder i) with
  | none => exact List.length_replicate
  | some vector =>
    obtain ⟨l₁, l₂, rfl, -⟩ := List.lookup_eq_some_iff.mp hlookup
    have hvector := List.findSome?_eq_none_iff.mp h (featureOrder i, vector) (by simp)
    unfold vectorProblem at hvector
    split_ifs at hvector with hunknown hlength
    simpa using hlength

/-- `ClassifierModel::new`. Features without a vector get zeros. -/
def ClassifierModel.new (models : List String) (weights : List (String × List ℚ))
    (intercepts : List ℚ) : Except String ClassifierModel :=
  if htwo : models.length < 2 then .error "models must contain at least two entries"
  else if hnamed : "" ∈ models then .error "model names must be non-empty"
  else if hunique : models.Nodup then
    if hintercepts : intercepts.length = models.length then
      match hproblem : weights.findSome? (vectorProblem models.length) with
      | some message => .error message
      | none =>
        .ok
          { models, intercepts
            weights := fun i =>
              (weights.lookup (featureOrder i)).getD (List.replicate models.length 0)
            two := by omega
            named := hnamed
            unique := hunique
            intercepts_length := hintercepts
            weights_length := fun i => lookup_length hproblem i }
    else .error ("intercepts must contain " ++ toString models.length ++ " values")
  else .error "model names must be unique"

/-- A complete routing configuration. -/
structure RoutingConfig where
  weights : Weights
  tiers : List Tier
  classifier : Option ClassifierModel
  lexicon : Lexicon
deriving DecidableEq

/-! ## Reading -/

/-- `number`. An integer is converted to the nearest double. -/
def number : Value → Option Double
  | .integer n => some (.finite (nearest n))
  | .float x => some x
  | _ => none

/-- The number, if it is finite. -/
def finiteNumber (value : Value) : Option ℚ :=
  match number value with
  | some (.finite x) => some x
  | _ => none

/-- A finite number that meets a condition, or an error. -/
def numberWhere (p : ℚ → Bool) (value : Option Value) (where_ message : String) :
    Except ConfigError ℚ :=
  okOr ((value.bind finiteNumber).filter p) where_ message

/-- `parse_threshold`. -/
def parseThreshold (value : Option Value) (where_ : String) (default : ℚ) :
    Except ConfigError ℚ :=
  match value with
  | none => .ok default
  | some value =>
    numberWhere (fun x => 0 ≤ x ∧ x ≤ 1) (some value) where_
      "'routing.threshold' must be a number in 0.0-1.0"

/-- `THRESHOLD_ENV`. -/
def thresholdEnv : String := "WAYFINDER_ROUTER_THRESHOLD"

/-- `parse_environment_threshold`, with the label of the document in its errors. -/
def parseEnvironmentThreshold (raw : Option String) (where_ : String) (default : ℚ) :
    Except ConfigError ℚ :=
  match raw with
  | none => .ok default
  | some raw =>
    if raw = "" then .ok default
    else
      match parseDouble raw with
      | none => invalid where_ (thresholdEnv ++ " must be a number, got " ++ raw.quote)
      | some parsed =>
        let outside := invalid where_
          (thresholdEnv ++ " must be between 0.0 and 1.0, got " ++ parsed.display)
        match parsed with
        | .finite value => if 0 ≤ value ∧ value ≤ 1 then .ok value else outside
        | _ => outside

/-- One entry of the weights. -/
def parseWeight (where_ : String) (weights : Weights) (entry : String × Value) :
    Except ConfigError Weights := do
  require (entry.1 ∈ featureNames) where_
    ("'routing.weights." ++ entry.1 ++ "' is not a known feature (one of " ++
      ", ".intercalate featureNames ++ ")")
  let weight ← numberWhere (fun x => 0 ≤ x) (some entry.2) where_
    ("'routing.weights." ++ entry.1 ++ "' must be a non-negative number")
  okOr (weights.set entry.1 weight) where_ "internal feature mapping is incomplete"

/-- `parse_weights`. -/
def parseWeights (value : Option Value) (where_ : String) : Except ConfigError Weights :=
  match value with
  | none => .ok .default
  | some value => do
    let table ← okOr value.asTable where_ "'routing.weights' must be a table"
    table.foldlM (parseWeight where_) .default

/-- `MAX_LEXICON_TERMS`. -/
def maxLexiconTerms : ℕ := 2000

/-- One term of a list. -/
def parseTerm (where_ label : String) (value : Value) : Except ConfigError String :=
  toAsciiLowercase <$> okOr ((value.asStr.map trim).filter fun term => term ≠ "") where_
    ("'" ++ label ++ "' must be a list of non-empty strings")

/-- `parse_term_list`. -/
def parseTermList (value : Value) (where_ label : String) :
    Except ConfigError (List String) := do
  let values ← okOr value.asArray where_
    ("'" ++ label ++ "' must be a list of non-empty strings")
  require (values.length ≤ maxLexiconTerms) where_
    ("'" ++ label ++ "' has more than " ++ toString maxLexiconTerms ++ " terms")
  values.mapM (parseTerm where_ label)

/-- The terms in the order of the set. -/
def sortedTerms (terms : Finset String) : List String := terms.sort (· ≤ ·)

/-- A list of terms that may be left out. -/
def parseTerms (value : Option Value) (where_ label : String) (default : Finset String) :
    Except ConfigError (List String) :=
  match value with
  | some value => parseTermList value where_ label
  | none => .ok (sortedTerms default)

/-- `parse_lexicon`. -/
def parseLexicon (value : Value) (where_ : String) : Except ConfigError Lexicon := do
  let table ← okOr value.asTable where_ "'[routing.lexicon]' must be a table"
  require (unknown table = []) where_
    ("unknown 'routing.lexicon' keys: " ++ ", ".intercalate (unknown table) ++ " (known: " ++
      ", ".intercalate known ++ ")")
  let reasoning ← parseTerms (table.lookup "reasoning_terms") where_
    "routing.lexicon.reasoning_terms" Lexicon.default.reasoning
  let constraints ← parseTerms (table.lookup "constraint_terms") where_
    "routing.lexicon.constraint_terms" Lexicon.default.constraints
  .ok (.new reasoning constraints)
where
  /-- The keys of the table. -/
  known : List String := ["constraint_terms", "reasoning_terms"]
  /-- The other keys. -/
  unknown (table : Table) : List String := (Table.keys table).filter fun key => key ∉ known

/-- A lexicon that may be left out. -/
def parseOptionalLexicon (value : Option Value) (where_ : String) : Except ConfigError Lexicon :=
  match value with
  | some value => parseLexicon value where_
  | none => .ok .default

/-- A cost that may be left out. -/
def parseCost (value : Option Value) (where_ : String) : Except ConfigError (Option ℚ) :=
  match value with
  | none => .ok none
  | some value =>
    some <$> numberWhere (fun x => 0 ≤ x) (some value) where_
      "tier 'cost' must be a non-negative number"

/-- A string that is not empty. -/
def nonEmptyStr (value : Value) : Option String := value.asStr.filter fun s => s ≠ ""

/-- One tier. -/
def parseTier (where_ : String) (value : Value) : Except ConfigError Tier := do
  let table ← okOr value.asTable where_ "each '[[routing.tiers]]' must be a table"
  let minScore ← numberWhere (fun x => 0 ≤ x ∧ x ≤ 1) (table.lookup "min_score") where_
    "tier 'min_score' must be a number in 0.0-1.0"
  let model ← okOr ((table.lookup "model").bind nonEmptyStr) where_
    "tier 'model' must be a non-empty string"
  let cost ← parseCost (table.lookup "cost") where_
  .ok ⟨minScore, model, cost⟩

/-- Each tier starts above the one before it. -/
def ascending (tiers : List Tier) : Bool :=
  (tiers.zip tiers.tail).all fun pair => pair.1.minScore < pair.2.minScore

/-- The tiers in the order of a policy. -/
def TierOrderPolicy.arrange (order : TierOrderPolicy) (tiers : List Tier) : List Tier :=
  match order with
  | .compatibilitySort => tiers.mergeSort fun left right => left.minScore ≤ right.minScore
  | .strictInput => tiers

/-- `parse_tiers`. -/
def parseTiers (value : Value) (where_ : String) (order : TierOrderPolicy) :
    Except ConfigError (List Tier) := do
  let values ← okOr (value.asArray.filter fun values => !values.isEmpty) where_
    "'routing.tiers' must be a non-empty array of tables"
  let tiers ← order.arrange <$> values.mapM (parseTier where_)
  require (tiers.head?.map Tier.minScore = some 0) where_
    "the first tier must have min_score = 0.0"
  require (ascending tiers) where_ "tier 'min_score' values must be strictly ascending"
  .ok tiers

/-- `parse_number_vector`. -/
def parseNumberVector (value : Option Value) (where_ label : String) (count : ℕ) :
    Except ConfigError (List ℚ) := do
  let values ← okOr ((value.bind Value.asArray).filter fun values => values.length = count) where_
    message
  values.mapM fun value => numberWhere (fun _ => true) (some value) where_ message
where
  /-- What a vector has to be. -/
  message : String := "'" ++ label ++ "' must be a list of " ++ toString count ++ " numbers"

/-- The vector of one feature. -/
def parseFeatureVector (table : Table) (where_ : String) (count : ℕ) (name : String) :
    Except ConfigError (String × List ℚ) :=
  match table.lookup name with
  | none => .ok (name, List.replicate count 0)
  | some value =>
    Prod.mk name <$>
      parseNumberVector (some value) where_ ("routing.classifier.weights." ++ name) count

/-- The strings of an array. -/
def asStrings (value : Value) : Option (List String) :=
  value.asArray.bind fun values => values.mapM Value.asStr

/-- `parse_classifier`. -/
def parseClassifier (value : Value) (where_ : String) : Except ConfigError ClassifierModel := do
  let table ← okOr value.asTable where_ "'[routing.classifier]' must be a table"
  let models ← okOr (((table.lookup "models").bind asStrings).filter fun models =>
      2 ≤ models.length ∧ "" ∉ models ∧ models.Nodup) where_
    "'routing.classifier.models' must be 2+ unique non-empty strings"
  let intercepts ← parseNumberVector (table.lookup "intercepts") where_
    "routing.classifier.intercepts" models.length
  let rawWeights ← okOr ((table.lookup "weights").bind Value.asTable) where_
    "'[routing.classifier.weights]' must be a table"
  (Table.keys rawWeights).forM fun name =>
    require (name ∈ featureNames) where_
      ("'routing.classifier.weights." ++ name ++ "' is not a known feature")
  let weights ← featureNames.mapM (parseFeatureVector rawWeights where_ models.length)
  (ClassifierModel.new models weights intercepts).mapError (.invalidValue where_)

/-- The modes of `routing_config_from_toml`: a classifier, tiers, or a threshold. -/
def parseMode (routing : Table) (where_ : String) (thresholdEnvironment : Option String)
    (tierOrder : TierOrderPolicy) :
    Except ConfigError (List Tier × Option ClassifierModel) :=
  match routing.lookup "classifier", routing.lookup "tiers" with
  | some value, _ => do
    let classifier ← parseClassifier value where_
    .ok (binaryTiers defaultThreshold, some classifier)
  | none, some value => do
    let tiers ← parseTiers value where_ tierOrder
    .ok (tiers, none)
  | none, none => do
    let configured ← parseThreshold (routing.lookup "threshold") where_ defaultThreshold
    let threshold ← parseEnvironmentThreshold thresholdEnvironment where_ configured
    .ok (binaryTiers threshold, none)

/-- `routing_config_from_toml`, of the `routing` table. -/
def routingConfigFromTable (routing : Table) (where_ : String)
    (thresholdEnvironment : Option String) (tierOrder : TierOrderPolicy) :
    Except ConfigError RoutingConfig := do
  let weights ← parseWeights (routing.lookup "weights") where_
  let lexicon ← parseOptionalLexicon (routing.lookup "lexicon") where_
  let mode ← parseMode routing where_ thresholdEnvironment tierOrder
  .ok { weights, tiers := mode.1, classifier := mode.2, lexicon }

/-- The `routing` table, empty when it is left out. -/
def routingTable (root : Table) (where_ : String) : Except ConfigError Table :=
  match root.lookup "routing" with
  | none => .ok []
  | some value => okOr value.asTable where_ "'[routing]' must be a table"

/-- `routing_config_from_toml`, of the root of a document. -/
def routingConfigFromValue (root : Value) (where_ : String)
    (thresholdEnvironment : Option String) (tierOrder : TierOrderPolicy) :
    Except ConfigError RoutingConfig := do
  let root ← okOr root.asTable where_ "document root must be a table"
  let routing ← routingTable root where_
  routingConfigFromTable routing where_ thresholdEnvironment tierOrder

/-- `routing_config_from_toml`. -/
def routingConfigFromToml (lib : Library) (text where_ : String)
    (thresholdEnvironment : Option String) (tierOrder : TierOrderPolicy) :
    Except ConfigError RoutingConfig :=
  match lib.parse text with
  | .error message => .error (.invalidToml where_ message)
  | .ok root => routingConfigFromValue root where_ thresholdEnvironment tierOrder

/-! ## Writing -/

/-- `format_number`, as a value of the document. -/
def formatNumber (value : ℚ) : Value := .float (.finite (pythonRound value 6))

/-- A field that is left out at its default. -/
def omitIf (isDefault : Bool) (value : Value) : Option Value :=
  if isDefault then none else some value

/-- A list of strings. -/
def stringList (values : List String) : Value := .array (values.map .string)

/-- A list of numbers. -/
def numberList (values : List ℚ) : Value := .array (values.map formatNumber)

/-- The weights, in the order of the features. -/
def weightEntries (weights : Weights) : Table :=
  featureNames.map fun name => (name, formatNumber ((weights.get name).getD 0))

/-- The fields of the lexicon. -/
def lexiconFields (lexicon : Lexicon) : Fields :=
  [("reasoning_terms", omitIf (lexicon.reasoning = Lexicon.default.reasoning)
      (stringList (sortedTerms lexicon.reasoning))),
    ("constraint_terms", omitIf (lexicon.constraints = Lexicon.default.constraints)
      (stringList (sortedTerms lexicon.constraints)))]

/-- The fields of a tier. -/
def tierFields (tier : Tier) : Fields :=
  [("min_score", some (formatNumber tier.minScore)), ("model", some (.string tier.model)),
    ("cost", tier.cost.map formatNumber)]

/-- The fields of a classifier. -/
def classifierFields (classifier : ClassifierModel) : Fields :=
  [("models", some (stringList classifier.models)),
    ("intercepts", some (numberList classifier.intercepts))]

/-- The weights of a classifier, in the order of the features. -/
def classifierWeightFields (classifier : ClassifierModel) : Fields :=
  List.ofFn fun i => (featureOrder i, some (numberList (classifier.weights i)))

/-- The sections of the mode. -/
def modeDocument (config : RoutingConfig) : Document :=
  match config.classifier with
  | some classifier =>
    Document.group "classifier" (classifierFields classifier).entries
      (Document.group "weights" (classifierWeightFields classifier).entries [])
  | none => Document.tables "tiers" (config.tiers.map fun tier => (tierFields tier).entries)

/-- The sections below `routing`. -/
def routingSections (config : RoutingConfig) : Document :=
  (if config.lexicon = .default then []
    else Document.group "lexicon" (lexiconFields config.lexicon).entries []) ++ modeDocument config

/-- The sections of `dump_routing_toml`. -/
def routingDocument (config : RoutingConfig) : Document :=
  if config.weights = .default then (routingSections config).under "routing"
  else Document.group "routing" [("weights", .table (weightEntries config.weights))]
    (routingSections config)

/-- `dump_routing_toml`, of a configuration with a tier or a classifier. -/
def dumpRoutingToml (lib : Library) (config : RoutingConfig) : String :=
  (routingDocument config).text lib.quote ++ "\n"

end WayfinderRouter.Config
