import WayfinderRouter.Json.Injective
import WayfinderRouter.Ordered.Insertions

/-!
# Keys of the response cache

A key is the digest of a canonical text: of the version, the partition, the route and the served
model, and of the fields of the request other than `model` and `stream`, with the members of every
object sorted by their names.

## Main definitions

- `canonicalJson` — the value with sorted members
- `cacheKeyWithVersion` — the key
- `SameUpToOrder` — equality up to the order of members

## Main results

- `canonicalJson_eq_iff` — what canonical values forget is the order of members
- `cache_key_exact` — two keys are equal only for the same parts and the same fields
-/

namespace WayfinderRouter.Gateway.CacheKey

mutual

/-- `canonical_json`. Members are sorted by names, which does not look at their values. -/
def canonicalJson : Json → Json
  | .array values => .array (canonicalAll values)
  | .object values => .object (Ordered.collect (canonicalMembers values))
  | .null => .null
  | .bool value => .bool value
  | .number text => .number text
  | .string value => .string value

def canonicalAll : List Json → List Json
  | [] => []
  | value :: values => canonicalJson value :: canonicalAll values

def canonicalMembers : List (String × Json) → List (String × Json)
  | [] => []
  | (name, value) :: values => (name, canonicalJson value) :: canonicalMembers values

end

inductive CacheKeyError where
  | invalidBody
deriving DecidableEq

/-- The fields of a request that count. -/
def projected (object : List (String × Json)) : List (String × Json) :=
  object.filter fun field => !(field.1 == "model" || field.1 == "stream")

/-- What a key is made of. -/
def parts (version partition route servedModel : String) (object : List (String × Json)) :
    List (String × Json) :=
  [("version", .string version), ("partition", .string partition), ("route", .string route),
    ("model", .string servedModel), ("body", .object (projected object))]

/-- What a key is the digest of. -/
def envelope (version partition route servedModel : String) (object : List (String × Json)) :
    Json :=
  canonicalJson (.object (parts version partition route servedModel object))

/-- The hexadecimal text of a digest. -/
def encoded (digest : List UInt8) : String :=
  String.ofList (digest.flatMap fun byte =>
    [Nat.digitChar (byte.toNat / 16), Nat.digitChar (byte.toNat % 16)])

/-- `cache_key_with_version`. -/
def cacheKeyWithVersion (sha256 : List UInt8 → List UInt8)
    (version partition route servedModel : String) (body : Json) : Except CacheKeyError String :=
  match body.asObject with
  | none => .error .invalidBody
  | some object =>
    .ok (encoded (sha256 (envelope version partition route servedModel object).bytes))

/-- `CACHE_KEY_SCHEMA_VERSION`. -/
def cacheKeySchemaVersion : String := "v2"

/-- `cache_key`. -/
def cacheKey (sha256 : List UInt8 → List UInt8) (partition route servedModel : String)
    (body : Json) : Except CacheKeyError String :=
  cacheKeyWithVersion sha256 cacheKeySchemaVersion partition route servedModel body

/-! ### Values up to the order of members -/

mutual

/-- Two values are equal up to the order of members, at every depth: two objects have the same
names, and the same values under them. -/
def SameUpToOrder : Json → Json → Prop
  | .null, .null => True
  | .bool value, .bool value' => value = value'
  | .number text, .number text' => text = text'
  | .string value, .string value' => value = value'
  | .array values, .array values' => SameElements values values'
  | .object members, .object members' =>
    (∀ name, name ∈ members.map Prod.fst ↔ name ∈ members'.map Prod.fst) ∧
      SameMembers members members'
  | _, _ => False

/-- The elements of two arrays are the same, in their order. -/
def SameElements : List Json → List Json → Prop
  | [], [] => True
  | value :: values, value' :: values' =>
    SameUpToOrder value value' ∧ SameElements values values'
  | _, _ => False

/-- The values of the members are those of the other members of their names. -/
def SameMembers : List (String × Json) → List (String × Json) → Prop
  | [], _ => True
  | (name, value) :: members, members' =>
    (∃ value', (name, value') ∈ members' ∧ SameUpToOrder value value') ∧
      SameMembers members members'

end

mutual

/-- The members of every object have different names. -/
def Distinct : Json → Prop
  | .array values => DistinctElements values
  | .object members => (members.map Prod.fst).Nodup ∧ DistinctMembers members
  | _ => True

def DistinctElements : List Json → Prop
  | [] => True
  | value :: values => Distinct value ∧ DistinctElements values

def DistinctMembers : List (String × Json) → Prop
  | [] => True
  | (_, value) :: members => Distinct value ∧ DistinctMembers members

end

section

variable {values : List Json} {members members' : List (String × Json)}

theorem DistinctElements.of_mem (h : DistinctElements values) :
    ∀ value ∈ values, Distinct value := by
  induction values with
  | nil => exact fun _ hmem => absurd hmem List.not_mem_nil
  | cons value values ih => exact List.forall_mem_cons.mpr ⟨h.1, ih h.2⟩

theorem DistinctMembers.of_mem (h : DistinctMembers members) : ∀ e ∈ members, Distinct e.2 := by
  induction members with
  | nil => exact fun _ hmem => absurd hmem List.not_mem_nil
  | cons e members ih => exact List.forall_mem_cons.mpr ⟨h.1, ih h.2⟩

theorem DistinctMembers.of_forall (h : ∀ e ∈ members, Distinct e.2) : DistinctMembers members := by
  induction members with
  | nil => trivial
  | cons e members ih =>
    rw [List.forall_mem_cons] at h
    exact ⟨h.1, ih h.2⟩

theorem sameMembers_iff : SameMembers members members' ↔
    ∀ e ∈ members, ∃ value', (e.1, value') ∈ members' ∧ SameUpToOrder e.2 value' := by
  induction members with
  | nil => exact iff_of_true trivial fun _ hmem => absurd hmem List.not_mem_nil
  | cons e members ih => rw [SameMembers, ih, List.forall_mem_cons]

theorem canonicalAll_eq (values : List Json) : canonicalAll values = values.map canonicalJson := by
  induction values with
  | nil => rfl
  | cons value values ih => rw [canonicalAll, List.map_cons, ih]

theorem canonicalMembers_eq (members : List (String × Json)) :
    canonicalMembers members = members.map fun e => (e.1, canonicalJson e.2) := by
  induction members with
  | nil => rfl
  | cons e members ih => rw [canonicalMembers, List.map_cons, ih]

theorem keys_canonicalMembers (members : List (String × Json)) :
    (canonicalMembers members).map Prod.fst = members.map Prod.fst := by
  rw [canonicalMembers_eq, List.map_map]
  rfl

/-- The canonical members are read by name. -/
theorem lookup_canonical (h : (members.map Prod.fst).Nodup) (name : String) :
    Ordered.lookup name (Ordered.collect (canonicalMembers members)) =
      (Ordered.lookup name members).map canonicalJson := by
  rw [Ordered.lookup_collect (by rwa [keys_canonicalMembers]), canonicalMembers_eq,
    Ordered.lookup_map]

end

/-- Arrays have equal canonical elements exactly when their elements are the same. -/
theorem map_canonical_eq_iff {values : List Json} (ih : ∀ value ∈ values, ∀ other, Distinct value →
      Distinct other → (canonicalJson value = canonicalJson other ↔ SameUpToOrder value other))
    (h : ∀ value ∈ values, Distinct value) {others : List Json}
    (hothers : ∀ value ∈ others, Distinct value) :
    values.map canonicalJson = others.map canonicalJson ↔ SameElements values others := by
  induction values generalizing others with
  | nil =>
    cases others with
    | nil => exact iff_of_true rfl trivial
    | cons other others => exact iff_of_false (by simp) id
  | cons value values ihv =>
    cases others with
    | nil => exact iff_of_false (by simp) id
    | cons other others =>
      rw [List.forall_mem_cons] at ih h hothers
      rw [List.map_cons, List.map_cons, List.cons.injEq, SameElements,
        ih.1 other h.1 hothers.1, ihv ih.2 h.2 hothers.2]

/-- The canonical values of two values with different names in each object are equal exactly when
they are the same up to the order of members. -/
theorem canonicalJson_eq_iff (value : Json) : ∀ other : Json, Distinct value → Distinct other →
    (canonicalJson value = canonicalJson other ↔ SameUpToOrder value other) := by
  induction value using Json.induct with
  | null =>
    intro other _ _
    cases other with
    | null => exact iff_of_true rfl trivial
    | _ => exact iff_of_false (fun h => by cases h) id
  | bool value =>
    intro other _ _
    cases other with
    | bool value' => exact Json.bool.injEq value value' ▸ Iff.rfl
    | _ => exact iff_of_false (fun h => by cases h) id
  | number text =>
    intro other _ _
    cases other with
    | number text' => exact Json.number.injEq text text' ▸ Iff.rfl
    | _ => exact iff_of_false (fun h => by cases h) id
  | string value =>
    intro other _ _
    cases other with
    | string value' => exact Json.string.injEq value value' ▸ Iff.rfl
    | _ => exact iff_of_false (fun h => by cases h) id
  | array values ih =>
    intro other h hother
    cases other with
    | array values' =>
      rw [canonicalJson, canonicalJson, Json.array.injEq, canonicalAll_eq, canonicalAll_eq,
        map_canonical_eq_iff ih (DistinctElements.of_mem h) (DistinctElements.of_mem hother)]
      rfl
    | _ => exact iff_of_false (fun h => by cases h) id
  | object members ih =>
    intro other h hother
    cases other with
    | object members' =>
      have hmembers := DistinctMembers.of_mem h.2
      have hmembers' := DistinctMembers.of_mem hother.2
      rw [canonicalJson, canonicalJson, Json.object.injEq]
      show _ ↔ _ ∧ SameMembers members members'
      rw [sameMembers_iff]
      constructor
      · intro heq
        have hlookup : ∀ name, (Ordered.lookup name members).map canonicalJson =
            (Ordered.lookup name members').map canonicalJson := fun name => by
          rw [← lookup_canonical h.1, ← lookup_canonical hother.1, heq]
        refine ⟨fun name => ?_, fun e he => ?_⟩
        · rw [← keys_canonicalMembers, ← Ordered.mem_keys_collect, heq, Ordered.mem_keys_collect,
            keys_canonicalMembers]
        · have hname := hlookup e.1
          rw [Ordered.lookup_of_mem h.1 he, Option.map_some, eq_comm,
            Option.map_eq_some_iff] at hname
          obtain ⟨value', hfound, hcanonical⟩ := hname
          have hmem := Ordered.mem_of_lookup hfound
          exact ⟨value', hmem, (ih e he value' (hmembers e he) (hmembers' _ hmem)).mp
            hcanonical.symm⟩
      · rintro ⟨hnames, hsame⟩
        refine Ordered.Sorted.ext_lookup (Ordered.sorted_collect _) (Ordered.sorted_collect _)
          fun name => ?_
        rw [lookup_canonical h.1, lookup_canonical hother.1]
        by_cases hname : name ∈ members.map Prod.fst
        · obtain ⟨e, he, rfl⟩ := List.mem_map.mp hname
          obtain ⟨value', hmem, hvalue⟩ := hsame e he
          rw [Ordered.lookup_of_mem h.1 he, Ordered.lookup_of_mem hother.1 hmem, Option.map_some,
            Option.map_some,
            (ih e he value' (hmembers e he) (hmembers' _ hmem)).mpr hvalue]
        · rw [Ordered.lookup_eq_none_iff.mpr hname,
            Ordered.lookup_eq_none_iff.mpr fun h => hname ((hnames name).mpr h)]
    | _ => exact iff_of_false (fun h => by cases h) id

/-! ### Keys -/

/-- A body as it is parsed: the members of every object have different names, and the texts of its
numbers are texts of numbers. -/
structure WellFormed (body : Json) : Prop where
  distinct : Distinct body
  numbers : body.NumbersAre Json.NumberLike

theorem encoded_injective : Function.Injective encoded := by
  intro digest digest' h
  have hdigit : ∀ m < 16, ∀ n < 16, Nat.digitChar m = Nat.digitChar n → m = n := by decide
  have hchars := String.ofList_injective h
  clear h
  induction digest generalizing digest' with
  | nil =>
    cases digest' with
    | nil => rfl
    | cons byte digest' => cases hchars
  | cons byte digest ih =>
    cases digest' with
    | nil => cases hchars
    | cons byte' digest' =>
      rw [List.flatMap_cons, List.flatMap_cons] at hchars
      obtain ⟨hhigh, hrest⟩ := List.cons.inj hchars
      obtain ⟨hlow, hrest⟩ := List.cons.inj hrest
      have hlt := byte.toNat_lt
      have hlt' := byte'.toNat_lt
      have hhigh := hdigit _ (by omega) _ (by omega) hhigh
      have hlow := hdigit _ (by omega) _ (by omega) hlow
      rw [ih hrest, UInt8.toNat_inj.mp (by omega : byte.toNat = byte'.toNat)]

/-- A canonical value has the numbers of its value. -/
theorem numbersAre_canonicalJson {p : String → Prop} (value : Json) :
    Distinct value → value.NumbersAre p → (canonicalJson value).NumbersAre p := by
  induction value using Json.induct with
  | null => exact fun _ h => h
  | bool value => exact fun _ h => h
  | number text => exact fun _ h => h
  | string value => exact fun _ h => h
  | array values ih =>
    intro hdistinct h
    rw [canonicalJson, canonicalAll_eq]
    refine Json.NumbersAreAll.of_forall fun value hvalue => ?_
    obtain ⟨value, hmem, rfl⟩ := List.mem_map.mp hvalue
    exact ih value hmem (DistinctElements.of_mem hdistinct value hmem)
      (Json.NumbersAreAll.of_mem h value hmem)
  | object members ih =>
    intro hdistinct h
    rw [canonicalJson]
    refine Json.NumbersAreEntries.of_forall fun e he => ?_
    have hlookup := (Ordered.sorted_collect _).lookup_of_mem he
    rw [lookup_canonical hdistinct.1, Option.map_eq_some_iff] at hlookup
    obtain ⟨value, hfound, heq⟩ := hlookup
    have hmem := Ordered.mem_of_lookup hfound
    rw [← heq]
    exact ih _ hmem (DistinctMembers.of_mem hdistinct.2 _ hmem)
      (Json.NumbersAreEntries.of_mem h _ hmem)

theorem WellFormed.projected {object : List (String × Json)} (h : WellFormed (.object object)) :
    WellFormed (.object (projected object)) where
  distinct := by
    refine ⟨h.distinct.1.sublist (List.filter_sublist.map _), ?_⟩
    refine DistinctMembers.of_forall fun e he => ?_
    exact DistinctMembers.of_mem h.distinct.2 e (List.mem_of_mem_filter he)
  numbers := Json.NumbersAreEntries.of_forall fun e he =>
    Json.NumbersAreEntries.of_mem h.numbers e (List.mem_of_mem_filter he)

theorem nodup_parts (version partition route servedModel : String)
    (object : List (String × Json)) :
    ((parts version partition route servedModel object).map Prod.fst).Nodup := by
  show ["version", "partition", "route", "model", "body"].Nodup
  decide

theorem WellFormed.parts {object : List (String × Json)} (h : WellFormed (.object object))
    (version partition route servedModel : String) :
    WellFormed (.object (parts version partition route servedModel object)) where
  distinct := ⟨nodup_parts _ _ _ _ _, trivial, trivial, trivial, trivial,
    h.projected.distinct, trivial⟩
  numbers := ⟨trivial, trivial, trivial, trivial, h.projected.numbers, trivial⟩

section

variable {version partition route servedModel version' partition' route' servedModel' : String}
  {object object' : List (String × Json)}

theorem sameUpToOrder_parts :
    SameUpToOrder (.object (parts version partition route servedModel object))
      (.object (parts version' partition' route' servedModel' object')) ↔
    version = version' ∧ partition = partition' ∧ route = route' ∧ servedModel = servedModel' ∧
      SameUpToOrder (.object (projected object)) (.object (projected object')) := by
  have hvalue : ∀ {name : String} {value found : Json},
      Ordered.lookup name (parts version' partition' route' servedModel' object') = some found →
        ((∃ value', (name, value') ∈ parts version' partition' route' servedModel' object' ∧
          SameUpToOrder value value') ↔ SameUpToOrder value found) := by
    intro name value found hfound
    constructor
    · rintro ⟨value', hmem, hsame⟩
      rw [Ordered.lookup_of_mem (nodup_parts _ _ _ _ _) hmem] at hfound
      rwa [Option.some.inj hfound] at hsame
    · exact fun hsame => ⟨found, Ordered.mem_of_lookup hfound, hsame⟩
  have hnames : ∀ name, name ∈ (parts version partition route servedModel object).map Prod.fst ↔
      name ∈ (parts version' partition' route' servedModel' object').map Prod.fst :=
    fun name => Iff.rfl
  rw [SameUpToOrder, and_iff_right hnames, parts, SameMembers, SameMembers, SameMembers,
    SameMembers, SameMembers, SameMembers, hvalue rfl, hvalue rfl, hvalue rfl, hvalue rfl,
    hvalue rfl, and_true]
  rfl

/-- Two texts are equal exactly when their parts are and the fields that count are the same up to
the order of members. -/
theorem envelope_bytes_eq_iff (hbody : WellFormed (.object object))
    (hbody' : WellFormed (.object object')) :
    (envelope version partition route servedModel object).bytes =
        (envelope version' partition' route' servedModel' object').bytes ↔
      version = version' ∧ partition = partition' ∧ route = route' ∧
        servedModel = servedModel' ∧
        SameUpToOrder (.object (projected object)) (.object (projected object')) := by
  have hparts := hbody.parts version partition route servedModel
  have hparts' := hbody'.parts version' partition' route' servedModel'
  have hcanonical : envelope version partition route servedModel object =
      envelope version' partition' route' servedModel' object' ↔ _ :=
    canonicalJson_eq_iff (.object (parts version partition route servedModel object))
      (.object (parts version' partition' route' servedModel' object')) hparts.distinct
      hparts'.distinct
  rw [← sameUpToOrder_parts, ← hcanonical]
  constructor
  · exact Json.bytes_injective (numbersAre_canonicalJson _ hparts.distinct hparts.numbers)
      (numbersAre_canonicalJson _ hparts'.distinct hparts'.numbers)
  · exact fun h => congrArg Json.bytes h

/-- Without a collision of the digests, two keys are equal exactly when their parts are and the
fields that count are the same up to the order of members. -/
theorem cache_key_exact (sha256 : List UInt8 → List UInt8) (hbody : WellFormed (.object object))
    (hbody' : WellFormed (.object object'))
    (hsha256 : sha256 (envelope version partition route servedModel object).bytes =
        sha256 (envelope version' partition' route' servedModel' object').bytes →
      (envelope version partition route servedModel object).bytes =
        (envelope version' partition' route' servedModel' object').bytes) :
    cacheKeyWithVersion sha256 version partition route servedModel (.object object) =
        cacheKeyWithVersion sha256 version' partition' route' servedModel' (.object object') ↔
      version = version' ∧ partition = partition' ∧ route = route' ∧
        servedModel = servedModel' ∧
        SameUpToOrder (.object (projected object)) (.object (projected object')) := by
  rw [← envelope_bytes_eq_iff hbody hbody']
  show Except.ok _ = Except.ok _ ↔ _
  rw [Except.ok.injEq, encoded_injective.eq_iff]
  exact ⟨hsha256, fun h => congrArg sha256 h⟩

end

/-- A request, and the same request in another order and for another model. -/
def request : List (String × Json) :=
  [("model", .string "fast"), ("user", .object [("id", .number "1"), ("model", .string "m")])]

def reordered : List (String × Json) :=
  [("user", .object [("model", .string "m"), ("id", .number "1")]), ("model", .string "slow")]

/-- The SHA-256 digest of the text of both requests. -/
def requestDigest : List UInt8 :=
  [37, 34, 165, 105, 45, 70, 79, 250, 98, 94, 114, 229, 121, 177, 64, 187, 83, 26, 179, 94,
    122, 51, 83, 92, 62, 111, 69, 104, 223, 82, 168, 42]

theorem numberLike_one : Json.NumberLike "1" :=
  ⟨⟨'1', rfl, .inl rfl⟩, List.forall_mem_singleton.mpr (.inl rfl)⟩

theorem wellFormed_request : WellFormed (.object request) where
  distinct := ⟨by decide, trivial, ⟨by decide, trivial, trivial, trivial⟩, trivial⟩
  numbers := ⟨trivial, ⟨numberLike_one, trivial, trivial⟩, trivial⟩

theorem wellFormed_reordered : WellFormed (.object reordered) where
  distinct := ⟨by decide, ⟨by decide, trivial, trivial, trivial⟩, trivial, trivial⟩
  numbers := ⟨⟨trivial, numberLike_one, trivial⟩, trivial, trivial⟩

theorem sameUpToOrder_request :
    SameUpToOrder (.object (projected request)) (.object (projected reordered)) := by
  refine ⟨fun name => Iff.rfl, ⟨_, List.mem_singleton.mpr rfl, ?_⟩, trivial⟩
  refine ⟨fun name => ?_, ⟨.number "1", .tail _ (.head _), rfl⟩, ⟨.string "m", .head _, rfl⟩,
    trivial⟩
  exact (List.Perm.swap "model" "id" []).mem_iff

theorem cache_key_exact_request :
    cacheKeyWithVersion (fun _ => requestDigest) "v2" "team-a" "auto" "gpt-4o" (.object request) =
      cacheKeyWithVersion (fun _ => requestDigest) "v2" "team-a" "auto" "gpt-4o"
        (.object reordered) :=
  (cache_key_exact (fun _ => requestDigest) wellFormed_request wellFormed_reordered
    fun _ => rfl).mpr ⟨rfl, rfl, rfl, rfl, sameUpToOrder_request⟩

end WayfinderRouter.Gateway.CacheKey
