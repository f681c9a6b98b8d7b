import WayfinderRouter.Binary64
import WayfinderRouter.Double

/-!
# Documents

A document is a list of sections, each with the path of its table. It denotes a tree of tables.
The documents here are those in which every header opens a new table, after the header of the
tables above it if they have one.

Strings are quoted by a parameter.

## Main definitions

- `Value`, `Table` — what a document denotes
- `Document`, `Document.text` — sections, and their text
- `Document.table` — the table that a document denotes, if no key is defined twice
- `Adds` — a document adds entries to a table
- `Library` — a parser, and how strings are quoted for it
-/

namespace WayfinderRouter.Toml

inductive Value where
  | string (value : String)
  | integer (value : ℤ)
  | float (value : Double)
  | boolean (value : Bool)
  | datetime (text : String)
  | array (values : List Value)
  | table (entries : List (String × Value))

/-- The entries of a table, in order. -/
abbrev Table := List (String × Value)

/-- The keys of a table. -/
def Table.keys (t : Table) : List String := t.map Prod.fst

namespace Value

def asTable : Value → Option Table
  | .table entries => some entries
  | _ => none

def asArray : Value → Option (List Value)
  | .array values => some values
  | _ => none

def asStr : Value → Option String
  | .string value => some value
  | _ => none

def asInteger : Value → Option ℤ
  | .integer value => some value
  | _ => none

mutual

/-- No table in the value has a key twice. -/
def distinct : Value → Bool
  | .array values => distinctAll values
  | .table entries => (Table.keys entries).Nodup && distinctEntries entries
  | _ => true

/-- No table in the values has a key twice. -/
def distinctAll : List Value → Bool
  | [] => true
  | value :: values => value.distinct && distinctAll values

/-- No table in the entries has a key twice. -/
def distinctEntries : List (String × Value) → Bool
  | [] => true
  | (_, value) :: entries => value.distinct && distinctEntries entries

end

mutual

/-- The text of a value in a document. -/
def text (quote : String → String) : Value → String
  | .string value => quote value
  | .integer value => toString value
  | .float (.finite value) => debugDouble value
  | .float .notFinite => "nan"
  | .boolean value => toString value
  | .datetime text => text
  | .array values => "[" ++ ", ".intercalate (textAll quote values) ++ "]"
  | .table entries => "\x7b " ++ ", ".intercalate (textEntries quote entries) ++ " \x7d"

/-- The texts of the elements of an array. -/
def textAll (quote : String → String) : List Value → List String
  | [] => []
  | value :: values => value.text quote :: textAll quote values

/-- The texts of the entries of a table. -/
def textEntries (quote : String → String) : List (String × Value) → List String
  | [] => []
  | (key, value) :: entries => (key ++ " = " ++ value.text quote) :: textEntries quote entries

end

end Value

/-! ## Sections -/

/-- A header with the path of the tables above, and the entries below it. -/
structure Section where
  path : List String
  key : String
  isArray : Bool
  entries : Table

abbrev Document := List Section

/-- The text of a path segment: bare when it can be. -/
def segment (quote : String → String) (key : String) : String :=
  if key ≠ "" ∧ key.toList.all fun c => c.isAlphanum || c = '_' || c = '-' then key
  else quote key

/-- The header of a section. -/
def Section.header (quote : String → String) (s : Section) : String :=
  let path := ".".intercalate ((s.path ++ [s.key]).map (segment quote))
  if s.isArray then "[[" ++ path ++ "]]" else "[" ++ path ++ "]"

/-- The lines of a section. -/
def Section.text (quote : String → String) (s : Section) : String :=
  "\n".intercalate (s.header quote :: Value.textEntries quote s.entries)

/-- The sections, with a blank line between them. -/
def Document.text (quote : String → String) (d : Document) : String :=
  "\n\n".intercalate (d.map (Section.text quote))

/-! ## Tables of documents -/

/-- The table with another value of a key. -/
def Table.replace (t : Table) (key : String) (value : Value) : Table :=
  t.map fun entry => if entry.1 = key then (key, value) else entry

/-- Change the table at a path. Tables that are missing on the way are made. -/
def Table.update (f : Table → Option Table) : List String → Table → Option Table
  | [], t => f t
  | key :: path, t =>
    match t.lookup key with
    | none => (update f path []).map fun sub => t ++ [(key, .table sub)]
    | some (.table sub) => (update f path sub).map fun sub => t.replace key (.table sub)
    | some _ => none

/-- Define a new table, or append one to an array of tables. -/
def Section.define (s : Section) (t : Table) : Option Table :=
  if (Value.table s.entries).distinct then
    match s.isArray, t.lookup s.key with
    | false, none => some (t ++ [(s.key, .table s.entries)])
    | true, none => some (t ++ [(s.key, .array [.table s.entries])])
    | true, some (.array values) =>
      some (t.replace s.key (.array (values ++ [.table s.entries])))
    | _, _ => none
  else none

/-- The table after the sections of a document. -/
def Document.extend (d : Document) (t : Table) : Option Table :=
  d.foldlM (fun t s => Table.update s.define s.path t) t

/-- The table of a document. -/
def Document.table (d : Document) : Option Table := d.extend []

theorem lookup_eq_none {t : Table} {key : String} : t.lookup key = none ↔ key ∉ t.keys := by
  simp only [List.lookup_eq_none_iff, Table.keys, List.mem_map, not_exists, not_and]
  constructor
  · intro h entry hentry heq
    simpa [heq] using h entry hentry
  · intro h entry hentry
    simpa using fun heq : key = entry.1 => h entry hentry heq.symm

theorem Table.keys_append (t u : Table) : Table.keys (t ++ u) = t.keys ++ Table.keys u :=
  List.map_append

section Last

variable {t : Table} {key : String} (hkey : key ∉ t.keys)

include hkey

theorem lookup_append_last (value : Value) :
    (t ++ [(key, value)]).lookup key = some value := by
  rw [List.lookup_append, lookup_eq_none.mpr hkey]
  simp

theorem replace_append_last (value value' : Value) :
    Table.replace (t ++ [(key, value)]) key value' = t ++ [(key, value')] := by
  have hold : t.map (fun entry => if entry.1 = key then (key, value') else entry) = t := by
    rw [List.map_congr_left (g := id), List.map_id]
    intro entry hentry
    refine if_neg fun heq => hkey ?_
    exact heq ▸ List.mem_map_of_mem hentry
  rw [Table.replace, List.map_append, hold]
  simp

end Last

/-! ## What a document adds -/

/-- The document, below a key. -/
def Document.under (d : Document) (key : String) : Document :=
  d.map fun s => { s with path := key :: s.path }

theorem extend_append (d d' : Document) (t : Table) :
    Document.extend (d ++ d') t = (d.extend t).bind (Document.extend d') :=
  List.foldlM_append

/-- Sections below the last key of a table change its last value. -/
theorem extend_under_last {t : Table} {key : String} (hkey : key ∉ t.keys) (d : Document)
    (sub : Table) :
    (d.under key).extend (t ++ [(key, .table sub)]) =
      (d.extend sub).map fun sub => t ++ [(key, .table sub)] := by
  induction d generalizing sub with
  | nil => rfl
  | cons s d ih =>
    have hstep : Table.update s.define (key :: s.path) (t ++ [(key, .table sub)]) =
        (Table.update s.define s.path sub).map fun sub => t ++ [(key, .table sub)] := by
      rw [Table.update, lookup_append_last hkey]
      simp only [replace_append_last hkey]
    show (Table.update s.define (key :: s.path) (t ++ [(key, .table sub)])).bind
        (Document.extend (Document.under d key)) =
      ((Table.update s.define s.path sub).bind (Document.extend d)).map _
    rw [hstep]
    cases Table.update s.define s.path sub with
    | none => rfl
    | some sub' => exact ih sub'

/-- Sections below a new key add it. -/
theorem extend_under_new {t : Table} {key : String} (hkey : key ∉ t.keys) {d : Document}
    (hd : d ≠ []) :
    (d.under key).extend t = (d.extend []).map fun sub => t ++ [(key, .table sub)] := by
  cases d with
  | nil => exact absurd rfl hd
  | cons s d =>
    show (Table.update s.define (key :: s.path) t).bind
        (Document.extend (Document.under d key)) =
      ((Table.update s.define s.path []).bind (Document.extend d)).map _
    rw [Table.update, lookup_eq_none.mpr hkey]
    show ((Table.update s.define s.path []).map _).bind _ = _
    cases Table.update s.define s.path [] with
    | none => rfl
    | some sub => exact extend_under_last hkey d sub

/-- Entries that may be left out. -/
abbrev Fields := List (String × Option Value)

/-- The entries that are there. -/
def Fields.entries (l : Fields) : Table :=
  l.filterMap fun field => field.2.map fun value => (field.1, value)

theorem entries_append (l l' : Fields) :
    Fields.entries (l ++ l') = l.entries ++ Fields.entries l' :=
  List.filterMap_append

theorem keys_entries_sublist (l : Fields) : l.entries.keys.Sublist (l.map Prod.fst) := by
  induction l with
  | nil => exact List.Sublist.slnil
  | cons field l ih =>
    rcases field with ⟨key, _ | value⟩
    · exact ih.cons key
    · exact ih.cons_cons key

/-- The value of a field, when every field has its own key. -/
theorem lookup_entries {l : Fields} (hl : (l.map Prod.fst).Nodup) (key : String) :
    l.entries.lookup key = (l.lookup key).join := by
  induction l with
  | nil => rfl
  | cons field l ih =>
    obtain ⟨hnew, htail⟩ := List.nodup_cons.mp hl
    rcases field with ⟨name, _ | value⟩
    · by_cases hname : key = name
      · subst hname
        have hnone : key ∉ (Fields.entries l).keys := fun h =>
          hnew ((keys_entries_sublist l).subset h)
        show (Fields.entries l).lookup key = _
        rw [lookup_eq_none.mpr hnone, List.lookup_cons_self]
        rfl
      · rw [List.lookup_cons, beq_false_of_ne hname]
        exact ih htail
    · by_cases hname : key = name
      · subst hname
        show ((key, value) :: Fields.entries l).lookup key = _
        rw [List.lookup_cons_self, List.lookup_cons_self]
        rfl
      · show ((name, value) :: Fields.entries l).lookup key = _
        rw [List.lookup_cons, List.lookup_cons, beq_false_of_ne hname]
        exact ih htail

/-- The document adds the fields to every table that has none of their keys. -/
def Adds (d : Document) (l : Fields) : Prop :=
  ∀ t : Table, (∀ key ∈ l.map Prod.fst, key ∉ t.keys) → d.extend t = some (t ++ l.entries)

theorem adds_nil : Adds [] [] := by
  intro t _
  show some t = some (t ++ [])
  rw [List.append_nil]

theorem adds_none (key : String) : Adds [] [(key, none)] :=
  fun t _ => adds_nil t fun _ h => absurd h List.not_mem_nil

theorem Adds.append {d d' : Document} {l l' : Fields} (hd : Adds d l) (hd' : Adds d' l')
    (hkeys : (l.map Prod.fst).Disjoint (l'.map Prod.fst)) : Adds (d ++ d') (l ++ l') := by
  intro t ht
  rw [List.map_append] at ht
  rw [extend_append, hd t fun key hkey => ht key (List.mem_append_left _ hkey)]
  show Document.extend d' (t ++ l.entries) = _
  rw [hd', entries_append, List.append_assoc]
  intro key hkey hmem
  rw [Table.keys_append, List.mem_append] at hmem
  rcases hmem with hmem | hmem
  · exact ht key (List.mem_append_right _ hkey) hmem
  · exact hkeys ((keys_entries_sublist l).subset hmem) hkey

/-- A table with a header, and the sections below it. -/
def Document.group (key : String) (entries : Table) (below : Document) : Document :=
  ⟨[], key, false, entries⟩ :: below.under key

theorem adds_group (key : String) {d : Document} {l l' : Fields} (hd : Adds d l')
    (hkeys : ((l ++ l').map Prod.fst).Nodup)
    (hvalues : Value.distinctEntries l.entries = true) :
    Adds (.group key l.entries d) [(key, some (.table (Fields.entries (l ++ l'))))] := by
  intro t ht
  have hkey : key ∉ t.keys := ht key List.mem_cons_self
  rw [List.map_append, List.nodup_append] at hkeys
  have hnodup : l.entries.keys.Nodup := hkeys.1.sublist (keys_entries_sublist l)
  have hnew : ∀ k ∈ l'.map Prod.fst, k ∉ l.entries.keys := by
    intro k hk hmem
    exact hkeys.2.2 k ((keys_entries_sublist l).subset hmem) k hk rfl
  have hdefine : Section.define ⟨[], key, false, l.entries⟩ t =
      some (t ++ [(key, .table l.entries)]) := by
    simp only [Section.define, Value.distinct, hnodup, hvalues, lookup_eq_none.mpr hkey,
      decide_true, Bool.and_self, if_true]
  show (Section.define ⟨[], key, false, l.entries⟩ t).bind (Document.extend (d.under key)) = _
  rw [hdefine]
  show (d.under key).extend (t ++ [(key, .table l.entries)]) = _
  rw [extend_under_last hkey, hd _ hnew, entries_append]
  rfl

theorem adds_under (key : String) {d : Document} {l : Fields} (hd : Adds d l) :
    Adds (d.under key) [(key, if d.isEmpty then none else some (.table l.entries))] := by
  intro t ht
  have hkey : key ∉ t.keys := ht key List.mem_cons_self
  cases d with
  | nil => exact adds_none key t ht
  | cons s d =>
    rw [extend_under_new hkey (List.cons_ne_nil s d), hd [] (fun _ _ => List.not_mem_nil)]
    rfl

/-- An array of tables, each with a header. -/
def Document.tables (key : String) (tables : List Table) : Document :=
  tables.map fun entries => ⟨[], key, true, entries⟩

/-- More tables are appended to the array. -/
theorem extend_tables_last {t : Table} {key : String} (hkey : key ∉ t.keys) (values : List Value)
    (tables : List Table) (hdistinct : ∀ entries ∈ tables, (Value.table entries).distinct = true) :
    (Document.tables key tables).extend (t ++ [(key, .array values)]) =
      some (t ++ [(key, .array (values ++ tables.map .table))]) := by
  induction tables generalizing values with
  | nil =>
    rw [List.map_nil, List.append_nil]
    rfl
  | cons entries tables ih =>
    have hdefine : Section.define ⟨[], key, true, entries⟩ (t ++ [(key, .array values)]) =
        some (t ++ [(key, .array (values ++ [.table entries]))]) := by
      simp only [Section.define, hdistinct entries List.mem_cons_self, lookup_append_last hkey,
        replace_append_last hkey, if_true]
    show (Section.define ⟨[], key, true, entries⟩ (t ++ [(key, .array values)])).bind
      (Document.extend (Document.tables key tables)) = _
    rw [hdefine]
    have htail := ih (values ++ [.table entries])
      fun e he => hdistinct e (List.mem_cons_of_mem _ he)
    rw [List.append_assoc] at htail
    exact htail

theorem adds_tables (key : String) {tables : List Table} (hne : tables ≠ [])
    (hdistinct : ∀ entries ∈ tables, (Value.table entries).distinct = true) :
    Adds (.tables key tables) [(key, some (.array (tables.map .table)))] := by
  intro t ht
  have hkey : key ∉ t.keys := ht key List.mem_cons_self
  cases tables with
  | nil => exact absurd rfl hne
  | cons entries tables =>
    have hdefine : Section.define ⟨[], key, true, entries⟩ t =
        some (t ++ [(key, .array [.table entries])]) := by
      simp only [Section.define, hdistinct entries List.mem_cons_self, lookup_eq_none.mpr hkey,
        if_true]
    show (Section.define ⟨[], key, true, entries⟩ t).bind
      (Document.extend (Document.tables key tables)) = _
    rw [hdefine]
    exact extend_tables_last hkey [.table entries] tables
      fun e he => hdistinct e (List.mem_cons_of_mem _ he)

theorem adds_option {α : Type} {o : Option α} {key : String} {f : α → Document} {g : α → Value}
    (h : ∀ a ∈ o, Adds (f a) [(key, some (g a))]) : Adds (o.elim [] f) [(key, o.map g)] := by
  cases o with
  | none => exact adds_none key
  | some a => exact h a rfl

theorem adds_flatMap {α : Type} {m : List (String × α)} {f : String × α → Document}
    {g : String × α → Value} (hm : (m.map Prod.fst).Nodup)
    (h : ∀ e ∈ m, Adds (f e) [(e.1, some (g e))]) :
    Adds (m.flatMap f) (m.map fun e => (e.1, some (g e))) := by
  induction m with
  | nil => exact adds_nil
  | cons e m ih =>
    obtain ⟨hnew, htail⟩ := List.nodup_cons.mp hm
    refine (h e List.mem_cons_self).append (ih htail fun e' he' => h e' (.tail _ he')) ?_
    rw [List.map_map]
    intro key hkey hmem
    rw [List.map_cons, List.map_nil, List.mem_singleton] at hkey
    exact hnew (hkey ▸ hmem)

theorem entries_map_some {α : Type} (m : List α) (key : α → String) (g : α → Value) :
    Fields.entries (m.map fun e => (key e, some (g e))) = m.map fun e => (key e, g e) := by
  induction m with
  | nil => rfl
  | cons e m ih => exact congrArg (List.cons (key e, g e)) ih

/-! ## Reading documents -/

/-- A parser of documents, and how strings are quoted for it. -/
structure Library where
  parse : String → Except String Value
  quote : String → String

/-- The parser reads the text of the document as its table. -/
def Library.Reads (lib : Library) (d : Document) (ending : String) : Prop :=
  ∀ t, d.table = some t → lib.parse (d.text lib.quote ++ ending) = .ok (.table t)

end WayfinderRouter.Toml
