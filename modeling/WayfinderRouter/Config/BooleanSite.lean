import WayfinderRouter.Config.BooleanEdit

/-!
# Editing one boolean of a document

A document has a key at an assignment, below the header of its table, or not at all. The edit of
the text is the edit of the document when its lines are read as the document has them.

## Main definitions

- `Site` — where a document has a key
- `Site.Found` — the lines are read as the document has them
- `SetAsClaimed` — the edit changes one place, can be repeated, and sets the key of a document

## Main results

- `set_toml_bool_exact` — when both values are set as claimed
-/

namespace WayfinderRouter.Config

open Toml.Statements Lines

/-- A bare header of a table of the root, with any spacing and a comment. -/
inductive IsTableHeader (table : List Char) : List Char → Prop where
  | intro {s s₁ s₂ s₃ c : List Char} (hs : IsBlank s) (h₁ : IsBlank s₁) (h₂ : IsBlank s₂)
      (h₃ : IsBlank s₃) (hc : IsComment c) :
      IsTableHeader table (s ++ '[' :: (s₁ ++ table ++ s₂ ++ ']' :: (s₃ ++ c)))

/-- An assignment of a boolean to a bare key, with any spacing and a comment. -/
inductive IsAssignment (key : List Char) (value : Bool) : List Char → Prop where
  | intro {s s₁ s₂ s₃ c : List Char} (hs : IsBlank s) (h₁ : IsBlank s₁) (h₂ : IsBlank s₂)
      (h₃ : IsBlank s₃) (hc : IsComment c) :
      IsAssignment key value (s ++ key ++ s₁ ++ '=' :: (s₂ ++ boolText value ++ (s₃ ++ c)))

/-- Where a document has the key: at an assignment, below the header of the table, or not. -/
inductive Site (V : Type) where
  | atKey (before : List (Item V)) (item : Item V) (after : List (Item V))
  | atHeader (before : List (Item V)) (item : Item V) (after : List (Item V))
  | missing

/-- The site of the key of the table. -/
inductive IsSite {V : Type} (g : Syntax V) (table key : List Char) (items : List (Item V))
    (t : TableTree V) : Site V → Prop where
  | atKey {front mid after : List (Item V)} {header item : Item V} {value : Bool}
      (hitems : items = front ++ header :: (mid ++ item :: after))
      (hheader : IsTableHeader table header.body)
      (hopens : header.statement = .table [] (String.ofList table))
      (hmid : ∀ item ∈ mid, ¬item.statement.IsHeader)
      (hitem : IsAssignment key value item.body)
      (hassigns : item.statement = .assign [] (String.ofList key) (g.boolean value)) :
      IsSite g table key items t (.atKey (front ++ header :: mid) item after)
  | atHeader {before after : List (Item V)} {item : Item V}
      (hitems : items = before ++ item :: after)
      (hheader : IsTableHeader table item.body)
      (hopens : item.statement = .table [] (String.ofList table))
      (hkey : t (keyPath (String.ofList table) (String.ofList key)) = none) :
      IsSite g table key items t (.atHeader before item after)
  | missing (htable : t [.key (String.ofList table)] = none) : IsSite g table key items t .missing

namespace Site

variable {V : Type}

/-- What is on the lines of the document after the edit at its site. -/
def edited (text table key : List Char) (value : Bool) : Site V → List (List Char)
  | .atKey before item after =>
    bodies (itemsText before) ++
      (indentation item.body ++ assignment key value) :: bodies (itemsText after)
  | .atHeader before item after =>
    bodies (itemsText before) ++ bodies item.text ++
      assignment key value :: bodies (itemsText after)
  | .missing => bodies text ++ [[], '[' :: table ++ [']'], assignment key value]

/-- The lines are read as the document has them: the first line that is read as an assignment is
the site, or the last one that is read as a header. -/
def Found (text table key : List Char) : Site V → Prop
  | .atKey before _ _ =>
    sectionAfter (split (itemsText before)) = table ∧
      Unassigned table key (split (itemsText before))
  | .atHeader _ item after =>
    Heads table item.text ∧ (∀ line ∈ split (itemsText after), ¬Heads table line) ∧
      Unassigned table key (split text)
  | .missing => ∀ line ∈ split text, ¬Heads table line

end Site

/-- The edited text is that of a document in which the key has the value. -/
def Edits {V : Type} (g : Syntax V) (text table key : List Char) (value : Bool) : Prop :=
  ∃ items t, IsDocument g items ∧ itemsText items = setTomlBool text table key value ∧
    denote (items.map Item.statement) = some t ∧
    t (keyPath (String.ofList table) (String.ofList key)) = some (.value (g.boolean value))

/-- The edit changes the lines as it should, can be repeated, and sets the key of a document. -/
structure SetAsClaimed {V : Type} (g : Syntax V) (text table key : List Char) (value : Bool) :
    Prop where
  framed : Framed text table key value
  again (value' : Bool) :
    bodies (setTomlBool (setTomlBool text table key value) table key value') =
      bodies (setTomlBool text table key value')
  sets {items : List (Item V)} {t : TableTree V} {site : Site V} (hitems : IsDocument g items)
    (htext : itemsText items = text) (ht : denote (items.map Item.statement) = some t)
    (hsite : IsSite g table key items t site) :
    bodies (setTomlBool text table key value) = site.edited text table key value ∧
      Edits g text table key value

section Exact

variable {V : Type} {g : Syntax V} {text table key : List Char} {items : List (Item V)}
  {t : TableTree V} {site : Site V}

theorem isWhitespace_of_blank {s : List Char} (h : IsBlank s) :
    ∀ c ∈ s, isWhitespace c ∧ c ≠ '\n' := by
  intro c hc
  rcases h c hc with rfl | rfl <;> decide

theorem newline_notMem_boolText (value : Bool) : '\n' ∉ boolText value := by
  cases value <;> decide

theorem IsTableHeader.newline_notMem (htable : IsBare table) {body : List Char}
    (h : IsTableHeader table body) : '\n' ∉ body := by
  obtain ⟨hs, h₁, h₂, h₃, hc⟩ := h
  simp [hs.newline_notMem, h₁.newline_notMem, h₂.newline_notMem, h₃.newline_notMem,
    hc.newline_notMem, newline_notMem_of_bare htable]

theorem IsAssignment.newline_notMem (hkey : IsBare key) {value : Bool} {body : List Char}
    (h : IsAssignment key value body) : '\n' ∉ body := by
  obtain ⟨hs, h₁, h₂, h₃, hc⟩ := h
  simp [hs.newline_notMem, h₁.newline_notMem, h₂.newline_notMem, h₃.newline_notMem,
    hc.newline_notMem, newline_notMem_of_bare hkey, newline_notMem_boolText]

theorem IsTableHeader.ne_nil {body : List Char} (h : IsTableHeader table body) : body ≠ [] := by
  obtain ⟨-, -, -, -, -⟩ := h
  simp

theorem IsAssignment.ne_nil {value : Bool} {body : List Char}
    (h : IsAssignment key value body) : body ≠ [] := by
  obtain ⟨-, -, -, -, -⟩ := h
  simp

/-- The line of an assignment is read as one. -/
theorem IsAssignment.assigns (hkey : IsBare key) {value : Bool} {body : List Char}
    (h : IsAssignment key value body) (newline : List Char) : Assigns key (body ++ newline) := by
  obtain ⟨hs, h₁, h₂, h₃, hc⟩ := h
  rw [List.append_assoc, List.cons_append]
  exact assigns_of_bare hkey (fun c hc => (isWhitespace_of_blank hs c hc).1)
    (fun c hc => (isWhitespace_of_blank h₁ c hc).1) _

/-- The blanks in front of an assignment stay, and the line is one of the document again. -/
theorem IsAssignment.indentation (hkey : IsBare key) {value : Bool} {body : List Char}
    (h : IsAssignment key value body) (newline : List Char) :
    IsBlank (indentation body) ∧ indentation (body ++ newline) = Config.indentation body := by
  obtain @⟨s, s₁, s₂, s₃, c, hs, h₁, h₂, h₃, hc⟩ := h
  have hindent := indentation_of_bare hkey (isWhitespace_of_blank hs)
  constructor
  · rw [List.append_assoc (s ++ key), hindent]
    exact hs
  · rw [List.append_assoc (s ++ key), List.append_assoc (s ++ key), hindent, hindent]

/-- The text of an item on one line. -/
theorem split_item {item : Item V} (hbody : '\n' ∉ item.body) (hne : item.body ≠ [])
    (hend : item.newline = [] ∨ item.newline = ['\n'] ∨ item.newline = ['\r', '\n']) :
    split item.text = [item.text] := by
  rcases hend with hend | hend | hend
  · rw [Item.text, hend, List.append_nil, split_last hne hbody]
  · rw [Item.text, hend, split_line hbody]
    rfl
  · have htext : item.text = (item.body ++ ['\r']) ++ ['\n'] := by
      rw [Item.text, hend, List.append_assoc]
      rfl
    rw [htext, split_line (List.not_mem_append hbody (by decide))]
    rfl

theorem lineEnd_items {items : List (Item V)} (h : ∀ item ∈ items, item.IsLine g) :
    lineEnd (itemsText items) = [] := by
  induction items with
  | nil => rfl
  | cons item items ih =>
    rw [List.forall_mem_cons] at h
    obtain ⟨text, hend⟩ := h.1.ends
    rw [itemsText_cons]
    by_cases hnil : itemsText items = []
    · rw [hnil, List.append_nil, hend, lineEnd_terminated]
    · rw [lineEnd_append _ hnil, ih h.2]

/-- The lines of a document with an item on one line. -/
theorem split_document {before after : List (Item V)} {item : Item V}
    (h : IsDocument g (before ++ item :: after)) (hbody : '\n' ∉ item.body)
    (hne : item.body ≠ []) :
    split (itemsText (before ++ item :: after)) =
        split (itemsText before) ++ item.text :: split (itemsText after) ∧
      split item.text = [item.text] := by
  obtain ⟨hbefore, -, -, hitem⟩ := h.split
  have hline : split item.text = [item.text] := by
    refine split_item hbody hne ?_
    rcases hitem with hitem | ⟨-, hend⟩
    · exact .inr hitem.newline
    · exact .inl hend
  refine ⟨?_, hline⟩
  rw [itemsText_append, itemsText_cons, split_append (lineEnd_items hbefore)]
  rcases hitem with hitem | ⟨rfl, -⟩
  · obtain ⟨text, hend⟩ := hitem.ends
    rw [split_append (hend ▸ lineEnd_terminated text), hline]
    rfl
  · show split (itemsText before) ++ split (item.text ++ []) = _
    rw [List.append_nil, hline]
    rfl

/-- When the edits are those of the document, the lines are read as the document has them. -/
theorem found_of_edited (htable : IsBare table) (hkey : IsBare key)
    (hcourse : Course text table key) (hitems : IsDocument g items)
    (htext : itemsText items = text) (hsite : IsSite g table key items t site)
    (h : ∀ value, bodies (setTomlBool text table key value) =
      site.edited text table key value) : site.Found text table key := by
  cases hsite with
  | @atKey front mid after header item value hshape hheader hopens hmid hitem hassigns =>
    have hshape' : items = (front ++ header :: mid) ++ item :: after := by rw [hshape]; simp
    rw [hshape'] at hitems htext
    obtain ⟨hsplit, -⟩ := split_document hitems (hitem.newline_notMem hkey) hitem.ne_nil
    exact assigned_of_bodies htable hkey hcourse (htext ▸ hsplit) _ h
  | @atHeader before after item hshape hheader hopens hkey' =>
    rw [hshape] at hitems htext
    obtain ⟨hsplit, hline⟩ := split_document hitems (hheader.newline_notMem htable) hheader.ne_nil
    refine headed_of_bodies htable hkey hcourse (htext ▸ hsplit) fun value => ?_
    rw [h value]
    show bodies (itemsText before) ++ (split item.text).map bodyOf ++ _ = _
    rw [hline, List.append_assoc]
    rfl
  | missing hnone => exact missing_of_bodies hkey hcourse (h true)

/-- The expression of an assignment that the edit writes. -/
theorem isExpression_assignment (hkey : IsBare key) {s : List Char} (hs : IsBlank s)
    (value : Bool) :
    IsExpression g (s ++ assignment key value)
      (.assign [] (String.ofList key) (g.boolean value)) := by
  have hblank : IsBlank [' '] := List.forall_mem_singleton.mpr (.inl rfl)
  have hnil : IsBlank [] := fun _ h => absurd h List.not_mem_nil
  have h := IsExpression.assign hs (.last (.bare hkey)) hblank hblank
    ((g.spells_boolean _ value).mpr rfl) hnil .none
  have htext : s ++ assignment key value =
      s ++ key ++ [' '] ++ '=' :: ([' '] ++ boolText value ++ ([] ++ [])) := by
    simp [assignment]
  exact htext ▸ h

/-- The item of an assignment that the edit writes. -/
def newItem (g : Syntax V) (s key : List Char) (value : Bool) : Item V :=
  ⟨s ++ assignment key value, ['\n'], .assign [] (String.ofList key) (g.boolean value)⟩

theorem isLine_newItem (hkey : IsBare key) {s : List Char} (hs : IsBlank s) (value : Bool) :
    (newItem g s key value).IsLine g :=
  ⟨isExpression_assignment hkey hs value, .inl rfl⟩

theorem denote_eq_some {statements : List (Statement V)} {t : TableTree V} :
    denote statements = some t ↔ ∃ s, run statements (fun _ => none, []) = some s ∧ s.1 = t :=
  Option.map_eq_some_iff

theorem itemsText_newItem (s key : List Char) (value : Bool) :
    itemsText [newItem g s key value] = [s ++ assignment key value ++ ['\n']].flatten := by
  simp [itemsText, Item.text, newItem]

theorem flatten_middle (before after : List Char) (lines : List (List Char)) :
    (split before ++ (lines ++ split after)).flatten = before ++ (lines.flatten ++ after) := by
  rw [List.flatten_append, List.flatten_append, flatten_split, flatten_split]

/-- The value of a key is replaced. -/
theorem edits_atKey (hkey : IsBare key) {front mid after : List (Item V)} {header item : Item V}
    {old : Bool} (hitems : IsDocument g ((front ++ header :: mid) ++ item :: after))
    (hopens : header.statement = .table [] (String.ofList table))
    (hmid : ∀ item ∈ mid, ¬item.statement.IsHeader) (hitem : IsAssignment key old item.body)
    (hassigns : item.statement = .assign [] (String.ofList key) (g.boolean old))
    (ht : denote (((front ++ header :: mid) ++ item :: after).map Item.statement) = some t)
    (htext : itemsText ((front ++ header :: mid) ++ item :: after) = text)
    (hfound : (Site.atKey (front ++ header :: mid) item after).Found text table key)
    (value : Bool) :
    bodies (setTomlBool text table key value) =
        (Site.atKey (front ++ header :: mid) item after).edited text table key value ∧
      Edits g text table key value := by
  obtain ⟨hsection, hfirst⟩ := hfound
  obtain ⟨hsplit, -⟩ := split_document hitems (hitem.newline_notMem hkey) hitem.ne_nil
  rw [htext] at hsplit
  have hline : Assigns key item.text := hitem.assigns hkey item.newline
  obtain ⟨hblank, hindent⟩ := hitem.indentation hkey item.newline
  have hstatements : ∀ i : Item V, ((front ++ header :: mid) ++ i :: after).map Item.statement =
      front.map Item.statement ++ header.statement ::
        (mid.map Item.statement ++ i.statement :: after.map Item.statement) := by
    intro i
    simp
  obtain ⟨s, hrun, -⟩ := denote_eq_some.mp ht
  rw [hstatements, hopens, hassigns] at hrun
  obtain ⟨r, hrun', hvalue⟩ :=
    run_reassign (List.forall_mem_map.mpr hmid) hrun (g.boolean value)
  constructor
  · rw [bodies_assigned hkey hsplit hsection hline hfirst, Item.text, hindent]
    rfl
  · refine ⟨(front ++ header :: mid) ++ ([newItem g (indentation item.body) key value] ++ after),
      r.1, ?_, ?_, ?_, hvalue⟩
    · exact hitems.replace (List.forall_mem_singleton.mpr (isLine_newItem hkey hblank value))
    · rw [setTomlBool_assigned hsplit hsection hline hfirst,
        itemsText_append (front ++ header :: mid), itemsText_append [newItem _ _ _ _],
        itemsText_newItem, Item.text, hindent]
      exact (flatten_middle _ _ [indentation item.body ++ assignment key value ++ ['\n']]).symm
    · refine denote_eq_some.mpr ⟨r, ?_, rfl⟩
      rw [List.singleton_append, hstatements, hopens]
      exact hrun'

/-- A line is inserted below the header of the table. -/
theorem edits_atHeader (htable : IsBare table) (hkey : IsBare key)
    {before after : List (Item V)} {item : Item V} (hmerges : ¬Merges text table key)
    (hitems : IsDocument g (before ++ item :: after)) (hheader : IsTableHeader table item.body)
    (hopens : item.statement = .table [] (String.ofList table))
    (hnew : t (keyPath (String.ofList table) (String.ofList key)) = none)
    (ht : denote ((before ++ item :: after).map Item.statement) = some t)
    (htext : itemsText (before ++ item :: after) = text)
    (hfound : (Site.atHeader before item after).Found text table key) (value : Bool) :
    bodies (setTomlBool text table key value) =
        (Site.atHeader before item after).edited text table key value ∧
      Edits g text table key value := by
  obtain ⟨hheads, hlast, hnone⟩ := hfound
  have hbody := hheader.newline_notMem htable
  obtain ⟨hsplit, hline⟩ := split_document hitems hbody hheader.ne_nil
  rw [htext] at hsplit
  -- A last line without an end would be merged with the assignment.
  have hitem : item.IsLine g := by
    obtain ⟨-, -, -, hitem | ⟨rfl, hend⟩⟩ := hitems.split
    · exact hitem
    · refine absurd ⟨split (itemsText before), item.text, hsplit, hheads, ?_, hnone⟩ hmerges
      rw [Item.text, hend, List.append_nil]
      exact hbody
  have hend : Terminated item.text := by
    rcases (areLines_split item.text).mem item.text (by rw [hline]; exact List.mem_singleton_self _)
      with hend | hend
    · exact hend
    · obtain ⟨text, htext⟩ := hitem.ends
      rw [htext] at hend
      exact absurd (List.mem_append_right _ List.mem_cons_self) hend
  obtain ⟨s, hrun, rfl⟩ := denote_eq_some.mp ht
  have hstatements : ∀ items : List (Item V),
      (before ++ ((item :: items) ++ after)).map Item.statement =
        before.map Item.statement ++ .table [] (String.ofList table) ::
          (items.map Item.statement ++ after.map Item.statement) := by
    intro items
    simp [hopens]
  obtain ⟨r, hrun', hvalue⟩ := run_assign_new ((hstatements []).symm ▸ hrun) hnew
    (g.boolean value)
  constructor
  · rw [bodies_headed hkey hsplit hend hheads hlast hnone]
    show _ = bodies (itemsText before) ++ (split item.text).map bodyOf ++ _
    rw [hline, List.append_assoc]
    rfl
  · refine ⟨before ++ ([item, newItem g [] key value] ++ after), r.1, ?_, ?_, ?_, hvalue⟩
    · exact hitems.replace (List.forall_mem_cons.mpr ⟨hitem, List.forall_mem_singleton.mpr
        (isLine_newItem hkey (fun _ h => absurd h List.not_mem_nil) value)⟩)
    · have hnewtext : itemsText [item, newItem g [] key value] =
          [item.text, assignment key value ++ ['\n']].flatten := by
        rw [itemsText_cons, itemsText_newItem]
        simp
      rw [setTomlBool_headed hsplit hheads hlast hnone, itemsText_append before,
        itemsText_append [item, _], hnewtext]
      exact (flatten_middle _ _ [item.text, assignment key value ++ ['\n']]).symm
    · exact denote_eq_some.mpr ⟨r, (hstatements _).symm ▸ hrun', rfl⟩

/-- A section is appended. -/
theorem edits_missing (htable : IsBare table) (hkey : IsBare key)
    (hitems : IsDocument g items) (hnew : t [.key (String.ofList table)] = none)
    (ht : denote (items.map Item.statement) = some t) (htext : itemsText items = text)
    (hfound : (Site.missing : Site V).Found text table key) (value : Bool) :
    bodies (setTomlBool text table key value) =
        (Site.missing : Site V).edited text table key value ∧
      Edits g text table key value := by
  refine ⟨bodies_missing htable hkey hfound value, ?_⟩
  obtain ⟨items', hlines, hstatements, htext'⟩ := hitems.complete
  obtain ⟨s, hrun, rfl⟩ := denote_eq_some.mp ht
  obtain ⟨r, hrun', hvalue⟩ := run_append_table rooted_empty hrun hnew (g.boolean value)
  have hnil : IsBlank [] := fun _ h => absurd h List.not_mem_nil
  have hheader : IsExpression g ('[' :: table ++ [']']) (.table [] (String.ofList table)) := by
    have h : IsExpression g ([] ++ '[' :: ([] ++ table ++ [] ++ ']' :: ([] ++ [])))
        (.table [] (String.ofList table)) :=
      .table hnil hnil (.last (.bare htable)) hnil hnil .none
    simpa using h
  have hsection : ∀ item ∈ [⟨[], ['\n'], .blank⟩,
      ⟨'[' :: table ++ [']'], ['\n'], .table [] (String.ofList table)⟩,
      newItem g [] key value], item.IsLine g := by
    simp only [List.forall_mem_cons]
    exact ⟨⟨.blank hnil .none, .inl rfl⟩, ⟨hheader, .inl rfl⟩, isLine_newItem hkey hnil value,
      fun _ h => absurd h List.not_mem_nil⟩
  refine ⟨items' ++ [⟨[], ['\n'], .blank⟩,
    ⟨'[' :: table ++ [']'], ['\n'], .table [] (String.ofList table)⟩,
    newItem g [] key value], r.1, ?_, ?_, ?_, hvalue⟩
  · have h := IsDocument.lines (List.forall_mem_append.mpr ⟨hlines, hsection⟩) .nil
    rwa [List.append_nil] at h
  · rw [setTomlBool_missing htable.1 hfound, itemsText_append, htext', htext]
    simp [itemsText, Item.text, newItem]
  · refine denote_eq_some.mpr ⟨r, ?_, rfl⟩
    rw [List.map_append, hstatements]
    exact hrun'

end Exact

/-- Documents of booleans and bare keys. -/
def booleanSyntax : Syntax Bool where
  quoted _ _ := False
  spells text value := text = boolText value
  boolean := id
  spells_boolean _ _ := Iff.rfl
  spells_last := by
    rintro _ value rfl
    cases value <;> exact ⟨'e', rfl, by decide⟩

theorem isBare_gateway : IsBare "gateway".toList :=
  ⟨by decide, List.forall_iff_forall_mem.mp (by decide)⟩

theorem isBare_offline : IsBare "offline".toList :=
  ⟨by decide, List.forall_iff_forall_mem.mp (by decide)⟩

/-- A header with a comment is not found, and the table is opened again. -/
example : setTomlBool "[gateway] # on\n".toList "gateway".toList "offline".toList true =
    "[gateway] # on\n\n[gateway]\noffline = true\n".toList := by decide

end WayfinderRouter.Config
