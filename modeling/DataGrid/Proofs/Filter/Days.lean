import DataGrid.Proofs.Calendar.Spellings
import DataGrid.Proofs.Filter.Operators

/-!
# Endpoints of date filters

An endpoint becomes the text of the day it names. This text is an endpoint again and stays as it is,
and all spellings of one day become the same text: filters in which days are spelled differently
are compiled to the same condition.

## Main definitions

* `DataGrid.Day.Spells` — a text spells a day, with any blanks around it.
* `DataGrid.FilterNode.SameDays` — filter trees that differ at most in the spellings of days.

## Main results

* `DataGrid.Day.endpoints_normalized` — endpoints are normalized, and filters depend on their days
  alone.
-/

namespace DataGrid

open Sql

/-! ## Spellings as endpoints -/

/-- A text is a spelling of a day with any blanks around it. -/
def Day.Spells (d : Day) (s : String) : Prop := ∃ cs, d.IsSpelling cs ∧ Text.Surrounds s cs

/-- Endpoints that are the same or spell one day. -/
inductive SameEndpoint : Option String → Option String → Prop
  | same (given : Option String) : SameEndpoint given given
  | spelled {d : Day} {s s' : String} (h : d.Spells s) (h' : d.Spells s') :
    SameEndpoint (some s) (some s')

/-- What is read as a day becomes the text of this day. -/
lemma dateOperand_of_read? {s : String} {d : Day} (h : Day.read? s = some d) (column : String)
    (operand : Operand) : dateOperand column operand (some s) = .ok d.text :=
  dateOperand_eq_ok.mpr ⟨s, d, rfl, h, rfl⟩

/-- A spelling is read as its day. -/
lemma Day.Spells.read?_eq {d : Day} {s : String} (h : d.Spells s) : read? s = some d := by
  obtain ⟨cs, hcs, hs⟩ := h
  exact hcs.read?_eq hs

/-- Endpoints that spell one day become the same text. -/
lemma SameEndpoint.dateOperand_eq {given given' : Option String} (h : SameEndpoint given given')
    (column : String) (operand : Operand) :
    dateOperand column operand given = dateOperand column operand given' := by
  cases h with
  | same => rfl
  | spelled h h' => rw [dateOperand_of_read? h.read?_eq, dateOperand_of_read? h'.read?_eq]

/-! ## Filters -/

/-- Leaf filters that differ at most in the spellings of their endpoints. -/
inductive LeafFilter.SameDays : LeafFilter → LeafFilter → Prop
  | mk (f : LeafFilter) {start stop start' stop' : Option String}
    (hstart : SameEndpoint start start') (hstop : SameEndpoint stop stop') :
    SameDays { f with dateFrom := start, dateTo := stop }
      { f with dateFrom := start', dateTo := stop' }

mutual

/-- Filter trees that differ at most in the spellings of the days in their leaves. -/
inductive FilterNode.SameDays : FilterNode → FilterNode → Prop
  | leaf {f g : LeafFilter} (h : f.SameDays g) : SameDays (.leaf f) (.leaf g)
  | group (operator : String) {nodes nodes' : List FilterNode} (h : SameDaysEach nodes nodes') :
    SameDays (.group operator nodes) (.group operator nodes')

/-- Trees that differ so one by one. -/
inductive FilterNode.SameDaysEach : List FilterNode → List FilterNode → Prop
  | nil : SameDaysEach [] []
  | cons {node node' : FilterNode} {rest rest' : List FilterNode} (h : SameDays node node')
    (hrest : SameDaysEach rest rest') : SameDaysEach (node :: rest) (node' :: rest')

end

/-- A date filter depends on its endpoints only through what they become. -/
lemma LeafFilter.compileDate_congr (f : LeafFilter) {p : ColumnPath}
    {start stop start' stop' : Option String}
    (hstart : dateOperand p.id .dateFrom start = dateOperand p.id .dateFrom start')
    (hstop : dateOperand p.id .dateTo stop = dateOperand p.id .dateTo stop') (label : String) :
    compileDate { f with dateFrom := start, dateTo := stop } p label =
      compileDate { f with dateFrom := start', dateTo := stop' } p label := by
  simp only [compileDate, compareDate, operatorTag, hstart, hstop]

/-- Leaves with the same days compile to the same condition, whatever their kind is. -/
lemma LeafFilter.SameDays.compile_eq {f g : LeafFilter} (h : f.SameDays g) (p : ColumnPath)
    (label : String) : f.compile p label = g.compile p label := by
  obtain ⟨f, hstart, hstop⟩ := h
  have hdate := compileDate_congr f (hstart.dateOperand_eq p.id .dateFrom)
    (hstop.dateOperand_eq p.id .dateTo) label
  unfold compile
  refine bind_congr fun kind => ?_
  cases kind with
  | set | text | number => rfl
  | date => exact hdate

namespace FilterNode

variable (p : ColumnPath) (label : String)

mutual

/-- Trees with the same days compile to the same condition. -/
lemma SameDays.compile_eq {node node' : FilterNode} (h : SameDays node node') :
    node.compile p label = node'.compile p label := by
  cases h with
  | leaf h => rw [compile, compile, h.compile_eq]
  | group operator h =>
    rw [compile, compile]
    simp only [h.compileInto_eq]

/-- So do lists of trees, put into one group. -/
lemma SameDaysEach.compileInto_eq {nodes nodes' : List FilterNode} (h : SameDaysEach nodes nodes')
    (group : Condition) : compileInto p label group nodes = compileInto p label group nodes' := by
  cases h with
  | nil => rfl
  | cons h hrest =>
    rw [compileInto, compileInto, h.compile_eq]
    simp only [hrest.compileInto_eq]

end

/-- The spelling of days does not decide whether a tree selects missing values. -/
lemma SameDays.selectsNull_eq {node node' : FilterNode} (h : SameDays node node') :
    node.selectsNull = node'.selectsNull := by
  cases h with
  | leaf h => cases h; rfl
  | group operator h => rfl

/-- Through relations, trees with the same days put the same condition on the subject. -/
lemma SameDays.entry_eq {node node' : FilterNode} (h : SameDays node node') (p : ColumnPath)
    (base : String) : node.entry p base = node'.entry p base := by
  rw [entry, entry, h.compile_eq, h.selectsNull_eq]

end FilterNode

/-- **Endpoints of date filters are normalized to days.** Whatever is read as a day becomes the text
of this day, which is read as the same day and stays as it is. All spellings of a day, alone, with
a time of day, or as a timestamp with an offset, become this one text: the time and the offset
never move the day. Filters that differ only in such spellings compile to the same condition, on
the table of the column and through relations.

**Proof sketch.** Each reader takes the day off the front of a text before it looks at the rest, so
that no reader can read a spelling as another day than the reader it belongs to. A filter uses its
endpoints only through the texts they become. -/
theorem Day.endpoints_normalized (column : String) (operand : Operand) :
    (∀ s d, read? s = some d → dateOperand column operand (some s) = .ok d.text ∧
      read? d.text = some d ∧ dateOperand column operand (some d.text) = .ok d.text) ∧
    (∀ d s, Spells d s → dateOperand column operand (some s) = .ok d.text) ∧
    ∀ node node' : FilterNode, node.SameDays node' → ∀ p base,
      (∀ label, node.compile p label = node'.compile p label) ∧
        node.entry p base = node'.entry p base := by
  refine ⟨fun s d hread => ?_, fun d s hs => ?_, fun node node' h p base => ?_⟩
  · exact ⟨dateOperand_of_read? hread column operand, read?_text d,
      dateOperand_of_read? (read?_text d) column operand⟩
  · exact dateOperand_of_read? hs.read?_eq column operand
  · exact ⟨fun label => h.compile_eq p label, h.entry_eq p base⟩

/-- A leap day: with a time of day and blanks around it, and as a timestamp that is still the day
before in universal time. -/
theorem Day.endpoints_normalized_leap_day :
    (dateOperand "last_vaccinated_on" .dateFrom (some "2024- 02-29") = .ok "2024-02-29" ∧
      dateOperand "last_vaccinated_on" .dateFrom (some "2024-02-29") = .ok "2024-02-29") ∧
    dateOperand "last_vaccinated_on" .dateFrom (some "\u2003 2024-02-29 23:59:60\n") =
      .ok "2024-02-29" ∧
    dateOperand "last_vaccinated_on" .dateFrom (some "2024-02-29T00:30:00.125+14:00") =
      .ok "2024-02-29" ∧
    (FilterNode.leaf
      { filterType := "date", operator := some "inRange",
        dateFrom := some "\u2003 2024-02-29 23:59:60\n", dateTo := some "2024-03-01" }).entry
      ⟨"last_vaccinated_on", [], "last_vaccinated_on", [], .date⟩ "flamingos" =
    (FilterNode.leaf
      { filterType := "date", operator := some "inRange",
        dateFrom := some "2024-02-29T00:30:00.125+14:00", dateTo := some "2024-03-01" }).entry
      ⟨"last_vaccinated_on", [], "last_vaccinated_on", [], .date⟩ "flamingos" := by
  obtain ⟨hread, hspelled, hcompiled⟩ := endpoints_normalized "last_vaccinated_on" .dateFrom
  have hleap : Spells ⟨2024, 2, 29, by decide, by decide⟩ "\u2003 2024-02-29 23:59:60\n" :=
    ⟨_, .withTime (rfl : isTime 23 59 60 = true), ['\u2003', ' '], ['\n'], by decide, by decide,
      rfl⟩
  have hstamp : Spells ⟨2024, 2, 29, by decide, by decide⟩ "2024-02-29T00:30:00.125+14:00" := by
    refine ⟨_, .timestamp (by decide) (.inl rfl) (rfl : isTime 0 30 0 = true)
      (.written (areDigits_natDigits 125) (natDigits_ne_nil 125))
      (.shifted (.inl rfl) (by decide : 14 ≤ 23) (by decide : 0 ≤ 59)), [], [], ?_, ?_, rfl⟩
    · exact List.forall_mem_nil _
    · exact List.forall_mem_nil _
  have hloose : read? "2024- 02-29" = some ⟨2024, 2, 29, by decide, by decide⟩ := by decide +kernel
  obtain ⟨hfirst, -, hagain⟩ := hread _ _ hloose
  have hnodes := hcompiled _ _ (.leaf (.mk { filterType := "date", operator := some "inRange" }
    (.spelled hleap hstamp) (.same (some "2024-03-01"))))
  exact ⟨⟨hfirst, hagain⟩, hspelled _ _ hleap, hspelled _ _ hstamp, (hnodes _ _).2⟩

end DataGrid
