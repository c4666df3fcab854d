import DataGrid.Proofs.Filter.Cells
import Mathlib.Data.List.Infix

/-!
# Patterns that match literally

A text filter looks for its operand by a LIKE pattern. The pattern has wildcards of its own at the
ends, and none that come from the operand: each character of the operand that means something in a
pattern stands behind an escape. What the store finds by such a pattern is therefore the operand
itself, somewhere, at the beginning or at the end of a text.

## Main definitions

* `DataGrid.escapeWildcard` — the escaped spelling of a single character.
* `DataGrid.Sql.PatternItem`, `DataGrid.Sql.patternItems?` — what a LIKE pattern is made of.
* `DataGrid.Sql.matchesItems`, `DataGrid.Sql.matchesFolded` — the texts that a pattern matches.
* `DataGrid.LeafFilter.FindsOperand` — what a text filter finds.

## Main results

* `DataGrid.toList_escapeWildcards` — replacing one special character after the other escapes each
  of them once.
* `DataGrid.Sql.patternItems?_escaped` — an escaped text is read as its characters.
* `DataGrid.Sql.matchesItems_characters`, `DataGrid.Sql.matchesItems_anyMany` — what characters and
  wildcards match, wherever they stand in a pattern.
* `DataGrid.LeafFilter.findsOperand_of_operand` — every text filter with a pattern compiles, and
  finds its operand literally.

## Implementation notes

The store matches without regard to case by folding the case of the pattern and of the text before
it reads the pattern. A folding must not take letters to wildcards or wildcards to anything else.
-/

namespace DataGrid

open Sql

/-! ## Escaping -/

/-- A character as it stands in a LIKE pattern that matches it literally. -/
def escapeWildcard (c : Char) : List Char :=
  if c = '\\' ∨ c = '%' ∨ c = '_' then ['\\', c] else [c]

/-- A replacement goes through a text part by part. -/
lemma replaceChar_flatMap (c : Char) (spelling text : List Char) (f : Char → List Char) :
    replaceChar c spelling (text.flatMap f) = text.flatMap fun d => replaceChar c spelling (f d) :=
  List.flatMap_assoc

/-- What the replacements make of one character: those of the wildcards leave the escapes alone that
have come in before them. -/
lemma replaceChar_singleton (c : Char) :
    replaceChar '_' ['\\', '_']
        (replaceChar '%' ['\\', '%'] (replaceChar '\\' ['\\', '\\'] [c])) =
      escapeWildcard c := by
  by_cases hescape : c = '\\'
  · subst hescape
    rfl
  by_cases hmany : c = '%'
  · subst hmany
    rfl
  by_cases hone : c = '_'
  · subst hone
    rfl
  · simp [replaceChar, escapeWildcard, hescape, hmany, hone]

/-- **The replacements of a text**, made one after the other on the whole of it, come to an escape
in front of each of its characters that means something in a pattern. -/
theorem toList_escapeWildcards (s : String) :
    (escapeWildcards s).toList = s.toList.flatMap escapeWildcard :=
  calc (escapeWildcards s).toList
    _ = replaceChar '_' ['\\', '_'] (replaceChar '%' ['\\', '%']
          (replaceChar '\\' ['\\', '\\'] (s.toList.flatMap fun c => [c]))) := by
        rw [escapeWildcards, String.toList_ofList, List.flatMap_singleton']
    _ = s.toList.flatMap fun c => replaceChar '_' ['\\', '_'] (replaceChar '%' ['\\', '%']
          (replaceChar '\\' ['\\', '\\'] [c])) := by
        simp only [replaceChar_flatMap]
    _ = s.toList.flatMap escapeWildcard := by
        simp only [replaceChar_singleton]

/-- In another order, the escape of a wildcard would be escaped itself and the wildcard set free. -/
example :
    replaceChar '\\' ['\\', '\\'] (replaceChar '%' ['\\', '%'] ['%']) = ['\\', '\\', '%'] := by
  decide

/-! ## LIKE patterns -/

namespace Sql

/-- What a LIKE pattern is made of. -/
inductive PatternItem where
  /-- The character itself. -/
  | character (c : Char)
  /-- Any one character. -/
  | anyOne
  /-- Any characters, or none. -/
  | anyMany
deriving DecidableEq

/-- What a character stands for in a pattern, where no escape comes before it. -/
def PatternItem.ofChar (c : Char) : PatternItem :=
  if c = '%' then .anyMany else if c = '_' then .anyOne else .character c

/-- The items of a pattern, or of what is left of it behind an escape. The character behind an
escape is taken as it is; there are no items if nothing stands there. -/
def patternItems? : (escaped : Bool) → List Char → Option (List PatternItem)
  | false, [] => some []
  | true, [] => none
  | true, c :: rest => (patternItems? false rest).map (.character c :: ·)
  | false, c :: rest =>
    if c = '\\' then patternItems? true rest
    else (patternItems? false rest).map (.ofChar c :: ·)

/-- Whether a text is made of the items, from its beginning to its end. -/
def matchesItems : List PatternItem → List Char → Bool
  | [], text => text.isEmpty
  | .character c :: items, text =>
    match text with
    | [] => false
    | d :: text => d == c && matchesItems items text
  | .anyOne :: items, text =>
    match text with
    | [] => false
    | _ :: text => matchesItems items text
  | .anyMany :: items, text => text.tails.any (matchesItems items)

/-- Whether a text matches a pattern once the case of both is folded. What is no pattern matches
nothing. -/
def matchesFolded (fold : Char → Char) (pattern text : String) : Bool :=
  match patternItems? false (pattern.toList.map fold) with
  | none => false
  | some items => matchesItems items (text.toList.map fold)

/-- A folding of case leaves the characters alone that mean something in a pattern, and makes no
other character one of them. -/
def KeepsWildcards (fold : Char → Char) : Prop :=
  ∀ c w, w = '\\' ∨ w = '%' ∨ w = '_' → (fold c = w ↔ c = w)

/-! ## Reading a pattern -/

/-- A wildcard for any characters is read as such. -/
lemma patternItems?_percent (rest : List Char) :
    patternItems? false ('%' :: rest) = (patternItems? false rest).map (.anyMany :: ·) := rfl

/-- A character behind an escape is read as itself. -/
lemma patternItems?_escape (c : Char) (rest : List Char) :
    patternItems? false ('\\' :: c :: rest) =
      (patternItems? false rest).map (.character c :: ·) := rfl

/-- A character without a meaning in patterns is read as itself. -/
lemma patternItems?_plain {c : Char} (h : ¬ (c = '\\' ∨ c = '%' ∨ c = '_')) (rest : List Char) :
    patternItems? false (c :: rest) = (patternItems? false rest).map (.character c :: ·) := by
  rw [not_or, not_or] at h
  rw [patternItems?, if_neg h.1, PatternItem.ofChar, if_neg h.2.1, if_neg h.2.2]

section

variable {fold : Char → Char} (hfold : KeepsWildcards fold)
include hfold

/-- Wildcards and the escape are left alone by a folding. -/
lemma KeepsWildcards.fold_eq {w : Char} (hw : w = '\\' ∨ w = '%' ∨ w = '_') : fold w = w :=
  (hfold w w hw).mpr rfl

/-- The escaped spelling of one character is read as the character. -/
lemma patternItems?_escapeWildcard (c : Char) (rest : List Char) :
    patternItems? false ((escapeWildcard c).map fold ++ rest) =
      (patternItems? false rest).map (.character (fold c) :: ·) := by
  unfold escapeWildcard
  split
  · next hc =>
    rw [List.map_cons, List.map_cons, List.map_nil, hfold.fold_eq (.inl rfl), hfold.fold_eq hc]
    exact patternItems?_escape c rest
  · next hc =>
    have hplain : ¬ (fold c = '\\' ∨ fold c = '%' ∨ fold c = '_') := by
      rwa [hfold c '\\' (.inl rfl), hfold c '%' (.inr (.inl rfl)), hfold c '_' (.inr (.inr rfl))]
    exact patternItems?_plain hplain rest

/-- **An escaped text** is read as its characters, whatever stands behind it.

**Proof sketch.** Induction on the text. Its characters are escaped one by one, and the spelling of
each of them is read as the character that it is. -/
theorem patternItems?_escaped (text rest : List Char) :
    patternItems? false ((text.flatMap escapeWildcard).map fold ++ rest) =
      (patternItems? false rest).map ((text.map fold).map .character ++ ·) := by
  induction text with
  | nil => simp
  | cons c text ih =>
    rw [List.flatMap_cons, List.map_append, List.append_assoc,
      patternItems?_escapeWildcard hfold, ih, Option.map_map]
    rfl

end

/-! ## Matching -/

/-- Nothing is made of nothing. -/
@[simp] lemma matchesItems_nil {text : List Char} : matchesItems [] text = true ↔ text = [] := by
  rw [matchesItems, List.isEmpty_iff]

/-- Characters match themselves, and the items behind them the rest. -/
lemma matchesItems_characters {part text : List Char} {items : List PatternItem} :
    matchesItems (part.map .character ++ items) text = true ↔
      ∃ rest, text = part ++ rest ∧ matchesItems items rest = true := by
  induction part generalizing text with
  | nil => simp
  | cons c part ih =>
    rw [List.map_cons, List.cons_append]
    cases text with
    | nil => simp [matchesItems]
    | cons d text =>
      rw [matchesItems, Bool.and_eq_true, beq_iff_eq, ih]
      constructor
      · rintro ⟨rfl, rest, rfl, hrest⟩
        exact ⟨rest, rfl, hrest⟩
      · rintro ⟨rest, heq, hrest⟩
        obtain ⟨rfl, rfl⟩ := List.cons.inj heq
        exact ⟨rfl, rest, rfl, hrest⟩

/-- A wildcard for any characters leaves some end of the text to the items behind it. -/
lemma matchesItems_anyMany {text : List Char} {items : List PatternItem} :
    matchesItems (.anyMany :: items) text = true ↔
      ∃ front rest, text = front ++ rest ∧ matchesItems items rest = true := by
  rw [matchesItems, List.any_eq_true]
  constructor
  · rintro ⟨rest, hmem, hrest⟩
    obtain ⟨front, rfl⟩ := (List.mem_tails rest text).mp hmem
    exact ⟨front, rest, rfl, hrest⟩
  · rintro ⟨front, rest, rfl, hrest⟩
    exact ⟨rest, (List.mem_tails rest _).mpr (List.suffix_append front rest), hrest⟩

/-- A wildcard for any characters matches what is left of a text. -/
lemma matchesItems_anyMany_nil (text : List Char) : matchesItems [.anyMany] text = true :=
  matchesItems_anyMany.mpr ⟨text, [], (List.append_nil text).symm, rfl⟩

/-- Characters with a wildcard behind them match the texts that begin with them. -/
lemma matchesItems_prefix {part text : List Char} :
    matchesItems (part.map .character ++ [.anyMany]) text = true ↔ part <+: text := by
  rw [matchesItems_characters]
  constructor
  · rintro ⟨rest, rfl, -⟩
    exact List.prefix_append part rest
  · rintro ⟨rest, rfl⟩
    exact ⟨rest, rfl, matchesItems_anyMany_nil rest⟩

/-- Characters with a wildcard in front of them match the texts that end with them. -/
lemma matchesItems_suffix {part text : List Char} :
    matchesItems (.anyMany :: part.map .character) text = true ↔ part <:+ text := by
  have hwhole : ∀ rest, matchesItems (part.map .character) rest = true ↔ rest = part := by
    intro rest
    rw [← List.append_nil (part.map PatternItem.character), matchesItems_characters]
    simp
  rw [matchesItems_anyMany]
  constructor
  · rintro ⟨front, rest, rfl, hrest⟩
    rw [(hwhole rest).mp hrest]
    exact List.suffix_append front part
  · rintro ⟨front, rfl⟩
    exact ⟨front, part, rfl, (hwhole part).mpr rfl⟩

/-- Characters between wildcards match the texts that contain them. -/
lemma matchesItems_infix {part text : List Char} :
    matchesItems (.anyMany :: (part.map .character ++ [.anyMany])) text = true ↔
      part <:+: text := by
  rw [matchesItems_anyMany]
  constructor
  · rintro ⟨front, rest, rfl, hrest⟩
    obtain ⟨back, rfl⟩ := matchesItems_prefix.mp hrest
    exact ⟨front, back, List.append_assoc front part back⟩
  · rintro ⟨front, back, rfl⟩
    exact ⟨front, part ++ back, List.append_assoc front part back,
      matchesItems_prefix.mpr (List.prefix_append part back)⟩

/-- A pattern with items matches what its items match. -/
lemma matchesFolded_of_items {fold : Char → Char} {pattern : String} {items : List PatternItem}
    (h : patternItems? false (pattern.toList.map fold) = some items) (text : String) :
    matchesFolded fold pattern text = matchesItems items (text.toList.map fold) := by
  rw [matchesFolded, h]

end Sql

/-! ## Patterns of operators -/

namespace TextOperator

/-- The pattern by which an operator looks for a text, if it is one of those that do. -/
def pattern? (value : String) : TextOperator → Option String
  | .contains | .notContains => some ("%" ++ escapeWildcards value ++ "%")
  | .startsWith => some (escapeWildcards value ++ "%")
  | .endsWith => some ("%" ++ escapeWildcards value)
  | .equals | .notEqual | .blank | .notBlank => none

/-- Where an operator with a pattern looks for a part of a text. -/
def LooksFor (part text : List Char) : TextOperator → Prop
  | .contains | .notContains => part <:+: text
  | .startsWith => part <+: text
  | .endsWith => part <:+ text
  | .equals | .notEqual | .blank | .notBlank => False

/-- **The pattern of an operator** can be read, and its items match the texts that have the operand
where the operator looks for it. -/
theorem exists_items {fold : Char → Char} (hfold : KeepsWildcards fold) {operator : TextOperator}
    {value pattern : String} (h : operator.pattern? value = some pattern) :
    ∃ items, patternItems? false (pattern.toList.map fold) = some items ∧
      ∀ text, matchesItems items text = true ↔ operator.LooksFor (value.toList.map fold) text := by
  have hpercent : fold '%' = '%' := hfold.fold_eq (.inr (.inl rfl))
  have hescaped := toList_escapeWildcards value
  have hfront : "%".toList.map fold = ['%'] := by
    rw [show "%".toList = ['%'] from rfl, List.map_singleton, hpercent]
  have hread : patternItems? false ((value.toList.flatMap escapeWildcard).map fold) =
      some ((value.toList.map fold).map .character) := by
    simpa [patternItems?] using patternItems?_escaped hfold value.toList []
  have hreadBack : patternItems? false ((value.toList.flatMap escapeWildcard).map fold ++ ['%']) =
      some ((value.toList.map fold).map .character ++ [.anyMany]) :=
    patternItems?_escaped hfold value.toList ['%']
  cases operator with
  | contains | notContains =>
    obtain rfl := Option.some.inj h
    refine ⟨.anyMany :: ((value.toList.map fold).map .character ++ [.anyMany]), ?_,
      fun text => matchesItems_infix⟩
    rw [String.toList_append, String.toList_append, List.map_append, List.map_append, hfront,
      hescaped, List.append_assoc, List.singleton_append, patternItems?_percent, hreadBack,
      Option.map_some]
  | startsWith =>
    obtain rfl := Option.some.inj h
    refine ⟨(value.toList.map fold).map .character ++ [.anyMany], ?_,
      fun text => matchesItems_prefix⟩
    rw [String.toList_append, List.map_append, hfront, hescaped, hreadBack]
  | endsWith =>
    obtain rfl := Option.some.inj h
    refine ⟨.anyMany :: (value.toList.map fold).map .character, ?_,
      fun text => matchesItems_suffix⟩
    rw [String.toList_append, List.map_append, hfront, hescaped, List.singleton_append,
      patternItems?_percent, hread, Option.map_some]
  | equals | notEqual | blank | notBlank => cases h

end TextOperator

/-! ## Text filters with a pattern -/

namespace LeafFilter

variable {V : Type} (S : Scalars V) (db : Database V)
variable {f : LeafFilter} {p : ColumnPath} {label : String} {env : Env V} {row : Row V}

/-- A text filter with a pattern compiles to the match of its column against the pattern. -/
lemma compile_pattern {operator : TextOperator} {value pattern : String}
    (hkind : f.filterType = FilterKind.text.tag) (hoperator : f.operator = some operator.tag)
    (hvalue : textOperand p.id f.filter = .ok value)
    (hpattern : operator.pattern? value = some pattern) :
    f.compile p label =
      .ok (.ofExpr (.like (operator = .notContains) (textExpr p label) pattern)) := by
  have hread : TextOperator.ofTag operator.tag = .ok operator :=
    readTag_eq_ok.mpr (TextOperator.isTagTable.find?_tag operator)
  rw [compile_of_kind .text hkind, compileAs, compileText, operatorTag, hoperator]
  simp only [bind, Except.bind, hread, hvalue]
  cases operator with
  | contains | notContains | startsWith | endsWith =>
    obtain rfl := Option.some.inj hpattern
    rfl
  | equals | notEqual | blank | notBlank => cases hpattern

/-- What a text filter with condition `c` finds, in an environment where `text` is what its column
has as text: its operand, as it is spelled but for the case. -/
structure FindsOperand (f : LeafFilter) (c : Condition) (fold : Char → Char)
    (value text : String) (env : Env V) : Prop where
  contains : f.operator = some "contains" →
    (c.Holds S db env ↔ value.toList.map fold <:+: text.toList.map fold)
  notContains : f.operator = some "notContains" →
    (c.Holds S db env ↔ ¬ value.toList.map fold <:+: text.toList.map fold)
  startsWith : f.operator = some "startsWith" →
    (c.Holds S db env ↔ value.toList.map fold <+: text.toList.map fold)
  endsWith : f.operator = some "endsWith" →
    (c.Holds S db env ↔ value.toList.map fold <:+ text.toList.map fold)
  /-- The pattern can be read: it does not end in an escape, before or after its case is folded. -/
  pattern : ∃ negated column pattern, c = .ofExpr (.like negated column pattern) ∧
    patternItems? false pattern.toList ≠ none ∧
    patternItems? false (pattern.toList.map fold) ≠ none

section

variable {fold : Char → Char} (hfold : KeepsWildcards fold)
variable (hlike : ∀ pattern text, S.like pattern (S.ofText text) = matchesFolded fold pattern text)
variable (hrow : Keyed.find? label env.frames = some row)
include hfold hlike hrow

/-- The match against the pattern of an operator holds of the texts that have the operand where the
operator looks for it, and its opposite of the others. -/
lemma holds_pattern {operator : TextOperator} {value pattern text : String} (negated : Bool)
    (hpattern : operator.pattern? value = some pattern)
    (htext : p.textCell S (p.value S row) = some (S.ofText text)) :
    (Condition.ofExpr (.like negated (textExpr p label) pattern)).Holds S db env ↔
      (operator.LooksFor (value.toList.map fold) (text.toList.map fold) ↔ negated = false) := by
  obtain ⟨items, hitems, hmatch⟩ := TextOperator.exists_items hfold hpattern
  rw [Condition.Holds, Condition.truth_ofExpr, Expr.truth_like, eval_textExpr S db hrow, htext,
    Scalars.matched, Option.map_some, hlike, matchesFolded_of_items hitems, ← hmatch]
  cases negated <;> simp [Truth.negatedIf, Truth.neg]

/-- **Patterns match literally**: whatever text a filter looks for by a pattern, it finds this text
and nothing else, wildcards and escapes in it included.

**Proof sketch.** The filter is the match of its column against the pattern of its operator
(`compile_pattern`), which holds of the texts that have the operand in the right place
(`holds_pattern`). The pattern as it is spelled is the pattern under the folding that changes
nothing. -/
theorem findsOperand_of_operand (hkind : f.filterType = "text")
    (hoperator : f.operator ∈
      [some "contains", some "notContains", some "startsWith", some "endsWith"])
    {value text : String} (hvalue : textOperand p.id f.filter = .ok value)
    (htext : p.textCell S (p.value S row) = some (S.ofText text)) :
    ∃ c, f.compile p label = .ok c ∧ f.FindsOperand S db c fold value text env := by
  obtain ⟨operator, pattern, htag, hpattern⟩ : ∃ (operator : TextOperator) (pattern : String),
      f.operator = some operator.tag ∧ operator.pattern? value = some pattern := by
    simp only [List.mem_cons, List.not_mem_nil, or_false] at hoperator
    rcases hoperator with h | h | h | h
    · exact ⟨.contains, _, h, rfl⟩
    · exact ⟨.notContains, _, h, rfl⟩
    · exact ⟨.startsWith, _, h, rfl⟩
    · exact ⟨.endsWith, _, h, rfl⟩
  have hfound : ∀ operator' : TextOperator, f.operator = some operator'.tag →
      ((Condition.ofExpr (.like (operator = .notContains) (textExpr p label) pattern)).Holds S db
        env ↔ (operator'.LooksFor (value.toList.map fold) (text.toList.map fold) ↔
          decide (operator' = .notContains) = false)) := by
    intro operator' h
    obtain rfl : operator = operator' :=
      TextOperator.isTagTable.tag_inj (Option.some.inj (htag.symm.trans h))
    exact holds_pattern S db hfold hlike hrow _ hpattern htext
  refine ⟨_, compile_pattern hkind htag hvalue hpattern, ?_⟩
  constructor
  · exact fun h => (hfound .contains h).trans (iff_true_right rfl)
  · exact fun h => (hfound .notContains h).trans (iff_false_right nofun)
  · exact fun h => (hfound .startsWith h).trans (iff_true_right rfl)
  · exact fun h => (hfound .endsWith h).trans (iff_true_right rfl)
  · obtain ⟨items, hitems, -⟩ := TextOperator.exists_items hfold hpattern
    have hid : KeepsWildcards id := fun _ _ _ => Iff.rfl
    obtain ⟨spelled, hspelled, -⟩ := TextOperator.exists_items hid hpattern
    rw [List.map_id] at hspelled
    refine ⟨_, _, pattern, rfl, ?_, ?_⟩
    · rw [hspelled]
      exact Option.some_ne_none spelled
    · rw [hitems]
      exact Option.some_ne_none items

end

end LeafFilter

/-! ## An example -/

/-- The case of ASCII letters may be folded: neither a letter nor its lower case means something in
a pattern. -/
lemma keepsWildcards_lowerAscii : KeepsWildcards lowerAscii := by
  intro c w hw
  unfold lowerAscii
  split
  · next h =>
    have hlow : 65 ≤ c.toNat := h.1
    have hhigh : c.toNat ≤ 90 := h.2
    have hvalid : (c.toNat + 32).isValidChar := .inl (by omega)
    have hlower : (Char.ofNat (c.toNat + 32)).toNat = c.toNat + 32 := by
      rw [Char.ofNat, dif_pos hvalid]
      rfl
    have hcode : w.toNat = 92 ∨ w.toNat = 37 ∨ w.toNat = 95 := by
      rcases hw with rfl | rfl | rfl <;> decide
    refine iff_of_false ?_ ?_
    · intro hsame
      rw [hsame] at hlower
      omega
    · intro hsame
      rw [hsame] at hlow hhigh
      omega
  · exact Iff.rfl

/-- The store of constants, with patterns that are matched without regard to the case of ASCII
letters. -/
def Zoo.patterned : Scalars Literal :=
  { Scalars.ofLiterals with like := fun pattern v => matchesFolded lowerAscii pattern v.content }

/-- A name that contains a wildcard and an escape. -/
def Zoo.discounted : LeafFilter where
  filterType := "text"
  operator := some "contains"
  filter := some (.string "5%\\_")

/-- The filter finds the text with these characters, and takes no wildcard out of them. -/
theorem LeafFilter.findsOperand_of_operand_discount :
    ∃ r p, Zoo.registry = .ok r ∧ r.resolve Zoo.flamingos "name" = .ok p ∧
      KeepsWildcards lowerAscii ∧ Zoo.discounted.filterType = "text" ∧
      textOperand p.id Zoo.discounted.filter = .ok "5%\\_" ∧
      ∀ row, row = Zoo.rowOf [("name", .string "Off 5%\\_A")] →
        ∃ c, Zoo.discounted.compile p "flamingos" = .ok c ∧
          Zoo.discounted.FindsOperand Zoo.patterned Zoo.flock c lowerAscii "5%\\_" "Off 5%\\_A"
            (.ofRow "flamingos" row) := by
  refine ⟨_, _, rfl, rfl, keepsWildcards_lowerAscii, rfl, rfl, ?_⟩
  rintro _ rfl
  exact LeafFilter.findsOperand_of_operand Zoo.patterned Zoo.flock keepsWildcards_lowerAscii
    (fun _ _ => rfl) rfl rfl List.mem_cons_self rfl rfl

end DataGrid
