import DataGrid.Json.Order
import DataGrid.Json.Token
import DataGrid.Proofs.Decimal.Rendering

/-!
# The text of a JSON value determines it

Different values have different compact texts, whatever they hold: also members that a canonical
object would not have, and numbers that are equal but spelled differently. A value can even be told
from a longer text that begins with it. Strings are read back by the scanner of documents; numbers
are not, since documents are read with rounding, but their texts are decimals, which can be told
apart.

## Main definitions

* `DataGrid.Json.Delimited` — what follows a value inside another one.
* `DataGrid.Json.Legible` — a value can be told from every text that begins with it.

## Main results

* `DataGrid.Json.quote_append_inj` — strings.
* `DataGrid.Json.Number.text_injective` — numbers.
* `DataGrid.Json.joined_append_inj` — lists of elements or members.
* `DataGrid.Json.legible`, `DataGrid.Json.text_injective` — values.
-/

namespace DataGrid.Json

/-! ## Strings -/

namespace Token

/-- Control characters are escaped by their numbers. -/
lemma unit?_hexDigit {n : ℕ} (h : n < 32) :
    unit? '0' '0' (hexDigit (n / 16)) (hexDigit (n % 16)) = some n := by
  revert n
  decide

/-- An escaped character is read back. -/
lemma scanString?_escapeChar (reversed : List Char) (c : Char) (cs : List Char) :
    scanString? ⟨reversed, none, true⟩ (escapeChar c ++ cs) =
      scanString? ⟨c :: reversed, none, true⟩ cs := by
  unfold escapeChar
  split
  · next h => rw [h]; rfl
  split
  · next h => rw [h]; rfl
  split
  · next h => rw [h]; rfl
  split
  · next h => rw [h]; rfl
  split
  · next h => rw [h]; rfl
  split
  · next h => rw [← Char.ofNat_toNat c, h]; rfl
  split
  · next h => rw [← Char.ofNat_toNat c, h]; rfl
  split
  · next h =>
    have hunit : Partial.pushUnit ⟨reversed, none, true⟩ c.toNat = ⟨c :: reversed, none, true⟩ := by
      rw [Partial.pushUnit, if_neg (by omega), if_neg (by omega), Char.ofNat_toNat]
      rfl
    rw [scanString?.eq_def]
    simp only [List.cons_append, List.nil_append, unit?_hexDigit h, hunit]
    rfl
  · next hquote hslash _ _ _ _ _ hcontrol =>
    rw [List.singleton_append, scanString?.eq_def]
    dsimp only
    rw [if_neg hquote, if_neg hslash, if_neg hcontrol]
    rfl

/-- The characters of a string, escaped and followed by a quote, are read back. -/
lemma scanString?_flatMap (reversed cs rest : List Char) :
    scanString? ⟨reversed, none, true⟩ (cs.flatMap escapeChar ++ '"' :: rest) =
      some (some (String.ofList (reversed.reverse ++ cs)), rest) := by
  induction cs generalizing reversed with
  | nil =>
    rw [List.flatMap_nil, List.nil_append, List.append_nil, scanString?.eq_def]
    simp [Partial.finish]
  | cons c cs ih =>
    rw [List.flatMap_cons, List.append_assoc, scanString?_escapeChar, ih, List.reverse_cons,
      List.append_assoc, List.singleton_append]

end Token

/-- **A quoted string is read back**, whatever follows it. -/
theorem quote_append_inj {s t : String} {rest rest' : List Char}
    (h : (quote s).toList ++ rest = (quote t).toList ++ rest') : s = t ∧ rest = rest' := by
  have hread : ∀ (s : String) (rest : List Char), ∃ cs, (quote s).toList ++ rest = '"' :: cs ∧
      Token.scanString? .start cs = some (some s, rest) := by
    intro s rest
    refine ⟨s.toList.flatMap escapeChar ++ '"' :: rest, ?_, ?_⟩
    · rw [quote, String.toList_ofList, List.cons_append, List.append_assoc, List.singleton_append]
    · rw [Token.Partial.start, Token.scanString?_flatMap, List.reverse_nil, List.nil_append,
        String.ofList_toList]
  obtain ⟨cs, hcs, hs⟩ := hread s rest
  obtain ⟨ds, hds, ht⟩ := hread t rest'
  rw [hcs, hds] at h
  rw [(List.cons.inj h).2, ht] at hs
  have hboth := Prod.mk.inj (Option.some.inj hs)
  exact ⟨(Option.some.inj hboth.1).symm, hboth.2.symm⟩

/-! ## Numbers -/

/-- Digits occur in numbers. -/
lemma isNumeric_of_isDigit {c : Char} (h : c.isDigit = true) : Token.isNumeric c = true := by
  simp [Token.isNumeric, h]

/-- The characters of a sign occur in numbers. -/
lemma isNumeric_of_isSign {cs : List Char} (h : IsSign cs) :
    ∀ c ∈ cs, Token.isNumeric c = true := by
  cases h <;> simp [Token.isNumeric]

/-- The characters of an integer occur in numbers. -/
lemma isNumeric_of_isInteger {cs : List Char} {n : ℤ} (h : IsInteger cs n) :
    ∀ c ∈ cs, Token.isNumeric c = true := by
  obtain ⟨hsign, hdigits, -⟩ := h
  intro c hc
  rcases List.mem_append.mp hc with hc | hc
  · exact isNumeric_of_isSign hsign c hc
  · exact isNumeric_of_isDigit (hdigits c hc)

/-- The characters of a decimal occur in numbers. -/
lemma isNumeric_of_isDecimal {cs : List Char} {negative : Bool} {n : ℕ} {e : ℤ}
    (h : IsDecimal cs negative n e) : ∀ c ∈ cs, Token.isNumeric c = true := by
  obtain ⟨hsign, hwhole, hpoint, htail, -⟩ := h
  intro c hc
  simp only [List.mem_append] at hc
  rcases hc with hc | hc | hc | hc
  · exact isNumeric_of_isSign hsign c hc
  · exact isNumeric_of_isDigit (hwhole c hc)
  · cases hpoint with
    | nothing => cases hc
    | written hfraction =>
      rcases List.mem_cons.mp hc with rfl | hc
      · decide
      · exact isNumeric_of_isDigit (hfraction c hc)
  · cases htail with
    | nothing => cases hc
    | written hmark hinteger =>
      rcases List.mem_cons.mp hc with rfl | hc
      · rcases hmark with rfl | rfl <;> decide
      · exact isNumeric_of_isInteger hinteger c hc

namespace Number

/-- The text of a number has no other characters than numbers have. -/
lemma isNumeric_text (n : Number) : ∀ c ∈ n.text.toList, Token.isNumeric c = true := by
  cases n with
  | int n _ => exact isNumeric_of_isInteger (isInteger_intText n)
  | float x =>
    obtain ⟨d, hd, -⟩ := layout.isDecimal_render x
    exact isNumeric_of_isDecimal hd

/-- The text of an integer has neither a point nor an exponent. -/
lemma not_mark_of_mem_intText {n : ℤ} {c : Char} (h : c ∈ (intText n).toList) :
    c ≠ '.' ∧ c ≠ 'e' := by
  have hdigit : ∀ {c : Char}, c ∈ natDigits n.natAbs → c ≠ '.' ∧ c ≠ 'e' := by
    intro c hc
    have hc := areDigits_natDigits _ c hc
    constructor <;> rintro rfl <;> exact absurd hc (by decide)
  rw [intText, String.toList_ofList] at h
  split at h
  · rcases List.mem_cons.mp h with rfl | h
    · decide
    · exact hdigit h
  · exact hdigit h

/-- The text of a double has a point or an exponent. -/
lemma exists_mark_render (x : Binary64) : ∃ c ∈ (layout.render x).toList, c = '.' ∨ c = 'e' := by
  have hplain : ∀ digits whole, '.' ∈ layout.plainText digits whole := by
    intro digits whole
    rw [Layout.plainText]
    split
    · exact List.mem_cons_of_mem _ List.mem_cons_self
    split
    · exact List.mem_append_right _ List.mem_cons_self
    · exact List.mem_append_right _ List.mem_cons_self
  have hmagnitude : ∀ d, ∃ c ∈ layout.magnitudeText d, c = '.' ∨ c = 'e' := by
    intro d
    unfold Layout.magnitudeText
    split
    · exact ⟨'.', hplain _ _, .inl rfl⟩
    · dsimp only
      split
      · exact ⟨'.', hplain _ _, .inl rfl⟩
      · exact ⟨'e', List.mem_append_right _ List.mem_cons_self, .inr rfl⟩
  obtain ⟨c, hc, hmark⟩ := hmagnitude (x.shortest layout.tie)
  refine ⟨c, ?_, hmark⟩
  rw [Layout.render, String.toList_ofList]
  split
  · exact List.mem_cons_of_mem _ hc
  · exact hc

/-- No integer has the text of a double. -/
lemma intText_ne_render (n : ℤ) (x : Binary64) : intText n ≠ layout.render x := by
  intro h
  obtain ⟨c, hc, hmark⟩ := exists_mark_render x
  rw [← h] at hc
  exact hmark.elim (not_mark_of_mem_intText hc).1 (not_mark_of_mem_intText hc).2

/-- **Different numbers have different texts.** -/
theorem text_injective {m n : Number} (h : m.text = n.text) : m = n := by
  cases m with
  | int m hm =>
    cases n with
    | int n hn =>
      obtain rfl : m = n := intText_injective h
      rfl
    | float y => exact absurd h (intText_ne_render m y)
  | float x =>
    cases n with
    | int n hn => exact absurd h.symm (intText_ne_render n x)
    | float y => rw [layout.render_injective h]

end Number

/-! ## Arrays and objects -/

/-- Pieces of text, separated by commas. -/
def joined (pieces : List (List Char)) : List Char := [','].intercalate pieces

/-- The text of a member: its quoted key, a colon, and its value. -/
def memberText (member : String × Json) : List Char :=
  (quote member.1).toList ++ ':' :: member.2.text.toList

/-- Elements are joined. -/
lemma toList_textItems (items : List Json) :
    (textItems items).toList = joined (items.map fun j => j.text.toList) := by
  induction items with
  | nil => rfl
  | cons j rest ih =>
    cases rest with
    | nil => simp [textItems, joined]
    | cons k rest =>
      rw [textItems, String.toList_append, String.toList_append, ih]
      · simp [joined]
      · exact List.cons_ne_nil _ _

/-- Members are joined. -/
lemma toList_textMembers (members : List (String × Json)) :
    (textMembers members).toList = joined (members.map memberText) := by
  induction members with
  | nil => rfl
  | cons m rest ih =>
    obtain ⟨key, j⟩ := m
    cases rest with
    | nil => simp [textMembers, joined, memberText]
    | cons m' rest =>
      rw [textMembers, String.toList_append, ih]
      · simp [joined, memberText]
      · exact List.cons_ne_nil _ _

/-- An array stands in brackets. -/
lemma toList_text_array (items : List Json) : (Json.array items).text.toList =
    '[' :: (joined (items.map fun j => j.text.toList) ++ [']']) := by
  rw [text, String.toList_append, String.toList_append, toList_textItems]
  rfl

/-- An object stands in braces. -/
lemma toList_text_object (members : List (String × Json)) : (Json.object members).text.toList =
    '\x7b' :: (joined (members.map memberText) ++ ['\x7d']) := by
  rw [text, String.toList_append, String.toList_append, toList_textMembers]
  rfl

/-! ## Values -/

/-- What follows a value inside another one: a comma, a closing bracket, or the end. -/
def Delimited (rest : List Char) : Prop := ∀ c, rest.head? = some c → c = ',' ∨ c = ']' ∨ c = '\x7d'

/-- A delimiter does not occur in numbers. -/
lemma Delimited.isNumeric_head? {rest : List Char} (h : Delimited rest) (c : Char)
    (hc : rest.head? = some c) : Token.isNumeric c = false := by
  rcases h c hc with rfl | rfl | rfl <;> decide

/-- A number ends where its delimiter begins. -/
lemma Number.text_append_inj {m n : Number} {rest rest' : List Char}
    (h : m.text.toList ++ rest = n.text.toList ++ rest') (hrest : Delimited rest)
    (hrest' : Delimited rest') : m = n ∧ rest = rest' := by
  have hspan : ∀ (n : Number) {rest : List Char}, Delimited rest →
      (n.text.toList ++ rest).takeWhile Token.isNumeric = n.text.toList := by
    intro n rest hrest
    rw [List.takeWhile_append_of_pos n.isNumeric_text]
    cases rest with
    | nil => simp
    | cons c rest => simp [hrest.isNumeric_head? c rfl]
  have htext : m.text = n.text := by
    rw [← String.toList_inj, ← hspan m hrest, h, hspan n hrest']
  obtain rfl := Number.text_injective htext
  exact ⟨rfl, List.append_cancel_left h⟩

/-- The kind of a value that begins with a character. -/
def kindOf (c : Char) : ℕ :=
  if c = 'n' then 0
  else if c = 't' ∨ c = 'f' then 1
  else if c = '"' then 3
  else if c = '[' then 4
  else if c = '\x7b' then 5
  else 2

/-- The text of a number is not empty. -/
lemma Number.text_ne_nil (n : Number) : n.text.toList ≠ [] := by
  cases n with
  | int n _ =>
    intro hnil
    have hread := integerOfChars?_eq_some.mpr (isInteger_intText n)
    rw [show (intText n).toList = [] from hnil] at hread
    cases hread
  | float x =>
    obtain ⟨c, hc, -⟩ := exists_mark_render x
    exact List.ne_nil_of_mem hc

/-- The first character of a value tells its kind, and is not a delimiter. -/
lemma exists_text_eq_cons (j : Json) : ∃ c cs, j.text.toList = c :: cs ∧ kindOf c = j.rank ∧
    ¬(c = ',' ∨ c = ']' ∨ c = '\x7d') := by
  cases j with
  | null => exact ⟨'n', ['u', 'l', 'l'], rfl, rfl, by decide⟩
  | bool b => cases b with
    | false => exact ⟨'f', ['a', 'l', 's', 'e'], rfl, rfl, by decide⟩
    | true => exact ⟨'t', ['r', 'u', 'e'], rfl, rfl, by decide⟩
  | number n =>
    obtain ⟨c, cs, hcs⟩ := List.exists_cons_of_ne_nil n.text_ne_nil
    have hnumeric := n.isNumeric_text c (by rw [hcs]; exact List.mem_cons_self)
    have hother : ∀ d, Token.isNumeric d = false → c ≠ d := by
      rintro d hd rfl
      cases hnumeric.symm.trans hd
    have hkind : kindOf c = 2 := by
      simp [kindOf, hother 'n' rfl, hother 't' rfl, hother 'f' rfl, hother '"' rfl, hother '[' rfl,
        hother '\x7b' rfl]
    exact ⟨c, cs, hcs, hkind, by simp [hother ',' rfl, hother ']' rfl, hother '\x7d' rfl]⟩
  | string s => exact ⟨'"', _, String.toList_ofList, rfl, by decide⟩
  | array items => exact ⟨'[', _, toList_text_array items, rfl, by decide⟩
  | object members => exact ⟨'\x7b', _, toList_text_object members, rfl, by decide⟩

/-! ## Lists of values -/

/-- What follows the first one of several pieces. -/
def behind (pieces : List (List Char)) (rest : List Char) : List Char :=
  match pieces with
  | [] => rest
  | _ :: _ => ',' :: (joined pieces ++ rest)

/-- The first of several pieces, and then what follows it. -/
lemma joined_cons_append (first : List Char) (pieces : List (List Char)) (rest : List Char) :
    joined (first :: pieces) ++ rest = first ++ behind pieces rest := by
  cases pieces <;> simp [joined, behind]

/-- A piece is followed by a comma or by what stands behind them all, and either delimits it. -/
lemma delimited_behind {pieces : List (List Char)} {rest : List Char} (h : Delimited rest) :
    Delimited (behind pieces rest) := by
  cases pieces with
  | nil => exact h
  | cons first pieces =>
    intro c hc
    exact .inl (Option.some.inj hc).symm

/-- **Joined pieces can be told apart** if each of them can. -/
lemma joined_append_inj {α : Type} {piece : α → List Char} {close : Char}
    (hclose : close = ']' ∨ close = '\x7d')
    (hfirst : ∀ a, ∃ c cs, piece a = c :: cs ∧ ¬(c = ',' ∨ c = ']' ∨ c = '\x7d'))
    {xs ys : List α} (hpiece : ∀ a ∈ xs, ∀ b (rest rest' : List Char),
      piece a ++ rest = piece b ++ rest' → Delimited rest → Delimited rest' → a = b ∧ rest = rest')
    {rest rest' : List Char}
    (h : joined (xs.map piece) ++ close :: rest = joined (ys.map piece) ++ close :: rest') :
    xs = ys ∧ rest = rest' := by
  have hdelimited : ∀ rest, Delimited (close :: rest) := by
    intro rest c hc
    rw [← Option.some.inj hc]
    exact .inr hclose
  -- A list that is not empty does not begin with the closing bracket.
  have hnonempty : ∀ a as rest rest', joined ((a :: as).map piece) ++ rest ≠ close :: rest' := by
    intro a as rest rest' h
    obtain ⟨c, cs, hcs, hc⟩ := hfirst a
    rw [List.map_cons, joined_cons_append, hcs] at h
    rw [(List.cons.inj h).1] at hc
    exact hc (.inr hclose)
  induction xs generalizing ys with
  | nil =>
    cases ys with
    | nil => exact ⟨rfl, (List.cons.inj h).2⟩
    | cons b ys => exact absurd h.symm (hnonempty b ys _ _)
  | cons a xs ih =>
    cases ys with
    | nil => exact absurd h (hnonempty a xs _ _)
    | cons b ys =>
      rw [List.map_cons, List.map_cons, joined_cons_append, joined_cons_append] at h
      obtain ⟨rfl, hbehind⟩ := hpiece a List.mem_cons_self b _ _ h
        (delimited_behind (hdelimited rest)) (delimited_behind (hdelimited rest'))
      have hcomma : close ≠ ',' := by rcases hclose with rfl | rfl <;> decide
      cases xs with
      | nil =>
        cases ys with
        | nil => exact ⟨rfl, (List.cons.inj hbehind).2⟩
        | cons b ys => exact absurd (List.cons.inj hbehind).1 hcomma
      | cons a' xs =>
        cases ys with
        | nil => exact absurd (List.cons.inj hbehind).1.symm hcomma
        | cons b ys =>
          obtain ⟨hsame, hrest⟩ := ih (fun c hc => hpiece c (List.mem_cons_of_mem a hc))
            (List.cons.inj hbehind).2
          exact ⟨by rw [hsame], hrest⟩

/-! ## Unique texts -/

/-- A value can be told from every text that begins with it, if a delimiter or nothing follows. -/
def Legible (j : Json) : Prop :=
  ∀ (k : Json) (rest rest' : List Char), j.text.toList ++ rest = k.text.toList ++ rest' →
    Delimited rest → Delimited rest' → j = k ∧ rest = rest'

/-- The first character tells the kind of the other value. -/
lemma rank_eq_of_append {j k : Json} {rest rest' : List Char}
    (h : j.text.toList ++ rest = k.text.toList ++ rest') : j.rank = k.rank := by
  obtain ⟨c, cs, hcs, hc, -⟩ := j.exists_text_eq_cons
  obtain ⟨d, ds, hds, hd, -⟩ := k.exists_text_eq_cons
  rw [hcs, hds] at h
  rw [← hc, ← hd, (List.cons.inj h).1]

/-- Null is legible. -/
lemma legible_null : Legible .null := by
  intro k rest rest' h _ _
  have hrank := rank_eq_of_append h
  cases k with
  | null => exact ⟨rfl, List.append_cancel_left h⟩
  | _ => cases hrank

/-- Truth values are legible. -/
lemma legible_bool (a : Bool) : Legible (.bool a) := by
  intro k rest rest' h _ _
  have hrank := rank_eq_of_append h
  cases k with
  | bool b =>
    cases a with
    | false => cases b with
      | false => exact ⟨rfl, List.append_cancel_left h⟩
      | true => exact absurd (List.cons.inj h).1 (by decide)
    | true => cases b with
      | false => exact absurd (List.cons.inj h).1 (by decide)
      | true => exact ⟨rfl, List.append_cancel_left h⟩
  | _ => cases hrank

/-- A number ends where the delimiter begins. -/
lemma legible_number (m : Number) : Legible (.number m) := by
  intro k rest rest' h hrest hrest'
  have hrank := rank_eq_of_append h
  cases k with
  | number n =>
    obtain ⟨hsame, hrest⟩ := Number.text_append_inj (m := m) (n := n) h hrest hrest'
    exact ⟨by rw [hsame], hrest⟩
  | _ => cases hrank

/-- A string ends at its closing quote. -/
lemma legible_string (s : String) : Legible (.string s) := by
  intro k rest rest' h _ _
  have hrank := rank_eq_of_append h
  cases k with
  | string t =>
    obtain ⟨hsame, hrest⟩ := quote_append_inj (s := s) (t := t) h
    exact ⟨by rw [hsame], hrest⟩
  | _ => cases hrank

/-- Elements can be told apart one by one. -/
lemma legible_array {items : List Json} (hitems : ∀ j ∈ items, Legible j) :
    Legible (.array items) := by
  intro k rest rest' h _ _
  have hrank := rank_eq_of_append h
  cases k with
  | array others =>
    rw [toList_text_array, toList_text_array, List.cons_append, List.cons_append, List.append_assoc,
      List.append_assoc] at h
    have hfirst : ∀ j : Json, ∃ c cs, j.text.toList = c :: cs ∧
        ¬(c = ',' ∨ c = ']' ∨ c = '\x7d') := by
      intro j
      obtain ⟨c, cs, hcs, -, hc⟩ := j.exists_text_eq_cons
      exact ⟨c, cs, hcs, hc⟩
    obtain ⟨hsame, hrest⟩ := joined_append_inj (.inl rfl) hfirst hitems (List.cons.inj h).2
    exact ⟨by rw [hsame], hrest⟩
  | _ => cases hrank

/-- Members can be told apart one by one, and so can their keys and their values. -/
lemma legible_object {members : List (String × Json)} (hmembers : ∀ m ∈ members, Legible m.2) :
    Legible (.object members) := by
  intro k rest rest' h _ _
  have hrank := rank_eq_of_append h
  cases k with
  | object others =>
    rw [toList_text_object, toList_text_object, List.cons_append, List.cons_append,
      List.append_assoc, List.append_assoc] at h
    have hfirst : ∀ m : String × Json, ∃ c cs, memberText m = c :: cs ∧
        ¬(c = ',' ∨ c = ']' ∨ c = '\x7d') := by
      intro m
      refine ⟨'"', m.1.toList.flatMap escapeChar ++ '"' :: ':' :: m.2.text.toList, ?_, by decide⟩
      simp [memberText, quote]
    have hpiece : ∀ m ∈ members, ∀ m' (rest rest' : List Char),
        memberText m ++ rest = memberText m' ++ rest' → Delimited rest → Delimited rest' →
          m = m' ∧ rest = rest' := by
      intro m hm m' rest rest' h hrest hrest'
      rw [memberText, memberText, List.append_assoc, List.append_assoc] at h
      obtain ⟨hkey, hvalue⟩ := quote_append_inj h
      obtain ⟨hvalue, hrest⟩ := hmembers m hm m'.2 rest rest' (List.cons.inj hvalue).2 hrest hrest'
      exact ⟨Prod.ext hkey hvalue, hrest⟩
    obtain ⟨hsame, hrest⟩ := joined_append_inj (.inr rfl) hfirst hpiece (List.cons.inj h).2
    exact ⟨by rw [hsame], hrest⟩
  | _ => cases hrank

/-- **A value can be told from a text that begins with it**, if a delimiter or nothing follows.

**Proof sketch.** Induction over the value, with one lemma for each kind. -/
theorem legible (j : Json) : Legible j := by
  cases j with
  | null => exact legible_null
  | bool b => exact legible_bool b
  | number n => exact legible_number n
  | string s => exact legible_string s
  | array items => exact legible_array fun j hj => legible j
  | object members => exact legible_object fun m hm => legible m.2
termination_by sizeOf j
decreasing_by
  · have hsize := List.sizeOf_lt_of_mem hj
    rw [array.sizeOf_spec]
    omega
  · have hsize := List.sizeOf_lt_of_mem hm
    obtain ⟨key, value⟩ := m
    rw [Prod.mk.sizeOf_spec] at hsize
    rw [object.sizeOf_spec]
    dsimp only
    omega

/-- **Different values have different texts.** -/
theorem text_injective {j k : Json} (h : j.text = k.text) : j = k := by
  have hend : Delimited [] := fun _ hc => nomatch hc
  exact (legible j k [] [] (by rw [h]) hend hend).1

end DataGrid.Json
