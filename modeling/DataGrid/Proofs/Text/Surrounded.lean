import DataGrid.Text.Blank
import Mathlib.Data.List.TakeWhile
import Mathlib.Tactic.Lemma

/-!
# Texts between blanks

Trimming a text leaves what stands between the blanks at its ends, as long as this does not begin or
end with a blank itself.

## Main definitions

* `DataGrid.Text.Surrounds` — a text is made of some characters with blanks around them.

## Main results

* `DataGrid.Text.Surrounds.trimChars_eq` — trimming leaves these characters.
-/

namespace DataGrid.Text

/-- Blanks and nothing else, maybe none. -/
def AreBlank (cs : List Char) : Prop := ∀ c ∈ cs, isBlank c = true

/-- Whether characters are blank can be decided. -/
instance (cs : List Char) : Decidable (AreBlank cs) :=
  decidable_of_iff (cs.all isBlank = true) List.all_eq_true

/-- The text consists of the given characters, with blanks before and behind them, maybe none. -/
def Surrounds (s : String) (core : List Char) : Prop :=
  ∃ before after, AreBlank before ∧ AreBlank after ∧ s.toList = before ++ (core ++ after)

/-- The characters neither begin nor end with a blank. -/
structure IsTrimmed (cs : List Char) : Prop where
  head : ∀ c, cs.head? = some c → isBlank c = false
  last : ∀ c, cs.getLast? = some c → isBlank c = false

/-- Every text surrounds its own characters. -/
lemma surrounds_self (s : String) : Surrounds s s.toList :=
  ⟨[], [], List.forall_mem_nil _, List.forall_mem_nil _, (List.append_nil _).symm⟩

/-- Characters without blanks. -/
lemma isTrimmed_of_forall {cs : List Char} (h : ∀ c ∈ cs, isBlank c = false) : IsTrimmed cs :=
  ⟨fun c hc => h c (List.mem_of_mem_head? hc), fun c hc => h c (List.mem_of_getLast? hc)⟩

/-- Characters without blanks at the front and at the back, with any between them. -/
lemma isTrimmed_append {front back : List Char} (middle : List Char) (hfront : front ≠ [])
    (hback : back ≠ []) (hfront' : ∀ c ∈ front, isBlank c = false)
    (hback' : ∀ c ∈ back, isBlank c = false) : IsTrimmed (front ++ (middle ++ back)) := by
  constructor
  · intro c hc
    rw [List.head?_append, List.head?_eq_some_head hfront, Option.some_or] at hc
    rw [← Option.some.inj hc]
    exact hfront' _ (List.head_mem hfront)
  · intro c hc
    rw [← List.append_assoc, List.getLast?_append, List.getLast?_eq_some_getLast hback,
      Option.some_or] at hc
    rw [← Option.some.inj hc]
    exact hback' _ (List.getLast_mem hback)

/-- Digits are not blank. -/
lemma isBlank_of_isDigit {c : Char} (h : c.isDigit = true) : isBlank c = false := by
  have hrange : 48 ≤ c.toNat ∧ c.toNat ≤ 57 := Char.isDigit_iff_toNat.mp h
  rw [isBlank, inRanges, List.any_eq_false]
  intro r hr
  simp only [blankRanges, List.mem_cons, List.not_mem_nil, or_false] at hr
  rcases hr with rfl | rfl | rfl | rfl | rfl | rfl | rfl | rfl | rfl | rfl <;> simp <;> omega

/-- Blanks at the front go, up to what does not begin with one. -/
lemma trimStart_append {blanks rest : List Char} (hblanks : AreBlank blanks)
    (hrest : ∀ c, rest.head? = some c → isBlank c = false) :
    trimStart (blanks ++ rest) = rest := by
  rw [trimStart, List.dropWhile_append_of_pos hblanks]
  cases rest with
  | nil => rfl
  | cons c rest => rw [List.dropWhile_cons, hrest c rfl, if_neg Bool.false_ne_true]

/-- Nothing is taken from characters that do not begin with a blank. -/
lemma trimStart_eq_self {cs : List Char} (h : ∀ c, cs.head? = some c → isBlank c = false) :
    trimStart cs = cs :=
  trimStart_append (List.forall_mem_nil _) h

/-- **Trimming leaves what stands between the blanks.** -/
theorem Surrounds.trimChars_eq {s : String} {core : List Char} (h : Surrounds s core)
    (hcore : IsTrimmed core) : trimChars s.toList = core := by
  obtain ⟨before, after, hbefore, hafter, hs⟩ := h
  have hback : AreBlank after.reverse := fun c hc => hafter c (List.mem_reverse.mp hc)
  rw [hs, trimChars]
  cases core with
  | nil =>
    -- Nothing stands between the blanks, and all of them go at once.
    have hnone : trimStart (before ++ ([] ++ after)) = [] := by
      rw [List.nil_append, trimStart, List.dropWhile_eq_nil_iff]
      exact List.forall_mem_append.mpr ⟨hbefore, hafter⟩
    rw [hnone]
    rfl
  | cons c rest =>
    have hlast : ∀ d, (c :: rest).reverse.head? = some d → isBlank d = false := by
      intro d hd
      rw [List.head?_reverse] at hd
      exact hcore.last d hd
    have hstart : trimStart (before ++ (c :: rest ++ after)) = c :: rest ++ after :=
      trimStart_append hbefore hcore.head
    rw [hstart, List.reverse_append, trimStart_append hback hlast, List.reverse_reverse]

end DataGrid.Text
