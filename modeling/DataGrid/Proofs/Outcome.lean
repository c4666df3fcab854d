import DataGrid.Fault
import Mathlib.Data.List.Forall2
import Mathlib.Tactic.Lemma

/-!
# Outcomes that succeed

A computation that may fail succeeds exactly when each of its parts does. These rules take a
successful computation apart, one part after the other, and a list of successes one by one. A list
fails when one of its elements does.
-/

namespace DataGrid

variable {ε α β : Type}

/-- A computation in two parts succeeds when both parts do. -/
theorem bind_eq_ok {x : Except ε α} {f : α → Except ε β} {b : β} :
    x >>= f = .ok b ↔ ∃ a, x = .ok a ∧ f a = .ok b := by
  cases x with
  | error e => exact iff_of_false nofun fun ⟨_, h, _⟩ => nomatch h
  | ok a => exact ⟨fun h => ⟨a, rfl, h⟩, fun ⟨_, h, hf⟩ => Except.ok.inj h ▸ hf⟩

/-- Two computations with the same first part go on from the same result. -/
theorem exists_common_of_bind_eq_ok {γ : Type} {x : Except ε α} {f : α → Except ε β}
    {g : α → Except ε γ} {b : β} {c : γ} (hf : x >>= f = .ok b) (hg : x >>= g = .ok c) :
    ∃ a, x = .ok a ∧ f a = .ok b ∧ g a = .ok c := by
  obtain ⟨a, ha, hf⟩ := bind_eq_ok.mp hf
  obtain ⟨a', ha', hg⟩ := bind_eq_ok.mp hg
  exact ⟨a, ha, hf, Except.ok.inj (ha.symm.trans ha') ▸ hg⟩

/-- A computation that only returns a value succeeds with it. -/
theorem pure_eq_ok {a b : α} : (pure a : Except ε α) = .ok b ↔ a = b :=
  ⟨Except.ok.inj, congrArg Except.ok⟩

/-- A value computed from a result is there when the result is. -/
theorem map_eq_ok {x : Except ε α} {f : α → β} {b : β} :
    x.map f = .ok b ↔ ∃ a, x = .ok a ∧ f a = b := by
  cases x with
  | error e => exact iff_of_false nofun fun ⟨_, h, _⟩ => nomatch h
  | ok a => exact ⟨fun h => ⟨a, rfl, Except.ok.inj h⟩, fun ⟨_, h, hf⟩ => by rw [h, ← hf]; rfl⟩

/-- A computation that succeeds with nothing fails. -/
lemma exists_eq_error {x : Except ε α} (h : ∀ a, x ≠ .ok a) : ∃ e, x = .error e := by
  cases x with
  | error e => exact ⟨e, rfl⟩
  | ok a => exact absurd rfl (h a)

/-! ## Lists -/

/-- Each partner is the partner of some element. -/
lemma exists_of_mem_forall₂ {R : α → β → Prop} {l : List α} {l' : List β}
    (h : List.Forall₂ R l l') {b : β} (hb : b ∈ l') : ∃ a ∈ l, R a b := by
  induction h with
  | nil => cases hb
  | @cons a b' l l' hab _ ih =>
    rcases List.mem_cons.mp hb with rfl | hb
    · exact ⟨a, List.mem_cons_self, hab⟩
    · obtain ⟨a', ha', hab'⟩ := ih hb
      exact ⟨a', List.mem_cons_of_mem _ ha', hab'⟩

/-- What is asked of all partners of elements is asked of the partner of each element. -/
lemma forall_mem_iff_of_forall₂ {R : α → β → Prop}
    (hR : ∀ a b b', R a b → R a b' → b = b') {l : List α} {l' : List β}
    (h : List.Forall₂ R l l') (P : β → Prop) :
    (∀ b ∈ l', P b) ↔ ∀ a ∈ l, ∃ b, R a b ∧ P b := by
  induction h with
  | nil => simp
  | @cons a b l l' hab _ ih =>
    rw [List.forall_mem_cons, List.forall_mem_cons, ih]
    refine and_congr_left fun _ => ⟨fun hb => ⟨b, hab, hb⟩, ?_⟩
    rintro ⟨b', hab', hb'⟩
    rwa [hR a b b' hab hab']

/-- What a list is read as is read element by element. -/
lemma forall₂_of_mapM {read : α → Option β} {l : List α} {l' : List β}
    (h : l.mapM read = some l') : List.Forall₂ (fun a b => read a = some b) l l' := by
  induction l generalizing l' with
  | nil =>
    cases h
    exact List.Forall₂.nil
  | cons a rest ih =>
    rw [List.mapM_cons] at h
    obtain ⟨b, hb, h⟩ := Option.bind_eq_some_iff.mp h
    obtain ⟨rest', hrest, h⟩ := Option.bind_eq_some_iff.mp h
    cases h
    exact List.Forall₂.cons hb (ih hrest)

/-- What each element of a list becomes, if all of them become something. -/
lemma forall₂_of_mapM_eq_ok {f : α → Except ε β} {l : List α} {l' : List β}
    (h : l.mapM f = .ok l') : List.Forall₂ (fun a b => f a = .ok b) l l' := by
  induction l generalizing l' with
  | nil =>
    rw [← pure_eq_ok.mp h]
    exact List.Forall₂.nil
  | cons a rest ih =>
    rw [List.mapM_cons] at h
    obtain ⟨b, hb, h⟩ := bind_eq_ok.mp h
    obtain ⟨rest', hrest, h⟩ := bind_eq_ok.mp h
    rw [← pure_eq_ok.mp h]
    exact List.Forall₂.cons hb (ih hrest)

/-- A list becomes something when all of its elements do. -/
lemma exists_mapM_eq_ok {f : α → Except ε β} {l : List α} (h : ∀ a ∈ l, ∃ b, f a = .ok b) :
    ∃ l', l.mapM f = .ok l' := by
  induction l with
  | nil => exact ⟨[], rfl⟩
  | cons a rest ih =>
    obtain ⟨⟨b, hb⟩, hrest⟩ := List.forall_mem_cons.mp h
    obtain ⟨rest', hrest⟩ := ih hrest
    refine ⟨b :: rest', ?_⟩
    rw [List.mapM_cons, hb, hrest]
    rfl

/-- A list fails with the fault of its elements, if all that fail have the same. -/
lemma mapM_eq_error {f : α → Except ε β} {l : List α} {e : ε}
    (hsame : ∀ a ∈ l, (∃ b, f a = .ok b) ∨ f a = .error e) (h : ∃ a ∈ l, f a = .error e) :
    l.mapM f = .error e := by
  induction l with
  | nil =>
    obtain ⟨a, hmem, -⟩ := h
    cases hmem
  | cons a rest ih =>
    obtain ⟨hfirst, hrest⟩ := List.forall_mem_cons.mp hsame
    rw [List.mapM_cons]
    rcases hfirst with ⟨b, hb⟩ | herror
    · have hlater : ∃ a ∈ rest, f a = .error e := by
        obtain ⟨c, hmem, hc⟩ := h
        rcases List.mem_cons.mp hmem with rfl | hmem
        · cases hb.symm.trans hc
        · exact ⟨c, hmem, hc⟩
      rw [hb, ih hrest hlater]
      rfl
    · rw [herror]
      rfl

end DataGrid
