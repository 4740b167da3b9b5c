import Mathlib.Data.List.Basic
import Mathlib.Data.List.Perm.Subperm

namespace DiscordVoice.Greedy

variable {σ τ α : Type} {take : σ → α → Option σ} {keep : τ → α → Option τ}

def after (take : σ → α → Option σ) : σ → List α → σ
  | s, [] => s
  | s, x :: xs => after take ((take s x).getD s) xs

def taken (take : σ → α → Option σ) : σ → List α → List α
  | _, [] => []
  | s, x :: xs =>
    match take s x with
    | some t => x :: taken take t xs
    | none => taken take s xs

def refused (take : σ → α → Option σ) : σ → List α → List α
  | _, [] => []
  | s, x :: xs =>
    match take s x with
    | some t => refused take t xs
    | none => x :: refused take s xs

/-- What is refused once is refused again after more has been taken. -/
def Stubborn (take : σ → α → Option σ) : Prop :=
  ∀ s t a b, take s a = none → take s b = some t → take t a = none

theorem taken_sublist (s : σ) (xs : List α) : (taken take s xs).Sublist xs := by
  induction xs generalizing s with
  | nil => exact .slnil
  | cons x xs ih =>
    unfold taken
    split
    · exact (ih _).cons_cons x
    · exact (ih s).cons x

theorem refused_sublist (s : σ) (xs : List α) : (refused take s xs).Sublist xs := by
  induction xs generalizing s with
  | nil => exact .slnil
  | cons x xs ih =>
    unfold refused
    split
    · exact (ih _).cons x
    · exact (ih s).cons_cons x

theorem perm (s : σ) (xs : List α) : (taken take s xs ++ refused take s xs).Perm xs := by
  induction xs generalizing s with
  | nil => exact .refl []
  | cons x xs ih =>
    unfold taken refused
    cases take s x with
    | some t => exact (ih t).cons x
    | none => exact List.perm_middle.trans ((ih s).cons x)

theorem taken_append (s : σ) (xs ys : List α) :
    taken take s (xs ++ ys) = taken take s xs ++ taken take (after take s xs) ys := by
  induction xs generalizing s with
  | nil => rfl
  | cons x xs ih =>
    simp only [List.cons_append, taken, after]
    cases take s x <;> simp [ih]

theorem refused_of_taken_eq_nil {s : σ} {xs : List α} (h : taken take s xs = []) :
    refused take s xs = xs := by
  induction xs generalizing s with
  | nil => rfl
  | cons x xs ih =>
    unfold taken at h
    unfold refused
    split at h
    · cases h
    · rw [ih h]

/-- Nothing is taken behind an element that is refused. -/
def inOrder (take : σ → α → Option σ) : σ → List α → Bool
  | _, [] => true
  | s, x :: xs =>
    match take s x with
    | some t => inOrder take t xs
    | none => (taken take s xs).isEmpty

theorem taken_append_refused {s : σ} {xs : List α} (h : inOrder take s xs = true) :
    taken take s xs ++ refused take s xs = xs := by
  induction xs generalizing s with
  | nil => rfl
  | cons x xs ih =>
    unfold inOrder at h
    unfold taken refused
    cases hx : take s x with
    | some t =>
      rw [hx] at h
      exact congrArg (x :: ·) (ih h)
    | none =>
      rw [hx] at h
      have hnone := List.isEmpty_iff.mp h
      rw [hnone, refused_of_taken_eq_nil hnone]
      rfl

section Stubborn

variable (hstubborn : Stubborn take)

include hstubborn

/-- What is refused now is refused whatever is offered before it comes again. -/
theorem Stubborn.after {s : σ} {a : α} (ha : take s a = none) (xs : List α) :
    take (after take s xs) a = none := by
  induction xs generalizing s with
  | nil => exact ha
  | cons x xs ih =>
    apply ih
    cases hx : take s x with
    | none => exact ha
    | some t => exact hstubborn s t a x ha hx

theorem Stubborn.not_mem_taken {s : σ} {a : α} (ha : take s a = none) (xs : List α) :
    a ∉ taken take s xs := by
  induction xs generalizing s with
  | nil => exact List.not_mem_nil
  | cons x xs ih =>
    unfold taken
    split
    · rename_i t hx
      rintro (_ | hmem)
      · cases ha.symm.trans hx
      · exact ih (hstubborn s t a x ha hx) ‹_›
    · exact ih ha

theorem Stubborn.of_mem_refused {s : σ} {a : α} {xs : List α} (ha : a ∈ refused take s xs) :
    take (Greedy.after take s xs) a = none := by
  induction xs generalizing s with
  | nil => cases ha
  | cons x xs ih =>
    unfold refused at ha
    unfold Greedy.after
    cases hx : take s x with
    | some t =>
      rw [hx] at ha
      exact ih ha
    | none =>
      rw [hx] at ha
      rcases List.mem_cons.mp ha with rfl | hmem
      · exact hstubborn.after hx xs
      · exact ih hmem

theorem Stubborn.sublist_cons {s : σ} {x : α} {xs rest : List α} (hx : take s x = none)
    (htaken : taken take s xs ≠ []) (h : (taken take s xs ++ rest).Sublist (x :: xs)) :
    (taken take s xs ++ rest).Sublist xs := by
  rcases htail : taken take s xs with _ | ⟨y, ys⟩
  · exact absurd htail htaken
  · rw [htail] at h
    have hne : y ≠ x := by
      rintro rfl
      exact hstubborn.not_mem_taken hx xs (by simp [htail])
    rcases List.sublist_cons_iff.mp h with h | ⟨r, hr, -⟩
    · exact h
    · exact absurd (List.cons.inj hr).1 hne

theorem Stubborn.sublist_refused {s : σ} {xs rest : List α}
    (h : (taken take s xs ++ rest).Sublist xs) : rest.Sublist (refused take s xs) := by
  induction xs generalizing s with
  | nil => exact h
  | cons x xs ih =>
    unfold taken at h
    unfold refused
    cases hx : take s x with
    | some t =>
      rw [hx] at h
      exact ih (List.cons_sublist_cons.mp h)
    | none =>
      rw [hx] at h
      by_cases htaken : taken take s xs = []
      · rw [htaken] at h
        rwa [refused_of_taken_eq_nil htaken]
      · exact (ih (hstubborn.sublist_cons hx htaken h)).cons x

end Stubborn

/-- The refused elements that a second taker, offered them from the last one on, keeps. -/
def kept (take : σ → α → Option σ) (keep : τ → α → Option τ) (s : σ) (k : τ) (xs : List α) : List α :=
  (taken keep k (refused take s xs).reverse).reverse

/-- An element is refused and kept although one behind it is taken. -/
def Overtaken (take : σ → α → Option σ) (keep : τ → α → Option τ) (s : σ) (k : τ) (xs : List α) :
    Prop :=
  ∃ before x behind, xs = before ++ x :: behind ∧ take (after take s before) x = none ∧
    taken take (after take s before) behind ≠ [] ∧
    keep (after keep k (refused take (after take s before) behind).reverse) x ≠ none

theorem kept_sublist (s : σ) (k : τ) (xs : List α) :
    (kept take keep s k xs).Sublist (refused take s xs) := by
  have h : (taken keep k (refused take s xs).reverse).Sublist (refused take s xs).reverse :=
    taken_sublist k _
  have hreversed := h.reverse
  rwa [List.reverse_reverse] at hreversed

theorem kept_cons_of_taken {s t : σ} {k : τ} {x : α} {xs : List α} (h : take s x = some t) :
    kept take keep s k (x :: xs) = kept take keep t k xs := by
  simp only [kept, refused, h]

theorem kept_cons_of_refused {s : σ} {k : τ} {x : α} {xs : List α} (h : take s x = none) :
    kept take keep s k (x :: xs) =
      if (keep (after keep k (refused take s xs).reverse) x).isSome then
        x :: kept take keep s k xs
      else kept take keep s k xs := by
  simp only [kept, refused, h, List.reverse_cons, taken_append, List.reverse_append]
  simp only [taken]
  cases keep (after keep k (refused take s xs).reverse) x <;> rfl

theorem overtaken_cons_of_taken {s t : σ} {k : τ} {x : α} {xs : List α} (h : take s x = some t) :
    Overtaken take keep s k (x :: xs) ↔ Overtaken take keep t k xs := by
  have hafter : ∀ before, after take s (x :: before) = after take t before := fun before ↦ by
    simp only [after, h, Option.getD_some]
  constructor
  · rintro ⟨before, y, behind, heq, hrefused, htaken, hkept⟩
    rcases before with _ | ⟨z, before⟩
    · obtain ⟨rfl, rfl⟩ := List.cons.inj heq
      cases h.symm.trans hrefused
    · obtain ⟨rfl, rfl⟩ := List.cons.inj heq
      rw [hafter] at hrefused htaken hkept
      exact ⟨before, y, behind, rfl, hrefused, htaken, hkept⟩
  · rintro ⟨before, y, behind, rfl, hrefused, htaken, hkept⟩
    refine ⟨x :: before, y, behind, rfl, ?_, ?_, ?_⟩ <;> rw [hafter]
    · exact hrefused
    · exact htaken
    · exact hkept

theorem overtaken_cons_of_refused {s : σ} {k : τ} {x : α} {xs : List α} (h : take s x = none) :
    Overtaken take keep s k (x :: xs) ↔
      taken take s xs ≠ [] ∧ keep (after keep k (refused take s xs).reverse) x ≠ none ∨
        Overtaken take keep s k xs := by
  have hafter : ∀ before, after take s (x :: before) = after take s before := fun before ↦ by
    simp only [after, h, Option.getD_none]
  constructor
  · rintro ⟨before, y, behind, heq, hrefused, htaken, hkept⟩
    rcases before with _ | ⟨z, before⟩
    · obtain ⟨rfl, rfl⟩ := List.cons.inj heq
      exact .inl ⟨htaken, hkept⟩
    · obtain ⟨rfl, rfl⟩ := List.cons.inj heq
      rw [hafter] at hrefused htaken hkept
      exact .inr ⟨before, y, behind, rfl, hrefused, htaken, hkept⟩
  · rintro (⟨htaken, hkept⟩ | ⟨before, y, behind, rfl, hrefused, htaken, hkept⟩)
    · exact ⟨[], x, xs, rfl, h, htaken, hkept⟩
    · refine ⟨x :: before, y, behind, rfl, ?_, ?_, ?_⟩ <;> rw [hafter]
      · exact hrefused
      · exact htaken
      · exact hkept

/-- What is taken, followed by what is kept of the rest, is in the order of the list exactly when
nothing kept is overtaken. -/
theorem sublist_iff_not_overtaken (hstubborn : Stubborn take) (hkeep : Stubborn keep) (s : σ) (k : τ)
    (xs : List α) :
    (taken take s xs ++ kept take keep s k xs).Sublist xs ↔ ¬Overtaken take keep s k xs := by
  induction xs generalizing s with
  | nil => simp [taken, kept, refused, Overtaken]
  | cons x xs ih =>
    cases hx : take s x with
    | some t =>
      rw [overtaken_cons_of_taken hx, kept_cons_of_taken hx, ← ih t]
      simp only [taken, hx, List.cons_append, List.cons_sublist_cons]
    | none =>
      have hkept : (kept take keep s k xs).Sublist xs :=
        (kept_sublist s k xs).trans (refused_sublist s xs)
      rw [overtaken_cons_of_refused hx, kept_cons_of_refused hx, not_or, ← ih s]
      simp only [taken, hx]
      by_cases htaken : taken take s xs = []
      · rw [htaken, List.nil_append, List.nil_append]
        refine iff_of_true ?_ ⟨fun hov ↦ hov.1 rfl, hkept⟩
        split_ifs
        · exact hkept.cons_cons x
        · exact hkept.cons x
      · rcases hy : keep (after keep k (refused take s xs).reverse) x with _ | k'
        · simp only [Option.isSome_none, Bool.false_eq_true, if_false, ne_eq, not_true, and_false,
            not_false_eq_true, true_and]
          exact ⟨hstubborn.sublist_cons hx htaken, fun h ↦ h.cons x⟩
        · simp only [Option.isSome_some, if_true, ne_eq, htaken, not_false_eq_true, reduceCtorEq,
            and_self, not_true, false_and, iff_false]
          intro h
          have hrefused := hstubborn.sublist_refused (hstubborn.sublist_cons hx htaken h)
          have hreverse := hrefused.reverse
          rw [kept, List.reverse_cons, List.reverse_reverse] at hreverse
          have hmem := (hkeep.sublist_refused hreverse).mem (List.mem_singleton_self x)
          cases hy.symm.trans (hkeep.of_mem_refused hmem)

end DiscordVoice.Greedy
