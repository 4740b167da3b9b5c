import Mathlib.Algebra.BigOperators.Group.List.Basic
import Mathlib.Algebra.GroupWithZero.Nat
import Mathlib.Algebra.Order.Group.Nat

namespace DiscordVoice.BoundedDeque

variable {α : Type*}

def total (w : α → ℕ) (xs : List α) : ℕ := (xs.map w).sum

@[simp] theorem total_nil (w : α → ℕ) : total w [] = 0 := rfl

@[simp] theorem total_cons (w : α → ℕ) (x : α) (xs : List α) :
    total w (x :: xs) = w x + total w xs := by
  simp only [total, List.map_cons, List.sum_cons]

theorem total_tail_le (w : α → ℕ) (xs : List α) : total w xs.tail ≤ total w xs := by
  cases xs with
  | nil => exact Nat.le_refl _
  | cons x xs =>
    rw [List.tail_cons, total_cons]
    omega

theorem total_filter_le (w : α → ℕ) (p : α → Bool) (xs : List α) :
    total w (xs.filter p) ≤ total w xs := by
  induction xs with
  | nil => exact Nat.le_refl _
  | cons x xs ih =>
    rw [List.filter_cons]
    split
    · rw [total_cons, total_cons]
      omega
    · rw [total_cons]
      omega

theorem total_map {w : α → ℕ} {f : α → α} (h : ∀ x, w (f x) = w x) (xs : List α) :
    total w (xs.map f) = total w xs := by
  simp only [total, List.map_map]
  congr 1
  exact List.map_congr_left fun x _ ↦ h x

/-- A counter that is added up with a ceiling holds the sum, up to the ceiling. -/
theorem foldl_min_add (w : α → ℕ) (ceiling : ℕ) (xs : List α) {n : ℕ} (hn : n ≤ ceiling) :
    xs.foldl (fun n x ↦ min (n + w x) ceiling) n = min (n + total w xs) ceiling := by
  induction xs generalizing n with
  | nil => rw [List.foldl_nil, total_nil, Nat.add_zero, min_eq_left hn]
  | cons x xs ih =>
    rw [List.foldl_cons, ih (min_le_right _ _), total_cons]
    omega

inductive Call (α : Type*)
  | push (a : α)
  | pushFront (a : α)
  | pop
  | retain (keep : α → Bool)
  | update (f : α → α)

/-- What a call does to a deque without limits. -/
def Call.plain : Call α → List α → List α
  | .push a, xs => xs ++ [a]
  | .pushFront a, xs => a :: xs
  | .pop, xs => xs.tail
  | .retain keep, xs => xs.filter keep
  | .update f, xs => xs.map f

def Call.offered : Call α → List α
  | .push a => [a]
  | .pushFront a => [a]
  | _ => []

def offered (calls : List (Call α)) : List α := calls.flatMap Call.offered

/-- A push that is refused just when there is no room, and then hands the element back and changes
nothing. -/
structure RefusesWithoutRoom {σ : Type*} (hasRoom : Prop) (s : σ) (a : α)
    (result : Except α Unit × σ) : Prop where
  refused_iff : (∃ back, result.1 = .error back) ↔ ¬ hasRoom
  unchanged : ∀ back, result.1 = .error back → back = a ∧ result.2 = s

theorem refusesWithoutRoom_of {σ : Type*} {hasRoom : Prop} {s s' : σ} {a : α}
    {result : Except α Unit × σ} (hroom : hasRoom → result = (.ok (), s'))
    (hfull : ¬ hasRoom → result = (.error a, s)) : RefusesWithoutRoom hasRoom s a result := by
  by_cases h : hasRoom
  · rw [hroom h]
    constructor
    · exact iff_of_false (by simp) (not_not_intro h)
    · rintro back ⟨⟩
  · rw [hfull h]
    constructor
    · exact iff_of_true ⟨a, rfl⟩ h
    · rintro back ⟨⟩
      exact ⟨rfl, rfl⟩

section Run

variable {σ γ : Type*} (step : σ → γ → Bool × σ)

def run (s : σ) (calls : List γ) : σ := calls.foldl (fun s c ↦ (step s c).2) s

def accepted : σ → List γ → List γ
  | _, [] => []
  | s, c :: calls =>
    if (step s c).1 then c :: accepted (step s c).2 calls else accepted (step s c).2 calls

variable {step} {items : σ → List α} {plain : γ → List α → List α}

/-- A queue whose accepted calls do what they do to a plain deque, and whose refused calls do
nothing, holds what the deque holds after the accepted calls. -/
theorem items_run (Good : σ → List γ → Prop) {s : σ} {calls : List γ} (h : Good s calls)
    (hstep : ∀ s c calls, Good s (c :: calls) → Good (step s c).2 calls ∧
      items (step s c).2 = if (step s c).1 then plain c (items s) else items s) :
    Good (run step s calls) [] ∧
      items (run step s calls) = (accepted step s calls).foldl (fun xs c ↦ plain c xs) (items s) := by
  induction calls generalizing s with
  | nil => exact ⟨h, rfl⟩
  | cons c calls ih =>
    obtain ⟨hgood, hitems⟩ := hstep s c calls h
    obtain ⟨hend, hrun⟩ := ih hgood
    refine ⟨hend, ?_⟩
    rw [accepted]
    split
    next haccepted =>
      rw [if_pos haccepted] at hitems
      rw [List.foldl_cons, ← hitems]
      exact hrun
    next hrefused =>
      rw [if_neg hrefused] at hitems
      rw [← hitems]
      exact hrun

end Run

end DiscordVoice.BoundedDeque
