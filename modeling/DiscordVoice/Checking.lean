import DiscordVoice.Fallible
import Mathlib.Data.List.Basic

namespace DiscordVoice.Checking

open Fallible

variable {α σ β ε : Type}

/-- `bail!` where the condition holds. -/
def bailIf (condition : Prop) [Decidable condition] (message : ε) : Except ε Unit :=
  if condition then .error message else .ok ()

@[simp] theorem bailIf_ok_iff {condition : Prop} [Decidable condition] {message : ε} {u : Unit} :
    bailIf condition message = .ok u ↔ ¬condition := by
  unfold bailIf
  split <;> simp [*]

@[simp] theorem bailIf_bind_ok_iff {condition : Prop} [Decidable condition] {message : ε}
    {f : Unit → Except ε β} {b : β} :
    (bailIf condition message >>= f) = .ok b ↔ ¬condition ∧ f () = .ok b := by
  rw [except_bind_ok_iff]
  constructor
  · rintro ⟨u, hu, hf⟩
    exact ⟨bailIf_ok_iff.mp hu, hf⟩
  · rintro ⟨hcondition, hf⟩
    exact ⟨(), bailIf_ok_iff.mpr hcondition, hf⟩

theorem check_bind_ok_iff {x : Except ε Unit} {f : Unit → Except ε β} {b : β} :
    (x >>= f) = .ok b ↔ x = .ok () ∧ f () = .ok b := by
  rw [except_bind_ok_iff]
  exact ⟨fun ⟨(), hx, hf⟩ ↦ ⟨hx, hf⟩, fun ⟨hx, hf⟩ ↦ ⟨(), hx, hf⟩⟩

/-- A loop over a list with its indices that goes on as long as no element is refused. -/
def checkEach (step : σ → ℕ → α → Except ε σ) (s : σ) (index : ℕ) : List α → Except ε σ
  | [] => .ok s
  | a :: l => do
    let s ← step s index a
    checkEach step s (index + 1) l

theorem checkEach_concat_ok_iff {step : σ → ℕ → α → Except ε σ} {s t : σ} {index : ℕ} {l : List α}
    {a : α} : checkEach step s index (l ++ [a]) = .ok t ↔
      ∃ u, checkEach step s index l = .ok u ∧ step u (index + l.length) a = .ok t := by
  induction l generalizing s index with
  | nil =>
    simp only [List.nil_append, checkEach, except_bind_ok_iff, Except.ok.injEq, exists_eq_right,
      exists_eq_left', List.length_nil, Nat.add_zero]
  | cons b l ih =>
    simp only [List.cons_append, checkEach, except_bind_ok_iff, ih, List.length_cons,
      show index + (l.length + 1) = index + 1 + l.length by omega]
    constructor
    · rintro ⟨u, hu, v, hv, ht⟩
      exact ⟨v, ⟨u, hu, hv⟩, ht⟩
    · rintro ⟨v, ⟨u, hu, hv⟩, ht⟩
      exact ⟨u, hu, v, hv, ht⟩

/-- Where a step goes on in a state that does not depend on its checks, the loop ends in the state
that the elements lead to, if each of them is good where it stands. -/
theorem checkEach_ok_iff {step : σ → ℕ → α → Except ε σ} {next : σ → α → σ}
    {Good : σ → ℕ → α → Prop}
    (hstep : ∀ s i a t, step s i a = .ok t ↔ Good s i a ∧ t = next s a) (l : List α) (s t : σ)
    (index : ℕ) : checkEach step s index l = .ok t ↔
      (∀ k a, l[k]? = some a → Good ((l.take k).foldl next s) (index + k) a) ∧
        t = l.foldl next s := by
  induction l generalizing s index with
  | nil => simp [checkEach, eq_comm]
  | cons b l ih =>
    rw [checkEach, except_bind_ok_iff]
    constructor
    · rintro ⟨u, hu, hrest⟩
      obtain ⟨hgood, rfl⟩ := (hstep s index b u).mp hu
      obtain ⟨hall, rfl⟩ := (ih (next s b) (index + 1)).mp hrest
      refine ⟨fun k a ha ↦ ?_, rfl⟩
      cases k with
      | zero =>
        obtain rfl : b = a := by simpa using ha
        exact hgood
      | succ k =>
        rw [show index + (k + 1) = index + 1 + k by omega]
        exact hall k a (by simpa using ha)
    · rintro ⟨hall, rfl⟩
      refine ⟨next s b, (hstep s index b _).mpr ⟨hall 0 b rfl, rfl⟩, ?_⟩
      refine (ih (next s b) (index + 1)).mpr ⟨fun k a ha ↦ ?_, rfl⟩
      rw [show index + 1 + k = index + (k + 1) by omega]
      exact hall (k + 1) a (by simpa using ha)

/-- What is left of a numbered list and still numbered like it is a front part of it. -/
theorem isPrefix_of_numbered {number : α → ℕ} {left all : List α} (hsub : left.Sublist all)
    {start : ℕ} (hall : ∀ k a, all[k]? = some a → number a = start + k)
    (hleft : ∀ k a, left[k]? = some a → number a = start + k) : left <+: all := by
  induction hsub generalizing start with
  | slnil => exact List.prefix_rfl
  | @cons left all b hsub ih =>
    cases left with
    | nil => exact List.nil_prefix
    | cons a left =>
      obtain ⟨k, hk, hget⟩ := List.mem_iff_getElem.mp (hsub.mem List.mem_cons_self)
      have hfirst := hleft 0 a rfl
      have hlater := hall (k + 1) a (by simpa [List.getElem?_eq_some_iff] using ⟨hk, hget⟩)
      omega
  | @cons_cons left all b hsub ih =>
    have hnext (k : ℕ) (a : α) (hk : all[k]? = some a) : number a = start + 1 + k := by
      rw [hall (k + 1) a hk]
      omega
    refine List.cons_prefix_cons.mpr ⟨rfl, ih hnext fun k a hk ↦ ?_⟩
    rw [hleft (k + 1) a hk]
    omega

end DiscordVoice.Checking
