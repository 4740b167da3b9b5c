import Mathlib.Data.List.Basic
import Mathlib.Logic.Function.Iterate

namespace DiscordVoice.Chains

variable {α β : Type} {start stop : α → β}

/-- The elements of the list lead from one point to another, each starting where the one before it
stops. -/
def Spans (start stop : α → β) : β → List α → β → Prop
  | a, [], b => a = b
  | a, x :: xs, b => start x = a ∧ Spans start stop (stop x) xs b

@[simp] theorem spans_nil {a b : β} : Spans start stop a [] b ↔ a = b := Iff.rfl

@[simp] theorem spans_cons {a b : β} {x : α} {xs : List α} :
    Spans start stop a (x :: xs) b ↔ start x = a ∧ Spans start stop (stop x) xs b := Iff.rfl

theorem spans_append {a c : β} {xs ys : List α} :
    Spans start stop a (xs ++ ys) c ↔ ∃ b, Spans start stop a xs b ∧ Spans start stop b ys c := by
  induction xs generalizing a with
  | nil => simp
  | cons x xs ih =>
    simp only [List.cons_append, spans_cons, ih]
    constructor
    · rintro ⟨hx, b, hxs, hys⟩
      exact ⟨b, ⟨hx, hxs⟩, hys⟩
    · rintro ⟨b, ⟨hx, hxs⟩, hys⟩
      exact ⟨hx, b, hxs, hys⟩

theorem spans_concat {a b : β} {xs : List α} {x : α} (h : Spans start stop a xs b)
    (hx : start x = b) : Spans start stop a (xs ++ [x]) (stop x) :=
  spans_append.mpr ⟨b, h, hx, rfl⟩

/-- A quantity that every element raises by one counts the elements. -/
theorem Spans.counts {γ : Type} {f : β → γ} {up : γ → γ} (hup : ∀ x, f (stop x) = up (f (start x)))
    {a b : β} {xs : List α} (h : Spans start stop a xs b) (i : ℕ) (hi : i < xs.length) :
    f (start xs[i]) = up^[i] (f a) := by
  induction xs generalizing a i with
  | nil => simp at hi
  | cons x xs ih =>
    obtain ⟨rfl, hxs⟩ := h
    cases i with
    | zero => rfl
    | succ i =>
      rw [Function.iterate_succ_apply, ← hup x]
      exact ih hxs i (by simpa using hi)

/-- A property that stays once it holds cuts a list in two. -/
theorem exists_append_filter {keep : α → Bool} {xs : List α}
    (h : xs.Pairwise fun a b ↦ keep a = true → keep b = true) :
    ∃ before, xs = before ++ xs.filter keep ∧ ∀ x ∈ before, keep x = false := by
  induction xs with
  | nil => exact ⟨[], rfl, by simp⟩
  | cons x xs ih =>
    obtain ⟨hx, hxs⟩ := List.pairwise_cons.mp h
    by_cases hkeep : keep x = true
    · refine ⟨[], ?_, by simp⟩
      rw [List.nil_append, List.filter_eq_self.mpr]
      intro y hy
      rcases List.mem_cons.mp hy with rfl | hy
      · exact hkeep
      · exact hx y hy hkeep
    · obtain ⟨before, hsplit, hbefore⟩ := ih hxs
      refine ⟨x :: before, ?_, ?_⟩
      · rw [List.filter_cons_of_neg hkeep, List.cons_append, ← hsplit]
      · intro y hy
        rcases List.mem_cons.mp hy with rfl | hy
        · exact Bool.not_eq_true _ ▸ hkeep
        · exact hbefore y hy

end DiscordVoice.Chains
