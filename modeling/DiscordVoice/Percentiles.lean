import Mathlib.Data.List.Sort

namespace DiscordVoice

variable {α β : Type}

/-- A sort by a key that may put equal keys in any order, but that looks at nothing else than the
keys. -/
structure UnstableSort where
  byKey : {α : Type} → (α → ℕ) → List α → List α
  perm : ∀ {α : Type} (key : α → ℕ) (l : List α), (byKey key l).Perm l
  sorted : ∀ {α : Type} (key : α → ℕ) (l : List α),
    (byKey key l).Pairwise fun a b ↦ key a ≤ key b
  natural : ∀ {α β : Type} (f : α → β) (key : β → ℕ) (l : List α),
    byKey key (l.map f) = (byKey (key ∘ f) l).map f

namespace UnstableSort

def insertion : UnstableSort where
  byKey key l := l.insertionSort fun a b ↦ key a ≤ key b
  perm _ l := l.perm_insertionSort _
  sorted key l :=
    haveI : Std.Total fun a b ↦ key a ≤ key b := ⟨fun a b ↦ Nat.le_total (key a) (key b)⟩
    haveI : IsTrans _ fun a b ↦ key a ≤ key b := ⟨fun _ _ _ ↦ Nat.le_trans⟩
    l.pairwise_insertionSort _
  natural f _ l := (List.map_insertionSort _ _ f l fun _ _ _ _ ↦ Iff.rfl).symm

@[simp] theorem length_byKey (s : UnstableSort) (key : α → ℕ) (l : List α) :
    (s.byKey key l).length = l.length :=
  (s.perm key l).length_eq

end UnstableSort

/-- `div_ceil`. -/
def divCeil (a b : ℕ) : ℕ := (a + b - 1) / b

def percentileIndex (length percent : ℕ) : ℕ := divCeil ((length - 1) * percent) 100

theorem percentileIndex_lt {length percent : ℕ} (hlength : 0 < length) (hpercent : percent ≤ 100) :
    percentileIndex length percent < length := by
  have hscaled : (length - 1) * percent ≤ (length - 1) * 100 := Nat.mul_le_mul_left _ hpercent
  rw [percentileIndex, divCeil]
  omega

/-- At least as many small elements as the place of a large one says, and no more. -/
theorem le_sorted_iff {f : α → ℕ} {l : List α} (hsorted : l.Pairwise fun a b ↦ f a ≤ f b)
    {i : ℕ} {a : α} (ha : l[i]? = some a) (x : ℕ) : x ≤ f a ↔ l.countP (f · < x) ≤ i := by
  induction l generalizing i with
  | nil => simp at ha
  | cons b l ih =>
    obtain ⟨hb, hsorted⟩ := List.pairwise_cons.mp hsorted
    by_cases hx : f b < x
    · rw [List.countP_cons_of_pos (by simpa using hx)]
      cases i with
      | zero =>
        obtain rfl : b = a := by simpa using ha
        omega
      | succ i =>
        rw [ih hsorted (by simpa using ha)]
        omega
    · have hnone : (b :: l).countP (f · < x) = 0 := by
        refine List.countP_eq_zero.mpr fun c hc ↦ ?_
        rcases List.mem_cons.mp hc with rfl | hc
        · simpa using hx
        · have hbc := hb c hc
          simp only [decide_eq_true_eq]
          omega
      have hba : f b ≤ f a := by
        rcases List.mem_cons.mp (List.mem_of_getElem? ha) with rfl | hc
        · exact Nat.le_refl _
        · exact hb a hc
      rw [hnone]
      omega

theorem sorted_le_iff {f : α → ℕ} {l : List α} (hsorted : l.Pairwise fun a b ↦ f a ≤ f b)
    {i : ℕ} {a : α} (ha : l[i]? = some a) (x : ℕ) : f a ≤ x ↔ i < l.countP (f · ≤ x) := by
  have h := le_sorted_iff hsorted ha (x + 1)
  simp only [Nat.lt_succ_iff] at h
  omega

end DiscordVoice
