import Mathlib.Data.List.Basic
import Mathlib.Data.List.Induction
import Mathlib.Order.Bounds.Basic

namespace DiscordVoice.MarkedMinimum

variable {α : Type*} [LinearOrder α]

/-- A minimum that is kept in the range of its values, where the mark stands for none so far. -/
def keep (mark least x : α) : α := if least = mark then x else min least x

def shown (mark : α) (xs : List α) : α := xs.foldl (keep mark) mark

def MarkLast (mark : α) (xs : List α) : Prop := xs.Pairwise fun x y ↦ x = mark → y = mark

variable {mark : α} {xs : List α} {x : α}

theorem shown_concat (mark : α) (xs : List α) (x : α) :
    shown mark (xs ++ [x]) = keep mark (shown mark xs) x := List.foldl_concat ..

omit [LinearOrder α] in
theorem markLast_concat :
    MarkLast mark (xs ++ [x]) ↔ MarkLast mark xs ∧ (mark ∈ xs → x = mark) := by
  rw [MarkLast, List.pairwise_append]
  constructor
  · rintro ⟨hlast, -, hafter⟩
    exact ⟨hlast, fun hmark ↦ hafter mark hmark x List.mem_cons_self rfl⟩
  · rintro ⟨hlast, hafter⟩
    refine ⟨hlast, List.pairwise_singleton _ _, ?_⟩
    rintro _ hy z hz rfl
    rw [List.mem_singleton.mp hz]
    exact hafter hy

theorem MarkLast.isLeast (h : MarkLast mark xs) (hmark : IsBot mark) (hxs : xs ≠ []) :
    IsLeast {x | x ∈ xs} (shown mark xs) := by
  induction xs using List.reverseRecOn with
  | nil => exact absurd rfl hxs
  | append_singleton xs x ih =>
    obtain ⟨hlast, hafter⟩ := markLast_concat.mp h
    rw [shown_concat]
    unfold keep
    by_cases hsome : xs = []
    · subst hsome
      rw [shown, List.foldl_nil, if_pos rfl]
      refine ⟨List.mem_append_right _ List.mem_cons_self, ?_⟩
      intro z hz
      exact (List.mem_singleton.mp hz).ge
    · obtain ⟨hmem, hle⟩ := ih hlast hsome
      split_ifs with hunset
      · obtain rfl := hafter (hunset ▸ hmem)
        exact ⟨List.mem_append_right _ List.mem_cons_self, fun z _ ↦ hmark z⟩
      · refine ⟨?_, ?_⟩
        · rcases le_total (shown mark xs) x with hleast | hleast
          · rw [min_eq_left hleast]
            exact List.mem_append_left _ hmem
          · rw [min_eq_right hleast]
            exact List.mem_append_right _ List.mem_cons_self
        · intro z hz
          rcases List.mem_append.mp hz with hz | hz
          · exact (min_le_left _ _).trans (hle hz)
          · rw [List.mem_singleton.mp hz]
            exact min_le_right _ _

theorem MarkLast.concat_iff (h : MarkLast mark xs) (hmark : IsBot mark) :
    MarkLast mark (xs ++ [x]) ↔ (xs ≠ [] → shown mark (xs ++ [x]) ≤ shown mark xs) := by
  rw [markLast_concat, shown_concat]
  unfold keep
  constructor
  · rintro ⟨-, hafter⟩ hxs
    split_ifs with hunset
    · have hmem : shown mark xs ∈ xs := (h.isLeast hmark hxs).1
      rw [hunset] at hmem ⊢
      exact (hafter hmem).le
    · exact min_le_left _ _
  · intro hle
    refine ⟨h, ?_⟩
    intro hmem
    have hxs : xs ≠ [] := List.ne_nil_of_mem hmem
    have hshown : shown mark xs = mark :=
      le_antisymm ((h.isLeast hmark hxs).2 hmem) (hmark _)
    have hx := hle hxs
    rw [if_pos hshown, hshown] at hx
    exact le_antisymm hx (hmark x)

section Calls

variable {C : Type*} {values : List C → List α}

/-- A call adds a value or none. -/
structure Grows (values : List C → List α) : Prop where
  nil : values [] = []
  concat : ∀ calls x, ∃ new : Option α, values (calls ++ [x]) = values calls ++ new.toList

def NeverIncreases (mark : α) (values : List C → List α) (calls : List C) : Prop :=
  ∀ before x, before ++ [x] <+: calls → values before ≠ [] →
    shown mark (values (before ++ [x])) ≤ shown mark (values before)

theorem Grows.markLast_iff (h : Grows values) (hmark : IsBot mark) (calls : List C) :
    NeverIncreases mark values calls ↔ MarkLast mark (values calls) := by
  induction calls using List.reverseRecOn with
  | nil =>
    rw [h.nil]
    refine ⟨fun _ ↦ List.Pairwise.nil, ?_⟩
    intro _ before x hbegins
    simp at hbegins
  | append_singleton calls x ih =>
    have hsplit : NeverIncreases mark values (calls ++ [x]) ↔ NeverIncreases mark values calls ∧
        (values calls ≠ [] → shown mark (values (calls ++ [x])) ≤ shown mark (values calls)) := by
      constructor
      · intro hnever
        refine ⟨?_, hnever calls x List.prefix_rfl⟩
        intro before y hbegins
        exact hnever before y (hbegins.trans (List.prefix_append _ _))
      · rintro ⟨hnever, hlast⟩ before y hbegins
        rcases List.prefix_concat_iff.mp hbegins with hwhole | hbegins
        · obtain ⟨rfl, hsame⟩ := List.append_inj' hwhole rfl
          obtain rfl := List.singleton_inj.mp hsame
          exact hlast
        · exact hnever before y hbegins
    obtain ⟨new, hnew⟩ := h.concat calls x
    rw [hsplit, ih, hnew]
    cases new with
    | none =>
      rw [Option.toList_none, List.append_nil]
      exact ⟨And.left, fun hlast ↦ ⟨hlast, fun _ ↦ le_rfl⟩⟩
    | some value =>
      rw [Option.toList_some]
      constructor
      · rintro ⟨hlast, hle⟩
        exact (hlast.concat_iff hmark).mpr hle
      · intro hlast
        have hbefore := (markLast_concat.mp hlast).1
        exact ⟨hbefore, (hbefore.concat_iff hmark).mp hlast⟩

/-- What is kept is the minimum of the values once there is one, and never increases from then on. -/
structure KeepsMinimum (present : List C → Prop) (kept : List C → α) (values : List C → List α)
    (calls : List C) : Prop where
  isLeast : present calls → IsLeast {x | x ∈ values calls} (kept calls)
  neverIncreases : ∀ before x, before ++ [x] <+: calls → present before →
    kept (before ++ [x]) ≤ kept before

/-- A minimum kept with a mark is one as long as the mark is last. -/
theorem Grows.keepsMinimum_iff (h : Grows values) (hmark : IsBot mark) {present : List C → Prop}
    {kept : List C → α} (hpresent : ∀ calls, present calls ↔ values calls ≠ [])
    (hkept : ∀ calls, kept calls = shown mark (values calls)) (calls : List C) :
    KeepsMinimum present kept values calls ↔ MarkLast mark (values calls) := by
  have hnever := h.markLast_iff hmark calls
  constructor
  · rintro ⟨-, hle⟩
    apply hnever.mp
    intro before x hbegins hbefore
    rw [← hkept, ← hkept]
    exact hle before x hbegins ((hpresent before).mpr hbefore)
  · intro hlast
    refine ⟨?_, ?_⟩
    · intro hsome
      rw [hkept]
      exact hlast.isLeast hmark ((hpresent calls).mp hsome)
    · intro before x hbegins hsome
      rw [hkept, hkept]
      exact hnever.mpr hlast before x hbegins ((hpresent before).mp hsome)

end Calls

end DiscordVoice.MarkedMinimum
