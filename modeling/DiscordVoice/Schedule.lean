import Mathlib.Data.List.Basic

namespace DiscordVoice.Schedule

variable {σ ι : Type}

/-- The state a schedule leads to; `none` when one of its actions is not enabled. -/
def exec (step : σ → ι → Option σ) : σ → List ι → Option σ
  | s, [] => some s
  | s, i :: is => (step s i).bind fun t ↦ exec step t is

/-- Every action of the schedule is taken in a state that allows it. -/
def Throughout (step : σ → ι → Option σ) (ok : σ → ι → Prop) : σ → List ι → Prop
  | _, [] => True
  | s, i :: is => ok s i ∧ ∀ t, step s i = some t → Throughout step ok t is

variable {step : σ → ι → Option σ} {ok : σ → ι → Prop}

theorem exec_cons {s t : σ} {i : ι} {is : List ι} (h : exec step s (i :: is) = some t) :
    ∃ u, step s i = some u ∧ exec step u is = some t := by
  simpa only [exec, Option.bind_eq_some_iff] using h

/-- What every allowed action preserves holds wherever an allowed schedule leads. -/
theorem exec_induction {I : σ → Prop}
    (hstep : ∀ s i t, I s → ok s i → step s i = some t → I t)
    {s t : σ} {is : List ι} (hs : I s) (hok : Throughout step ok s is)
    (h : exec step s is = some t) : I t := by
  induction is generalizing s with
  | nil =>
    simp only [exec, Option.some.injEq] at h
    exact h ▸ hs
  | cons i is ih =>
    obtain ⟨u, hu, hrest⟩ := exec_cons h
    exact ih (hstep s i u hs hok.1 hu) (hok.2 u hu) hrest

theorem throughout_true (s : σ) (is : List ι) : Throughout step (fun _ _ ↦ True) s is := by
  induction is generalizing s with
  | nil => trivial
  | cons i is ih => exact ⟨trivial, fun t _ ↦ ih t⟩

theorem throughout_of_always {is : List ι} (h : ∀ i ∈ is, ∀ s, ok s i) (s : σ) :
    Throughout step ok s is := by
  induction is generalizing s with
  | nil => trivial
  | cons i is ih =>
    exact ⟨h i List.mem_cons_self s, fun t _ ↦ ih (fun j hj ↦ h j (List.mem_cons_of_mem i hj)) t⟩

theorem throughout_of_forall {allows : ι → Prop} {is : List ι} (h : ∀ i ∈ is, allows i) (s : σ) :
    Throughout step (fun _ i ↦ allows i) s is :=
  throughout_of_always (fun i hi _ ↦ h i hi) s

theorem exec_concat {s t : σ} {i : ι} {is : List ι} (h : exec step s (is ++ [i]) = some t) :
    ∃ u, exec step s is = some u ∧ step u i = some t := by
  induction is generalizing s with
  | nil =>
    obtain ⟨u, hu, hrest⟩ := exec_cons h
    cases hrest
    exact ⟨s, rfl, hu⟩
  | cons j is ih =>
    obtain ⟨u, hu, hrest⟩ := exec_cons h
    obtain ⟨v, hv, hlast⟩ := ih hrest
    exact ⟨v, by simpa [exec, hu] using hv, hlast⟩

theorem exec_append (s : σ) (is js : List ι) :
    exec step s (is ++ js) = (exec step s is).bind fun t ↦ exec step t js := by
  induction is generalizing s with
  | nil => rfl
  | cons i is ih =>
    simp only [List.cons_append, exec, Option.bind_assoc, ih]

theorem throughout_append {s t : σ} {is js : List ι} (his : Throughout step ok s is)
    (ht : exec step s is = some t) (hjs : Throughout step ok t js) :
    Throughout step ok s (is ++ js) := by
  induction is generalizing s with
  | nil =>
    cases ht
    exact hjs
  | cons i is ih =>
    obtain ⟨u, hu, hrest⟩ := exec_cons ht
    refine ⟨his.1, fun v hv ↦ ?_⟩
    cases hu.symm.trans hv
    exact ih (his.2 u hu) hrest

theorem throughout_concat {s u : σ} {i : ι} {is : List ι}
    (h : Throughout step ok s (is ++ [i])) (hu : exec step s is = some u) :
    Throughout step ok s is ∧ ok u i := by
  induction is generalizing s with
  | nil =>
    cases hu
    exact ⟨trivial, h.1⟩
  | cons j is ih =>
    obtain ⟨v, hv, hrest⟩ := exec_cons hu
    refine ⟨⟨h.1, fun w hw ↦ ?_⟩, (ih (h.2 v hv) hrest).2⟩
    cases hv.symm.trans hw
    exact (ih (h.2 v hv) hrest).1

/-- `Throughout` for a condition that can be evaluated. -/
def allowed (step : σ → ι → Option σ) (ok : σ → ι → Bool) : σ → List ι → Bool
  | _, [] => true
  | s, i :: is => ok s i && (step s i).all fun t ↦ allowed step ok t is

theorem throughout_of_allowed {ok : σ → ι → Bool} {s : σ} {is : List ι}
    (h : allowed step ok s is = true) : Throughout step (fun s i ↦ ok s i = true) s is := by
  induction is generalizing s with
  | nil => trivial
  | cons i is ih =>
    simp only [allowed, Bool.and_eq_true] at h
    refine ⟨h.1, fun t ht ↦ ih ?_⟩
    simpa [ht] using h.2

theorem throughout_of_decide [∀ s i, Decidable (ok s i)] {s : σ} {is : List ι}
    (h : allowed step (fun s i ↦ decide (ok s i)) s is = true) : Throughout step ok s is := by
  induction is generalizing s with
  | nil => trivial
  | cons i is ih =>
    simp only [allowed, Bool.and_eq_true, decide_eq_true_eq] at h
    refine ⟨h.1, fun t ht ↦ ih ?_⟩
    simpa [ht] using h.2

theorem exec_invariant {I : σ → Prop} (hstep : ∀ s i t, I s → step s i = some t → I t)
    {s t : σ} {is : List ι} (hs : I s) (h : exec step s is = some t) : I t :=
  exec_induction (fun s i t hs _ ↦ hstep s i t hs) hs (throughout_true s is) h

end DiscordVoice.Schedule
