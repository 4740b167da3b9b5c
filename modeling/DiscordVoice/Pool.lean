import DiscordVoice.Schedule
import Mathlib.Data.List.GetD

namespace DiscordVoice

/-- Tasks that run concurrently over a shared state. -/
structure Pool (σ τ : Type) where
  shared : σ
  tasks : List τ
  deriving DecidableEq, Repr

namespace Pool

variable {σ τ κ α ε : Type}

/-- What moves a pool: a new task, one step of a task with what it is answered, or the environment. -/
inductive Move (κ α ε : Type)
  | start (c : κ)
  | task (i : ℕ) (answer : α)
  | env (e : ε)
  deriving DecidableEq, Repr

structure Machine (σ τ κ α ε : Type) where
  start : κ → τ
  task : σ → τ → α → Option (σ × τ × List τ)
  env : σ → ε → Option σ

def step (m : Machine σ τ κ α ε) (p : Pool σ τ) : Move κ α ε → Option (Pool σ τ)
  | .start c => some ⟨p.shared, p.tasks ++ [m.start c]⟩
  | .task i answer => do
    let t ← p.tasks[i]?
    let (shared, t', spawned) ← m.task p.shared t answer
    return ⟨shared, p.tasks.set i t' ++ spawned⟩
  | .env e => (m.env p.shared e).map fun shared ↦ ⟨shared, p.tasks⟩

variable {m : Machine σ τ κ α ε} {p q : Pool σ τ}

theorem step_task {i : ℕ} {answer : α} (h : p.step m (.task i answer) = some q) :
    ∃ t shared t' spawned, p.tasks[i]? = some t ∧ m.task p.shared t answer = some (shared, t', spawned) ∧
      q = ⟨shared, p.tasks.set i t' ++ spawned⟩ := by
  simp only [step, Option.bind_eq_bind, Option.bind_eq_some_iff, Option.pure_def,
    Option.some.injEq, Prod.exists] at h
  obtain ⟨t, ht, shared, t', spawned, hstep, hq⟩ := h
  exact ⟨t, shared, t', spawned, ht, hstep, hq.symm⟩

theorem step_env {e : ε} (h : p.step m (.env e) = some q) :
    ∃ shared, m.env p.shared e = some shared ∧ q = ⟨shared, p.tasks⟩ := by
  simp only [step, Option.map_eq_some_iff] at h
  obtain ⟨shared, hstep, hq⟩ := h
  exact ⟨shared, hstep, hq.symm⟩

/-- Where the members of a pool come from after a step of its task `i`. -/
theorem get_after {tasks spawned : List τ} {i j : ℕ} {t' u : τ}
    (h : (tasks.set i t' ++ spawned)[j]? = some u) :
    (j = i ∧ u = t') ∨ (j ≠ i ∧ tasks[j]? = some u) ∨ (tasks.length ≤ j ∧ u ∈ spawned) := by
  by_cases hj : j < tasks.length
  · rw [List.getElem?_append_left (by simpa using hj)] at h
    by_cases hi : i = j
    · subst hi
      rw [List.getElem?_set_self hj] at h
      exact .inl ⟨rfl, (Option.some.inj h).symm⟩
    · rw [List.getElem?_set_ne hi] at h
      exact .inr (.inl ⟨Ne.symm hi, h⟩)
  · rw [List.getElem?_append_right (by simpa using hj)] at h
    exact .inr (.inr ⟨by omega, List.mem_of_getElem? h⟩)

theorem get_self_after {tasks spawned : List τ} {i : ℕ} {t t' : τ} (h : tasks[i]? = some t) :
    (tasks.set i t' ++ spawned)[i]? = some t' := by
  have hi : i < tasks.length := (List.getElem?_eq_some_iff.mp h).1
  rw [List.getElem?_append_left (by simpa using hi), List.getElem?_set_self hi]

theorem get_other_after {tasks spawned : List τ} {i j : ℕ} {t' u : τ} (hj : j ≠ i)
    (h : tasks[j]? = some u) : (tasks.set i t' ++ spawned)[j]? = some u := by
  have hlt : j < tasks.length := (List.getElem?_eq_some_iff.mp h).1
  rw [List.getElem?_append_left (by simpa using hlt), List.getElem?_set_ne (Ne.symm hj), h]

theorem get_started {tasks : List τ} {j : ℕ} {t u : τ} (h : (tasks ++ [t])[j]? = some u) :
    tasks[j]? = some u ∨ (j = tasks.length ∧ u = t) := by
  by_cases hj : j < tasks.length
  · rw [List.getElem?_append_left hj] at h
    exact .inl h
  · rw [List.getElem?_append_right (by omega)] at h
    have hlt := (List.getElem?_eq_some_iff.mp h).1
    have he : j - tasks.length = 0 := by simpa using hlt
    rw [he] at h
    exact .inr ⟨by omega, by simpa using h.symm⟩

theorem mem_cons_eraseIdx {tasks : List τ} {i : ℕ} {t u : τ} (h : tasks[i]? = some t) (hu : u ∈ tasks) :
    u ∈ t :: tasks.eraseIdx i := by
  obtain ⟨j, hj⟩ := List.mem_iff_getElem?.mp hu
  by_cases hi : j = i
  · subst hi
    rw [hj] at h
    cases h
    exact List.mem_cons_self
  · exact List.mem_cons_of_mem _ (List.mem_eraseIdx_iff_getElem?.mpr ⟨j, hi, hj⟩)

theorem mem_set_of_mem_eraseIdx {tasks : List τ} {i : ℕ} {t' u : τ} (hu : u ∈ tasks.eraseIdx i) :
    u ∈ tasks.set i t' := by
  obtain ⟨j, hj, hu⟩ := List.mem_eraseIdx_iff_getElem?.mp hu
  exact List.mem_of_getElem? ((List.getElem?_set_ne (Ne.symm hj)).trans hu)

/-- What holds of all members of a pool but `ℓ`, as it is evaluated. -/
theorem of_all_others {tasks : List τ} {ℓ j : ℕ} {t : τ} {f : τ → Bool}
    (h : ((List.range tasks.length).all fun j ↦ j == ℓ || tasks[j]?.all f) = true) (hj : j ≠ ℓ)
    (ht : tasks[j]? = some t) : f t = true := by
  simp only [List.all_eq_true, List.mem_range, Bool.or_eq_true, beq_iff_eq] at h
  have hlt := (List.getElem?_eq_some_iff.mp ht).1
  have hall := (h j hlt).resolve_left hj
  rwa [ht, Option.all_some] at hall

end Pool

end DiscordVoice
