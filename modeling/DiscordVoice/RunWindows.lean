import Mathlib.Algebra.BigOperators.Group.List.Basic
import Mathlib.Algebra.GroupWithZero.Nat
import Mathlib.Data.List.Induction
import Mathlib.Data.List.ReduceOption

namespace DiscordVoice.RunWindows

variable {α : Type*}

/-- The items of a list between its cuts. -/
def runs : List (Option α) → List (List α)
  | [] => [[]]
  | none :: xs => [] :: runs xs
  | some a :: xs => (runs xs).modifyHead (a :: ·)

/-- The items since the last cut. -/
def currentRun (xs : List (Option α)) : List α := (runs xs).getLastD []

/-- The stretches of `n` items that follow one another. -/
def windows (n : ℕ) : List α → List (List α)
  | [] => []
  | x :: xs => if n ≤ xs.length + 1 then (x :: xs).take n :: windows n xs else []

/-- The windows that lie inside one run. -/
def runWindows (n : ℕ) (xs : List (Option α)) : List (List α) := (runs xs).flatMap (windows n)

def lastWindow (n : ℕ) (run : List α) : Option (List α) :=
  if n ≤ run.length then some (run.drop (run.length - n)) else none

theorem runs_concat (xs : List (Option α)) :
    ∃ closed current, runs xs = closed ++ [current] ∧
      runs (xs ++ [none]) = closed ++ [current] ++ [[]] ∧
      ∀ a, runs (xs ++ [some a]) = closed ++ [current ++ [a]] := by
  induction xs with
  | nil => exact ⟨[], [], rfl, rfl, fun _ ↦ rfl⟩
  | cons x xs ih =>
    obtain ⟨closed, current, hruns, hcut, hitem⟩ := ih
    cases x with
    | none =>
      refine ⟨[] :: closed, current, ?_, ?_, ?_⟩
      · rw [runs, hruns, List.cons_append]
      · rw [List.cons_append, runs, hcut]
        rfl
      · intro a
        rw [List.cons_append, runs, hitem, List.cons_append]
    | some first =>
      cases closed with
      | nil =>
        refine ⟨[], first :: current, ?_, ?_, ?_⟩
        · rw [runs, hruns]
          rfl
        · rw [List.cons_append, runs, hcut]
          rfl
        · intro a
          rw [List.cons_append, runs, hitem]
          rfl
      | cons run closed =>
        refine ⟨(first :: run) :: closed, current, ?_, ?_, ?_⟩
        · rw [runs, hruns]
          rfl
        · rw [List.cons_append, runs, hcut]
          rfl
        · intro a
          rw [List.cons_append, runs, hitem]
          rfl

@[simp] theorem currentRun_concat_none (xs : List (Option α)) : currentRun (xs ++ [none]) = [] := by
  obtain ⟨closed, current, -, hcut, -⟩ := runs_concat xs
  rw [currentRun, hcut, List.getLastD_concat]

@[simp] theorem currentRun_concat_some (xs : List (Option α)) (a : α) :
    currentRun (xs ++ [some a]) = currentRun xs ++ [a] := by
  obtain ⟨closed, current, hruns, -, hitem⟩ := runs_concat xs
  rw [currentRun, currentRun, hruns, hitem, List.getLastD_concat, List.getLastD_concat]

theorem windows_of_short {n : ℕ} {xs : List α} (h : xs.length < n) : windows n xs = [] := by
  cases xs with
  | nil => rfl
  | cons x xs => exact if_neg (Nat.not_le.mpr h)

theorem runs_ne_nil (xs : List (Option α)) : runs xs ≠ [] := by
  obtain ⟨closed, current, hruns, -⟩ := runs_concat xs
  rw [hruns]
  exact List.append_ne_nil_of_right_ne_nil closed (List.cons_ne_nil current [])

theorem lastWindow_of_short {n : ℕ} {xs : List α} (h : xs.length < n) : lastWindow n xs = none :=
  if_neg (Nat.not_le.mpr h)

theorem lastWindow_of_fits {n : ℕ} (hn : 0 < n) {xs : List α} (h : n ≤ xs.length) :
    lastWindow n xs = some (xs.drop (xs.length - n)) ∧ xs.drop (xs.length - n) ≠ [] := by
  refine ⟨if_pos h, ?_⟩
  intro hempty
  have hlength := congrArg List.length hempty
  rw [List.length_drop, List.length_nil] at hlength
  omega

theorem lastWindow_cons {n : ℕ} {xs : List α} (h : n ≤ xs.length) (x : α) :
    lastWindow n (x :: xs) = lastWindow n xs := by
  have hlonger : n ≤ (x :: xs).length := Nat.le_succ_of_le h
  have hbehind : (x :: xs).length - n = xs.length - n + 1 := by
    rw [List.length_cons]
    omega
  rw [lastWindow, lastWindow, if_pos hlonger, if_pos h, hbehind, List.drop_succ_cons]

theorem lastWindow_whole (xs : List α) : lastWindow xs.length xs = some xs := by
  rw [lastWindow, if_pos (Nat.le_refl _), Nat.sub_self, List.drop_zero]

/-- A list that goes on by an item has one window more. -/
theorem windows_concat {n : ℕ} (hn : 0 < n) (xs : List α) (a : α) :
    windows n (xs ++ [a]) = windows n xs ++ (lastWindow n (xs ++ [a])).toList := by
  induction xs with
  | nil =>
    by_cases hone : n = 1
    · subst hone
      rfl
    · have hshort : [a].length < n := by
        rw [List.length_singleton]
        omega
      rw [List.nil_append, windows_of_short hshort, lastWindow_of_short hshort]
      rfl
  | cons x xs ih =>
    have hlength : (xs ++ [a]).length = xs.length + 1 := by simp
    rw [List.cons_append]
    rcases Nat.lt_trichotomy n (xs.length + 2) with hfits | rfl | hlong
    · have hrest : n ≤ (xs ++ [a]).length := by omega
      have hfirst : n ≤ xs.length + 1 := by omega
      have hhead : (x :: (xs ++ [a])).take n = (x :: xs).take n := by
        rw [← List.cons_append]
        exact List.take_append_of_le_length hfirst
      rw [lastWindow_cons hrest, windows, windows, if_pos hfirst, if_pos (Nat.le_succ_of_le hrest),
        ih, hhead, List.cons_append]
    · have hshort : (x :: xs).length < xs.length + 2 := Nat.lt_succ_self _
      have hwhole : (x :: (xs ++ [a])).length = xs.length + 2 := by
        rw [List.length_cons, hlength]
      have hlast : lastWindow (xs.length + 2) (x :: (xs ++ [a])) = some (x :: (xs ++ [a])) := by
        rw [← hwhole, lastWindow_whole]
      have hrest : (xs ++ [a]).length < xs.length + 2 := by omega
      have hfits : xs.length + 2 ≤ (xs ++ [a]).length + 1 := by omega
      rw [windows_of_short hshort, hlast, windows, windows_of_short hrest, if_pos hfits, ← hwhole,
        List.take_length]
      rfl
    · have hshort : (x :: (xs ++ [a])).length < n := by
        rw [List.length_cons, hlength]
        exact hlong
      have hfirst : (x :: xs).length < n := by
        rw [List.length_cons]
        omega
      rw [windows_of_short hshort, windows_of_short hfirst, lastWindow_of_short hshort]
      rfl

variable {n : ℕ}

theorem runWindows_concat_none (n : ℕ) (xs : List (Option α)) :
    runWindows n (xs ++ [none]) = runWindows n xs := by
  obtain ⟨closed, current, hruns, hcut, -⟩ := runs_concat xs
  rw [runWindows, runWindows, hruns, hcut, List.flatMap_append]
  exact List.append_nil _

theorem runWindows_concat_some (hn : 0 < n) (xs : List (Option α)) (a : α) :
    runWindows n (xs ++ [some a]) =
      runWindows n xs ++ (lastWindow n (currentRun xs ++ [a])).toList := by
  obtain ⟨closed, current, hruns, -, hitem⟩ := runs_concat xs
  rw [currentRun, hruns, List.getLastD_concat, runWindows, runWindows, hruns, hitem,
    List.flatMap_append, List.flatMap_append, List.flatMap_singleton, List.flatMap_singleton,
    windows_concat hn, List.append_assoc]

theorem length_runWindows_le (hn : 0 < n) (xs : List (Option α)) :
    (runWindows n xs).length ≤ xs.reduceOption.length := by
  induction xs using List.reverseRecOn with
  | nil =>
    rw [runWindows, runs, List.flatMap_singleton, windows]
    exact Nat.zero_le _
  | append_singleton xs x ih =>
    rw [List.reduceOption_append, List.length_append]
    cases x with
    | none =>
      rw [runWindows_concat_none]
      exact Nat.le_add_right_of_le ih
    | some a =>
      rw [runWindows_concat_some hn, List.length_append]
      exact Nat.add_le_add ih Option.length_toList_le

theorem lastWindow_map {β : Type*} (f : α → β) (run : List α) :
    lastWindow n (run.map f) = (lastWindow n run).map (·.map f) := by
  unfold lastWindow
  rw [List.length_map]
  split_ifs with hfits
  · rw [Option.map_some, List.map_drop]
  · rfl

theorem lastWindow_two (run : List α) (a : α) :
    lastWindow 2 (run ++ [a]) = run.getLast?.map fun before ↦ [before, a] := by
  induction run using List.reverseRecOn with
  | nil => rfl
  | append_singleton run before =>
    rw [List.getLast?_concat, lastWindow, if_pos (by simp), List.append_assoc]
    have hbehind : (run ++ ([before] ++ [a])).length - 2 = run.length := by simp
    rw [hbehind, List.drop_left]
    rfl

theorem runs_map {β : Type*} (f : α → β) (xs : List (Option α)) :
    runs (xs.map (Option.map f)) = (runs xs).map (List.map f) := by
  induction xs with
  | nil => rfl
  | cons x xs ih =>
    cases x with
    | none => exact congrArg ([] :: ·) ih
    | some a =>
      rw [List.map_cons, Option.map_some, runs, runs, ih]
      cases runs xs <;> rfl

theorem flatten_runs (xs : List (Option α)) : (runs xs).flatten = xs.reduceOption := by
  induction xs with
  | nil => rfl
  | cons x xs ih =>
    cases x with
    | none => exact ih
    | some a =>
      rw [runs, List.reduceOption_cons_of_some, ← ih]
      cases hruns : runs xs with
      | nil => exact absurd hruns (runs_ne_nil xs)
      | cons run rest => rfl

theorem length_windows (hn : 0 < n) (xs : List α) : (windows n xs).length = xs.length + 1 - n := by
  induction xs with
  | nil =>
    simp only [windows, List.length_nil]
    omega
  | cons x xs ih =>
    rw [windows]
    split_ifs with hfits
    · rw [List.length_cons, List.length_cons, ih]
      omega
    · rw [List.length_nil, List.length_cons]
      omega

theorem windows_ne_nil (hn : 0 < n) {xs window : List α} (h : window ∈ windows n xs) :
    window ≠ [] := by
  induction xs with
  | nil => cases h
  | cons x xs ih =>
    rw [windows] at h
    split_ifs at h with hfits
    · rcases List.mem_cons.mp h with rfl | h
      · intro hnil
        rw [List.take_eq_nil_iff] at hnil
        rcases hnil with hzero | hnil
        · omega
        · cases hnil
      · exact ih h
    · cases h

def filledRuns (xs : List (Option α)) : List (List α) := (runs xs).filter (!·.isEmpty)

theorem filledRuns_map {β : Type*} (f : α → β) (xs : List (Option α)) :
    filledRuns (xs.map (Option.map f)) = (filledRuns xs).map (List.map f) := by
  rw [filledRuns, runs_map, List.filter_map, filledRuns]
  simp only [Function.comp_def, List.isEmpty_map]

theorem flatten_filledRuns (xs : List (Option α)) : (filledRuns xs).flatten = xs.reduceOption := by
  rw [filledRuns, List.flatten_filter_not_isEmpty, flatten_runs]

/-- Only the runs that have items have windows. -/
theorem runWindows_eq (n : ℕ) (xs : List (Option α)) :
    runWindows n xs = (filledRuns xs).flatMap (windows n) := by
  rw [runWindows, filledRuns]
  induction runs xs with
  | nil => rfl
  | cons run rest ih =>
    cases run with
    | nil => exact ih
    | cons x run => exact congrArg (windows n (x :: run) ++ ·) ih

/-- How many windows there are depends on the lengths of the runs alone. -/
theorem length_runWindows (hn : 0 < n) (xs : List (Option α)) :
    (runWindows n xs).length = ((filledRuns xs).map fun run ↦ run.length + 1 - n).sum := by
  rw [runWindows_eq, List.length_flatMap]
  simp only [length_windows hn]

theorem mem_of_mem_currentRun {xs : List (Option α)} {a : α} (h : a ∈ currentRun xs) :
    a ∈ xs.reduceOption := by
  obtain ⟨closed, current, hruns, -⟩ := runs_concat xs
  rw [currentRun, hruns, List.getLastD_concat] at h
  rw [← flatten_runs, hruns]
  exact List.mem_flatten_of_mem List.mem_concat_self h

theorem windows_sublist {xs window : List α} (h : window ∈ windows n xs) : window.Sublist xs := by
  induction xs with
  | nil => cases h
  | cons x xs ih =>
    rw [windows] at h
    split_ifs at h with hfits
    · rcases List.mem_cons.mp h with rfl | h
      · exact List.take_sublist n (x :: xs)
      · exact (ih h).trans (List.sublist_cons_self x xs)
    · cases h

theorem sublist_of_mem_filledRuns {xs : List (Option α)} {run : List α} (h : run ∈ filledRuns xs) :
    run.Sublist xs.reduceOption := by
  rw [← flatten_filledRuns]
  exact List.sublist_flatten_of_mem h

theorem sublist_of_mem_runWindows {xs : List (Option α)} {window : List α}
    (h : window ∈ runWindows n xs) : window.Sublist xs.reduceOption := by
  rw [runWindows_eq] at h
  obtain ⟨run, hrun, hwindow⟩ := List.mem_flatMap.mp h
  exact (windows_sublist hwindow).trans (sublist_of_mem_filledRuns hrun)

end DiscordVoice.RunWindows
