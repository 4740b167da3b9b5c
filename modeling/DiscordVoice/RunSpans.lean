import Mathlib.Algebra.BigOperators.Group.List.Basic
import Mathlib.Algebra.GroupWithZero.Nat
import Mathlib.Data.List.Induction
import DiscordVoice.RunWindows

namespace DiscordVoice.RunSpans

/-- An item that starts at a time and lasts so long, or a cut between two runs of items. -/
inductive Mark
  | item (start duration : ℕ)
  | cut
  deriving DecidableEq, Repr

/-- The items between the cuts, each with its start and its duration. -/
def runs : List Mark → List (List (ℕ × ℕ))
  | [] => [[]]
  | .cut :: marks => [] :: runs marks
  | .item start duration :: marks =>
    match runs marks with
    | [] => [[(start, duration)]]
    | run :: rest => ((start, duration) :: run) :: rest

def Mark.timing : Mark → Option (ℕ × ℕ)
  | .item start duration => some (start, duration)
  | .cut => none

def span (run : List (ℕ × ℕ)) : ℕ :=
  match run.head?, run.getLast? with
  | some first, some last => last.1 - first.1 + last.2
  | _, _ => 0

def totalSpan (marks : List Mark) : ℕ := ((runs marks).map span).sum

def starts (marks : List Mark) : List ℕ :=
  marks.filterMap fun
    | .item start _ => some start
    | .cut => none

/-- A total that is kept up to date item by item. -/
structure Watch where
  total : ℕ
  last : Option (ℕ × ℕ)
  deriving DecidableEq, Repr

namespace Watch

def start : Watch := ⟨0, none⟩

/-- Where an item follows another, the duration of that one is taken back and what passed between the
two starts comes in its place. -/
def mark (w : Watch) : Mark → Watch
  | .cut => { w with last := none }
  | .item start duration =>
    match w.last with
    | none => ⟨w.total + duration, some (start, duration)⟩
    | some before => ⟨w.total - before.2 + (start - before.1) + duration, some (start, duration)⟩

def after (marks : List Mark) : Watch := marks.foldl mark start

theorem after_concat (marks : List Mark) (m : Mark) : after (marks ++ [m]) = (after marks).mark m :=
  List.foldl_concat ..

end Watch

theorem runs_eq (marks : List Mark) : runs marks = RunWindows.runs (marks.map Mark.timing) := by
  induction marks with
  | nil => rfl
  | cons m marks ih =>
    cases m with
    | cut => exact congrArg ([] :: ·) ih
    | item start duration =>
      rw [runs, ih, List.map_cons, Mark.timing, RunWindows.runs]
      cases hruns : RunWindows.runs (marks.map Mark.timing) with
      | nil => exact absurd hruns (RunWindows.runs_ne_nil _)
      | cons run rest => rfl

theorem runs_concat (marks : List Mark) :
    ∃ closed current, runs marks = closed ++ [current] ∧
      runs (marks ++ [.cut]) = closed ++ [current] ++ [[]] ∧
      ∀ start duration,
        runs (marks ++ [.item start duration]) = closed ++ [current ++ [(start, duration)]] := by
  obtain ⟨closed, current, hruns, hcut, hitem⟩ := RunWindows.runs_concat (marks.map Mark.timing)
  refine ⟨closed, current, ?_, ?_, ?_⟩
  · rw [runs_eq, hruns]
  · rw [runs_eq, List.map_append, List.map_singleton, Mark.timing, hcut]
  · intro start duration
    rw [runs_eq, List.map_append, List.map_singleton, Mark.timing, hitem]

theorem Watch.last_eq (marks : List Mark) :
    (Watch.after marks).last = (RunWindows.currentRun (marks.map Mark.timing)).getLast? := by
  induction marks using List.reverseRecOn with
  | nil => rfl
  | append_singleton marks m ih =>
    rw [Watch.after_concat, List.map_append, List.map_singleton]
    cases m with
    | cut =>
      rw [Mark.timing, RunWindows.currentRun_concat_none]
      rfl
    | item start duration =>
      rw [Mark.timing, RunWindows.currentRun_concat_some, List.getLast?_concat, Watch.mark]
      cases (Watch.after marks).last <;> rfl

theorem span_concat {run : List (ℕ × ℕ)} {before : ℕ × ℕ} (hlast : run.getLast? = some before)
    (hmono : ∀ item ∈ run, item.1 ≤ before.1) {start : ℕ} (hstart : before.1 ≤ start)
    (duration : ℕ) :
    before.2 ≤ span run ∧
      span (run ++ [(start, duration)]) = span run - before.2 + (start - before.1) + duration := by
  cases run with
  | nil => cases hlast
  | cons first run =>
    have hfirst := hmono first List.mem_cons_self
    have hspan : span (first :: run) = before.1 - first.1 + before.2 := by
      simp only [span, hlast, List.head?_cons]
    have hmore : span (first :: run ++ [(start, duration)]) = start - first.1 + duration := by
      rw [span, List.getLast?_concat]
      rfl
    rw [hspan, hmore]
    omega

theorem starts_concat_item (marks : List Mark) (start duration : ℕ) :
    starts (marks ++ [.item start duration]) = starts marks ++ [start] := List.filterMap_append ..

theorem starts_pairwise_left {marks more : List Mark}
    (hmono : (starts (marks ++ more)).Pairwise (· ≤ ·)) : (starts marks).Pairwise (· ≤ ·) := by
  rw [starts, List.filterMap_append, List.pairwise_append] at hmono
  exact hmono.1

theorem starts_concat_cut (marks : List Mark) : starts (marks ++ [.cut]) = starts marks := by
  simp [starts]

/-- The watch shows the spans of the runs, of which the last is still going on. -/
structure Shows (marks : List Mark) (w : Watch) (closed : List (List (ℕ × ℕ)))
    (current : List (ℕ × ℕ)) : Prop where
  runs_eq : runs marks = closed ++ [current]
  last : w.last = current.getLast?
  total : w.total = (closed.map span).sum + span current
  starts : ∀ item ∈ current, item.1 ∈ starts marks
  ordered : ∀ before ∈ current.getLast?, ∀ item ∈ current, item.1 ≤ before.1

namespace Shows

variable {marks : List Mark} {w : Watch} {closed : List (List (ℕ × ℕ))} {current : List (ℕ × ℕ)}

theorem runs_concat_eq (h : Shows marks w closed current) :
    runs (marks ++ [.cut]) = closed ++ [current] ++ [[]] ∧ ∀ start duration,
      runs (marks ++ [.item start duration]) = closed ++ [current ++ [(start, duration)]] := by
  obtain ⟨others, other, hruns, hcut, hitem⟩ := runs_concat marks
  rw [h.runs_eq] at hruns
  obtain ⟨rfl, hcurrent⟩ := List.append_inj' hruns rfl
  obtain rfl := List.singleton_inj.mp hcurrent
  exact ⟨hcut, hitem⟩

theorem cut (h : Shows marks w closed current) :
    Shows (marks ++ [.cut]) (w.mark .cut) (closed ++ [current]) [] where
  runs_eq := h.runs_concat_eq.1
  last := rfl
  total := by
    have hspan : span [] = 0 := rfl
    rw [Watch.mark, h.total, List.map_append, List.sum_append, List.map_singleton, List.sum_singleton,
      hspan, Nat.add_zero]
  starts item hitem := by cases hitem
  ordered before hbefore := by cases hbefore

theorem last_le (h : Shows marks w closed current) {before : ℕ × ℕ} (hlast : w.last = some before) :
    before.2 ≤ span current ∧ before.1 ∈ RunSpans.starts marks := by
  rw [h.last] at hlast
  refine ⟨(span_concat hlast (h.ordered before hlast) (Nat.le_refl _) 0).1, ?_⟩
  exact h.starts before (List.mem_of_getLast? hlast)

theorem item (h : Shows marks w closed current) {start : ℕ}
    (hstart : ∀ earlier ∈ RunSpans.starts marks, earlier ≤ start) (duration : ℕ) :
    Shows (marks ++ [.item start duration]) (w.mark (.item start duration)) closed
      (current ++ [(start, duration)]) where
  runs_eq := h.runs_concat_eq.2 start duration
  last := by
    rw [List.getLast?_concat, Watch.mark]
    cases w.last <;> rfl
  total := by
    rw [Watch.mark]
    cases hlast : w.last with
    | none =>
      rw [h.last, List.getLast?_eq_none_iff] at hlast
      rw [h.total, hlast]
      have hempty : span [] = 0 := rfl
      have hone : span ([] ++ [(start, duration)]) = start - start + duration := rfl
      rw [hempty, hone, Nat.sub_self, Nat.add_zero, Nat.zero_add]
    | some before =>
      obtain ⟨hle, hmem⟩ := h.last_le hlast
      have hrun : current.getLast? = some before := h.last ▸ hlast
      have hspan := (span_concat hrun (h.ordered before hrun) (hstart before.1 hmem) duration).2
      simp only
      rw [hspan, h.total]
      omega
  starts := by
    rw [starts_concat_item]
    intro item hitem
    rcases List.mem_append.mp hitem with hitem | hitem
    · exact List.mem_append_left _ (h.starts item hitem)
    · rw [List.mem_singleton.mp hitem]
      exact List.mem_append_right _ List.mem_cons_self
  ordered := by
    intro before hbefore item hitem
    rw [List.getLast?_concat, Option.mem_some_iff] at hbefore
    subst hbefore
    rcases List.mem_append.mp hitem with hitem | hitem
    · exact hstart item.1 (h.starts item hitem)
    · obtain rfl := List.mem_singleton.mp hitem
      exact Nat.le_refl _

end Shows

theorem exists_shows (marks : List Mark) (hmono : (starts marks).Pairwise (· ≤ ·)) :
    ∃ closed current, Shows marks (.after marks) closed current := by
  induction marks using List.reverseRecOn with
  | nil => exact ⟨[], [], rfl, rfl, rfl, by simp, by simp⟩
  | append_singleton marks m ih =>
    cases m with
    | cut =>
      rw [starts_concat_cut] at hmono
      obtain ⟨closed, current, h⟩ := ih hmono
      exact ⟨_, _, Watch.after_concat marks _ ▸ h.cut⟩
    | item start duration =>
      rw [starts_concat_item, List.pairwise_append] at hmono
      obtain ⟨closed, current, h⟩ := ih hmono.1
      refine ⟨_, _, Watch.after_concat marks _ ▸ h.item ?_ duration⟩
      intro earlier hearlier
      exact hmono.2.2 earlier hearlier start List.mem_cons_self

theorem total_eq {marks : List Mark} (hmono : (starts marks).Pairwise (· ≤ ·)) :
    (Watch.after marks).total = totalSpan marks := by
  obtain ⟨closed, current, h⟩ := exists_shows marks hmono
  rw [h.total, totalSpan, h.runs_eq, List.map_append, List.sum_append, List.map_singleton,
    List.sum_singleton]

/-- Neither of the two subtractions of an item falls below zero. -/
theorem mark_exact {marks : List Mark} {start duration : ℕ}
    (hmono : (starts (marks ++ [.item start duration])).Pairwise (· ≤ ·)) {before : ℕ × ℕ}
    (hlast : (Watch.after marks).last = some before) :
    before.2 ≤ (Watch.after marks).total ∧ before.1 ≤ start := by
  rw [starts_concat_item, List.pairwise_append] at hmono
  obtain ⟨closed, current, h⟩ := exists_shows marks hmono.1
  obtain ⟨hle, hmem⟩ := h.last_le hlast
  refine ⟨?_, hmono.2.2 before.1 hmem start List.mem_cons_self⟩
  rw [h.total]
  exact Nat.le_trans hle (Nat.le_add_left _ _)

/-- Where each item is over before the next one starts, they last no longer than their span. -/
theorem sum_le_span {run : List (ℕ × ℕ)} (h : run.Pairwise fun a b ↦ a.1 + a.2 ≤ b.1) :
    (run.map Prod.snd).sum ≤ span run := by
  induction run with
  | nil => exact Nat.zero_le _
  | cons first run ih =>
    obtain ⟨hfirst, hrest⟩ := List.pairwise_cons.mp h
    cases run with
    | nil => simp [span]
    | cons next run =>
      obtain ⟨last, hlast⟩ : ∃ last, (next :: run).getLast? = some last := ⟨_, List.getLast?_cons⟩
      have hover := hfirst next List.mem_cons_self
      have hle : next.1 ≤ last.1 := by
        rcases List.mem_cons.mp (List.mem_of_getLast? hlast) with rfl | hmem
        · exact Nat.le_refl _
        · exact Nat.le_trans (Nat.le_add_right _ _) ((List.pairwise_cons.mp hrest).1 last hmem)
      have hspan := ih hrest
      rw [span, hlast] at hspan
      rw [span, List.getLast?_cons_cons, hlast]
      simp only [List.map_cons, List.sum_cons, List.head?_cons] at hspan ⊢
      omega

theorem sum_le_spans {runs : List (List (ℕ × ℕ))}
    (h : ∀ run ∈ runs, run.Pairwise fun a b ↦ a.1 + a.2 ≤ b.1) :
    (runs.flatten.map Prod.snd).sum ≤ (runs.map span).sum := by
  induction runs with
  | nil => exact Nat.le_refl _
  | cons run runs ih =>
    have hrun := sum_le_span (h run List.mem_cons_self)
    have hrest := ih fun r hr ↦ h r (List.mem_cons_of_mem _ hr)
    rw [List.flatten_cons, List.map_append, List.sum_append, List.map_cons, List.sum_cons]
    exact Nat.add_le_add hrun hrest

end DiscordVoice.RunSpans
