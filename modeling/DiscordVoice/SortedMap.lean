import Mathlib.Data.List.Sort
import Mathlib.Order.Basic

namespace DiscordVoice

variable {κ β : Type} [LinearOrder κ]

/-- A finite map that lists its entries by increasing key. -/
@[ext]
structure SortedMap (κ β : Type) [LinearOrder κ] where
  entries : List (κ × β)
  sorted : entries.Pairwise fun a b ↦ a.1 < b.1

namespace SortedMap

def empty : SortedMap κ β := ⟨[], List.Pairwise.nil⟩

def get? (m : SortedMap κ β) (k : κ) : Option β :=
  (m.entries.find? fun e ↦ e.1 = k).map Prod.snd

def contains (m : SortedMap κ β) (k : κ) : Bool := (m.get? k).isSome

def isEmpty (m : SortedMap κ β) : Bool := m.entries.isEmpty

def firstKey? (m : SortedMap κ β) : Option κ := m.entries.head?.map Prod.fst

def remove (m : SortedMap κ β) (k : κ) : SortedMap κ β :=
  ⟨m.entries.filter fun e ↦ e.1 ≠ k, m.sorted.filter _⟩

def insert (m : SortedMap κ β) (k : κ) (v : β) : SortedMap κ β where
  entries := (m.entries.filter fun e ↦ e.1 < k) ++ (k, v) :: m.entries.filter fun e ↦ k < e.1
  sorted := by
    refine List.pairwise_append.mpr ⟨m.sorted.filter _, ?_, ?_⟩
    · refine List.pairwise_cons.mpr ⟨fun e he ↦ ?_, m.sorted.filter _⟩
      simpa using (List.mem_filter.mp he).2
    · intro a ha b hb
      have hak : a.1 < k := by simpa using (List.mem_filter.mp ha).2
      rcases List.mem_cons.mp hb with rfl | hb
      · exact hak
      · have hkb : k < b.1 := by simpa using (List.mem_filter.mp hb).2
        exact hak.trans hkb

@[simp] theorem isEmpty_empty : (empty : SortedMap κ β).isEmpty = true := rfl

theorem isEmpty_iff {m : SortedMap κ β} : m.isEmpty = true ↔ m = empty := by
  constructor
  · intro h
    exact SortedMap.ext (List.isEmpty_iff.mp h)
  · rintro rfl
    rfl

theorem contains_remove (m : SortedMap κ β) (k : κ) : (m.remove k).contains k = false := by
  simp only [contains, get?, remove, Option.isSome_map, Option.isSome_eq_false_iff,
    Option.isNone_iff_eq_none, List.find?_eq_none]
  intro e he
  simpa using (List.mem_filter.mp he).2

theorem remove_of_not_contains {m : SortedMap κ β} {k : κ} (h : m.contains k = false) :
    m.remove k = m := by
  simp only [contains, get?, Option.isSome_map, Option.isSome_eq_false_iff,
    Option.isNone_iff_eq_none, List.find?_eq_none] at h
  refine SortedMap.ext (List.filter_eq_self.mpr fun e he ↦ ?_)
  simpa using h e he

theorem contains_eq_false_iff {m : SortedMap κ β} {k : κ} :
    m.contains k = false ↔ m.get? k = none := by
  simp [contains]

/-- `retain`: the entries that pass a test stay. -/
def retain (m : SortedMap κ β) (keep : κ → β → Bool) : SortedMap κ β :=
  ⟨m.entries.filter fun e ↦ keep e.1 e.2, m.sorted.filter _⟩

theorem nodup_keys (m : SortedMap κ β) : (m.entries.map Prod.fst).Nodup :=
  List.Pairwise.imp (fun h ↦ ne_of_lt h) (List.pairwise_map.mpr m.sorted)

theorem get?_eq_some {m : SortedMap κ β} {k : κ} {v : β} :
    m.get? k = some v ↔ (k, v) ∈ m.entries := by
  have hfound : ∀ e, m.entries.find? (fun e ↦ decide (e.1 = k)) = some e →
      e.1 = k ∧ e ∈ m.entries := fun e he ↦
    ⟨by simpa using List.find?_some he, List.mem_of_find?_eq_some he⟩
  simp only [get?, Option.map_eq_some_iff]
  constructor
  · rintro ⟨⟨j, w⟩, hfind, rfl⟩
    obtain ⟨rfl, hmem⟩ := hfound _ hfind
    exact hmem
  · intro hmem
    rcases hfind : m.entries.find? fun e ↦ decide (e.1 = k) with _ | e
    · have hnone := List.find?_eq_none.mp hfind (k, v) hmem
      simp at hnone
    · obtain ⟨hkey, hother⟩ := hfound e hfind
      have hsame : e = (k, v) := List.inj_on_of_nodup_map m.nodup_keys hother hmem hkey
      exact ⟨e, hfind, by rw [hsame]⟩

/-- A map is known by what it gives for each key. -/
theorem ext_get? {m n : SortedMap κ β} (h : ∀ k, m.get? k = n.get? k) : m = n := by
  refine SortedMap.ext (List.Perm.eq_of_pairwise ?_ m.sorted n.sorted ?_)
  · intro a b _ _ hab hba
    exact absurd (hab.trans hba) (lt_irrefl _)
  · rw [List.perm_ext_iff_of_nodup m.nodup_keys.of_map n.nodup_keys.of_map]
    rintro ⟨k, v⟩
    rw [← get?_eq_some, ← get?_eq_some, h]

theorem get?_insert (m : SortedMap κ β) (k j : κ) (v : β) :
    (m.insert k v).get? j = if j = k then some v else m.get? j := by
  refine Option.ext fun w ↦ ?_
  rw [get?_eq_some, insert, List.mem_append, List.mem_cons, List.mem_filter, List.mem_filter]
  split_ifs with hkey
  · subst hkey
    simp [eq_comm]
  · rw [get?_eq_some]
    simp only [Prod.mk.injEq, hkey, false_and, false_or, decide_eq_true_eq]
    constructor
    · rintro (⟨hmem, -⟩ | ⟨hmem, -⟩)
      · exact hmem
      · exact hmem
    · intro hmem
      rcases lt_or_gt_of_ne hkey with hlt | hgt
      · exact .inl ⟨hmem, hlt⟩
      · exact .inr ⟨hmem, hgt⟩

theorem get?_retain (m : SortedMap κ β) (keep : κ → β → Bool) (k : κ) :
    (m.retain keep).get? k = (m.get? k).filter (keep k) := by
  refine Option.ext fun v ↦ ?_
  rw [get?_eq_some, retain, List.mem_filter, ← get?_eq_some, Option.filter_eq_some_iff]

theorem get?_remove (m : SortedMap κ β) (k j : κ) :
    (m.remove k).get? j = if j = k then none else m.get? j := by
  refine Option.ext fun v ↦ ?_
  rw [get?_eq_some, remove, List.mem_filter]
  split_ifs with hkey
  · simp [hkey]
  · rw [get?_eq_some]
    simp [hkey]

@[simp] theorem contains_empty (k : κ) : (empty : SortedMap κ β).contains k = false := rfl

end SortedMap

end DiscordVoice
