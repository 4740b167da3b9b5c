import Mathlib.Logic.Basic

namespace DiscordVoice.Fallible

variable {ε σ α β : Type}

/-- The state a computation ends in, whether or not it succeeds. -/
def stateAfter : EStateM.Result ε σ α → σ
  | .ok _ s => s
  | .error _ s => s

theorem bind_apply (x : EStateM ε σ α) (f : α → EStateM ε σ β) (s : σ) :
    (x >>= f) s = match x s with
      | .ok a t => f a t
      | .error e t => .error e t := rfl

@[simp] theorem except_ok_bind (a : α) (f : α → Except ε β) : (Except.ok a >>= f) = f a := rfl

theorem except_bind_ok_iff {x : Except ε α} {f : α → Except ε β} {b : β} :
    (x >>= f) = .ok b ↔ ∃ a, x = .ok a ∧ f a = .ok b := by
  cases x with
  | ok a =>
    constructor
    · exact fun h ↦ ⟨a, rfl, h⟩
    · rintro ⟨_, ⟨⟩, h⟩
      exact h
  | error e =>
    constructor
    · rintro ⟨⟩
    · rintro ⟨_, ⟨⟩, _⟩

theorem toOption_eq_some {x : Except ε α} {a : α} : x.toOption = some a ↔ x = .ok a := by
  cases x with
  | ok b => simp [Except.toOption]
  | error e => simp [Except.toOption]

theorem bind_ok_iff {x : EStateM ε σ α} {f : α → EStateM ε σ β} {s t : σ} {b : β} :
    (x >>= f) s = .ok b t ↔ ∃ a u, x s = .ok a u ∧ f a u = .ok b t := by
  change (match x s with | .ok a u => f a u | .error e u => .error e u) = .ok b t ↔ _
  cases x s with
  | ok a u =>
    constructor
    · exact fun h ↦ ⟨a, u, rfl, h⟩
    · rintro ⟨_, _, ⟨⟩, h⟩
      exact h
  | error e u => simp

@[simp] theorem get_bind_apply (f : σ → EStateM ε σ β) (s : σ) :
    ((get : EStateM ε σ σ) >>= f) s = f s s := rfl

@[simp] theorem set_bind_apply (u : σ) (f : PUnit → EStateM ε σ β) (s : σ) :
    ((set u : EStateM ε σ PUnit) >>= f) s = f ⟨⟩ u := rfl

@[simp] theorem modify_bind_apply (g : σ → σ) (f : PUnit → EStateM ε σ β) (s : σ) :
    ((modify g : EStateM ε σ PUnit) >>= f) s = f ⟨⟩ (g s) := rfl

@[simp] theorem set_apply (u s : σ) :
    (set u : EStateM ε σ PUnit) s = .ok ⟨⟩ u := rfl

@[simp] theorem modify_apply (g : σ → σ) (s : σ) :
    (modify g : EStateM ε σ PUnit) s = .ok ⟨⟩ (g s) := rfl

@[simp] theorem pure_apply (a : α) (s : σ) :
    (pure a : EStateM ε σ α) s = .ok a s := rfl

@[simp] theorem throw_apply (e : ε) (s : σ) :
    (throw e : EStateM ε σ α) s = .error e s := rfl

@[simp] theorem branch_apply {c : Prop} [Decidable c] (x y : EStateM ε σ α) (s : σ) :
    (if c then x else y) s = if c then x s else y s := by
  split <;> rfl

/-- The computation keeps `I`, whether or not it succeeds. -/
def Preserves (I : σ → Prop) (x : EStateM ε σ α) : Prop :=
  ∀ s, I s → I (stateAfter (x s))

/-- From `I` the computation comes to `J`, whether or not it succeeds. -/
def Leads (I J : σ → Prop) (x : EStateM ε σ α) : Prop :=
  ∀ s, I s → J (stateAfter (x s))

/-- A computation that may stop early, and does so while `I` holds. -/
theorem Leads.bind {I J : σ → Prop} {x : EStateM ε σ α} {f : α → EStateM ε σ β}
    (hJ : ∀ s, I s → J s) (hx : Preserves I x) (hf : ∀ a, Leads I J (f a)) :
    Leads I J (x >>= f) := by
  intro s hs
  have hu := hx s hs
  rw [bind_apply]
  cases hxs : x s with
  | ok a u =>
    rw [hxs] at hu
    exact hf a u hu
  | error e u =>
    rw [hxs] at hu
    exact hJ u hu

namespace Preserves

variable {I : σ → Prop}

theorem bind {x : EStateM ε σ α} {f : α → EStateM ε σ β} (hx : Preserves I x)
    (hf : ∀ a, Preserves I (f a)) : Preserves I (x >>= f) :=
  Leads.bind (fun _ hs ↦ hs) hx hf

theorem get_bind {f : σ → EStateM ε σ β} (hf : ∀ s, I s → Preserves I (f s)) :
    Preserves I ((get : EStateM ε σ σ) >>= f) :=
  fun s hs ↦ hf s hs s hs

theorem branch {c : Prop} [Decidable c] {x y : EStateM ε σ α} (hx : c → Preserves I x)
    (hy : ¬c → Preserves I y) : Preserves I (if c then x else y) := by
  split
  · exact hx ‹c›
  · exact hy ‹¬c›

theorem set {u : σ} (hu : I u) : Preserves I (set u : EStateM ε σ PUnit) :=
  fun _ _ ↦ hu

theorem modify {g : σ → σ} (hg : ∀ s, I s → I (g s)) :
    Preserves I (modify g : EStateM ε σ PUnit) := hg

theorem pure (a : α) : Preserves I (pure a : EStateM ε σ α) := fun _ hs ↦ hs

theorem throw (e : ε) : Preserves I (throw e : EStateM ε σ α) := fun _ hs ↦ hs

theorem ok {x : EStateM ε σ α} (hx : Preserves I x) {s t : σ} {a : α} (hs : I s)
    (h : x s = .ok a t) : I t := by
  have := hx s hs
  rwa [h] at this

theorem error {x : EStateM ε σ α} (hx : Preserves I x) {s t : σ} {e : ε} (hs : I s)
    (h : x s = .error e t) : I t := by
  have := hx s hs
  rwa [h] at this

end Preserves

namespace Leads

variable {I J : σ → Prop}

theorem of_preserves {x : EStateM ε σ α} (hJ : ∀ s, I s → J s) (hx : Preserves I x) :
    Leads I J x :=
  fun s hs ↦ hJ _ (hx s hs)

theorem get_bind {f : σ → EStateM ε σ β} (hf : ∀ s, I s → Leads I J (f s)) :
    Leads I J ((get : EStateM ε σ σ) >>= f) :=
  fun s hs ↦ hf s hs s hs

theorem branch {c : Prop} [Decidable c] {x y : EStateM ε σ α} (hx : c → Leads I J x)
    (hy : ¬c → Leads I J y) : Leads I J (if c then x else y) := by
  split
  · exact hx ‹c›
  · exact hy ‹¬c›

end Leads

end DiscordVoice.Fallible
