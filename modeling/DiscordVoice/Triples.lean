import DiscordVoice.Fallible

namespace DiscordVoice.Fallible

variable {ε σ α β : Type}

/-- From `P` the computation succeeds in `Q` or fails in `E`. -/
def Triple (P : σ → Prop) (x : EStateM ε σ α) (Q : α → σ → Prop) (E : σ → Prop) : Prop :=
  ∀ s, P s → match x s with
    | .ok a t => Q a t
    | .error _ t => E t

namespace Triple

variable {P P' E E' : σ → Prop} {Q Q' : α → σ → Prop} {R : β → σ → Prop}

theorem bind {x : EStateM ε σ α} {f : α → EStateM ε σ β} (hx : Triple P x Q E)
    (hf : ∀ a, Triple (Q a) (f a) R E) : Triple P (x >>= f) R E := by
  intro s hs
  have hu := hx s hs
  rw [bind_apply]
  cases hxs : x s with
  | ok a u =>
    rw [hxs] at hu
    exact hf a u hu
  | error e u =>
    rw [hxs] at hu
    exact hu

theorem pure {a : α} (h : ∀ s, P s → Q a s) : Triple P (pure a : EStateM ε σ α) Q E := h

theorem throw {e : ε} (h : ∀ s, P s → E s) : Triple P (throw e : EStateM ε σ α) Q E := h

theorem get_bind {f : σ → EStateM ε σ β} (hf : ∀ s, P s → Triple (· = s) (f s) R E) :
    Triple P ((get : EStateM ε σ σ) >>= f) R E :=
  fun s hs ↦ hf s hs s rfl

protected theorem trivial (x : EStateM ε σ α) :
    Triple P x (fun _ _ ↦ True) fun _ ↦ True := by
  intro s _
  cases x s <;> exact True.intro

theorem branch {c : Prop} [Decidable c] {x y : EStateM ε σ α} (hx : c → Triple P x Q E)
    (hy : ¬c → Triple P y Q E) : Triple P (if c then x else y) Q E := by
  split
  · exact hx ‹c›
  · exact hy ‹¬c›

/-- The rule of consequence. -/
theorem weaken {x : EStateM ε σ α} (h : Triple P x Q E) (hP : ∀ s, P' s → P s)
    (hQ : ∀ a s, Q a s → Q' a s) (hE : ∀ s, E s → E' s) : Triple P' x Q' E' := by
  intro s hs
  have hu := h s (hP s hs)
  cases hxs : x s with
  | ok a u =>
    rw [hxs] at hu
    exact hQ a u hu
  | error e u =>
    rw [hxs] at hu
    exact hE u hu

theorem post {x : EStateM ε σ α} (h : Triple P x Q E) (hQ : ∀ a s, Q a s → Q' a s) :
    Triple P x Q' E :=
  h.weaken (fun _ hs ↦ hs) hQ fun _ hs ↦ hs

theorem pre {x : EStateM ε σ α} (h : Triple P x Q E) (hP : ∀ s, P' s → P s) :
    Triple P' x Q E :=
  h.weaken hP (fun _ _ hs ↦ hs) fun _ hs ↦ hs

/-- A fact that does not depend on the state. -/
theorem assuming {p : Prop} {x : EStateM ε σ α} (h : p → Triple P x Q E) :
    Triple (fun s ↦ p ∧ P s) x Q E :=
  fun s hs ↦ h hs.1 s hs.2

theorem ok {x : EStateM ε σ α} (hx : Triple P x Q E) {s t : σ} {a : α} (hs : P s)
    (h : x s = .ok a t) : Q a t := by
  have := hx s hs
  rwa [h] at this

theorem error {x : EStateM ε σ α} (hx : Triple P x Q E) {s t : σ} {e : ε} (hs : P s)
    (h : x s = .error e t) : E t := by
  have := hx s hs
  rwa [h] at this

theorem preserves {I : σ → Prop} {x : EStateM ε σ α} (h : Triple I x (fun _ ↦ I) I) :
    Preserves I x := by
  intro s hs
  have hu := h s hs
  cases hxs : x s with
  | ok a u =>
    rw [hxs] at hu
    exact hu
  | error e u =>
    rw [hxs] at hu
    exact hu

end Triple

/-- The computation leaves the state as it is, and its results are in `q`. -/
def Still (x : EStateM ε σ α) (q : α → Prop) : Prop :=
  ∀ s, match x s with
    | .ok a t => q a ∧ t = s
    | .error _ t => t = s

namespace Still

variable {p q : α → Prop} {r : β → Prop}

theorem pure {a : α} (h : q a) : Still (pure a : EStateM ε σ α) q := fun _ ↦ ⟨h, rfl⟩

theorem throw (e : ε) : Still (throw e : EStateM ε σ α) q := fun _ ↦ rfl

theorem bind {x : EStateM ε σ α} {f : α → EStateM ε σ β} (hx : Still x q)
    (hf : ∀ a, q a → Still (f a) r) : Still (x >>= f) r := by
  intro s
  have hu := hx s
  rw [bind_apply]
  cases hxs : x s with
  | ok a u =>
    rw [hxs] at hu
    obtain ⟨ha, rfl⟩ := hu
    exact hf a ha u
  | error e u =>
    rw [hxs] at hu
    exact hu

theorem imp {x : EStateM ε σ α} (h : Still x p) (hpq : ∀ a, p a → q a) : Still x q := by
  intro s
  have hu := h s
  cases hxs : x s with
  | ok a u =>
    rw [hxs] at hu
    exact ⟨hpq a hu.1, hu.2⟩
  | error e u =>
    rw [hxs] at hu
    exact hu

theorem branch {c : Prop} [Decidable c] {x y : EStateM ε σ α} (hx : c → Still x q)
    (hy : ¬c → Still y q) : Still (if c then x else y) q := by
  split
  · exact hx ‹c›
  · exact hy ‹¬c›

/-- Whatever held before still holds. -/
theorem triple {P E : σ → Prop} {x : EStateM ε σ α} (h : Still x q) (hPE : ∀ s, P s → E s) :
    Triple P x (fun a s ↦ q a ∧ P s) E := by
  intro s hs
  have hu := h s
  cases hxs : x s with
  | ok a u =>
    rw [hxs] at hu
    exact ⟨hu.1, hu.2 ▸ hs⟩
  | error e u =>
    rw [hxs] at hu
    exact hPE u (hu ▸ hs)

end Still

/-- A computation that only looks comes first. -/
theorem Triple.still_bind {P E : σ → Prop} {q : α → Prop} {R : β → σ → Prop}
    {x : EStateM ε σ α} {f : α → EStateM ε σ β} (hx : Still x q) (hPE : ∀ s, P s → E s)
    (hf : ∀ a, q a → Triple P (f a) R E) : Triple P (x >>= f) R E :=
  .bind (hx.triple hPE) fun a ↦ .assuming (hf a)

end DiscordVoice.Fallible
