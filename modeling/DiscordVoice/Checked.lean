import Mathlib.Data.List.Basic

namespace DiscordVoice

/-- How a call ends: in a value, in an error it hands back, or in a panic. -/
inductive Checked (ε α : Type*)
  | ok (a : α)
  | error (e : ε)
  | panicked
  deriving DecidableEq, Repr

namespace Checked

variable {ε : Type*} {α β : Type _}

protected def bind {ε α β : Type*} : Checked ε α → (α → Checked ε β) → Checked ε β
  | .ok a, f => f a
  | .error e, _ => .error e
  | .panicked, _ => .panicked

instance : Monad (Checked ε) where
  pure := .ok
  bind := Checked.bind

@[simp] theorem pure_eq (a : α) : (pure a : Checked ε α) = .ok a := rfl

@[simp] theorem ok_bind (a : α) (f : α → Checked ε β) : (Checked.ok a >>= f) = f a := rfl

@[simp] theorem error_bind (e : ε) (f : α → Checked ε β) :
    (Checked.error e >>= f) = .error e := rfl

@[simp] theorem panicked_bind (f : α → Checked ε β) :
    ((Checked.panicked : Checked ε α) >>= f) = .panicked := rfl

theorem bind_ok_iff {x : Checked ε α} {f : α → Checked ε β} {b : β} :
    (x >>= f) = .ok b ↔ ∃ a, x = .ok a ∧ f a = .ok b := by
  cases x with
  | ok a => simp
  | error e => simp
  | panicked => simp

/-- The call returns, with a value or with an error. -/
def Safe (x : Checked ε α) : Prop := x ≠ .panicked

@[simp] theorem safe_ok (a : α) : Safe (.ok a : Checked ε α) := by simp [Safe]

@[simp] theorem safe_error (e : ε) : Safe (.error e : Checked ε α) := by simp [Safe]

theorem Safe.bind {x : Checked ε α} {f : α → Checked ε β} (hx : x.Safe)
    (hf : ∀ a, x = .ok a → (f a).Safe) : (x >>= f).Safe := by
  cases x with
  | ok a => exact hf a rfl
  | error e => exact safe_error e
  | panicked => exact absurd rfl hx

def ofExcept : Except ε α → Checked ε α
  | .ok a => .ok a
  | .error e => .error e

@[simp] theorem ofExcept_ok (a : α) : (ofExcept (.ok a) : Checked ε α) = .ok a := rfl

@[simp] theorem ofExcept_error (e : ε) : (ofExcept (.error e) : Checked ε α) = .error e := rfl

theorem safe_ofExcept (x : Except ε α) : (ofExcept x).Safe := by
  cases x with
  | ok a => exact safe_ok a
  | error e => exact safe_error e

theorem ofExcept_eq_ok {x : Except ε α} {a : α} : ofExcept x = .ok a ↔ x = .ok a := by
  cases x with
  | ok b => simp [ofExcept]
  | error e => simp [ofExcept]

/-- `xs[i]` -/
def index (xs : List α) (i : ℕ) : Checked ε α :=
  match xs[i]? with
  | some a => .ok a
  | none => .panicked

/-- `xs.split_at(n)` -/
def splitAt (xs : List α) (n : ℕ) : Checked ε (List α × List α) :=
  if n ≤ xs.length then .ok (xs.take n, xs.drop n) else .panicked

/-- `&xs[n..]` -/
def sliceFrom (xs : List α) (n : ℕ) : Checked ε (List α) :=
  if n ≤ xs.length then .ok (xs.drop n) else .panicked

/-- `&xs[..n]` -/
def sliceTo (xs : List α) (n : ℕ) : Checked ε (List α) :=
  if n ≤ xs.length then .ok (xs.take n) else .panicked

theorem splitAt_of_le {xs : List α} {n : ℕ} (h : n ≤ xs.length) :
    (splitAt xs n : Checked ε _) = .ok (xs.take n, xs.drop n) := if_pos h

theorem sliceTo_of_le {xs : List α} {n : ℕ} (h : n ≤ xs.length) :
    (sliceTo xs n : Checked ε _) = .ok (xs.take n) := if_pos h

@[simp] theorem index_cons_zero (x : α) (xs : List α) :
    (index (x :: xs) 0 : Checked ε α) = .ok x := rfl

@[simp] theorem index_cons_succ (x : α) (xs : List α) (i : ℕ) :
    (index (x :: xs) (i + 1) : Checked ε α) = index xs i := by
  simp only [index, List.getElem?_cons_succ]

theorem index_add (xs : List α) (n i : ℕ) :
    (index xs (n + i) : Checked ε α) = index (xs.drop n) i := by
  simp only [index, List.getElem?_drop]

@[simp] theorem sliceFrom_zero (xs : List α) : (sliceFrom xs 0 : Checked ε _) = .ok xs := by
  simp only [sliceFrom, Nat.zero_le, if_true, List.drop_zero]

@[simp] theorem sliceFrom_cons_succ (x : α) (xs : List α) (n : ℕ) :
    (sliceFrom (x :: xs) (n + 1) : Checked ε _) = sliceFrom xs n := by
  simp only [sliceFrom, List.length_cons, Nat.add_le_add_iff_right, List.drop_succ_cons]

/-- `result.expect(..)` -/
def expect {ε' : Type*} : Checked ε α → Checked ε' α
  | .ok a => .ok a
  | .error _ => .panicked
  | .panicked => .panicked

end Checked

end DiscordVoice
