import Mathlib.Algebra.Order.Group.Int
import Mathlib.Data.Option.Basic

/-!
# Keys with a time to live

A stored value may carry the time at which it expires. It is seen exactly before that time; behind it the key
is missing, whether or not it has been removed.
-/

namespace MyApiSpec.Base

variable {α : Type} {now : Int}

/-- A value and the time at which it expires, if it does. -/
structure Expiring (α : Type) where
  value : α
  expiresAt : Option Int
  deriving DecidableEq, Repr

/-- The value has not expired. -/
def Expiring.alive (e : Expiring α) (now : Int) : Bool := e.expiresAt.all fun t => now < t

/-- What a read of the key finds. -/
def live (key : Option (Expiring α)) (now : Int) : Option (Expiring α) := key.filter fun e => e.alive now

/-- The value that is seen, or a default. -/
def liveD (key : Option (Expiring α)) (now : Int) (default : α) : α := ((live key now).map Expiring.value).getD default

variable {key : Option (Expiring α)} {e : Expiring α}

theorem live_eq_some : live key now = some e ↔ key = some e ∧ e.alive now = true := by
  simp [live, Option.filter_eq_some_iff]

/-- What is seen later was seen earlier. -/
theorem live_earlier {later : Int} (hle : now ≤ later) (h : live key later = some e) :
    live key now = some e := by
  obtain ⟨hkey, halive⟩ := live_eq_some.mp h
  refine live_eq_some.mpr ⟨hkey, ?_⟩
  unfold Expiring.alive at halive ⊢
  cases ht : e.expiresAt with
  | none => rfl
  | some t =>
    rw [ht] at halive
    have hlt : later < t := by simpa using halive
    simpa using hle.trans_lt hlt

theorem alive_some {value : α} {t : Int} :
    (⟨value, some t⟩ : Expiring α).alive now = true ↔ now < t := by
  simp [Expiring.alive]

theorem liveD_of_live (h : live key now = some e) (d : α) : liveD key now d = e.value := by
  simp [liveD, h]

theorem liveD_of_none (h : live key now = none) (d : α) : liveD key now d = d := by
  simp [liveD, h]

end MyApiSpec.Base
