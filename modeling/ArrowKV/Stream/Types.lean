import Mathlib.Order.Basic
import Mathlib.Algebra.Group.Nat.Basic

namespace ArrowKV
set_option autoImplicit true

/-- Modelled from the spec (not in the sources): a 64-bit `(epoch, index)` key, with its packing and order. -/
structure Sequence where
  epoch : UInt32
  index : UInt32
  deriving DecidableEq, Repr

def Sequence.toU64 (s : Sequence) : UInt64 := UInt64.ofNat (s.epoch.toNat * 2 ^ 32 + s.index.toNat)

def Sequence.le (a b : Sequence) : Bool :=
  a.epoch < b.epoch || (a.epoch = b.epoch && a.index ≤ b.index)

def Sequence.max (a b : Sequence) : Sequence := if a.le b then b else a

theorem Sequence.toNat_toU64 (s : Sequence) :
    s.toU64.toNat = s.epoch.toNat * 2 ^ 32 + s.index.toNat := by
  have he := s.epoch.toNat_lt_size
  have hi := s.index.toNat_lt_size
  exact UInt64.toNat_ofNat_of_lt (by simp only [UInt32.size, UInt64.size] at *; omega)

theorem Sequence.le_iff (a b : Sequence) : a.le b = true ↔
    a.epoch.toNat < b.epoch.toNat ∨ a.epoch.toNat = b.epoch.toNat ∧ a.index.toNat ≤ b.index.toNat := by
  have hinj : a.epoch = b.epoch ↔ a.epoch.toNat = b.epoch.toNat := ⟨congrArg _, UInt32.toNat.inj⟩
  simp only [Sequence.le, Bool.or_eq_true, Bool.and_eq_true, decide_eq_true_eq, hinj]
  rfl

theorem Sequence.toU64_lt_iff (a b : Sequence) : b.toU64 < a.toU64 ↔ a.le b = false := by
  have := a.index.toNat_lt_size
  have := b.index.toNat_lt_size
  rw [UInt64.lt_def, BitVec.lt_def, ← UInt64.toNat, ← UInt64.toNat, toNat_toU64, toNat_toU64,
    ← Bool.not_eq_true, le_iff]
  simp only [UInt32.size] at *
  omega

/-- Modelled from the spec (`crate::Entry` is not in the sources): a hole, an event, or a bridge. -/
inductive Entry where
  | hole
  | event (data : List UInt8)
  | bridge (epoch : UInt32)
  deriving DecidableEq, Repr

structure IndexRange where
  start : UInt32
  stop : UInt32
  deriving DecidableEq, Repr

/-- The error kinds the modelled functions return. -/
inductive Error where
  | notFound (msg : String)
  | invalidArgument (msg : String)
  | staled (msg : String)
  | io (msg : String)
  deriving DecidableEq, Repr

end ArrowKV
