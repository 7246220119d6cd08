import Mathlib.Algebra.Ring.Nat

/-!
# Support — BigEndian

Numbers as octets, the highest first.

* `octets`, `number`: a number in so many octets, and the number of some octets.
* `number_octets`: the number is read back where the octets hold it.
-/

namespace Httpunk.BigEndian

/-- The lowest octets of a number. -/
def octets : Nat → Nat → List UInt8
  | 0, _ => []
  | k + 1, n => UInt8.ofNat (n / 256 ^ k) :: octets k n

/-- The number of some octets, behind those that were read. -/
def numberFrom (n : Nat) : List UInt8 → Nat
  | [] => n
  | b :: bs => numberFrom (n * 256 + b.toNat) bs

def number (bs : List UInt8) : Nat := numberFrom 0 bs

@[simp] theorem length_octets (k n : Nat) : (octets k n).length = k := by
  induction k with
  | zero => rfl
  | succ k ih => simp [octets, ih]

theorem numberFrom_octets (k n : Nat) :
    ∀ m, numberFrom m (octets k n) = m * 256 ^ k + n % 256 ^ k := by
  induction k with
  | zero => simp [octets, numberFrom, Nat.mod_one]
  | succ k ih =>
    intro m
    have digit : (UInt8.ofNat (n / 256 ^ k)).toNat = n / 256 ^ k % 256 := by simp
    rw [octets, numberFrom, ih, digit, Nat.pow_succ, Nat.mod_mul]
    calc (m * 256 + n / 256 ^ k % 256) * 256 ^ k + n % 256 ^ k
        = m * 256 * 256 ^ k + n / 256 ^ k % 256 * 256 ^ k + n % 256 ^ k := by
          rw [Nat.add_mul]
      _ = m * (256 ^ k * 256) + (n % 256 ^ k + 256 ^ k * (n / 256 ^ k % 256)) := by
          rw [Nat.mul_assoc m, Nat.mul_comm 256, Nat.mul_comm (256 ^ k) (n / 256 ^ k % 256)]
          omega

theorem number_octets {k n : Nat} (fits : n < 256 ^ k) : number (octets k n) = n := by
  rw [number, numberFrom_octets, Nat.zero_mul, Nat.zero_add, Nat.mod_eq_of_lt fits]

end Httpunk.BigEndian
