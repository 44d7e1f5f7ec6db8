import Mathlib

/-!
# Results, code points and bytes

General facts that the proofs share: when a mapped result succeeds or fails, and the numbers behind
characters and bytes.
-/

namespace TemplateLint

/-- A mapped result succeeds exactly when the result does. -/
theorem map_eq_ok_iff {ε α β : Type} {f : α → β} {x : Except ε α} {b : β} :
    x.map f = .ok b ↔ ∃ a, x = .ok a ∧ f a = b := by
  cases x with
  | error e => simp [Except.map]
  | ok a => simp [Except.map]

/-- A mapped result has exactly the errors of the result. -/
theorem map_eq_error_iff {ε α β : Type} {f : α → β} {x : Except ε α} {e : ε} :
    x.map f = .error e ↔ x = .error e := by
  cases x with
  | error e => simp [Except.map]
  | ok a => simp [Except.map]

/-- A result with mapped errors succeeds exactly as the result does. -/
theorem mapError_eq_ok_iff {ε ε' α : Type} {f : ε → ε'} {x : Except ε α} {a : α} :
    x.mapError f = .ok a ↔ x = .ok a := by
  cases x with
  | error e => simp [Except.mapError]
  | ok a => simp [Except.mapError]

/-- A code point is the number of its character. -/
theorem toNat_charOfNat {n : Nat} (h : n.isValidChar) : (Char.ofNat n).toNat = n := by
  rw [Char.ofNat, dif_pos h]
  rfl

/-- The two surrogates of a code point beyond the basic plane spell it. -/
theorem surrogates_spell {n : Nat} (h : 0x10000 ≤ n) :
    0x10000 + (0xD800 + (n - 0x10000) / 0x400 - 0xD800) * 0x400 +
      (0xDC00 + (n - 0x10000) % 0x400 - 0xDC00) = n := by
  omega

/-- A byte is the byte of a number exactly when the number is that of the byte up to 256. -/
theorem toUInt8_eq_iff {n : Nat} {b : UInt8} : n.toUInt8 = b ↔ n % 256 = b.toNat := by
  rw [← UInt8.toNat_inj, UInt8.toNat_ofNat']

end TemplateLint
