import TemplateLint.Proofs.Basic
import TemplateLint.Text.Numeral
import TemplateLint.Text.Quoted

/-!
# ASCII texts

Numerals and the codes that stand for characters in messages are ASCII. What a text has beyond ASCII
(`beyondAscii`) is what a codec may have to refuse; it is the same for texts that differ in ASCII
characters only.
-/

namespace TemplateLint.Text

/-! ### Texts in ASCII -/

/-- A text is ASCII exactly if all its characters are below U+0080. -/
theorem isAscii_iff {s : Text} : s.isAscii = true ↔ ∀ c ∈ s, c.toNat < 0x80 := by
  simp [isAscii]

/-- The empty text is ASCII. -/
@[simp] theorem isAscii_nil : isAscii [] = true := rfl

/-- A text is ASCII exactly if its first character and the rest are. -/
@[simp] theorem isAscii_cons {c : Char} {s : Text} :
    isAscii (c :: s) = true ↔ c.toNat < 0x80 ∧ s.isAscii = true := by
  simp [isAscii]

/-- A text is ASCII exactly if both parts of it are. -/
@[simp] theorem isAscii_append {s t : Text} :
    isAscii (s ++ t) = true ↔ s.isAscii = true ∧ t.isAscii = true := by
  simp [isAscii]

/-- A numeral is made of the digits from zero to nine. -/
theorem toNat_of_mem_ofNat {n : Nat} {c : Char} (h : c ∈ ofNat n) :
    0x30 ≤ c.toNat ∧ c.toNat ≤ 0x39 := by
  have hdigit : c.isDigit = true := Nat.isDigit_of_mem_toDigits (by omega) (by omega) h
  simpa [Char.isDigit, UInt32.le_iff_toNat_le] using hdigit

/-- The numeral of a natural number is ASCII. -/
theorem isAscii_ofNat (n : Nat) : (ofNat n).isAscii = true := by
  rw [isAscii_iff]
  intro c hc
  have hrange := toNat_of_mem_ofNat hc
  omega

/-- The numeral of an integer is ASCII. -/
theorem isAscii_ofInt (n : Int) : (ofInt n).isAscii = true := by
  cases n with
  | ofNat n => exact isAscii_ofNat n
  | negSucc n =>
    rw [ofInt, isAscii_cons]
    exact ⟨by decide, isAscii_ofNat (n + 1)⟩

private theorem toNat_hexDigit {k : Nat} (h : k < 16) : k.digitChar.toNat < 0x80 := by
  interval_cases k <;> decide

private theorem isAscii_hexDigits (n : Nat) : isAscii (Nat.toDigits 16 n) = true := by
  induction n using Nat.strongRecOn with
  | ind n ih =>
    by_cases h : n < 16
    · rw [Nat.toDigits_of_lt_base h, isAscii_cons]
      exact ⟨toNat_hexDigit h, isAscii_nil⟩
    · rw [Nat.toDigits_of_base_le (by omega) (Nat.le_of_not_lt h), isAscii_append, isAscii_cons]
      exact ⟨ih (n / 16) (by omega), toNat_hexDigit (Nat.mod_lt n (by omega)), isAscii_nil⟩

private theorem isAscii_ofHex (width n : Nat) : (ofHex width n).isAscii = true := by
  have hzeros : isAscii (List.replicate (width - (Nat.toDigits 16 n).length) '0') = true := by
    rw [isAscii_iff]
    intro c hc
    rw [List.eq_of_mem_replicate hc]
    decide
  rw [ofHex, isAscii_append]
  exact ⟨hzeros, isAscii_hexDigits n⟩

/-- The code that stands for a character is ASCII. -/
theorem isAscii_escapeCode (n : Nat) : (escapeCode n).isAscii = true := by
  unfold escapeCode
  split
  · simp [isAscii_ofHex]
  · split
    · simp [isAscii_ofHex]
    · simp [isAscii_ofHex]

/-! ### What a text has beyond ASCII -/

/-- The characters of a text beyond ASCII, in their order. -/
def beyondAscii (s : Text) : Text := s.filter fun c => 0x80 ≤ c.toNat

/-- What a text has beyond ASCII are its characters from U+0080 on. -/
theorem mem_beyondAscii_iff {s : Text} {c : Char} :
    c ∈ s.beyondAscii ↔ c ∈ s ∧ 0x80 ≤ c.toNat := by
  simp [beyondAscii]

/-- The empty text has nothing beyond ASCII. -/
@[simp] theorem beyondAscii_nil : beyondAscii [] = [] := rfl

/-- What a text has beyond ASCII is put together part by part. -/
@[simp] theorem beyondAscii_append (s t : Text) :
    beyondAscii (s ++ t) = s.beyondAscii ++ t.beyondAscii :=
  List.filter_append s t

/-- Exactly the texts in ASCII have nothing beyond it. -/
theorem beyondAscii_eq_nil_iff {s : Text} : s.beyondAscii = [] ↔ s.isAscii = true := by
  simp [beyondAscii, isAscii]

/-- What stands beyond ASCII in a text stands there in the parts that it is put together from. -/
theorem beyondAscii_flatMap {α : Type} (f : α → Text) (as : List α) :
    beyondAscii (as.flatMap f) = as.flatMap fun a => (f a).beyondAscii :=
  List.filter_flatMap

/-- The line feeds between lines add nothing beyond ASCII. -/
theorem beyondAscii_unlines (lines : List Text) :
    (unlines lines).beyondAscii = lines.flatMap beyondAscii := by
  have hlineFeed : beyondAscii ['\n'] = [] := by decide
  unfold unlines
  induction lines with
  | nil => rfl
  | cons line lines ih =>
    cases lines with
    | nil =>
      rw [List.intercalate_singleton]
      simp
    | cons next lines =>
      rw [List.intercalate_cons_cons, beyondAscii_append, beyondAscii_append, ih, hlineFeed,
        List.append_nil]
      rfl

/-! ### Integers that can be written -/

/-- An integer has few enough digits exactly if it is small enough. -/
theorem isShort_iff {n : Int} : isShort n = true ↔ n.natAbs < 10 ^ mostDigits := by
  rw [isShort, decide_eq_true_iff, ofNat]
  exact Nat.length_toDigits_le_iff (by omega) (by decide)

section
variable {α : Type} {integers : List Int} {made : α}

/-- A text is made of numerals exactly if all the integers can be written. -/
theorem withNumerals_eq_ok_iff {made' : α} :
    withNumerals integers made = .ok made' ↔
      (∀ n ∈ integers, isShort n = true) ∧ made = made' := by
  unfold withNumerals
  split
  · next h => simpa using fun _ => List.all_eq_true.mp h
  · next h =>
    constructor
    · intro herror
      cases herror
    · rintro ⟨hall, -⟩
      exact absurd (List.all_eq_true.mpr hall) h

/-- Otherwise there is the one complaint about integers. -/
theorem withNumerals_eq_error {complaint : Text}
    (h : withNumerals integers made = .error complaint) : complaint = digitsComplaint := by
  unfold withNumerals at h
  split at h
  · cases h
  · exact (Except.error.inj h).symm

end

/-- The complaint about integers is ASCII. -/
theorem isAscii_digitsComplaint : digitsComplaint.isAscii = true := by decide

end TemplateLint.Text
