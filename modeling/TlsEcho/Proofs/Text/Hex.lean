import Mathlib.Algebra.Group.Nat.Defs
import TlsEcho.Bytes
import TlsEcho.Text.Hex

/-!
# Reading and comparing hexadecimal text

The digits of a number read back as the number (`value?_digits`), and the bytes of equally many
digits compare as the numbers do (`compare_digitBytes`).  Both follow the digits from the last one
to the front: dividing by sixteen takes the last digit off.
-/

namespace TlsEcho.Text.Hex

variable {width m n : Nat}

/-! ## Single digits -/

/-- The digits in the order of their values. -/
def lowerDigits : List Char := "0123456789abcdef".toList

/-- A number below sixteen is written as one of the lower-case digits. -/
theorem digit_mem_lowerDigits (h : n < 16) : digit n ∈ lowerDigits := by
  have hall : ∀ n < 16, digit n ∈ lowerDigits := by decide
  exact hall n h

/-- A digit that was written is read back. -/
theorem digitValue?_digit (h : n < 16) : digitValue? (digit n) = some n := by
  have hall : ∀ n < 16, digitValue? (digit n) = some n := by decide
  exact hall n h

/-- The bytes of the digits ascend with their values, also from `9` to `a`. -/
theorem compare_digit (hm : m < 16) (hn : n < 16) :
    compare (digit m).val.toUInt8 (digit n).val.toUInt8 = compare m n := by
  have hall : ∀ m < 16, ∀ n < 16,
      compare (digit m).val.toUInt8 (digit n).val.toUInt8 = compare m n := by
    decide
  exact hall m hm n hn

/-! ## Reading digits -/

/-- Nothing else is written. -/
theorem digits_subset (width n : Nat) : digits width n ⊆ lowerDigits := by
  induction width generalizing n with
  | zero => exact List.nil_subset _
  | succ width ih =>
    intro c hc
    rw [digits, List.mem_append, List.mem_singleton] at hc
    cases hc with
    | inl hfront => exact ih (n / 16) hfront
    | inr hlast =>
      rw [hlast]
      exact digit_mem_lowerDigits (Nat.mod_lt n (by omega))

/-- Digits are read from the front, and those behind go on from the value so far. -/
theorem valueFrom?_append (acc : Nat) (front back : List Char) :
    valueFrom? acc (front ++ back) =
      (valueFrom? acc front).bind fun value => valueFrom? value back := by
  induction front generalizing acc with
  | nil => rfl
  | cons c rest ih =>
    rw [List.cons_append, valueFrom?, valueFrom?]
    cases digitValue? c with
    | none => rfl
    | some d => exact ih (acc * 16 + d)

/-- A number is read back from its digits, if there are enough of them. -/
theorem value?_digits (h : n < 16 ^ width) : value? (digits width n) = some n := by
  induction width generalizing n with
  | zero =>
    have hzero : n = 0 := by omega
    rw [hzero]
    rfl
  | succ width ih =>
    rw [pow_succ] at h
    have hfront : valueFrom? 0 (digits width (n / 16)) = some (n / 16) := ih (by omega)
    rw [value?, digits, valueFrom?_append, hfront]
    -- what is left to read is the last digit
    show valueFrom? (n / 16) [digit (n % 16)] = some n
    rw [valueFrom?, digitValue?_digit (Nat.mod_lt n (by omega))]
    show some (n / 16 * 16 + n % 16) = some n
    rw [Nat.div_add_mod']

/-! ## Comparing digits -/

/-- The bytes of the last `width` digits of `n`. -/
def digitBytes (width n : Nat) : Bytes := (digits width n).map fun c => c.val.toUInt8

/-- The bytes of the digits are as many as the digits. -/
theorem length_digitBytes (width n : Nat) : (digitBytes width n).length = width := by
  rw [digitBytes, List.length_map, length_digits]

/-- The last byte is that of the last digit, as with the digits themselves. -/
theorem digitBytes_succ (width n : Nat) :
    digitBytes (width + 1) n = digitBytes width (n / 16) ++ [(digit (n % 16)).val.toUInt8] := by
  rw [digitBytes, digits, List.map_append]
  rfl

/-- Every digit is one byte. -/
theorem ofString_digits (before : List Char) (hbefore : ∀ c ∈ before, c.utf8Size = 1)
    (width n : Nat) :
    Bytes.ofString (String.ofList (before ++ digits width n)) =
      (before.map fun c => c.val.toUInt8) ++ digitBytes width n := by
  have hdigit : ∀ c ∈ lowerDigits, c.utf8Size = 1 := by
    have hall : lowerDigits.all (fun c => c.utf8Size == 1) = true := by decide
    simpa only [List.all_eq_true, beq_iff_eq] using hall
  rw [Bytes.ofString_ofList_of_ascii, List.map_append, digitBytes]
  intro c hc
  cases List.mem_append.1 hc with
  | inl hfront => exact hbefore c hfront
  | inr hback => exact hdigit c (digits_subset width n hback)

/-- Numbers are compared by what is in front of their last digits, and then by these. -/
theorem compare_div_then_mod (m n : Nat) :
    compare m n = (compare (m / 16) (n / 16)).then (compare (m % 16) (n % 16)) := by
  rcases Nat.lt_trichotomy (m / 16) (n / 16) with hlt | heq | hgt
  · have hless : m < n := by omega
    rw [Nat.compare_eq_lt.2 hlt, Nat.compare_eq_lt.2 hless]
    rfl
  · have hless : m < n ↔ m % 16 < n % 16 := by omega
    have hmore : n < m ↔ n % 16 < m % 16 := by omega
    rw [Nat.compare_eq_eq.2 heq, Ordering.eq_then, Nat.compare_eq_ite_lt, Nat.compare_eq_ite_lt]
    simp only [hless, hmore]
  · have hmore : n < m := by omega
    rw [Nat.compare_eq_gt.2 hgt, Nat.compare_eq_gt.2 hmore]
    rfl

/-- Equally many digits are compared, byte by byte, as the numbers are. -/
theorem compare_digitBytes (hm : m < 16 ^ width) (hn : n < 16 ^ width) :
    compare (digitBytes width m) (digitBytes width n) = compare m n := by
  induction width generalizing m n with
  | zero =>
    have hm₀ : m = 0 := by omega
    have hn₀ : n = 0 := by omega
    rw [hm₀, hn₀]
    rfl
  | succ width ih =>
    rw [pow_succ] at hm hn
    have hlength : (digitBytes width (m / 16)).length = (digitBytes width (n / 16)).length := by
      rw [length_digitBytes, length_digitBytes]
    have hfront : compare (digitBytes width (m / 16)) (digitBytes width (n / 16)) =
        compare (m / 16) (n / 16) := ih (by omega) (by omega)
    have hlast : compare [(digit (m % 16)).val.toUInt8] [(digit (n % 16)).val.toUInt8] =
        compare (m % 16) (n % 16) := by
      rw [List.compare_cons_cons, List.compare_nil_nil, Ordering.then_eq]
      exact compare_digit (Nat.mod_lt m (by omega)) (Nat.mod_lt n (by omega))
    -- the front parts are equally long, so the last digits count only if those are the same
    rw [digitBytes_succ, digitBytes_succ, Bytes.compare_append hlength, hfront, hlast]
    exact (compare_div_then_mod m n).symm

end TlsEcho.Text.Hex
