import Mathlib.Tactic.IntervalCases
import Mathlib.Tactic.Ring
import Mathlib.Data.List.GetD

namespace StayRTR

/-!
# Go's digit printers and the parsers that undo them

The text of a prefix, `IPNet.String`, is built from three digit printers of Go's standard
library: `appendDecimal` (an IPv4 byte), `appendHex` (an IPv6 group) and `itoa.Uitoa` (the
prefix length; `fmt`'s `%d` prints the same digits).  Each is modelled as Go writes it,
with its branches, and each is given a left inverse:

* `parseDigits b` — the value of a digit string in base `b` (Horner's rule);
* `parseDigits_appendDecimal`, `parseDigits_appendHex`, `parseDigits_uitoa` — parsing what
  the printer wrote gives the number back, so the printers are injective;
* `*_mem_digits` — a printer writes digit characters only, never a separator.
-/

/-! ### Digits -/

/-- The digit characters `netip`, `itoa` and `hexString` print with. -/
def digits : List Char := "0123456789abcdef".toList

/-- Digit `d` (`digits[d]`). -/
def digit (d : Nat) : Char := digits.getD d '0'

/-- The value of a digit character: its place in `digits`. -/
def digitVal (c : Char) : Nat := digits.indexOf c

/-- The value of a string of digits in base `b`. -/
def parseDigits (b : Nat) (cs : List Char) : Nat := cs.foldl (fun acc c => acc * b + digitVal c) 0

/-- Reading a digit below 16 back gives its value. -/
theorem digitVal_digit (d : Nat) (h : d < 16) : digitVal (digit d) = d := by
  interval_cases d <;> decide

/-- Every digit `digit` writes is a digit character. -/
theorem digit_mem_digits (d : Nat) : digit d ∈ digits := by
  unfold digit
  rcases Nat.lt_or_ge d digits.length with h | h
  · rw [List.getD_eq_getElem _ _ h]; exact List.getElem_mem h
  · rw [List.getD_eq_default _ _ h]; decide

/-- `parseDigits` reads a digit string from the left: the first digit is worth
    `b ^ (number of digits after it)`. -/
theorem foldl_parse (b acc : Nat) (cs : List Char) :
    cs.foldl (fun acc c => acc * b + digitVal c) acc = acc * b ^ cs.length + parseDigits b cs := by
  induction cs generalizing acc with
  | nil => simp [parseDigits]
  | cons c cs ih =>
    have hc : parseDigits b (c :: cs) = digitVal c * b ^ cs.length + parseDigits b cs := by
      rw [parseDigits, List.foldl_cons, Nat.zero_mul, Nat.zero_add, ih]
    rw [List.foldl_cons, ih, hc, List.length_cons, pow_succ]
    ring

/-- A leading digit is worth `b` to the power of the number of digits after it. -/
theorem parseDigits_cons (b : Nat) (c : Char) (cs : List Char) :
    parseDigits b (c :: cs) = digitVal c * b ^ cs.length + parseDigits b cs := by
  rw [parseDigits, List.foldl_cons, foldl_parse, Nat.zero_mul, Nat.zero_add]

/-- The empty digit string is worth 0. -/
@[simp] theorem parseDigits_nil (b : Nat) : parseDigits b [] = 0 := rfl

/-! ### `appendDecimal` and `appendHex` (`net/netip`) -/

/-- `appendDecimal`: the decimal digits of a byte, with no leading zeros. -/
def appendDecimal (x : Nat) : List Char :=
  (if 100 ≤ x then [digit (x / 100)] else []) ++ (if 10 ≤ x then [digit (x / 10 % 10)] else []) ++
    [digit (x % 10)]

/-- `appendHex`: the hex digits of a 16-bit group, with no leading zeros. -/
def appendHex (x : Nat) : List Char :=
  (if 0x1000 ≤ x then [digit (x / 0x1000)] else []) ++
    (if 0x100 ≤ x then [digit (x / 0x100 % 16)] else []) ++
    (if 0x10 ≤ x then [digit (x / 0x10 % 16)] else []) ++ [digit (x % 16)]

/-- **`appendDecimal` is injective on bytes**: its digits parse back to the byte. -/
theorem parseDigits_appendDecimal (x : Nat) (h : x < 256) :
    parseDigits 10 (appendDecimal x) = x := by
  have h2 := digitVal_digit (x / 100) (by omega)
  have h1 := digitVal_digit (x / 10 % 10) (by omega)
  have h0 := digitVal_digit (x % 10) (by omega)
  unfold appendDecimal
  by_cases h100 : 100 ≤ x <;> by_cases h10 : 10 ≤ x <;>
    simp [h100, h10, parseDigits, h0, h1, h2] <;> omega

/-- **`appendHex` is injective on 16-bit groups**: its digits parse back to the group. -/
theorem parseDigits_appendHex (x : Nat) (h : x < 0x10000) :
    parseDigits 16 (appendHex x) = x := by
  have h3 := digitVal_digit (x / 0x1000) (by omega)
  have h2 := digitVal_digit (x / 0x100 % 16) (by omega)
  have h1 := digitVal_digit (x / 0x10 % 16) (by omega)
  have h0 := digitVal_digit (x % 16) (by omega)
  unfold appendHex
  by_cases h4096 : 0x1000 ≤ x <;> by_cases h256 : 0x100 ≤ x <;> by_cases h16 : 0x10 ≤ x <;>
    simp [h4096, h256, h16, parseDigits, h0, h1, h2, h3] <;> omega

/-- `appendDecimal` writes digit characters only. -/
theorem appendDecimal_mem_digits (x : Nat) : ∀ c ∈ appendDecimal x, c ∈ digits := by
  unfold appendDecimal
  split_ifs <;> simp [digit_mem_digits]

/-- `appendHex` writes digit characters only. -/
theorem appendHex_mem_digits (x : Nat) : ∀ c ∈ appendHex x, c ∈ digits := by
  unfold appendHex
  split_ifs <;> simp [digit_mem_digits]

/-- `appendHex` writes at least one digit, also for 0. -/
theorem appendHex_ne_nil (x : Nat) : appendHex x ≠ [] := by
  simp [appendHex]

/-! ### `itoa.Uitoa` -/

/-- The digit loop of `itoa.Uitoa`: while `val ≥ 10` it puts the last digit of `val` in
    front of `buf` and divides `val` by ten, then puts the last digit.  `fuel` bounds the
    loop; `val` itself is enough. -/
def uitoa.loop : (fuel val : Nat) → (buf : List Char) → List Char
  | 0, val, buf => digit val :: buf
  | fuel + 1, val, buf =>
    if 10 ≤ val then loop fuel (val / 10) (digit (val % 10) :: buf) else digit val :: buf

/-- `itoa.Uitoa` (and `fmt`'s `%d` on an unsigned integer): the decimal digits of `val`. -/
def uitoa (val : Nat) : List Char := if val = 0 then ['0'] else uitoa.loop val val []

/-- The digit loop of `Uitoa` puts the digits of `val` in front of `buf`, given enough fuel. -/
theorem parseDigits_uitoa_loop (fuel val : Nat) (buf : List Char) (h : val ≤ fuel) :
    parseDigits 10 (uitoa.loop fuel val buf) = val * 10 ^ buf.length + parseDigits 10 buf := by
  induction fuel generalizing val buf with
  | zero =>
    obtain rfl : val = 0 := by omega
    simp [uitoa.loop, parseDigits_cons, digitVal_digit 0 (by omega)]
  | succ fuel ih =>
    rw [uitoa.loop]
    split_ifs with h10
    · rw [ih _ _ (by omega), parseDigits_cons, digitVal_digit _ (by omega), List.length_cons,
        pow_succ]
      have hval := Nat.div_add_mod val 10
      calc val / 10 * (10 ^ buf.length * 10) + (val % 10 * 10 ^ buf.length + parseDigits 10 buf)
          = (10 * (val / 10) + val % 10) * 10 ^ buf.length + parseDigits 10 buf := by ring
        _ = val * 10 ^ buf.length + parseDigits 10 buf := by rw [hval]
    · rw [parseDigits_cons, digitVal_digit _ (by omega)]

/-- **`Uitoa` is injective**: its digits parse back to the number. -/
theorem parseDigits_uitoa (n : Nat) : parseDigits 10 (uitoa n) = n := by
  unfold uitoa
  split_ifs with h
  · subst h; decide
  · simpa using parseDigits_uitoa_loop n n [] le_rfl

/-- The digit loop of `Uitoa` adds digit characters only. -/
theorem uitoa_loop_mem_digits (fuel val : Nat) (buf : List Char) (hbuf : ∀ c ∈ buf, c ∈ digits) :
    ∀ c ∈ uitoa.loop fuel val buf, c ∈ digits := by
  induction fuel generalizing val buf with
  | zero => exact List.forall_mem_cons.mpr ⟨digit_mem_digits val, hbuf⟩
  | succ fuel ih =>
    rw [uitoa.loop]
    split_ifs
    · exact ih _ _ (List.forall_mem_cons.mpr ⟨digit_mem_digits _, hbuf⟩)
    · exact List.forall_mem_cons.mpr ⟨digit_mem_digits val, hbuf⟩

/-- `Uitoa` writes digit characters only, so never the `,` of the dedup key. -/
theorem uitoa_mem_digits (n : Nat) : ∀ c ∈ uitoa n, c ∈ digits := by
  unfold uitoa
  split_ifs
  · decide
  · exact uitoa_loop_mem_digits n n [] (by simp)

end StayRTR
