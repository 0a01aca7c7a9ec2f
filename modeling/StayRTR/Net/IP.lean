import Mathlib.Tactic.IntervalCases
import Mathlib.Data.List.Basic

namespace StayRTR

/-!
# Go's `net` package — the parts `processData` reads

`processData` receives its prefixes from `GetPrefix2`, which is `net.ParseCIDR`, and reads
them through `IP.To4`, `IPMask.Size` and (for the dedup key) `IPNet.String`.  This file
models the first of these and the shape of a parsed prefix:

* `IPNet` — a `net.IPNet`, its IP bytes and its mask bytes;
* `to4` / `to16` — `IP.To4` / `IP.To16`;
* `simpleMaskLength` / `maskSize` — the length of a canonical mask and `IPMask.Size`;
* `cidrMask` — `net.CIDRMask`, the mask `ParseCIDR` builds;
* `CIDR` — a prefix as `ParseCIDR` returns it, with its well-formedness as fields, and
  `CIDR.maskSize_toIPNet`, which says `IPMask.Size` reads back its length and width;
* `CIDR.ones_ge_of_mapped` — an IPv4-mapped 16-byte prefix is at least a `/96`, since
  masking keeps its `ffff` bytes only then.

Bytes are `UInt8`, as in Go; the byte operations of the source are evaluated on the
concrete mask bytes only, and arithmetic facts go through `UInt8.toNat`.
-/

/-- A `net.IPNet`: the network's IP bytes and its mask bytes. -/
structure IPNet where
  ip : List UInt8
  mask : List UInt8
deriving DecidableEq, Repr

/-! ### `IP.To4`, `IP.To16` -/

/-- The first twelve bytes of an IPv4 address written in IPv6 form (`v4InV6Prefix`). -/
def v4InV6Prefix : List UInt8 := [0, 0, 0, 0, 0, 0, 0, 0, 0, 0, 0xff, 0xff]

/-- `IP.To4`: the four bytes of an IPv4 address, also of one written in IPv6 form as
    `::ffff:a.b.c.d`; `none` (Go's `nil`) for any other IP. -/
def to4 (ip : List UInt8) : Option (List UInt8) :=
  if ip.length = 4 then some ip
  else if ip.length = 16 ∧ (ip.take 10).all (· = 0) ∧ ip.getD 10 0 = 0xff ∧ ip.getD 11 0 = 0xff
  then some (ip.drop 12)
  else none

/-- `IP.To16`: an IPv4 address in its 16-byte form, an IPv6 address as it is, `none`
    otherwise. -/
def to16 (ip : List UInt8) : Option (List UInt8) :=
  if ip.length = 4 then some (v4InV6Prefix ++ ip)
  else if ip.length = 16 then some ip
  else none

/-- An IPv6 address that `To4` reads as IPv4 (`::ffff:a.b.c.d`). -/
def IsMapped (ip : List UInt8) : Prop :=
  ip.length = 16 ∧ (ip.take 10).all (· = 0) ∧ ip.getD 10 0 = 0xff ∧ ip.getD 11 0 = 0xff

instance (ip : List UInt8) : Decidable (IsMapped ip) := by unfold IsMapped; infer_instance

/-- `To4` returns a 4-byte address as it is. -/
theorem to4_of_length_four {ip : List UInt8} (h : ip.length = 4) : to4 ip = some ip := by
  simp [to4, h]

/-- `To4` returns the last four bytes of an IPv4-mapped 16-byte address. -/
theorem to4_of_mapped {ip : List UInt8} (h : IsMapped ip) : to4 ip = some (ip.drop 12) := by
  have h4 : ip.length ≠ 4 := by rw [h.1]; decide
  simp only [to4, h4, if_false]
  exact if_pos h

/-- `To4` returns nil for any other address. -/
theorem to4_of_not_mapped {ip : List UInt8} (h4 : ip.length ≠ 4) (h : ¬ IsMapped ip) :
    to4 ip = none := by
  simp only [to4, h4, if_false]
  exact if_neg h

/-- A 4- or 16-byte IP has a 16-byte form. -/
theorem to16_isSome {ip : List UInt8} (h : ip.length = 4 ∨ ip.length = 16) :
    (to16 ip).isSome := by
  rcases h with h | h <;> simp [to16, h]

/-! ### Masks: `simpleMaskLength`, `IPMask.Size`, `CIDRMask` -/

/-- The inner loop of `simpleMaskLength` on the first byte that is not `0xff`: it counts
    one bits while `v & 0x80 ≠ 0`, shifting `v` left, and returns the count and the byte
    that is left. -/
def countOnes : (fuel : Nat) → UInt8 → Nat × UInt8
  | 0, v => (0, v)
  | fuel + 1, v =>
    if v &&& 0x80 ≠ 0 then ((countOnes fuel (v <<< 1)).1 + 1, (countOnes fuel (v <<< 1)).2)
    else (0, v)

/-- The loop of `simpleMaskLength`, `n` being its running count of one bits. -/
def simpleMaskLength.go (n : Nat) : List UInt8 → Int
  | [] => n
  | v :: rest =>
    if v = 0xff then go (n + 8) rest
    else if (countOnes 8 v).2 ≠ 0 then -1
    else if rest.all (· = 0) then n + (countOnes 8 v).1
    else -1

/-- `simpleMaskLength`: the number of leading one bits of a mask of the form `1…10…0`, and
    `-1` for any other mask. -/
def simpleMaskLength (mask : List UInt8) : Int := simpleMaskLength.go 0 mask

/-- `IPMask.Size`: the leading ones and the total bits of a canonical mask, `(0, 0)` for a
    mask that is not canonical. -/
def maskSize (mask : List UInt8) : Nat × Nat :=
  if simpleMaskLength mask = -1 then (0, 0) else ((simpleMaskLength mask).toNat, mask.length * 8)

/-- The loop of `net.CIDRMask`: `l` bytes, `n` the one bits still to place; a byte that is not
    all ones is `^byte(0xff >> n)`. -/
def cidrMask.go : (n l : Nat) → List UInt8
  | _, 0 => []
  | n, l + 1 => if 8 ≤ n then 0xff :: go (n - 8) l else ~~~((0xff : UInt8) >>> n.toUInt8) :: go 0 l

/-- `net.CIDRMask(ones, bits)`: `ones` one bits, then zero bits, as `bits / 8` bytes.  Go returns
    `nil` unless `bits` is 32 or 128 and `ones ≤ bits`; the prefixes modelled here are always
    in that range. -/
def cidrMask (ones bits : Nat) : List UInt8 := cidrMask.go ones (bits / 8)

/-- Each mask byte is `0xff` while eight or more ones are left, then the partial byte, then zeros. -/
theorem cidrMask_go_succ (n l : Nat) : cidrMask.go n (l + 1) =
    if 8 ≤ n then 0xff :: cidrMask.go (n - 8) l
    else ~~~((0xff : UInt8) >>> n.toUInt8) :: cidrMask.go 0 l := rfl

/-- `CIDRMask` writes as many bytes as asked. -/
@[simp] theorem cidrMask_go_length (n l : Nat) : (cidrMask.go n l).length = l := by
  induction l generalizing n with
  | zero => rfl
  | succ l ih => unfold cidrMask.go; split_ifs <;> simp [ih]

/-- Once the ones are placed, `CIDRMask`'s remaining bytes are zero. -/
theorem cidrMask_go_zero (l : Nat) : ∀ b ∈ cidrMask.go 0 l, b = 0 := by
  induction l with
  | zero => simp [cidrMask.go]
  | succ l ih =>
    intro b hb
    simp only [cidrMask.go, Nat.not_le.mpr (Nat.zero_lt_succ 7), if_false,
      List.mem_cons] at hb
    rcases hb with rfl | hb
    · decide
    · exact ih b hb

/-- The byte `CIDRMask` writes where fewer than eight ones are left. -/
theorem partial_byte (n : Nat) (h : n < 8) :
    ~~~((0xff : UInt8) >>> n.toUInt8) ≠ 0xff ∧ countOnes 8 (~~~((0xff : UInt8) >>> n.toUInt8)) = (n, 0) := by
  interval_cases n <;> decide

/-- `simpleMaskLength` counts the ones of a `CIDRMask`. -/
theorem simpleMaskLength_go_cidrMask (n m l : Nat) (h : m ≤ 8 * l) :
    simpleMaskLength.go n (cidrMask.go m l) = n + m := by
  induction l generalizing n m with
  | zero => simp [cidrMask.go, simpleMaskLength.go, show m = 0 by omega]
  | succ l ih =>
    rw [cidrMask_go_succ]
    split_ifs with h8
    · simp only [simpleMaskLength.go, if_true, ih (n + 8) (m - 8) (by omega)]
      omega
    · obtain ⟨hne, hcount⟩ := partial_byte m (by omega)
      have hzero : (cidrMask.go 0 l).all (· = 0) := by
        simpa using cidrMask_go_zero l
      rw [simpleMaskLength.go, if_neg hne, hcount]
      simp [hzero]

/-- Dropping the first `k` bytes of a `CIDRMask` leaves the mask of the remaining ones. -/
theorem drop_cidrMask_go (m l k : Nat) :
    (cidrMask.go m (l + k)).drop k = cidrMask.go (m - 8 * k) l := by
  induction k generalizing m with
  | zero => rfl
  | succ k ih =>
    rw [show l + (k + 1) = (l + k) + 1 by omega, cidrMask_go_succ]
    split_ifs with h8
    · rw [List.drop_succ_cons, ih, Nat.sub_sub, Nat.mul_succ, Nat.add_comm 8]
    · rw [List.drop_succ_cons, ih, show m - 8 * (k + 1) = 0 by omega, Nat.zero_sub]

/-! ### Parsed prefixes -/

/-- A prefix as `net.ParseCIDR` returns it, the form `GetPrefix2` hands to `processData`: an
    IP of 4 or 16 bytes masked to its first `ones` bits (`IP.Mask(CIDRMask(ones, 8·len))` is
    the IP: byte `i` has no bit set below its first `min 8 (ones - 8i)`), with the mask
    `CIDRMask(ones, 8·len)`. -/
structure CIDR where
  ip : List UInt8
  ones : Nat
  length_mem : ip.length = 4 ∨ ip.length = 16
  ones_le : ones ≤ 8 * ip.length
  masked : ∀ i < ip.length, (ip.getD i 0).toNat % 2 ^ (8 - min 8 (ones - 8 * i)) = 0

/-- The `net.IPNet` of a parsed prefix. -/
def CIDR.toIPNet (p : CIDR) : IPNet := ⟨p.ip, cidrMask p.ones (8 * p.ip.length)⟩

/-- The `IPNet` of a parsed prefix keeps its address bytes. -/
@[simp] theorem CIDR.toIPNet_ip (p : CIDR) : p.toIPNet.ip = p.ip := rfl

/-- The `IPNet` of a parsed prefix has the mask `CIDRMask` builds for it. -/
theorem CIDR.toIPNet_mask (p : CIDR) : p.toIPNet.mask = cidrMask.go p.ones p.ip.length := by
  simp [CIDR.toIPNet, cidrMask]

/-- A parsed prefix is fixed by its address and its number of ones. -/
theorem CIDR.ext {p q : CIDR} (hip : p.ip = q.ip) (hones : p.ones = q.ones) : p = q := by
  cases p; cases q; cases hip; cases hones; rfl

/-- `IPMask.Size` of a parsed prefix's mask: its length and its address width. -/
theorem CIDR.maskSize_toIPNet (p : CIDR) :
    maskSize p.toIPNet.mask = (p.ones, 8 * p.ip.length) := by
  have h := simpleMaskLength_go_cidrMask 0 p.ones p.ip.length p.ones_le
  have hne : ((0 : Nat) : Int) + p.ones ≠ -1 := by omega
  rw [maskSize, simpleMaskLength, CIDR.toIPNet_mask, h, cidrMask_go_length, if_neg hne]
  simp [Nat.mul_comm]

/-- The mask of a 16-byte prefix without its first twelve bytes: the mask of its ones past
    the 96th. -/
theorem CIDR.mask_drop_twelve (p : CIDR) (h : p.ip.length = 16) :
    p.toIPNet.mask.drop 12 = cidrMask.go (p.ones - 96) 4 := by
  rw [CIDR.toIPNet_mask, h]
  exact drop_cidrMask_go p.ones 4 12

/-- Only an odd number's zero-th power of two divides it. -/
private theorem pow_dvd_255 (k : Nat) (hk : k ≤ 8) (h : 255 % 2 ^ k = 0) : k = 0 := by
  interval_cases k <;> simp_all

/-- **An IPv4-mapped prefix is at least a `/96`.**  Masking below 96 bits would clear the
    `ffff` of bytes 10 and 11, and `To4` would no longer read the IP as IPv4. -/
theorem CIDR.ones_ge_of_mapped (p : CIDR) (h : IsMapped p.ip) : 96 ≤ p.ones := by
  have h11 := p.masked 11 (by rw [h.1]; decide)
  rw [h.2.2.2] at h11
  have := pow_dvd_255 _ (by omega) h11
  omega

end StayRTR
