import Mathlib.Data.List.Infix
import Mathlib.Data.List.GetD

namespace StayRTR

/-!
# `base64.RawStdEncoding` — the encoder, and why its prefixes are byte prefixes

The key callback compares the unpadded base64 of the presented key with the start of each
authorized line.  `rawStdEncode` is `RawStdEncoding.EncodeToString` as `encoding/base64`
computes it: every three bytes give four characters of the alphabet `encodeStd`, and a last
one or two bytes give two or three.

* `b64Char_inj`: the alphabet repeats no character (it is the runs `A`–`Z`, `a`–`z`, `0`–`9`,
  then `+` and `/`), so a character fixes its six-bit value;
* `rawStdEncode_mem`: the encoder writes alphabet characters only, never `=` or a space;
* `prefix_of_rawStdEncode`: when the encoding of `m` is a prefix of the encoding of `b`, then
  `m` is a prefix of `b`, because each character fixes six bits of the input.
-/

/-- `encodeStd`: the alphabet of `StdEncoding` and `RawStdEncoding`, as bytes. -/
def encodeStd : List UInt8 :=
  "ABCDEFGHIJKLMNOPQRSTUVWXYZabcdefghijklmnopqrstuvwxyz0123456789+/".toList.map (·.toNat.toUInt8)

/-- `enc.encode[i]`: the character of the six-bit value `i`. -/
def b64Char (i : Nat) : UInt8 := encodeStd.getD i 0

/-- `RawStdEncoding.EncodeToString`: each three bytes, read as a 24-bit `val`, become the
    characters of `val>>18&0x3F`, `val>>12&0x3F`, `val>>6&0x3F` and `val&0x3F`; a last one or
    two bytes are read with zero bytes after them and give two or three characters. -/
def rawStdEncode : List UInt8 → List UInt8
  | b0 :: b1 :: b2 :: rest =>
    let val := b0.toNat * 65536 + b1.toNat * 256 + b2.toNat
    [b64Char (val / 262144 % 64), b64Char (val / 4096 % 64), b64Char (val / 64 % 64),
      b64Char (val % 64)] ++ rawStdEncode rest
  | [b0, b1] =>
    let val := b0.toNat * 65536 + b1.toNat * 256
    [b64Char (val / 262144 % 64), b64Char (val / 4096 % 64), b64Char (val / 64 % 64)]
  | [b0] =>
    let val := b0.toNat * 65536
    [b64Char (val / 262144 % 64), b64Char (val / 4096 % 64)]
  | [] => []

/-! ### The alphabet -/

/-- `toNat` of a truncated byte. -/
theorem toNat_toUInt8 (x : Nat) : x.toUInt8.toNat = x % 256 := rfl

/-- The code of the character of the six-bit value `i`: the alphabet is the runs `A`–`Z`,
    `a`–`z` and `0`–`9`, then `+` and `/`. -/
def b64Code (i : Nat) : Nat :=
  if i < 26 then 65 + i else if i < 52 then 71 + i else if i < 62 then i - 4 else if i = 62 then 43 else 47

/-- The six-bit value of a character code, the inverse of `b64Code` (what `decodeMap` holds). -/
def b64Index (c : Nat) : Nat :=
  if c < 48 then (if c = 43 then 62 else 63) else if c < 65 then c + 4 else if c < 97 then c - 65 else c - 71

/-- The alphabet, as `b64Code` lists it by runs of letters, digits and `+/`. -/
theorem encodeStd_eq_runs : encodeStd = (List.range 64).map fun i => (b64Code i).toUInt8 := by
  decide

/-- Character `i` of the alphabet is `b64Code i`. -/
theorem b64Char_toNat {i : Nat} (h : i < 64) : (b64Char i).toNat = b64Code i := by
  have hi : i < ((List.range 64).map fun i => (b64Code i).toUInt8).length := by simpa using h
  rw [b64Char, encodeStd_eq_runs, List.getD_eq_getElem _ _ hi, List.getElem_map, List.getElem_range,
    toNat_toUInt8, Nat.mod_eq_of_lt]
  unfold b64Code; split_ifs <;> omega

/-- `b64Index` undoes `b64Code` on six-bit values. -/
theorem b64Index_b64Code {i : Nat} (h : i < 64) : b64Index (b64Code i) = i := by
  unfold b64Code; split_ifs <;> simp (disch := omega) only [b64Index, if_pos, if_neg, if_true] <;> omega

/-- Distinct six-bit values are written as distinct characters. -/
theorem b64Char_inj {i j : Nat} (hi : i < 64) (hj : j < 64) (h : b64Char i = b64Char j) : i = j := by
  rw [← b64Index_b64Code hi, ← b64Index_b64Code hj, ← b64Char_toNat hi, ← b64Char_toNat hj, h]

/-- Every character the encoder writes is in the alphabet. -/
theorem b64Char_mem (i : Nat) (h : i < 64) : b64Char i ∈ encodeStd := by
  unfold b64Char
  rw [List.getD_eq_getElem _ _ (by simpa [encodeStd_eq_runs] using h)]
  exact List.getElem_mem _

/-- The encoder writes alphabet characters only. -/
theorem rawStdEncode_mem (b : List UInt8) : ∀ c ∈ rawStdEncode b, c ∈ encodeStd := by
  induction b using rawStdEncode.induct with
  | case1 b0 b1 b2 rest ih =>
    simp only [rawStdEncode, List.cons_append, List.nil_append, List.mem_cons]
    rintro c (rfl | rfl | rfl | rfl | hc)
    any_goals exact b64Char_mem _ (Nat.mod_lt _ (by decide))
    exact ih c hc
  | case2 b0 b1 =>
    simp only [rawStdEncode, List.mem_cons, List.not_mem_nil, or_false]
    rintro c (rfl | rfl | rfl) <;> exact b64Char_mem _ (Nat.mod_lt _ (by decide))
  | case3 b0 =>
    simp only [rawStdEncode, List.mem_cons, List.not_mem_nil, or_false]
    rintro c (rfl | rfl) <;> exact b64Char_mem _ (Nat.mod_lt _ (by decide))
  | case4 => simp [rawStdEncode]

/-- Two characters of the encoder are equal exactly when their six-bit values are. -/
theorem b64Char_mod_inj {x y : Nat} (h : b64Char (x % 64) = b64Char (y % 64)) : x % 64 = y % 64 :=
  b64Char_inj (Nat.mod_lt _ (by decide)) (Nat.mod_lt _ (by decide)) h

/-! ### What the first characters of a group fix

A group of three bytes `b0 b1 b2` is read as `val = b0·2¹⁶ + b1·2⁸ + b2`.  Its first two
characters fix the top twelve bits of `val`, hence `b0`; three fix the top eighteen, hence
`b0` and `b1`; four fix all of `val`. -/

theorem first_byte_of_two_chars {v w : Nat} (hv : v < 16777216) (hw : w < 16777216)
    (h₁ : b64Char (v / 262144 % 64) = b64Char (w / 262144 % 64))
    (h₂ : b64Char (v / 4096 % 64) = b64Char (w / 4096 % 64)) : v / 65536 = w / 65536 := by
  have := b64Char_mod_inj h₁; have := b64Char_mod_inj h₂; omega

/-- Three equal characters of two groups fix their first two bytes. -/
theorem first_bytes_of_three_chars {v w : Nat} (hv : v < 16777216) (hw : w < 16777216)
    (h₁ : b64Char (v / 262144 % 64) = b64Char (w / 262144 % 64))
    (h₂ : b64Char (v / 4096 % 64) = b64Char (w / 4096 % 64))
    (h₃ : b64Char (v / 64 % 64) = b64Char (w / 64 % 64)) : v / 256 = w / 256 := by
  have := b64Char_mod_inj h₁; have := b64Char_mod_inj h₂; have := b64Char_mod_inj h₃; omega

/-- Four equal characters of two groups fix all three bytes. -/
theorem val_of_four_chars {v w : Nat} (hv : v < 16777216) (hw : w < 16777216)
    (h₁ : b64Char (v / 262144 % 64) = b64Char (w / 262144 % 64))
    (h₂ : b64Char (v / 4096 % 64) = b64Char (w / 4096 % 64))
    (h₃ : b64Char (v / 64 % 64) = b64Char (w / 64 % 64))
    (h₄ : b64Char (v % 64) = b64Char (w % 64)) : v = w := by
  have := b64Char_mod_inj h₁; have := b64Char_mod_inj h₂; have := b64Char_mod_inj h₃
  have := b64Char_mod_inj h₄; omega

/-- **A prefix of an encoding encodes a prefix.**  If the encoding of `m` is a prefix of the
    encoding of `b`, then `m` is a prefix of `b`: the first characters fix the bytes of every
    group of `m`, and a last partial group of `m` is matched only by a group of `b` that
    starts with the same bytes. -/
theorem prefix_of_rawStdEncode {m b : List UInt8} (h : rawStdEncode m <+: rawStdEncode b) : m <+: b := by
  have hbyte : ∀ c : UInt8, c.toNat < 256 := UInt8.toNat_lt_size
  induction m using rawStdEncode.induct generalizing b with
  | case1 b0 b1 b2 rest ih =>
    -- a full group of `m` needs a full group of `b` with the same bytes
    rcases b with _ | ⟨c0, _ | ⟨c1, _ | ⟨c2, b'⟩⟩⟩ <;>
      simp only [rawStdEncode, List.cons_append, List.nil_append, List.cons_prefix_cons,
        List.prefix_nil, List.cons_ne_nil, and_false] at h
    obtain ⟨e₁, e₂, e₃, e₄, h⟩ := h
    have := hbyte b0; have := hbyte b1; have := hbyte b2
    have := hbyte c0; have := hbyte c1; have := hbyte c2
    have hv := val_of_four_chars (by omega) (by omega) e₁ e₂ e₃ e₄
    obtain rfl : b0 = c0 := UInt8.toNat.inj (by omega)
    obtain rfl : b1 = c1 := UInt8.toNat.inj (by omega)
    obtain rfl : b2 = c2 := UInt8.toNat.inj (by omega)
    exact List.cons_prefix_cons.mpr ⟨rfl, List.cons_prefix_cons.mpr ⟨rfl,
      List.cons_prefix_cons.mpr ⟨rfl, ih h⟩⟩⟩
  | case2 b0 b1 =>
    -- two last bytes: three characters fix both
    have := hbyte b0; have := hbyte b1
    rcases b with _ | ⟨c0, _ | ⟨c1, _ | ⟨c2, b'⟩⟩⟩ <;>
      simp only [rawStdEncode, List.cons_append, List.nil_append, List.cons_prefix_cons,
        List.prefix_nil, List.cons_ne_nil, and_false, false_and] at h
    · obtain ⟨e₁, e₂, e₃, -⟩ := h
      have := hbyte c0; have := hbyte c1
      have hv := first_bytes_of_three_chars (by omega) (by omega) e₁ e₂ e₃
      obtain rfl : b0 = c0 := UInt8.toNat.inj (by omega)
      obtain rfl : b1 = c1 := UInt8.toNat.inj (by omega)
      exact List.prefix_refl _
    · obtain ⟨e₁, e₂, e₃, -⟩ := h
      have := hbyte c0; have := hbyte c1; have := hbyte c2
      have hv := first_bytes_of_three_chars (by omega) (by omega) e₁ e₂ e₃
      obtain rfl : b0 = c0 := UInt8.toNat.inj (by omega)
      obtain rfl : b1 = c1 := UInt8.toNat.inj (by omega)
      exact ⟨c2 :: b', rfl⟩
  | case3 b0 =>
    -- one last byte: two characters fix it
    have := hbyte b0
    rcases b with _ | ⟨c0, _ | ⟨c1, _ | ⟨c2, b'⟩⟩⟩ <;>
      simp only [rawStdEncode, List.cons_append, List.nil_append, List.cons_prefix_cons,
        List.prefix_nil, List.cons_ne_nil, and_false] at h
    · obtain ⟨e₁, e₂, -⟩ := h
      have := hbyte c0
      have hv := first_byte_of_two_chars (by omega) (by omega) e₁ e₂
      obtain rfl : b0 = c0 := UInt8.toNat.inj (by omega)
      exact List.prefix_refl _
    · obtain ⟨e₁, e₂, -⟩ := h
      have := hbyte c0; have := hbyte c1
      have hv := first_byte_of_two_chars (by omega) (by omega) e₁ e₂
      obtain rfl : b0 = c0 := UInt8.toNat.inj (by omega)
      exact ⟨[c1], rfl⟩
    · obtain ⟨e₁, e₂, -⟩ := h
      have := hbyte c0; have := hbyte c1; have := hbyte c2
      have hv := first_byte_of_two_chars (by omega) (by omega) e₁ e₂
      obtain rfl : b0 = c0 := UInt8.toNat.inj (by omega)
      exact ⟨c1 :: c2 :: b', rfl⟩
  | case4 => exact List.nil_prefix

end StayRTR
