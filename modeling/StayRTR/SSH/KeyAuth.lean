import StayRTR.SSH.Base64
import StayRTR.Net.Text

namespace StayRTR

/-!
# The SSH authentication callbacks

With `-ssh.method.password`, `run` installs a `PasswordCallback` that admits the user
`-ssh.auth.user` with one password: `-ssh.auth.password`, or the environment's
`STAYRTR_SSH_PASSWORD` when the flag is empty (`passwordCallback_ok_iff`).

With `-ssh.method.key`, `run` splits the authorized-keys text into lines and installs a
`PublicKeyCallback`.  The callback writes the presented key as `Type() + " " +` the unpadded
base64 of `Marshal()`, and accepts it when some non-empty line starts with that text.

A `strings.HasPrefix` test is weaker than matching the line's key.  It is exact here because
of two facts about the encodings:

* `prefix_of_rawStdEncode`: a base64 prefix is the encoding of a byte prefix, so
  `rawStdEncode_injective`: the base64 text names one blob;
* `IsWireEncoding.eq_of_prefix`: SSH wire encodings are prefix-free, as a key's type, its
  first field, fixes how many length-prefixed fields follow (`readFields_marshalFields`
  decodes them, and leaves whatever follows untouched).

`publicKeyCallback_accepts_iff` combines them: on authorized-keys text whose lines are keys
as `ssh-keygen` writes them, the callback accepts exactly the listed keys.
-/

/-! ### The wire encoding -/

/-- A 32-bit length, big-endian. -/
def u32be (n : Nat) : List UInt8 :=
  [(n / 16777216 % 256).toUInt8, (n / 65536 % 256).toUInt8, (n / 256 % 256).toUInt8, (n % 256).toUInt8]

/-- A wire string: its 32-bit length, then its bytes. -/
def wireString (x : List UInt8) : List UInt8 := u32be x.length ++ x

/-- `PublicKey.Marshal`: the key's fields as wire strings, one after another. -/
def marshalFields (fields : List (List UInt8)) : List UInt8 := (fields.map wireString).flatten

/-- Read a 32-bit big-endian length. -/
def readU32 : List UInt8 → Option (Nat × List UInt8)
  | b0 :: b1 :: b2 :: b3 :: rest =>
    some (b0.toNat * 16777216 + b1.toNat * 65536 + b2.toNat * 256 + b3.toNat, rest)
  | _ => none

/-- Read a wire string, and what follows it. -/
def readString (bytes : List UInt8) : Option (List UInt8 × List UInt8) :=
  match readU32 bytes with
  | some (n, rest) => if n ≤ rest.length then some (rest.take n, rest.drop n) else none
  | none => none

/-- Read `n` wire strings, and what follows them. -/
def readFields : Nat → List UInt8 → Option (List (List UInt8) × List UInt8)
  | 0, bytes => some ([], bytes)
  | n + 1, bytes =>
    match readString bytes with
    | some (x, rest) => (readFields n rest).map fun r => (x :: r.1, r.2)
    | none => none

/-- Reading a 32-bit length back gives it, and leaves what follows. -/
theorem readU32_u32be (n : Nat) (h : n < 2 ^ 32) (rest : List UInt8) :
    readU32 (u32be n ++ rest) = some (n, rest) := by
  simp only [u32be, readU32, List.cons_append, List.nil_append, toNat_toUInt8, Nat.mod_mod,
    Option.some.injEq, Prod.mk.injEq, and_true]
  omega

/-- Reading a wire string back gives it, and leaves what follows. -/
theorem readString_wireString (x : List UInt8) (h : x.length < 2 ^ 32) (rest : List UInt8) :
    readString (wireString x ++ rest) = some (x, rest) := by
  simp [readString, wireString, readU32_u32be _ h]

/-- **Round trip.**  Reading as many wire strings as were written gives them back, and
    leaves what follows untouched. -/
theorem readFields_marshalFields (fields : List (List UInt8)) (h : ∀ f ∈ fields, f.length < 2 ^ 32)
    (rest : List UInt8) : readFields fields.length (marshalFields fields ++ rest) = some (fields, rest) := by
  induction fields with
  | nil => rfl
  | cons f fs ih =>
    have hf := h f (List.mem_cons_self f fs)
    have hrest : marshalFields (f :: fs) ++ rest = wireString f ++ (marshalFields fs ++ rest) := by
      simp [marshalFields]
    simp only [List.length_cons, hrest, readFields, readString_wireString f hf,
      ih fun g hg => h g (List.mem_cons_of_mem f hg), Option.map_some']

/-- `blob` is `Marshal()` of a key of type `keyType`: `arity keyType` wire strings, the first
    of which is the type. -/
def IsWireEncoding (arity : List UInt8 → Nat) (keyType blob : List UInt8) : Prop :=
  ∃ fields : List (List UInt8), fields.head? = some keyType ∧ fields.length = arity keyType ∧
    (∀ f ∈ fields, f.length < 2 ^ 32) ∧ blob = marshalFields fields

/-- **Wire encodings are prefix-free.**  When one wire encoding is a prefix of another, the
    first fields, hence the types and the numbers of fields, are equal, and reading that many
    fields from both leaves nothing after the shorter one. -/
theorem IsWireEncoding.eq_of_prefix {arity : List UInt8 → Nat} {t t' m b : List UInt8}
    (hm : IsWireEncoding arity t m) (hb : IsWireEncoding arity t' b) (h : m <+: b) : m = b := by
  obtain ⟨fs, hfs, hlen, hlt, rfl⟩ := hm
  obtain ⟨gs, hgs, hlen', hlt', rfl⟩ := hb
  obtain ⟨r, hr⟩ := h
  -- the first fields agree: both encodings start with the same wire string
  rcases fs with _ | ⟨f, fs'⟩
  · simp at hfs
  rcases gs with _ | ⟨g, gs'⟩
  · simp at hgs
  simp only [List.head?_cons, Option.some.injEq] at hfs hgs
  subst hfs hgs
  have hfirst : some (f, marshalFields fs' ++ r) = some (g, marshalFields gs') := by
    rw [← readString_wireString f (hlt f (List.mem_cons_self f fs')),
      ← readString_wireString g (hlt' g (List.mem_cons_self g gs')) (marshalFields gs')]
    simpa [marshalFields] using congrArg readString hr
  obtain rfl : f = g := (Prod.mk.inj (Option.some.inj hfirst)).1
  -- so the field counts agree, and reading them all leaves `r = []`
  have hall := readFields_marshalFields (f :: gs') hlt' []
  rw [List.append_nil, ← hr, hlen', ← hlen, readFields_marshalFields _ hlt] at hall
  obtain ⟨-, rfl⟩ := Prod.mk.inj (Option.some.inj hall)
  exact (List.append_nil _).symm.trans hr

/-! ### Keys and authorized lines -/

/-- An `ssh.PublicKey` as the callback sees it: its `Type()`, which has no space, and its
    `Marshal()`, a wire encoding of that type. -/
structure PublicKey (arity : List UInt8 → Nat) where
  keyType : List UInt8
  blob : List UInt8
  no_space : 32 ∉ keyType
  wire : IsWireEncoding arity keyType blob

/-- A line of authorized-keys text as `ssh-keygen` writes it: a key type, a space, the base64
    of the key's wire encoding followed by `padding` characters `=`, and perhaps a space and a
    comment. -/
structure AuthorizedLine (arity : List UInt8 → Nat) where
  keyType : List UInt8
  blob : List UInt8
  padding : Nat
  comment : Option (List UInt8)
  no_space : 32 ∉ keyType
  wire : IsWireEncoding arity keyType blob

/-- What follows the key's base64 on a line: the padding and the comment. -/
def AuthorizedLine.tail {arity : List UInt8 → Nat} (l : AuthorizedLine arity) : List UInt8 :=
  List.replicate l.padding 61 ++ match l.comment with
    | none => []
    | some c => 32 :: c

/-- The text of a line. -/
def AuthorizedLine.text {arity : List UInt8 → Nat} (l : AuthorizedLine arity) : List UInt8 :=
  l.keyType ++ 32 :: (rawStdEncode l.blob ++ l.tail)

/-- What follows the base64 starts with `=` or a space, neither of them a base64 character. -/
theorem AuthorizedLine.head_tail_not_mem {arity : List UInt8 → Nat} (l : AuthorizedLine arity) :
    ∀ c ∈ l.tail.head?, c ∉ encodeStd := by
  unfold AuthorizedLine.tail
  rcases l.padding with _ | p <;> rcases l.comment with _ | c <;> simp [List.replicate_succ] <;> decide

/-- A prefix of alphabet characters of `ys ++ tail`, where `tail` starts with no alphabet
    character, is a prefix of `ys`. -/
theorem prefix_of_prefix_append {xs ys tail : List UInt8} (hxs : ∀ c ∈ xs, c ∈ encodeStd)
    (htail : ∀ c ∈ tail.head?, c ∉ encodeStd) (h : xs <+: ys ++ tail) : xs <+: ys := by
  rcases le_or_lt xs.length ys.length with hle | hlt
  · exact List.prefix_of_prefix_length_le h (List.prefix_append ys tail) hle
  · -- otherwise `xs = ys ++ z` with `z ≠ []`, and `z` starts like `tail`
    obtain ⟨z, rfl⟩ := List.prefix_of_prefix_length_le (List.prefix_append ys tail) h hlt.le
    rcases z with _ | ⟨c, z'⟩
    · simp at hlt
    have hz : c :: z' <+: tail := (List.prefix_append_right_inj ys).mp h
    obtain ⟨t, rfl⟩ := hz
    exact absurd (hxs c (by simp)) (htail c (by simp))

/-! ### The callback -/

/-- The loop of `PublicKeyCallback` over the authorized lines: skip an empty line, stop at the
    first one that starts with `pfx`. -/
def keyMatches (pfx : List UInt8) : List (List UInt8) → Bool
  | [] => false
  | k :: ks => if k = [] then keyMatches pfx ks else if pfx.isPrefixOf k then true else keyMatches pfx ks

/-- `PublicKeyCallback`: accept the key, or refuse it with `"Key not found"`; with
    `-ssh.auth.key.bypass` every key is accepted. -/
def publicKeyCallback (keysBypass : Bool) (sshClientKeys : List (List UInt8)) (keyType blob : List UInt8) :
    Except String Unit :=
  let keyBase64 := rawStdEncode blob
  if !keysBypass then
    if keyMatches (keyType ++ 32 :: keyBase64) sshClientKeys then .ok () else .error "Key not found"
  else .ok ()

/-- The loop accepts exactly when some non-empty line starts with `pfx`. -/
theorem keyMatches_iff (pfx : List UInt8) (ks : List (List UInt8)) :
    keyMatches pfx ks = true ↔ ∃ k ∈ ks, k ≠ [] ∧ pfx <+: k := by
  induction ks with
  | nil => simp [keyMatches]
  | cons k ks ih =>
    by_cases hk : k = []
    · simp [keyMatches, hk, ih]
    · by_cases hp : pfx <+: k
      · simp only [keyMatches, hk, if_false, List.isPrefixOf_iff_prefix.mpr hp, if_true, true_iff]
        exact ⟨k, List.mem_cons_self k ks, hk, hp⟩
      · have hp' : pfx.isPrefixOf k = false :=
          Bool.eq_false_iff.mpr fun h => hp (List.isPrefixOf_iff_prefix.mp h)
        simp [keyMatches, hk, hp', ih, hp]

/-- A line starts with the callback's text for a key exactly when it lists that key. -/
theorem prefix_text_iff {arity : List UInt8 → Nat} (key : PublicKey arity) (l : AuthorizedLine arity) :
    key.keyType ++ 32 :: rawStdEncode key.blob <+: l.text ↔
      l.keyType = key.keyType ∧ l.blob = key.blob := by
  constructor
  · rintro ⟨r, hr⟩
    simp only [AuthorizedLine.text, List.append_assoc, List.cons_append] at hr
    obtain ⟨htype, hrest⟩ := append_cons_inj key.no_space l.no_space hr
    have hb64 : rawStdEncode key.blob <+: rawStdEncode l.blob ++ l.tail := ⟨r, hrest⟩
    have hblob := (prefix_of_rawStdEncode (prefix_of_prefix_append (rawStdEncode_mem _)
      l.head_tail_not_mem hb64))
    exact ⟨htype.symm, (key.wire.eq_of_prefix l.wire hblob).symm⟩
  · rintro ⟨htype, hblob⟩
    exact ⟨l.tail, by simp [AuthorizedLine.text, htype, hblob]⟩

/-- **The base64 text names one blob.**  Distinct wire encodings have distinct unpadded base64
    texts, so the text the callback looks for belongs to one key blob only. -/
theorem rawStdEncode_injective : Function.Injective rawStdEncode := fun m b h => by
  have h₁ : m <+: b := prefix_of_rawStdEncode (by rw [h])
  have h₂ : b <+: m := prefix_of_rawStdEncode (by rw [h])
  exact h₁.eq_of_length (Nat.le_antisymm h₁.length_le h₂.length_le)

/-- **The callback accepts exactly the listed keys.**  With key authentication on and no
    bypass, take authorized-keys text whose non-empty lines are keys as `ssh-keygen` writes
    them, and a presented key.  The callback accepts the key iff some line lists a key of the
    same type and the same wire encoding: a line that merely starts with the key's base64 is
    that key's line. -/
theorem publicKeyCallback_accepts_iff (arity : List UInt8 → Nat) (text : List UInt8)
    (key : PublicKey arity) (hlines : ∀ k ∈ text.splitOn 10, k ≠ [] → ∃ l : AuthorizedLine arity, l.text = k) :
    publicKeyCallback false (text.splitOn 10) key.keyType key.blob = .ok () ↔
      ∃ k ∈ text.splitOn 10, ∃ l : AuthorizedLine arity, l.text = k ∧
        l.keyType = key.keyType ∧ l.blob = key.blob := by
  have hcb : publicKeyCallback false (text.splitOn 10) key.keyType key.blob = .ok () ↔
      keyMatches (key.keyType ++ 32 :: rawStdEncode key.blob) (text.splitOn 10) = true := by
    unfold publicKeyCallback
    split_ifs with h <;> simp_all
  rw [hcb, keyMatches_iff]
  constructor
  · rintro ⟨k, hk, hne, hpre⟩
    obtain ⟨l, rfl⟩ := hlines k hk hne
    exact ⟨l.text, hk, l, rfl, (prefix_text_iff key l).mp hpre⟩
  · rintro ⟨k, hk, l, rfl, hl⟩
    exact ⟨l.text, hk, by simp [AuthorizedLine.text], (prefix_text_iff key l).mpr hl⟩

/-! ### The password callback -/

/-- The password `PasswordCallback` compares with: `-ssh.auth.password`, or the environment
    variable `STAYRTR_SSH_PASSWORD` when the flag is empty.  Go strings are byte strings,
    and so are these. -/
def sshPassword (sshAuthPassword envPassword : List UInt8) : List UInt8 :=
  if sshAuthPassword = [] then envPassword else sshAuthPassword

/-- `PasswordCallback`: refuse with `"Wrong user or password"` unless the user is
    `-ssh.auth.user` and the supplied password is `password`, byte for byte. -/
def passwordCallback (sshAuthUser password user suppliedPassword : List UInt8) : Except String Unit :=
  if user ≠ sshAuthUser ∨ suppliedPassword ≠ password then .error "Wrong user or password" else .ok ()

/-- The password callback admits exactly `-ssh.auth.user` with the password `sshPassword`
    chose.  So with both `-ssh.auth.password` and `STAYRTR_SSH_PASSWORD` empty, that user is
    admitted with the empty password. -/
theorem passwordCallback_ok_iff (sshAuthUser password user suppliedPassword : List UInt8) :
    passwordCallback sshAuthUser password user suppliedPassword = .ok () ↔
      user = sshAuthUser ∧ suppliedPassword = password := by
  simp [passwordCallback, not_or]

/-! ### A key and its line -/

/-- The key type `ssh-ed25519`, as bytes. -/
def ed25519Type : List UInt8 := "ssh-ed25519".toList.map (·.toNat.toUInt8)

/-- An `ssh-ed25519` key: its type and its 32-byte point, as two wire strings. -/
def demoKey : PublicKey (fun _ => 2) where
  keyType := ed25519Type
  blob := marshalFields [ed25519Type, List.replicate 32 7]
  no_space := by decide
  wire := ⟨[ed25519Type, List.replicate 32 7], rfl, rfl, by decide, rfl⟩

/-- The line `ssh-keygen` writes for `demoKey`, with its padding and a comment. -/
def demoLine : AuthorizedLine (fun _ => 2) where
  keyType := ed25519Type
  blob := demoKey.blob
  padding := 0
  comment := some ("rpki@router".toList.map (·.toNat.toUInt8))
  no_space := by decide
  wire := demoKey.wire

/-- One `ssh-ed25519` key and the line `ssh-keygen` writes for it, with a comment. -/
theorem publicKeyCallback_accepts_iff_demo :
    (∀ k ∈ (demoLine.text ++ [10]).splitOn 10, k ≠ [] → ∃ l : AuthorizedLine (fun _ => 2), l.text = k) ∧
    (publicKeyCallback false ((demoLine.text ++ [10]).splitOn 10) demoKey.keyType demoKey.blob = .ok () ↔
      ∃ k ∈ (demoLine.text ++ [10]).splitOn 10, ∃ l : AuthorizedLine (fun _ => 2), l.text = k ∧
        l.keyType = demoKey.keyType ∧ l.blob = demoKey.blob) :=
  have hlines : ∀ k ∈ (demoLine.text ++ [10]).splitOn 10, k ≠ [] →
      ∃ l : AuthorizedLine (fun _ => 2), l.text = k := by
    intro k hk hne
    have hsplit : (demoLine.text ++ [10]).splitOn 10 = [demoLine.text, []] := by decide
    rw [hsplit, List.mem_pair] at hk
    rcases hk with rfl | rfl
    · exact ⟨demoLine, rfl⟩
    · exact absurd rfl hne
  ⟨hlines, publicKeyCallback_accepts_iff (fun _ => 2) _ demoKey hlines⟩

end StayRTR
