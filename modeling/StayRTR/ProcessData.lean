import StayRTR.Net.Text
import Mathlib.Data.List.Dedup
import Mathlib.Data.List.Perm.Basic

namespace StayRTR

/-!
# `processData` — validating and deduplicating the VRP entries

`processData` turns the JSON entries into `rtr.VRP`s: it drops an entry whose prefix or ASN
does not decode or whose lengths fail `isValidPrefixLength`, counts the rest per family, and
keeps a VRP only the first time its key `"%s,%d,%d"` (prefix text, ASN, max length) is seen.

* `processStep` / `processData` — the loop, as the source writes it, over the decoders
  `GetPrefix2` and `GetASN2` (in `prefixfile`, not in the repository, so parameters here;
  `GetPrefix2` is `net.ParseCIDR`, whose results are the `CIDR`s);
* `ProcessAcc.ofValid` — the loop state as a function of the valid triples seen so far, and
  `processStep_ofValid`, the step lemma: the loop refines "first occurrences of the valid
  triples", which needs
* `VRP.key_inj` — the key is injective on valid triples, although `IPNet.String` prints an
  IPv4-mapped prefix like its IPv4 form: two such prefixes never pass the length check with
  the same maximum length.
-/

/-- The `asn` member of an entry: a string such as `AS13335`, or a number. -/
inductive ASNValue
  | str (s : String)
  | num (n : Nat)
deriving DecidableEq, Repr

/-- A `prefixfile.VRPJson` entry: its `prefix` text (the Go field `Prefix`), `maxLength` (the
    Go field `Length`) and `asn`. -/
structure VRPJson where
  pfx : String
  length : UInt8
  asn : ASNValue
deriving DecidableEq, Repr

/-- An `rtr.VRP` as `processData` builds it (`pfx` is the Go field `Prefix`). -/
structure VRP where
  pfx : IPNet
  asn : UInt32
  maxLen : UInt8
deriving DecidableEq, Repr

/-- `isValidPrefixLength`: the prefix length is not zero and at most `maxLength`, which is at
    most the mask's width (`IPMask.Size`; both compared as `uint8`). -/
def isValidPrefixLength (pfx : IPNet) (maxLength : UInt8) : Bool :=
  !((maskSize pfx.mask).1 == 0 || decide ((maskSize pfx.mask).1 % 256 > maxLength.toNat) ||
    decide (maxLength.toNat > (maskSize pfx.mask).2 % 256))

/-- The dedup key of `processData`: `fmt.Sprintf("%s,%d,%d", prefix, asn, v.Length)`. -/
def vrpKey (pfx : IPNet) (asn : UInt32) (maxLength : UInt8) : List Char :=
  ipNetString pfx ++ ',' :: (uitoa asn.toNat ++ ',' :: uitoa maxLength.toNat)

/-- The key of a VRP. -/
def VRP.key (t : VRP) : List Char := vrpKey t.pfx t.asn t.maxLen

/-- A VRP of the IPv4 family, as `processData` and `updateFromNewState` count it. -/
def VRP.isV4 (t : VRP) : Bool := (to4 t.pfx.ip).isSome

/-- The loop variables of `processData`: the keys seen (`filterDuplicates`), the VRPs kept
    (`vrplist`), and the per-family counts of the valid entries. -/
structure ProcessAcc where
  filterDuplicates : List (List Char)
  vrplist : List VRP
  countv4 : Nat
  countv6 : Nat
deriving DecidableEq, Repr

section
variable (getPrefix2 : VRPJson → Except String CIDR) (getASN2 : VRPJson → Except String UInt32)

/-- One iteration of `processData`'s loop, over the entry `v`. -/
def processStep (acc : ProcessAcc) (v : VRPJson) : ProcessAcc :=
  match getPrefix2 v with
  | .error _ => acc
  | .ok pfx =>
    match getASN2 v with
    | .error _ => acc
    | .ok asn =>
      if !isValidPrefixLength pfx.toIPNet v.length then acc
      else
        let acc := if (to4 pfx.ip).isSome then { acc with countv4 := acc.countv4 + 1 }
          else { acc with countv6 := acc.countv6 + 1 }
        let key := vrpKey pfx.toIPNet asn v.length
        if key ∈ acc.filterDuplicates then acc
        else { acc with filterDuplicates := key :: acc.filterDuplicates,
                        vrplist := acc.vrplist ++ [⟨pfx.toIPNet, asn, v.length⟩] }

/-- `processData`: the deduplicated VRPs, the number of valid entries, and how many of them
    are IPv4 and IPv6. -/
def processData (vrplistjson : List VRPJson) : List VRP × Nat × Nat × Nat :=
  let acc := vrplistjson.foldl (processStep getPrefix2 getASN2) ⟨[], [], 0, 0⟩
  (acc.vrplist, acc.countv4 + acc.countv6, acc.countv4, acc.countv6)

/-- The triple of an entry `processData` keeps or merges: its prefix and ASN decode and its
    lengths pass `isValidPrefixLength`; `none` for an entry it skips. -/
def validTriple (v : VRPJson) : Option VRP :=
  match getPrefix2 v, getASN2 v with
  | .ok pfx, .ok asn =>
    if isValidPrefixLength pfx.toIPNet v.length then some ⟨pfx.toIPNet, asn, v.length⟩
    else none
  | _, _ => none

end

/-- The elements of a list in order, each at its first occurrence only. -/
def firstOccurrences {α : Type} [DecidableEq α] (l : List α) : List α := l.reverse.dedup.reverse

/-! ### The key is injective on valid triples -/

/-- A VRP `processData` can build: a parsed prefix that passes the length check. -/
def ValidVRP (t : VRP) : Prop :=
  ∃ p : CIDR, t.pfx = p.toIPNet ∧ isValidPrefixLength p.toIPNet t.maxLen = true

/-- On a parsed prefix the length check reads `0 < ones ≤ maxLength ≤ width`. -/
theorem CIDR.isValidPrefixLength_iff (p : CIDR) (L : UInt8) :
    isValidPrefixLength p.toIPNet L = true ↔ 0 < p.ones ∧ p.ones ≤ L.toNat ∧ L.toNat ≤ 8 * p.ip.length := by
  have hones := p.ones_le
  have hlen := p.length_mem
  simp only [isValidPrefixLength, p.maskSize_toIPNet, Bool.not_eq_true', Bool.or_eq_false_iff,
    beq_eq_false_iff_ne, decide_eq_false_iff_not, not_lt]
  rw [Nat.mod_eq_of_lt (by omega), Nat.mod_eq_of_lt (by omega)]
  omega

/-- A 16-byte address that `To4` reads as IPv4 is `v4InV6Prefix` followed by its IPv4 bytes. -/
theorem eq_of_mapped {ip : List UInt8} (hm : IsMapped ip) : ip = v4InV6Prefix ++ ip.drop 12 := by
  obtain ⟨h16, hz, h10, h11⟩ := hm
  match ip, h16 with
  | [b0, b1, b2, b3, b4, b5, b6, b7, b8, b9, b10, b11, b12, b13, b14, b15], _ =>
    simp only [List.take, List.all_cons, List.all_nil, Bool.and_true, Bool.and_eq_true,
      decide_eq_true_eq, List.getD_cons_succ, List.getD_cons_zero] at hz h10 h11
    obtain ⟨rfl, rfl, rfl, rfl, rfl, rfl, rfl, rfl, rfl, rfl⟩ := hz
    subst h10 h11
    rfl

/-- A mapped prefix and an unmapped one that pass the length check with the same maximum
    length print different addresses: the first needs `maxLength ≥ 96`, so the second is a
    16-byte address, which `IPNet.String` prints whole. -/
theorem CIDR.netNumber_ne_of_mapped {p q : CIDR} {L : UInt8} (hp : isValidPrefixLength p.toIPNet L)
    (hq : isValidPrefixLength q.toIPNet L) (hpm : IsMapped p.ip) (hqm : ¬ IsMapped q.ip) :
    p.netNumber ≠ q.netNumber := by
  rw [p.isValidPrefixLength_iff] at hp
  rw [q.isValidPrefixLength_iff] at hq
  have := p.ones_ge_of_mapped hpm
  rw [CIDR.netNumber_of_mapped hpm, CIDR.netNumber_of_not_mapped hqm]
  intro hn
  have := congrArg List.length hn
  rw [List.length_drop, hpm.1] at this
  omega

/-- Two valid parsed prefixes with the same maximum length that `IPNet.String` prints alike
    are the same prefix. -/
theorem CIDR.eq_of_ipNetString {p q : CIDR} {L : UInt8} (hp : isValidPrefixLength p.toIPNet L)
    (hq : isValidPrefixLength q.toIPNet L) (h : ipNetString p.toIPNet = ipNetString q.toIPNet) :
    p = q := by
  obtain ⟨hn, hl⟩ := CIDR.ipNetString_inj h
  unfold CIDR.netLength at hl
  by_cases hpm : IsMapped p.ip <;> by_cases hqm : IsMapped q.ip
  · -- both IPv4-mapped: the same IPv4 bytes, both at least a /96
    have := p.ones_ge_of_mapped hpm
    have := q.ones_ge_of_mapped hqm
    rw [CIDR.netNumber_of_mapped hpm, CIDR.netNumber_of_mapped hqm] at hn
    rw [if_pos hpm, if_pos hqm] at hl
    exact CIDR.ext (by rw [eq_of_mapped hpm, eq_of_mapped hqm, hn]) (by omega)
  · exact absurd hn (CIDR.netNumber_ne_of_mapped hp hq hpm hqm)
  · exact absurd hn.symm (CIDR.netNumber_ne_of_mapped hq hp hqm hpm)
  · rw [CIDR.netNumber_of_not_mapped hpm, CIDR.netNumber_of_not_mapped hqm] at hn
    rw [if_neg hpm, if_neg hqm] at hl
    exact CIDR.ext hn hl

/-- **The dedup key is injective on valid triples.** -/
theorem VRP.key_inj {t t' : VRP} (ht : ValidVRP t) (ht' : ValidVRP t') (h : t.key = t'.key) :
    t = t' := by
  obtain ⟨p, hp, hvp⟩ := ht
  obtain ⟨q, hq, hvq⟩ := ht'
  have hcomma : ∀ n, ',' ∉ uitoa n := fun n hc => absurd (uitoa_mem_digits n _ hc) (by decide)
  unfold VRP.key vrpKey at h
  rw [hp, hq] at h
  obtain ⟨hnet, hrest⟩ := append_cons_inj p.comma_not_mem_ipNetString q.comma_not_mem_ipNetString h
  obtain ⟨hasnText, hlenText⟩ := append_cons_inj (hcomma _) (hcomma _) hrest
  have hasn : t.asn = t'.asn :=
    UInt32.toNat.inj (by rw [← parseDigits_uitoa t.asn.toNat, hasnText, parseDigits_uitoa])
  have hlen : t.maxLen = t'.maxLen :=
    UInt8.toNat.inj (by rw [← parseDigits_uitoa t.maxLen.toNat, hlenText, parseDigits_uitoa])
  rw [hlen] at hvp
  have hpq := CIDR.eq_of_ipNetString hvp hvq hnet
  cases t; cases t'
  simp only [VRP.mk.injEq] at hp hq hasn hlen ⊢
  exact ⟨hp.trans (hpq ▸ hq.symm), hasn, hlen⟩

/-! ### The loop refines "first occurrences of the valid triples" -/

theorem mem_firstOccurrences {α : Type} [DecidableEq α] {x : α} {l : List α} :
    x ∈ firstOccurrences l ↔ x ∈ l := by
  simp [firstOccurrences]

/-- An element seen before adds nothing. -/
theorem firstOccurrences_append_of_mem {α : Type} [DecidableEq α] {x : α} {l : List α}
    (h : x ∈ l) : firstOccurrences (l ++ [x]) = firstOccurrences l := by
  simp [firstOccurrences, List.dedup_cons_of_mem (List.mem_reverse.mpr h)]

/-- A new element is kept, at the end. -/
theorem firstOccurrences_append_of_not_mem {α : Type} [DecidableEq α] {x : α} {l : List α}
    (h : x ∉ l) : firstOccurrences (l ++ [x]) = firstOccurrences l ++ [x] := by
  simp [firstOccurrences, List.dedup_cons_of_not_mem (mt List.mem_reverse.mp h)]

/-- The first occurrences are pairwise distinct. -/
theorem nodup_firstOccurrences {α : Type} [DecidableEq α] (l : List α) :
    (firstOccurrences l).Nodup :=
  List.nodup_reverse.mpr (List.nodup_dedup _)

/-- The first occurrences keep the input order. -/
theorem firstOccurrences_sublist {α : Type} [DecidableEq α] (l : List α) :
    List.Sublist (firstOccurrences l) l := by
  simpa using (List.dedup_sublist l.reverse).reverse

/-- The loop state of `processData` after entries whose valid triples are `valid`: the keys
    (newest first) and the VRPs of their first occurrences, and the per-family counts. -/
def ProcessAcc.ofValid (valid : List VRP) : ProcessAcc :=
  ⟨(firstOccurrences valid).reverse.map VRP.key, firstOccurrences valid,
    valid.countP VRP.isV4, valid.countP (fun t => !t.isV4)⟩

/-- A key is among those seen exactly when its triple is. -/
theorem key_mem_ofValid {valid : List VRP} (hvalid : ∀ t ∈ valid, ValidVRP t) {t : VRP}
    (ht : ValidVRP t) : t.key ∈ (ProcessAcc.ofValid valid).filterDuplicates ↔ t ∈ valid := by
  simp only [ProcessAcc.ofValid, List.mem_map, List.mem_reverse, mem_firstOccurrences]
  constructor
  · rintro ⟨u, hu, hk⟩
    rwa [VRP.key_inj ht (hvalid u hu) hk.symm]
  · exact fun h => ⟨t, h, rfl⟩

section
variable (getPrefix2 : VRPJson → Except String CIDR) (getASN2 : VRPJson → Except String UInt32)

/-- The triples of the entries `processData` keeps or merges, in input order. -/
def validTriples (xs : List VRPJson) : List VRP := xs.filterMap (validTriple getPrefix2 getASN2)

/-- A triple `processData` keeps is a valid VRP. -/
theorem validTriple_valid {v : VRPJson} {t : VRP} (h : validTriple getPrefix2 getASN2 v = some t) :
    ValidVRP t := by
  unfold validTriple at h
  split at h
  · split_ifs at h with hv
    cases h
    exact ⟨_, rfl, hv⟩
  · cases h

/-- **Step lemma.** One iteration maps the state of the valid triples seen so far to the
    state of those and the entry's own. -/
theorem processStep_ofValid (valid : List VRP) (hvalid : ∀ t ∈ valid, ValidVRP t) (v : VRPJson) :
    processStep getPrefix2 getASN2 (ProcessAcc.ofValid valid) v =
      ProcessAcc.ofValid (valid ++ (validTriple getPrefix2 getASN2 v).toList) := by
  unfold processStep validTriple
  rcases getPrefix2 v with _ | p
  · simp
  rcases getASN2 v with _ | a
  · simp
  by_cases hv : isValidPrefixLength p.toIPNet v.length
  · have ht : ValidVRP ⟨p.toIPNet, a, v.length⟩ := ⟨p, rfl, hv⟩
    have hkey := key_mem_ofValid hvalid ht
    simp only [VRP.key, VRP.isV4] at hkey
    simp only [hv, Bool.not_true, Bool.false_eq_true, if_false, if_true, Option.toList_some]
    by_cases hmem : (⟨p.toIPNet, a, v.length⟩ : VRP) ∈ valid
    · have hk : vrpKey p.toIPNet a v.length ∈ (ProcessAcc.ofValid valid).filterDuplicates :=
        hkey.mpr hmem
      split_ifs with h4 <;> simp_all [ProcessAcc.ofValid, firstOccurrences_append_of_mem hmem,
        List.countP_append, VRP.isV4, Option.isSome_iff_ne_none]
    · have hk : vrpKey p.toIPNet a v.length ∉ (ProcessAcc.ofValid valid).filterDuplicates :=
        mt hkey.mp hmem
      split_ifs with h4 <;> simp_all [ProcessAcc.ofValid, firstOccurrences_append_of_not_mem hmem,
        List.countP_append, VRP.isV4, VRP.key, Option.isSome_iff_ne_none]
  · simp [hv]

/-- **Run lemma.** The whole loop, from the state of no entries. -/
theorem foldl_processStep (xs : List VRPJson) (valid : List VRP) (hvalid : ∀ t ∈ valid, ValidVRP t) :
    xs.foldl (processStep getPrefix2 getASN2) (ProcessAcc.ofValid valid) =
      ProcessAcc.ofValid (valid ++ xs.filterMap (validTriple getPrefix2 getASN2)) := by
  induction xs generalizing valid with
  | nil => simp
  | cons v xs ih =>
    have hvalid' : ∀ t ∈ valid ++ (validTriple getPrefix2 getASN2 v).toList, ValidVRP t := by
      intro t ht
      rcases List.mem_append.mp ht with ht | ht
      · exact hvalid t ht
      · exact validTriple_valid getPrefix2 getASN2 (Option.mem_toList.mp ht)
    rw [List.foldl_cons, processStep_ofValid getPrefix2 getASN2 valid hvalid v, ih _ hvalid',
      List.filterMap_cons]
    cases validTriple getPrefix2 getASN2 v <;> simp

/-- `processData` in closed form: the first occurrences of the valid triples, and their counts. -/
theorem processData_eq (xs : List VRPJson) :
    processData getPrefix2 getASN2 xs =
      (firstOccurrences (validTriples getPrefix2 getASN2 xs),
        (validTriples getPrefix2 getASN2 xs).countP VRP.isV4 +
          (validTriples getPrefix2 getASN2 xs).countP (fun t => !t.isV4),
        (validTriples getPrefix2 getASN2 xs).countP VRP.isV4,
        (validTriples getPrefix2 getASN2 xs).countP (fun t => !t.isV4)) := by
  have h := foldl_processStep getPrefix2 getASN2 xs [] (by simp)
  rw [List.nil_append] at h
  simp only [processData, show (⟨[], [], 0, 0⟩ : ProcessAcc) = ProcessAcc.ofValid [] from rfl, h]
  rfl


/-- Every VRP is IPv4 or IPv6. -/
theorem length_eq_countP_isV4 (l : List VRP) :
    l.length = l.countP VRP.isV4 + l.countP (fun t => !t.isV4) := by
  simpa using List.length_eq_countP_add_countP VRP.isV4 l

/-- Every valid triple is a valid VRP. -/
theorem validTriples_valid (xs : List VRPJson) : ∀ t ∈ validTriples getPrefix2 getASN2 xs, ValidVRP t := by
  intro t ht
  obtain ⟨v, _, hv⟩ := List.mem_filterMap.mp ht
  exact validTriple_valid getPrefix2 getASN2 hv

/-- **`processData` keeps each valid triple at its first occurrence and counts every valid
    entry.**  Its VRPs are the triples of the entries whose prefix and ASN decode and whose
    lengths pass the check, in input order, each kept the first time only; the total is the
    number of such entries, split into the IPv4 (`To4 ≠ nil`) and IPv6 ones; and two such
    entries share a dedup key exactly when their triples are equal. -/
theorem processData_first_occurrences (xs : List VRPJson) :
    (processData getPrefix2 getASN2 xs).1 = firstOccurrences (validTriples getPrefix2 getASN2 xs) ∧
    (processData getPrefix2 getASN2 xs).2.1 =
      (processData getPrefix2 getASN2 xs).2.2.1 + (processData getPrefix2 getASN2 xs).2.2.2 ∧
    (processData getPrefix2 getASN2 xs).2.1 = (validTriples getPrefix2 getASN2 xs).length ∧
    (processData getPrefix2 getASN2 xs).2.2.1 =
      (validTriples getPrefix2 getASN2 xs).countP VRP.isV4 ∧
    ∀ t ∈ validTriples getPrefix2 getASN2 xs, ∀ t' ∈ validTriples getPrefix2 getASN2 xs,
      (t.key = t'.key ↔ t = t') := by
  rw [processData_eq]
  refine ⟨rfl, rfl, ?_, rfl, fun t ht t' ht' => ⟨VRP.key_inj (validTriples_valid _ _ xs t ht)
    (validTriples_valid _ _ xs t' ht'), fun h => h ▸ rfl⟩⟩
  exact (length_eq_countP_isV4 _).symm

/-- The VRPs of `processData` are valid triples with pairwise distinct dedup keys. -/
theorem processData_valid_keys_nodup (xs : List VRPJson) :
    (∀ t ∈ (processData getPrefix2 getASN2 xs).1, ValidVRP t) ∧
      ((processData getPrefix2 getASN2 xs).1.map VRP.key).Nodup := by
  rw [processData_eq]
  have hv : ∀ t ∈ firstOccurrences (validTriples getPrefix2 getASN2 xs), ValidVRP t :=
    fun t ht => validTriples_valid getPrefix2 getASN2 xs t (mem_firstOccurrences.mp ht)
  exact ⟨hv, (nodup_firstOccurrences _).map_on fun t ht t' ht' => VRP.key_inj (hv t ht) (hv t' ht')⟩

end

/-! ### The length bounds of the VRPs -/

/-- What the length check guarantees of a VRP `processData` builds: `0 < plen ≤ maxLen ≤ w`
    with `w` the mask's width, which is the width of the family the VRP is counted in unless
    its address is IPv4-mapped. -/
theorem ValidVRP.bounds {t : VRP} (ht : ValidVRP t) :
    0 < (maskSize t.pfx.mask).1 ∧ (maskSize t.pfx.mask).1 ≤ t.maxLen.toNat ∧
      t.maxLen.toNat ≤ (maskSize t.pfx.mask).2 ∧
      (¬ IsMapped t.pfx.ip → (maskSize t.pfx.mask).2 = if t.isV4 then 32 else 128) := by
  obtain ⟨p, hp, hv⟩ := ht
  rw [p.isValidPrefixLength_iff] at hv
  simp only [hp, p.maskSize_toIPNet, CIDR.toIPNet_ip, VRP.isV4]
  refine ⟨hv.1, hv.2.1, hv.2.2, fun hm => ?_⟩
  rcases p.length_mem with h4 | h16
  · simp [to4_of_length_four h4, h4]
  · simp [to4_of_not_mapped (by omega) hm, h16]

section
variable (getPrefix2 : VRPJson → Except String CIDR) (getASN2 : VRPJson → Except String UInt32)

/-- **The bounds `processData` enforces.**  Every VRP it returns has
    `0 < plen ≤ maxLen ≤ w`, where `w` is the width of its mask; `w` is the width of the
    family the VRP is counted in (32 for IPv4, 128 for IPv6) whenever the address is not an
    IPv4-mapped one. -/
theorem processData_lengths_le_mask_width (xs : List VRPJson) :
    ∀ t ∈ (processData getPrefix2 getASN2 xs).1,
      0 < (maskSize t.pfx.mask).1 ∧ (maskSize t.pfx.mask).1 ≤ t.maxLen.toNat ∧
        t.maxLen.toNat ≤ (maskSize t.pfx.mask).2 ∧
        (¬ IsMapped t.pfx.ip → (maskSize t.pfx.mask).2 = if t.isV4 then 32 else 128) := by
  rw [processData_eq]
  exact fun t ht => (validTriples_valid getPrefix2 getASN2 xs t (mem_firstOccurrences.mp ht)).bounds

end

/-- `10.0.0.0/24`, as `net.ParseCIDR` returns it. -/
def demoPrefix : CIDR where
  ip := [10, 0, 0, 0]
  ones := 24
  length_mem := Or.inl rfl
  ones_le := by decide
  masked := by decide

/-- The entry `10.0.0.0/24`, maximum length 24, for AS13335. -/
theorem processData_lengths_le_mask_width_demo :
    (⟨demoPrefix.toIPNet, 13335, 24⟩ : VRP) ∈
      (processData (fun _ => .ok demoPrefix) (fun _ => .ok 13335) [⟨"10.0.0.0/24", 24, .num 13335⟩]).1 ∧
    0 < (maskSize demoPrefix.toIPNet.mask).1 ∧ (maskSize demoPrefix.toIPNet.mask).1 ≤ 24 ∧
      24 ≤ (maskSize demoPrefix.toIPNet.mask).2 ∧
      (¬ IsMapped demoPrefix.toIPNet.ip → (maskSize demoPrefix.toIPNet.mask).2 =
        if (⟨demoPrefix.toIPNet, 13335, 24⟩ : VRP).isV4 then 32 else 128) :=
  have h : (⟨demoPrefix.toIPNet, 13335, 24⟩ : VRP) ∈
      (processData (fun _ => .ok demoPrefix) (fun _ => .ok 13335) [⟨"10.0.0.0/24", 24, .num 13335⟩]).1 := by
    decide
  ⟨h, processData_lengths_le_mask_width _ _ _ _ h⟩

/-- `::ffff:10.0.0.0/104`, as `net.ParseCIDR` returns it: the IPv4-mapped form of
    `10.0.0.0/8`, sixteen bytes under a 104-bit mask. -/
def mappedPrefix : CIDR where
  ip := [0, 0, 0, 0, 0, 0, 0, 0, 0, 0, 0xff, 0xff, 10, 0, 0, 0]
  ones := 104
  length_mem := Or.inr rfl
  ones_le := by decide
  masked := by decide

/-- An entry for `mappedPrefix` with `maxLength` 128. -/
def mappedEntry : VRPJson := ⟨"::ffff:10.0.0.0/104", 128, .str "AS1"⟩

/-- An IPv4-mapped prefix passes the length check against the mask's width 128, and the VRP
    is counted as IPv4 with a maximum length of 128. -/
theorem processData_mapped_maxLen_exceeds_ipv4_width :
    (∃ t ∈ (processData (fun _ => .ok mappedPrefix) (fun _ => .ok 1) [mappedEntry]).1,
      t.isV4 ∧ 32 < t.maxLen.toNat) ∧
    (processData (fun _ => .ok mappedPrefix) (fun _ => .ok 1) [mappedEntry]).2.2.1 = 1 := by
  decide

/-! ### The per-family metrics -/

/-- `countv4_dup`, `countv6_dup`: the loop of `updateFromNewState` over the deduplicated VRPs,
    IPv4 when `To4` finds four bytes, IPv6 when `To16` finds sixteen. -/
def countDup (vrps : List VRP) : Nat × Nat :=
  vrps.foldl (fun c vrp => if (to4 vrp.pfx.ip).isSome then (c.1 + 1, c.2)
    else if (to16 vrp.pfx.ip).isSome then (c.1, c.2 + 1) else c) (0, 0)

/-- A valid VRP's address has 4 or 16 bytes. -/
theorem ValidVRP.length_mem {t : VRP} (ht : ValidVRP t) :
    t.pfx.ip.length = 4 ∨ t.pfx.ip.length = 16 := by
  obtain ⟨p, hp, _⟩ := ht
  rw [hp]; exact p.length_mem

/-- On VRPs `processData` builds, `countDup` counts the two families. -/
theorem countDup_eq (vrps : List VRP) (h : ∀ t ∈ vrps, ValidVRP t) :
    countDup vrps = (vrps.countP VRP.isV4, vrps.countP (fun t => !t.isV4)) := by
  have hfold : ∀ (l : List VRP) (c : Nat × Nat), (∀ t ∈ l, ValidVRP t) →
      l.foldl (fun c vrp => if (to4 vrp.pfx.ip).isSome then (c.1 + 1, c.2)
        else if (to16 vrp.pfx.ip).isSome then (c.1, c.2 + 1) else c) c =
        (c.1 + l.countP VRP.isV4, c.2 + l.countP (fun t => !t.isV4)) := by
    intro l
    induction l with
    | nil => simp
    | cons t l ih =>
      intro c hl
      have h16 := to16_isSome (hl t (List.mem_cons_self t l)).length_mem
      rw [List.foldl_cons, ih _ (fun u hu => hl u (List.mem_cons_of_mem t hu))]
      cases h4 : (to4 t.pfx.ip).isSome
      · simp only [h4, h16, Bool.false_eq_true, if_false, if_true, List.countP_cons, VRP.isV4,
          Bool.not_false, Prod.mk.injEq]
        omega
      · simp only [h4, if_true, List.countP_cons, VRP.isV4, Bool.not_true, Bool.false_eq_true,
          if_false, Prod.mk.injEq]
        omega
  simpa using hfold vrps (0, 0) h

/-- The IPv4 (or IPv6) VRPs among the first occurrences are the distinct valid IPv4 (or
    IPv6) triples. -/
theorem length_filter_firstOccurrences (l : List VRP) (p : VRP → Bool) :
    (firstOccurrences l).countP p = (l.filter p).dedup.length := by
  rw [List.countP_eq_length_filter]
  refine List.Perm.length_eq ((List.perm_ext_iff_of_nodup
    ((nodup_firstOccurrences l).filter p) (List.nodup_dedup _)).mpr fun x => ?_)
  simp [List.mem_filter, mem_firstOccurrences, List.mem_dedup]

section
variable (getPrefix2 : VRPJson → Except String CIDR) (getASN2 : VRPJson → Except String UInt32)

/-- Each family's deduplicated count is at most its raw count. -/
theorem countDup_processData_le (xs : List VRPJson) :
    (countDup (processData getPrefix2 getASN2 xs).1).1 ≤ (processData getPrefix2 getASN2 xs).2.2.1 ∧
    (countDup (processData getPrefix2 getASN2 xs).1).2 ≤ (processData getPrefix2 getASN2 xs).2.2.2 := by
  have hvalid : ∀ t ∈ firstOccurrences (validTriples getPrefix2 getASN2 xs), ValidVRP t :=
    fun t ht => validTriples_valid getPrefix2 getASN2 xs t (mem_firstOccurrences.mp ht)
  have hsub := firstOccurrences_sublist (validTriples getPrefix2 getASN2 xs)
  rw [processData_eq, countDup_eq _ hvalid]
  exact ⟨hsub.countP_le _, hsub.countP_le _⟩

/-- **The deduplicated counts behind the `filtered` gauges.**  They add up to the number of
    VRPs, they are the numbers of distinct valid IPv4 and IPv6 triples, and each is at most
    the raw count `processData` returns for its family. -/
theorem countDup_le_counts (xs : List VRPJson) :
    (countDup (processData getPrefix2 getASN2 xs).1).1 +
        (countDup (processData getPrefix2 getASN2 xs).1).2 =
      (processData getPrefix2 getASN2 xs).1.length ∧
    (countDup (processData getPrefix2 getASN2 xs).1).1 =
      ((validTriples getPrefix2 getASN2 xs).filter VRP.isV4).dedup.length ∧
    (countDup (processData getPrefix2 getASN2 xs).1).2 =
      ((validTriples getPrefix2 getASN2 xs).filter (fun t => !t.isV4)).dedup.length ∧
    (countDup (processData getPrefix2 getASN2 xs).1).1 ≤ (processData getPrefix2 getASN2 xs).2.2.1 ∧
    (countDup (processData getPrefix2 getASN2 xs).1).2 ≤ (processData getPrefix2 getASN2 xs).2.2.2 := by
  have hvalid : ∀ t ∈ firstOccurrences (validTriples getPrefix2 getASN2 xs), ValidVRP t :=
    fun t ht => validTriples_valid getPrefix2 getASN2 xs t (mem_firstOccurrences.mp ht)
  obtain ⟨h4, h6⟩ := countDup_processData_le getPrefix2 getASN2 xs
  rw [processData_eq] at h4 h6 ⊢
  simp only [countDup_eq _ hvalid] at h4 h6 ⊢
  exact ⟨(length_eq_countP_isV4 _).symm, length_filter_firstOccurrences _ _,
    length_filter_firstOccurrences _ _, h4, h6⟩

end

end StayRTR
