import StayRTR.Net.IP
import StayRTR.Net.Digits

namespace StayRTR

/-!
# Go's `net` package — the text of an address

`IP.String` writes an IPv4 address (or an IPv4-mapped one) in dotted decimal, `appendTo4`,
and any other 16-byte address in RFC 5952 form, `appendTo6`: eight hex groups joined by
`:`, the first longest run of two or more zero groups written `::`.  Both are modelled as
`net/netip` writes them, loops included, and both are shown injective by a decoder:

* `joinHex` / `tokens6` — the `:`-separated tokens `appendTo6` writes (`appendTo6_eq`);
* `zeroRun_spec` — the run that `appendTo6`'s first loop picks consists of zero groups;
* `decodeTokens_tokens6` / `decode6_appendTo6` — splitting on `:` and reading the tokens
  back gives the groups, so `appendTo6` is injective on 16-byte addresses;
* `decode4_appendTo4` — likewise for the dotted form.
-/

/-! ### Joining with a separator -/

theorem intercalate_cons (c : Char) (t : List Char) (ts : List (List Char)) :
    [c].intercalate (t :: ts) = t ++ ts.flatMap (c :: ·) := by
  induction ts generalizing t with
  | nil => simp [List.intercalate]
  | cons u ts ih =>
    simp only [List.intercalate, List.intersperse_cons_cons, List.flatten_cons] at ih ⊢
    rw [ih u]; simp

/-- A character of a `c`-joined text is `c` or a character of one of the parts. -/
theorem mem_intercalate {c x : Char} {ts : List (List Char)} (h : x ∈ [c].intercalate ts) :
    x = c ∨ ∃ t ∈ ts, x ∈ t := by
  cases ts with
  | nil => simp [List.intercalate] at h
  | cons t ts =>
    rw [intercalate_cons] at h
    simp only [List.mem_append, List.mem_flatMap, List.mem_cons] at h
    rcases h with h | ⟨u, hu, rfl | h⟩
    · exact Or.inr ⟨t, by simp, h⟩
    · exact Or.inl rfl
    · exact Or.inr ⟨u, by simp [hu], h⟩

/-- Two joins glued by a doubled separator are one join with an empty token between. -/
theorem intercalate_append_nil (c : Char) (ts us : List (List Char)) (hts : ts ≠ [])
    (hus : us ≠ []) :
    [c].intercalate (ts ++ [[]] ++ us) = [c].intercalate ts ++ [c, c] ++ [c].intercalate us := by
  obtain ⟨t, ts, rfl⟩ := List.exists_cons_of_ne_nil hts
  obtain ⟨u, us, rfl⟩ := List.exists_cons_of_ne_nil hus
  simp [intercalate_cons]

/-! ### `appendTo4` -/

/-- `netip.Addr.appendTo4`: the four bytes in decimal, joined by `.`. -/
def appendTo4 (p4 : List UInt8) : List Char := ['.'].intercalate (p4.map (appendDecimal ·.toNat))

/-- Reading dotted text back: split on `.`, parse each part. -/
def decode4 (s : List Char) : List Nat := (s.splitOn '.').map (parseDigits 10)

/-- **Dotted IPv4 text reads back**: splitting on `.` and parsing gives the bytes. -/
theorem decode4_appendTo4 (p4 : List UInt8) (h : p4 ≠ []) :
    decode4 (appendTo4 p4) = p4.map UInt8.toNat := by
  have hsep : ∀ l ∈ p4.map (appendDecimal ·.toNat), '.' ∉ l := by
    simp only [List.mem_map]
    rintro _ ⟨b, _, rfl⟩ hdot
    exact absurd (appendDecimal_mem_digits _ _ hdot) (by decide)
  rw [decode4, appendTo4, List.splitOn_intercalate _ _ hsep (by simpa using h), List.map_map]
  exact List.map_congr_left fun b _ => parseDigits_appendDecimal _ b.toNat_lt_size

/-- Dotted IPv4 text has no `:`, which tells it apart from IPv6 text. -/
theorem appendTo4_no_colon (p4 : List UInt8) : ':' ∉ appendTo4 p4 := by
  intro hc
  rcases mem_intercalate hc with h | ⟨_, ht, hc⟩
  · exact absurd h (by decide)
  · obtain ⟨b, _, rfl⟩ := List.mem_map.mp ht
    exact absurd (appendDecimal_mem_digits _ _ hc) (by decide)

/-! ### `appendTo6` -/

/-- `Addr.v6u16`: the eight 16-bit groups of a 16-byte address. -/
def groups (ip : List UInt8) : List Nat :=
  (List.range 8).map fun i => (ip.getD (2 * i) 0).toNat * 256 + (ip.getD (2 * i + 1) 0).toNat

/-- An address has eight 16-bit groups. -/
@[simp] theorem groups_length (ip : List UInt8) : (groups ip).length = 8 := by simp [groups]

/-- Every group is below `0x10000`. -/
theorem groups_lt (ip : List UInt8) : ∀ x ∈ groups ip, x < 0x10000 := by
  simp only [groups, List.mem_map, List.mem_range]
  rintro _ ⟨i, _, rfl⟩
  have : (ip.getD (2 * i) 0).toNat < 256 := UInt8.toNat_lt_size _
  have : (ip.getD (2 * i + 1) 0).toNat < 256 := UInt8.toNat_lt_size _
  omega

/-- The groups determine the address. -/
theorem groups_injective {ip ip' : List UInt8} (h : ip.length = 16) (h' : ip'.length = 16)
    (hg : groups ip = groups ip') : ip = ip' := by
  have hbyte : ∀ k < 16, (ip.getD k 0).toNat = (ip'.getD k 0).toNat := by
    intro k hk
    have := congrArg (·.getD (k / 2) 0) hg
    simp only [groups, List.getD_eq_getElem?_getD, List.getElem?_map,
      List.getElem?_range (show k / 2 < 8 by omega), Option.map_some', Option.getD_some] at this
    have hb : ∀ b : UInt8, b.toNat < 256 := UInt8.toNat_lt_size
    have := hb (ip.getD (2 * (k / 2)) 0)
    have := hb (ip.getD (2 * (k / 2) + 1) 0)
    have := hb (ip'.getD (2 * (k / 2)) 0)
    have := hb (ip'.getD (2 * (k / 2) + 1) 0)
    simp only [List.getD_eq_getElem?_getD] at *
    rcases Nat.mod_two_eq_zero_or_one k with hk2 | hk2
    · rw [show k = 2 * (k / 2) by omega]; omega
    · rw [show k = 2 * (k / 2) + 1 by omega]; omega
  apply List.ext_getElem (h.trans h'.symm)
  intro k hk hk'
  have := hbyte k (h ▸ hk)
  rw [List.getD_eq_getElem _ _ hk, List.getD_eq_getElem _ _ hk'] at this
  exact UInt8.toNat.inj this

/-- One pass of `appendTo6`'s first loop, at group `i`: `j` is where the zero groups starting
    at `i` end (the inner loop), and the run `[i, j)` replaces the best so far `z` when it has
    two groups or more and is longer (`uint8` arithmetic: the sentinel's length is 0). -/
def zeroRunStep (g : List Nat) (z : Nat × Nat) (i : Nat) : Nat × Nat :=
  let j := i + ((g.drop i).takeWhile (· == 0)).length
  if 2 ≤ j - i ∧ z.2 - z.1 < j - i then (i, j) else z

/-- The first loop of `appendTo6`: the first longest run `[zeroStart, zeroEnd)` of at least
    two zero groups, or Go's sentinel `(255, 255)` when there is none. -/
def zeroRun (g : List Nat) : Nat × Nat := (List.range 8).foldl (zeroRunStep g) (255, 255)

/-- What `appendTo6` needs of the run it compresses: none, or a run of zero groups. -/
def ZeroRun (g : List Nat) (z : Nat × Nat) : Prop :=
  z.1 = 255 ∨ (z.1 < z.2 ∧ z.2 ≤ 8 ∧ ∀ k, z.1 ≤ k → k < z.2 → g.getD k 0 = 0)

/-- The groups from `i` up to where `takeWhile` stops are zero. -/
theorem getD_of_lt_takeWhile (g : List Nat) (i k : Nat) (hik : i ≤ k)
    (hk : k < i + ((g.drop i).takeWhile (· == 0)).length) : g.getD k 0 = 0 := by
  have hpre : (g.drop i).takeWhile (· == 0) <+: g.drop i := List.takeWhile_prefix _
  have hlen := hpre.length_le
  rw [List.length_drop] at hlen
  have hkt : k - i < ((g.drop i).takeWhile (· == 0)).length := by omega
  have hzero : ((g.drop i).takeWhile (· == 0))[k - i] = 0 := by
    simpa using List.mem_takeWhile_imp (List.getElem_mem hkt)
  rw [hpre.getElem hkt, List.getElem_drop] at hzero
  rw [List.getD_eq_getElem _ _ (by omega)]
  simpa [Nat.add_sub_cancel' hik] using hzero

/-- One step of the search keeps the candidate a run of zero groups of at least two. -/
theorem zeroRunStep_spec (g : List Nat) (hg : g.length = 8) (z : Nat × Nat) (i : Nat)
    (hz : ZeroRun g z) : ZeroRun g (zeroRunStep g z i) := by
  dsimp only [zeroRunStep]
  split_ifs with hrun
  · have hpre : (g.drop i).takeWhile (· == 0) <+: g.drop i := List.takeWhile_prefix _
    have hle := hpre.length_le
    rw [List.length_drop, hg] at hle
    exact Or.inr ⟨by omega, by omega, fun k hik hk => getD_of_lt_takeWhile g i k hik hk⟩
  · exact hz

/-- `zeroRun` finds a run of zero groups, or none, as `ZeroRun` describes it. -/
theorem zeroRun_spec (g : List Nat) (hg : g.length = 8) : ZeroRun g (zeroRun g) := by
  have hfold : ∀ (l : List Nat) z, ZeroRun g z → ZeroRun g (l.foldl (zeroRunStep g) z) := by
    intro l
    induction l with
    | nil => exact fun z hz => hz
    | cons i l ih => exact fun z hz => ih _ (zeroRunStep_spec g hg z i hz)
  exact hfold _ _ (Or.inl rfl)

/-- The second loop of `appendTo6`, from group `i` on: `::` in place of the run `[zs, ze)`
    (then on from `ze`), a `:` before every other group but the first, each group in hex.
    `fuel` bounds the loop; 8 is enough. -/
def appendTo6.loop (g : List Nat) (zs ze : Nat) : (fuel i : Nat) → List Char
  | 0, _ => []
  | fuel + 1, i =>
    if 8 ≤ i then []
    else if i = zs then
      if 8 ≤ ze then [':', ':']
      else [':', ':'] ++ appendHex (g.getD ze 0) ++ loop g zs ze fuel (ze + 1)
    else (if 0 < i then [':'] else []) ++ appendHex (g.getD i 0) ++ loop g zs ze fuel (i + 1)

/-- `netip.Addr.appendTo6`: a 16-byte address in RFC 5952 text. -/
def appendTo6 (ip : List UInt8) : List Char :=
  appendTo6.loop (groups ip) (zeroRun (groups ip)).1 (zeroRun (groups ip)).2 8 0

/-- Groups in hex, each with a `:` in front. -/
def colonHex (xs : List Nat) : List Char := xs.flatMap fun x => ':' :: appendHex x

/-- Groups in hex joined by `:`. -/
def joinHex (xs : List Nat) : List Char := [':'].intercalate (xs.map appendHex)

/-- No groups, no text. -/
@[simp] theorem colonHex_nil : colonHex [] = [] := rfl

/-- No groups, no text. -/
@[simp] theorem joinHex_nil : joinHex [] = [] := rfl

/-- Each further group is written after a `:`. -/
theorem colonHex_cons (x : Nat) (xs : List Nat) :
    colonHex (x :: xs) = ':' :: (appendHex x ++ colonHex xs) := rfl

/-- The first group is written with no `:` before it. -/
theorem joinHex_cons (x : Nat) (xs : List Nat) : joinHex (x :: xs) = appendHex x ++ colonHex xs := by
  rw [joinHex, List.map_cons, intercalate_cons, colonHex, List.flatMap_map]

/-- Past the run (or with none), the loop writes each remaining group after a `:`. -/
theorem appendTo6_loop_tail (g : List Nat) (hg : g.length = 8) (zs ze : Nat) :
    ∀ fuel i, 0 < i → 8 - i ≤ fuel → (zs < i ∨ 8 ≤ zs) →
      appendTo6.loop g zs ze fuel i = colonHex (g.drop i) := by
  intro fuel
  induction fuel with
  | zero => intro i _ hi _; simp [appendTo6.loop, List.drop_eq_nil_of_le (by omega : g.length ≤ i)]
  | succ fuel ih =>
    intro i hi0 hi hzs
    by_cases h8 : 8 ≤ i
    · simp [appendTo6.loop, h8, List.drop_eq_nil_of_le (by omega : g.length ≤ i)]
    · have hig : i < g.length := by omega
      rw [appendTo6.loop, if_neg h8, if_neg (by omega), if_pos hi0,
        ih (i + 1) (by omega) (by omega) (by omega), List.getD_eq_getElem _ _ hig,
        List.drop_eq_getElem_cons hig, colonHex_cons]
      rfl

/-- Up to the run, the loop writes each group after a `:`, then `::` and the groups past
    the run joined by `:`. -/
theorem appendTo6_loop_run (g : List Nat) (hg : g.length = 8) (zs ze : Nat) (hzs : zs < 8)
    (hze : zs < ze) : ∀ fuel i, (0 < i ∨ i = zs) → i ≤ zs → 8 - i ≤ fuel →
      appendTo6.loop g zs ze fuel i =
        colonHex ((g.drop i).take (zs - i)) ++ [':', ':'] ++ joinHex (g.drop ze) := by
  intro fuel
  induction fuel with
  | zero => intro i _ _ hi; omega
  | succ fuel ih =>
    intro i hi0 hi hfuel
    rw [appendTo6.loop, if_neg (by omega)]
    by_cases hzi : i = zs
    · subst hzi
      rw [if_pos rfl, Nat.sub_self, List.take_zero, colonHex_nil, List.nil_append]
      by_cases h8 : 8 ≤ ze
      · simp [h8, List.drop_eq_nil_of_le (by omega : g.length ≤ ze)]
      · have hzeg : ze < g.length := by omega
        rw [if_neg h8, appendTo6_loop_tail g hg i ze fuel (ze + 1) (by omega) (by omega)
            (Or.inl (by omega)), List.getD_eq_getElem _ _ hzeg, List.drop_eq_getElem_cons hzeg,
          joinHex_cons, List.append_assoc]
    · have hig : i < g.length := by omega
      rw [if_neg hzi, if_pos (by omega), ih (i + 1) (Or.inl (by omega)) (by omega) (by omega),
        List.getD_eq_getElem _ _ hig, List.drop_eq_getElem_cons hig,
        show zs - i = (zs - (i + 1)) + 1 by omega, List.take_succ_cons, colonHex_cons]
      simp

/-- **What `appendTo6` writes**: the groups joined by `:`, the run (if any) written `::`. -/
theorem appendTo6_eq (ip : List UInt8) :
    appendTo6 ip = if 8 ≤ (zeroRun (groups ip)).1 then joinHex (groups ip)
      else joinHex ((groups ip).take (zeroRun (groups ip)).1) ++ [':', ':'] ++
        joinHex ((groups ip).drop (zeroRun (groups ip)).2) := by
  have hrun := zeroRun_spec (groups ip) (groups_length ip)
  unfold appendTo6
  generalize zeroRun (groups ip) = z at hrun ⊢
  obtain ⟨zs, ze⟩ := z
  have hg := groups_length ip
  generalize groups ip = g at hg hrun ⊢
  obtain ⟨g0, gs, rfl⟩ := List.exists_cons_of_ne_nil (List.ne_nil_of_length_pos (by omega : 0 < g.length))
  simp only [List.length_cons] at hg
  rw [appendTo6.loop, if_neg (by omega)]
  by_cases hnone : 8 ≤ zs
  · rw [if_neg (by omega), if_neg (by omega), if_pos hnone,
      appendTo6_loop_tail _ (by simp [hg]) zs ze 7 1 (by omega) (by omega) (Or.inr hnone)]
    simp [joinHex_cons]
  · obtain ⟨hze, hle, -⟩ := hrun.resolve_left (by omega)
    simp only at hze hle
    rw [if_neg hnone]
    by_cases h0 : zs = 0
    · subst h0
      have := appendTo6_loop_run (g0 :: gs) (by simp [hg]) 0 ze (by omega) hze 8 0 (Or.inr rfl)
        le_rfl (by omega)
      rw [appendTo6.loop, if_neg (by omega)] at this
      simpa using this
    · rw [if_neg (Ne.symm h0), if_neg (by omega), appendTo6_loop_run _ (by simp [hg]) zs ze
        (by omega) hze 7 1 (Or.inl (by omega)) (by omega) (by omega),
        show zs = (zs - 1) + 1 by omega, List.take_succ_cons, joinHex_cons]
      simp

/-! ### Reading RFC 5952 text back -/

/-- The tokens a stretch of groups contributes to the text: each group in hex, or one empty
    token when there is none (the empty side of `::`). -/
def hexTokens (xs : List Nat) : List (List Char) := if xs = [] then [[]] else xs.map appendHex

/-- The `:`-separated tokens of `appendTo6`'s text, for the groups `g` and the run `z`. -/
def tokens6 (g : List Nat) (z : Nat × Nat) : List (List Char) :=
  if 8 ≤ z.1 then g.map appendHex else hexTokens (g.take z.1) ++ [[]] ++ hexTokens (g.drop z.2)

/-- A token other than the empty one `::` leaves. -/
def nonEmpty (t : List Char) : Bool := !t.isEmpty

/-- Reading the tokens back: the tokens before the first empty one, zero groups for what
    `::` stands for, and the non-empty tokens after it. -/
def decodeTokens (ts : List (List Char)) : List Nat :=
  let front := ts.takeWhile nonEmpty
  let back := (ts.drop front.length).filter nonEmpty
  if front.length = ts.length then ts.map (parseDigits 16)
  else front.map (parseDigits 16) ++ List.replicate (8 - front.length - back.length) 0 ++
    back.map (parseDigits 16)

/-- Reading RFC 5952 text back: split on `:` and decode the tokens. -/
def decode6 (s : List Char) : List Nat := decodeTokens (s.splitOn ':')

/-- A list of groups always splits into at least one token. -/
theorem hexTokens_ne_nil (xs : List Nat) : hexTokens xs ≠ [] := by
  unfold hexTokens; split_ifs with h
  · simp
  · simpa using h

/-- Groups joined by `:` are their tokens joined by `:`. -/
theorem joinHex_eq (xs : List Nat) : joinHex xs = [':'].intercalate (hexTokens xs) := by
  unfold hexTokens; split_ifs with h
  · subst h; rfl
  · rfl

/-- The IPv6 text is the tokens of `tokens6` joined by `:`. -/
theorem appendTo6_eq_tokens (ip : List UInt8) :
    appendTo6 ip = [':'].intercalate (tokens6 (groups ip) (zeroRun (groups ip))) := by
  rw [appendTo6_eq, tokens6]
  split_ifs
  · rfl
  · rw [intercalate_append_nil _ _ _ (hexTokens_ne_nil _) (hexTokens_ne_nil _), ← joinHex_eq,
      ← joinHex_eq]

/-- Every hex token is non-empty. -/
theorem nonEmpty_appendHex (xs : List Nat) : ∀ t ∈ xs.map appendHex, nonEmpty t := by
  simp [nonEmpty, appendHex_ne_nil]

/-- The non-empty tokens before the `::` gap are the groups before the zero run. -/
theorem takeWhile_hexTokens (xs : List Nat) (r : List (List Char)) :
    (hexTokens xs ++ [[]] ++ r).takeWhile nonEmpty = xs.map appendHex := by
  unfold hexTokens; split_ifs with h
  · subst h; rfl
  · rw [List.append_assoc, List.takeWhile_append_of_pos (nonEmpty_appendHex xs)]
    simp [nonEmpty]

/-- After the groups before the gap, the non-empty tokens are those of the rest. -/
theorem filter_drop_hexTokens (xs : List Nat) (r : List (List Char)) :
    ((hexTokens xs ++ [[]] ++ r).drop xs.length).filter nonEmpty = r.filter nonEmpty := by
  unfold hexTokens; split_ifs with h
  · subst h; rfl
  · rw [List.append_assoc, List.drop_left' (by simp)]; rfl

/-- The non-empty tokens of a list of groups are their hex texts. -/
theorem filter_hexTokens (xs : List Nat) : (hexTokens xs).filter nonEmpty = xs.map appendHex := by
  unfold hexTokens; split_ifs with h
  · subst h; rfl
  · exact List.filter_eq_self.mpr (nonEmpty_appendHex xs)

/-- Parsing the hex texts of groups gives the groups back. -/
theorem map_parse_appendHex (xs : List Nat) (h : ∀ x ∈ xs, x < 0x10000) :
    (xs.map appendHex).map (parseDigits 16) = xs := by
  rw [List.map_map]
  exact (List.map_congr_left fun x hx => parseDigits_appendHex x (h x hx)).trans (List.map_id xs)

/-- Groups that are zero on `[zs, ze)` are their groups before, the zeros, their groups after. -/
theorem take_replicate_drop (g : List Nat) (zs ze : Nat) (hle : zs ≤ ze) (hze : ze ≤ g.length)
    (hzero : ∀ k, zs ≤ k → k < ze → g.getD k 0 = 0) :
    g.take zs ++ List.replicate (ze - zs) 0 ++ g.drop ze = g := by
  have hmid : (g.drop zs).take (ze - zs) = List.replicate (ze - zs) 0 := by
    refine List.eq_replicate_iff.mpr ⟨by simp; omega, fun x hx => ?_⟩
    obtain ⟨m, hm, rfl⟩ := List.getElem_of_mem hx
    simp only [List.length_take, List.length_drop] at hm
    rw [List.getElem_take, List.getElem_drop, ← List.getD_eq_getElem _ 0]
    exact hzero _ (by omega) (by omega)
  have hdrop : g.drop ze = (g.drop zs).drop (ze - zs) := by
    rw [List.drop_drop, Nat.add_sub_cancel' hle]
  rw [← hmid, hdrop, List.append_assoc, List.take_append_drop, List.take_append_drop]

/-- **The decoder reads back the groups** from the tokens `appendTo6` writes. -/
theorem decodeTokens_tokens6 (g : List Nat) (hg : g.length = 8) (hlt : ∀ x ∈ g, x < 0x10000)
    (z : Nat × Nat) (hz : ZeroRun g z) : decodeTokens (tokens6 g z) = g := by
  unfold tokens6 decodeTokens
  by_cases hnone : 8 ≤ z.1
  · rw [if_pos hnone, List.takeWhile_eq_self_iff.mpr (nonEmpty_appendHex g)]
    simp only [if_true]
    exact map_parse_appendHex g hlt
  · obtain ⟨hlt2, hle, hzero⟩ := hz.resolve_left (by omega)
    have hA : (g.take z.1).length = z.1 := List.length_take_of_le (by omega)
    have hback := filter_drop_hexTokens (g.take z.1) (hexTokens (g.drop z.2))
    rw [hA, filter_hexTokens] at hback
    have hlen : (g.take z.1).length < (hexTokens (g.take z.1) ++ [[]] ++ hexTokens (g.drop z.2)).length := by
      have : (g.take z.1).length ≤ (hexTokens (g.take z.1)).length := by
        unfold hexTokens; split_ifs with h <;> simp [h]
      simp only [List.length_append, List.length_singleton]; omega
    rw [if_neg hnone]
    dsimp only
    rw [takeWhile_hexTokens, List.length_map, if_neg (by omega), hA, hback, List.length_map,
      List.length_drop, hg, map_parse_appendHex _ (fun x hx => hlt x (List.mem_of_mem_take hx)),
      map_parse_appendHex _ (fun x hx => hlt x (List.mem_of_mem_drop hx)),
      show 8 - z.1 - (8 - z.2) = z.2 - z.1 by omega]
    exact take_replicate_drop g z.1 z.2 (by omega) (by omega) hzero

/-- Every token of `tokens6` is empty (at the gap) or the hex text of a group. -/
theorem mem_tokens6 {g : List Nat} {z : Nat × Nat} {t : List Char} (ht : t ∈ tokens6 g z) :
    t = [] ∨ ∃ x, t = appendHex x := by
  have hhex : ∀ {xs : List Nat}, t ∈ hexTokens xs → t = [] ∨ ∃ x, t = appendHex x := by
    intro xs hxs
    unfold hexTokens at hxs; split_ifs at hxs
    · exact Or.inl (List.mem_singleton.mp hxs)
    · obtain ⟨x, _, rfl⟩ := List.mem_map.mp hxs; exact Or.inr ⟨x, rfl⟩
  unfold tokens6 at ht; split_ifs at ht
  · obtain ⟨x, _, rfl⟩ := List.mem_map.mp ht; exact Or.inr ⟨x, rfl⟩
  · simp only [List.append_assoc, List.mem_append, List.mem_singleton] at ht
    rcases ht with ht | rfl | ht
    · exact hhex ht
    · exact Or.inl rfl
    · exact hhex ht

/-- **`appendTo6` reads back**: decoding its text gives the address's groups. -/
theorem decode6_appendTo6 (ip : List UInt8) : decode6 (appendTo6 ip) = groups ip := by
  have hsep : ∀ t ∈ tokens6 (groups ip) (zeroRun (groups ip)), ':' ∉ t := by
    intro t ht hc
    rcases mem_tokens6 ht with rfl | ⟨x, rfl⟩
    · simp at hc
    · exact absurd (appendHex_mem_digits x _ hc) (by decide)
  have hne : tokens6 (groups ip) (zeroRun (groups ip)) ≠ [] := by
    unfold tokens6; split_ifs
    · simp [← List.length_pos]
    · simp
  rw [decode6, appendTo6_eq_tokens, List.splitOn_intercalate _ _ hsep hne]
  exact decodeTokens_tokens6 _ (groups_length ip) (groups_lt ip) _
    (zeroRun_spec _ (groups_length ip))

/-- **The IPv6 text is injective** on 16-byte addresses. -/
theorem appendTo6_injective {ip ip' : List UInt8} (h : ip.length = 16) (h' : ip'.length = 16)
    (he : appendTo6 ip = appendTo6 ip') : ip = ip' :=
  groups_injective h h' (by rw [← decode6_appendTo6, he, decode6_appendTo6])

/-- **The dotted IPv4 text is injective** on non-empty byte lists. -/
theorem appendTo4_injective {p q : List UInt8} (hp : p ≠ []) (hq : q ≠ [])
    (he : appendTo4 p = appendTo4 q) : p = q := by
  have := (decode4_appendTo4 p hp).symm.trans ((congrArg decode4 he).trans (decode4_appendTo4 q hq))
  exact List.map_injective_iff.mpr (fun _ _ h => UInt8.toNat.inj h) this

/-- RFC 5952 text always has a `:`. -/
theorem colon_mem_appendTo6 (ip : List UInt8) : ':' ∈ appendTo6 ip := by
  rw [appendTo6_eq]
  split_ifs
  · obtain ⟨g0, g1, gs, hg⟩ : ∃ g0 g1 gs, groups ip = g0 :: g1 :: gs := by
      match h : groups ip, groups_length ip with
      | g0 :: g1 :: gs, _ => exact ⟨g0, g1, gs, rfl⟩
    simp [hg, joinHex_cons, colonHex_cons]
  · simp

/-! ### `IP.String`, `IPNet.String` -/

/-- The text Go prints for a missing value. -/
def nilString : List Char := "<nil>".toList

/-- `hexString`: each byte as two hex digits, with no punctuation. -/
def hexString (b : List UInt8) : List Char :=
  b.flatMap fun tn => [digit (tn.toNat / 16), digit (tn.toNat % 16)]

/-- `IP.String`: `<nil>` for no bytes, `?` and hex for a length other than 4 or 16, dotted
    decimal for an IPv4 address (also one in IPv6 form), RFC 5952 text for the rest. -/
def ipString (ip : List UInt8) : List Char :=
  if ip.length = 0 then nilString
  else if ip.length ≠ 4 ∧ ip.length ≠ 16 then '?' :: hexString ip
  else match to4 ip with
    | some p4 => appendTo4 p4
    | none => appendTo6 ip

/-- `IPMask.String`: `<nil>` for no bytes, else the bytes in hex. -/
def ipMaskString (m : List UInt8) : List Char := if m.length = 0 then nilString else hexString m

/-- `networkNumberAndMask`: the address to print (the IPv4 bytes when `To4` finds them, else
    a 16-byte address) and the mask to print (its last four bytes for an IPv4 address under a
    16-byte mask); `none` for a mismatch. -/
def networkNumberAndMask (n : IPNet) : Option (List UInt8 × List UInt8) :=
  let ip? := match to4 n.ip with
    | some p4 => some p4
    | none => if n.ip.length = 16 then some n.ip else none
  match ip? with
  | none => none
  | some ip =>
    if n.mask.length = 4 then (if ip.length = 4 then some (ip, n.mask) else none)
    else if n.mask.length = 16 then some (ip, if ip.length = 4 then n.mask.drop 12 else n.mask)
    else none

/-- `IPNet.String`: the address, `/`, and the mask's length (or the mask in hex when it is
    not canonical). -/
def ipNetString (n : IPNet) : List Char :=
  match networkNumberAndMask n with
  | none => nilString
  | some (nn, m) =>
    if simpleMaskLength m = -1 then ipString nn ++ '/' :: ipMaskString m
    else ipString nn ++ '/' :: uitoa (simpleMaskLength m).toNat

/-- Dotted IPv4 text is made of `.` and digit characters. -/
theorem mem_appendTo4 {p4 : List UInt8} {c : Char} (hc : c ∈ appendTo4 p4) :
    c = '.' ∨ c ∈ digits := by
  rcases mem_intercalate hc with h | ⟨_, ht, hc⟩
  · exact Or.inl h
  · obtain ⟨b, _, rfl⟩ := List.mem_map.mp ht
    exact Or.inr (appendDecimal_mem_digits _ _ hc)

/-- IPv6 text is made of `:` and digit characters. -/
theorem mem_appendTo6 {ip : List UInt8} {c : Char} (hc : c ∈ appendTo6 ip) :
    c = ':' ∨ c ∈ digits := by
  rw [appendTo6_eq_tokens] at hc
  rcases mem_intercalate hc with h | ⟨t, ht, hc⟩
  · exact Or.inl h
  · rcases mem_tokens6 ht with rfl | ⟨x, rfl⟩
    · simp at hc
    · exact Or.inr (appendHex_mem_digits x _ hc)

/-- `IP.String` of a 4-byte address is its dotted text. -/
theorem ipString_four {ip : List UInt8} (h : ip.length = 4) : ipString ip = appendTo4 ip := by
  simp [ipString, h, to4_of_length_four h]

/-- `IP.String` of a 16-byte address that is not IPv4-mapped is its IPv6 text. -/
theorem ipString_six {ip : List UInt8} (h : ip.length = 16) (hm : ¬ IsMapped ip) :
    ipString ip = appendTo6 ip := by
  simp [ipString, h, to4_of_not_mapped (by omega) hm]

/-- The addresses `IPNet.String` prints: four bytes, or sixteen that `To4` does not read as
    IPv4. -/
def Printable (ip : List UInt8) : Prop := ip.length = 4 ∨ (ip.length = 16 ∧ ¬ IsMapped ip)

/-- The characters of a printable address's text: digits, `.` and `:`. -/
theorem mem_ipString {ip : List UInt8} (h : Printable ip) {c : Char} (hc : c ∈ ipString ip) :
    c = '.' ∨ c = ':' ∨ c ∈ digits := by
  rcases h with h | ⟨h, hm⟩
  · rw [ipString_four h] at hc
    rcases mem_appendTo4 hc with h | h
    · exact Or.inl h
    · exact Or.inr (Or.inr h)
  · rw [ipString_six h hm] at hc
    exact Or.inr (mem_appendTo6 hc)

/-- `IP.String` of a printable address has no `/`, so the prefix length after it can be split off. -/
theorem slash_not_mem_ipString {ip : List UInt8} (h : Printable ip) : '/' ∉ ipString ip := by
  intro hc
  rcases mem_ipString h hc with h | h | h <;> exact absurd h (by decide)

/-- `IP.String` is injective on the addresses `IPNet.String` prints: dotted text has no `:`
    and RFC 5952 text always has one. -/
theorem ipString_injective {a b : List UInt8} (ha : Printable a) (hb : Printable b)
    (h : ipString a = ipString b) : a = b := by
  rcases ha with ha | ⟨ha, hma⟩ <;> rcases hb with hb | ⟨hb, hmb⟩
  · rw [ipString_four ha, ipString_four hb] at h
    exact appendTo4_injective (List.ne_nil_of_length_pos (by omega))
      (List.ne_nil_of_length_pos (by omega)) h
  · rw [ipString_four ha, ipString_six hb hmb] at h
    exact absurd (h ▸ colon_mem_appendTo6 b) (appendTo4_no_colon a)
  · rw [ipString_six ha hma, ipString_four hb] at h
    exact absurd (h ▸ colon_mem_appendTo6 a) (appendTo4_no_colon b)
  · rw [ipString_six ha hma, ipString_six hb hmb] at h
    exact appendTo6_injective ha hb h

/-- Text split at the first occurrence of a separator: the parts before and after it. -/
theorem append_cons_inj {α : Type} {c : α} {a b a' b' : List α} (ha : c ∉ a) (ha' : c ∉ a')
    (h : a ++ c :: b = a' ++ c :: b') : a = a' ∧ b = b' := by
  induction a generalizing a' with
  | nil =>
    cases a' with
    | nil => simpa using h
    | cons y ys =>
      simp only [List.nil_append, List.cons_append, List.cons.injEq] at h
      exact absurd (h.1 ▸ List.mem_cons_self y ys) ha'
  | cons x xs ih =>
    cases a' with
    | nil =>
      simp only [List.nil_append, List.cons_append, List.cons.injEq] at h
      exact absurd (h.1 ▸ List.mem_cons_self x xs) ha
    | cons y ys =>
      simp only [List.cons_append, List.cons.injEq] at h
      obtain ⟨rfl, h⟩ := h
      obtain ⟨rfl, rfl⟩ := ih (fun hc => ha (List.mem_cons_of_mem _ hc))
        (fun hc => ha' (List.mem_cons_of_mem _ hc)) h
      exact ⟨rfl, rfl⟩

/-! ### The text of a parsed prefix -/

/-- The address `IPNet.String` prints for a parsed prefix: the IPv4 bytes when `To4` finds
    them, else the sixteen bytes. -/
def CIDR.netNumber (p : CIDR) : List UInt8 := (to4 p.ip).getD p.ip

/-- The network number `IPNet.String` prints for an IPv4-mapped prefix is its last four bytes. -/
theorem CIDR.netNumber_of_mapped {p : CIDR} (hm : IsMapped p.ip) : p.netNumber = p.ip.drop 12 := by
  rw [CIDR.netNumber, to4_of_mapped hm]; rfl

/-- Any other prefix prints its address bytes as they are. -/
theorem CIDR.netNumber_of_not_mapped {p : CIDR} (hm : ¬ IsMapped p.ip) : p.netNumber = p.ip := by
  rcases p.length_mem with h4 | h16
  · rw [CIDR.netNumber, to4_of_length_four h4]; rfl
  · rw [CIDR.netNumber, to4_of_not_mapped (by omega) hm]; rfl

/-- The length `IPNet.String` prints for a parsed prefix: for an IPv4-mapped one, the ones
    of the mask's last four bytes. -/
def CIDR.netLength (p : CIDR) : Nat := if IsMapped p.ip then p.ones - 96 else p.ones

/-- `simpleMaskLength` reads back the number of ones `CIDRMask` wrote. -/
theorem simpleMaskLength_cidrMask (m l : Nat) (h : m ≤ 8 * l) :
    simpleMaskLength (cidrMask.go m l) = m := by
  rw [simpleMaskLength, simpleMaskLength_go_cidrMask 0 m l h]; simp

/-- `IPNet.String` is the address text, a `/`, then the mask length in decimal. -/
theorem ipNetString_of {n : IPNet} {nn m : List UInt8} {k : Nat}
    (h : networkNumberAndMask n = some (nn, m)) (hk : simpleMaskLength m = k) :
    ipNetString n = ipString nn ++ '/' :: uitoa k := by
  have hk' : simpleMaskLength m ≠ -1 := by omega
  simp only [ipNetString, h]
  rw [if_neg hk', hk, Int.toNat_natCast]

/-- What `IPNet.String` prints for a parsed prefix: its address, `/`, its length. -/
theorem CIDR.ipNetString_eq (p : CIDR) :
    ipNetString p.toIPNet = ipString p.netNumber ++ '/' :: uitoa p.netLength := by
  have hmask : p.toIPNet.mask.length = p.ip.length := by simp [CIDR.toIPNet_mask]
  have hones := p.ones_le
  by_cases hm : IsMapped p.ip
  · have h16 : p.ip.length = 16 := hm.1
    have hnm : networkNumberAndMask p.toIPNet = some (p.ip.drop 12, p.toIPNet.mask.drop 12) := by
      simp [networkNumberAndMask, to4_of_mapped hm, hmask, h16]
    have hk : simpleMaskLength (p.toIPNet.mask.drop 12) = ((p.ones - 96 : Nat) : Int) := by
      rw [p.mask_drop_twelve h16, simpleMaskLength_cidrMask _ _ (by omega)]
    rw [ipNetString_of hnm hk, p.netNumber_of_mapped hm, CIDR.netLength, if_pos hm]
  · have hk : simpleMaskLength p.toIPNet.mask = (p.ones : Int) := by
      rw [CIDR.toIPNet_mask, simpleMaskLength_cidrMask _ _ hones]
    have hnm : networkNumberAndMask p.toIPNet = some (p.ip, p.toIPNet.mask) := by
      rcases p.length_mem with h4 | h16
      · simp [networkNumberAndMask, to4_of_length_four h4, hmask, h4]
      · simp [networkNumberAndMask, to4_of_not_mapped (by omega) hm, hmask, h16]
    rw [ipNetString_of hnm hk, p.netNumber_of_not_mapped hm, CIDR.netLength, if_neg hm]

/-- The network number of a parsed prefix is printable: 4 bytes, or 16 not IPv4-mapped. -/
theorem CIDR.printable_netNumber (p : CIDR) : Printable p.netNumber := by
  by_cases hm : IsMapped p.ip
  · rw [p.netNumber_of_mapped hm]
    exact Or.inl (by simp [hm.1])
  · rw [p.netNumber_of_not_mapped hm]
    rcases p.length_mem with h4 | h16
    · exact Or.inl h4
    · exact Or.inr ⟨h16, hm⟩

/-- **The text of a parsed prefix determines the address and the length it prints.** -/
theorem CIDR.ipNetString_inj {p q : CIDR} (h : ipNetString p.toIPNet = ipNetString q.toIPNet) :
    p.netNumber = q.netNumber ∧ p.netLength = q.netLength := by
  rw [p.ipNetString_eq, q.ipNetString_eq] at h
  obtain ⟨h1, h2⟩ := append_cons_inj (slash_not_mem_ipString p.printable_netNumber)
    (slash_not_mem_ipString q.printable_netNumber) h
  exact ⟨ipString_injective p.printable_netNumber q.printable_netNumber h1,
    by rw [← parseDigits_uitoa p.netLength, h2, parseDigits_uitoa]⟩

/-- Nothing `IPNet.String` prints for a parsed prefix is a comma. -/
theorem CIDR.comma_not_mem_ipNetString (p : CIDR) : ',' ∉ ipNetString p.toIPNet := by
  rw [p.ipNetString_eq]
  intro hc
  simp only [List.mem_append, List.mem_cons] at hc
  rcases hc with hc | hc | hc
  · rcases mem_ipString p.printable_netNumber hc with h | h | h <;> exact absurd h (by decide)
  · exact absurd hc (by decide)
  · exact absurd (uitoa_mem_digits _ _ hc) (by decide)

end StayRTR
