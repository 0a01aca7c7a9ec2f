import StayRTR.ProcessData

namespace StayRTR

/-!
# The refresh functions — `updateFile`, `updateSlurm`, `updateFromNewState`

The refresh loop keeps its state in Go's `state` record, and three methods read and write
it.  Each is modelled as a function from the state, and from what it reads from the outside
world (the clock and `FetchFile`'s outcome), to an `Outcome`: Go's return value, the new
state, and the calls it made to the RTR server and to the metrics, in order (`Effect`).  The
library functions they call are not in the repository, so they are the fields of `Lib`.
These are `sha256.Sum256`, the JSON decoders, `time.Parse`, SLURM's `FilterOnVRPs` and
`AssertVRPs`, and the entry decoders of `processData`.

* `updateFile_spec`: `updateFile` either succeeds and writes `lasthash`, `lastchange` and
  `lastdata`, or fails and moves `lastts` only;
* `updateSlurm_spec`: `updateSlurm` either sets `slurm` or leaves the state as it was;
* `updateFromNewState_spec`: `updateFromNewState` either installs the SLURM view of
  `lastdata` (one `AddVRPs`, then the notification and the metrics) or changes nothing.

Logging is left out: the error types of `FetchFile` only choose a log level.
-/

/-! ### Time -/

/-- A `time.Time`, as nanoseconds since Go's zero `Time` (January 1 of year 1, UTC). -/
structure Time where
  ns : Int
deriving DecidableEq, Repr

/-- `Time.IsZero`. -/
def Time.IsZero (t : Time) : Bool := t.ns == 0

/-- `Time.Add`: `t` moved by `d` nanoseconds. -/
def Time.add (t : Time) (d : Int) : Time := ⟨t.ns + d⟩

/-- `Time.After`: `t` is strictly later than `u`. -/
def Time.after (t u : Time) : Bool := decide (u.ns < t.ns)

/-- `time.Hour`, in nanoseconds. -/
def hour : Int := 3600 * 1000000000

/-- Seconds from Go's zero `Time` to the Unix epoch (`unixToInternal` of package `time`). -/
def unixToInternal : Int := 62135596800

/-- `t.UnixNano() / 1e9`: whole seconds since the Unix epoch, rounded toward zero as Go's
    integer division rounds. -/
def Time.unixSeconds (t : Time) : Int := (t.ns - unixToInternal * 1000000000).tdiv 1000000000

/-- A reading of `time.Now().UTC()`, which is never the zero `Time`. -/
structure ClockReading where
  time : Time
  ne_zero : time.IsZero = false
deriving DecidableEq

/-! ### Documents, fetches, errors and effects -/

/-- `prefixfile.MetaData`. -/
structure MetaData where
  counts : Nat
  buildtime : String
deriving DecidableEq, Repr

/-- `prefixfile.VRPList`: the metadata and the `roas` array, `none` for Go's nil slice (a
    document without `roas`). -/
structure VRPList where
  metadata : MetaData
  data : Option (List VRPJson)
deriving DecidableEq, Repr

/-- The zero `prefixfile.VRPList`. -/
def VRPList.empty : VRPList := ⟨⟨0, ""⟩, none⟩

/-- A successful `FetchFile`: the body, the HTTP status (`-1` when there is none) and whether
    the file was refreshed (`lastrefresh`). -/
structure Fetched where
  data : List UInt8
  code : Int
  lastrefresh : Bool
deriving DecidableEq, Repr

/-- The library functions the refresh code calls. -/
structure Lib (Slurm : Type) where
  /-- `sha256.Sum256`. -/
  sum256 : List UInt8 → List UInt8
  /-- `json.Decoder.Decode` into a `prefixfile.VRPList`. -/
  decode : List UInt8 → Except String VRPList
  /-- `prefixfile.DecodeJSONSlurm`. -/
  decodeJSONSlurm : List UInt8 → Except String Slurm
  /-- `SlurmConfig.FilterOnVRPs`: the entries kept, and those removed. -/
  filterOnVRPs : Slurm → List VRPJson → List VRPJson × List VRPJson
  /-- `SlurmConfig.AssertVRPs`. -/
  assertVRPs : Slurm → List VRPJson
  /-- `time.Parse(time.RFC3339, ·)`. -/
  parseRFC3339 : String → Except String Time
  /-- `VRPJson.GetPrefix2`. -/
  getPrefix2 : VRPJson → Except String CIDR
  /-- `VRPJson.GetASN2`. -/
  getASN2 : VRPJson → Except String UInt32

/-- The errors the refresh functions return. -/
inductive RefreshError
  /-- An error of `FetchFile` (`utils.HttpNotModified`, `utils.IdenticalEtag` or another). -/
  | fetch (msg : String)
  /-- `IdenticalFile{File: file}`. -/
  | identicalFile (file : String)
  /-- An error of `decodeJSON` or of `DecodeJSONSlurm`. -/
  | decode (msg : String)
  /-- An error of `time.Parse` on the buildtime. -/
  | parse (msg : String)
  /-- `"VRP JSON file is older than 24 hours: %v"`, with the buildtime. -/
  | stale (buildtime : Time)
deriving DecidableEq, Repr

/-- `IdenticalFile.Error`. -/
def IdenticalFile.error (file : String) : String :=
  "File " ++ file ++ " is identical to the previous version"

/-- A call the refresh code makes to the RTR server or to the metrics. -/
inductive Effect
  /-- `LastRefresh.WithLabelValues(file).Set(seconds)`. -/
  | lastRefresh (file : String) (seconds : Int)
  /-- `RefreshStatusCode.WithLabelValues(file, code).Inc()`. -/
  | refreshStatus (file : String) (code : Int)
  /-- `server.AddVRPs(vrps)`: install a VRP set. -/
  | addVRPs (vrps : List VRP)
  /-- `server.NotifyClientsLatest()`: Serial Notify to every client. -/
  | notifyClientsLatest
  /-- `metricsEvent.UpdateMetrics`: the raw and the deduplicated (`filtered`) counts per
      family, `lastchange`, `lastts`, and the cache's name. -/
  | updateMetrics (numIPv4 numIPv6 numIPv4filtered numIPv6filtered : Nat) (changed refreshed : Time)
      (file : String)
deriving DecidableEq, Repr

/-- The calls that record a fetch in the metrics. -/
def Effect.isFetchMetric : Effect → Bool
  | .lastRefresh .. | .refreshStatus .. => true
  | _ => false

/-- `AddVRPs`, the call that installs a VRP set. -/
def Effect.isAddVRPs : Effect → Bool
  | .addVRPs _ => true
  | _ => false

/-- A fetch metric is not an `AddVRPs`. -/
theorem Effect.isAddVRPs_of_isFetchMetric {e : Effect} (h : e.isFetchMetric) : e.isAddVRPs = false := by
  cases e <;> first | rfl | cases h

/-! ### The state -/

/-- The fields of Go's `state` the refresh code reads or writes (`metricsEvent` says whether
    the pointer is set; `server` is reached through the `Effect`s). -/
structure State (Slurm : Type) where
  lastdata : VRPList
  lasthash : Option (List UInt8)
  lastchange : Time
  lastts : Time
  sendNotifs : Bool
  exported : VRPList
  slurm : Option Slurm
  checktime : Bool
  metricsEvent : Bool
deriving DecidableEq

/-- What a call of a refresh method gives: Go's return value, the state after it, and the
    calls it made, in order. -/
structure Outcome (Slurm α : Type) where
  ret : α
  state : State Slurm
  effects : List Effect

section
variable {Slurm : Type} (lib : Lib Slurm)

/-! ### `updateFile` and `updateSlurm` -/

/-- `newSHA256`: the SHA-256 sum of `data`, as a byte slice. -/
def newSHA256 (data : List UInt8) : List UInt8 := lib.sum256 data

/-- `decodeJSON`: decode a `prefixfile.VRPList`. -/
def decodeJSON (data : List UInt8) : Except String VRPList := lib.decode data

/-- The metrics `updateFile` and `updateSlurm` record after a successful fetch of `file`:
    `LastRefresh`, from `lastts`, when the file was refreshed, and a count of the HTTP status
    when there is one. -/
def fetchMetrics (file : String) (lastts : Time) (f : Fetched) : List Effect :=
  (if f.lastrefresh then [.lastRefresh file lastts.unixSeconds] else []) ++
    (if f.code ≠ -1 then [.refreshStatus file f.code] else [])

/-- `updateFile`: stamp `lastts`, fetch `file`, and unless its hash is the one of the last
    decoded body, decode it and remember the hash, the time and the document. -/
def updateFile (file : String) (fetchTime : ClockReading) (fetched : Except String Fetched)
    (changeTime : ClockReading) (s : State Slurm) : Outcome Slurm (Bool × Option RefreshError) :=
  let s := { s with lastts := fetchTime.time }
  match fetched with
  | .error e => ⟨(false, some (.fetch e)), s, []⟩
  | .ok f =>
    let hsum := newSHA256 lib f.data
    if s.lasthash = some hsum then
      ⟨(false, some (.identicalFile file)), s, fetchMetrics file s.lastts f⟩
    else
      match decodeJSON lib f.data with
      | .error e => ⟨(false, some (.decode e)), s, fetchMetrics file s.lastts f⟩
      | .ok vrplistjson =>
        ⟨(true, none),
          { s with lasthash := some hsum, lastchange := changeTime.time, lastdata := vrplistjson },
          fetchMetrics file s.lastts f⟩

/-- `updateSlurm`: fetch `file` and decode it as the SLURM configuration. -/
def updateSlurm (file : String) (fetched : Except String Fetched) (s : State Slurm) :
    Outcome Slurm (Bool × Option RefreshError) :=
  match fetched with
  | .error e => ⟨(false, some (.fetch e)), s, []⟩
  | .ok f =>
    match lib.decodeJSONSlurm f.data with
    | .error e => ⟨(false, some (.decode e)), s, fetchMetrics file s.lastts f⟩
    | .ok slurm => ⟨(true, none), { s with slurm := some slurm }, fetchMetrics file s.lastts f⟩

/-- The fetch metrics are fetch metrics only. -/
theorem fetchMetrics_isFetchMetric (file : String) (lastts : Time) (f : Fetched) :
    ∀ e ∈ fetchMetrics file lastts f, e.isFetchMetric := by
  unfold fetchMetrics
  split_ifs <;> simp [Effect.isFetchMetric]

/-- **`updateFile` commits only on success.**  Either it returns `(true, nil)`, having
    decoded a body whose hash differs from `lasthash`, and writes the hash, the document and
    the time; or it returns `false` with an error and moves `lastts` only. -/
theorem updateFile_spec (file : String) (t₁ : ClockReading) (fetched : Except String Fetched)
    (t₂ : ClockReading) (s : State Slurm) :
    ((updateFile lib file t₁ fetched t₂ s).ret = (true, none) ∧
      ∃ f d, fetched = .ok f ∧ s.lasthash ≠ some (newSHA256 lib f.data) ∧
        decodeJSON lib f.data = .ok d ∧
        (updateFile lib file t₁ fetched t₂ s).state =
          { s with lastts := t₁.time, lasthash := some (newSHA256 lib f.data),
                   lastchange := t₂.time, lastdata := d }) ∨
    ((updateFile lib file t₁ fetched t₂ s).ret.1 = false ∧
      (updateFile lib file t₁ fetched t₂ s).ret.2.isSome ∧
      (updateFile lib file t₁ fetched t₂ s).state = { s with lastts := t₁.time }) := by
  unfold updateFile
  rcases fetched with e | f
  · exact .inr ⟨rfl, rfl, rfl⟩
  dsimp only
  by_cases hh : s.lasthash = some (newSHA256 lib f.data)
  · rw [if_pos hh]; exact .inr ⟨rfl, rfl, rfl⟩
  rw [if_neg hh]
  rcases hd : decodeJSON lib f.data with e | d
  · exact .inr ⟨rfl, rfl, rfl⟩
  · exact .inl ⟨rfl, f, d, rfl, hh, hd, rfl⟩

/-- After a successful fetch, `updateFile` reports `IdenticalFile` exactly when `lasthash`
    is set to the body's hash. -/
theorem updateFile_identical_iff (file : String) (t₁ : ClockReading) {fetched : Except String Fetched}
    {f : Fetched} (hf : fetched = .ok f) (t₂ : ClockReading) (s : State Slurm) :
    (updateFile lib file t₁ fetched t₂ s).ret.2 = some (.identicalFile file) ↔
      s.lasthash = some (newSHA256 lib f.data) := by
  subst hf
  unfold updateFile
  dsimp only
  by_cases hh : s.lasthash = some (newSHA256 lib f.data)
  · simp [hh]
  · rw [if_neg hh]
    cases decodeJSON lib f.data <;> simp [hh]

/-- After a fetch, `updateFile` records the fetch metrics with the `lastts` it has just
    stamped, whatever the body holds. -/
theorem updateFile_effects_of_ok {file : String} {t₁ : ClockReading} {fetched : Except String Fetched}
    {f : Fetched} (hf : fetched = .ok f) (t₂ : ClockReading) (s : State Slurm) :
    (updateFile lib file t₁ fetched t₂ s).effects = fetchMetrics file t₁.time f := by
  subst hf
  unfold updateFile
  dsimp only
  split_ifs
  · rfl
  · cases decodeJSON lib f.data <;> rfl

/-- `updateFile` calls nothing but the fetch metrics. -/
theorem updateFile_effects (file : String) (t₁ : ClockReading) (fetched : Except String Fetched)
    (t₂ : ClockReading) (s : State Slurm) :
    ∀ e ∈ (updateFile lib file t₁ fetched t₂ s).effects, e.isFetchMetric := by
  rcases fetched with e | f
  · simp [updateFile]
  · rw [updateFile_effects_of_ok lib rfl]
    exact fetchMetrics_isFetchMetric _ _ _

/-- **`updateSlurm` commits only on success.**  Either it returns `(true, nil)` and sets
    `slurm` to the decoded configuration, or it returns `false` with an error and leaves the
    state as it was. -/
theorem updateSlurm_spec (file : String) (fetched : Except String Fetched) (s : State Slurm) :
    ((updateSlurm lib file fetched s).ret = (true, none) ∧
      ∃ f c, fetched = .ok f ∧ lib.decodeJSONSlurm f.data = .ok c ∧
        (updateSlurm lib file fetched s).state = { s with slurm := some c }) ∨
    ((updateSlurm lib file fetched s).ret.1 = false ∧ (updateSlurm lib file fetched s).ret.2.isSome ∧
      (updateSlurm lib file fetched s).state = s) := by
  unfold updateSlurm
  rcases fetched with e | f
  · exact .inr ⟨rfl, rfl, rfl⟩
  dsimp only
  rcases hc : lib.decodeJSONSlurm f.data with e | c
  · exact .inr ⟨rfl, rfl, rfl⟩
  · exact .inl ⟨rfl, f, c, rfl, hc, rfl⟩

/-- After a fetch, `updateSlurm` records the fetch metrics with the `lastts` of the state it
    is called on, whatever the body holds. -/
theorem updateSlurm_effects_of_ok {file : String} {fetched : Except String Fetched} {f : Fetched}
    (hf : fetched = .ok f) (s : State Slurm) :
    (updateSlurm lib file fetched s).effects = fetchMetrics file s.lastts f := by
  subst hf
  unfold updateSlurm
  dsimp only
  cases lib.decodeJSONSlurm f.data <;> rfl

/-- `updateSlurm` calls nothing but the fetch metrics. -/
theorem updateSlurm_effects (file : String) (fetched : Except String Fetched) (s : State Slurm) :
    ∀ e ∈ (updateSlurm lib file fetched s).effects, e.isFetchMetric := by
  rcases fetched with e | f
  · simp [updateSlurm]
  · rw [updateSlurm_effects_of_ok lib rfl]
    exact fetchMetrics_isFetchMetric _ _ _

/-- `updateFile` writes `lastts`, `lasthash`, `lastchange` and `lastdata` only. -/
theorem updateFile_frame (file : String) (t₁ : ClockReading) (fetched : Except String Fetched)
    (t₂ : ClockReading) (s : State Slurm) :
    (updateFile lib file t₁ fetched t₂ s).state =
      { s with lastts := t₁.time, lasthash := (updateFile lib file t₁ fetched t₂ s).state.lasthash,
               lastchange := (updateFile lib file t₁ fetched t₂ s).state.lastchange,
               lastdata := (updateFile lib file t₁ fetched t₂ s).state.lastdata } := by
  rcases updateFile_spec lib file t₁ fetched t₂ s with ⟨-, f, d, -, -, -, h⟩ | ⟨-, -, h⟩ <;> rw [h]

/-- `updateSlurm` writes `slurm` only. -/
theorem updateSlurm_frame (file : String) (fetched : Except String Fetched) (s : State Slurm) :
    (updateSlurm lib file fetched s).state = { s with slurm := (updateSlurm lib file fetched s).state.slurm } := by
  rcases updateSlurm_spec lib file fetched s with ⟨-, f, c, -, -, h⟩ | ⟨-, -, h⟩ <;> rw [h]

/-- `updateFile` on a body whose hash is `lasthash`. -/
theorem updateFile_of_identical {file : String} {t₁ : ClockReading} {fetched : Except String Fetched}
    {t₂ : ClockReading} {s : State Slurm} {f : Fetched} (hf : fetched = .ok f)
    (hh : s.lasthash = some (newSHA256 lib f.data)) :
    updateFile lib file t₁ fetched t₂ s =
      ⟨(false, some (.identicalFile file)), { s with lastts := t₁.time }, fetchMetrics file t₁.time f⟩ := by
  subst hf
  exact if_pos hh

/-- `updateFile` on a new body that decodes. -/
theorem updateFile_of_decode {file : String} {t₁ : ClockReading} {fetched : Except String Fetched}
    {t₂ : ClockReading} {s : State Slurm} {f : Fetched} {d : VRPList} (hf : fetched = .ok f)
    (hh : s.lasthash ≠ some (newSHA256 lib f.data)) (hd : decodeJSON lib f.data = .ok d) :
    updateFile lib file t₁ fetched t₂ s =
      ⟨(true, none), { s with lastts := t₁.time, lasthash := some (newSHA256 lib f.data),
                              lastchange := t₂.time, lastdata := d }, fetchMetrics file t₁.time f⟩ := by
  subst hf
  simp only [updateFile, if_neg hh, hd]

/-- `updateSlurm` on a body that decodes. -/
theorem updateSlurm_of_decode {file : String} {fetched : Except String Fetched} {s : State Slurm}
    {f : Fetched} {c : Slurm} (hf : fetched = .ok f) (hc : lib.decodeJSONSlurm f.data = .ok c) :
    updateSlurm lib file fetched s = ⟨(true, none), { s with slurm := some c }, fetchMetrics file s.lastts f⟩ := by
  subst hf
  simp only [updateSlurm, hc]

/-- The `checktime` test of `updateFromNewState`: the buildtime must parse as RFC 3339 and be
    at most 24 hours before `now`. -/
def checkBuildtime (checktime : Bool) (buildtime : String) (now : Time) : Option RefreshError :=
  if checktime then
    match lib.parseRFC3339 buildtime with
    | .error e => some (.parse e)
    | .ok bt => if now.after (bt.add (24 * hour)) then some (.stale bt) else none
  else none

/-- The entries `updateFromNewState` hands to `processData`: those SLURM's filters keep, then
    its assertions, or the document's own entries when no SLURM file is loaded. -/
def slurmView (slurm : Option Slurm) (vrpsjson : List VRPJson) : List VRPJson :=
  match slurm with
  | none => vrpsjson
  | some c => (lib.filterOnVRPs c vrpsjson).1 ++ lib.assertVRPs c

/-- The calls `updateFromNewState` makes after `AddVRPs`: the notification when
    notifications are on, and the metrics when they are enabled. -/
def afterInstall (s : State Slurm) (cacheBin : String) (vrps : List VRP) (countv4 countv6 : Nat) :
    List Effect :=
  (if s.sendNotifs then [.notifyClientsLatest] else []) ++
    if s.metricsEvent then
      [.updateMetrics countv4 countv6 (countDup vrps).1 (countDup vrps).2 s.lastchange s.lastts cacheBin]
    else []

/-- `updateFromNewState`: when a document is loaded and passes the `checktime` test, hand its
    SLURM view to `processData`, install the VRPs, notify, export the view and update the
    metrics.  `now` is its reading of the clock. -/
def updateFromNewState (cacheBin : String) (now : ClockReading) (s : State Slurm) :
    Outcome Slurm (Option RefreshError) :=
  match s.lastdata.data with
  | none => ⟨none, s, []⟩
  | some vrpsjson =>
    match checkBuildtime lib s.checktime s.lastdata.metadata.buildtime now.time with
    | some e => ⟨some e, s, []⟩
    | none =>
      let vrpsjson := slurmView lib s.slurm vrpsjson
      let r := processData lib.getPrefix2 lib.getASN2 vrpsjson
      ⟨none, { s with exported := ⟨⟨vrpsjson.length, s.lastdata.metadata.buildtime⟩, some vrpsjson⟩ },
        .addVRPs r.1 :: afterInstall s cacheBin r.1 r.2.2.1 r.2.2.2⟩

/-- `mem_afterInstall_updateMetrics`: the metrics `updateFromNewState` reports are the raw
    counts it is given and the deduplicated counts of `vrps`. -/
theorem mem_afterInstall_updateMetrics {s : State Slurm} {cacheBin : String} {vrps : List VRP}
    {c4 c6 a b c₄ c₆ : Nat} {t t' : Time} {file : String}
    (h : .updateMetrics a b c₄ c₆ t t' file ∈ afterInstall s cacheBin vrps c4 c6) :
    a = c4 ∧ b = c6 ∧ (c₄, c₆) = countDup vrps := by
  unfold afterInstall at h
  split_ifs at h <;> simp_all

/-- The calls after `AddVRPs` install nothing. -/
theorem afterInstall_isAddVRPs (s : State Slurm) (cacheBin : String) (vrps : List VRP) (c4 c6 : Nat) :
    ∀ e ∈ afterInstall s cacheBin vrps c4 c6, e.isAddVRPs = false := by
  unfold afterInstall
  split_ifs <;> simp [Effect.isAddVRPs]

/-- `checkBuildtime` passes exactly when `checktime` is off, or the buildtime parses and is at
    most 24 hours before `now`. -/
theorem checkBuildtime_eq_none {checktime : Bool} {buildtime : String} {now : Time} :
    checkBuildtime lib checktime buildtime now = none ↔
      (checktime → ∃ bt, lib.parseRFC3339 buildtime = .ok bt ∧ now.after (bt.add (24 * hour)) = false) := by
  unfold checkBuildtime
  cases checktime
  · simp
  · rcases lib.parseRFC3339 buildtime with e | bt
    · simp
    · cases h : now.after (bt.add (24 * hour)) <;> simp [h]

/-- `updateFromNewState` on a loaded document that passes `checkBuildtime`. -/
theorem updateFromNewState_of_pass {cacheBin : String} {now : ClockReading} {s : State Slurm}
    {d : List VRPJson} (hd : s.lastdata.data = some d)
    (hc : checkBuildtime lib s.checktime s.lastdata.metadata.buildtime now.time = none) :
    updateFromNewState lib cacheBin now s =
      ⟨none, { s with exported := ⟨⟨(slurmView lib s.slurm d).length, s.lastdata.metadata.buildtime⟩,
                                   some (slurmView lib s.slurm d)⟩ },
        .addVRPs (processData lib.getPrefix2 lib.getASN2 (slurmView lib s.slurm d)).1 ::
          afterInstall s cacheBin (processData lib.getPrefix2 lib.getASN2 (slurmView lib s.slurm d)).1
            (processData lib.getPrefix2 lib.getASN2 (slurmView lib s.slurm d)).2.2.1
            (processData lib.getPrefix2 lib.getASN2 (slurmView lib s.slurm d)).2.2.2⟩ := by
  simp only [updateFromNewState, hd, hc]

/-- **`updateFromNewState` installs the SLURM view or changes nothing.**  Either a document
    is loaded and passes `checkBuildtime`, and the call is `updateFromNewState_of_pass`; or
    it leaves the state as it was and calls nothing. -/
theorem updateFromNewState_spec (cacheBin : String) (now : ClockReading) (s : State Slurm) :
    (∃ d, s.lastdata.data = some d ∧
      checkBuildtime lib s.checktime s.lastdata.metadata.buildtime now.time = none) ∨
    ((updateFromNewState lib cacheBin now s).state = s ∧
      (updateFromNewState lib cacheBin now s).effects = []) := by
  unfold updateFromNewState
  rcases hd : s.lastdata.data with _ | d
  · exact .inr ⟨rfl, rfl⟩
  rcases hc : checkBuildtime lib s.checktime s.lastdata.metadata.buildtime now.time with _ | e
  · exact .inl ⟨d, rfl, rfl⟩
  · exact .inr ⟨rfl, rfl⟩

/-- What `updateFromNewState` hands the server is `processData`'s VRPs of the SLURM view of the
    loaded document's entries, under the SLURM configuration of the state, once the document
    has passed the time check. -/
theorem mem_updateFromNewState_addVRPs {file : String} {now : ClockReading} {s : State Slurm}
    {vrps : List VRP} (h : .addVRPs vrps ∈ (updateFromNewState lib file now s).effects) :
    ∃ d, s.lastdata.data = some d ∧
      checkBuildtime lib s.checktime s.lastdata.metadata.buildtime now.time = none ∧
      vrps = (processData lib.getPrefix2 lib.getASN2 (slurmView lib s.slurm d)).1 := by
  rcases updateFromNewState_spec lib file now s with ⟨d, hd, hc⟩ | ⟨-, he⟩
  · rw [updateFromNewState_of_pass lib hd hc] at h
    rcases List.mem_cons.mp h with h | h
    · cases h
      exact ⟨d, hd, hc, rfl⟩
    · exact absurd (afterInstall_isAddVRPs _ _ _ _ _ _ h) (by simp [Effect.isAddVRPs])
  · rw [he] at h
    cases h

/-- `updateFromNewState` writes `exported` only. -/
theorem updateFromNewState_frame (cacheBin : String) (now : ClockReading) (s : State Slurm) :
    (updateFromNewState lib cacheBin now s).state =
      { s with exported := (updateFromNewState lib cacheBin now s).state.exported } := by
  rcases updateFromNewState_spec lib cacheBin now s with ⟨d, hd, hc⟩ | ⟨hs, -⟩
  · rw [updateFromNewState_of_pass lib hd hc]
  · rw [hs]

end

end StayRTR
