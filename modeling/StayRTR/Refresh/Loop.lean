import StayRTR.Refresh.Update

namespace StayRTR

/-!
# The refresh loop — `run`'s startup and the cycles of `routineUpdate`

`run` fetches the cache and the SLURM file once and calls `updateFromNewState` whatever the
fetches returned; then `routineUpdate` loops forever.  Each cycle arms a timer (30 seconds
while `lastchange` is zero, the configured interval after).  It then fetches the SLURM file,
when that is to be refreshed, and the cache, and it calls `updateFromNewState` when either
fetch reports an update.  A run is the startup followed by any number of cycles, each reading
its outside inputs from a `Tick`.

* `run_invariant`: a property of the startup that every cycle keeps holds after every run;
* `fetchFiles_frame`, `fetchFiles_unchanged`: the fetches of a cycle write only the fields
  `updateFile` and `updateSlurm` write, and none when they report no update;
* `routineCycle_reinstalls_identical_files`: a SLURM file that decodes counts as updated
  on every cycle, so a run whose two files never change still reinstalls and notifies on
  every cycle;
* `startup_stale_document_arms_interval`: a first document that `updateFromNewState` rejects
  still sets `lastchange`, so the loop leaves the 30-second timer before anything is
  installed;
* `delay_of_installed`: once a VRP set is installed, the loop arms the configured interval;
* `updateMetrics_filtered_le`: every `UpdateMetrics` of a run reports, per family, no more
  deduplicated (`filtered`) VRPs than raw ones;
* `run_lasthash_decodes_to_loaded`: `lasthash` is always the hash of a body that decodes to
  the loaded document, so a body skipped as identical holds nothing new unless its hash
  collides with that body's;
* `run_notifications_count`: a run notifies the RTR clients once per installed VRP set with
  `-notifications`, never without;
* `run_notify_right_after_addVRPs`: and each notification comes right after the `AddVRPs`
  it announces;
* `routineCycle_slurm_lastRefresh_previous_fetch`: a cycle sets the SLURM file's refresh gauge
  to the clock of the previous cache fetch, since `updateSlurm` runs before `updateFile`
  stamps `lastts`.
-/

/-- The flags the refresh code reads. -/
structure Config where
  /-- `-cache`: where the VRP document is fetched from. -/
  cacheBin : String
  /-- `-slurm`: the SLURM file, empty for none. -/
  slurm : String
  /-- `-slurm.refresh`: refresh the SLURM file along the cache. -/
  slurmRefresh : Bool
  /-- `-refresh`, in seconds. -/
  refreshInterval : Int
  /-- `-checktime`. -/
  timeCheck : Bool
  /-- `-notifications`. -/
  sendNotifs : Bool
  /-- `-metrics.addr`: the metrics are on when it is not empty. -/
  metricsAddr : String
deriving DecidableEq, Repr

/-- What the startup, or one cycle, reads from the outside world. -/
structure Tick where
  /-- `FetchFile` of the SLURM file. -/
  slurmFetch : Except String Fetched
  /-- The clock when `updateFile` starts. -/
  fetchTime : ClockReading
  /-- `FetchFile` of the VRP document. -/
  fileFetch : Except String Fetched
  /-- The clock when `updateFile` stamps `lastchange`. -/
  changeTime : ClockReading
  /-- The clock of `updateFromNewState`'s `checktime` test. -/
  checkTime : ClockReading

/-- The state `run` builds before the first fetch. -/
def State.init {Slurm : Type} (cfg : Config) : State Slurm where
  lastdata := VRPList.empty
  lasthash := none
  lastchange := ⟨0⟩
  lastts := ⟨0⟩
  sendNotifs := cfg.sendNotifs
  exported := VRPList.empty
  slurm := none
  checktime := cfg.timeCheck
  metricsEvent := cfg.metricsAddr != ""

/-- The SLURM file `routineUpdate` refreshes: `-slurm`, unless `-slurm.refresh` is off. -/
def loopSlurmFile (cfg : Config) : String :=
  if cfg.slurm != "" && !cfg.slurmRefresh then "" else cfg.slurm

/-- The timer `routineUpdate` arms before a cycle, in seconds: 30 while `lastchange` is
    zero, the interval after. -/
def delay {Slurm : Type} (interval : Int) (s : State Slurm) : Int :=
  if s.lastchange.IsZero then 30 else interval

section
variable {Slurm : Type} (lib : Lib Slurm)

/-- The SLURM half of a cycle's fetches: `updateSlurm` when there is a SLURM file to
    refresh.  Returns `slurmNotPresentOrUpdated`. -/
def fetchSlurm (slurmFile : String) (t : Tick) (s : State Slurm) : Outcome Slurm Bool :=
  if slurmFile != "" then
    let r := updateSlurm lib slurmFile t.slurmFetch s
    ⟨r.ret.1, r.state, r.effects⟩
  else ⟨false, s, []⟩

/-- The fetches of a `routineUpdate` cycle: the SLURM file, then the cache.  Returns
    `cacheUpdated || slurmNotPresentOrUpdated`. -/
def fetchFiles (file slurmFile : String) (t : Tick) (s : State Slurm) : Outcome Slurm Bool :=
  let r₁ := fetchSlurm lib slurmFile t s
  let r₂ := updateFile lib file t.fetchTime t.fileFetch t.changeTime r₁.state
  ⟨r₂.ret.1 || r₁.ret, r₂.state, r₁.effects ++ r₂.effects⟩

/-- One cycle of `routineUpdate` once its timer has fired: the fetches, then
    `updateFromNewState` when either file was updated.  The state after it, and its calls. -/
def routineCycle (file slurmFile : String) (t : Tick) (s : State Slurm) : State Slurm × List Effect :=
  let r := fetchFiles lib file slurmFile t s
  if r.ret then
    let u := updateFromNewState lib file t.checkTime r.state
    (u.state, r.effects ++ u.effects)
  else (r.state, r.effects)

/-- The fetches of `run`'s startup: `updateFile`, then `updateSlurm` when a SLURM file is
    given. -/
def startupFetch (cfg : Config) (t : Tick) : State Slurm × List Effect :=
  let r₁ := updateFile lib cfg.cacheBin t.fetchTime t.fileFetch t.changeTime (State.init cfg)
  if cfg.slurm != "" then
    let r₂ := updateSlurm lib cfg.slurm t.slurmFetch r₁.state
    (r₂.state, r₁.effects ++ r₂.effects)
  else (r₁.state, r₁.effects)

/-- `run`'s startup: the fetches, then `updateFromNewState` whatever they returned. -/
def startup (cfg : Config) (t : Tick) : State Slurm × List Effect :=
  let r := startupFetch lib cfg t
  let u := updateFromNewState lib cfg.cacheBin t.checkTime r.1
  (u.state, r.2 ++ u.effects)

/-- A run of the program: the startup on `t₀`, then one `routineUpdate` cycle per tick.  The
    state, and every call made, in order. -/
def run (cfg : Config) (t₀ : Tick) (ticks : List Tick) : State Slurm × List Effect :=
  ticks.foldl (fun sl t =>
      let c := routineCycle lib cfg.cacheBin (loopSlurmFile cfg) t sl.1
      (c.1, sl.2 ++ c.2))
    (startup lib cfg t₀)

/-- **Run lemma.**  A property of the state and the calls so far that holds after the
    startup and that every cycle keeps holds after every run. -/
theorem run_invariant (cfg : Config) (I : State Slurm → List Effect → Prop) (t₀ : Tick)
    (ticks : List Tick) (hstart : I (startup lib cfg t₀).1 (startup lib cfg t₀).2)
    (hcycle : ∀ t ∈ ticks, ∀ s log, I s log →
      I (routineCycle lib cfg.cacheBin (loopSlurmFile cfg) t s).1
        (log ++ (routineCycle lib cfg.cacheBin (loopSlurmFile cfg) t s).2)) :
    I (run lib cfg t₀ ticks).1 (run lib cfg t₀ ticks).2 := by
  unfold run
  generalize startup lib cfg t₀ = sl at hstart ⊢
  induction ticks generalizing sl with
  | nil => exact hstart
  | cons t ts ih =>
    exact ih (fun t' ht' => hcycle t' (List.mem_cons_of_mem t ht')) _
      (hcycle t (List.mem_cons_self t ts) _ _ hstart)

/-- A run with one more tick is the run, then the cycle of that tick. -/
theorem run_append_tick (cfg : Config) (t₀ : Tick) (ticks : List Tick) (t : Tick) :
    run lib cfg t₀ (ticks ++ [t]) =
      ((routineCycle lib cfg.cacheBin (loopSlurmFile cfg) t (run lib cfg t₀ ticks).1).1,
        (run lib cfg t₀ ticks).2 ++ (routineCycle lib cfg.cacheBin (loopSlurmFile cfg) t (run lib cfg t₀ ticks).1).2) := by
  simp only [run, List.foldl_append, List.foldl_cons, List.foldl_nil]

/-! ### The fetches -/

/-- The SLURM fetch writes `slurm` only, and nothing when it reports no update; it calls
    nothing but the fetch metrics. -/
theorem fetchSlurm_spec (slurmFile : String) (t : Tick) (s : State Slurm) :
    (fetchSlurm lib slurmFile t s).state = { s with slurm := (fetchSlurm lib slurmFile t s).state.slurm } ∧
    ((fetchSlurm lib slurmFile t s).ret = false → (fetchSlurm lib slurmFile t s).state = s) ∧
    ∀ e ∈ (fetchSlurm lib slurmFile t s).effects, e.isFetchMetric := by
  unfold fetchSlurm
  split_ifs
  · refine ⟨updateSlurm_frame lib _ _ _, fun h => ?_, updateSlurm_effects lib _ _ _⟩
    rcases updateSlurm_spec lib slurmFile t.slurmFetch s with ⟨hr, -⟩ | ⟨-, -, hs⟩
    · simp [hr] at h
    · exact hs
  · exact ⟨rfl, fun _ => rfl, by simp⟩

/-- The fetches of a cycle call nothing but the fetch metrics. -/
theorem fetchFiles_effects (file slurmFile : String) (t : Tick) (s : State Slurm) :
    ∀ e ∈ (fetchFiles lib file slurmFile t s).effects, e.isFetchMetric := by
  intro e he
  rcases List.mem_append.mp he with he | he
  · exact (fetchSlurm_spec lib slurmFile t s).2.2 e he
  · exact updateFile_effects lib _ _ _ _ _ e he

/-- The fetches of the startup write the fields `updateFile` writes and `slurm` only, and call
    nothing but the fetch metrics. -/
theorem startupFetch_spec (cfg : Config) (t : Tick) :
    (startupFetch lib cfg t).1 =
      { (updateFile lib cfg.cacheBin t.fetchTime t.fileFetch t.changeTime (State.init cfg)).state with
        slurm := (startupFetch lib cfg t).1.slurm } ∧
    ∀ e ∈ (startupFetch lib cfg t).2, e.isFetchMetric := by
  unfold startupFetch
  split_ifs
  · refine ⟨updateSlurm_frame lib _ _ _, fun e he => ?_⟩
    rcases List.mem_append.mp he with he | he
    · exact updateFile_effects lib _ _ _ _ _ e he
    · exact updateSlurm_effects lib _ _ _ e he
  · exact ⟨rfl, updateFile_effects lib _ _ _ _ _⟩

/-! ### A SLURM file counts as updated on every cycle -/

/-- The state a run keeps while its two files do not change: the cache's hash and document
    and the SLURM configuration are loaded, the time check is off and notifications are on. -/
def Settled (f : Fetched) (doc : VRPList) (c : Slurm) (s : State Slurm) : Prop :=
  s.lasthash = some (newSHA256 lib f.data) ∧ s.lastdata = doc ∧ s.slurm = some c ∧
    s.checktime = false ∧ s.sendNotifs = true

/-- A cycle on unchanged files from a settled state: it stays settled, and it installs the
    SLURM view of the document again and notifies. -/
theorem routineCycle_of_settled {slurmFile file : String} {t : Tick} {f g : Fetched} {doc : VRPList}
    {d : List VRPJson} {c : Slurm} {s : State Slurm} (hslurm : slurmFile ≠ "")
    (hf : t.fileFetch = .ok f) (hg : t.slurmFetch = .ok g) (hdata : doc.data = some d)
    (hc : lib.decodeJSONSlurm g.data = .ok c) (hs : Settled lib f doc c s) :
    Settled lib f doc c (routineCycle lib file slurmFile t s).1 ∧
    .addVRPs (processData lib.getPrefix2 lib.getASN2 (slurmView lib (some c) d)).1 ∈
      (routineCycle lib file slurmFile t s).2 ∧
    .notifyClientsLatest ∈ (routineCycle lib file slurmFile t s).2 := by
  obtain ⟨hh, rfl, hsl, hct, hsn⟩ := hs
  have hne : (slurmFile != "") = true := bne_iff_ne.mpr hslurm
  have hh₁ : ({ s with slurm := some c } : State Slurm).lasthash = some (newSHA256 lib f.data) := hh
  -- the SLURM file decodes (to the configuration already loaded), the cache is identical
  have hfetch : fetchFiles lib file slurmFile t s =
      ⟨true, { s with slurm := some c, lastts := t.fetchTime.time },
        fetchMetrics slurmFile s.lastts g ++ fetchMetrics file t.fetchTime.time f⟩ := by
    simp only [fetchFiles, fetchSlurm, hne, if_true, updateSlurm_of_decode lib hg hc,
      updateFile_of_identical lib hf hh₁, Bool.or_true]
  have hd₁ : (fetchFiles lib file slurmFile t s).state.lastdata.data = some d := by
    rw [hfetch]; exact hdata
  have hc₁ : checkBuildtime lib (fetchFiles lib file slurmFile t s).state.checktime
      (fetchFiles lib file slurmFile t s).state.lastdata.metadata.buildtime t.checkTime.time = none := by
    rw [hfetch]; simp [hct, checkBuildtime]
  have hret : (fetchFiles lib file slurmFile t s).ret = true := by rw [hfetch]
  simp only [routineCycle, hret, if_true, updateFromNewState_of_pass lib hd₁ hc₁]
  rw [hfetch]
  refine ⟨⟨hh, rfl, rfl, hct, hsn⟩, by simp, ?_⟩
  simp [afterInstall, hsn]

/-- **A run whose files never change still reinstalls on every cycle.**  Take a SLURM file
    that is refreshed, the time check off, notifications on, and a run whose every tick
    fetches the same cache body and the same SLURM body, both of which decode.  Then before
    every cycle the cache's hash is `lasthash` and the SLURM configuration is the one
    loaded, and yet the cycle calls `AddVRPs` and `NotifyClientsLatest` again. -/
theorem routineCycle_reinstalls_identical_files (cfg : Config) (t : Tick) (f g : Fetched)
    (doc : VRPList) (d : List VRPJson) (c : Slurm) (hslurm : cfg.slurm ≠ "")
    (hrefresh : cfg.slurmRefresh = true) (hcheck : cfg.timeCheck = false)
    (hnotify : cfg.sendNotifs = true) (hf : t.fileFetch = .ok f) (hg : t.slurmFetch = .ok g)
    (hd : lib.decode f.data = .ok doc) (hdata : doc.data = some d)
    (hc : lib.decodeJSONSlurm g.data = .ok c) (n : Nat) :
    (run lib cfg t (List.replicate n t)).1.lasthash = some (newSHA256 lib f.data) ∧
    (run lib cfg t (List.replicate n t)).1.slurm = some c ∧
    .addVRPs (processData lib.getPrefix2 lib.getASN2 (slurmView lib (some c) d)).1 ∈
      (routineCycle lib cfg.cacheBin (loopSlurmFile cfg) t (run lib cfg t (List.replicate n t)).1).2 ∧
    .notifyClientsLatest ∈
      (routineCycle lib cfg.cacheBin (loopSlurmFile cfg) t (run lib cfg t (List.replicate n t)).1).2 := by
  have hloop : loopSlurmFile cfg = cfg.slurm := by simp [loopSlurmFile, hrefresh]
  -- the startup decodes both files and leaves the state settled
  have hstart : Settled lib f doc c (startup lib cfg t).1 := by
    have hne : (cfg.slurm != "") = true := bne_iff_ne.mpr hslurm
    have hinit : (State.init cfg : State Slurm).lasthash ≠ some (newSHA256 lib f.data) := by
      simp [State.init]
    have hfetch : (startupFetch lib cfg t).1 = { (State.init cfg : State Slurm) with
        lastts := t.fetchTime.time, lasthash := some (newSHA256 lib f.data),
        lastchange := t.changeTime.time, lastdata := doc, slurm := some c } := by
      simp only [startupFetch, hne, if_true, updateFile_of_decode lib hf hinit hd,
        updateSlurm_of_decode lib hg hc]
    have hd₁ : (startupFetch lib cfg t).1.lastdata.data = some d := by rw [hfetch]; exact hdata
    have hc₁ : checkBuildtime lib (startupFetch lib cfg t).1.checktime
        (startupFetch lib cfg t).1.lastdata.metadata.buildtime t.checkTime.time = none := by
      rw [hfetch]; simp [State.init, hcheck, checkBuildtime]
    simp only [startup, updateFromNewState_of_pass lib hd₁ hc₁]
    rw [hfetch]
    exact ⟨rfl, rfl, rfl, hcheck, hnotify⟩
  have hrun : Settled lib f doc c (run lib cfg t (List.replicate n t)).1 :=
    run_invariant lib cfg (fun s _ => Settled lib f doc c s) t _ hstart fun t' ht' s _ hs => by
      rw [List.eq_of_mem_replicate ht', hloop]
      exact (routineCycle_of_settled lib hslurm hf hg hdata hc hs).1
  rw [hloop]
  obtain ⟨_, hadd, hnot⟩ := routineCycle_of_settled lib hslurm hf hg hdata hc hrun
  exact ⟨hrun.1, hrun.2.2.1, hadd, hnot⟩

/-! ### Inputs to run the loop on -/

/-- A library whose VRP document decodes to no entries and whose SLURM file decodes. -/
def demoLib : Lib Unit where
  sum256 := fun _ => []
  decode := fun _ => .ok ⟨⟨0, ""⟩, some []⟩
  decodeJSONSlurm := fun _ => .ok ()
  filterOnVRPs := fun _ vrps => (vrps, [])
  assertVRPs := fun _ => []
  parseRFC3339 := fun _ => .ok ⟨0⟩
  getPrefix2 := fun _ => .error "invalid prefix"
  getASN2 := fun _ => .error "invalid ASN"

/-- A clock reading 100 hours after Go's zero time. -/
def demoClock : ClockReading := ⟨⟨100 * hour⟩, by decide⟩

/-- A tick whose fetches read a local SLURM file and a local cache. -/
def demoTick : Tick := ⟨.ok ⟨[1], -1, true⟩, demoClock, .ok ⟨[2], -1, true⟩, demoClock, demoClock⟩

/-- The default flags with a SLURM file and without the time check. -/
def demoSlurmConfig : Config := ⟨"vrps.json", "slurm.json", true, 600, false, true, ":9847"⟩

/-- The default flags: the time check on, no SLURM file. -/
def demoConfig : Config := ⟨"vrps.json", "", true, 600, true, true, ":9847"⟩

/-- A library whose cache document lists `10.0.0.0/24` for AS13335 twice. -/
def twiceLib : Lib Unit :=
  { demoLib with
    decode := fun _ => .ok ⟨⟨2, ""⟩, some [⟨"10.0.0.0/24", 24, .num 13335⟩, ⟨"10.0.0.0/24", 24, .num 13335⟩]⟩
    getPrefix2 := fun _ => .ok demoPrefix
    getASN2 := fun _ => .ok 13335 }

/-- A local SLURM file and a cache whose bodies never change, over two cycles. -/
theorem routineCycle_reinstalls_identical_files_demo :
    demoSlurmConfig.slurm ≠ "" ∧ demoSlurmConfig.slurmRefresh = true ∧
    demoSlurmConfig.timeCheck = false ∧ demoSlurmConfig.sendNotifs = true ∧
    demoTick.fileFetch = .ok ⟨[2], -1, true⟩ ∧ demoTick.slurmFetch = .ok ⟨[1], -1, true⟩ ∧
    demoLib.decode [2] = .ok ⟨⟨0, ""⟩, some []⟩ ∧ (⟨⟨0, ""⟩, some []⟩ : VRPList).data = some [] ∧
    demoLib.decodeJSONSlurm [1] = .ok () ∧
    (run demoLib demoSlurmConfig demoTick (List.replicate 2 demoTick)).1.lasthash =
      some (newSHA256 demoLib [2]) ∧
    (run demoLib demoSlurmConfig demoTick (List.replicate 2 demoTick)).1.slurm = some () ∧
    .addVRPs (processData demoLib.getPrefix2 demoLib.getASN2 (slurmView demoLib (some ()) [])).1 ∈
      (routineCycle demoLib demoSlurmConfig.cacheBin (loopSlurmFile demoSlurmConfig) demoTick
        (run demoLib demoSlurmConfig demoTick (List.replicate 2 demoTick)).1).2 ∧
    .notifyClientsLatest ∈
      (routineCycle demoLib demoSlurmConfig.cacheBin (loopSlurmFile demoSlurmConfig) demoTick
        (run demoLib demoSlurmConfig demoTick (List.replicate 2 demoTick)).1).2 :=
  ⟨by decide, rfl, rfl, rfl, rfl, rfl, rfl, rfl, rfl,
    routineCycle_reinstalls_identical_files demoLib demoSlurmConfig demoTick ⟨[2], -1, true⟩
      ⟨[1], -1, true⟩ ⟨⟨0, ""⟩, some []⟩ [] () (by decide) rfl rfl rfl rfl rfl rfl rfl rfl 2⟩

/-! ### Properties every refresh call keeps -/

/-- A property of the state and the calls so far that each call of `updateFile`,
    `updateSlurm` and `updateFromNewState` keeps. -/
structure KeptByCalls (I : State Slurm → List Effect → Prop) : Prop where
  updateFile : ∀ file t₁ fetched t₂ s log, I s log →
    I (updateFile lib file t₁ fetched t₂ s).state (log ++ (updateFile lib file t₁ fetched t₂ s).effects)
  updateSlurm : ∀ file fetched s log, I s log →
    I (updateSlurm lib file fetched s).state (log ++ (updateSlurm lib file fetched s).effects)
  updateFromNewState : ∀ file now s log, I s log →
    I (updateFromNewState lib file now s).state (log ++ (updateFromNewState lib file now s).effects)

/-- A property that each refresh call of a run keeps: `updateFile` and `updateFromNewState`
    on the cache `cacheBin`, `updateSlurm` on any file, each reading the outside world (its
    fetch result, or the clock of the time check) from one of the ticks `T`. -/
structure KeptByRunCalls (cacheBin : String) (T : List Tick) (I : State Slurm → List Effect → Prop) :
    Prop where
  updateFile : ∀ t ∈ T, ∀ t₁ t₂ s log, I s log →
    I (updateFile lib cacheBin t₁ t.fileFetch t₂ s).state
      (log ++ (updateFile lib cacheBin t₁ t.fileFetch t₂ s).effects)
  updateSlurm : ∀ t ∈ T, ∀ file s log, I s log →
    I (updateSlurm lib file t.slurmFetch s).state (log ++ (updateSlurm lib file t.slurmFetch s).effects)
  updateFromNewState : ∀ t ∈ T, ∀ s log, I s log →
    I (updateFromNewState lib cacheBin t.checkTime s).state
      (log ++ (updateFromNewState lib cacheBin t.checkTime s).effects)

/-- A property every refresh call keeps is kept by the calls of any run. -/
theorem KeptByCalls.onRuns {I : State Slurm → List Effect → Prop} (hI : KeptByCalls lib I)
    (cacheBin : String) (T : List Tick) : KeptByRunCalls lib cacheBin T I :=
  ⟨fun t _ t₁ t₂ => hI.updateFile cacheBin t₁ t.fileFetch t₂,
    fun t _ file => hI.updateSlurm file t.slurmFetch,
    fun t _ => hI.updateFromNewState cacheBin t.checkTime⟩

/-- **Run lemma for the calls.**  A property of the initial state that every refresh call
    keeps, when it reads a tick of the run, holds after the run. -/
theorem run_of_keptByRunCalls {I : State Slurm → List Effect → Prop} (cfg : Config) (t₀ : Tick)
    (ticks : List Tick) (hI : KeptByRunCalls lib cfg.cacheBin (t₀ :: ticks) I)
    (hinit : I (State.init cfg) []) :
    I (run lib cfg t₀ ticks).1 (run lib cfg t₀ ticks).2 := by
  have h₀ : t₀ ∈ t₀ :: ticks := List.mem_cons_self _ _
  refine run_invariant lib cfg I t₀ ticks ?_ fun t ht s log hs => ?_
  · -- the startup: `updateFile`, perhaps `updateSlurm`, then `updateFromNewState`
    have h₁ := hI.updateFile t₀ h₀ t₀.fetchTime t₀.changeTime _ _ hinit
    have h₂ : I (startupFetch lib cfg t₀).1 (startupFetch lib cfg t₀).2 := by
      unfold startupFetch
      split_ifs
      · simpa using hI.updateSlurm t₀ h₀ cfg.slurm _ _ h₁
      · simpa using h₁
    exact hI.updateFromNewState t₀ h₀ _ _ h₂
  · -- a cycle: perhaps `updateSlurm`, then `updateFile`, then perhaps `updateFromNewState`
    have ht' : t ∈ t₀ :: ticks := List.mem_cons_of_mem _ ht
    have h₁ : I (fetchSlurm lib (loopSlurmFile cfg) t s).state
        (log ++ (fetchSlurm lib (loopSlurmFile cfg) t s).effects) := by
      unfold fetchSlurm
      split_ifs
      · exact hI.updateSlurm t ht' _ _ _ hs
      · simpa using hs
    have h₂ : I (fetchFiles lib cfg.cacheBin (loopSlurmFile cfg) t s).state
        (log ++ (fetchFiles lib cfg.cacheBin (loopSlurmFile cfg) t s).effects) := by
      simpa [fetchFiles] using hI.updateFile t ht' t.fetchTime t.changeTime _ _ h₁
    by_cases hr : (fetchFiles lib cfg.cacheBin (loopSlurmFile cfg) t s).ret = true
    · simpa [routineCycle, hr] using hI.updateFromNewState t ht' _ _ h₂
    · simpa [routineCycle, hr] using h₂

/-- **Run lemma for the calls.**  A property of the initial state that every refresh call
    keeps holds after every run. -/
theorem run_of_keptByCalls {I : State Slurm → List Effect → Prop} (hI : KeptByCalls lib I)
    (cfg : Config) (hinit : I (State.init cfg) []) (t₀ : Tick) (ticks : List Tick) :
    I (run lib cfg t₀ ticks).1 (run lib cfg t₀ ticks).2 :=
  run_of_keptByRunCalls lib cfg t₀ ticks (KeptByCalls.onRuns lib hI _ _) hinit

/-- The flags `run` copies into the state, which no refresh call writes. -/
def FlagsOf (cfg : Config) (s : State Slurm) : Prop :=
  s.sendNotifs = cfg.sendNotifs ∧ s.checktime = cfg.timeCheck ∧ s.metricsEvent = (cfg.metricsAddr != "")

/-- No refresh call writes the flags `run` copied into the state. -/
theorem keptByCalls_flagsOf (cfg : Config) : KeptByCalls lib fun s (_ : List Effect) => FlagsOf cfg s := by
  refine ⟨fun file t₁ fetched t₂ s _ h => ?_, fun file fetched s _ h => ?_, fun file now s _ h => ?_⟩
  · rw [updateFile_frame]; exact h
  · rw [updateSlurm_frame]; exact h
  · rw [updateFromNewState_frame]; exact h

/-- After every run the state still holds the flags of its configuration. -/
theorem run_flagsOf (cfg : Config) (t₀ : Tick) (ticks : List Tick) : FlagsOf cfg (run lib cfg t₀ ticks).1 :=
  run_of_keptByCalls lib (keptByCalls_flagsOf lib cfg) cfg ⟨rfl, rfl, rfl⟩ t₀ ticks

/-! ### The 30-second timer -/

/-- Once a document has been decoded, or a VRP set installed, `lastchange` is set. -/
def Started (s : State Slurm) (log : List Effect) : Prop :=
  (s.lastdata.data.isSome ∨ ∃ e ∈ log, e.isAddVRPs) → s.lastchange.IsZero = false

/-- Every refresh call keeps `Started`. -/
theorem keptByCalls_started : KeptByCalls lib (@Started Slurm) := by
  refine ⟨fun file t₁ fetched t₂ s log h => ?_, fun file fetched s log h => ?_,
    fun file now s log h => ?_⟩
  · -- `updateFile` either stamps `lastchange` or leaves the document and the time alone
    rcases updateFile_spec lib file t₁ fetched t₂ s with ⟨-, _, _, -, -, -, hs⟩ | ⟨-, -, hs⟩
    · exact fun _ => by rw [hs]; exact t₂.ne_zero
    · rw [hs]
      intro hpre
      refine h (hpre.imp id fun ⟨e, he, hadd⟩ => ⟨e, ?_, hadd⟩)
      rcases List.mem_append.mp he with he | he
      · exact he
      · exact absurd hadd (by rw [Effect.isAddVRPs_of_isFetchMetric (updateFile_effects lib _ _ _ _ _ e he)]; simp)
  · rw [updateSlurm_frame]
    intro hpre
    refine h (hpre.imp id fun ⟨e, he, hadd⟩ => ⟨e, ?_, hadd⟩)
    rcases List.mem_append.mp he with he | he
    · exact he
    · exact absurd hadd (by rw [Effect.isAddVRPs_of_isFetchMetric (updateSlurm_effects lib _ _ _ e he)]; simp)
  · -- `updateFromNewState` installs only a decoded document, and keeps `lastchange`
    rcases updateFromNewState_spec lib file now s with ⟨d, hd, hc⟩ | ⟨hs, he⟩
    · rw [updateFromNewState_of_pass lib hd hc]
      exact fun _ => h (.inl (by simp [hd]))
    · rw [hs, he, List.append_nil]
      exact h

/-- Once a VRP set is installed, the loop arms the configured interval. -/
theorem delay_of_installed (cfg : Config) (t₀ : Tick) (ticks : List Tick)
    (h : ∃ vrps, .addVRPs vrps ∈ (run lib cfg t₀ ticks).2) :
    delay cfg.refreshInterval (run lib cfg t₀ ticks).1 = cfg.refreshInterval := by
  have hstarted := run_of_keptByCalls lib (keptByCalls_started lib) cfg (by simp [Started, State.init, VRPList.empty]) t₀ ticks
  obtain ⟨vrps, hv⟩ := h
  simp [delay, hstarted (.inr ⟨_, hv, rfl⟩)]

/-- The startup of the demo run installs, and the loop then arms the interval. -/
theorem delay_of_installed_demo :
    (∃ vrps, .addVRPs vrps ∈ (run demoLib demoSlurmConfig demoTick []).2) ∧
    delay demoSlurmConfig.refreshInterval (run demoLib demoSlurmConfig demoTick []).1 =
      demoSlurmConfig.refreshInterval :=
  have h : ∃ vrps, .addVRPs vrps ∈ (run demoLib demoSlurmConfig demoTick []).2 := ⟨[], by decide⟩
  ⟨h, delay_of_installed demoLib demoSlurmConfig demoTick [] h⟩

/-- **A rejected first document leaves the 30-second timer.**  With `-checktime` on, let the
    startup decode a first document whose buildtime is more than 24 hours before the clock of
    `updateFromNewState`.  Then the startup installs nothing, yet `updateFile` has set
    `lastchange`, so the loop arms the configured interval. -/
theorem startup_stale_document_arms_interval (cfg : Config) (t : Tick) (f : Fetched)
    (doc : VRPList) (bt : Time) (hcheck : cfg.timeCheck = true) (hf : t.fileFetch = .ok f)
    (hd : lib.decode f.data = .ok doc) (hbt : lib.parseRFC3339 doc.metadata.buildtime = .ok bt)
    (hstale : t.checkTime.time.after (bt.add (24 * hour)) = true) :
    (∀ vrps, .addVRPs vrps ∉ (startup lib cfg t).2) ∧
    delay cfg.refreshInterval (startup lib cfg t).1 = cfg.refreshInterval := by
  have hinit : (State.init cfg : State Slurm).lasthash ≠ some (newSHA256 lib f.data) := by
    simp [State.init]
  obtain ⟨hfetch, hfx⟩ := startupFetch_spec lib cfg t
  rw [updateFile_of_decode lib hf hinit hd] at hfetch
  -- `updateFromNewState` rejects the document, whose buildtime is stale
  have hstop : (updateFromNewState lib cfg.cacheBin t.checkTime (startupFetch lib cfg t).1).state =
      (startupFetch lib cfg t).1 ∧
      (updateFromNewState lib cfg.cacheBin t.checkTime (startupFetch lib cfg t).1).effects = [] := by
    rcases updateFromNewState_spec lib cfg.cacheBin t.checkTime (startupFetch lib cfg t).1 with
      ⟨d, -, hc⟩ | h
    · rw [checkBuildtime_eq_none, hfetch] at hc
      obtain ⟨bt', hbt', hafter⟩ := hc hcheck
      have hbt'' : lib.parseRFC3339 doc.metadata.buildtime = .ok bt' := hbt'
      rw [hbt] at hbt''
      cases hbt''
      rw [hstale] at hafter
      cases hafter
    · exact h
  refine ⟨fun vrps hv => ?_, ?_⟩
  · simp only [startup, hstop.2, List.append_nil] at hv
    simpa [Effect.isFetchMetric] using hfx _ hv
  · simp only [startup, hstop.1, delay]
    rw [hfetch]
    simp [t.changeTime.ne_zero]

/-- A first document built at Go's zero time, checked 100 hours later. -/
theorem startup_stale_document_arms_interval_demo :
    demoConfig.timeCheck = true ∧ demoTick.fileFetch = .ok ⟨[2], -1, true⟩ ∧
    demoLib.decode [2] = .ok ⟨⟨0, ""⟩, some []⟩ ∧ demoLib.parseRFC3339 "" = .ok ⟨0⟩ ∧
    demoTick.checkTime.time.after ((⟨0⟩ : Time).add (24 * hour)) = true ∧
    (∀ vrps, .addVRPs vrps ∉ (startup demoLib demoConfig demoTick).2) ∧
    delay demoConfig.refreshInterval (startup demoLib demoConfig demoTick).1 = demoConfig.refreshInterval :=
  ⟨rfl, rfl, rfl, rfl, by decide,
    startup_stale_document_arms_interval demoLib demoConfig demoTick ⟨[2], -1, true⟩ ⟨⟨0, ""⟩, some []⟩
      ⟨0⟩ rfl rfl rfl rfl (by decide)⟩

/-! ### The gauges -/

/-- Every `UpdateMetrics` among the calls reports, per family, no more deduplicated VRPs than
    raw ones. -/
def GaugesOrdered (log : List Effect) : Prop :=
  ∀ a b c₄ c₆ ch rf file, .updateMetrics a b c₄ c₆ ch rf file ∈ log → c₄ ≤ a ∧ c₆ ≤ b

/-- Calls whose `UpdateMetrics` are ordered keep the whole log ordered. -/
theorem gaugesOrdered_append {log fx : List Effect} (h : GaugesOrdered log)
    (hfx : ∀ a b c₄ c₆ ch rf file, .updateMetrics a b c₄ c₆ ch rf file ∈ fx → c₄ ≤ a ∧ c₆ ≤ b) :
    GaugesOrdered (log ++ fx) := fun a b c₄ c₆ ch rf file hm =>
  (List.mem_append.mp hm).elim (h a b c₄ c₆ ch rf file) (hfx a b c₄ c₆ ch rf file)

/-- Every refresh call keeps the `UpdateMetrics` calls ordered. -/
theorem keptByCalls_gaugesOrdered : KeptByCalls lib (fun (_ : State Slurm) log => GaugesOrdered log) := by
  refine ⟨fun file t₁ fetched t₂ s log h => gaugesOrdered_append h fun a b c₄ c₆ ch rf f hm => ?_,
    fun file fetched s log h => gaugesOrdered_append h fun a b c₄ c₆ ch rf f hm => ?_,
    fun file now s log h => gaugesOrdered_append h fun a b c₄ c₆ ch rf f hm => ?_⟩
  · simpa [Effect.isFetchMetric] using updateFile_effects lib _ _ _ _ _ _ hm
  · simpa [Effect.isFetchMetric] using updateSlurm_effects lib _ _ _ _ hm
  · rcases updateFromNewState_spec lib file now s with ⟨d, hd, hc⟩ | ⟨-, he⟩
    · rw [updateFromNewState_of_pass lib hd hc] at hm
      rcases List.mem_cons.mp hm with hm | hm
      · cases hm
      obtain ⟨rfl, rfl, hdup⟩ := mem_afterInstall_updateMetrics hm
      rw [Prod.mk.injEq] at hdup
      rw [hdup.1, hdup.2]
      exact countDup_processData_le _ _ _
    · simp [he] at hm

/-- **The `filtered` gauges never exceed the `unfiltered` ones.**  In every run, every call of
    `UpdateMetrics` passes, for each family, at most as many deduplicated VRPs as raw ones.
    So once a call has returned, the gauges it set are ordered; a scrape running alongside
    the call can still see its four `Set`s half done. -/
theorem updateMetrics_filtered_le (cfg : Config) (t₀ : Tick) (ticks : List Tick) :
    ∀ a b c₄ c₆ ch rf file, .updateMetrics a b c₄ c₆ ch rf file ∈ (run lib cfg t₀ ticks).2 →
      c₄ ≤ a ∧ c₆ ≤ b :=
  run_of_keptByCalls lib (keptByCalls_gaugesOrdered lib) cfg (by simp [GaugesOrdered]) t₀ ticks

/-- The document of `twiceLib` lists one VRP twice: two raw IPv4 entries, one deduplicated. -/
theorem updateMetrics_filtered_le_demo :
    .updateMetrics 2 0 1 0 demoClock.time demoClock.time "vrps.json" ∈
      (run twiceLib demoSlurmConfig demoTick []).2 ∧ 1 ≤ 2 ∧ 0 ≤ 0 :=
  have h : .updateMetrics 2 0 1 0 demoClock.time demoClock.time "vrps.json" ∈
      (run twiceLib demoSlurmConfig demoTick []).2 := by decide
  ⟨h, updateMetrics_filtered_le twiceLib demoSlurmConfig demoTick [] 2 0 1 0 _ _ _ h⟩


/-! ### The stored hash belongs to the loaded document -/

/-- `lasthash`, once set, is the hash of a body that decodes to `lastdata`. -/
def HashOfLoaded (s : State Slurm) : Prop :=
  ∀ h, s.lasthash = some h → ∃ body, newSHA256 lib body = h ∧ decodeJSON lib body = .ok s.lastdata

/-- Every refresh call keeps `lasthash` the hash of a body of the loaded document. -/
theorem keptByCalls_hashOfLoaded : KeptByCalls lib fun s (_ : List Effect) => HashOfLoaded lib s := by
  refine ⟨fun file t₁ fetched t₂ s _ h => ?_, fun file fetched s _ h => ?_, fun file now s _ h => ?_⟩
  · -- `updateFile` writes the hash and the document of one body together, or neither
    rcases updateFile_spec lib file t₁ fetched t₂ s with ⟨-, f, d, -, -, hd, hs⟩ | ⟨-, -, hs⟩
    · rw [hs]
      rintro _ ⟨⟩
      exact ⟨f.data, rfl, hd⟩
    · rw [hs]; exact h
  · rw [updateSlurm_frame]; exact h
  · rw [updateFromNewState_frame]; exact h

/-- **Skipping an identical file loses nothing but through a collision.**  In every state a
    run reaches, `lasthash`, once set, is the hash of a body that decodes to the loaded
    document.  So whenever `updateFile` then skips a fetched body as identical to the previous
    version, that body decodes to the loaded document, or a different body with the same hash
    does: a collision of `newSHA256`. -/
theorem run_lasthash_decodes_to_loaded (cfg : Config) (t₀ : Tick) (ticks : List Tick) :
    HashOfLoaded lib (run lib cfg t₀ ticks).1 ∧
    ∀ file t₁ t₂ (f : Fetched),
      (updateFile lib file t₁ (.ok f) t₂ (run lib cfg t₀ ticks).1).ret.2 = some (.identicalFile file) →
      decodeJSON lib f.data = .ok (run lib cfg t₀ ticks).1.lastdata ∨
      ∃ body, body ≠ f.data ∧ newSHA256 lib body = newSHA256 lib f.data ∧
        decodeJSON lib body = .ok (run lib cfg t₀ ticks).1.lastdata := by
  have hinv : HashOfLoaded lib (run lib cfg t₀ ticks).1 :=
    run_of_keptByCalls lib (keptByCalls_hashOfLoaded lib) cfg (by simp [HashOfLoaded, State.init]) t₀ ticks
  refine ⟨hinv, fun file t₁ t₂ f h => ?_⟩
  obtain ⟨body, hbody, hdec⟩ := hinv _ ((updateFile_identical_iff lib file t₁ rfl t₂ _).mp h)
  by_cases hb : body = f.data
  · exact .inl (hb ▸ hdec)
  · exact .inr ⟨body, hb, hbody, hdec⟩

/-- `demoLib` with the identity as its hash, which has no collisions. -/
def hashLib : Lib Unit := { demoLib with sum256 := id }

/-- `demoLib`'s hash is constant: after the startup loaded the body `[2]`, the different body
    `[5]` is skipped as identical. -/
theorem run_lasthash_decodes_to_loaded_demo :
    (updateFile demoLib "vrps.json" demoClock (.ok ⟨[5], -1, true⟩) demoClock
      (run demoLib demoConfig demoTick []).1).ret.2 = some (.identicalFile "vrps.json") ∧
    (decodeJSON demoLib [5] = .ok (run demoLib demoConfig demoTick []).1.lastdata ∨
      ∃ body, body ≠ [5] ∧ newSHA256 demoLib body = newSHA256 demoLib [5] ∧
        decodeJSON demoLib body = .ok (run demoLib demoConfig demoTick []).1.lastdata) :=
  have h : (updateFile demoLib "vrps.json" demoClock (.ok ⟨[5], -1, true⟩) demoClock
      (run demoLib demoConfig demoTick []).1).ret.2 = some (.identicalFile "vrps.json") := by decide
  ⟨h, (run_lasthash_decodes_to_loaded demoLib demoConfig demoTick []).2 "vrps.json" demoClock demoClock
    ⟨[5], -1, true⟩ h⟩

/-! ### One notification per install -/

/-- `sendNotifs` is the flag `b`, and the calls so far hold one `NotifyClientsLatest` per
    `AddVRPs` when it is on, none when it is off. -/
def NotifiesPerInstall (b : Bool) (s : State Slurm) (log : List Effect) : Prop :=
  s.sendNotifs = b ∧
    log.count .notifyClientsLatest = if b then log.countP Effect.isAddVRPs else 0

/-- An install notifies once with `-notifications`, never without. -/
theorem count_notify_afterInstall (s : State Slurm) (cacheBin : String) (vrps : List VRP) (c4 c6 : Nat) :
    (afterInstall s cacheBin vrps c4 c6).count .notifyClientsLatest = if s.sendNotifs then 1 else 0 := by
  unfold afterInstall
  split_ifs <;> simp

/-- Calls with no `AddVRPs` count none. -/
theorem countP_isAddVRPs_eq_zero {fx : List Effect} (h : ∀ e ∈ fx, e.isAddVRPs = false) :
    fx.countP Effect.isAddVRPs = 0 :=
  List.countP_eq_zero.mpr fun e he => by simp [h e he]

/-- Calls that only record fetches keep the count, when the flag is kept. -/
theorem notifiesPerInstall_append_fetchMetrics {b : Bool} {s s' : State Slurm} {log fx : List Effect}
    (h : NotifiesPerInstall b s log) (hs : s'.sendNotifs = s.sendNotifs)
    (hfx : ∀ e ∈ fx, e.isFetchMetric) : NotifiesPerInstall b s' (log ++ fx) := by
  have hn : fx.count .notifyClientsLatest = 0 :=
    List.count_eq_zero.mpr fun hm => by simpa [Effect.isFetchMetric] using hfx _ hm
  have ha := countP_isAddVRPs_eq_zero fun e he => Effect.isAddVRPs_of_isFetchMetric (hfx e he)
  obtain ⟨hb, hc⟩ := h
  refine ⟨hs.trans hb, ?_⟩
  rw [List.count_append, List.countP_append, hn, ha, hc]
  simp

/-- Every refresh call keeps one notification per install. -/
theorem keptByCalls_notifiesPerInstall (b : Bool) : KeptByCalls lib (NotifiesPerInstall b) := by
  refine ⟨fun file t₁ fetched t₂ s log h => ?_, fun file fetched s log h => ?_,
    fun file now s log h => ?_⟩
  · exact notifiesPerInstall_append_fetchMetrics h (by rw [updateFile_frame])
      (updateFile_effects lib _ _ _ _ _)
  · exact notifiesPerInstall_append_fetchMetrics h (by rw [updateSlurm_frame])
      (updateSlurm_effects lib _ _ _)
  · -- an install adds one `AddVRPs`, and one `NotifyClientsLatest` when the flag is on
    rcases updateFromNewState_spec lib file now s with ⟨d, hd, hc⟩ | ⟨hs, he⟩
    · obtain ⟨hb, hcount⟩ := h
      rw [updateFromNewState_of_pass lib hd hc]
      refine ⟨hb, ?_⟩
      rw [List.count_append, List.countP_append, List.count_cons, List.countP_cons,
        count_notify_afterInstall, countP_isAddVRPs_eq_zero (afterInstall_isAddVRPs _ _ _ _ _), hcount, hb]
      cases b <;> simp [Effect.isAddVRPs]
    · rw [hs, he, List.append_nil]; exact h

/-- **One Serial Notify per installed VRP set.**  In every run, the RTR clients are notified
    exactly once per `AddVRPs` when `-notifications` is on, and never when it is off. -/
theorem run_notifications_count (cfg : Config) (t₀ : Tick) (ticks : List Tick) :
    (run lib cfg t₀ ticks).2.count .notifyClientsLatest =
      if cfg.sendNotifs then (run lib cfg t₀ ticks).2.countP Effect.isAddVRPs else 0 :=
  (run_of_keptByCalls lib (keptByCalls_notifiesPerInstall lib cfg.sendNotifs) cfg
    ⟨rfl, by simp⟩ t₀ ticks).2

/-- Two consecutive calls where a `NotifyClientsLatest` second means an `AddVRPs` first. -/
def NotifyFollows (a b : Effect) : Prop := b = .notifyClientsLatest → a.isAddVRPs = true

/-- Every `NotifyClientsLatest` of `log` comes right after an `AddVRPs`. -/
def NotifiesAfterAdd (log : List Effect) : Prop :=
  log.Chain' NotifyFollows ∧ log.head? ≠ some .notifyClientsLatest

/-- Two logs with their notifications after installs, one after the other, still have them so. -/
theorem NotifiesAfterAdd.append {log fx : List Effect} (h : NotifiesAfterAdd log)
    (hfx : NotifiesAfterAdd fx) : NotifiesAfterAdd (log ++ fx) := by
  refine ⟨List.chain'_append.mpr ⟨h.1, hfx.1, fun _ _ y hy hn => ?_⟩, ?_⟩
  · subst hn
    exact absurd hy hfx.2
  · cases log with
    | nil => exact hfx.2
    | cons e log => exact h.2

/-- A log with no notification has its notifications after installs. -/
theorem notifiesAfterAdd_of_not_mem {fx : List Effect} (h : .notifyClientsLatest ∉ fx) :
    NotifiesAfterAdd fx := by
  have hp : fx.Pairwise NotifyFollows :=
    List.pairwise_of_forall_mem_list fun _ _ _ hb hn => absurd (hn ▸ hb) h
  exact ⟨hp.chain', fun hh => h (List.mem_of_mem_head? hh)⟩

/-- The fetch metrics hold no notification. -/
theorem notifiesAfterAdd_of_fetchMetrics {fx : List Effect} (h : ∀ e ∈ fx, e.isFetchMetric) :
    NotifiesAfterAdd fx :=
  notifiesAfterAdd_of_not_mem fun hm => by simpa [Effect.isFetchMetric] using h _ hm

/-- An install notifies, if at all, right after its `AddVRPs`. -/
theorem notifiesAfterAdd_install (s : State Slurm) (cacheBin : String) (vrps : List VRP) (c4 c6 : Nat) :
    NotifiesAfterAdd (.addVRPs vrps :: afterInstall s cacheBin vrps c4 c6) := by
  unfold NotifiesAfterAdd NotifyFollows afterInstall
  split_ifs <;> simp [Effect.isAddVRPs]

/-- Every refresh call keeps each notification right after an install. -/
theorem keptByCalls_notifiesAfterAdd : KeptByCalls lib fun (_ : State Slurm) log => NotifiesAfterAdd log := by
  refine ⟨fun file t₁ fetched t₂ s log h => h.append ?_, fun file fetched s log h => h.append ?_,
    fun file now s log h => h.append ?_⟩
  · exact notifiesAfterAdd_of_fetchMetrics (updateFile_effects lib _ _ _ _ _)
  · exact notifiesAfterAdd_of_fetchMetrics (updateSlurm_effects lib _ _ _)
  · rcases updateFromNewState_spec lib file now s with ⟨d, hd, hc⟩ | ⟨-, he⟩
    · rw [updateFromNewState_of_pass lib hd hc]
      exact notifiesAfterAdd_install _ _ _ _ _
    · rw [he]
      exact notifiesAfterAdd_of_not_mem (List.not_mem_nil _)

/-- **Clients are notified only right after an install.**  In every run, each
    `NotifyClientsLatest` comes right after an `AddVRPs`: the RTR clients are never sent a
    Serial Notify before the server holds the new VRP set. -/
theorem run_notify_right_after_addVRPs (cfg : Config) (t₀ : Tick) (ticks : List Tick)
    (l₁ l₂ : List Effect) (h : (run lib cfg t₀ ticks).2 = l₁ ++ .notifyClientsLatest :: l₂) :
    ∃ vrps, l₁.getLast? = some (.addVRPs vrps) := by
  obtain ⟨hchain, hhead⟩ := run_of_keptByCalls lib (keptByCalls_notifiesAfterAdd lib) cfg
    ⟨List.chain'_nil, by simp⟩ t₀ ticks
  rw [h] at hchain hhead
  cases hl : l₁.getLast? with
  | none =>
    rw [List.getLast?_eq_none_iff] at hl
    subst hl
    exact absurd rfl hhead
  | some a =>
    have hfollows := (List.chain'_append.mp hchain).2.2 a hl _ rfl rfl
    cases a <;> first | exact ⟨_, rfl⟩ | cases hfollows

/-- The startup of the demo run records both fetches, installs, notifies and updates the
    metrics. -/
theorem run_notify_right_after_addVRPs_demo :
    (run demoLib demoSlurmConfig demoTick []).2 =
      [.lastRefresh "vrps.json" demoClock.time.unixSeconds, .lastRefresh "slurm.json" demoClock.time.unixSeconds,
        .addVRPs []] ++ .notifyClientsLatest :: [.updateMetrics 0 0 0 0 demoClock.time demoClock.time "vrps.json"] ∧
    ∃ vrps, ([.lastRefresh "vrps.json" demoClock.time.unixSeconds,
      .lastRefresh "slurm.json" demoClock.time.unixSeconds, .addVRPs []] : List Effect).getLast? = some (.addVRPs vrps) :=
  have h : (run demoLib demoSlurmConfig demoTick []).2 =
      [.lastRefresh "vrps.json" demoClock.time.unixSeconds, .lastRefresh "slurm.json" demoClock.time.unixSeconds,
        .addVRPs []] ++ .notifyClientsLatest :: [.updateMetrics 0 0 0 0 demoClock.time demoClock.time "vrps.json"] := by
    decide
  ⟨h, run_notify_right_after_addVRPs demoLib demoSlurmConfig demoTick [] _ _ h⟩

/-! ### The refresh gauges -/

/-- The fetches of a cycle leave `lastts` at the clock `updateFile` read. -/
theorem fetchFiles_lastts (file slurmFile : String) (t : Tick) (s : State Slurm) :
    (fetchFiles lib file slurmFile t s).state.lastts = t.fetchTime.time := by
  simp only [fetchFiles]
  rw [updateFile_frame]

/-- After a cycle, `lastts` is the clock of its cache fetch. -/
theorem routineCycle_lastts (file slurmFile : String) (t : Tick) (s : State Slurm) :
    (routineCycle lib file slurmFile t s).1.lastts = t.fetchTime.time := by
  unfold routineCycle
  dsimp only
  split_ifs
  · rw [updateFromNewState_frame]; exact fetchFiles_lastts lib _ _ _ _
  · exact fetchFiles_lastts lib _ _ _ _

/-- After the startup, `lastts` is the clock of its cache fetch. -/
theorem startup_lastts (cfg : Config) (t : Tick) : (startup lib cfg t).1.lastts = t.fetchTime.time := by
  simp only [startup]
  rw [updateFromNewState_frame, (startupFetch_spec lib cfg t).1, updateFile_frame]

/-- After a run, `lastts` is the clock of the last cache fetch: the last tick's, or the
    startup's. -/
theorem run_lastts (cfg : Config) (t₀ : Tick) (ticks : List Tick) :
    (run lib cfg t₀ ticks).1.lastts = (ticks.getLastD t₀).fetchTime.time := by
  unfold run
  have h := startup_lastts lib cfg t₀
  generalize startup lib cfg t₀ = sl at h ⊢
  induction ticks generalizing sl t₀ with
  | nil => exact h
  | cons t ts ih =>
    rw [List.foldl_cons, List.getLastD_cons]
    exact ih t _ (routineCycle_lastts lib _ _ t _)

/-- The calls of a cycle's fetches are calls of the cycle. -/
theorem mem_routineCycle_of_fetchFiles {file slurmFile : String} {t : Tick} {s : State Slurm} {e : Effect}
    (h : e ∈ (fetchFiles lib file slurmFile t s).effects) : e ∈ (routineCycle lib file slurmFile t s).2 := by
  unfold routineCycle
  dsimp only
  split_ifs
  · exact List.mem_append_left _ h
  · exact h

/-- **The SLURM file's refresh gauge lags one cycle.**  In a cycle that refreshes the SLURM
    file, `updateSlurm` runs before `updateFile` stamps `lastts`.  So when both fetches report
    a refresh, the SLURM file's `LastRefresh` is set to the clock of the previous cache fetch
    (the last tick's, or the startup's), and the cache's to the clock of this cycle's. -/
theorem routineCycle_slurm_lastRefresh_previous_fetch (cfg : Config) (t₀ : Tick) (ticks : List Tick)
    (t : Tick) (g f : Fetched) (hslurm : loopSlurmFile cfg ≠ "") (hg : t.slurmFetch = .ok g)
    (hgr : g.lastrefresh = true) (hf : t.fileFetch = .ok f) (hfr : f.lastrefresh = true) :
    .lastRefresh (loopSlurmFile cfg) (ticks.getLastD t₀).fetchTime.time.unixSeconds ∈
      (routineCycle lib cfg.cacheBin (loopSlurmFile cfg) t (run lib cfg t₀ ticks).1).2 ∧
    .lastRefresh cfg.cacheBin t.fetchTime.time.unixSeconds ∈
      (routineCycle lib cfg.cacheBin (loopSlurmFile cfg) t (run lib cfg t₀ ticks).1).2 := by
  have hne : (loopSlurmFile cfg != "") = true := bne_iff_ne.mpr hslurm
  have hfx : (fetchFiles lib cfg.cacheBin (loopSlurmFile cfg) t (run lib cfg t₀ ticks).1).effects =
      fetchMetrics (loopSlurmFile cfg) (ticks.getLastD t₀).fetchTime.time g ++
        fetchMetrics cfg.cacheBin t.fetchTime.time f := by
    simp only [fetchFiles, fetchSlurm, hne, if_true, updateSlurm_effects_of_ok lib hg,
      updateFile_effects_of_ok lib hf, run_lastts]
  constructor <;> apply mem_routineCycle_of_fetchFiles <;> rw [hfx] <;> simp [fetchMetrics, hgr, hfr]

/-- A clock reading 200 hours after Go's zero time. -/
def laterClock : ClockReading := ⟨⟨200 * hour⟩, by decide⟩

/-- `demoTick`, with the cache fetched at `laterClock`. -/
def laterTick : Tick := { demoTick with fetchTime := laterClock }

/-- A second cycle, 100 hours after the first, with both files refreshed. -/
theorem routineCycle_slurm_lastRefresh_previous_fetch_demo :
    loopSlurmFile demoSlurmConfig ≠ "" ∧ laterTick.slurmFetch = .ok ⟨[1], -1, true⟩ ∧
    (⟨[1], -1, true⟩ : Fetched).lastrefresh = true ∧ laterTick.fileFetch = .ok ⟨[2], -1, true⟩ ∧
    (⟨[2], -1, true⟩ : Fetched).lastrefresh = true ∧
    .lastRefresh (loopSlurmFile demoSlurmConfig) demoClock.time.unixSeconds ∈
      (routineCycle demoLib demoSlurmConfig.cacheBin (loopSlurmFile demoSlurmConfig) laterTick
        (run demoLib demoSlurmConfig demoTick []).1).2 ∧
    .lastRefresh demoSlurmConfig.cacheBin laterClock.time.unixSeconds ∈
      (routineCycle demoLib demoSlurmConfig.cacheBin (loopSlurmFile demoSlurmConfig) laterTick
        (run demoLib demoSlurmConfig demoTick []).1).2 :=
  ⟨by decide, rfl, rfl, rfl, rfl,
    routineCycle_slurm_lastRefresh_previous_fetch demoLib demoSlurmConfig demoTick [] laterTick
      ⟨[1], -1, true⟩ ⟨[2], -1, true⟩ (by decide) rfl rfl rfl rfl⟩

end

end StayRTR
