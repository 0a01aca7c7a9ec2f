import StayRTR.Refresh.Snapshot

namespace StayRTR

/-!
# What the RTR server is given — provenance and progress

Every VRP set a run hands the RTR server comes from the outside world.  It is
`processData`'s output on the SLURM view of a document that `decodeJSON` made of a cache body
fetched during the run.  The SLURM configuration is none, or one `DecodeJSONSlurm` made of a
SLURM body fetched during the run.  With `-checktime`, the document was fresh at the clock of
a check of the run.  Conversely, a new document gets there: a cycle that fetches a body whose
hash is not `lasthash`, and which decodes to a document with entries that passes the time
check, leaves its SLURM view on the server and in the export.

* `Provenance`: the loaded document and the SLURM configuration were fetched during the run,
  and every VRP set installed so far is `Derived`; every refresh call keeps it, reading the
  outside world from a tick of the run (`keptByRunCalls_provenance`);
* `run_addVRPs_derived`: every `AddVRPs` of a run is derived from the run's ticks;
* `run_addVRPs_valid_keys_distinct`: so every set the server is handed is made of valid
  triples with distinct dedup keys;
* `run_installs_new_document`: a new, fresh document is served after the cycle that fetches
  it, whatever the run before it;
* `run_slurm_fixed_at_startup`: without `-slurm.refresh`, the SLURM configuration the startup
  left filters every install of the run, and it is none when the startup could not load it.
-/

section
variable {Slurm : Type} (lib : Lib Slurm) (T : List Tick)

/-! ### Where a VRP set comes from -/

/-- `doc` is what `decodeJSON` made of a cache body fetched at a tick of `T`. -/
def FetchedDoc (doc : VRPList) : Prop :=
  ∃ t ∈ T, ∃ f, t.fileFetch = .ok f ∧ lib.decode f.data = .ok doc

/-- No SLURM configuration, or one `DecodeJSONSlurm` made of a SLURM body fetched at a tick
    of `T`. -/
def FetchedSlurm : Option Slurm → Prop
  | none => True
  | some c => ∃ t ∈ T, ∃ g, t.slurmFetch = .ok g ∧ lib.decodeJSONSlurm g.data = .ok c

/-- A VRP set derived from the ticks `T`: `processData`'s output on the SLURM view of the
    entries of a fetched document, under a fetched SLURM configuration or none; with
    `checktime`, the document's buildtime is at most 24 hours before the clock of a tick. -/
def Derived (checktime : Bool) (vrps : List VRP) : Prop :=
  ∃ doc d slurm, FetchedDoc lib T doc ∧ doc.data = some d ∧ FetchedSlurm lib T slurm ∧
    (checktime = true → ∃ t ∈ T, ∃ bt, lib.parseRFC3339 doc.metadata.buildtime = .ok bt ∧
      t.checkTime.time.after (bt.add (24 * hour)) = false) ∧
    vrps = (processData lib.getPrefix2 lib.getASN2 (slurmView lib slurm d)).1

/-- The loaded document is the empty one or a fetched one, the SLURM configuration is a
    fetched one or none, and every VRP set installed so far is derived. -/
def Provenance (s : State Slurm) (log : List Effect) : Prop :=
  (s.lastdata = VRPList.empty ∨ FetchedDoc lib T s.lastdata) ∧ FetchedSlurm lib T s.slurm ∧
    ∀ vrps, .addVRPs vrps ∈ log → Derived lib T s.checktime vrps

/-- The fetch metrics hold no `AddVRPs`. -/
theorem mem_of_mem_append_fetchMetrics {log fx : List Effect} {vrps : List VRP}
    (hfx : ∀ e ∈ fx, e.isFetchMetric) (h : .addVRPs vrps ∈ log ++ fx) : .addVRPs vrps ∈ log :=
  (List.mem_append.mp h).resolve_right fun hm => by simpa [Effect.isFetchMetric] using hfx _ hm

/-- A call that only records fetches keeps the installs derived, when it keeps `checktime`. -/
theorem provenance_append_fetchMetrics {s s' : State Slurm} {log fx : List Effect}
    (h : Provenance lib T s log) (hfx : ∀ e ∈ fx, e.isFetchMetric) (hct : s'.checktime = s.checktime)
    (hdoc : s'.lastdata = VRPList.empty ∨ FetchedDoc lib T s'.lastdata) (hslurm : FetchedSlurm lib T s'.slurm) :
    Provenance lib T s' (log ++ fx) :=
  ⟨hdoc, hslurm, fun vrps hv => hct ▸ h.2.2 vrps (mem_of_mem_append_fetchMetrics hfx hv)⟩

/-- Every refresh call of a run keeps the provenance of what it installs. -/
theorem keptByRunCalls_provenance (file : String) : KeptByRunCalls lib file T (Provenance lib T) := by
  refine ⟨fun t ht t₁ t₂ s log h => ?_, fun t ht file s log h => ?_, fun t ht s log h => ?_⟩
  · -- `updateFile` loads a document decoded from the tick's cache body, or nothing
    refine provenance_append_fetchMetrics lib T h (updateFile_effects lib _ _ _ _ _)
      (by rw [updateFile_frame]) ?_ (by rw [updateFile_frame]; exact h.2.1)
    rcases updateFile_spec lib file t₁ t.fileFetch t₂ s with ⟨-, f, d, hf, -, hd, hs⟩ | ⟨-, -, hs⟩ <;>
      rw [hs]
    · exact .inr ⟨t, ht, f, hf, hd⟩
    · exact h.1
  · -- `updateSlurm` loads a configuration decoded from the tick's SLURM body, or nothing
    refine provenance_append_fetchMetrics lib T h (updateSlurm_effects lib _ _ _)
      (by rw [updateSlurm_frame]) (by rw [updateSlurm_frame]; exact h.1) ?_
    rcases updateSlurm_spec lib file t.slurmFetch s with ⟨-, g, c, hg, hc, hs⟩ | ⟨-, -, hs⟩ <;> rw [hs]
    · exact ⟨t, ht, g, hg, hc⟩
    · exact h.2.1
  · -- `updateFromNewState` installs the view of the loaded document at the tick's clock
    obtain ⟨hdoc, hslurm, hlog⟩ := h
    rw [updateFromNewState_frame]
    refine ⟨hdoc, hslurm, fun vrps hv => ?_⟩
    rcases List.mem_append.mp hv with hv | hv
    · exact hlog vrps hv
    obtain ⟨d, hd, hc, rfl⟩ := mem_updateFromNewState_addVRPs lib hv
    have hne : s.lastdata ≠ VRPList.empty := fun h => by simp [h, VRPList.empty] at hd
    refine ⟨s.lastdata, d, s.slurm, hdoc.resolve_left hne, hd, hslurm, fun hct => ?_, rfl⟩
    obtain ⟨bt, hbt, hafter⟩ := (checkBuildtime_eq_none lib).mp hc hct
    exact ⟨t, ht, bt, hbt, hafter⟩

/-- Provenance holds after every run, over the run's ticks. -/
theorem run_provenance (cfg : Config) (t₀ : Tick) (ticks : List Tick) :
    Provenance lib (t₀ :: ticks) (run lib cfg t₀ ticks).1 (run lib cfg t₀ ticks).2 :=
  run_of_keptByRunCalls lib cfg t₀ ticks (keptByRunCalls_provenance lib _ _) ⟨.inl rfl, trivial, by simp⟩

/-- **The server is only given what the run fetched.**  Every VRP set a run hands the RTR
    server is `processData`'s output on the SLURM view of the entries of a document decoded
    from a cache body fetched at one of the run's ticks, under no SLURM configuration or one
    decoded from a SLURM body fetched at one of them; with `-checktime`, the document's
    buildtime was at most 24 hours before the clock of one of them. -/
theorem run_addVRPs_derived (cfg : Config) (t₀ : Tick) (ticks : List Tick) :
    ∀ vrps, .addVRPs vrps ∈ (run lib cfg t₀ ticks).2 → Derived lib (t₀ :: ticks) cfg.timeCheck vrps := by
  rw [← (run_flagsOf lib cfg t₀ ticks).2.1]
  exact (run_provenance lib cfg t₀ ticks).2.2

/-- The document of `twiceLib` lists one VRP twice; the server gets it once. -/
theorem run_addVRPs_derived_demo :
    .addVRPs [⟨demoPrefix.toIPNet, 13335, 24⟩] ∈ (run twiceLib demoSlurmConfig demoTick []).2 ∧
    Derived twiceLib [demoTick] demoSlurmConfig.timeCheck [⟨demoPrefix.toIPNet, 13335, 24⟩] :=
  have h : .addVRPs [⟨demoPrefix.toIPNet, 13335, 24⟩] ∈ (run twiceLib demoSlurmConfig demoTick []).2 := by
    decide
  ⟨h, run_addVRPs_derived twiceLib demoSlurmConfig demoTick [] _ h⟩

/-- **The server is only handed sets of valid, distinct VRPs.**  Every VRP of every set a run
    hands the RTR server has a parsed prefix whose lengths pass the check, and no two VRPs of
    a set share a dedup key (prefix text, ASN and maximum length). -/
theorem run_addVRPs_valid_keys_distinct (cfg : Config) (t₀ : Tick) (ticks : List Tick) :
    ∀ vrps, .addVRPs vrps ∈ (run lib cfg t₀ ticks).2 → (∀ t ∈ vrps, ValidVRP t) ∧ (vrps.map VRP.key).Nodup := by
  intro vrps hv
  obtain ⟨_, d, slurm, -, -, -, -, rfl⟩ := (run_provenance lib cfg t₀ ticks).2.2 vrps hv
  exact processData_valid_keys_nodup _ _ _

/-- The document of `twiceLib` lists one VRP twice; the server gets it once. -/
theorem run_addVRPs_valid_keys_distinct_demo :
    .addVRPs [⟨demoPrefix.toIPNet, 13335, 24⟩] ∈ (run twiceLib demoSlurmConfig demoTick []).2 ∧
    ((∀ t ∈ [(⟨demoPrefix.toIPNet, 13335, 24⟩ : VRP)], ValidVRP t) ∧
      ([(⟨demoPrefix.toIPNet, 13335, 24⟩ : VRP)].map VRP.key).Nodup) :=
  have h : .addVRPs [⟨demoPrefix.toIPNet, 13335, 24⟩] ∈ (run twiceLib demoSlurmConfig demoTick []).2 := by
    decide
  ⟨h, run_addVRPs_valid_keys_distinct twiceLib demoSlurmConfig demoTick [] _ h⟩

/-! ### New documents get to the server -/

/-- One cycle that fetches a body whose hash is not `lasthash`, which decodes to a document
    with entries that passes the time check, installs the document's SLURM view under the
    SLURM configuration the cycle has just fetched, and installs nothing after it. -/
theorem routineCycle_of_new_document {file slurmFile : String} {t : Tick} {s : State Slurm}
    {f : Fetched} {doc : VRPList} {d : List VRPJson} (hf : t.fileFetch = .ok f)
    (hnew : s.lasthash ≠ some (newSHA256 lib f.data)) (hd : lib.decode f.data = .ok doc)
    (hdata : doc.data = some d)
    (hc : checkBuildtime lib s.checktime doc.metadata.buildtime t.checkTime.time = none) :
    (routineCycle lib file slurmFile t s).1.exported.data =
        some (slurmView lib (routineCycle lib file slurmFile t s).1.slurm d) ∧
    ∃ fx rest, (routineCycle lib file slurmFile t s).2 = fx ++ .addVRPs (processData lib.getPrefix2
        lib.getASN2 (slurmView lib (routineCycle lib file slurmFile t s).1.slurm d)).1 :: rest ∧
      ∀ e ∈ rest, e.isAddVRPs = false := by
  have hr₁ := (fetchSlurm_spec lib slurmFile t s).1
  have hh : (fetchSlurm lib slurmFile t s).state.lasthash ≠ some (newSHA256 lib f.data) := by
    rw [hr₁]; exact hnew
  -- the cache fetch loads the document and reports an update
  set S : State Slurm :=
    { (fetchSlurm lib slurmFile t s).state with
      lastts := t.fetchTime.time, lasthash := some (newSHA256 lib f.data),
      lastchange := t.changeTime.time, lastdata := doc } with hS
  have hfetch : fetchFiles lib file slurmFile t s =
      ⟨true, S, (fetchSlurm lib slurmFile t s).effects ++ fetchMetrics file t.fetchTime.time f⟩ := by
    simp only [fetchFiles, updateFile_of_decode lib hf hh hd, Bool.true_or]
  have hd₁ : S.lastdata.data = some d := hdata
  have hc₁ : checkBuildtime lib S.checktime S.lastdata.metadata.buildtime t.checkTime.time = none := by
    show checkBuildtime lib (fetchSlurm lib slurmFile t s).state.checktime _ _ = none
    rw [hr₁]; exact hc
  -- so `updateFromNewState` runs, and installs
  simp only [routineCycle, hfetch, if_true, updateFromNewState_of_pass lib hd₁ hc₁]
  exact ⟨trivial, _, _, rfl, afterInstall_isAddVRPs _ _ _ _ _⟩

/-- **A new, fresh document is served after the cycle that fetches it.**  Take any run, and
    a tick whose cache fetch returns a body whose hash is not the run's `lasthash`, which
    decodes to a document with entries whose buildtime passes `-checktime` at the tick's
    clock.  After that tick's cycle, the export holds the document's SLURM view under the
    current SLURM configuration, and the RTR server holds `processData`'s VRPs of it. -/
theorem run_installs_new_document (cfg : Config) (t₀ : Tick) (ticks : List Tick) (t : Tick)
    (f : Fetched) (doc : VRPList) (d : List VRPJson) (hf : t.fileFetch = .ok f)
    (hnew : (run lib cfg t₀ ticks).1.lasthash ≠ some (newSHA256 lib f.data))
    (hd : lib.decode f.data = .ok doc) (hdata : doc.data = some d)
    (hfresh : cfg.timeCheck = true → ∃ bt, lib.parseRFC3339 doc.metadata.buildtime = .ok bt ∧
      t.checkTime.time.after (bt.add (24 * hour)) = false) :
    (run lib cfg t₀ (ticks ++ [t])).1.exported.data =
        some (slurmView lib (run lib cfg t₀ (ticks ++ [t])).1.slurm d) ∧
    serverVRPs (run lib cfg t₀ (ticks ++ [t])).2 =
        (processData lib.getPrefix2 lib.getASN2 (slurmView lib (run lib cfg t₀ (ticks ++ [t])).1.slurm d)).1 := by
  have hc : checkBuildtime lib (run lib cfg t₀ ticks).1.checktime doc.metadata.buildtime
      t.checkTime.time = none := by
    rw [(run_flagsOf lib cfg t₀ ticks).2.1]
    exact (checkBuildtime_eq_none lib).mpr hfresh
  obtain ⟨hexp, fx, rest, heq, hrest⟩ := routineCycle_of_new_document lib hf hnew hd hdata hc
  rw [run_append_tick]
  refine ⟨hexp, ?_⟩
  rw [heq, ← List.append_assoc]
  exact serverVRPs_append_addVRPs _ _ hrest

/-- `demoTick`, with a new cache body and the check's clock 10 hours after Go's zero time. -/
def freshTick : Tick :=
  { demoTick with fileFetch := .ok ⟨[3], -1, true⟩, checkTime := ⟨⟨10 * hour⟩, by decide⟩ }

/-- A new body, with a clock that passes the time check, after a startup that installed nothing. -/
theorem run_installs_new_document_demo :
    freshTick.fileFetch = .ok ⟨[3], -1, true⟩ ∧
    (run hashLib demoConfig demoTick []).1.lasthash ≠ some (newSHA256 hashLib [3]) ∧
    hashLib.decode [3] = .ok ⟨⟨0, ""⟩, some []⟩ ∧ (⟨⟨0, ""⟩, some []⟩ : VRPList).data = some [] ∧
    (demoConfig.timeCheck = true → ∃ bt, hashLib.parseRFC3339 "" = .ok bt ∧
      freshTick.checkTime.time.after (bt.add (24 * hour)) = false) ∧
    (run hashLib demoConfig demoTick ([] ++ [freshTick])).1.exported.data =
        some (slurmView hashLib (run hashLib demoConfig demoTick ([] ++ [freshTick])).1.slurm []) ∧
    serverVRPs (run hashLib demoConfig demoTick ([] ++ [freshTick])).2 =
        (processData hashLib.getPrefix2 hashLib.getASN2
          (slurmView hashLib (run hashLib demoConfig demoTick ([] ++ [freshTick])).1.slurm [])).1 :=
  have hnew : (run hashLib demoConfig demoTick []).1.lasthash ≠ some (newSHA256 hashLib [3]) := by
    decide
  have hfresh : demoConfig.timeCheck = true → ∃ bt, hashLib.parseRFC3339 "" = .ok bt ∧
      freshTick.checkTime.time.after (bt.add (24 * hour)) = false := fun _ => ⟨⟨0⟩, rfl, by decide⟩
  ⟨rfl, hnew, rfl, rfl, hfresh,
    run_installs_new_document hashLib demoConfig demoTick [] freshTick ⟨[3], -1, true⟩
      ⟨⟨0, ""⟩, some []⟩ [] rfl hnew rfl rfl hfresh⟩

/-! ### Without `-slurm.refresh` -/

/-- A cycle with no SLURM file to refresh keeps the SLURM configuration, and installs under
    it. -/
theorem routineCycle_without_slurmFile (file : String) (t : Tick) (s : State Slurm) :
    (routineCycle lib file "" t s).1.slurm = s.slurm ∧
    ∀ vrps, .addVRPs vrps ∈ (routineCycle lib file "" t s).2 →
      ∃ d, vrps = (processData lib.getPrefix2 lib.getASN2 (slurmView lib s.slurm d)).1 := by
  have hslurm : (fetchFiles lib file "" t s).state.slurm = s.slurm := by
    simp only [fetchFiles, fetchSlurm, bne_self_eq_false, Bool.false_eq_true, if_false]
    rw [updateFile_frame]
  have hfx := fetchFiles_effects lib file "" t s
  have hno : ∀ vrps, .addVRPs vrps ∉ (fetchFiles lib file "" t s).effects := fun vrps hv => by
    simpa [Effect.isFetchMetric] using hfx _ hv
  unfold routineCycle
  dsimp only
  split_ifs
  · refine ⟨by rw [updateFromNewState_frame]; exact hslurm, fun vrps hv => ?_⟩
    rcases List.mem_append.mp hv with hv | hv
    · exact absurd hv (hno vrps)
    · obtain ⟨d, -, -, rfl⟩ := mem_updateFromNewState_addVRPs lib hv
      exact ⟨d, by rw [hslurm]⟩
  · exact ⟨hslurm, fun vrps hv => absurd hv (hno vrps)⟩

/-- The startup installs under the SLURM configuration it leaves, which is none when its
    SLURM fetch or decode fails. -/
theorem startup_slurm (cfg : Config) (t₀ : Tick) :
    (∀ vrps, .addVRPs vrps ∈ (startup lib cfg t₀).2 →
      ∃ d, vrps = (processData lib.getPrefix2 lib.getASN2 (slurmView lib (startup lib cfg t₀).1.slurm d)).1) ∧
    ((∀ g, t₀.slurmFetch = .ok g → ∃ e, lib.decodeJSONSlurm g.data = .error e) →
      (startup lib cfg t₀).1.slurm = none) := by
  have hslurm : (startup lib cfg t₀).1.slurm = (startupFetch lib cfg t₀).1.slurm := by
    simp only [startup]
    rw [updateFromNewState_frame]
  refine ⟨fun vrps hv => ?_, fun hfail => ?_⟩
  · rcases List.mem_append.mp hv with hv | hv
    · simpa [Effect.isFetchMetric] using (startupFetch_spec lib cfg t₀).2 _ hv
    · obtain ⟨d, -, -, rfl⟩ := mem_updateFromNewState_addVRPs lib hv
      exact ⟨d, by rw [hslurm]⟩
  · rw [hslurm]
    unfold startupFetch
    dsimp only
    split_ifs
    · rcases updateSlurm_spec lib cfg.slurm t₀.slurmFetch
        (updateFile lib cfg.cacheBin t₀.fetchTime t₀.fileFetch t₀.changeTime (State.init cfg)).state with
        ⟨-, g, c, hg, hc, -⟩ | ⟨-, -, hs⟩
      · obtain ⟨e, he⟩ := hfail g hg
        rw [he] at hc
        cases hc
      · rw [hs, updateFile_frame]; rfl
    · rw [updateFile_frame]; rfl

/-- **Without `-slurm.refresh`, the startup's SLURM configuration filters the whole run.**
    `run` drops the SLURM file after the startup's fetch, whether it loaded or not.  So every
    state the run reaches keeps the SLURM configuration the startup left, and every VRP set
    the run installs is `processData`'s output on that configuration's view of a document's
    entries.  When the startup's SLURM fetch or decode fails, that configuration is none: no
    SLURM filter or assertion is ever applied. -/
theorem run_slurm_fixed_at_startup (cfg : Config) (t₀ : Tick) (ticks : List Tick)
    (hrefresh : cfg.slurmRefresh = false) :
    (run lib cfg t₀ ticks).1.slurm = (startup lib cfg t₀).1.slurm ∧
    (∀ vrps, .addVRPs vrps ∈ (run lib cfg t₀ ticks).2 →
      ∃ d, vrps = (processData lib.getPrefix2 lib.getASN2 (slurmView lib (startup lib cfg t₀).1.slurm d)).1) ∧
    ((∀ g, t₀.slurmFetch = .ok g → ∃ e, lib.decodeJSONSlurm g.data = .error e) →
      (startup lib cfg t₀).1.slurm = none) := by
  have hloop : loopSlurmFile cfg = "" := by simp [loopSlurmFile, hrefresh]
  obtain ⟨hstart, hfail⟩ := startup_slurm lib cfg t₀
  have hrun := run_invariant lib cfg
    (fun s log => s.slurm = (startup lib cfg t₀).1.slurm ∧ ∀ vrps, .addVRPs vrps ∈ log →
      ∃ d, vrps = (processData lib.getPrefix2 lib.getASN2 (slurmView lib (startup lib cfg t₀).1.slurm d)).1)
    t₀ ticks ⟨rfl, hstart⟩ fun t _ s log ⟨hs, hlog⟩ => by
      rw [hloop]
      obtain ⟨hs', hnew⟩ := routineCycle_without_slurmFile lib cfg.cacheBin t s
      refine ⟨hs'.trans hs, fun vrps hv => ?_⟩
      rcases List.mem_append.mp hv with hv | hv
      · exact hlog vrps hv
      · rw [← hs]; exact hnew vrps hv
  exact ⟨hrun.1, hrun.2, hfail⟩

/-- `demoTick`, with the SLURM fetch failing. -/
def slurmDownTick : Tick := { demoTick with slurmFetch := .error "connection refused" }

/-- The flags of `demoSlurmConfig`, without `-slurm.refresh`. -/
def noRefreshConfig : Config := { demoSlurmConfig with slurmRefresh := false }

/-- A startup whose SLURM fetch fails, without `-slurm.refresh`. -/
theorem run_slurm_fixed_at_startup_demo :
    noRefreshConfig.slurmRefresh = false ∧
    (run demoLib noRefreshConfig slurmDownTick [demoTick]).1.slurm =
      (startup demoLib noRefreshConfig slurmDownTick).1.slurm ∧
    (∀ vrps, .addVRPs vrps ∈ (run demoLib noRefreshConfig slurmDownTick [demoTick]).2 →
      ∃ d, vrps = (processData demoLib.getPrefix2 demoLib.getASN2
        (slurmView demoLib (startup demoLib noRefreshConfig slurmDownTick).1.slurm d)).1) ∧
    ((∀ g, slurmDownTick.slurmFetch = .ok g → ∃ e, demoLib.decodeJSONSlurm g.data = .error e) →
      (startup demoLib noRefreshConfig slurmDownTick).1.slurm = none) :=
  ⟨rfl, run_slurm_fixed_at_startup demoLib noRefreshConfig slurmDownTick [demoTick] rfl⟩

end

end StayRTR
