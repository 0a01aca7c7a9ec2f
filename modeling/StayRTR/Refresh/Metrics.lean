import StayRTR.Refresh.Snapshot

namespace StayRTR

/-!
# The Prometheus metrics — what the gauges hold

The refresh calls report to four metric vectors of `client_golang`: `rpki_refresh`
(`LastRefresh`), `refresh_requests_total` (`RefreshStatusCode`), `rpki_vrps`
(`NumberOfVRPs`) and `rpki_change` (`LastChange`).  A vector is a map from the values of its
labels: `Set` overwrites the value of its labels, `Inc` adds one to it.  `metricsOf log` is
what the vectors hold after the calls `log`.

* `Metrics.updateMetrics`: `metricsEvent.UpdateMetrics`, which sets the four `rpki_vrps`
  gauges of the cache and its `rpki_change`, and never reads its `refreshed` argument;
* `run_vrps_gauges_agree`: with metrics on, once a VRP set is installed, the `filtered`
  gauges count, per family, the VRPs the RTR server holds, and the `unfiltered` ones the
  valid entries of the exported document; so the metrics endpoint, the RTR server and the
  export endpoint agree between refresh calls.  Within `updateFromNewState` they do not: the
  server holds the new set before the gauges move, and a scrape running alongside
  `UpdateMetrics` can see its four `Set`s half done;
* `run_refresh_requests_counted`: `refresh_requests_total` counts, per path and status, the
  answers to the fetches of the run;
* `rtrClients_counts_open`: `ClientConnected` and `ClientDisconnected` keep `rtr_clients`
  equal, at every local address, to the number of connections open on it.
-/

/-- What the metric vectors hold: the value of each tuple of label values, `none` for a
    tuple no call has set. -/
structure Metrics where
  /-- `rpki_vrps{ip_version, filtered, path}` (`NumberOfVRPs`). -/
  vrps : String × String × String → Option Int
  /-- `rpki_refresh{path}` (`LastRefresh`). -/
  refresh : String → Option Int
  /-- `rpki_change{path}` (`LastChange`). -/
  change : String → Option Int
  /-- `refresh_requests_total{path, code}` (`RefreshStatusCode`), with the code as the number
      `fmt.Sprintf("%d", code)` prints. -/
  requests : String × Int → Nat

/-- The vectors before any call. -/
def Metrics.empty : Metrics := ⟨fun _ => none, fun _ => none, fun _ => none, fun _ => 0⟩

/-- `WithLabelValues(labels...).Set(v)` on a gauge vector. -/
def setGauge {L : Type} [DecidableEq L] (g : L → Option Int) (labels : L) (v : Int) : L → Option Int :=
  Function.update g labels (some v)

/-- `WithLabelValues(labels...).Inc()` on a counter vector. -/
def incCounter {L : Type} [DecidableEq L] (c : L → Nat) (labels : L) : L → Nat :=
  Function.update c labels (c labels + 1)

/-- `Inc` adds one to its labels' counter and leaves every other one. -/
theorem incCounter_apply {L : Type} [DecidableEq L] (c : L → Nat) (labels l : L) :
    incCounter c labels l = c l + if labels = l then 1 else 0 := by
  unfold incCounter
  by_cases h : labels = l
  · subst h; simp
  · simp [Function.update_apply, h, Ne.symm h]

/-- `Set` overwrites its labels' gauge and leaves every other one. -/
theorem setGauge_apply {L : Type} [DecidableEq L] (g : L → Option Int) (labels l : L) (v : Int) :
    setGauge g labels v l = if l = labels then some v else g l :=
  Function.update_apply g labels (some v) l

/-- `metricsEvent.UpdateMetrics`: the `filtered` and `unfiltered` `rpki_vrps` gauges of `file`,
    IPv4 then IPv6, then its `rpki_change`.  It does not read `refreshed`. -/
def Metrics.updateMetrics (m : Metrics) (numIPv4 numIPv6 numIPv4filtered numIPv6filtered : Nat)
    (changed : Time) (file : String) : Metrics :=
  { m with
    vrps := setGauge (setGauge (setGauge (setGauge m.vrps ("ipv4", "filtered", file) numIPv4filtered)
      ("ipv4", "unfiltered", file) numIPv4) ("ipv6", "filtered", file) numIPv6filtered)
      ("ipv6", "unfiltered", file) numIPv6
    change := setGauge m.change file changed.unixSeconds }

/-- What a call does to the metric vectors; the calls to the RTR server do nothing to them. -/
def Metrics.apply (m : Metrics) : Effect → Metrics
  | .lastRefresh file seconds => { m with refresh := setGauge m.refresh file seconds }
  | .refreshStatus file code => { m with requests := incCounter m.requests (file, code) }
  | .addVRPs _ | .notifyClientsLatest => m
  | .updateMetrics a b c₄ c₆ changed _ file => m.updateMetrics a b c₄ c₆ changed file

/-- What the metric vectors hold after the calls `log`. -/
def metricsOf (log : List Effect) : Metrics := log.foldl Metrics.apply Metrics.empty

/-- The metrics after more calls are those calls applied to the metrics before them. -/
theorem metricsOf_append (log fx : List Effect) :
    metricsOf (log ++ fx) = fx.foldl Metrics.apply (metricsOf log) :=
  List.foldl_append _ _ _ _

/-- The fetch metrics leave `rpki_vrps` alone. -/
theorem foldl_apply_vrps_of_fetchMetrics (m : Metrics) {fx : List Effect}
    (hfx : ∀ e ∈ fx, e.isFetchMetric) : (fx.foldl Metrics.apply m).vrps = m.vrps := by
  induction fx generalizing m with
  | nil => rfl
  | cons e fx ih =>
    rw [List.foldl_cons, ih _ fun e' he' => hfx e' (List.mem_cons_of_mem e he')]
    have he := hfx e (List.mem_cons_self e fx)
    cases e <;> first | rfl | cases he

section
variable {Slurm : Type} (lib : Lib Slurm)

/-- After an install with metrics on, the `rpki_vrps` gauges of `file` hold the per-family
    counts of the installed VRPs (`filtered`) and the counts `updateFromNewState` was given
    (`unfiltered`). -/
theorem metricsOf_install_vrps (log : List Effect) (s : State Slurm) (file : String) (vrps : List VRP)
    (countv4 countv6 : Nat) (hme : s.metricsEvent = true) :
    (metricsOf (log ++ .addVRPs vrps :: afterInstall s file vrps countv4 countv6)).vrps
        ("ipv4", "filtered", file) = some ((countDup vrps).1 : Int) ∧
    (metricsOf (log ++ .addVRPs vrps :: afterInstall s file vrps countv4 countv6)).vrps
        ("ipv6", "filtered", file) = some ((countDup vrps).2 : Int) ∧
    (metricsOf (log ++ .addVRPs vrps :: afterInstall s file vrps countv4 countv6)).vrps
        ("ipv4", "unfiltered", file) = some (countv4 : Int) ∧
    (metricsOf (log ++ .addVRPs vrps :: afterInstall s file vrps countv4 countv6)).vrps
        ("ipv6", "unfiltered", file) = some (countv6 : Int) := by
  unfold afterInstall
  cases s.sendNotifs <;>
    simp [hme, metricsOf_append, Metrics.apply, Metrics.updateMetrics, setGauge_apply]

/-- The `rpki_vrps` gauges of `file` count, per family, the VRPs `vrps` (`filtered`) and the
    valid entries `processData` finds in `entries` (`unfiltered`). -/
def VRPGauges (m : Metrics) (file : String) (vrps : List VRP) (entries : List VRPJson) : Prop :=
  m.vrps ("ipv4", "filtered", file) = some ((countDup vrps).1 : Int) ∧
  m.vrps ("ipv6", "filtered", file) = some ((countDup vrps).2 : Int) ∧
  m.vrps ("ipv4", "unfiltered", file) = some ((processData lib.getPrefix2 lib.getASN2 entries).2.2.1 : Int) ∧
  m.vrps ("ipv6", "unfiltered", file) = some ((processData lib.getPrefix2 lib.getASN2 entries).2.2.2 : Int)

/-- With metrics on, once a VRP set is installed, the gauges of `file` count what the server
    holds and what is exported. -/
def GaugesAgree (file : String) (s : State Slurm) (log : List Effect) : Prop :=
  s.metricsEvent = true → (∃ vrps, .addVRPs vrps ∈ log) →
    VRPGauges lib (metricsOf log) file (serverVRPs log) (s.exported.data.getD [])

/-- Calls that only record fetches keep the agreement, when they keep the flag and the
    export. -/
theorem gaugesAgree_append_fetchMetrics {file : String} {s s' : State Slurm} {log fx : List Effect}
    (h : GaugesAgree lib file s log) (hme : s'.metricsEvent = s.metricsEvent)
    (hex : s'.exported = s.exported) (hfx : ∀ e ∈ fx, e.isFetchMetric) :
    GaugesAgree lib file s' (log ++ fx) := by
  have hadd : ∀ e ∈ fx, e.isAddVRPs = false := fun e he => Effect.isAddVRPs_of_isFetchMetric (hfx e he)
  intro hon ⟨vrps, hv⟩
  have hg := h (hme ▸ hon) ⟨vrps, (List.mem_append.mp hv).resolve_right fun hm => by
    simpa [Effect.isAddVRPs] using hadd _ hm⟩
  unfold VRPGauges at hg ⊢
  rw [metricsOf_append, foldl_apply_vrps_of_fetchMetrics _ hfx, serverVRPs_append_of_no_add _ hadd, hex]
  exact hg

/-- Every refresh call of a run keeps the gauges agreeing with the server and the export. -/
theorem keptByRunCalls_gaugesAgree (file : String) (T : List Tick) :
    KeptByRunCalls lib file T (GaugesAgree lib file) := by
  refine ⟨fun t _ t₁ t₂ s log h => ?_, fun t _ f s log h => ?_, fun t _ s log h => ?_⟩
  · exact gaugesAgree_append_fetchMetrics lib h (by rw [updateFile_frame]) (by rw [updateFile_frame])
      (updateFile_effects lib _ _ _ _ _)
  · exact gaugesAgree_append_fetchMetrics lib h (by rw [updateSlurm_frame]) (by rw [updateSlurm_frame])
      (updateSlurm_effects lib _ _ _)
  · -- an install sets the gauges of `file` from the VRPs it hands the server
    rcases updateFromNewState_spec lib file t.checkTime s with ⟨d, hd, hc⟩ | ⟨hs, he⟩
    · rw [updateFromNewState_of_pass lib hd hc]
      intro hon _
      obtain ⟨h₁, h₂, h₃, h₄⟩ := metricsOf_install_vrps log s file _ _ _ hon
      rw [serverVRPs_append_addVRPs log _ (afterInstall_isAddVRPs _ _ _ _ _)]
      exact ⟨h₁, h₂, h₃, h₄⟩
    · rw [hs, he, List.append_nil]
      exact h

/-- **The metrics agree with the server and the export between refresh calls.**  In every
    run with `-metrics.addr` set, once a VRP set has been installed, the `filtered`
    `rpki_vrps` gauges of the cache count, per family, the VRPs the RTR server holds, and the
    `unfiltered` ones count the valid entries of the exported document.  This holds at the
    end of every run, that is, between two refresh calls: inside `updateFromNewState` the
    server gets the new set before `UpdateMetrics` sets the gauges one by one. -/
theorem run_vrps_gauges_agree (cfg : Config) (t₀ : Tick) (ticks : List Tick)
    (hmetrics : cfg.metricsAddr ≠ "") (hinst : ∃ vrps, .addVRPs vrps ∈ (run lib cfg t₀ ticks).2) :
    VRPGauges lib (metricsOf (run lib cfg t₀ ticks).2) cfg.cacheBin (serverVRPs (run lib cfg t₀ ticks).2)
      ((run lib cfg t₀ ticks).1.exported.data.getD []) := by
  have h := run_of_keptByRunCalls lib cfg t₀ ticks (keptByRunCalls_gaugesAgree lib cfg.cacheBin _)
    fun _ ⟨_, hv⟩ => absurd hv (List.not_mem_nil _)
  exact h (by rw [(run_flagsOf lib cfg t₀ ticks).2.2]; exact bne_iff_ne.mpr hmetrics) hinst

/-- The server holds one VRP, of the two entries `twiceLib`'s document lists. -/
theorem run_vrps_gauges_agree_demo :
    demoSlurmConfig.metricsAddr ≠ "" ∧ (∃ vrps, .addVRPs vrps ∈ (run twiceLib demoSlurmConfig demoTick []).2) ∧
    VRPGauges twiceLib (metricsOf (run twiceLib demoSlurmConfig demoTick []).2) demoSlurmConfig.cacheBin
      (serverVRPs (run twiceLib demoSlurmConfig demoTick []).2)
      ((run twiceLib demoSlurmConfig demoTick []).1.exported.data.getD []) :=
  have hm : demoSlurmConfig.metricsAddr ≠ "" := by decide
  have hinst : ∃ vrps, .addVRPs vrps ∈ (run twiceLib demoSlurmConfig demoTick []).2 :=
    ⟨[⟨demoPrefix.toIPNet, 13335, 24⟩], by decide⟩
  ⟨hm, hinst, run_vrps_gauges_agree twiceLib demoSlurmConfig demoTick [] hm hinst⟩

end

/-! ### The `refresh_requests_total` counter -/

/-- The fetches of the startup, each with the path it asks for: the cache, then the SLURM
    file when one is given. -/
def startupFetches (cfg : Config) (t : Tick) : List (String × Except String Fetched) :=
  (cfg.cacheBin, t.fileFetch) :: if cfg.slurm != "" then [(cfg.slurm, t.slurmFetch)] else []

/-- The fetches of a cycle: the SLURM file when there is one to refresh, then the cache. -/
def cycleFetches (file slurmFile : String) (t : Tick) : List (String × Except String Fetched) :=
  (if slurmFile != "" then [(slurmFile, t.slurmFetch)] else []) ++ [(file, t.fileFetch)]

/-- The fetches of a run, in order. -/
def runFetches (cfg : Config) (t₀ : Tick) (ticks : List Tick) : List (String × Except String Fetched) :=
  startupFetches cfg t₀ ++ ticks.flatMap (cycleFetches cfg.cacheBin (loopSlurmFile cfg))

/-- A fetch of `path` that was answered with the HTTP status `code`; a `FetchFile` that
    reports no status (`-1`) is not one. -/
def answeredWith (path : String) (code : Int) : String × Except String Fetched → Bool
  | (p, .ok f) => p == path && f.code == code && f.code != -1
  | (_, .error _) => false

/-- A call adds one to `refresh_requests_total{path, code}` exactly when it counts that pair. -/
theorem apply_requests (m : Metrics) (e : Effect) (path : String) (code : Int) :
    (m.apply e).requests (path, code) =
      m.requests (path, code) + if (e == .refreshStatus path code) = true then 1 else 0 := by
  cases e <;> simp [Metrics.apply, Metrics.updateMetrics, incCounter_apply]

/-- `refresh_requests_total{path, code}` after the calls `fx` adds the number of counts of
    that pair among them. -/
theorem requests_foldl (fx : List Effect) (m : Metrics) (path : String) (code : Int) :
    (fx.foldl Metrics.apply m).requests (path, code) =
      m.requests (path, code) + fx.countP (· == .refreshStatus path code) := by
  induction fx generalizing m with
  | nil => rfl
  | cons e fx ih =>
    rw [List.foldl_cons, ih, apply_requests, List.countP_cons]
    omega

/-- The fetch metrics count the status of a fetch, when it has one. -/
theorem countP_fetchMetrics (file : String) (lastts : Time) (f : Fetched) (path : String) (code : Int) :
    (fetchMetrics file lastts f).countP (· == .refreshStatus path code) =
      [(file, (.ok f : Except String Fetched))].countP (answeredWith path code) := by
  unfold fetchMetrics
  by_cases h : f.code = -1 <;> cases f.lastrefresh <;> simp [h, answeredWith, List.countP_cons]

section
variable {Slurm : Type} (lib : Lib Slurm) (path : String) (code : Int)

/-- `updateFile` counts the status of its fetch, when it got one. -/
theorem countP_updateFile (file : String) (t₁ : ClockReading) (fetched : Except String Fetched)
    (t₂ : ClockReading) (s : State Slurm) :
    (updateFile lib file t₁ fetched t₂ s).effects.countP (· == .refreshStatus path code) =
      [(file, fetched)].countP (answeredWith path code) := by
  cases fetched with
  | error e => rfl
  | ok f => rw [updateFile_effects_of_ok lib rfl]; exact countP_fetchMetrics _ _ _ _ _

/-- `updateSlurm` counts the status of its fetch, when it got one. -/
theorem countP_updateSlurm (file : String) (fetched : Except String Fetched) (s : State Slurm) :
    (updateSlurm lib file fetched s).effects.countP (· == .refreshStatus path code) =
      [(file, fetched)].countP (answeredWith path code) := by
  cases fetched with
  | error e => rfl
  | ok f => rw [updateSlurm_effects_of_ok lib rfl]; exact countP_fetchMetrics _ _ _ _ _

/-- `updateFromNewState` counts no request. -/
theorem countP_updateFromNewState (file : String) (now : ClockReading) (s : State Slurm) :
    (updateFromNewState lib file now s).effects.countP (· == .refreshStatus path code) = 0 := by
  rcases updateFromNewState_spec lib file now s with ⟨d, hd, hc⟩ | ⟨-, he⟩
  · rw [updateFromNewState_of_pass lib hd hc]
    unfold afterInstall
    split_ifs <;> simp
  · rw [he]
    rfl

/-- The calls of a cycle count the statuses of its fetches. -/
theorem countP_routineCycle (file slurmFile : String) (t : Tick) (s : State Slurm) :
    (routineCycle lib file slurmFile t s).2.countP (· == .refreshStatus path code) =
      (cycleFetches file slurmFile t).countP (answeredWith path code) := by
  have hfetch : (fetchFiles lib file slurmFile t s).effects.countP (· == .refreshStatus path code) =
      (cycleFetches file slurmFile t).countP (answeredWith path code) := by
    simp only [fetchFiles, fetchSlurm, cycleFetches, List.countP_append, countP_updateFile]
    split_ifs
    · rw [countP_updateSlurm]
    · rfl
  unfold routineCycle
  dsimp only
  split_ifs
  · rw [List.countP_append, hfetch, countP_updateFromNewState, Nat.add_zero]
  · exact hfetch

/-- The calls of the startup count the statuses of its fetches. -/
theorem countP_startup (cfg : Config) (t : Tick) :
    (startup lib cfg t).2.countP (· == .refreshStatus path code) =
      (startupFetches cfg t).countP (answeredWith path code) := by
  simp only [startup, startupFetch, startupFetches, List.countP_append, countP_updateFromNewState,
    Nat.add_zero]
  split_ifs
  · rw [List.countP_append, countP_updateFile, countP_updateSlurm, ← List.countP_append]
    rfl
  · rw [countP_updateFile]

/-- **`refresh_requests_total` counts every answer.**  After every run, the counter of a path
    and an HTTP status is the number of the run's fetches of that path answered with that
    status: the startup fetches the cache and the SLURM file, and every cycle the SLURM file it
    refreshes and the cache, whether the body is then used or not. -/
theorem run_refresh_requests_counted (cfg : Config) (t₀ : Tick) (ticks : List Tick) :
    (metricsOf (run lib cfg t₀ ticks).2).requests (path, code) =
      (runFetches cfg t₀ ticks).countP (answeredWith path code) := by
  rw [metricsOf, requests_foldl, Metrics.empty, Nat.zero_add]
  induction ticks using List.reverseRecOn with
  | nil => exact (countP_startup lib path code cfg t₀).trans (by simp [runFetches])
  | append_singleton ts t ih =>
    rw [run_append_tick, List.countP_append, ih, countP_routineCycle]
    simp [runFetches, List.flatMap_append, Nat.add_assoc]

end

/-! ### The `rtr_clients` gauge -/

/-- What `metricsEvent` reads of an `rtr.Client`: the connection, and the text of
    `GetLocalAddress().String()`, the local endpoint of the accepted connection, which is
    the value of the `bind` label. -/
structure Client where
  conn : Nat
  localAddress : String
deriving DecidableEq

/-- The calls the RTR server makes on its event handler as connections open and close. -/
inductive ClientEvent
  | connected (c : Client)
  | disconnected (c : Client)
deriving DecidableEq

/-- `WithLabelValues(labels...).Add(v)` on a gauge vector; a child no call has made starts
    at 0.  `Inc` and `Dec` are `Add(1)` and `Add(-1)`. -/
def addGauge {L : Type} [DecidableEq L] (g : L → Option Int) (labels : L) (v : Int) : L → Option Int :=
  Function.update g labels (some ((g labels).getD 0 + v))

/-- `metricsEvent.ClientConnected`: `rtr_clients{bind}` of the client's local address, plus one. -/
def clientConnected (clients : String → Option Int) (c : Client) : String → Option Int :=
  addGauge clients c.localAddress 1

/-- `metricsEvent.ClientDisconnected`: `rtr_clients{bind}` of the client's local address, minus one. -/
def clientDisconnected (clients : String → Option Int) (c : Client) : String → Option Int :=
  addGauge clients c.localAddress (-1)

/-- What a call of the RTR server does to `rtr_clients`. -/
def ClientEvent.apply (clients : String → Option Int) : ClientEvent → String → Option Int
  | .connected c => clientConnected clients c
  | .disconnected c => clientDisconnected clients c

/-- `rtr_clients` after the calls `events`. -/
def rtrClients (events : List ClientEvent) : String → Option Int :=
  events.foldl ClientEvent.apply fun _ => none

/-- The connections open after one more call, when the RTR server reports each connection
    opening once and closing once after that; `none` once a call breaks that order. -/
def openStep : Option (List Client) → ClientEvent → Option (List Client)
  | some o, .connected c => if c ∈ o then none else some (c :: o)
  | some o, .disconnected c => if c ∈ o then some (o.erase c) else none
  | none, _ => none

/-- The connections open after the calls `events`, when the server made them in that order. -/
def openClients (events : List ClientEvent) : Option (List Client) :=
  events.foldl openStep (some [])

/-- Once a call breaks the order, no connections are known any more. -/
@[simp] theorem openStep_none (e : ClientEvent) : openStep none e = none := by
  cases e <;> rfl

/-- Nor after any further calls. -/
theorem foldl_openStep_none (events : List ClientEvent) : events.foldl openStep none = none := by
  induction events with
  | nil => rfl
  | cons e es ih => rwa [List.foldl_cons, openStep_none]

/-- `Add(v)` adds `v` to its labels' gauge, read as 0 when unset, and leaves every other one. -/
theorem addGauge_getD {L : Type} [DecidableEq L] (g : L → Option Int) (labels l : L) (v : Int) :
    (addGauge g labels v l).getD 0 = (g l).getD 0 + if labels = l then v else 0 := by
  unfold addGauge
  by_cases h : labels = l
  · subst h; simp
  · simp [Function.update_apply, h, Ne.symm h]

/-- What a call made in order does to the open connections. -/
theorem openStep_cases {o o' : List Client} {e : ClientEvent} (h : openStep (some o) e = some o') :
    (∃ c, e = .connected c ∧ c ∉ o ∧ o' = c :: o) ∨ (∃ c, e = .disconnected c ∧ c ∈ o ∧ o' = o.erase c) := by
  cases e with
  | connected c =>
    simp only [openStep] at h
    split at h
    · cases h
    · exact .inl ⟨c, rfl, ‹_›, (Option.some.inj h).symm⟩
  | disconnected c =>
    simp only [openStep] at h
    split at h
    · exact .inr ⟨c, rfl, ‹_›, (Option.some.inj h).symm⟩
    · cases h

/-- `rtr_clients` reads, at every local address, the number of connections of `o` at that
    address. -/
def CountsOpen (clients : String → Option Int) (o : List Client) : Prop :=
  ∀ bind, (clients bind).getD 0 = (o.countP (·.localAddress == bind) : Int)

/-- Step lemma: a call made in order keeps the gauge counting the open connections. -/
theorem countsOpen_apply {clients : String → Option Int} {o o' : List Client} {e : ClientEvent}
    (h : CountsOpen clients o) (hs : openStep (some o) e = some o') :
    CountsOpen (e.apply clients) o' := by
  intro bind
  rcases openStep_cases hs with ⟨c, rfl, -, rfl⟩ | ⟨c, rfl, hc, rfl⟩
  · -- `Inc` at the address of a connection that opens
    by_cases hb : c.localAddress = bind <;>
      simp [ClientEvent.apply, clientConnected, addGauge_getD, h bind, List.countP_cons, hb]
  · -- `Dec` at the address of an open connection that closes
    have hperm := (List.perm_cons_erase hc).countP_eq (·.localAddress == bind)
    by_cases hb : c.localAddress = bind <;>
      simp [ClientEvent.apply, clientDisconnected, addGauge_getD, h bind, hperm, List.countP_cons, hb]

/-- Run lemma: calls made in order keep the gauge counting the open connections. -/
theorem countsOpen_foldl (events : List ClientEvent) :
    ∀ {clients : String → Option Int} {o o' : List Client}, CountsOpen clients o →
      events.foldl openStep (some o) = some o' → CountsOpen (events.foldl ClientEvent.apply clients) o' := by
  induction events with
  | nil => rintro clients o o' h ⟨⟩; exact h
  | cons e es ih =>
    intro clients o o' h hs
    rw [List.foldl_cons] at hs
    cases hstep : openStep (some o) e with
    | none => rw [hstep, foldl_openStep_none] at hs; cases hs
    | some o₁ => exact ih (countsOpen_apply h hstep) (hstep ▸ hs)

/-- **`rtr_clients` counts the open connections.**  Whatever the order in which connections
    open and close, as long as the RTR server reports each one opening once and closing once
    after that, the gauge of every local address (the `bind` label) is the number of open
    connections whose local endpoint it is; in particular it is never negative. -/
theorem rtrClients_counts_open (events : List ClientEvent) (opens : List Client)
    (h : openClients events = some opens) (bind : String) :
    (rtrClients events bind).getD 0 = (opens.countP (·.localAddress == bind) : Int) :=
  @countsOpen_foldl events (fun _ => none) [] opens (fun _ => rfl) h bind

/-- Three connections, two on `:8282`, and the first one closing. -/
def demoClientEvents : List ClientEvent :=
  [.connected ⟨1, ":8282"⟩, .connected ⟨2, ":8282"⟩, .connected ⟨3, ":8283"⟩, .disconnected ⟨1, ":8282"⟩]

/-- Three connections, one of which closes. -/
theorem rtrClients_counts_open_demo :
    openClients demoClientEvents = some [⟨3, ":8283"⟩, ⟨2, ":8282"⟩] ∧
    (rtrClients demoClientEvents ":8282").getD 0 =
      ([⟨3, ":8283"⟩, ⟨2, ":8282"⟩] : List Client).countP (·.localAddress == ":8282") :=
  have h : openClients demoClientEvents = some [⟨3, ":8283"⟩, ⟨2, ":8282"⟩] := by decide
  ⟨h, rtrClients_counts_open demoClientEvents _ h ":8282"⟩

end StayRTR
