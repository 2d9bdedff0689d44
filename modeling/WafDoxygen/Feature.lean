import WafDoxygen.Scan
import WafDoxygen.TarTask

/-!
# The doxygen feature over whole runs

Every state the polls of a doxygen task reach is unconfigured, or holds the configured `pars`
and `doxy_inputs` with `output_dir` unset or the node of the configured `OUTPUT_DIRECTORY`.
From that, a poll raises only at the configuring poll, and only the missing-input error, and a
poll that lets the task go on has set `output_dir`. `process_doxy` puts the doxygen task and a
tar task whose one input task is the doxygen task under one scheduler: the run of the doxygen
task writes the payload of the configured `pars` and harvests `output_dir` in `post_run`, and the
tar task archives what it harvested.
-/

namespace WafDoxygen

section Polls

variable {Node : Type} (env : DoxyEnv Node)

/-- The node `output_dir` gets from the configured `OUTPUT_DIRECTORY`: found as a directory
from the root, or declared from the build path. -/
def outputDirNode : Node :=
  let d := ((configuredPars env).get outputDirectoryKey).getD []
  (env.rootFindDir d).getD (env.findOrDeclare d)

def DoxyInv (t : DoxyTask Node) : Prop :=
  (t.pars = none ∧ t.doxyInputs = none ∧ t.outputDir = none) ∨
    (t.pars = some (configuredPars env) ∧ t.doxyInputs = some (configuredInputs env []).1 ∧
      (t.outputDir = none ∨ t.outputDir = some (outputDirNode env)))

theorem doxyInv_init : DoxyInv env (DoxyTask.init : DoxyTask Node) := .inl ⟨rfl, rfl, rfl⟩

theorem setOutputDir_configured {t : DoxyTask Node} (hp : t.pars = some (configuredPars env))
    (ho : t.outputDir = none ∨ t.outputDir = some (outputDirNode env)) :
    setOutputDir env t = ({ t with outputDir := some (outputDirNode env) }, none) := by
  obtain ⟨d, hd⟩ := Option.isSome_iff_exists.1
    ((PyDict.get_isSome_iff _ _).2 (outputDirectory_mem_configuredPars env))
  rcases ho with ho | ho
  · simp [setOutputDir, ho, hp, hd, outputDirNode]
  · simp only [setOutputDir, ho]
    rw [← ho]

theorem runnableStatus_configured {t : DoxyTask Node} (hp : t.pars = some (configuredPars env))
    (ho : t.outputDir = none ∨ t.outputDir = some (outputDirNode env)) {fl : List Bool}
    (hall : fl.all id = true) (o : PollOutcome) :
    runnableStatus env fl o t = ({ t with outputDir := some (outputDirNode env) }, o.answer) := by
  simp [runnableStatus, hall, hp, parsUnset_configuredPars, setOutputDir_configured env hp ho]

theorem runnableStatus_unconfigured {t : DoxyTask Node} (hp : t.pars = none)
    (hd : t.doxyInputs = none) (ho : t.outputDir = none) {fl : List Bool}
    (hall : fl.all id = true) (o : PollOutcome) :
    runnableStatus env fl o t =
      if o.readOk then
        match (configuredInputs env []).2 with
        | some e => ((configure env t).1, .error e)
        | none => ({ (configure env t).1 with outputDir := some (outputDirNode env) }, o.answer)
      else (t, .error .readError) := by
  have hc : (configure env t).1.pars = some (configuredPars env) := rfl
  have hco : (configure env t).1.outputDir = none := ho
  have h2 : (configure env t).2 = (configuredInputs env []).2 := by simp [configure, hd]
  cases hr : o.readOk
  · simp [runnableStatus, hall, hp, parsUnset, hr]
  · simp only [runnableStatus, hall, if_true, hp, parsUnset, hr, h2, Bool.not_true,
      Bool.and_false, Bool.false_eq_true, if_false]
    cases (configuredInputs env []).2 with
    | some e => rfl
    | none => rw [setOutputDir_configured env hc (.inl hco)]

theorem runnableStatus_waiting_all {fl : List Bool} (hall : fl.all id = false) (o : PollOutcome)
    (t : DoxyTask Node) : runnableStatus env fl o t = (t, .ok .askLater) := by
  simp [runnableStatus, hall]

theorem doxyInv_poll {t : DoxyTask Node} (h : DoxyInv env t) (fl : List Bool) (o : PollOutcome) :
    DoxyInv env (runnableStatus env fl o t).1 := by
  cases hall : fl.all id
  · rwa [runnableStatus_waiting_all env hall]
  · rcases h with ⟨hp, hd, ho⟩ | ⟨hp, hd, ho⟩
    · rw [runnableStatus_unconfigured env hp hd ho hall]
      split
      · cases (configuredInputs env []).2 <;>
          exact .inr ⟨rfl, by simp [configure, hd], by simp [configure, ho]⟩
      · exact .inl ⟨hp, hd, ho⟩
    · rw [runnableStatus_configured env hp ho hall]
      exact .inr ⟨hp, hd, .inr rfl⟩

theorem doxyInv_run (evs : List DoxyEvent) :
    ∀ (fl : List Bool) (t : DoxyTask Node), DoxyInv env t → DoxyInv env (doxyRun env (fl, t) evs).2 := by
  induction evs with
  | nil => intro fl t h; exact h
  | cons ev evs ih =>
    intro fl t h
    cases ev with
    | finish i => exact ih _ t h
    | poll o => exact ih fl _ (doxyInv_poll env h fl o)

theorem runnableStatus_answer {t : DoxyTask Node} (h : DoxyInv env t) (fl : List Bool)
    (o : PollOutcome) :
    (runnableStatus env fl o t).2 =
      if fl.all id then
        if t.pars = none then
          if o.readOk then (configuredInputs env []).2.elim o.answer .error else .error .readError
        else o.answer
      else .ok .askLater := by
  cases hall : fl.all id
  · rw [runnableStatus_waiting_all env hall]; rfl
  · rcases h with ⟨hp, hd, ho⟩ | ⟨hp, hd, ho⟩
    · rw [runnableStatus_unconfigured env hp hd ho hall, if_pos rfl, if_pos hp]
      split
      · cases (configuredInputs env []).2 <;> rfl
      · rfl
    · rw [runnableStatus_configured env hp ho hall, if_pos rfl, if_neg (by simp [hp])]

/-- Over every run of polls, a poll answers `ASK_LATER` while some `run_after` task has not run.
Otherwise an unconfigured task raises the read's error when the Doxyfile cannot be read, and the
configuration's missing-input error if there is one; every other poll answers what
`self.signature()` and `Task.runnable_status` give. The `KeyError` of `OUTPUT_DIRECTORY` is never
raised. -/
theorem doxygen_poll_answer (fl : List Bool) (evs : List DoxyEvent) (fl' : List Bool)
    (o : PollOutcome) :
    (runnableStatus env fl' o (doxyRun env (fl, DoxyTask.init) evs).2).2 =
      if fl'.all id then
        if (doxyRun env (fl, DoxyTask.init) evs).2.pars = none then
          if o.readOk then (configuredInputs env []).2.elim o.answer .error else .error .readError
        else o.answer
      else .ok .askLater :=
  runnableStatus_answer env (doxyInv_run env evs fl _ (doxyInv_init env)) fl' o

/-- Over every run of polls, `output_dir` is unset or the node of the configured
`OUTPUT_DIRECTORY`, and a poll that finds every `run_after` task run and does not raise leaves
it set: the scheduler never runs the task, nor `post_run`, without it. -/
theorem doxygen_output_dir (fl : List Bool) (evs : List DoxyEvent) :
    ((doxyRun env (fl, DoxyTask.init) evs).2.outputDir = none ∨
      (doxyRun env (fl, DoxyTask.init) evs).2.outputDir = some (outputDirNode env)) ∧
    ∀ (fl' : List Bool) (o : PollOutcome) (x : Status), fl'.all id = true →
      (runnableStatus env fl' o (doxyRun env (fl, DoxyTask.init) evs).2).2 = .ok x →
      (runnableStatus env fl' o (doxyRun env (fl, DoxyTask.init) evs).2).1.outputDir =
        some (outputDirNode env) := by
  have h := doxyInv_run env evs fl _ (doxyInv_init env)
  refine ⟨h.elim (fun h => .inl h.2.2) (fun h => h.2.2), fun fl' o x hall hok => ?_⟩
  rcases h with ⟨hp, hd, ho⟩ | ⟨hp, hd, ho⟩
  · rw [runnableStatus_unconfigured env hp hd ho hall] at hok ⊢
    cases hr : o.readOk <;> simp only [hr, if_true, Bool.false_eq_true, if_false] at hok ⊢
    · cases hok
    · cases he : (configuredInputs env []).2 <;> simp only [he] at hok ⊢
      cases hok
  · rw [runnableStatus_configured env hp ho hall]

end Polls

section Scheduler

variable (env : DoxyEnv (List Str)) (abspath : List Str → Str)

structure FeatureState where
  ranAfter : List Bool
  dsk : DoxyTask (List Str)
  hasrun : Bool
  outputs : List (List Str)
  payloads : List Str
  tar : TarTask (List Str)

def FeatureState.init (fl : List Bool) : FeatureState :=
  ⟨fl, DoxyTask.init, false, [], [], ⟨[], false⟩⟩

/-- A `run_after` task finishes; the doxygen task is polled; it is run, `run` and then
`post_run` over the tree the generator left; its `run` fails; it is marked done without a run
(`SKIP_ME`, `CANCEL_ME`, or a poll that raised); the tar task is polled. -/
inductive FeatureEvent
  | finish (i : Nat)
  | pollDoxygen (o : PollOutcome)
  | execute (tree : FileTree)
  | crash
  | skip
  | pollTar (base : Status)

/-- One step of the scheduler. The doxygen task runs once, `run` writing its payload from
`self.pars` and `self.doxy_inputs` and `post_run` harvesting `output_dir`, and only with these
attributes set, as every poll that lets it run has set them; a failed `run` has written its
payload, and the scheduler then sets `hasrun` without calling `post_run`. -/
def FeatureEvent.apply (s : FeatureState) : FeatureEvent → FeatureState
  | .finish i => { s with ranAfter := s.ranAfter.set i true }
  | .pollDoxygen o => { s with dsk := (runnableStatus env s.ranAfter o s.dsk).1 }
  | .execute tree =>
    match s.hasrun, s.dsk.outputDir, s.dsk.pars, s.dsk.doxyInputs with
    | false, some d, some pars, some ins =>
      { s with hasrun := true, outputs := postRun tree d s.outputs,
               payloads := s.payloads ++ [runPayload abspath pars ins] }
    | _, _, _, _ => s
  | .crash =>
    match s.hasrun, s.dsk.outputDir, s.dsk.pars, s.dsk.doxyInputs with
    | false, some _, some pars, some ins =>
      { s with hasrun := true, payloads := s.payloads ++ [runPayload abspath pars ins] }
    | _, _, _, _ => s
  | .skip => { s with hasrun := true }
  | .pollTar b => { s with tar := (tarRunnableStatus [⟨s.hasrun, s.outputs⟩] b s.tar).1 }

def featureRun (s : FeatureState) (evs : List FeatureEvent) : FeatureState :=
  evs.foldl (FeatureEvent.apply env abspath) s

/-- The doxygen task is in a reachable state; its outputs are empty until it has run and lie
below the configured output directory; it has written no payload, or, once run, the one of the
configured `pars` and `doxy_inputs`; the tar task is untouched, or has taken the doxygen task's
outputs after it ran. -/
def FeatureInv (s : FeatureState) : Prop :=
  DoxyInv env s.dsk ∧ (s.hasrun = false → s.outputs = []) ∧
    (∀ f ∈ s.outputs, outputDirNode env <+: f ∧ (outputDirNode env).length < f.length) ∧
    (s.payloads = [] ∨ (s.hasrun = true ∧
      s.payloads = [runPayload abspath (configuredPars env) (configuredInputs env []).1])) ∧
    (s.tar = ⟨[], false⟩ ∨ (s.hasrun = true ∧ s.tar = ⟨s.outputs, true⟩))

theorem featureInv_init (fl : List Bool) : FeatureInv env abspath (FeatureState.init fl) :=
  ⟨doxyInv_init env, fun _ => rfl, fun _ h => absurd h (List.not_mem_nil _), .inl rfl, .inl rfl⟩

theorem FeatureInv.runnable {s : FeatureState} (h : FeatureInv env abspath s)
    (hr : s.hasrun = false) {d : List Str} {pars : PyDict} {ins : List (List Str)}
    (hod : s.dsk.outputDir = some d) (hp : s.dsk.pars = some pars) (hi : s.dsk.doxyInputs = some ins) :
    d = outputDirNode env ∧ pars = configuredPars env ∧ ins = (configuredInputs env []).1 ∧
      s.outputs = [] ∧ s.payloads = [] ∧ s.tar = ⟨[], false⟩ := by
  obtain ⟨hd, hout, -, hpay, htar⟩ := h
  obtain ⟨hpc, hic, ho⟩ := hd.resolve_left fun h => by simp [h.2.2] at hod
  rw [hpc, Option.some.injEq] at hp
  rw [hic, Option.some.injEq] at hi
  rw [ho.resolve_left (by simp [hod]), Option.some.injEq] at hod
  exact ⟨hod.symm, hp.symm, hi.symm, hout hr, hpay.resolve_right fun h => by simp [hr] at h,
    htar.resolve_right fun h => by simp [hr] at h⟩

theorem featureInv_execute {s : FeatureState} (h : FeatureInv env abspath s) (tree : FileTree) :
    FeatureInv env abspath ((FeatureEvent.execute tree).apply env abspath s) := by
  simp only [FeatureEvent.apply]
  split
  · rename_i d pars ins hr hod hp hi
    obtain ⟨rfl, rfl, rfl, hout, hpay, htar⟩ := h.runnable env abspath hr hod hp hi
    rw [hout, hpay, htar]
    exact ⟨h.1, fun h => (by cases h), fun f hf => mem_postRun hf, .inr ⟨rfl, rfl⟩, .inl rfl⟩
  · exact h

theorem featureInv_crash {s : FeatureState} (h : FeatureInv env abspath s) :
    FeatureInv env abspath (FeatureEvent.crash.apply env abspath s) := by
  simp only [FeatureEvent.apply]
  split
  · rename_i d pars ins hr hod hp hi
    obtain ⟨-, rfl, rfl, hout, hpay, htar⟩ := h.runnable env abspath hr hod hp hi
    rw [hout, hpay, htar]
    exact ⟨h.1, fun h => (by cases h), fun _ h => (by cases h), .inr ⟨rfl, rfl⟩, .inl rfl⟩
  · exact h

theorem featureInv_pollTar {s : FeatureState} (h : FeatureInv env abspath s) (b : Status) :
    FeatureInv env abspath ((FeatureEvent.pollTar b).apply env abspath s) := by
  obtain ⟨hd, hout, hbelow, hpay, htar⟩ := h
  refine ⟨hd, hout, hbelow, hpay, ?_⟩
  simp only [FeatureEvent.apply, tarRunnableStatus, List.all_cons, List.all_nil, Bool.and_true,
    List.foldl_cons, List.foldl_nil]
  cases hr : s.hasrun
  · simpa [hr] using htar
  · rcases htar with ht | ht <;> simp [ht]

theorem featureInv_apply {s : FeatureState} (h : FeatureInv env abspath s) (ev : FeatureEvent) :
    FeatureInv env abspath (ev.apply env abspath s) := by
  cases ev with
  | finish i => exact h
  | pollDoxygen o => exact ⟨doxyInv_poll env h.1 _ o, h.2⟩
  | execute tree => exact featureInv_execute env abspath h tree
  | crash => exact featureInv_crash env abspath h
  | skip =>
    obtain ⟨hd, -, hbelow, hpay, htar⟩ := h
    exact ⟨hd, fun h => (by cases h), hbelow, hpay.imp_right fun h => ⟨rfl, h.2⟩,
      htar.imp_right fun h => ⟨rfl, h.2⟩⟩
  | pollTar b => exact featureInv_pollTar env abspath h b

theorem featureInv_run (evs : List FeatureEvent) :
    ∀ s : FeatureState, FeatureInv env abspath s →
      FeatureInv env abspath (featureRun env abspath s evs) := by
  induction evs with
  | nil => exact fun s h => h
  | cons ev evs ih => exact fun s h => ih _ (featureInv_apply env abspath h ev)

/-- Over every interleaving of the two tasks' polls, the `run_after` tasks finishing and the
doxygen task running, failing or being skipped, the tar task has no inputs until it takes them, takes
them only after the doxygen task has run, then holds exactly the doxygen task's outputs, and
archives only files below the configured `OUTPUT_DIRECTORY`. -/
theorem feature_tar_archives_output_dir (fl : List Bool) (evs : List FeatureEvent) :
    ((featureRun env abspath (FeatureState.init fl) evs).tar.tarDoneAdding = false →
      (featureRun env abspath (FeatureState.init fl) evs).tar.inputs = []) ∧
    ((featureRun env abspath (FeatureState.init fl) evs).tar.tarDoneAdding = true →
      (featureRun env abspath (FeatureState.init fl) evs).hasrun = true ∧
      (featureRun env abspath (FeatureState.init fl) evs).tar.inputs =
        (featureRun env abspath (FeatureState.init fl) evs).outputs) ∧
    ∀ f ∈ (featureRun env abspath (FeatureState.init fl) evs).tar.inputs,
      outputDirNode env <+: f ∧ (outputDirNode env).length < f.length := by
  obtain ⟨-, -, hbelow, -, htar⟩ := featureInv_run env abspath evs _ (featureInv_init env abspath fl)
  rcases htar with ht | ⟨hr, ht⟩ <;> rw [ht]
  · exact ⟨fun _ => rfl, fun h => (by cases h), fun _ h => (by cases h)⟩
  · exact ⟨fun h => (by cases h), fun _ => ⟨hr, rfl⟩, hbelow⟩

/-- Over every interleaving, `doxygen.run` writes at most one payload, and only after the task
was configured: the one built from the configured `pars` with `INPUT` naming the configured
`doxy_inputs`: `run` reads `self.pars` only after `runnable_status` has filled it. -/
theorem feature_run_payload (fl : List Bool) (evs : List FeatureEvent) :
    (featureRun env abspath (FeatureState.init fl) evs).payloads = [] ∨
      (featureRun env abspath (FeatureState.init fl) evs).hasrun = true ∧
      (featureRun env abspath (FeatureState.init fl) evs).payloads =
        [runPayload abspath (configuredPars env) (configuredInputs env []).1] :=
  (featureInv_run env abspath evs _ (featureInv_init env abspath fl)).2.2.2.1

end Scheduler

end WafDoxygen
