import WafDoxygen.Payload

/-!
# The doxygen task and its status polls

`doxygen.runnable_status` answers `ASK_LATER` while a `run_after` task has not run. At the
first poll past that gate it reads the Doxyfile, defaults `OUTPUT_DIRECTORY`, applies the task
generator's `pars` and sets `doxy_inputs`; later polls skip all of it because `pars` is never
empty again. Then it fixes `output_dir` once, calls `self.signature()` and defers to
`Task.runnable_status`. The build system's nodes are a type parameter and its lookups are fields
of `DoxyEnv`; whether the read of the Doxyfile and the signature return, and the answer of
`Task.runnable_status`, are given with each poll. A run is a list of polls and of `run_after`
tasks finishing, whose `hasrun` flags only go from false to true.
-/

namespace WafDoxygen

inductive Status
  | askLater
  | skipMe
  | runMe
  | cancelMe
deriving DecidableEq, Repr

/-- The errors a poll raises: from `self.inputs[0].read()`, the
`bld.fatal('Could not find the doxygen input %r' % i)`, the `KeyError` of
`self.pars['OUTPUT_DIRECTORY']`, and from `self.signature()`. -/
inductive DoxyError
  | readError
  | inputNotFound (path : Str)
  | keyError (key : Str)
  | signatureError
deriving DecidableEq, Repr

/-- What one doxygen task reads from the build context: the Doxyfile's text, its directory
`self.inputs[0].parent` and that directory's build path, the generator's `pars`, and the
lookups `bld.root.find_node`, `self.generator.path.find_node`, `bld.root.find_dir` and
`bld.path.find_or_declare`. -/
structure DoxyEnv (Node : Type) where
  doxyfileText : Str
  doxyfileDir : Node
  doxyfileDirBld : Str
  generatorPars : Option PyDict
  rootFindNode : Str → Option Node
  pathFindNode : Str → Option Node
  rootFindDir : Str → Option Node
  findOrDeclare : Str → Node

/-- How the parts of a poll that the build system computes come out: whether
`self.inputs[0].read()` and `self.signature()` return, and what `Task.runnable_status` answers. -/
structure PollOutcome where
  readOk : Bool
  signatureOk : Bool
  base : Status
deriving DecidableEq, Repr

def PollOutcome.answer (o : PollOutcome) : Except DoxyError Status :=
  if o.signatureOk then .ok o.base else .error .signatureError

/-- The task's own attributes; `none` is an attribute not yet set. `reads` counts the reads
of the Doxyfile that returned. -/
structure DoxyTask (Node : Type) where
  pars : Option PyDict
  doxyInputs : Option (List Node)
  outputDir : Option Node
  reads : Nat

namespace DoxyTask

def init {Node : Type} : DoxyTask Node := ⟨none, none, none, 0⟩

end DoxyTask

def outputDirectoryKey : Str := "OUTPUT_DIRECTORY".toList

def blank (v : Option Str) : Bool := v.getD [] = []

def isabs (p : Str) : Bool := startswith p ['/']

variable {Node : Type} (env : DoxyEnv Node)

/-- `parse_doxy` of the Doxyfile, `OUTPUT_DIRECTORY` defaulted, the generator's `pars` applied. -/
def configuredPars : PyDict :=
  let pars := parseDoxy env.doxyfileText
  let pars := if blank (pars.get outputDirectoryKey) then
      pars.set outputDirectoryKey env.doxyfileDirBld else pars
  match env.generatorPars with
  | some o => if o.entries.isEmpty then pars else pars.update o
  | none => pars

def findInput (i : Str) : Option Node :=
  if isabs i then env.rootFindNode i else env.pathFindNode i

def resolveInputs : List Str → List Node → List Node × Option DoxyError
  | [], acc => (acc, none)
  | i :: is, acc =>
    match findInput env i with
    | some n => resolveInputs is (acc ++ [n])
    | none => (acc, some (.inputNotFound i))

def configuredInputs (start : List Node) : List Node × Option DoxyError :=
  let pars := configuredPars env
  if blank (pars.get inputKey) then (start ++ [env.doxyfileDir], none)
  else resolveInputs env (splitWs ((pars.get inputKey).getD [])) start

def configure (t : DoxyTask Node) : DoxyTask Node × Option DoxyError :=
  let r := configuredInputs env (t.doxyInputs.getD [])
  ({ t with pars := some (configuredPars env), doxyInputs := some r.1, reads := t.reads + 1 }, r.2)

def parsUnset : Option PyDict → Bool
  | none => true
  | some d => d.entries.isEmpty

def setOutputDir (t : DoxyTask Node) : DoxyTask Node × Option DoxyError :=
  match t.outputDir with
  | some _ => (t, none)
  | none =>
    match t.pars.bind (·.get outputDirectoryKey) with
    | none => (t, some (.keyError outputDirectoryKey))
    | some d => ({ t with outputDir := some ((env.rootFindDir d).getD (env.findOrDeclare d)) }, none)

/-- `doxygen.runnable_status`, given the `hasrun` flags of `run_after`. A raised error leaves the
attributes set so far; a read that raises comes before any of them. -/
def runnableStatus (ranAfter : List Bool) (o : PollOutcome) (t : DoxyTask Node) :
    DoxyTask Node × Except DoxyError Status :=
  if ranAfter.all id then
    if parsUnset t.pars && !o.readOk then (t, .error .readError) else
    let c := if parsUnset t.pars then configure env t else (t, none)
    match c.2 with
    | some e => (c.1, .error e)
    | none =>
      let s := setOutputDir env c.1
      (s.1, match s.2 with
        | some e => .error e
        | none => o.answer)
  else (t, .ok .askLater)

theorem get_defaulted (pars : PyDict) (d k : Str) :
    (if blank (pars.get outputDirectoryKey) then pars.set outputDirectoryKey d else pars).get k =
      if k = outputDirectoryKey ∧ blank (pars.get k) then some d else pars.get k := by
  by_cases hk : k = outputDirectoryKey
  · subst hk; split_ifs <;> simp_all
  · split_ifs <;> simp_all

theorem get_configuredPars (k : Str) :
    (configuredPars env).get k =
      ((env.generatorPars.getD PyDict.empty).get k).or
        (if k = outputDirectoryKey ∧ blank ((parseDoxy env.doxyfileText).get k) then
          some env.doxyfileDirBld else (parseDoxy env.doxyfileText).get k) := by
  rw [configuredPars]
  rcases env.generatorPars with _ | o
  · simp only [get_defaulted]; rfl
  · by_cases ho : o.entries.isEmpty
    · have : o.get k = none := by
        simp [PyDict.get, List.isEmpty_iff.1 ho, lookupEntry]
      simp only [ho, if_true, get_defaulted, Option.getD_some, this, Option.none_or]
    · dsimp only
      rw [if_neg ho, PyDict.get_update, get_defaulted]
      rfl

theorem outputDirectory_mem_configuredPars : outputDirectoryKey ∈ (configuredPars env).keys := by
  rw [← PyDict.get_isSome_iff, get_configuredPars, Option.isSome_or, Bool.or_eq_true]
  refine Or.inr ?_
  split_ifs with h
  · rfl
  · cases hg : (parseDoxy env.doxyfileText).get outputDirectoryKey
    · simp [blank, hg] at h
    · rfl

theorem parsUnset_configuredPars : parsUnset (some (configuredPars env)) = false := by
  have h := outputDirectory_mem_configuredPars env
  cases hc : (configuredPars env).entries with
  | nil => simp [PyDict.keys, hc] at h
  | cons e es => simp [parsUnset, hc]

theorem configuredPars_overrides_win :
    (∀ k, k ≠ outputDirectoryKey → (configuredPars env).get k =
      ((env.generatorPars.getD PyDict.empty).get k).or ((parseDoxy env.doxyfileText).get k)) ∧
    (configuredPars env).get outputDirectoryKey =
      ((env.generatorPars.getD PyDict.empty).get outputDirectoryKey).or
        (if blank ((parseDoxy env.doxyfileText).get outputDirectoryKey) then
          some env.doxyfileDirBld else (parseDoxy env.doxyfileText).get outputDirectoryKey) :=
  ⟨fun k hk => by rw [get_configuredPars, if_neg (fun h => hk h.1)],
    by rw [get_configuredPars]; simp⟩

/-- A generator `pars` that sets `OUTPUT_DIRECTORY` to the empty string leaves it blank. -/
theorem configuredPars_blank_output_directory :
    blank ((configuredPars (⟨[], (), "/build/docs".toList,
      some ⟨[("OUTPUT_DIRECTORY".toList, [])], by decide⟩, fun _ => none, fun _ => none,
      fun _ => none, fun _ => ()⟩ : DoxyEnv Unit)).get outputDirectoryKey) = true := by
  rw [(configuredPars_overrides_win _).2]
  decide

def DoxyTask.configState (t : DoxyTask Node) : Option PyDict × Option (List Node) × Nat :=
  (t.pars, t.doxyInputs, t.reads)

theorem configState_setOutputDir (t : DoxyTask Node) :
    (setOutputDir env t).1.configState = t.configState := by
  unfold setOutputDir
  split
  · rfl
  · split <;> rfl

theorem configState_runnableStatus (fl : List Bool) (o : PollOutcome) (t : DoxyTask Node) :
    (runnableStatus env fl o t).1.configState =
      (if fl.all id ∧ parsUnset t.pars ∧ o.readOk then (configure env t).1 else t).configState := by
  have key : ∀ c : DoxyTask Node × Option DoxyError,
      (match c.2 with
        | some e => (c.1, Except.error e)
        | none => ((setOutputDir env c.1).1, match (setOutputDir env c.1).2 with
          | some e => Except.error e
          | none => o.answer)).1.configState = c.1.configState := by
    rintro ⟨c, _ | e⟩
    · exact configState_setOutputDir env c
    · rfl
  by_cases hall : fl.all id <;> by_cases hp : parsUnset t.pars <;> cases hr : o.readOk <;>
    simp [runnableStatus, hall, hp, hr, key, configState_setOutputDir]

theorem runnableStatus_waiting {fl : List Bool} (h : false ∈ fl) (o : PollOutcome)
    (t : DoxyTask Node) : runnableStatus env fl o t = (t, .ok .askLater) := by
  have : fl.all id = false := by
    rw [Bool.eq_false_iff]
    intro hall
    exact absurd (List.all_eq_true.1 hall false h) Bool.false_ne_true
  simp [runnableStatus, this]

inductive DoxyEvent
  | finish (i : Nat)
  | poll (o : PollOutcome)

def doxyStep : List Bool × DoxyTask Node → DoxyEvent → List Bool × DoxyTask Node
  | (fl, t), .finish i => (fl.set i true, t)
  | (fl, t), .poll o => (fl, (runnableStatus env fl o t).1)

def doxyRun (s : List Bool × DoxyTask Node) (evs : List DoxyEvent) : List Bool × DoxyTask Node :=
  evs.foldl (doxyStep env) s

def readyPoll : List Bool → List DoxyEvent → Bool
  | _, [] => false
  | fl, .finish i :: evs => readyPoll (fl.set i true) evs
  | fl, .poll o :: evs => (fl.all id && o.readOk) || readyPoll fl evs

def ConfigPhase (ready : Bool) (t : DoxyTask Node) : Prop :=
  t.configState = if ready then (some (configuredPars env), some (configuredInputs env []).1, 1)
    else (none, none, 0)

theorem configPhase_poll {r : Bool} {t : DoxyTask Node} (h : ConfigPhase env r t) (fl : List Bool)
    (o : PollOutcome) :
    ConfigPhase env (r || (fl.all id && o.readOk)) (runnableStatus env fl o t).1 := by
  unfold ConfigPhase at *
  rw [configState_runnableStatus]
  cases r
  · simp only [DoxyTask.configState, Bool.false_eq_true, if_false, Prod.mk.injEq] at h
    obtain ⟨hp, hd, hr⟩ := h
    by_cases hall : fl.all id <;> cases ho : o.readOk <;>
      simp [hall, ho, hp, hd, hr, parsUnset, configure, DoxyTask.configState]
  · simp only [DoxyTask.configState, if_true, Prod.mk.injEq] at h
    simp [h.1, parsUnset_configuredPars, DoxyTask.configState, h.2.1, h.2.2]

theorem configPhase_run (evs : List DoxyEvent) : ∀ (fl : List Bool) (r : Bool) (t : DoxyTask Node),
    ConfigPhase env r t → ConfigPhase env (r || readyPoll fl evs) (doxyRun env (fl, t) evs).2 := by
  induction evs with
  | nil => intro fl r t h; simpa [readyPoll, doxyRun] using h
  | cons ev evs ih =>
    intro fl r t h
    cases ev with
    | finish i => simpa [readyPoll, doxyRun, doxyStep] using ih (fl.set i true) r t h
    | poll o =>
      have := ih fl _ _ (configPhase_poll env h fl o)
      simpa [readyPoll, doxyRun, doxyStep, Bool.or_assoc] using this

/-- The status polls of a doxygen task: a poll while a `run_after` task has not run answers
`ASK_LATER` and changes nothing; over any run from the initial attributes, the Doxyfile has
been read once and `pars` and `doxy_inputs` hold what that one configuration computed exactly
when some poll found every `run_after` task run and read the Doxyfile, and otherwise nothing has
been read or set. -/
theorem doxygen_configures_once :
    (∀ (fl : List Bool) (o : PollOutcome) (t : DoxyTask Node), false ∈ fl →
      runnableStatus env fl o t = (t, .ok .askLater)) ∧
    ∀ (fl : List Bool) (evs : List DoxyEvent),
      (doxyRun env (fl, DoxyTask.init) evs).2.configState =
        if readyPoll fl evs then (some (configuredPars env), some (configuredInputs env []).1, 1)
        else (none, none, 0) :=
  ⟨fun _ o t h => runnableStatus_waiting env h o t,
    fun fl evs => by
      have := configPhase_run env evs fl false DoxyTask.init rfl
      rwa [Bool.false_or] at this⟩

def runDict (abspath : Node → Str) (pars : PyDict) (doxyInputs : List Node) : PyDict :=
  pars.set inputKey (inputValue abspath doxyInputs)

theorem runPayload_eq_payloadText {abspath : Node → Str} {pars : PyDict} (hin : inputKey ∈ pars.keys)
    (doxyInputs : List Node) :
    runPayload abspath pars doxyInputs =
      payloadText (runDict abspath pars doxyInputs).keys (runDict abspath pars doxyInputs) := by
  rw [runPayload, runDict, PyDict.keys_set, if_pos hin]

theorem payloadText_set_of_not_mem {keys : List Str} {k : Str} (hk : k ∉ keys) (d : PyDict) (v : Str) :
    payloadText keys (d.set k v) = payloadText keys d := by
  rw [payloadText, payloadText, List.map_congr_left fun x hx => by
    rw [PyDict.get_set, if_neg fun h : x = k => hk (h ▸ hx)]]

/-- Without `INPUT` in `self.pars`, the copy `dct` is `self.pars` with that entry at the end, so
what makes `dct` round-trip makes `self.pars` round-trip. -/
theorem roundTrip_of_runDict {abspath : Node → Str} {pars : PyDict} {doxyInputs : List Node}
    (hin : inputKey ∉ pars.keys)
    (hrt : WellFormed (runDict abspath pars doxyInputs) ∧ Serializable (runDict abspath pars doxyInputs)) :
    WellFormed pars ∧ Serializable pars := by
  have he : (runDict abspath pars doxyInputs).entries =
      pars.entries ++ [(inputKey, inputValue abspath doxyInputs)] := setEntry_of_not_mem hin _
  obtain ⟨hw, hs, hb⟩ := hrt
  rw [he] at hs hb
  refine ⟨fun e h => hw e (by rw [he]; exact List.mem_append_left _ h),
    fun e h => hs e (List.mem_append_left _ h), fun e h => hb e ?_⟩
  rw [List.dropLast_concat]
  exact List.mem_of_mem_dropLast h

/-- When the copy `dct` is well formed and serializable, the payload reads back as `dct` when
`self.pars` has an `INPUT` key and as `self.pars` otherwise: it names `doxy_inputs` exactly when
the map has an `INPUT` key. -/
theorem runPayload_names_doxy_inputs (abspath : Node → Str) (pars : PyDict) (doxyInputs : List Node)
    (hrt : WellFormed (runDict abspath pars doxyInputs) ∧ Serializable (runDict abspath pars doxyInputs)) :
    parseDoxy (runPayload abspath pars doxyInputs) =
        (if inputKey ∈ pars.keys then runDict abspath pars doxyInputs else pars) ∧
      (parseDoxy (runPayload abspath pars doxyInputs)).get inputKey =
        if inputKey ∈ pars.keys then some (inputValue abspath doxyInputs) else none := by
  by_cases hin : inputKey ∈ pars.keys
  · rw [runPayload_eq_payloadText hin, parseDoxy_payloadText hrt.1 hrt.2, if_pos hin, if_pos hin]
    exact ⟨rfl, by simp [runDict]⟩
  · obtain ⟨hw, hs⟩ := roundTrip_of_runDict hin hrt
    rw [runPayload, payloadText_set_of_not_mem hin, parseDoxy_payloadText hw hs, if_neg hin,
      if_neg hin]
    exact ⟨rfl, Option.not_isSome_iff_eq_none.1 (mt (PyDict.get_isSome_iff _ _).1 hin)⟩

def ndnsEnv (text : Str) (o : Option PyDict) : DoxyEnv Str :=
  ⟨text, "/ndns/docs".toList, "/ndns/build/docs".toList, o, some, fun p => some ("/ndns/docs/".toList ++ p),
    fun _ => none, fun p => "/ndns/build/".toList ++ p⟩

/-- A Doxyfile without `INPUT`: `doxy_inputs` is the Doxyfile's directory, but `run` sets `INPUT`
only in its copy and writes the keys of `self.pars`, so the payload has no `INPUT` line. -/
theorem runPayload_without_input_key_ndns :
    (configuredInputs (ndnsEnv "RECURSIVE = YES".toList none) []).1 = ["/ndns/docs".toList] ∧
    (parseDoxy (runPayload id (configuredPars (ndnsEnv "RECURSIVE = YES".toList none))
      (configuredInputs (ndnsEnv "RECURSIVE = YES".toList none) []).1)).get inputKey = none :=
  ⟨by decide, (runPayload_names_doxy_inputs id _ _ (by decide)).2.trans (if_neg (by decide))⟩

/-- The words of `INPUT` up to the first one not found give their nodes in order, and the
error names that first word. -/
theorem resolveInputs_eq (ws : List Str) (acc : List Node) :
    resolveInputs env ws acc =
      (acc ++ (ws.takeWhile fun i => (findInput env i).isSome).filterMap (findInput env),
        (ws.find? fun i => (findInput env i).isNone).map .inputNotFound) := by
  induction ws generalizing acc with
  | nil => simp [resolveInputs]
  | cons i ws ih =>
    rcases h : findInput env i with _ | n
    · simp [resolveInputs, h]
    · simp [resolveInputs, h, ih]

end WafDoxygen
