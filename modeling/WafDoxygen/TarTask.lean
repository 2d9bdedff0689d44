import WafDoxygen.DoxygenTask

/-!
# The tar task

`tar.runnable_status` waits for its `input_tasks`, then, once, takes their outputs as its
inputs and skips itself when there are none; every later poll defers to
`Task.runnable_status`. The producers' `hasrun` flags only go from false to true, and their
outputs are frozen once they have run. `process_doxy` creates the task and picks the `tar`
options from the archive's name.
-/

namespace WafDoxygen

variable {Node : Type}

/-- What the tar task reads of one of its `input_tasks`: `hasrun` is true once it has run, been
skipped or failed, which all make it truthy. -/
structure Producer (Node : Type) where
  hasrun : Bool
  outputs : List Node

structure TarTask (Node : Type) where
  inputs : List Node
  tarDoneAdding : Bool

/-- `tar.runnable_status`, given its input tasks and the answer `base` of
`Task.runnable_status`. -/
def tarRunnableStatus (inputTasks : List (Producer Node)) (base : Status) (t : TarTask Node) :
    TarTask Node × Status :=
  if inputTasks.all (·.hasrun) then
    if t.tarDoneAdding then (t, base)
    else
      let inputs := inputTasks.foldl (fun ins x => ins ++ x.outputs) t.inputs
      (⟨inputs, true⟩, if inputs.isEmpty then .skipMe else base)
  else (t, .askLater)

inductive TarEvent (Node : Type)
  | produce (i : Nat) (outs : List Node)
  | finish (i : Nat)
  | poll (base : Status)

structure TarSystem (Node : Type) where
  producers : List (Producer Node)
  tar : TarTask Node

def TarSystem.allRun (s : TarSystem Node) : Bool := s.producers.all (·.hasrun)

def TarSystem.pooled (s : TarSystem Node) : List Node := (s.producers.map (·.outputs)).flatten

def Producer.produce (outs : List Node) (p : Producer Node) : Producer Node :=
  if p.hasrun then p else { p with outputs := outs }

def Producer.finish (p : Producer Node) : Producer Node := { p with hasrun := true }

def tarStep (s : TarSystem Node) : TarEvent Node → TarSystem Node
  | .produce i outs => { s with producers := s.producers.modify (Producer.produce outs) i }
  | .finish i => { s with producers := s.producers.modify Producer.finish i }
  | .poll b => { s with tar := (tarRunnableStatus s.producers b s.tar).1 }

def tarRun (s : TarSystem Node) (evs : List (TarEvent Node)) : TarSystem Node := evs.foldl tarStep s

def TarEvent.isPoll : TarEvent Node → Bool
  | .poll _ => true
  | _ => false

def tarReadyPoll : TarSystem Node → List (TarEvent Node) → Bool
  | _, [] => false
  | s, ev :: evs => (ev.isPoll && s.allRun) || tarReadyPoll (tarStep s ev) evs

theorem modify_eq_self {α : Type} {f : α → α} {l : List α} (h : ∀ x ∈ l, f x = x) (n : Nat) :
    l.modify f n = l := by
  induction l generalizing n with
  | nil => cases n <;> rfl
  | cons a l ih =>
    cases n with
    | zero => simp [List.modify, h a (List.mem_cons_self a l)]
    | succ n =>
      show a :: l.modify f n = a :: l
      rw [ih (fun x hx => h x (.tail _ hx))]

theorem foldl_append_outputs (ps : List (Producer Node)) (acc : List Node) :
    ps.foldl (fun ins x => ins ++ x.outputs) acc = acc ++ (ps.map (·.outputs)).flatten := by
  induction ps generalizing acc with
  | nil => simp
  | cons p ps ih => simp [ih, List.append_assoc]

theorem producers_tarStep_of_allRun {s : TarSystem Node} (h : s.allRun = true) (ev : TarEvent Node) :
    (tarStep s ev).producers = s.producers := by
  have hall : ∀ p ∈ s.producers, p.hasrun = true := by simpa [TarSystem.allRun] using h
  cases ev with
  | produce i outs => exact modify_eq_self (fun p hp => by simp [Producer.produce, hall p hp]) i
  | finish i =>
    exact modify_eq_self (fun ⟨r, o⟩ hp => by obtain rfl : r = true := hall _ hp; rfl) i
  | poll b => rfl

def TarPhase : Bool → TarSystem Node → Prop
  | false, s => s.tar = ⟨[], false⟩
  | true, s => s.allRun = true ∧ s.tar = ⟨s.pooled, true⟩

theorem tarRunnableStatus_fresh {s : TarSystem Node} (h : TarPhase false s) (b : Status) :
    tarRunnableStatus s.producers b s.tar =
      if s.allRun then (⟨s.pooled, true⟩, if s.pooled.isEmpty then .skipMe else b)
      else (s.tar, .askLater) := by
  have ht : s.tar = ⟨[], false⟩ := h
  simp only [tarRunnableStatus, ht, foldl_append_outputs, List.nil_append, TarSystem.allRun,
    TarSystem.pooled, Bool.false_eq_true, if_false]

theorem tarRunnableStatus_pulled {s : TarSystem Node} (h : TarPhase true s) (b : Status) :
    tarRunnableStatus s.producers b s.tar = (s.tar, b) := by
  have hall : s.producers.all (·.hasrun) = true := h.1
  simp only [tarRunnableStatus, hall, h.2, if_true]

theorem tarStep_pulled {s : TarSystem Node} (h : TarPhase true s) (ev : TarEvent Node) :
    tarStep s ev = s := by
  have hp := producers_tarStep_of_allRun h.1 ev
  cases ev with
  | poll b => simp only [tarStep, tarRunnableStatus_pulled h b]
  | produce i outs | finish i => simp only [tarStep] at hp ⊢; rw [hp]

theorem tarPhase_step {r : Bool} {s : TarSystem Node} (h : TarPhase r s) (ev : TarEvent Node) :
    TarPhase (r || (ev.isPoll && s.allRun)) (tarStep s ev) := by
  cases r
  · cases ev with
    | poll b =>
      have hs := tarRunnableStatus_fresh h b
      cases hall : s.allRun <;>
        simp only [tarStep, TarEvent.isPoll, hall, hs, if_true, Bool.false_eq_true, if_false,
          Bool.and_false, Bool.and_true, Bool.false_or]
      · exact h
      · exact ⟨hall, rfl⟩
    | _ => exact h
  · rw [tarStep_pulled h]; exact h

theorem tarPhase_run (evs : List (TarEvent Node)) : ∀ (r : Bool) (s : TarSystem Node),
    TarPhase r s → TarPhase (r || tarReadyPoll s evs) (tarRun s evs) := by
  induction evs with
  | nil => intro r s h; simpa [tarReadyPoll, tarRun] using h
  | cons ev evs ih =>
    intro r s h
    simpa [tarReadyPoll, tarRun, Bool.or_assoc] using ih _ _ (tarPhase_step h ev)

theorem tarRun_pulled {s : TarSystem Node} (h : TarPhase true s) (evs : List (TarEvent Node)) :
    tarRun s evs = s := by
  induction evs with
  | nil => rfl
  | cons ev evs ih => rwa [tarRun, List.foldl_cons, tarStep_pulled h]

/-- Every run of the tar task with its input tasks: the inputs stay empty until the first poll
that finds every input task run, and from then on are the input tasks' outputs in order, with
nothing changing any more. The pooling poll answers `SKIP_ME` when there are no outputs; every
later poll gives `Task.runnable_status`'s answer. -/
theorem tar_pools_outputs_once (ps : List (Producer Node)) (evs : List (TarEvent Node)) :
    let s := tarRun ⟨ps, ⟨[], false⟩⟩ evs
    let r := tarReadyPoll ⟨ps, ⟨[], false⟩⟩ evs
    s.tar.inputs = (if r then s.pooled else []) ∧
    (r = true → ∀ evs', tarRun s evs' = s) ∧
    ∀ b, (tarRunnableStatus s.producers b s.tar).2 =
      if r then b else if s.allRun then (if s.pooled.isEmpty then .skipMe else b) else .askLater := by
  intro s r
  have h : TarPhase r s := by simpa using tarPhase_run evs false ⟨ps, ⟨[], false⟩⟩ rfl
  cases hr : r <;> rw [hr] at h
  · refine ⟨by simp [show s.tar = ⟨[], false⟩ from h], by simp, fun b => ?_⟩
    rw [tarRunnableStatus_fresh h, if_neg Bool.false_ne_true]
    split_ifs <;> rfl
  · exact ⟨by simp [h.2], fun _ evs' => tarRun_pulled h evs', fun b => by
      rw [tarRunnableStatus_pulled h, if_pos rfl]⟩

/-- With one input task that ran with no outputs, the first poll skips, and a second poll gives
`Task.runnable_status`'s `RUN_ME` over the empty inputs. -/
theorem tar_repoll_runs_without_inputs :
    (tarRunnableStatus [⟨true, []⟩] .runMe (⟨[], false⟩ : TarTask Unit)).2 = .skipMe ∧
    (tarRun (⟨[⟨true, []⟩], ⟨[], false⟩⟩ : TarSystem Unit) [.poll .runMe]).tar.inputs = [] ∧
    (tarRunnableStatus [⟨true, []⟩] .runMe
      (tarRun (⟨[⟨true, []⟩], ⟨[], false⟩⟩ : TarSystem Unit) [.poll .runMe]).tar).2 = .runMe := by
  decide

def tarOpts (doxyTar : Str) : List Str :=
  if endswith doxyTar "bz2".toList then ["cjf".toList]
  else if endswith doxyTar "gz".toList then ["czf".toList]
  else ["cf".toList]

inductive DoxyfileAttr (Node : Type)
  | node (n : Node)
  | path (p : Str)

/-- How `process_doxy` stops. Without a Doxyfile it calls `self.generator.bld.fatal('no doxyfile??')`
on the task generator itself, which has no attribute `generator`, so Python raises
`AttributeError` before `fatal` runs; a path that `find_resource` misses raises
`ValueError('doxygen file not found')`. -/
inductive ProcessError
  | attributeError (name : Str)
  | valueError (msg : Str)
deriving DecidableEq, Repr

structure TarSetup (Node : Type) where
  output : Node
  taropts : List Str

structure DoxySetup (Node : Type) where
  doxyfile : Node
  tar : Option (TarSetup Node)

/-- The Doxyfile node of `process_doxy`: a missing or empty attribute is unset, as
`getattr(self, 'doxyfile', None)` tested for truth is; a path is looked up with `find_resource`. -/
def doxyfileNode (findResource : Str → Option Node) :
    Option (DoxyfileAttr Node) → Except ProcessError Node
  | none | some (.path []) => .error (.attributeError "generator".toList)
  | some (.node n) => .ok n
  | some (.path p) =>
    match findResource p with
    | some n => .ok n
    | none => .error (.valueError "doxygen file not found".toList)

def tarSetup (findOrDeclare : Str → Node) : Option Str → Option (TarSetup Node)
  | some n => if n.isEmpty then none else some ⟨findOrDeclare n, tarOpts n⟩
  | none => none

def processDoxy (findResource : Str → Option Node) (findOrDeclare : Str → Node)
    (doxyfile : Option (DoxyfileAttr Node)) (doxyTar : Option Str) :
    Except ProcessError (DoxySetup Node) := do
  let n ← doxyfileNode findResource doxyfile
  return ⟨n, tarSetup findOrDeclare doxyTar⟩

/-- When `process_doxy` succeeds, it creates the tar task exactly when `doxy_tar` is set and
non-empty, with the options its name selects. -/
theorem processDoxy_tar {findResource : Str → Option Node} {findOrDeclare : Str → Node}
    {doxyfile : Option (DoxyfileAttr Node)} {doxyTar : Option Str} {r : DoxySetup Node}
    (h : processDoxy findResource findOrDeclare doxyfile doxyTar = .ok r) :
    r.tar = (doxyTar.filter (!·.isEmpty)).map fun n => ⟨findOrDeclare n, tarOpts n⟩ := by
  have key : r.tar = tarSetup findOrDeclare doxyTar := by
    simp only [processDoxy] at h
    cases hn : doxyfileNode findResource doxyfile <;> rw [hn] at h <;> cases h
    rfl
  rw [key]
  rcases doxyTar with _ | _ | ⟨c, n⟩ <;> rfl

end WafDoxygen
