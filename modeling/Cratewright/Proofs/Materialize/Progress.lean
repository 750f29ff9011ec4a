import Cratewright.Proofs.Materialize.Order
import Mathlib.Data.Finset.Card

/-!
# Materialization step by step

`Catalogue.visit` calls itself for what a module requires, and the programs of a catalogue bound how deep it can go.
Here the visits that are still open are a list of tasks, so that every moment of a materialization is a state, and the
renderers are any function from inline modules to what they write. Main statement: if a finite set holds the key of
every inline module that is asked for, declared or recorded, the run comes to an end; the modules being visited have
distinct keys that are not done, and no key is rendered twice. Nothing is assumed of modules that share a key.

The measure is the number of keys that are neither entered nor done, and then the number of tasks.
-/

namespace Cratewright

open Relation (ReflTransGen)

/-- What inline modules are rendered as: a source and the manifest of what was written, or a failure. -/
abbrev Rendering := InlineDependency → Except CodegenError (String × Manifest)

/-- What is left to do in a materialization: to visit a dependency, or to add a module after all that it requires. -/
inductive Task
  | visit (dependency : Dependency)
  | finish (definition : InlineDependency) (source : String)

/-- The keys of the modules that some tasks finish, the last of them first. -/
def Task.finished : List Task → List DependencyKey
  | [] => []
  | .visit _ :: rest => finished rest
  | .finish definition _ :: rest => finished rest ++ [definition.key]

/-- Tasks that visit have no key to finish. -/
theorem Task.finished_visits (required : List Dependency) (rest : List Task) :
    finished (required.map .visit ++ rest) = finished rest := by
  induction required with
  | nil => rfl
  | cons first others ih => rwa [List.map_cons, List.cons_append, finished]

/-- A moment of a materialization. The keys in `entered` are the modules whose requirements are being visited,
outermost first, and those in `runs` the modules whose renderer was run, in the order of running. -/
structure Progress where
  tasks : List Task
  entered : List DependencyKey := []
  materialized : Materialized := {}
  runs : List DependencyKey := []
  failure : Option CodegenError := none

namespace Progress

/-- The start of a materialization. -/
def start (roots : List Dependency) : Progress := { tasks := roots.map .visit }

/-- Ends the materialization with a failure. -/
def stop (progress : Progress) (failure : CodegenError) : Progress := { progress with failure := some failure }

/-- Goes on with other tasks and what has been materialized by now. -/
def commit (progress : Progress) (rest : List Task) : Except CodegenError Materialized → Progress
  | .ok materialized => { progress with tasks := rest, materialized }
  | .error failure => progress.stop failure

/-- Runs the renderer of an inline module and goes on with what the module requires. -/
def enter (render : Rendering) (progress : Progress) (definition : InlineDependency) (rest : List Task) : Progress :=
  let inside := { progress with
    entered := progress.entered ++ [definition.key]
    runs := progress.runs ++ [definition.key] }
  match render definition with
  | .ok (source, written) =>
    { inside with tasks := (definition.requirements written).map .visit ++ .finish definition source :: rest }
  | .error failure => inside.stop failure

/-- Does a task. -/
def perform (render : Rendering) (progress : Progress) (rest : List Task) : Task → Progress
  | .visit (.crate declaration) => progress.commit rest (progress.materialized.record (.crate declaration))
  | .visit (.inline definition) =>
    if progress.materialized.has definition.key then { progress with tasks := rest }
    else if definition.key ∈ progress.entered then
      progress.stop (.cyclicInline ((requirementCycle progress.entered definition.key).map DependencyKey.text))
    else progress.enter render definition rest
  | .finish definition source =>
    commit { progress with entered := progress.entered.dropLast } rest
      ((progress.materialized.record (.inline definition)).map (·.add definition source))

/-- Does the first task, unless there is none or the materialization has failed. -/
def step (render : Rendering) (progress : Progress) : Option Progress :=
  match progress.failure, progress.tasks with
  | none, task :: rest => some (progress.perform render rest task)
  | _, _ => none

/-- Whether some number of steps lead from one moment to another. -/
def Run (render : Rendering) : Progress → Progress → Prop :=
  ReflTransGen fun progress next => progress.step render = some next

/-- What the materialization has come to. -/
def outcome (progress : Progress) : Except CodegenError Materialized :=
  match progress.failure with
  | none => .ok progress.materialized
  | some failure => .error failure

/-- Whether modules with allowed keys, extras included, record allowed keys only. -/
def Closed (render : Rendering) (allowed : List DependencyKey) : Prop :=
  ∀ {definition source written}, (Dependency.inline definition).Within allowed →
    render definition = .ok (source, written) → written.Within allowed

/-- The number of keys that are neither done nor entered. -/
def remaining (allowed : List DependencyKey) (progress : Progress) : Nat :=
  (allowed.filter (· ∉ progress.materialized.keys ++ progress.entered)).length

variable {render : Rendering} {allowed : List DependencyKey} {progress next : Progress}

/-- A step does the first of the tasks. -/
theorem step_eq_some (stepped : progress.step render = some next) :
    progress.failure = none ∧
      ∃ task rest, progress.tasks = task :: rest ∧ progress.perform render rest task = next := by
  unfold step at stepped
  split at stepped <;> cases stepped
  rename_i task rest running tasks
  exact ⟨running, task, rest, tasks, rfl⟩

/-- A materialization that has failed makes no further step. -/
theorem step_of_failure {failure : CodegenError} (failed : progress.failure = some failure) :
    progress.step render = none := by
  rw [step, failed]

/-- What holds at every moment of a materialization. -/
structure Sound (allowed : List DependencyKey) (progress : Progress) : Prop where
  distinct : progress.entered.Nodup
  fresh : ∀ key ∈ progress.entered, key ∉ progress.materialized.keys
  known : ∀ key ∈ progress.entered, key ∈ allowed
  admitted : ∀ dependency, .visit dependency ∈ progress.tasks → dependency.Within allowed
  nested : progress.failure = none → progress.entered = Task.finished progress.tasks
  once : progress.runs.Nodup
  accounted : progress.failure = none →
    ∀ key ∈ progress.runs, key ∈ progress.materialized.keys ++ progress.entered

/-- A materialization starts soundly if its roots stay within the allowed keys. -/
theorem sound_start {roots : List Dependency} (within : ∀ root ∈ roots, root.Within allowed) :
    (start roots).Sound allowed where
  distinct := .nil
  fresh := nofun
  known := nofun
  admitted := by
    intro dependency listed
    obtain ⟨root, mem, same⟩ := List.mem_map.mp listed
    cases same
    exact within dependency mem
  nested := fun _ => by
    have none : Task.finished (roots.map .visit ++ []) = [] := Task.finished_visits roots []
    rw [start, ← List.append_nil (roots.map Task.visit), none]
  once := .nil
  accounted := fun _ => nofun

/-- A failure changes nothing else. -/
theorem Sound.stop (sound : progress.Sound allowed) (failure : CodegenError) :
    (progress.stop failure).Sound allowed :=
  { sound with nested := nofun, accounted := nofun }

/-- What a step makes of a moment: a sound moment, nearer to the end unless it is the end. -/
structure Nears (allowed : List DependencyKey) (progress next : Progress) : Prop where
  sound : next.Sound allowed
  decreases : next.failure = none →
    Prod.Lex (· < ·) (· < ·) (next.remaining allowed, next.tasks.length)
      (progress.remaining allowed, progress.tasks.length)

/-- A moment that has failed is an end, so it is near enough if it is sound. -/
theorem Nears.stop {ended : Progress} (sound : ended.Sound allowed) (failure : CodegenError) :
    Nears allowed progress (ended.stop failure) where
  sound := sound.stop failure
  decreases := nofun

variable {rest : List Task} {definition : InlineDependency}

/-- A visit that enters no module leaves one task less. -/
theorem Sound.visited (sound : progress.Sound allowed) {dependency : Dependency}
    (tasks : progress.tasks = .visit dependency :: rest) {materialized : Materialized}
    (keys : materialized.keys = progress.materialized.keys) :
    Nears allowed progress { progress with tasks := rest, materialized } where
  sound := {
    distinct := sound.distinct
    fresh := by simpa only [keys] using sound.fresh
    known := sound.known
    admitted := fun required listed => sound.admitted required (tasks ▸ .tail _ listed)
    nested := by simpa only [tasks, Task.finished] using sound.nested
    once := sound.once
    accounted := by simpa only [keys] using sound.accounted }
  decreases := by
    intro _
    simp only [remaining, keys, tasks]
    exact .right _ (Nat.lt_succ_self _)

/-- Entering a module that is neither done nor entered keeps what is said of entered keys and of renderers. -/
theorem Sound.inside (sound : progress.Sound allowed) (running : progress.failure = none)
    (known : definition.key ∈ allowed) (absent : definition.key ∉ progress.materialized.keys)
    (new : definition.key ∉ progress.entered) {tasks : List Task}
    (admitted : ∀ dependency, .visit dependency ∈ tasks → dependency.Within allowed) {failure : Option CodegenError}
    (nested : failure = none → progress.entered ++ [definition.key] = Task.finished tasks) :
    Sound allowed { progress with
      tasks, failure
      entered := progress.entered ++ [definition.key]
      runs := progress.runs ++ [definition.key] } where
  distinct := List.nodup_append.mpr ⟨sound.distinct, List.nodup_singleton _, by grind⟩
  fresh := by grind [sound.fresh]
  known := by grind [sound.known]
  admitted := admitted
  nested := nested
  once := by
    have unrun : definition.key ∉ progress.runs := fun ran =>
      (List.mem_append.mp (sound.accounted running _ ran)).elim absent new
    exact List.nodup_append.mpr ⟨sound.once, List.nodup_singleton _, by grind⟩
  accounted := by grind [sound.accounted running]

/-- Entering a module takes its key off those that remain. -/
theorem Sound.enter (sound : progress.Sound allowed) (running : progress.failure = none)
    (tasks : progress.tasks = .visit (.inline definition) :: rest)
    (closed : ∀ {source written}, render definition = .ok (source, written) → written.Within allowed)
    (absent : definition.key ∉ progress.materialized.keys) (new : definition.key ∉ progress.entered) :
    Nears allowed progress (progress.enter render definition rest) := by
  have within : (Dependency.inline definition).Within allowed := sound.admitted _ (tasks ▸ .head _)
  rw [Progress.enter]
  cases rendered : render definition with
  | error failure =>
    exact ⟨sound.inside running within.key_mem absent new sound.admitted nofun, nofun⟩
  | ok outcome =>
    obtain ⟨source, written⟩ := outcome
    refine ⟨sound.inside running within.key_mem absent new ?_ ?_, fun _ => .left _ _ ?_⟩
    · intro dependency listed
      rcases List.mem_append.mp listed with required | later
      · obtain ⟨other, mem, same⟩ := List.mem_map.mp required
        cases same
        exact InlineModule.within_requirements within (closed rendered) dependency mem
      · have later : .visit dependency ∈ rest := by simpa using later
        exact sound.admitted dependency (tasks ▸ .tail _ later)
    · intro _
      rw [Task.finished_visits, Task.finished, sound.nested running, tasks, Task.finished]
    · simp only [remaining, ← List.append_assoc]
      exact length_not_entered_lt within.key_mem (by simp [absent, new])

/-- Finishing a module turns the key that was entered last into one that is done. -/
theorem Sound.finish (sound : progress.Sound allowed) (running : progress.failure = none) {source : String}
    (tasks : progress.tasks = .finish definition source :: rest) :
    Nears allowed progress (progress.perform render rest (.finish definition source)) := by
  have entered : progress.entered = Task.finished rest ++ [definition.key] := by
    rw [sound.nested running, tasks, Task.finished]
  have left : progress.entered.dropLast = Task.finished rest := by rw [entered, List.dropLast_concat]
  have outside : ∀ key ∈ Task.finished rest, key ∈ progress.entered :=
    fun key mem => entered ▸ List.mem_append_left _ mem
  have distinct : (Task.finished rest).Nodup ∧ definition.key ∉ Task.finished rest := by
    have distinct := sound.distinct
    rw [entered, List.nodup_append] at distinct
    exact ⟨distinct.1, fun mem => distinct.2.2 _ mem _ List.mem_cons_self rfl⟩
  rw [perform, left]
  cases recorded : progress.materialized.record (.inline definition) with
  | error failure =>
    exact ⟨⟨distinct.1, fun key mem => sound.fresh key (outside key mem),
      fun key mem => sound.known key (outside key mem), sound.admitted, nofun, sound.once, nofun⟩, nofun⟩
  | ok after =>
    have keys : (after.add definition source).keys = progress.materialized.keys ++ [definition.key] :=
      Universe.keys_add recorded
    have same : ∀ key, key ∈ (after.add definition source).keys ++ Task.finished rest ↔
        key ∈ progress.materialized.keys ++ progress.entered := by
      simp only [keys, entered, List.mem_append]
      tauto
    refine ⟨⟨distinct.1, ?_, fun key mem => sound.known key (outside key mem), ?_, fun _ => rfl, sound.once, ?_⟩, ?_⟩
    · intro key mem done
      rcases List.mem_append.mp (keys ▸ done) with before | last
      · exact sound.fresh key (outside key mem) before
      · exact distinct.2 (List.mem_singleton.mp last ▸ mem)
    · exact fun dependency listed => sound.admitted dependency (tasks ▸ .tail _ listed)
    · exact fun _ key ran => (same key).mpr (sound.accounted running key ran)
    · intro _
      -- The key has moved from the entered to the done ones, so what decreases is the number of tasks.
      have filters : (commit { progress with entered := Task.finished rest } rest
          (.ok (after.add definition source))).remaining allowed = progress.remaining allowed := by
        simp only [remaining, commit, same]
      rw [tasks]
      exact filters ▸ .right _ (Nat.lt_succ_self _)

/-- Every task is a step towards the end. -/
theorem Sound.step (sound : progress.Sound allowed) (closed : Closed render allowed)
    (stepped : progress.step render = some next) : Nears allowed progress next := by
  obtain ⟨running, task, rest, tasks, rfl⟩ := step_eq_some stepped
  cases task with
  | finish definition source => exact sound.finish running tasks
  | visit dependency =>
    have within : dependency.Within allowed := sound.admitted _ (tasks ▸ .head _)
    cases dependency with
    | crate declaration =>
      rw [perform]
      cases recorded : progress.materialized.record (.crate declaration) with
      | ok after => exact sound.visited tasks (Materialized.keys_of_record recorded)
      | error failure => exact .stop sound failure
    | inline definition =>
      rw [perform]
      split
      · exact sound.visited tasks rfl
      · rename_i absent
        split
        · exact .stop sound _
        · rename_i new
          exact sound.enter running tasks (closed within) (mt Materialized.has_iff.mpr absent) new

/-- Every moment of a run is sound. -/
theorem Sound.run {progress last : Progress} (sound : progress.Sound allowed) (closed : Closed render allowed)
    (run : Run render progress last) : last.Sound allowed := by
  induction run with
  | refl => exact sound
  | tail _ stepped ih => exact (ih.step closed stepped).sound

/-- A sound moment leads to the end. -/
theorem Sound.exists_last (progress : Progress) (sound : progress.Sound allowed) (closed : Closed render allowed) :
    ∃ last, Run render progress last ∧ last.step render = none := by
  cases stepped : progress.step render with
  | none => exact ⟨progress, .refl, stepped⟩
  | some next =>
    have nears := sound.step closed stepped
    cases running : next.failure with
    | some failure => exact ⟨next, .single stepped, step_of_failure running⟩
    | none =>
      obtain ⟨last, run, ended⟩ := exists_last next nears.sound closed
      exact ⟨last, .head stepped run, ended⟩
termination_by (progress.remaining allowed, progress.tasks.length)
decreasing_by exact nears.decreases running

/-- The end of a materialization does not depend on how it is reached. -/
theorem Run.unique {progress last other : Progress} (run : Run render progress last) (ended : last.step render = none)
    (runOther : Run render progress other) (endedOther : other.step render = none) : last = other := by
  have alike : Relator.RightUnique fun one two : Progress => one.step render = some two :=
    fun _ _ _ one two => Option.some.inj (one.symm.trans two)
  have stays : ∀ {one two : Progress}, one.step render = none → Run render one two → one = two := by
    intro one two halted onward
    rcases onward.cases_head with same | ⟨next, stepped, -⟩
    · exact same
    · cases halted.symm.trans stepped
  rcases ReflTransGen.total_of_right_unique alike run runOther with onward | onward
  · exact stays ended onward
  · exact (stays endedOther onward).symm

/-- Whether some visits come to a result: from one moment the run gets to where only other tasks are left, or to a
failure. -/
def Comes (render : Rendering) (progress : Progress) (entered : List DependencyKey) (rest : List Task) :
    Except CodegenError Materialized → Prop
  | .ok materialized => ∃ runs, Run render progress { tasks := rest, entered, materialized, runs }
  | .error failure => ∃ last, Run render progress last ∧ last.failure = some failure

variable {entered inside : List DependencyKey} {before : Materialized} {runs : List DependencyKey} {task : Task}
  {others : List Task} {result : Except CodegenError Materialized}

/-- What a moment of a run comes to, the first moment comes to. -/
theorem Comes.trans (run : Run render progress next) (comes : Comes render next entered rest result) :
    Comes render progress entered rest result := by
  cases result with
  | ok after =>
    obtain ⟨runs, onward⟩ := comes
    exact ⟨runs, run.trans onward⟩
  | error failure =>
    obtain ⟨last, onward, failed⟩ := comes
    exact ⟨last, run.trans onward, failed⟩

/-- Visits come to what they come to after the first task. -/
theorem Comes.step
    (performed : perform render { tasks := task :: others, entered := inside, materialized := before, runs } others task
      = next)
    (comes : Comes render next entered rest result) :
    Comes render { tasks := task :: others, entered := inside, materialized := before, runs } entered rest result :=
  comes.trans (.single (congrArg some performed))

/-- Visits come to a failure if their first task does. -/
theorem Comes.stop {failure : CodegenError}
    (failed : (perform render { tasks := task :: others, entered := inside, materialized := before, runs } others
      task).failure = some failure) :
    Comes render { tasks := task :: others, entered := inside, materialized := before, runs } entered rest
      (.error failure) :=
  ⟨_, .single rfl, failed⟩

/-- The first task of visiting a module that is neither done nor entered. -/
theorem perform_enter {source : String} {written : Manifest} (absent : before.has definition.key = false)
    (new : definition.key ∉ entered) (rendered : render definition = .ok (source, written)) :
    perform render { tasks := .visit (.inline definition) :: others, entered, materialized := before, runs } others
        (.visit (.inline definition)) =
      { tasks := (definition.requirements written).map .visit ++ .finish definition source :: others
        entered := entered ++ [definition.key]
        materialized := before
        runs := runs ++ [definition.key] } := by
  simp only [perform, absent, Bool.false_eq_true, if_false, new, enter, rendered]

variable {catalogue : Catalogue} {config : RuntimeConfig}

/-- Steps come to what a walk comes to. -/
theorem comes_walk {visited : List Dependency} (walk : Walk catalogue config entered before visited result) :
    ∀ (rest : List Task) (runs : List DependencyKey), Comes (catalogue.render config)
      { tasks := visited.map .visit ++ rest, entered, materialized := before, runs } entered rest result := by
  induction walk with
  | nil => exact fun rest runs => ⟨runs, .refl⟩
  | crate recorded _ onward =>
    intro rest runs
    refine .step ?_ (onward rest runs)
    rw [perform, recorded]
    rfl
  | conflict refused =>
    intro rest runs
    refine .stop ?_
    rw [perform, refused]
    rfl
  | done present _ onward =>
    intro rest runs
    refine .step ?_ (onward rest runs)
    rw [perform, if_pos present]
    rfl
  | cycle absent again =>
    intro rest runs
    refine .stop ?_
    rw [perform, if_neg (Bool.not_eq_true _ ▸ absent), if_pos again]
    rfl
  | unrendered absent new failed =>
    intro rest runs
    refine .stop ?_
    rw [perform, if_neg (Bool.not_eq_true _ ▸ absent), if_neg new, enter, failed]
    rfl
  | stopped absent new rendered _ inside =>
    intro rest runs
    exact .step (perform_enter absent new rendered) (inside _ _)
  | refused absent new rendered _ refused inside =>
    intro rest runs
    -- The walk inside the module comes first; the task that finishes the module is the first one behind it.
    obtain ⟨later, run⟩ := inside (.finish _ _ :: _) _
    refine .step (perform_enter absent new rendered) (.trans run (.stop ?_))
    rw [perform, refused]
    rfl
  | rendered absent new rendered _ recorded _ inside onward =>
    intro rest runs
    obtain ⟨later, run⟩ := inside (.finish _ _ :: _) _
    refine .step (perform_enter absent new rendered) (.trans run (.step ?_ (onward rest later)))
    rw [perform, recorded, List.dropLast_concat]
    rfl

/-- The run of a catalogue's renderers ends with what the catalogue materializes. -/
theorem outcome_eq_materialize {roots : List Dependency} {last : Progress}
    (run : Run (catalogue.render config) (start roots) last) (ended : last.step (catalogue.render config) = none) :
    last.outcome = catalogue.materialize config roots := by
  have comes := comes_walk (catalogue.walk_materialize config roots) [] []
  rw [List.append_nil] at comes
  cases result : catalogue.materialize config roots with
  | ok out =>
    rw [result] at comes
    obtain ⟨runs, onward⟩ := comes
    rw [run.unique ended onward rfl]
    rfl
  | error failure =>
    rw [result] at comes
    obtain ⟨other, onward, failed⟩ := comes
    rw [run.unique ended onward (step_of_failure failed), outcome, failed]

/-- A materialization whose inline keys are in a finite set comes to an end. At every moment the modules being visited
have distinct keys that are not done, so that they are not more than the set has, and no key has been rendered twice. -/
theorem ends (render : Rendering) {allowed : List DependencyKey} {roots : List Dependency}
    (within : ∀ root ∈ roots, root.Within allowed) (closed : Closed render allowed) :
    (∃ last, Run render (start roots) last ∧ last.step render = none ∧
      ∀ (catalogue : Catalogue) (config : RuntimeConfig), catalogue.render config = render →
        last.outcome = catalogue.materialize config roots) ∧
    ∀ progress, Run render (start roots) progress →
      progress.entered.Nodup ∧ (∀ key ∈ progress.entered, progress.materialized.has key = false) ∧
        progress.entered.length ≤ allowed.toFinset.card ∧ progress.runs.Nodup := by
  have sound := sound_start within
  constructor
  · obtain ⟨last, run, ended⟩ := sound.exists_last _ closed
    refine ⟨last, run, ended, ?_⟩
    rintro catalogue config rfl
    exact outcome_eq_materialize run ended
  · intro progress run
    have now := sound.run closed run
    refine ⟨now.distinct, fun key mem => ?_, ?_, now.once⟩
    · rw [← Bool.not_eq_true]
      exact mt Materialized.has_iff.mp (now.fresh key mem)
    · rw [← List.toFinset_card_of_nodup now.distinct]
      exact Finset.card_le_card fun key mem => List.mem_toFinset.mpr (now.known key (List.mem_toFinset.mp mem))

/-- A module that names another one with its own key. -/
def elderTwin : InlineDependency := ⟨"twin", "twin", [], .defined "elder"⟩

/-- The other module of that key, with a declaration and a renderer of its own. -/
def youngerTwin : InlineDependency := ⟨"twin", "twin", [.inline Universe.leafModule], .defined "younger"⟩

/-- A module that declares both. -/
def twinsModule : InlineDependency := ⟨"twins", "twins", [.inline elderTwin, .inline youngerTwin], .defined "twins"⟩

/-- The programs of modules that share a key. -/
def twinCatalogue : Catalogue where
  definitions :=
    [("elder", [.write "pub use #T;" [.target (.fixed (youngerTwin.item "younger"))]]),
     ("younger", [.write "pub fn younger() \x7b\x7d" []])]

/-- The keys that come up. -/
def twinKeys : List DependencyKey := [twinsModule.key, elderTwin.key, Universe.leafModule.key]

/-- Two modules with one key and different renderers, of which only the first is run. -/
theorem ends_twinsModule :
    ∃ last, Run (twinCatalogue.render {}) (start [.inline twinsModule]) last ∧
      last.step (twinCatalogue.render {}) = none ∧
      last.outcome = twinCatalogue.materialize {} [.inline twinsModule] ∧
      (last.outcome.toOption.map fun out => out.modules.map RenderedModule.name) = some ["leaf", "twin", "twins"] ∧
      last.entered.length ≤ 3 ∧ last.runs.Nodup := by
  have within : (Dependency.inline twinsModule).Within twinKeys := by
    unfold Dependency.Within
    decide
  have closed : ∀ dependency ∈ twinCatalogue.dependencies, dependency.Within twinKeys := by
    unfold Dependency.Within
    decide
  obtain ⟨⟨last, run, ended, same⟩, moments⟩ :=
    ends (twinCatalogue.render {}) (List.forall_mem_singleton.mpr within)
      fun _ rendered => Catalogue.within_of_render closed rendered
  obtain ⟨-, -, bound, once⟩ := moments last run
  refine ⟨last, run, ended, same twinCatalogue {} rfl, ?_, bound, once⟩
  rw [same twinCatalogue {} rfl]
  decide +kernel

end Progress

end Cratewright
