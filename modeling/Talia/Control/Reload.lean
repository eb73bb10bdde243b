import Talia.Control.Validation
import Talia.Lib.Publication

/-!
# What concurrent reloads leave behind

A reload publishes a configuration in two cells: the configuration in force, and, by its version,
the last notification broadcast. `published` reads a server as such a publication, and `label` its
steps; `published_step` is the refinement. Nothing orders concurrent requests, so the
configuration in force is the one swapped in last and the last notification is the one broadcast
last. They are those of the request that read the file last if no other request was under way when
it did (`reload_last`); otherwise neither need be (`reload_lost`).
-/

namespace Talia.Server

open Transition

variable {env : Env}

/-! ## Reloads as a publication -/

def reloadPhase : Option Reload → Publication.Phase LoadedControlConfig String
  | none => .idle
  | some (.loaded config) => .holding config
  | some (.swapped version) => .entered version
  | some (.counted version _) => .entered version

/-- The version of the last notification broadcast. -/
def lastNotified (s : Server) : Option String :=
  match s.notifications.getLast? with
  | some (.configChanged version) => some version
  | _ => none

/-- The server as a publication: of configurations, in the configuration in force and in the last
notification. -/
def published (s : Server) :
    Publication.State Nat LoadedControlConfig String LoadedControlConfig where
  phase := fun id => reloadPhase (s.reloads id)
  first := s.config
  second := s.lastNotified

/-- The part of a step in the publication. -/
def label (env : Env) (s : Server) : ServerEvent → Option (Publication.Event Nat LoadedControlConfig)
  | .reload id headers file =>
    if authorized env.sha256 headers env.adminToken then
      match loadControlConfig env file with
      | .ok config => some (.obtain id config)
      | .error _ => none
    else none
  | .reloadSwap id => some (.first id)
  | .reloadNotify id =>
    match s.reloads id with
    | some (.counted _ _) => some (.second id)
    | _ => none
  | _ => none

/-- A step of the publication of configurations. -/
abbrev publish : Publication.State Nat LoadedControlConfig String LoadedControlConfig →
    Publication.Event Nat LoadedControlConfig →
      Publication.State Nat LoadedControlConfig String LoadedControlConfig :=
  Publication.step id LoadedControlConfig.sourceVersion

/-- A reload's phase is what has become of it. -/
theorem published_phase {s : Server} {id : Nat} {reload : Option Reload}
    (found : s.reloads id = reload) : s.published.phase id = reloadPhase reload :=
  congrArg reloadPhase found

/-- Only the reload that moves changes its phase. -/
theorem reloadPhase_update (s : Server) (id : Nat) (reload : Option Reload) :
    (fun i => reloadPhase (Function.update s.reloads id reload i)) =
      Function.update (fun i => reloadPhase (s.reloads i)) id (reloadPhase reload) := by
  funext i
  by_cases same : i = id
  · subst same
    rw [Function.update_self, Function.update_self]
  · rw [Function.update_of_ne same, Function.update_of_ne same]

/-- So it is in the abstract state. -/
theorem published_setReload (s : Server) (id : Nat) (reload : Option Reload) :
    (s.setReload id reload).published =
      { s.published with
        phase := Function.update s.published.phase id (reloadPhase reload) } := by
  simp only [published, setReload, reloadPhase_update, lastNotified]

/-- A step that is none of a reload's leaves the publication as it is. -/
theorem published_frame {s : Server} {e : ServerEvent}
    (reload : ∀ id headers file, e ≠ .reload id headers file) (swap : ∀ id, e ≠ .reloadSwap id)
    (count : ∀ id, e ≠ .reloadCount id) (notify : ∀ id, e ≠ .reloadNotify id) :
    (step env s e).published = s.published := by
  rcases step_acts env s e with same | acts
  · rw [same]
  generalize step env s e = s' at acts
  cases acts with
  | loaded => exact absurd rfl (reload _ _ _)
  | swapped => exact absurd rfl (swap _)
  | counted => exact absurd rfl (count _)
  | notified => exact absurd rfl (notify _)
  | _ => rfl

/-- The last notification of a change is the one that was appended. -/
theorem lastNotified_append (s : Server) (version : String) (agents : List ServerControlMessage) :
    lastNotified { s with notifications := agents ++ [.configChanged version] } =
      some version := by
  simp only [lastNotified, List.getLast?_concat]

/-- **The server refines the publication.** -/
theorem published_step (s : Server) (e : ServerEvent) :
    (step env s e).published = (label env s e).elim s.published (publish s.published) := by
  cases e with
  | reload id headers file =>
    by_cases auth : authorized env.sha256 headers env.adminToken = true
    · cases found : s.reloads id with
      | some reload =>
        -- A request under that number is under way, on both sides.
        have busy : s.published.phase id ≠ .idle := by
          rw [published_phase found]
          cases reload <;> rintro ⟨⟩
        simp only [step, label, found, auth, if_true]
        cases loadControlConfig env file with
        | ok config => rw [Option.elim_some, publish, Publication.step_obtain_busy busy]
        | error => rfl
      | none =>
        have idle : s.published.phase id = .idle := published_phase found
        simp only [step, label, found, auth, if_true]
        cases loadControlConfig env file with
        | ok config =>
          rw [Option.elim_some, publish, Publication.step_obtain idle]
          exact published_setReload s id (some (.loaded config))
        | error => rfl
    · simp only [step, label, auth, if_false, Bool.false_eq_true]
      split <;> rfl
  | reloadSwap id =>
    rw [step, label, Option.elim_some, publish]
    split
    next config found =>
      have holding : s.published.phase id = .holding config := published_phase found
      rw [Publication.step_first holding, published_setReload]
      rfl
    next other =>
      refine (Publication.step_first_other fun config holding => ?_).symm
      cases found : s.reloads id with
      | none =>
        rw [published_phase found] at holding
        cases holding
      | some reload =>
        rw [published_phase found] at holding
        cases reload with
        | loaded config' => exact other config' found
        | swapped => cases holding
        | counted => cases holding
  | reloadCount id =>
    have unseen : label env s (.reloadCount id) = none := rfl
    rw [unseen, Option.elim_none, step]
    split
    next version found =>
      have same : Function.update s.published.phase id
          (reloadPhase (some (.counted version s.agents.size))) = s.published.phase := by
        rw [Function.update_eq_self_iff, published_phase found]
        rfl
      rw [published_setReload, same]
    next => rfl
  | reloadNotify id =>
    rw [step, label]
    cases found : s.reloads id with
    | none => rfl
    | some reload =>
      cases reload with
      | loaded => rfl
      | swapped => rfl
      | counted version notifiedAgents =>
        have entered : s.published.phase id = .entered version := published_phase found
        rw [Option.elim_some, publish, Publication.step_second entered, published_setReload]
        simp only [published, lastNotified_append, reloadPhase]
  | _ => exact published_frame (by rintro _ _ _ ⟨⟩) (by rintro _ ⟨⟩) (by rintro _ ⟨⟩) (by rintro _ ⟨⟩)

/-- **Every run of the server is a run of the publication.** -/
theorem published_run (s : Server) (es : List ServerEvent) :
    (run (step env) s es).published =
      run publish s.published (outputs (step env) (label env) s es) := by
  have matched : ∀ s t e, published s = t → True →
      published (step env s e) = (label env s e).elim t (publish t) := by
    rintro s t e rfl -
    exact published_step s e
  exact run_refines (R := fun s t => published s = t) matched rfl (stepsMeet_true (step env) s es)

/-! ## The last reload -/

/-- A run without a swap keeps the configuration in force. -/
theorem config_run {s : Server} {es : List ServerEvent} (noSwap : ∀ id, .reloadSwap id ∉ es) :
    (run (step env) s es).config = s.config := by
  refine run_frame (C := fun e => ∃ id, e = .reloadSwap id) (fun s e none => ?_) ?_
  · by_contra changed
    exact none (config_step changed)
  · rintro e mem ⟨id, rfl⟩
    exact noSwap id mem

/-- A run without a broadcast sends no notification. -/
theorem notifications_run {s : Server} {es : List ServerEvent}
    (noNotify : ∀ id, .reloadNotify id ∉ es) :
    (run (step env) s es).notifications = s.notifications := by
  refine run_frame (C := fun e => ∃ id, e = .reloadNotify id) (fun s e none => ?_) ?_
  · rcases step_acts env s e with same | acts
    · rw [same]
    generalize step env s e = s' at acts
    cases acts with
    | notified => exact absurd ⟨_, rfl⟩ none
    | _ => rfl
  · rintro e mem ⟨id, rfl⟩
    exact noNotify id mem

/-- A request has swapped in a configuration of the version and not yet broadcast it. -/
def Swapped (id : Nat) (version : String) (s : Server) : Prop :=
  s.reloads id = some (.swapped version) ∨
    ∃ notifiedAgents, s.reloads id = some (.counted version notifiedAgents)

/-- Only its swap makes a reload swapped. -/
theorem swapped_step {s : Server} {e : ServerEvent} {id : Nat} {version : String}
    (before : ¬ s.Swapped id version) (after : (step env s e).Swapped id version) :
    e = .reloadSwap id ∧
      ∃ config, s.reloads id = some (.loaded config) ∧ config.sourceVersion = version := by
  rw [Swapped] at after
  rcases stages_or_stays env s e id with stages | same
  · generalize (step env s e).reloads id = stage at stages after
    cases stages with
    | loaded =>
      rcases after with h | ⟨_, h⟩ <;> cases h
    | swapped found =>
      rcases after with h | ⟨_, h⟩ <;> cases h
      exact ⟨rfl, _, found, rfl⟩
    | counted found =>
      rcases after with h | ⟨_, h⟩ <;> cases h
      exact absurd (.inl found) before
    | notified =>
      rcases after with h | ⟨_, h⟩ <;> cases h
  · rw [same] at after
    exact absurd after before

/-- A request broadcasts the version of the configuration it swapped in. -/
theorem swapped_origin {config : LoadedControlConfig} {es : List ServerEvent} {id : Nat}
    {version : String} (swapped : (run (step env) (init config) es).Swapped id version) :
    ∃ pre post loaded, es = pre ++ .reloadSwap id :: post ∧
      (run (step env) (init config) pre).reloads id = some (.loaded loaded) ∧
      loaded.sourceVersion = version := by
  let P : Server → Prop := fun s => s.Swapped id version
  have start : ¬ P (init config) := by
    rintro (h | ⟨_, h⟩) <;> cases h
  obtain ⟨pre, e, post, rfl, before, after⟩ := exists_established (P := P) start swapped
  have established : (run (step env) (init config) (pre ++ [e])).Swapped id version :=
    after [] List.nil_prefix
  rw [run_append, run_cons, run_nil] at established
  obtain ⟨rfl, loaded, found, same⟩ := swapped_step before established
  exact ⟨pre, post, loaded, rfl, found, same⟩

/-- The request that reads the file last, alone, and completes: the configuration it loaded is in
force, and the last notification carries its version. -/
theorem published_of_alone {s : Server} {id : Nat} {headers : HeaderMap} {file : Option String}
    {config : LoadedControlConfig} {es : List ServerEvent} (alone : ∀ i, s.reloads i = none)
    (auth : authorized env.sha256 headers env.adminToken = true)
    (loaded : loadControlConfig env file = .ok config)
    (last : ∀ id' headers' file', .reload id' headers' file' ∈ es →
      authorized env.sha256 headers' env.adminToken = true →
      ∀ config', loadControlConfig env file' ≠ .ok config')
    (done : ∀ i, (run (step env) (step env s (.reload id headers file)) es).reloads i = none) :
    (run (step env) (step env s (.reload id headers file)) es).config = config ∧
      (run (step env) (step env s (.reload id headers file)) es).lastNotified =
        some config.sourceVersion := by
  have read : step env s (.reload id headers file) = s.setReload id (some (.loaded config)) := by
    simp only [step, alone id, auth, if_true, loaded]
  have phase : ∀ i, (step env s (.reload id headers file)).published.phase i =
      reloadPhase (if i = id then some (.loaded config) else none) := by
    intro i
    refine published_phase ?_
    rw [read, setReload_reloads, alone i]
  have others : ∀ i, i ≠ id →
      (step env s (.reload id headers file)).published.phase i = .idle := by
    intro i other
    rw [phase i, if_neg other]
    rfl
  have holding : (step env s (.reload id headers file)).published.phase id = .holding config := by
    rw [phase id, if_pos rfl]
    rfl
  generalize step env s (.reload id headers file) = s' at holding others done
  have noObtain : ∀ q c, .obtain q c ∉ outputs (step env) (label env) s' es := by
    intro q c mem
    obtain ⟨pre, e, post, rfl, labelled⟩ := mem_outputs mem
    cases e with
    | reload id' headers' file' =>
      rw [label] at labelled
      split at labelled
      next auth' =>
        split at labelled
        next found =>
          exact last id' headers' file' (List.mem_append_right _ List.mem_cons_self) auth' _ found
        next => cases labelled
      next => cases labelled
    | reloadNotify id' =>
      rw [label] at labelled
      split at labelled <;> cases labelled
    | _ => cases labelled
  have idle : ∀ i, (run publish s'.published (outputs (step env) (label env) s' es)).phase i =
      .idle := by
    intro i
    rw [← published_run]
    exact published_phase (done i)
  obtain ⟨first, second⟩ := Publication.latest_of_alone holding others noObtain idle
  rw [← published_run] at first second
  exact ⟨first, second⟩

/-- **What reloads leave behind.** In every run: the configuration in force is the one that the
request that swapped last had loaded; the last notification carries the version of the
configuration that the request that broadcast last had swapped in. And once all requests have
completed: if the last request to load a configuration did so while no other request was under
way, then that configuration is in force and the last notification carries its version. -/
theorem reload_last (config : LoadedControlConfig) (es : List ServerEvent) :
    let s := run (step env) (init config) es
    (∀ pre id post loaded, es = pre ++ .reloadSwap id :: post →
      (run (step env) (init config) pre).reloads id = some (.loaded loaded) →
      (∀ i, .reloadSwap i ∉ post) → s.config = loaded) ∧
    (∀ pre id post version notifiedAgents, es = pre ++ .reloadNotify id :: post →
      (run (step env) (init config) pre).reloads id = some (.counted version notifiedAgents) →
      (∀ i, .reloadNotify i ∉ post) →
      s.lastNotified = some version ∧
        ∃ before after loaded, pre = before ++ .reloadSwap id :: after ∧
          (run (step env) (init config) before).reloads id = some (.loaded loaded) ∧
          loaded.sourceVersion = version) ∧
    (∀ pre id headers file post loaded, es = pre ++ .reload id headers file :: post →
      (∀ i, (run (step env) (init config) pre).reloads i = none) →
      authorized env.sha256 headers env.adminToken = true →
      loadControlConfig env file = .ok loaded →
      (∀ id' headers' file', .reload id' headers' file' ∈ post →
        authorized env.sha256 headers' env.adminToken = true →
        ∀ config', loadControlConfig env file' ≠ .ok config') →
      (∀ i, s.reloads i = none) →
      s.config = loaded ∧ s.lastNotified = some loaded.sourceVersion) := by
  refine ⟨?_, ?_, ?_⟩
  · rintro pre id post loaded rfl found last
    rw [run_append, run_cons, config_run last]
    simp only [step, found]
    rfl
  · rintro pre id post version notifiedAgents rfl found last
    refine ⟨?_, swapped_origin (.inr ⟨notifiedAgents, found⟩)⟩
    rw [run_append, run_cons, lastNotified, notifications_run last]
    simp only [step, found]
    exact lastNotified_append (run (step env) (init config) pre) version _
  · rintro pre id headers file post loaded rfl alone auth found last done
    rw [run_append, run_cons] at done ⊢
    exact published_of_alone alone auth found last done

/-! ## Two reloads that overlap -/

/-- The first request reads the file, the file is edited, the second request reads it; the second
swaps first and broadcasts last. -/
def overlapRun (headers : HeaderMap) (before after : Option String) : List ServerEvent :=
  [.reload 0 headers before, .reload 1 headers after, .reloadSwap 1, .reloadSwap 0, .reloadCount 0,
    .reloadNotify 0, .reloadCount 1, .reloadNotify 1]

/-- Whatever the two requests load, the first's is in force in the end, and the second's version is
in the last notification. -/
theorem overlapRun_ends {headers : HeaderMap} {before after : Option String}
    {first second : LoadedControlConfig} (start : LoadedControlConfig)
    (auth : authorized env.sha256 headers env.adminToken = true)
    (loadsFirst : loadControlConfig env before = .ok first)
    (loadsSecond : loadControlConfig env after = .ok second) :
    let s := run (step env) (init start) (overlapRun headers before after)
    (∀ i, s.reloads i = none) ∧ s.config = first ∧ s.lastNotified = some second.sourceVersion := by
  refine ⟨fun i => ?_, ?_, ?_⟩
  · by_cases zero : i = 0 <;> by_cases one : i = 1 <;>
      simp [overlapRun, step, init, setReload, auth, loadsFirst, loadsSecond,
        zero, one]
  · simp [overlapRun, step, init, setReload, auth, loadsFirst, loadsSecond]
  · simp [overlapRun, step, init, setReload, auth, loadsFirst, loadsSecond, lastNotified]

/-- A server whose file is empty, or has a table of defaults that is. -/
def overlapEnv : Env :=
  { oneAgentEnv with
    fromToml := fun contents => if contents = "" ∨ contents = "[defaults]\n" then some {} else none
    configPath := some "control.toml" }

def adminHeaders : HeaderMap := [headerOf authorizationHeader "Bearer admin-secret"]

/-- **A reload can be lost**: both requests have completed, the file was read last by the second,
and the configuration in force is the first's, whose version is not the one in the last
notification. -/
theorem reload_lost :
    ∃ (start first second : LoadedControlConfig) (headers : HeaderMap) (before after : String),
      let s := run (step overlapEnv) (init start) (overlapRun headers (some before) (some after))
      authorized overlapEnv.sha256 headers overlapEnv.adminToken = true ∧
      loadControlConfig overlapEnv (some before) = .ok first ∧
      loadControlConfig overlapEnv (some after) = .ok second ∧
      (∀ i, s.reloads i = none) ∧ s.config = first ∧
      s.lastNotified = some second.sourceVersion ∧
      first.sourceVersion ≠ second.sourceVersion := by
  have validated : validateRuntimeConfigs {} = .ok () :=
    validateRuntimeConfigs_ok_iff.mpr ⟨by decide +kernel, by decide +kernel⟩
  have first : loadControlConfig overlapEnv (some "") = .ok ⟨configSourceVersion "", {}⟩ := by
    simp only [loadControlConfig, overlapEnv, true_or, if_true, validated]
    rfl
  have second : loadControlConfig overlapEnv (some "[defaults]\n") =
      .ok ⟨configSourceVersion "[defaults]\n", {}⟩ := by
    simp only [loadControlConfig, overlapEnv, or_true, if_true, validated]
    rfl
  have auth : authorized overlapEnv.sha256 adminHeaders overlapEnv.adminToken = true := by
    decide +kernel
  obtain ⟨done, inForce, notified⟩ :=
    overlapRun_ends ⟨configSourceVersion "", {}⟩ auth first second
  exact ⟨_, _, _, adminHeaders, "", "[defaults]\n", auth, first, second, done, inForce, notified,
    by decide +kernel⟩

end Talia.Server
