import Talia.Core.ControlConfig
import Talia.Core.Pipeline
import Talia.Lib.Checked

/-!
# The poll interval

Agents that poll with one interval do so at different moments: an agent's id shifts its interval by
up to a tenth either way (`jitteredInterval`). The sum is taken in 64 bits, so close to the largest
interval an id that shifts far enough has none (`jittered_interval_iff`).
-/

namespace Talia

/-- `Duration::from_secs`. -/
def Duration.fromSecs (seconds : UInt64) : Duration := seconds.toNat * 1000000000

/-- The interval of an agent. Arithmetic that overflows gives none. -/
def jitteredInterval (baseSeconds : UInt64) (agentId : String) : Option Duration :=
  let spread := baseSeconds / 10
  if spread = 0 then some (.fromSecs baseSeconds)
  else do
    let hash := fnv1a64 agentId.toUTF8
    let twice ← Checked.mul spread 2
    let range ← Checked.add twice 1
    let offset := hash % range
    let low ← Checked.sub baseSeconds spread
    let seconds ← Checked.add low offset
    some (.fromSecs seconds)

/-- How far above the lowest interval an agent's interval is. -/
def jitterOffset (baseSeconds : UInt64) (agentId : String) : ℕ :=
  (fnv1a64 agentId.toUTF8).toNat % (2 * (baseSeconds.toNat / 10) + 1)

/-- The offset is at most twice the tenth. -/
theorem jitterOffset_le (baseSeconds : UInt64) (agentId : String) :
    jitterOffset baseSeconds agentId ≤ 2 * (baseSeconds.toNat / 10) :=
  Nat.le_of_lt_succ (Nat.mod_lt _ (Nat.succ_pos _))

/-- The whole of `jitteredInterval`: the sum, if it fits. -/
theorem jitteredInterval_eq_some_iff {baseSeconds : UInt64} {agentId : String} {d : Duration} :
    jitteredInterval baseSeconds agentId = some d ↔
      ∃ seconds : UInt64, d = .fromSecs seconds ∧ seconds.toNat =
        baseSeconds.toNat - baseSeconds.toNat / 10 + jitterOffset baseSeconds agentId := by
  have bound := baseSeconds.toNat_lt
  have spread : (baseSeconds / 10).toNat = baseSeconds.toNat / 10 := UInt64.toNat_div _ _
  unfold jitteredInterval
  by_cases small : baseSeconds / 10 = 0
  · have zero : baseSeconds.toNat / 10 = 0 := by
      rw [← spread, small]
      rfl
    have still : jitterOffset baseSeconds agentId = 0 := by
      have le := jitterOffset_le baseSeconds agentId
      omega
    rw [if_pos small, zero, still]
    constructor
    · intro h
      cases h
      exact ⟨baseSeconds, rfl, rfl⟩
    · intro ⟨seconds, same, value⟩
      rw [same, UInt64.toNat_inj.mp value]
  · rw [if_neg small]
    have twice : Checked.mul (baseSeconds / 10) 2 = some (.ofNat (2 * (baseSeconds.toNat / 10))) := by
      rw [Checked.mul_eq_some_iff, UInt64.toNat_ofNat_of_lt' (by show _ < 2 ^ 64; omega), spread]
      exact Nat.mul_comm _ _
    have range : Checked.add (.ofNat (2 * (baseSeconds.toNat / 10))) 1 =
        some (.ofNat (2 * (baseSeconds.toNat / 10) + 1)) := by
      rw [Checked.add_eq_some_iff, UInt64.toNat_ofNat_of_lt' (by show _ < 2 ^ 64; omega),
        UInt64.toNat_ofNat_of_lt' (by show _ < 2 ^ 64; omega)]
      rfl
    have low : Checked.sub baseSeconds (baseSeconds / 10) =
        some (.ofNat (baseSeconds.toNat - baseSeconds.toNat / 10)) := by
      rw [Checked.sub_eq_some_iff, UInt64.toNat_ofNat_of_lt' (by show _ < 2 ^ 64; omega), spread]
      omega
    have offset : (fnv1a64 agentId.toUTF8 %
        UInt64.ofNat (2 * (baseSeconds.toNat / 10) + 1)).toNat = jitterOffset baseSeconds agentId := by
      rw [UInt64.toNat_mod, UInt64.toNat_ofNat_of_lt' (by show _ < 2 ^ 64; omega)]
      rfl
    simp only [Option.bind_eq_bind, twice, range, low, Option.bind_some, Option.bind_eq_some_iff,
      Option.some.injEq, Checked.add_eq_some_iff, offset]
    rw [UInt64.toNat_ofNat_of_lt' (by show _ < 2 ^ 64; omega)]
    constructor
    · intro ⟨seconds, value, same⟩
      exact ⟨seconds, same.symm, value⟩
    · intro ⟨seconds, same, value⟩
      exact ⟨seconds, value, same.symm⟩

/-- The interval is a whole number of seconds, at least one and within a tenth of the base. -/
def JitterBounded (baseSeconds : UInt64) (agentId : String) : Prop :=
  ∃ seconds : UInt64, jitteredInterval baseSeconds agentId = some (.fromSecs seconds) ∧
    1 ≤ seconds.toNat ∧
    baseSeconds.toNat - baseSeconds.toNat / 10 ≤ seconds.toNat ∧
    seconds.toNat ≤ baseSeconds.toNat + baseSeconds.toNat / 10

/-- A valid configuration polls at positive intervals. -/
theorem configPollInterval_pos {config : AgentRuntimeConfig} (valid : config.Valid) :
    0 < config.agent.configPollIntervalSeconds.toNat := by
  obtain ⟨-, sections⟩ := AgentRuntimeConfig.valid_iff.mp valid
  have nonzero : config.agent.configPollIntervalSeconds ≠ 0 := by
    intro zero
    rw [AgentRuntimeConfig.validateSections, AgentRuntimeSettings.validate, if_pos zero] at sections
    cases sections
  rcases Nat.eq_zero_or_pos config.agent.configPollIntervalSeconds.toNat with zero | pos
  · exact absurd (UInt64.toNat_inj.mp zero) nonzero
  · exact pos

/-- **The interval of an agent is bounded** unless its id shifts the interval past the largest
64-bit number, which takes a base so large that a tenth more does not fit. -/
theorem jittered_interval_iff {config : AgentRuntimeConfig} (valid : config.Valid)
    (agentId : String) :
    JitterBounded config.agent.configPollIntervalSeconds agentId ↔
      config.agent.configPollIntervalSeconds.toNat +
          config.agent.configPollIntervalSeconds.toNat / 10 < 2 ^ 64 ∨
        (fnv1a64 agentId.toUTF8).toNat %
            (2 * (config.agent.configPollIntervalSeconds.toNat / 10) + 1) <
          2 ^ 64 - (config.agent.configPollIntervalSeconds.toNat -
            config.agent.configPollIntervalSeconds.toNat / 10) := by
  have pos := configPollInterval_pos valid
  generalize config.agent.configPollIntervalSeconds = base at pos ⊢
  have bound := base.toNat_lt
  have le := jitterOffset_le base agentId
  show _ ↔ _ ∨ jitterOffset base agentId < _
  constructor
  · intro ⟨_, given, _⟩
    obtain ⟨seconds, -, value⟩ := jitteredInterval_eq_some_iff.mp given
    have small := seconds.toNat_lt
    omega
  · intro fits
    have small : base.toNat - base.toNat / 10 + jitterOffset base agentId < 2 ^ 64 := by omega
    have value := UInt64.toNat_ofNat_of_lt' small
    refine ⟨.ofNat (base.toNat - base.toNat / 10 + jitterOffset base agentId),
      jitteredInterval_eq_some_iff.mpr ⟨_, rfl, value⟩, ?_⟩
    rw [value]
    omega

theorem jittered_interval_iff_default :
    JitterBounded AgentRuntimeConfig.default.agent.configPollIntervalSeconds "agent-1" ↔
      AgentRuntimeConfig.default.agent.configPollIntervalSeconds.toNat +
          AgentRuntimeConfig.default.agent.configPollIntervalSeconds.toNat / 10 < 2 ^ 64 ∨
        (fnv1a64 "agent-1".toUTF8).toNat %
            (2 * (AgentRuntimeConfig.default.agent.configPollIntervalSeconds.toNat / 10) + 1) <
          2 ^ 64 - (AgentRuntimeConfig.default.agent.configPollIntervalSeconds.toNat -
            AgentRuntimeConfig.default.agent.configPollIntervalSeconds.toNat / 10) :=
  jittered_interval_iff (by decide +kernel) "agent-1"

/-- **The sum can overflow**: a configuration with the largest interval is valid, and the agent
`agent-10` has no interval under it. -/
theorem jittered_interval_overflows :
    ∃ (config : AgentRuntimeConfig) (agentId : String), config.Valid ∧
      jitteredInterval config.agent.configPollIntervalSeconds agentId = none ∧
      ¬ JitterBounded config.agent.configPollIntervalSeconds agentId := by
  have overflow : jitteredInterval 18446744073709551615 "agent-10" = none := by decide +kernel
  refine ⟨{ AgentRuntimeConfig.default with agent := ⟨18446744073709551615, 60⟩ }, "agent-10",
    by decide +kernel, overflow, ?_⟩
  intro ⟨seconds, given, _⟩
  rw [overflow] at given
  cases given

end Talia
