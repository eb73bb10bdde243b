import Talia.Lib.OrdMap

/-!
# The pipeline

What a provider produces, the error it fails with, and the stages that a sample goes through before
it is emitted.
-/

namespace Talia

/-- A point in time, in nanoseconds. -/
abbrev SystemTime := Nat

/-- A length of time, in nanoseconds. -/
abbrev Duration := Nat

inductive SampleValue where
  /-- A count over the time since the sample before. -/
  | counter (value : UInt64)
  | gaugeU64 (value : UInt64)
  | gaugeI64 (value : Int64)
  | gaugeF64 (value : Float)

/-- A single measured value. -/
structure Sample where
  name : String
  value : SampleValue
  attributes : BTreeMap String String
  timestamp : SystemTime

/-- What a counter sample counts. -/
def Sample.count (sample : Sample) : Nat :=
  match sample.value with
  | .counter value => value.toNat
  | _ => 0

/-- The error of a provider that fails to collect. -/
structure ProviderError (ε : Type) where
  provider : String
  source : ε

/-! ## Processors -/

section Processors

variable {σ : Type}

/-- A stage of the pipeline: it may change a sample, or drop it. What processors remember is theirs
together. -/
abbrev Processor (σ : Type) : Type := σ → Sample → Option Sample × σ

/-- A sample goes through every processor in order, until one drops it. -/
def processSample : List (Processor σ) → σ → Sample → Option Sample × σ
  | [], memory, current => (some current, memory)
  | processor :: processors, memory, current =>
    match processor memory current with
    | (none, memory) => (none, memory)
    | (some current, memory) => processSample processors memory current

/-- The samples of a batch that are not dropped. -/
def survivors (processors : List (Processor σ)) : σ → List Sample → List Sample
  | _, [] => []
  | memory, sample :: samples =>
    match processSample processors memory sample with
    | (none, memory) => survivors processors memory samples
    | (some sample, memory) => sample :: survivors processors memory samples

end Processors

end Talia
