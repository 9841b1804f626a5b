import SwapFeed.Config.Settings
import SwapFeed.Proofs.Stream.Field
import SwapFeed.Proofs.Text.Integer

/-!
# Numeric settings

A numeric setting has a variable that gives it and a field that it fills, which may count in another
unit.  A field is exact if it holds just the number that is written for it.  A number that the field
cannot hold is cut or wrapped instead, and nothing else makes a field inexact.
-/

namespace SwapFeed

open SwapFeed.Text

/-! ## What is written -/

inductive NumericSetting where
  | messageTimeout
  | retryDelay
  | subscribePacing
  | runTime

namespace NumericSetting

/-- The variable that gives a setting. -/
def key : NumericSetting → String
  | messageTimeout => "OKX_MESSAGE_TIMEOUT_S"
  | retryDelay => "OKX_RETRY_DELAY_S"
  | subscribePacing => "OKX_SUBSCRIBE_PACING_MS"
  | runTime => "OKX_RUN_SECONDS"

/-- The field that a setting fills. -/
def field : NumericSetting → Settings → Int
  | messageTimeout => Settings.messageTimeout
  | retryDelay => Settings.retryDelay
  | subscribePacing => Settings.subscribePacing
  | runTime => Settings.runSeconds

/-- How many units of the field make one unit of the variable: two settings are written in seconds
and kept in milliseconds. -/
def scale : NumericSetting → Int
  | messageTimeout => 1000
  | retryDelay => 1000
  | subscribePacing => 1
  | runTime => 1

/-- A variable is set, and writes a number that its setting may have. -/
def WrittenAs (setting : NumericSetting) (environment : Environment) (number : Int) : Prop :=
  ∃ text, environment.nonempty? setting.key = some text ∧ WritesDecimal text.toList number ∧
    0 ≤ number

/-- A field holds the number written for it, in its own unit, or the default if none is written. -/
inductive Exact (setting : NumericSetting) (environment : Environment) : (held : Int) → Prop where
  | unset (nothing : environment.nonempty? setting.key = none) :
      Exact setting environment (setting.field {})
  | written {number : Int} (writes : setting.WrittenAs environment number)
      (fits : number * setting.scale ≤ Settings.largest) :
      Exact setting environment (number * setting.scale)

end NumericSetting

namespace Settings

/-- The list of pairs is set, but names none. -/
def LacksPairs (environment : Environment) : Prop :=
  ∃ line, environment.nonempty? "OKX_PAIRS" = some line ∧ PairList.read line = []

/-- What an environment is refused for: a list without pairs, or a variable that does not write a
number that its field can hold. -/
inductive Refuses (environment : Environment) : SettingError → Prop where
  | noPairs (lacks : LacksPairs environment) : Refuses environment .noPairs
  | badNumber (setting : NumericSetting) {text : String}
      (set : environment.nonempty? setting.key = some text)
      (bad : ∀ number, setting.WrittenAs environment number → largest < number * setting.scale) :
      Refuses environment (.badNumber setting.key text)

/-- An environment is refused for a reason, or every numeric setting is exact. -/
def ExactOrRefused (environment : Environment) : Prop :=
  match ofEnvironment environment with
  | .error reason => Refuses environment reason
  | .ok settings => ∀ setting : NumericSetting,
      0 ≤ setting.field settings ∧ setting.Exact environment (setting.field settings)

/-- An environment has pairs, and each numeric setting that it has is written. -/
structure Sound (environment : Environment) : Prop where
  pairs : ¬LacksPairs environment
  written : ∀ setting : NumericSetting, environment.nonempty? setting.key = none ∨
    ∃ number, setting.WrittenAs environment number

/-- Nothing is wrong with an environment except that a number is too large for its field. -/
structure Overflows (environment : Environment) : Prop extends Sound environment where
  large : ∃ (setting : NumericSetting) (number : Int),
    setting.WrittenAs environment number ∧ largest < number * setting.scale

end Settings

/-! ## What is read -/

namespace NumericSetting

open Settings

variable {setting : NumericSetting} {environment : Environment} {number : Int}

/-- The number that is found for a setting, in the unit of its variable. -/
def read (setting : NumericSetting) (environment : Environment) : Except SettingError Int :=
  Settings.number environment setting.key (setting.field {} / setting.scale)

theorem one_le_scale (setting : NumericSetting) : 1 ≤ setting.scale := by
  cases setting <;> decide

theorem default_nonneg (setting : NumericSetting) : 0 ≤ setting.field {} := by
  cases setting <;> decide

/-- The default of a field survives the way through the unit of the variable. -/
theorem default_kept (setting : NumericSetting) :
    (setting.field {} / setting.scale * setting.scale).bmod UInt64.size = setting.field {} := by
  cases setting <;> rfl

theorem WrittenAs.unique {other : Int} (writes : setting.WrittenAs environment number)
    (writesToo : setting.WrittenAs environment other) : number = other := by
  obtain ⟨text, set, decimal, -⟩ := writes
  obtain ⟨textToo, setToo, decimalToo, -⟩ := writesToo
  cases set.symm.trans setToo
  rw [← integer?_eq_some_iff] at decimal decimalToo
  exact Option.some.inj (decimal.symm.trans decimalToo)

theorem WrittenAs.nonneg (writes : setting.WrittenAs environment number) : 0 ≤ number := by
  obtain ⟨text, -, -, nonneg⟩ := writes
  exact nonneg

/-- A number that is found is the default or what is written, cut to the largest one. -/
theorem unset_or_written_of_read (found : setting.read environment = .ok number) :
    environment.nonempty? setting.key = none ∧ number = setting.field {} / setting.scale ∨
      ∃ written, setting.WrittenAs environment written ∧ number = min written largest := by
  rw [read, Settings.number] at found
  split at found
  next nothing =>
    cases found
    exact .inl ⟨nothing, rfl⟩
  next text set =>
    split at found
    next written decimal =>
      split at found
      next => cases found
      next nonneg =>
        cases found
        exact .inr ⟨written, ⟨text, set, integer?_eq_some_iff.mp decimal, not_lt.mp nonneg⟩, rfl⟩
    next => cases found

theorem WrittenAs.read_eq (writes : setting.WrittenAs environment number) :
    setting.read environment = .ok (min number largest) := by
  obtain ⟨text, set, decimal, nonneg⟩ := writes
  simp [read, Settings.number, set, integer?_eq_some_iff.mpr decimal, nonneg.not_gt]

theorem unwritten_of_read {reason : SettingError}
    (failed : setting.read environment = .error reason) :
    ∃ text, environment.nonempty? setting.key = some text ∧
      reason = .badNumber setting.key text ∧ ∀ number, ¬setting.WrittenAs environment number := by
  have unwritten : ∀ number, ¬setting.WrittenAs environment number := fun number writes => by
    cases failed.symm.trans writes.read_eq
  rw [read, Settings.number] at failed
  split at failed
  next => cases failed
  next text set =>
    refine ⟨text, set, ?_, unwritten⟩
    split at failed
    next =>
      split at failed
      next =>
        cases failed
        rfl
      next => cases failed
    next =>
      cases failed
      rfl

/-- An exact field is not too small for what is written. -/
theorem Exact.not_large {held : Int} (exactly : setting.Exact environment held)
    (writes : setting.WrittenAs environment number) : ¬largest < number * setting.scale := by
  cases exactly with
  | unset nothing =>
      obtain ⟨text, set, -⟩ := writes
      cases nothing.symm.trans set
  | written writesToo fits =>
      rw [writes.unique writesToo]
      exact fits.not_gt

theorem read_bounds (found : setting.read environment = .ok number) :
    0 ≤ number ∧ number ≤ largest := by
  rcases unset_or_written_of_read found with ⟨-, rfl⟩ | ⟨written, writes, rfl⟩
  · cases setting <;> decide
  · exact ⟨le_min writes.nonneg (by decide), min_le_right _ _⟩

end NumericSetting

namespace Settings

variable {environment : Environment} {settings : Settings}

theorem pairsOf_eq_error_iff {fallback : List String} {reason : SettingError} :
    pairsOf environment fallback = .error reason ↔
      LacksPairs environment ∧ reason = .noPairs := by
  cases given : environment.nonempty? "OKX_PAIRS" with
  | none => simp [pairsOf, LacksPairs, given]
  | some line =>
      simp only [pairsOf, LacksPairs, given, List.isEmpty_iff]
      split
      next empty =>
        constructor
        · intro failed
          cases failed
          exact ⟨⟨line, rfl, empty⟩, rfl⟩
        · rintro ⟨-, rfl⟩
          rfl
      next some => simp [some]

/-- Numbers that fit are not wrapped. -/
theorem bmod_of_bounds {number : Int} (bounds : 0 ≤ number ∧ number ≤ largest) :
    number.bmod UInt64.size = number := by
  have size : (UInt64.size : Int) = 2 * (largest + 1) := rfl
  exact Int.bmod_eq_of_le (by omega) (by omega)

/-- The fields hold what was found, as far as 64 bits keep it. -/
theorem field_of_accepted (accepted : ofEnvironment environment = .ok settings)
    (setting : NumericSetting) : ∃ number, setting.read environment = .ok number ∧
      setting.field settings = (number * setting.scale).bmod UInt64.size := by
  simp only [ofEnvironment, bind_eq_ok_iff] at accepted
  obtain ⟨pairs, -, messageSeconds, message, retrySeconds, retry, pacing, pace, runSeconds, run,
    same⟩ := accepted
  cases same
  cases setting with
  | messageTimeout => exact ⟨messageSeconds, message, rfl⟩
  | retryDelay => exact ⟨retrySeconds, retry, rfl⟩
  | subscribePacing =>
      have found : NumericSetting.subscribePacing.read environment = .ok pacing := pace
      refine ⟨pacing, found, ?_⟩
      rw [NumericSetting.scale, mul_one, bmod_of_bounds (NumericSetting.read_bounds found)]
      rfl
  | runTime =>
      have found : NumericSetting.runTime.read environment = .ok runSeconds := run
      refine ⟨runSeconds, found, ?_⟩
      rw [NumericSetting.scale, mul_one, bmod_of_bounds (NumericSetting.read_bounds found)]
      rfl

theorem reason_of_refused {reason : SettingError}
    (refused : ofEnvironment environment = .error reason) :
    LacksPairs environment ∧ reason = .noPairs ∨
      ∃ setting : NumericSetting, setting.read environment = .error reason := by
  simp only [ofEnvironment, bind_eq_error_iff, pairsOf_eq_error_iff] at refused
  rcases refused with
    lacks | ⟨_, -, message | ⟨_, -, retry | ⟨_, -, pace | ⟨_, -, run | ⟨_, -, same⟩⟩⟩⟩⟩
  · exact .inl lacks
  · exact .inr ⟨.messageTimeout, message⟩
  · exact .inr ⟨.retryDelay, retry⟩
  · exact .inr ⟨.subscribePacing, pace⟩
  · exact .inr ⟨.runTime, run⟩
  · cases same

theorem Sound.exists_settings (sound : Sound environment) :
    ∃ settings, ofEnvironment environment = .ok settings := by
  cases outcome : ofEnvironment environment with
  | ok settings => exact ⟨settings, rfl⟩
  | error reason =>
      exfalso
      rcases reason_of_refused outcome with ⟨lacks, -⟩ | ⟨setting, failed⟩
      · exact sound.pairs lacks
      · obtain ⟨text, set, -, unwritten⟩ := NumericSetting.unwritten_of_read failed
        rcases sound.written setting with nothing | ⟨number, writes⟩
        · cases nothing.symm.trans set
        · exact unwritten number writes

theorem sound_of_accepted (accepted : ofEnvironment environment = .ok settings) :
    Sound environment := by
  constructor
  · intro lacks
    simp only [ofEnvironment, bind_eq_ok_iff] at accepted
    obtain ⟨pairs, found, -⟩ := accepted
    cases found.symm.trans (pairsOf_eq_error_iff.mpr ⟨lacks, rfl⟩)
  · intro setting
    obtain ⟨number, found, -⟩ := field_of_accepted accepted setting
    exact (NumericSetting.unset_or_written_of_read found).imp And.left
      fun ⟨written, writes, _⟩ => ⟨written, writes⟩

theorem refuses_of_refused {reason : SettingError}
    (refused : ofEnvironment environment = .error reason) : Refuses environment reason := by
  rcases reason_of_refused refused with ⟨lacks, rfl⟩ | ⟨setting, failed⟩
  · exact .noPairs lacks
  · obtain ⟨text, set, rfl, unwritten⟩ := NumericSetting.unwritten_of_read failed
    exact .badNumber setting set fun number writes => absurd writes (unwritten number)

/-- A field is exact if it can hold what is written. -/
theorem exact_of_accepted (accepted : ofEnvironment environment = .ok settings)
    (setting : NumericSetting)
    (fits : ∀ number, setting.WrittenAs environment number → number * setting.scale ≤ largest) :
    0 ≤ setting.field settings ∧ setting.Exact environment (setting.field settings) := by
  obtain ⟨number, found, held⟩ := field_of_accepted accepted setting
  rcases NumericSetting.unset_or_written_of_read found with
    ⟨nothing, rfl⟩ | ⟨written, writes, rfl⟩
  · rw [held, setting.default_kept]
    exact ⟨setting.default_nonneg, .unset nothing⟩
  · have scaled : written ≤ written * setting.scale :=
      le_mul_of_one_le_right writes.nonneg setting.one_le_scale
    have whole : min written largest = written := min_eq_left (scaled.trans (fits written writes))
    have nonneg : 0 ≤ written * setting.scale := writes.nonneg.trans scaled
    rw [held, whole, bmod_of_bounds ⟨nonneg, fits written writes⟩]
    exact ⟨nonneg, .written writes (fits written writes)⟩

/-- Numeric settings are exact or refused, unless a number overflows its field. -/
theorem exactOrRefused_iff_not_overflows (environment : Environment) :
    ExactOrRefused environment ↔ ¬Overflows environment := by
  constructor
  · intro claimed overflows
    obtain ⟨settings, accepted⟩ := overflows.exists_settings
    obtain ⟨setting, number, writes, large⟩ := overflows.large
    rw [ExactOrRefused, accepted] at claimed
    exact (claimed setting).2.not_large writes large
  · intro fits
    rw [ExactOrRefused]
    split
    next reason refused => exact refuses_of_refused refused
    next settings accepted =>
      intro setting
      refine exact_of_accepted accepted setting fun number writes => ?_
      by_contra large
      exact fits ⟨sound_of_accepted accepted, setting, number, writes, not_le.mp large⟩

/-- A pause that is one too long is cut and kept. -/
theorem not_exactOrRefused_cutPause :
    ¬ExactOrRefused ⟨[("OKX_SUBSCRIBE_PACING_MS", "9223372036854775808")]⟩ := by
  intro claimed
  have paused : NumericSetting.subscribePacing.WrittenAs
      ⟨[("OKX_SUBSCRIBE_PACING_MS", "9223372036854775808")]⟩ 9223372036854775808 :=
    ⟨"9223372036854775808", rfl, integer?_eq_some_iff.mp (by decide), by decide⟩
  exact (claimed .subscribePacing).2.not_large paused (by decide)

example : (ofEnvironment ⟨[("OKX_RETRY_DELAY_S", "9223372036854775807")]⟩).map retryDelay =
    .ok (-1000) := by
  decide +kernel

end Settings

end SwapFeed
