import BitcointView.Basic
import Mathlib.Tactic.Common

/-!
The penalty of `utils/mixins/penalizable_oracle.py`. A call on the mixin happens at one time
`now`, the value of every `ts_now()` it reads. The rule the mixin implements is stated apart,
as the failures recorded since the latest stamp and that stamp, and the mixin's `PenaltyInfo`
is shown to stand for it after every sequence of calls at times past the first window.
-/

namespace BitcointView

def oraclePenaltyThresholdCount : Int := 5
def oraclePenaltyTs : Int := 1800

structure PenaltyInfo where
  lastPenalizedTs : Timestamp
  queryFailuresCount : Int
  deriving DecidableEq, Repr

/-- `PenaltyInfo.note_failure_or_penalize`. -/
def PenaltyInfo.noteFailureOrPenalize (p : PenaltyInfo) (now : Timestamp) : PenaltyInfo :=
  if p.queryFailuresCount ≥ oraclePenaltyThresholdCount then
    { p with lastPenalizedTs := now, queryFailuresCount := 0 }
  else { p with queryFailuresCount := p.queryFailuresCount + 1 }

structure PenalizablePriceOracleMixin where
  penaltyInfo : PenaltyInfo
  deriving DecidableEq, Repr

namespace PenalizablePriceOracleMixin

/-- `PenalizablePriceOracleMixin.__init__`. -/
def init : PenalizablePriceOracleMixin :=
  ⟨{ lastPenalizedTs := 0, queryFailuresCount := 0 }⟩

/-- `self.penalty_info.note_failure_or_penalize()`, as the oracles call it after a failure. -/
def noteFailureOrPenalize (m : PenalizablePriceOracleMixin) (now : Timestamp) :
    PenalizablePriceOracleMixin :=
  ⟨m.penaltyInfo.noteFailureOrPenalize now⟩

/-- `PenalizablePriceOracleMixin.is_penalized`. -/
def isPenalized (m : PenalizablePriceOracleMixin) (now : Timestamp) :
    Bool × PenalizablePriceOracleMixin :=
  let m := if m.penaltyInfo.queryFailuresCount = oraclePenaltyThresholdCount then
    m.noteFailureOrPenalize now else m
  (decide (now - m.penaltyInfo.lastPenalizedTs ≤ oraclePenaltyTs), m)

end PenalizablePriceOracleMixin

inductive PenaltyCall
  | noteFailure (now : Timestamp)
  | isPenalized (now : Timestamp)
  deriving DecidableEq, Repr

def PenaltyCall.time : PenaltyCall → Timestamp
  | .noteFailure now | .isPenalized now => now

def runCalls {σ : Type} (step : σ → PenaltyCall → Option Bool × σ) :
    List PenaltyCall → σ → List (Option Bool) × σ
  | [], s => ([], s)
  | c :: cs, s =>
    let r := step s c
    let rest := runCalls step cs r.2
    (r.1 :: rest.1, rest.2)

def PenalizablePriceOracleMixin.call (m : PenalizablePriceOracleMixin) :
    PenaltyCall → Option Bool × PenalizablePriceOracleMixin
  | .noteFailure now => (none, m.noteFailureOrPenalize now)
  | .isPenalized now => let r := m.isPenalized now; (some r.1, r.2)

/-- The penalty rule: a stamp is taken by the first call, failure or check, after the fifth
failure recorded since the latest stamp (or since creation); a check answers whether the latest
stamp, its own included, is at most `ORACLE_PENALTY_TS` old. -/
structure PenaltyHistory where
  recorded : Nat
  latestStamp : Option Timestamp
  deriving DecidableEq, Repr

namespace PenaltyHistory

def initial : PenaltyHistory := ⟨0, none⟩

def stamp (h : PenaltyHistory) (now : Timestamp) : PenaltyHistory :=
  if h.recorded = 5 then ⟨0, some now⟩ else h

def call (h : PenaltyHistory) : PenaltyCall → Option Bool × PenaltyHistory
  | .noteFailure now =>
    (none, if h.recorded = 5 then h.stamp now else { h with recorded := h.recorded + 1 })
  | .isPenalized now =>
    let h := h.stamp now
    (some (h.latestStamp.any fun s => decide (now - s ≤ oraclePenaltyTs)), h)

end PenaltyHistory

def PenalizablePriceOracleMixin.Refines (m : PenalizablePriceOracleMixin) (h : PenaltyHistory) :
    Prop :=
  m.penaltyInfo.queryFailuresCount = h.recorded ∧ h.recorded ≤ 5 ∧
    m.penaltyInfo.lastPenalizedTs = h.latestStamp.getD 0

namespace PenalizablePriceOracleMixin

variable {m : PenalizablePriceOracleMixin} {h : PenaltyHistory}

theorem Refines.count_ge_iff (hr : m.Refines h) :
    m.penaltyInfo.queryFailuresCount ≥ oraclePenaltyThresholdCount ↔ h.recorded = 5 := by
  have := hr.2.1
  rw [hr.1, oraclePenaltyThresholdCount]
  omega

theorem Refines.count_eq_iff (hr : m.Refines h) :
    m.penaltyInfo.queryFailuresCount = oraclePenaltyThresholdCount ↔ h.recorded = 5 := by
  rw [hr.1, oraclePenaltyThresholdCount]
  omega

theorem refines_stamp (hr : m.Refines h) (now : Timestamp) :
    (if m.penaltyInfo.queryFailuresCount = oraclePenaltyThresholdCount then
      m.noteFailureOrPenalize now else m).Refines (h.stamp now) := by
  by_cases h5 : h.recorded = 5
  · simp [hr.count_eq_iff.mpr h5, hr.count_ge_iff.mpr h5, noteFailureOrPenalize,
      PenaltyInfo.noteFailureOrPenalize, PenaltyHistory.stamp, h5, Refines]
  · simpa [mt hr.count_eq_iff.mp h5, PenaltyHistory.stamp, h5] using hr

theorem refines_call (hr : m.Refines h) (c : PenaltyCall) (hc : oraclePenaltyTs < c.time) :
    (m.call c).1 = (h.call c).1 ∧ (m.call c).2.Refines (h.call c).2 := by
  cases c with
  | noteFailure now =>
    by_cases h5 : h.recorded = 5
    · simp [call, PenaltyHistory.call, PenaltyHistory.stamp, noteFailureOrPenalize,
        PenaltyInfo.noteFailureOrPenalize, hr.count_ge_iff.mpr h5, h5, Refines]
    · simp only [call, PenaltyHistory.call, noteFailureOrPenalize,
        PenaltyInfo.noteFailureOrPenalize, mt hr.count_ge_iff.mp h5, if_false, h5, true_and, Refines]
      obtain ⟨hcnt, hle, hts⟩ := hr
      exact ⟨by push_cast; omega, by omega, hts⟩
  | isPenalized now =>
    have hs := refines_stamp hr now
    refine ⟨?_, hs⟩
    obtain ⟨-, -, hts⟩ := hs
    simp only [call, isPenalized, PenaltyHistory.call, Option.some.injEq]
    rw [hts]
    cases (h.stamp now).latestStamp with
    | none =>
      simpa using Int.not_le.mpr hc
    | some s => simp

theorem refines_runCalls (calls : List PenaltyCall) (hcalls : ∀ c ∈ calls, oraclePenaltyTs < c.time) :
    ∀ {m : PenalizablePriceOracleMixin} {h : PenaltyHistory}, m.Refines h →
      (runCalls call calls m).1 = (runCalls PenaltyHistory.call calls h).1 ∧
        (runCalls call calls m).2.Refines (runCalls PenaltyHistory.call calls h).2 := by
  induction calls with
  | nil => exact fun hr => ⟨rfl, hr⟩
  | cons c cs ih =>
    intro m h hr
    obtain ⟨h1, h2⟩ := refines_call hr c (hcalls c (.head _))
    obtain ⟨ih1, ih2⟩ := ih (fun c hc => hcalls c (.tail _ hc)) h2
    exact ⟨by simp only [runCalls, h1, ih1], ih2⟩

end PenalizablePriceOracleMixin

theorem penalty_follows_rule (calls : List PenaltyCall)
    (hcalls : ∀ c ∈ calls, oraclePenaltyTs < c.time) :
    (runCalls PenalizablePriceOracleMixin.call calls .init).1 =
        (runCalls PenaltyHistory.call calls .initial).1 ∧
      0 ≤ (runCalls PenalizablePriceOracleMixin.call calls .init).2.penaltyInfo.queryFailuresCount ∧
      (runCalls PenalizablePriceOracleMixin.call calls .init).2.Refines
        (runCalls PenaltyHistory.call calls .initial).2 := by
  obtain ⟨h1, h2⟩ := @PenalizablePriceOracleMixin.refines_runCalls calls hcalls
    .init .initial ⟨rfl, by decide, rfl⟩
  exact ⟨h1, by rw [h2.1]; omega, h2⟩


theorem penalty_follows_rule_after_five_failures :
    (∀ c ∈ List.replicate 5 (PenaltyCall.noteFailure 2000) ++ [.isPenalized 2100, .isPenalized 4000],
        oraclePenaltyTs < c.time) ∧
      (runCalls PenalizablePriceOracleMixin.call
          (List.replicate 5 (.noteFailure 2000) ++ [.isPenalized 2100, .isPenalized 4000]) .init).1 =
        (runCalls PenaltyHistory.call
          (List.replicate 5 (.noteFailure 2000) ++ [.isPenalized 2100, .isPenalized 4000]) .initial).1 ∧
      0 ≤ (runCalls PenalizablePriceOracleMixin.call
          (List.replicate 5 (.noteFailure 2000) ++ [.isPenalized 2100, .isPenalized 4000])
          .init).2.penaltyInfo.queryFailuresCount ∧
      (runCalls PenalizablePriceOracleMixin.call
          (List.replicate 5 (.noteFailure 2000) ++ [.isPenalized 2100, .isPenalized 4000]) .init).2.Refines
        (runCalls PenaltyHistory.call
          (List.replicate 5 (.noteFailure 2000) ++ [.isPenalized 2100, .isPenalized 4000]) .initial).2 :=
  ⟨by decide, penalty_follows_rule _ (by decide)⟩

example : (runCalls PenalizablePriceOracleMixin.call
    (List.replicate 5 (.noteFailure 2000) ++ [.isPenalized 2100, .isPenalized 4000]) .init).1 =
      [none, none, none, none, none, some true, some false] := by decide

end BitcointView
