import OpenModelOps.JudgeEnsemble
import Mathlib.Algebra.BigOperators.Group.List.Basic
import Mathlib.Algebra.Order.BigOperators.Group.List
import Mathlib.Tactic.FieldSimp
import Mathlib.Tactic.Linarith
import Mathlib.Tactic.Positivity
import Mathlib.Tactic.Ring

namespace OpenModelOps.JudgeCalibration
open PythonFloat Raising
open JudgeEnsemble (Verdict probability)

structure CalibrationCase where
  caseId : String
  humanPass : Bool
  judgeVerdict : Verdict
  passProbability : Option ℚ

structure CalibrationReport where
  cases : Nat
  accuracy : ℚ
  falsePassRate : ℚ
  falseFailRate : ℚ
  cohenKappa : ℚ
  precision : ℚ
  recall_ : ℚ
  brierScore : Option ℚ
  deriving DecidableEq

structure CalibrationPolicy where
  minimumCases : Int
  minimumAccuracy : ℚ
  maximumFalsePassRate : ℚ
  maximumFalseFailRate : ℚ
  minimumKappa : ℚ
  maximumBrierScore : ℚ

-- CalibrationPolicy().
def CalibrationPolicy.standard : CalibrationPolicy := ⟨50,9/10,1/20,1/10,3/4,3/25⟩

inductive Failure where
  | valueError (message : String)
  | zeroDivisionError
  deriving DecidableEq

namespace CalibrationPolicy

def failures (policy : CalibrationPolicy) (report : CalibrationReport) : List String :=
  (if (report.cases : Int) < policy.minimumCases then ["insufficient_cases"] else []) ++
  (if report.accuracy < policy.minimumAccuracy then ["accuracy"] else []) ++
  (if policy.maximumFalsePassRate < report.falsePassRate then ["false_pass_rate"] else []) ++
  (if policy.maximumFalseFailRate < report.falseFailRate then ["false_fail_rate"] else []) ++
  (if report.cohenKappa < policy.minimumKappa then ["cohen_kappa"] else []) ++
  (if report.brierScore.all (fun score => decide (policy.maximumBrierScore < score)) then ["brier_score"] else [])

-- The text quotes each of the failures.
def qualify (policy : CalibrationPolicy) (report : CalibrationReport) : Except Failure Unit :=
  if policy.failures report = [] then .ok ()
  else .error (.valueError ("judge calibration gate failed: ['" ++ "', '".intercalate (policy.failures report) ++ "']"))

end CalibrationPolicy

structure Counts where
  tp : Nat
  tn : Nat
  fp : Nat
  fn : Nat

def Counts.of (cases : List CalibrationCase) : Counts where
  tp := cases.countP fun c => c.humanPass && decide (c.judgeVerdict = .pass)
  tn := cases.countP fun c => !c.humanPass && decide (c.judgeVerdict = .fail)
  fp := cases.countP fun c => !c.humanPass && decide (c.judgeVerdict = .pass)
  fn := cases.countP fun c => c.humanPass && decide (c.judgeVerdict = .fail)

def quotient (arithmetic : Arithmetic) (x y : ℚ) : Except Failure ℚ :=
  if y = 0 then .error .zeroDivisionError else .ok (arithmetic.div x y)

-- (float(case.pass_probability) - float(case.human_pass)) ** 2, of a case that
-- has a probability.
def squared (arithmetic : Arithmetic) (c : CalibrationCase) : ℚ :=
  let distance := arithmetic.sub (c.passProbability.getD 0) (if c.humanPass then 1 else 0)
  arithmetic.mul distance distance

def brier (arithmetic : Arithmetic) (cases : List CalibrationCase) : Except Failure (Option ℚ) :=
  if cases.all fun c => c.passProbability.isSome then do
    let mean ← quotient arithmetic (arithmetic.sum (cases.map (squared arithmetic))) cases.length
    return some (arithmetic.round6 mean)
  else .ok none

def kappa (arithmetic : Arithmetic) (observed expected : ℚ) : Except Failure ℚ :=
  if expected = 1 ∧ observed = 1 then .ok 1
  else quotient arithmetic (arithmetic.sub observed expected) (arithmetic.sub 1 expected)

def report (arithmetic : Arithmetic) (count : Nat) (counts : Counts) (score : Except Failure (Option ℚ)) :
    Except Failure CalibrationReport := do
  let observed ← quotient arithmetic (counts.tp + counts.tn : Nat) count
  let humanPositive ← quotient arithmetic (counts.tp + counts.fn : Nat) count
  let judgePositive ← quotient arithmetic (counts.tp + counts.fp : Nat) count
  let expected := arithmetic.add (arithmetic.mul humanPositive judgePositive)
    (arithmetic.mul (arithmetic.sub 1 humanPositive) (arithmetic.sub 1 judgePositive))
  let agreement ← kappa arithmetic observed expected
  let falsePass ← quotient arithmetic counts.fp (max 1 (counts.fp + counts.tn) : Nat)
  let falseFail ← quotient arithmetic counts.fn (max 1 (counts.fn + counts.tp) : Nat)
  let precision ← quotient arithmetic counts.tp (max 1 (counts.tp + counts.fp) : Nat)
  let recall_ ← quotient arithmetic counts.tp (max 1 (counts.tp + counts.fn) : Nat)
  let brierScore ← score
  return ⟨count,arithmetic.round6 observed,arithmetic.round6 falsePass,arithmetic.round6 falseFail,
    arithmetic.round6 agreement,arithmetic.round6 precision,arithmetic.round6 recall_,brierScore⟩

def calibrate (arithmetic : Arithmetic) (cases : List CalibrationCase) : Except Failure CalibrationReport :=
  if cases.length < 2 then .error (.valueError "calibration requires at least two human-labelled cases")
  else if cases.any fun c => decide (c.judgeVerdict = .review) then
    .error (.valueError "human-review verdicts must be resolved before binary calibration")
  else if cases.any fun c => c.passProbability.any fun value => !probability value then
    .error (.valueError "pass probabilities must be between zero and one")
  else if (cases.any fun c => c.passProbability.isNone) && cases.any fun c => c.passProbability.isSome then
    .error (.valueError "pass probabilities must be supplied for every case or no cases")
  else report arithmetic cases.length (.of cases) (brier arithmetic cases)

structure Calibratable (cases : List CalibrationCase) : Prop where
  enough : 2 ≤ cases.length
  resolved : ∀ c ∈ cases, c.judgeVerdict ≠ .review
  probable : (∀ c ∈ cases, ∃ p, c.passProbability = some p ∧ 0 ≤ p ∧ p ≤ 1) ∨ ∀ c ∈ cases, c.passProbability = none

def Agrees (c : CalibrationCase) : Prop := c.humanPass = decide (c.judgeVerdict = .pass)

section Counting
variable {cases others : List CalibrationCase}

def Counts.size (counts : Counts) : Nat := counts.tp + counts.tn + counts.fp + counts.fn

theorem Counts.size_of (resolved : ∀ c ∈ cases, c.judgeVerdict ≠ .review) : (Counts.of cases).size = cases.length := by
  induction cases with
  | nil => rfl
  | cons head rest ih =>
    have before := ih fun c member => resolved c (List.mem_cons_of_mem _ member)
    have here := resolved head List.mem_cons_self
    simp only [Counts.size,Counts.of,List.countP_cons,List.length_cons] at before ⊢
    cases verdict : head.judgeVerdict with
    | review => exact absurd verdict here
    | pass => cases head.humanPass <;> simp <;> omega
    | fail => cases head.humanPass <;> simp <;> omega

theorem Counts.apart_iff (resolved : ∀ c ∈ cases, c.judgeVerdict ≠ .review) :
    (Counts.of cases).fp = 0 ∧ (Counts.of cases).fn = 0 ↔ ∀ c ∈ cases, Agrees c := by
  simp only [Counts.of,List.countP_eq_zero,← forall₂_and]
  refine forall₂_congr fun c member => ?_
  have here := resolved c member
  cases verdict : c.judgeVerdict with
  | review => exact absurd verdict here
  | pass => cases human : c.humanPass <;> simp [Agrees,verdict,human]
  | fail => cases human : c.humanPass <;> simp [Agrees,verdict,human]

theorem Counts.of_perm (reordered : cases.Perm others) : Counts.of cases = Counts.of others := by
  simp only [Counts.of,reordered.countP_eq]

end Counting

theorem quotient_of {arithmetic : Arithmetic} {x y : ℚ} (nonzero : y ≠ 0) :
    quotient arithmetic x y = .ok (arithmetic.div x y) := if_neg nonzero

theorem guarded_nonzero (n : Nat) : ((max 1 n : Nat) : ℚ) ≠ 0 :=
  Nat.cast_ne_zero.mpr (Nat.ne_of_gt (lt_of_lt_of_le Nat.one_pos (le_max_left 1 n)))

theorem calibrate_report {arithmetic : Arithmetic} {cases : List CalibrationCase} (able : Calibratable cases) :
    calibrate arithmetic cases = report arithmetic cases.length (.of cases) (brier arithmetic cases) := by
  have binary : (cases.any fun c => decide (c.judgeVerdict = .review)) = false := by
    rw [List.any_eq_false]
    intro c member
    simpa using able.resolved c member
  have within : (cases.any fun c => c.passProbability.any fun value => !probability value) = false := by
    rw [List.any_eq_false]
    intro c member
    rcases able.probable with all | none
    · obtain ⟨p,given,low,high⟩ := all c member
      simp [given,probability,low,high]
    · simp [none c member]
  have uniform : ((cases.any fun c => c.passProbability.isNone) && cases.any fun c => c.passProbability.isSome) = false := by
    rcases able.probable with all | none
    · rw [Bool.and_eq_false_iff,List.any_eq_false]
      refine .inl fun c member => ?_
      obtain ⟨p,given,_⟩ := all c member
      simp [given]
    · rw [Bool.and_eq_false_iff,List.any_eq_false (l := cases)]
      refine .inr ?_
      rw [List.any_eq_false]
      intro c member
      simp [none c member]
  rw [calibrate,if_neg (Nat.not_lt.mpr able.enough),binary,within,uniform]
  rfl

def chance (human judge : ℚ) : ℚ := human * judge + (1 - human) * (1 - judge)

-- a and b count the agreements, c and d the disagreements. What chance leaves
-- open is at least half of what the judge misses.
theorem chance_gap {a b c d n : ℚ} (ha : 0 ≤ a) (hb : 0 ≤ b) (hc : 0 ≤ c) (hd : 0 ≤ d) (size : a + b + c + d = n)
    (positive : 0 < n) :
    1 - (a + b) / n ≤ 2 * (1 - chance ((a + d) / n) ((a + c) / n)) ∧
      (0 < c + d → 0 < 1 - chance ((a + d) / n) ((a + c) / n)) := by
  have missed : 1 - (a + b) / n = (c + d) * n / n ^ 2 := by
    field_simp
    linarith
  have gap : 1 - chance ((a + d) / n) ((a + c) / n) = ((a + d) * (d + b) + (a + c) * (c + b)) / n ^ 2 := by
    rw [chance]
    field_simp
    rw [← size]
    ring
  have square : 0 < n ^ 2 := by positivity
  constructor
  · rw [missed,gap,← mul_div_assoc,div_le_div_iff_of_pos_right square,← size]
    have spread := sq_nonneg (c - d)
    have ab : 0 ≤ a * b := by positivity
    have ac : 0 ≤ a * c := by positivity
    have ad : 0 ≤ a * d := by positivity
    have bc : 0 ≤ b * c := by positivity
    have bd : 0 ≤ b * d := by positivity
    nlinarith only [spread,ab,ac,ad,bc,bd]
  · intro apart
    rw [gap]
    refine div_pos ?_ square
    have squares : 0 < d * d + c * c := by
      rcases hc.eq_or_lt with none | some
      · have fails : 0 < d := by linarith
        positivity
      · positivity
    have others : 0 ≤ a * d + a * b + d * b + (a * c + a * b + c * b) := by positivity
    linarith

-- Kappa of exact counts: the guard catches the one case without a quotient.
theorem kappa_exact (counts : Counts) (inhabited : 0 < counts.size) :
    ∃ k, kappa .unrounded ((counts.tp + counts.tn : Nat) / counts.size)
        (chance ((counts.tp + counts.fn : Nat) / counts.size) ((counts.tp + counts.fp : Nat) / counts.size)) = .ok k ∧
      -1 ≤ k ∧ k ≤ 1 ∧ (k = 1 ↔ counts.fp = 0 ∧ counts.fn = 0) := by
  have positive : (0 : ℚ) < counts.size := Nat.cast_pos.mpr inhabited
  have size : (counts.tp + counts.tn + counts.fp + counts.fn : ℚ) = counts.size := by
    simp only [Counts.size,Nat.cast_add]
  obtain ⟨least,open_⟩ := chance_gap (Nat.cast_nonneg counts.tp) (Nat.cast_nonneg counts.tn)
    (Nat.cast_nonneg counts.fp) (Nat.cast_nonneg counts.fn) size positive
  simp only [Nat.cast_add]
  generalize reached : chance _ _ = expected at least open_ ⊢
  by_cases perfect : counts.fp = 0 ∧ counts.fn = 0
  · have all : ((counts.tp : ℚ) + counts.tn) / counts.size = 1 := by
      rw [div_eq_one_iff_eq positive.ne',← size,perfect.1,perfect.2]
      simp
    rw [all,kappa]
    by_cases certain : expected = 1
    · exact ⟨1,if_pos ⟨certain,rfl⟩,by norm_num,le_refl _,iff_of_true rfl perfect⟩
    · have nonzero : (1 : ℚ) - expected ≠ 0 := sub_ne_zero.mpr (Ne.symm certain)
      refine ⟨1,?_,by norm_num,le_refl _,iff_of_true rfl perfect⟩
      rw [if_neg fun both => certain both.1]
      exact (quotient_of nonzero).trans (congrArg Except.ok (div_self nonzero))
  · have missed : (0 : ℚ) < counts.fp + counts.fn := by
      rw [← Nat.cast_add,Nat.cast_pos]
      omega
    have gap := open_ missed
    have observed : ((counts.tp : ℚ) + counts.tn) / counts.size < 1 := by
      rw [div_lt_one positive,← size]
      linarith
    generalize (counts.tp + counts.tn : ℚ) / counts.size = seen at least observed ⊢
    refine ⟨(seen - expected) / (1 - expected),?_,?_,?_,?_⟩
    · rw [kappa,if_neg fun both => observed.ne both.2]
      exact quotient_of gap.ne'
    · rw [le_div_iff₀ gap]
      linarith
    · rw [div_le_one gap]
      linarith
    · refine iff_of_false (fun same => ?_) perfect
      rw [div_eq_one_iff_eq gap.ne'] at same
      linarith

def InUnit (x : ℚ) : Prop := 0 ≤ x ∧ x ≤ 1

theorem rate_unit (part rest : Nat) : InUnit (part / (max 1 (part + rest) : Nat)) := by
  have positive : (0 : ℚ) < (max 1 (part + rest) : Nat) := Nat.cast_pos.mpr (lt_of_lt_of_le Nat.one_pos (le_max_left _ _))
  refine ⟨by positivity,?_⟩
  rw [div_le_one positive]
  exact Nat.cast_le.mpr (le_trans (Nat.le_add_right part rest) (le_max_right _ _))

theorem squared_unit {c : CalibrationCase} {p : ℚ} (given : c.passProbability = some p) (low : 0 ≤ p) (high : p ≤ 1) :
    InUnit (squared .unrounded c) := by
  have distance : -1 ≤ p - (if c.humanPass then 1 else 0) ∧ p - (if c.humanPass then 1 else 0) ≤ 1 := by
    cases c.humanPass <;> constructor <;> simp <;> linarith
  rw [squared,given]
  show InUnit ((p - (if c.humanPass then 1 else 0)) * (p - (if c.humanPass then 1 else 0)))
  generalize p - (if c.humanPass then 1 else 0) = apart at distance ⊢
  constructor
  · exact mul_self_nonneg apart
  · nlinarith only [distance.1,distance.2]

theorem mean_unit {values : List ℚ} (inhabited : values ≠ []) (each : ∀ value ∈ values, InUnit value) :
    InUnit (values.sum / values.length) := by
  have positive : (0 : ℚ) < values.length := Nat.cast_pos.mpr (List.length_pos_iff.mpr inhabited)
  constructor
  · exact div_nonneg (List.sum_nonneg fun value member => (each value member).1) positive.le
  · rw [div_le_one positive]
    have bounded := List.sum_le_card_nsmul values 1 fun value member => (each value member).2
    rwa [nsmul_eq_mul,mul_one] at bounded

theorem brier_exact {cases : List CalibrationCase} (able : Calibratable cases) :
    ∃ score, brier .unrounded cases = .ok score ∧ ∀ b, score = some b → InUnit b := by
  rw [brier]
  by_cases complete : (cases.all fun c => c.passProbability.isSome) = true
  · have given : ∀ c ∈ cases, ∃ p, c.passProbability = some p ∧ 0 ≤ p ∧ p ≤ 1 := by
      rcases able.probable with all | none
      · exact all
      · intro c member
        have present := List.all_eq_true.mp complete c member
        rw [none c member] at present
        cases present
    have inhabited : cases ≠ [] := by
      rintro rfl
      exact absurd able.enough (by decide)
    have nonzero : (cases.length : ℚ) ≠ 0 := Nat.cast_ne_zero.mpr (List.length_pos_iff.mpr inhabited).ne'
    refine ⟨some ((cases.map (squared .unrounded)).sum / cases.length),?_,?_⟩
    · rw [if_pos complete,quotient_of nonzero]
      rfl
    · intro b same
      cases Option.some.inj same
      have each : cases.map (squared .unrounded) ≠ [] := fun none => inhabited (List.map_eq_nil_iff.mp none)
      have mean := mean_unit each fun value member => by
        obtain ⟨c,inside,rfl⟩ := List.mem_map.mp member
        obtain ⟨p,here,low,high⟩ := given c inside
        exact squared_unit here low high
      rwa [List.length_map] at mean
  · exact ⟨none,if_neg complete,nofun⟩

section Order
variable {cases others : List CalibrationCase}

theorem brier_perm (reordered : cases.Perm others) : brier .unrounded cases = brier .unrounded others := by
  have summed : Arithmetic.unrounded.sum (cases.map (squared .unrounded)) =
      Arithmetic.unrounded.sum (others.map (squared .unrounded)) := (reordered.map (squared .unrounded)).sum_eq
  rw [brier,brier,reordered.all_eq,reordered.length_eq,summed]

theorem calibrate_perm (reordered : cases.Perm others) : calibrate .unrounded cases = calibrate .unrounded others := by
  rw [calibrate,calibrate,brier_perm reordered,Counts.of_perm reordered,reordered.length_eq]
  simp only [reordered.any_eq]

end Order

theorem report_of {arithmetic : Arithmetic} {counts : Counts} {count : Nat} {k : ℚ} {score : Except Failure (Option ℚ)}
    {b : Option ℚ} (nonzero : (count : ℚ) ≠ 0) (scored : score = .ok b)
    (agreement : kappa arithmetic (arithmetic.div (counts.tp + counts.tn : Nat) count)
      (arithmetic.add (arithmetic.mul (arithmetic.div (counts.tp + counts.fn : Nat) count)
          (arithmetic.div (counts.tp + counts.fp : Nat) count))
        (arithmetic.mul (arithmetic.sub 1 (arithmetic.div (counts.tp + counts.fn : Nat) count))
          (arithmetic.sub 1 (arithmetic.div (counts.tp + counts.fp : Nat) count)))) = .ok k) :
    report arithmetic count counts score = .ok ⟨count,
      arithmetic.round6 (arithmetic.div (counts.tp + counts.tn : Nat) count),
      arithmetic.round6 (arithmetic.div counts.fp (max 1 (counts.fp + counts.tn) : Nat)),
      arithmetic.round6 (arithmetic.div counts.fn (max 1 (counts.fn + counts.tp) : Nat)),arithmetic.round6 k,
      arithmetic.round6 (arithmetic.div counts.tp (max 1 (counts.tp + counts.fp) : Nat)),
      arithmetic.round6 (arithmetic.div counts.tp (max 1 (counts.tp + counts.fn) : Nat)),b⟩ := by
  simp only [report,quotient_of nonzero,quotient_of (guarded_nonzero _),scored]
  show (kappa _ _ _ >>= _) = _
  rw [agreement]
  rfl

theorem calibrate_exact {cases : List CalibrationCase} (able : Calibratable cases) :
    ∃ report, calibrate .unrounded cases = .ok report ∧
      (Counts.of cases).tp + (Counts.of cases).tn + (Counts.of cases).fp + (Counts.of cases).fn = cases.length ∧
      InUnit report.accuracy ∧ InUnit report.falsePassRate ∧ InUnit report.falseFailRate ∧ InUnit report.precision ∧
      InUnit report.recall_ ∧ (∀ b, report.brierScore = some b → InUnit b) ∧
      -1 ≤ report.cohenKappa ∧ report.cohenKappa ≤ 1 ∧
      (report.cohenKappa = 1 ↔ ∀ c ∈ cases, c.humanPass = decide (c.judgeVerdict = .pass)) ∧
      ∀ others, cases.Perm others → calibrate .unrounded others = .ok report := by
  have size := Counts.size_of able.resolved
  have inhabited : 0 < cases.length := lt_of_lt_of_le (by decide) able.enough
  obtain ⟨k,agreement,low,high,perfect⟩ := kappa_exact (.of cases) (size ▸ inhabited)
  obtain ⟨score,scored,bounded⟩ := brier_exact able
  rw [size] at agreement
  have nonzero : (cases.length : ℚ) ≠ 0 := Nat.cast_ne_zero.mpr inhabited.ne'
  have made := (calibrate_report able).trans (report_of nonzero scored agreement)
  refine ⟨_,made,size,?_,rate_unit _ _,rate_unit _ _,rate_unit _ _,rate_unit _ _,bounded,low,high,?_,?_⟩
  · have share := rate_unit ((Counts.of cases).tp + (Counts.of cases).tn) ((Counts.of cases).fp + (Counts.of cases).fn)
    rwa [← Nat.add_assoc,show _ + _ = _ from size,max_eq_right inhabited] at share
  · exact perfect.trans (Counts.apart_iff able.resolved)
  · intro others reordered
    rw [← calibrate_perm reordered]
    exact made

def pair : List CalibrationCase := [⟨"1",true,.pass,some (9/10)⟩,⟨"2",false,.fail,some (1/10)⟩]

theorem calibrate_exact_pair : ∃ report, calibrate .unrounded pair = .ok report ∧ report.cohenKappa = 1 := by
  have able : Calibratable pair :=
    ⟨by decide,by simp [pair],.inl (by simp only [pair,List.forall_mem_cons,List.not_mem_nil,false_imp_iff,
      Option.some.injEq,exists_eq_left']; norm_num)⟩
  obtain ⟨report,made,_,_,_,_,_,_,_,_,_,perfect,_⟩ := calibrate_exact able
  exact ⟨report,made,perfect.mpr (by simp [pair])⟩

-- qualify(calibrate(cases)) under the default policy.
def qualifyCalibration (arithmetic : Arithmetic) (cases : List CalibrationCase) : Except Failure Unit := do
  let report ← calibrate arithmetic cases
  CalibrationPolicy.standard.qualify report

structure Meets (policy : CalibrationPolicy) (report : CalibrationReport) : Prop where
  enough : policy.minimumCases ≤ report.cases
  accurate : policy.minimumAccuracy ≤ report.accuracy
  guarded : report.falsePassRate ≤ policy.maximumFalsePassRate
  fair : report.falseFailRate ≤ policy.maximumFalseFailRate
  agreeing : policy.minimumKappa ≤ report.cohenKappa
  calibrated : ∃ score, report.brierScore = some score ∧ score ≤ policy.maximumBrierScore

theorem qualify_iff {policy : CalibrationPolicy} {report : CalibrationReport} :
    policy.qualify report = .ok () ↔ Meets policy report := by
  have none_left : ∀ {p : Prop} [Decidable p] {text : String}, (if p then [text] else []) = [] ↔ ¬ p := by
    intro p _ text
    by_cases holds : p <;> simp [holds]
  have scored : (¬ report.brierScore.all (fun score => decide (policy.maximumBrierScore < score)) = true) ↔
      ∃ score, report.brierScore = some score ∧ score ≤ policy.maximumBrierScore := by
    cases report.brierScore <;> simp
  have passed : policy.qualify report = .ok () ↔ policy.failures report = [] := by
    rw [CalibrationPolicy.qualify]
    by_cases empty : policy.failures report = [] <;> simp [empty]
  rw [passed]
  simp only [CalibrationPolicy.failures,List.append_eq_nil_iff,none_left,scored,not_lt]
  constructor
  · rintro ⟨⟨⟨⟨⟨enough,accurate⟩,guarded⟩,fair⟩,agreeing⟩,calibrated⟩
    exact ⟨enough,accurate,guarded,fair,agreeing,calibrated⟩
  · rintro ⟨enough,accurate,guarded,fair,agreeing,calibrated⟩
    exact ⟨⟨⟨⟨⟨enough,accurate⟩,guarded⟩,fair⟩,agreeing⟩,calibrated⟩

section Inversion
variable {arithmetic : Arithmetic} {cases : List CalibrationCase} {result : CalibrationReport}

theorem quotient_ok {x y z : ℚ} (done : quotient arithmetic x y = .ok z) : z = arithmetic.div x y := by
  unfold quotient at done
  split at done
  · cases done
  · exact (Except.ok.inj done).symm

theorem calibrate_able (done : calibrate arithmetic cases = .ok result) : Calibratable cases := by
  unfold calibrate at done
  split at done
  · cases done
  split at done
  · cases done
  split at done
  · cases done
  split at done
  · cases done
  rename_i many binary within uniform
  simp only [Bool.not_eq_true,List.any_eq_false,decide_eq_true_eq] at binary within
  refine ⟨Nat.not_lt.mp many,binary,?_⟩
  have probable : ∀ c ∈ cases, ∀ p, c.passProbability = some p → 0 ≤ p ∧ p ≤ 1 := by
    intro c member p given
    simpa [given,probability] using within c member
  by_cases missing : (cases.any fun c => c.passProbability.isNone) = true
  · rw [missing,Bool.true_and,Bool.not_eq_true,List.any_eq_false] at uniform
    exact .inr fun c member => by simpa using uniform c member
  · rw [Bool.not_eq_true,List.any_eq_false] at missing
    refine .inl fun c member => ?_
    cases given : c.passProbability with
    | none => exact absurd (by rw [given]; rfl) (missing c member)
    | some p => exact ⟨p,rfl,probable c member p given⟩

theorem calibrate_figures (done : calibrate arithmetic cases = .ok result) :
    result.cases = cases.length ∧
    result.falsePassRate = arithmetic.round6 (arithmetic.div (Counts.of cases).fp
      (max 1 ((Counts.of cases).fp + (Counts.of cases).tn) : Nat)) ∧
    result.falseFailRate = arithmetic.round6 (arithmetic.div (Counts.of cases).fn
      (max 1 ((Counts.of cases).fn + (Counts.of cases).tp) : Nat)) ∧
    brier arithmetic cases = .ok result.brierScore := by
  rw [calibrate_report (calibrate_able done),report] at done
  obtain ⟨_,_,done⟩ := bind_ok done
  obtain ⟨_,_,done⟩ := bind_ok done
  obtain ⟨_,_,done⟩ := bind_ok done
  obtain ⟨_,_,done⟩ := bind_ok done
  obtain ⟨falsePass,passes,done⟩ := bind_ok done
  obtain ⟨falseFail,fails,done⟩ := bind_ok done
  obtain ⟨_,_,done⟩ := bind_ok done
  obtain ⟨_,_,done⟩ := bind_ok done
  obtain ⟨score,scored,done⟩ := bind_ok done
  cases Except.ok.inj done
  exact ⟨rfl,congrArg _ (quotient_ok passes),congrArg _ (quotient_ok fails),scored⟩

theorem brier_given {score : ℚ} (done : brier arithmetic cases = .ok (some score)) :
    (∀ c ∈ cases, c.passProbability.isSome = true) ∧
      score = arithmetic.round6 (arithmetic.div (arithmetic.sum (cases.map (squared arithmetic))) cases.length) := by
  rw [brier] at done
  by_cases complete : (cases.all fun c => c.passProbability.isSome) = true
  · rw [if_pos complete] at done
    obtain ⟨mean,divided,done⟩ := bind_ok done
    cases Except.ok.inj done
    exact ⟨List.all_eq_true.mp complete,congrArg _ (quotient_ok divided)⟩
  · rw [if_neg complete] at done
    cases done

end Inversion

-- What no rounding changes: zero, one and the quotient of equal counts.
structure Grounded (arithmetic : Arithmetic) : Prop where
  whole : ∀ n : Nat, 0 < n → arithmetic.div n n = 1
  nothing : ∀ n : Nat, 0 < n → arithmetic.div 0 n = 0
  less_zero : arithmetic.sub 1 0 = 1
  less_one : arithmetic.sub 1 1 = 0
  times_zero : arithmetic.mul 0 0 = 0
  times_one : arithmetic.mul 1 1 = 1
  plus_zero : arithmetic.add 1 0 = 1
  zero_plus : arithmetic.add 0 1 = 1
  round_zero : arithmetic.round6 0 = 0
  round_one : arithmetic.round6 1 = 1

theorem Grounded.exact : Grounded .exact where
  whole n positive := div_self (Nat.cast_ne_zero.mpr positive.ne')
  nothing n _ := zero_div _
  less_zero := sub_zero (1 : ℚ)
  less_one := sub_self (1 : ℚ)
  times_zero := mul_zero (0 : ℚ)
  times_one := mul_one (1 : ℚ)
  plus_zero := add_zero (1 : ℚ)
  zero_plus := zero_add (1 : ℚ)
  round_zero := by decide +kernel
  round_one := by decide +kernel

section Constant
variable {arithmetic : Arithmetic} {cases : List CalibrationCase} {verdict : Verdict}

theorem Counts.constant (constant : ∀ c ∈ cases, c.judgeVerdict = verdict) :
    (verdict ≠ .pass → (Counts.of cases).tp = 0 ∧ (Counts.of cases).fp = 0) ∧
      (verdict ≠ .fail → (Counts.of cases).tn = 0 ∧ (Counts.of cases).fn = 0) := by
  simp only [Counts.of,List.countP_eq_zero]
  refine ⟨fun other => ⟨fun c member => ?_,fun c member => ?_⟩,fun other => ⟨fun c member => ?_,fun c member => ?_⟩⟩
  all_goals simp [constant c member,other]

theorem guarded_whole (grounded : Grounded arithmetic) {n : Nat} (positive : 0 < n) :
    arithmetic.round6 (arithmetic.div n (max 1 n : Nat)) = 1 := by
  rw [max_eq_right (show 1 ≤ n from positive),grounded.whole n positive,grounded.round_one]

theorem guarded_nothing (grounded : Grounded arithmetic) (n : Nat) :
    arithmetic.round6 (arithmetic.div (0 : Nat) (max 1 n : Nat)) = 0 := by
  rw [Nat.cast_zero,grounded.nothing _ (lt_of_lt_of_le Nat.one_pos (le_max_left 1 n)),grounded.round_zero]

theorem constant_agrees (grounded : Grounded arithmetic) (constant : ∀ c ∈ cases, c.judgeVerdict = verdict)
    (done : calibrate arithmetic cases = .ok result) (met : Meets .standard result) : ∀ c ∈ cases, Agrees c := by
  obtain ⟨_,passes,fails,_⟩ := calibrate_figures done
  have low := met.guarded
  have high := met.fair
  obtain ⟨failing,passing⟩ := Counts.constant constant
  refine (Counts.apart_iff (calibrate_able done).resolved).mp ⟨?_,?_⟩
  · by_contra errors
    have isPass : verdict = .pass := by
      by_contra other
      exact errors (failing other).2
    have wrong : result.falsePassRate = 1 := by
      rw [passes,(passing (by rw [isPass]; decide)).1,Nat.add_zero]
      exact guarded_whole grounded (Nat.pos_of_ne_zero errors)
    rw [wrong] at low
    exact absurd low (by norm_num [CalibrationPolicy.standard])
  · by_contra errors
    have isFail : verdict = .fail := by
      by_contra other
      exact errors (passing other).2
    have wrong : result.falseFailRate = 1 := by
      rw [fails,(failing (by rw [isFail]; decide)).1,Nat.add_zero]
      exact guarded_whole grounded (Nat.pos_of_ne_zero errors)
    rw [wrong] at high
    exact absurd high (by norm_num [CalibrationPolicy.standard])

theorem constant_figures (grounded : Grounded arithmetic) (constant : ∀ c ∈ cases, c.judgeVerdict = verdict)
    (able : Calibratable cases) (agree : ∀ c ∈ cases, Agrees c) (scored : brier arithmetic cases = .ok (some score)) :
    ∃ result, calibrate arithmetic cases = .ok result ∧ result.cases = cases.length ∧ result.accuracy = 1 ∧
      result.falsePassRate = 0 ∧ result.falseFailRate = 0 ∧ result.cohenKappa = 1 ∧ result.brierScore = some score := by
  have size := Counts.size_of able.resolved
  have inhabited : 0 < cases.length := lt_of_lt_of_le (by decide) able.enough
  have nonzero : (cases.length : ℚ) ≠ 0 := Nat.cast_ne_zero.mpr inhabited.ne'
  obtain ⟨noPass,noFail⟩ := (Counts.apart_iff able.resolved).mpr agree
  obtain ⟨failing,passing⟩ := Counts.constant constant
  have full := grounded.whole cases.length inhabited
  have empty := grounded.nothing cases.length inhabited
  have observed : (Counts.of cases).tp + (Counts.of cases).tn = cases.length := by
    rw [Counts.size,noPass,noFail] at size
    exact size
  have certain : kappa arithmetic (arithmetic.div ((Counts.of cases).tp + (Counts.of cases).tn : Nat) cases.length)
      (arithmetic.add (arithmetic.mul (arithmetic.div ((Counts.of cases).tp + (Counts.of cases).fn : Nat) cases.length)
          (arithmetic.div ((Counts.of cases).tp + (Counts.of cases).fp : Nat) cases.length))
        (arithmetic.mul (arithmetic.sub 1 (arithmetic.div ((Counts.of cases).tp + (Counts.of cases).fn : Nat) cases.length))
          (arithmetic.sub 1 (arithmetic.div ((Counts.of cases).tp + (Counts.of cases).fp : Nat) cases.length)))) = .ok 1 := by
    rw [observed,noPass,noFail,Nat.add_zero,full]
    refine if_pos ⟨?_,rfl⟩
    by_cases isPass : verdict = .pass
    · have all : (Counts.of cases).tp = cases.length := by
        rw [(passing (by rw [isPass]; decide)).1,Nat.add_zero] at observed
        exact observed
      rw [all,full,grounded.times_one,grounded.less_one,grounded.times_zero,grounded.plus_zero]
    · rw [(failing isPass).1,Nat.cast_zero,empty,grounded.times_zero,grounded.less_zero,grounded.times_one,grounded.zero_plus]
  refine ⟨_,(calibrate_report able).trans (report_of nonzero scored certain),rfl,?_,?_,?_,grounded.round_one,rfl⟩
  · rw [observed,full,grounded.round_one]
  · rw [noPass]
    exact guarded_nothing grounded _
  · rw [noFail]
    exact guarded_nothing grounded _

-- A judge with one verdict for all cases qualifies exactly when the sample gave
-- it nothing to tell apart.
theorem constant_exact (grounded : Grounded arithmetic) (constant : ∀ c ∈ cases, c.judgeVerdict = verdict) :
    qualifyCalibration arithmetic cases = .ok () ↔
      50 ≤ cases.length ∧ verdict ≠ .review ∧ (∀ c ∈ cases, c.humanPass = decide (verdict = .pass)) ∧
      (∀ c ∈ cases, ∃ p, c.passProbability = some p ∧ 0 ≤ p ∧ p ≤ 1) ∧
      arithmetic.round6 (arithmetic.div (arithmetic.sum (cases.map (squared arithmetic))) cases.length) ≤ 3/25 := by
  constructor
  · intro qualified
    obtain ⟨result,done,passed⟩ := bind_ok qualified
    have met := qualify_iff.mp passed
    obtain ⟨counted,_,_,scored⟩ := calibrate_figures done
    have able := calibrate_able done
    obtain ⟨score,given,small⟩ := met.calibrated
    rw [given] at scored
    obtain ⟨present,mean⟩ := brier_given scored
    have many : 50 ≤ cases.length := by
      have enough := met.enough
      rw [counted] at enough
      exact Int.ofNat_le.mp enough
    obtain ⟨first,inside⟩ := List.exists_mem_of_length_pos (lt_of_lt_of_le (by decide) many)
    refine ⟨many,constant first inside ▸ able.resolved first inside,fun c member => ?_,?_,mean ▸ small⟩
    · rw [← constant c member]
      exact constant_agrees grounded constant done met c member
    · rcases able.probable with all | none
      · exact all
      · have absent := present first inside
        rw [none first inside] at absent
        cases absent
  · rintro ⟨many,resolved,agree,probable,small⟩
    have able : Calibratable cases :=
      ⟨le_trans (by decide) many,fun c member => constant c member ▸ resolved,.inl probable⟩
    have scored : brier arithmetic cases = .ok (some (arithmetic.round6
        (arithmetic.div (arithmetic.sum (cases.map (squared arithmetic))) cases.length))) := by
      have complete : (cases.all fun c => c.passProbability.isSome) = true := by
        refine List.all_eq_true.mpr fun c member => ?_
        obtain ⟨p,given,_⟩ := probable c member
        rw [given]
        rfl
      rw [brier,if_pos complete,quotient_of (Nat.cast_ne_zero.mpr (by omega))]
      rfl
    have agrees : ∀ c ∈ cases, Agrees c := fun c member => (agree c member).trans (by rw [constant c member])
    obtain ⟨result,done,counted,accuracy,passes,fails,agreement,given⟩ := constant_figures grounded constant able agrees scored
    rw [qualifyCalibration,done]
    refine qualify_iff.mpr ⟨?_,?_,?_,?_,?_,_,given,small⟩
    · rw [counted]
      exact Int.ofNat_le.mpr many
    · rw [accuracy]; norm_num [CalibrationPolicy.standard]
    · rw [passes]; norm_num [CalibrationPolicy.standard]
    · rw [fails]; norm_num [CalibrationPolicy.standard]
    · rw [agreement]; norm_num [CalibrationPolicy.standard]

-- One verdict for one kind of label, and certain of it.
def oneSided : List CalibrationCase := (List.range 50).map fun i => ⟨toString i,true,.pass,some 1⟩

def twoSided : List CalibrationCase := ⟨"50",false,.pass,some 0⟩ :: oneSided

theorem constant_exact_twoSided : qualifyCalibration .exact twoSided ≠ .ok () := by
  have constant : ∀ c ∈ twoSided, c.judgeVerdict = .pass := by simp [twoSided,oneSided]
  intro qualified
  obtain ⟨_,_,agree,_⟩ := (constant_exact Grounded.exact constant).mp qualified
  exact absurd (agree _ List.mem_cons_self) (by decide)

theorem oneSided_qualifies : (∀ c ∈ oneSided, c.judgeVerdict = .pass) ∧ qualifyCalibration .exact oneSided = .ok () := by
  constructor
  · simp [oneSided]
  · decide +kernel

end Constant

end OpenModelOps.JudgeCalibration
