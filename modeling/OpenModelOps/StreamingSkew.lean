import Mathlib.Algebra.Order.BigOperators.Group.List
import Mathlib.Algebra.Order.Field.Basic
import Mathlib.Tactic.Linarith
import OpenModelOps.OrderedDict
import OpenModelOps.StreamingReliability

namespace OpenModelOps.StreamingSkew
open JsonText KeyedTable PythonFloat PythonNumber PythonChoice StreamingReliability
variable {δ : Type} {runtime : Runtime δ} {snapshot : StreamingSnapshot δ} {target : PyFloat}

def Coded (code : String) (findings : List Finding) : Prop := ∀ finding ∈ findings, finding.code = code

def coded (code : String) (findings : List Finding) : List Finding :=
  findings.filter fun finding => decide (finding.code = code)

theorem when_coded (condition : Bool) (finding : Finding) : Coded finding.code (when condition finding) := by
  intro other member
  cases condition with
  | false => cases member
  | true => rw [List.mem_singleton.mp member]

theorem coded_own {findings : List Finding} (own : Coded code findings) : coded code findings = findings := by
  apply List.filter_eq_self.mpr
  intro finding member
  rw [own finding member,decide_eq_true rfl]

theorem coded_foreign {findings : List Finding} (own : Coded other findings) (differ : other ≠ code) :
    coded code findings = [] := by
  apply List.filter_eq_nil_iff.mpr
  intro finding member
  rw [own finding member,decide_eq_true_eq]
  exact differ

theorem coded_append (code : String) (first second : List Finding) :
    coded code (first ++ second) = coded code first ++ coded code second := List.filter_append ..

theorem hotPartition_coded (found : hotPartition runtime snapshot = .ok hot) :
    Coded "HOT_PARTITION" hot ∧ hot.length ≤ 1 := by
  unfold hotPartition at found
  split at found
  · cases found
    exact ⟨nofun,Nat.zero_le 1⟩
  split at found
  · cases found
    exact ⟨nofun,Nat.zero_le 1⟩
  split at found
  · cases found
  · cases found
    refine ⟨when_coded _ _,?_⟩
    unfold when
    split
    · exact le_refl 1
    · exact Nat.zero_le 1

structure Diagnosed (runtime : Runtime δ) (snapshot : StreamingSnapshot δ) (target : PyFloat)
    (produced : StreamingAssessment δ) (hot : List Finding) : Prop where
  found : hotPartition runtime snapshot = .ok hot
  slo : assessSlo runtime snapshot target = .ok produced.slo
  skewed : coded "HOT_PARTITION" produced.findings = hot
  exhausted : coded "ERROR_BUDGET_EXHAUSTED" produced.findings = exhaustedBudget produced.slo
  offline : ∀ finding ∈ offline snapshot, finding ∈ produced.findings
  severity : produced.severity = (maxBy Severity.rank (produced.findings.map Finding.severity)).getD .info

theorem diagnose_diagnosed {produced : StreamingAssessment δ} (diagnosed : diagnose runtime snapshot target = .ok produced) :
    ∃ hot, Diagnosed runtime snapshot target produced hot := by
  unfold diagnose at diagnosed
  split at diagnosed
  · cases diagnosed
  rename_i hot found
  split at diagnosed
  · cases diagnosed
  rename_i slo assessed
  cases Except.ok.inj diagnosed
  have own := (hotPartition_coded found).1
  refine ⟨hot,found,assessed,?_,?_,?_,rfl⟩
  · simp only [assessment,coded_append,coded_own own]
    simp [offline,underReplicated,laggingConsumer,rebalanceStorm,schemaIncompatibility,duplicateProcessing,poisonMessages,
      diskPressure,latencySlo,exhaustedBudget,coded_foreign (when_coded _ _)]
  · have ours : Coded "ERROR_BUDGET_EXHAUSTED" (exhaustedBudget slo) := when_coded _ _
    simp only [assessment,coded_append,coded_own ours,coded_foreign own (by decide : _ ≠ "ERROR_BUDGET_EXHAUSTED")]
    simp [offline,underReplicated,laggingConsumer,rebalanceStorm,schemaIncompatibility,duplicateProcessing,poisonMessages,
      diskPressure,latencySlo,coded_foreign (when_coded _ _)]
  · intro finding member
    simp only [assessment,List.mem_append]
    simp [member]

def exact (runtime : Runtime δ) : Runtime δ := { runtime with
  sub := fun x y => match x,y with
    | .finite a,.finite b => .finite (a - b)
    | _,_ => runtime.sub x y
  mul := fun x y => match x,y with
    | .finite a,.finite b => .finite (a * b)
    | _,_ => runtime.mul x y
  div := fun x y => match x,y with
    | .finite a,.finite b => .finite (a / b)
    | _,_ => runtime.div x y
  ratio := fun a b => some (.finite (a / b)) }

abbrev Target := {target : PyFloat // (PyFloat.lt (.finite 0) target && PyFloat.lt target (.finite 1)) = true}

def Skewed (snapshot : StreamingSnapshot δ) (partition : Str) : Prop :=
  2 ≤ snapshot.partitionLag.rows.length ∧ ∃ lag, Dict.get snapshot.partitionLag partition = some lag ∧ 1000 ≤ lag ∧
    ∀ other, other ≠ partition → ∀ idle, Dict.get snapshot.partitionLag other = some idle → idle = 0

def Names (finding : Finding) (partition : Str) : Prop :=
  finding.code = "HOT_PARTITION" ∧ field finding.evidence (text "partition") = some (.str partition.val)

structure Reported (snapshot : StreamingSnapshot δ) (produced : StreamingAssessment δ) : Prop where
  skewed : ∀ partition, Skewed snapshot partition → ∃ finding ∈ produced.findings, Names finding partition
  single : (coded "HOT_PARTITION" produced.findings).length ≤ 1
  maximal : ∀ finding ∈ produced.findings, finding.code = "HOT_PARTITION" → ∃ partition lag, Names finding partition ∧
    Dict.get snapshot.partitionLag partition = some lag ∧
      ∀ other less, Dict.get snapshot.partitionLag other = some less → less ≤ lag

def Reports (runtime : Runtime δ) (snapshot : StreamingSnapshot δ) (target : PyFloat) : Prop :=
  ∃ produced, diagnose (exact runtime) snapshot target = .ok produced ∧ Reported snapshot produced

theorem hotPartition_exact (runtime : Runtime δ) (snapshot : StreamingSnapshot δ) :
    ∃ hot, hotPartition (exact runtime) snapshot = .ok hot := by
  unfold hotPartition
  split
  · exact ⟨_,rfl⟩
  split
  · exact ⟨_,rfl⟩
  · exact ⟨_,rfl⟩

theorem diagnose_exact (runtime : Runtime δ) (snapshot : StreamingSnapshot δ) (target : Target) :
    ∃ produced, diagnose (exact runtime) snapshot target = .ok produced := by
  obtain ⟨hot,found⟩ := hotPartition_exact runtime snapshot
  have assessed : ∃ slo, assessSlo (exact runtime) snapshot target = .ok slo := by
    unfold assessSlo
    rw [target.property,if_neg (by decide)]
    dsimp only
    split
    · split
      · exact ⟨_,rfl⟩
      · exact ⟨_,rfl⟩
    · exact ⟨_,rfl⟩
  obtain ⟨slo,assessed⟩ := assessed
  exact ⟨_,by rw [diagnose,found,assessed]⟩

theorem sum_single {κ : Type} {rows : List (κ × Nat)} {k : κ} {value : Nat} (unique : (rows.map Prod.fst).Nodup)
    (member : (k,value) ∈ rows) (others : ∀ row ∈ rows, row.1 ≠ k → row.2 = 0) : (rows.map Prod.snd).sum = value := by
  induction rows with
  | nil => cases member
  | cons row rest ih =>
    obtain ⟨fresh,unique⟩ := List.nodup_cons.mp unique
    have later := fun other inside => others other (List.mem_cons_of_mem _ inside)
    rw [List.map_cons,List.sum_cons]
    rcases List.mem_cons.mp member with rfl | inside
    · have idle : ∀ lag ∈ rest.map Prod.snd, lag = 0 := by
        intro lag listed
        obtain ⟨other,inside,rfl⟩ := List.mem_map.mp listed
        apply later other inside
        intro same
        exact fresh (List.mem_map.mpr ⟨other,inside,same⟩)
      rw [List.sum_eq_zero idle,Nat.add_zero]
    · have differ : row.1 ≠ k := by
        intro same
        exact fresh (List.mem_map.mpr ⟨_,inside,same.symm⟩)
      rw [others row List.mem_cons_self differ,ih unique inside later,Nat.zero_add]

theorem skewed_total {partition : Str} (skewed : Skewed snapshot partition) :
    ∃ lag, 1000 ≤ lag ∧ maxBy Prod.snd snapshot.partitionLag.rows = some (partition,lag) ∧
      (Dict.values snapshot.partitionLag).foldl (· + ·) 0 = lag := by
  obtain ⟨several,lag,own,large,others⟩ := skewed
  have member := Dict.get_row.mp own
  refine ⟨lag,large,?_,?_⟩
  · cases best : maxBy Prod.snd snapshot.partitionLag.rows with
    | none =>
      rw [maxBy_none.mp best] at member
      cases member
    | some top =>
      obtain ⟨inside,above⟩ := maxBy_greatest best
      have most := above _ member
      have found := Dict.get_row.mpr inside
      by_cases same : top.1 = partition
      · rw [same,own] at found
        rw [← same,Option.some.inj found]
      · have idle := others _ same _ found
        omega
  · rw [← List.sum_eq_foldl]
    apply sum_single snapshot.partitionLag.unique member
    intro row inside differ
    exact others row.1 differ row.2 (Dict.get_row.mpr inside)

theorem doubled_below (runtime : Runtime δ) {lag count : Nat} (large : 1000 ≤ lag) (several : 2 ≤ count) :
    PyFloat.lt (doubled (exact runtime) (.finite (lag / count))) (.finite lag) = true ↔ count ≠ 2 := by
  have positive : (0 : ℚ) < count := by exact_mod_cast (by omega : 0 < count)
  have thousand : (1000 : ℚ) ≤ lag := by exact_mod_cast large
  unfold doubled
  split
  · rename_i small
    have less : (lag : ℚ) / count < 1 := by simpa [PyFloat.lt,PyFloat.rank] using small
    rw [div_lt_one positive] at less
    have more : lag < count := by exact_mod_cast less
    refine iff_of_true ?_ (by omega)
    simp only [PyFloat.lt,PyFloat.rank,lt_irrefl,true_and,false_or,decide_eq_true_eq]
    linarith
  · have twice : (exact runtime).mul (.finite 2) (.finite (lag / count)) = .finite (2 * (lag / count)) := rfl
    rw [twice]
    simp only [PyFloat.lt,PyFloat.rank,lt_irrefl,true_and,false_or,decide_eq_true_eq]
    rw [← mul_div_assoc,div_lt_iff₀ positive,mul_comm,mul_lt_mul_iff_right₀ (by linarith)]
    have cast : (2 : ℚ) < count ↔ 2 < count := by exact_mod_cast Iff.rfl
    rw [cast]
    omega

theorem hotPartition_skewed {partition : Str} {hot : List Finding} (skewed : Skewed snapshot partition)
    (found : hotPartition (exact runtime) snapshot = .ok hot) :
    (∃ finding ∈ hot, Names finding partition) ↔ snapshot.partitionLag.rows.length ≠ 2 := by
  obtain ⟨lag,large,greatest,total⟩ := skewed_total skewed
  have length : (Dict.values snapshot.partitionLag).length = snapshot.partitionLag.rows.length := List.length_map _
  have ratio : (exact runtime).ratio lag snapshot.partitionLag.rows.length =
      some (.finite (lag / snapshot.partitionLag.rows.length)) := rfl
  unfold hotPartition at found
  rw [greatest] at found
  dsimp only at found
  rw [if_neg (by omega),total,length,ratio] at found
  cases Except.ok.inj found
  rw [← doubled_below runtime large skewed.1]
  unfold when
  split
  · rename_i above
    refine iff_of_true ⟨_,List.mem_singleton_self _,rfl,rfl⟩ above
  · rename_i below
    refine iff_of_false ?_ below
    intro named
    obtain ⟨finding,member,_⟩ := named
    cases member

theorem hotPartition_maximal {hot : List Finding} (found : hotPartition runtime snapshot = .ok hot) :
    ∀ finding ∈ hot, ∃ partition lag, Names finding partition ∧ Dict.get snapshot.partitionLag partition = some lag ∧
      ∀ other less, Dict.get snapshot.partitionLag other = some less → less ≤ lag := by
  intro finding member
  unfold hotPartition at found
  split at found
  · cases found
    cases member
  rename_i partition lag greatest
  split at found
  · cases found
    cases member
  split at found
  · cases found
  cases found
  unfold when at member
  split at member
  · obtain ⟨inside,above⟩ := maxBy_greatest greatest
    rw [List.mem_singleton.mp member]
    refine ⟨partition,lag,⟨rfl,rfl⟩,Dict.get_row.mpr inside,?_⟩
    exact fun other less own => above (other,less) (Dict.get_row.mp own)
  · cases member

-- Skew is found, and at most one partition with the greatest lag, exactly when
-- the skew is not between two partitions.
theorem diagnose_reports_iff (runtime : Runtime δ) (snapshot : StreamingSnapshot δ) (target : Target) :
    Reports runtime snapshot target ↔
      ∀ partition, Skewed snapshot partition → snapshot.partitionLag.rows.length ≠ 2 := by
  have listed : ∀ {produced : StreamingAssessment δ} {hot : List Finding},
      Diagnosed (exact runtime) snapshot target produced hot → ∀ finding,
        finding ∈ produced.findings ∧ finding.code = "HOT_PARTITION" ↔ finding ∈ hot := by
    intro produced hot diagnosed finding
    rw [← diagnosed.skewed,coded,List.mem_filter,decide_eq_true_eq]
  constructor
  · intro reports partition skewed
    obtain ⟨produced,diagnosed,reported⟩ := reports
    obtain ⟨hot,parts⟩ := diagnose_diagnosed diagnosed
    obtain ⟨finding,member,named⟩ := reported.skewed partition skewed
    apply (hotPartition_skewed skewed parts.found).mp
    exact ⟨finding,(listed parts finding).mp ⟨member,named.1⟩,named⟩
  · intro several
    obtain ⟨produced,diagnosed⟩ := diagnose_exact runtime snapshot target
    obtain ⟨hot,parts⟩ := diagnose_diagnosed diagnosed
    refine ⟨produced,diagnosed,?_,?_,?_⟩
    · intro partition skewed
      obtain ⟨finding,member,named⟩ := (hotPartition_skewed skewed parts.found).mpr (several partition skewed)
      exact ⟨finding,((listed parts finding).mpr member).1,named⟩
    · rw [parts.skewed]
      exact (hotPartition_coded parts.found).2
    · intro finding member code
      exact hotPartition_maximal parts.found finding ((listed parts finding).mp ⟨member,code⟩)

section TwoPartitions

def laboratory : Runtime String where
  sha256 _ := "bf526a326fae5a36c3c628a19e6d97197d93a59a25d2d82ed081defc0eec7064"
  number := numberText
  isoformat := id
  dumpTime := id
  dumpFloat := .num
  sub _ _ := .nan
  mul _ _ := .nan
  div _ _ := .nan
  ratio _ _ := none
  round x _ := x

def halfIdle : StreamingSnapshot String :=
  { observedAt := "2026-09-21T00:00:00Z",producedTotal := 10000,consumedTotal := 5000,consumerLag := 5000
    partitionLag := ⟨[(str "0",5000),(str "1",0)],by decide⟩,nonnegative := default_nonnegative
    rates := default_rates,percent := default_percent,together := default_together,onTime := default_onTime }

theorem halfIdle_skewed : Skewed halfIdle (str "0") := by
  refine ⟨le_refl 2,5000,by decide,by decide,?_⟩
  intro other differ idle own
  have member := Dict.get_row.mp own
  simp only [halfIdle,List.mem_cons,List.not_mem_nil,or_false,Prod.mk.injEq] at member
  rcases member with ⟨same,_⟩ | ⟨_,zero⟩
  · exact absurd same differ
  · exact zero

-- Of two partitions the greater lag is never above twice the mean.
theorem two_partitions_missed : ¬ ∀ (runtime : Runtime String) (snapshot : StreamingSnapshot String) (target : Target),
    Reports runtime snapshot target := by
  intro all
  obtain ⟨produced,diagnosed,reported⟩ := all laboratory halfIdle ⟨defaultTarget,by decide +kernel⟩
  obtain ⟨hot,parts⟩ := diagnose_diagnosed diagnosed
  obtain ⟨finding,member,named⟩ := reported.skewed _ halfIdle_skewed
  have inside : finding ∈ coded "HOT_PARTITION" produced.findings :=
    List.mem_filter.mpr ⟨member,decide_eq_true named.1⟩
  rw [parts.skewed] at inside
  exact (hotPartition_skewed halfIdle_skewed parts.found).mp ⟨finding,inside,named⟩ rfl

end TwoPartitions

end OpenModelOps.StreamingSkew
