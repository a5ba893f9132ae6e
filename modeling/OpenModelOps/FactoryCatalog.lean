import OpenModelOps.DepthFirst
import OpenModelOps.FactoryDomain
import OpenModelOps.Raising
import Mathlib.Data.List.Dedup
import Mathlib.Data.List.Sort

namespace OpenModelOps.FactoryCatalog
open KeyedTable KeyedTable.Dict PythonText DepthFirst
open FactoryDomain (nameMatches)

def maturityLevels : List String := ["reference","integration-ready","implemented","verified"]
def domains : List String := ["mlops","llmops","agentops","ai-sre","shared"]

-- v\d+
def versionMatches (version : String) : Bool :=
  match version.toList with
  | 'v' :: d :: rest => (d :: rest).all fun c => (digitValue c).isSome
  | _ => false

structure Component where
  componentId : String
  name : String
  domain : String
  owner : String
  source : String
  maturity : String
  interfaceVersion : String
  healthEndpoint : String
  capabilities : List String
  evidence : List String
  dependencies : List String
  identified : nameMatches componentId = true
  placed : domain ∈ domains
  graded : maturity ∈ maturityLevels
  hosted : startsWith source "https://github.com/" = true
  versioned : versionMatches interfaceVersion = true
  capable : capabilities ≠ []
  evidenced : evidence ≠ []

def Component.make (componentId name domain owner source maturity interfaceVersion healthEndpoint : String)
    (capabilities evidence dependencies : List String) : Except String Component :=
  if identified : nameMatches componentId = true then
    if placed : domain ∈ domains then
      if graded : maturity ∈ maturityLevels then
        if hosted : startsWith source "https://github.com/" = true then
          if versioned : versionMatches interfaceVersion = true then
            if required : capabilities ≠ [] ∧ evidence ≠ [] then
              .ok ⟨componentId,name,domain,owner,source,maturity,interfaceVersion,healthEndpoint,capabilities,
                evidence,dependencies,identified,placed,graded,hosted,versioned,required.1,required.2⟩
            else .error ("capabilities and evidence are required for " ++ componentId)
          else .error ("invalid interface version for " ++ componentId)
        else .error ("source must be a GitHub URL for " ++ componentId)
      else .error ("invalid maturity for " ++ componentId)
    else .error ("invalid domain for " ++ componentId)
  else .error ("invalid component id: " ++ componentId)

structure Catalog where
  components : Dict String Component

-- The ValueErrors of the constructor; the last one holds what ended the visits.
inductive Refusal where
  | duplicate
  | unknownDependencies (componentId : String) (missing : List String)
  | visits (failure : Failure String)
  deriving DecidableEq

namespace Catalog

-- {component.component_id: component for component in components}
def collect (components : List Component) : Dict String Component :=
  components.foldl (fun dict component => set dict component.componentId component) Table.empty

def keys (catalog : Catalog) : List String := catalog.components.rows.map Prod.fst

-- self.components[component_id].dependencies; none is its KeyError.
def dependenciesOf (catalog : Catalog) (componentId : String) : Option (List String) :=
  (get catalog.components componentId).map Component.dependencies

-- sorted(set(component.dependencies) - self.components.keys())
def missing (catalog : Catalog) (component : Component) : List String :=
  (component.dependencies.dedup.filter fun dependency => (get catalog.components dependency).isNone).insertionSort
    fun a b => a ≤ b

def checkDependencies (catalog : Catalog) : List Component → Except Refusal Unit
  | [] => .ok ()
  | component :: rest =>
    if missing catalog component = [] then checkDependencies catalog rest
    else .error (.unknownDependencies component.componentId (missing catalog component))

-- _validate_acyclic, with calls of visit nested at most so deep.
def validateAcyclic (catalog : Catalog) (depth : Nat) : Option (Failure String) × Colours String :=
  search catalog.dependenciesOf catalog.keys depth

def make (components : List Component) : Except Refusal Catalog := do
  let catalog : Catalog := ⟨collect components⟩
  if catalog.components.rows.length ≠ components.length then .error .duplicate
  checkDependencies catalog components
  match (catalog.validateAcyclic (components.length + 1)).1 with
  | some failure => .error (.visits failure)
  | none => .ok catalog

section Collected
variable {components : List Component} {component : Component} {componentId : String}

theorem get_collected (dict : Dict String Component)
    (found : get (components.foldl (fun d c => set d c.componentId c) dict) componentId = some component) :
    (component ∈ components ∧ component.componentId = componentId) ∨ get dict componentId = some component := by
  induction components generalizing dict with
  | nil => exact .inr found
  | cons head rest ih =>
    rcases ih _ found with ⟨member,named⟩ | before
    · exact .inl ⟨List.mem_cons_of_mem _ member,named⟩
    rw [get_set] at before
    split at before
    · rename_i here
      cases Option.some.inj before
      exact .inl ⟨List.mem_cons_self,here.symm⟩
    · exact .inr before

theorem collected_isSome (dict : Dict String Component) :
    (get (components.foldl (fun d c => set d c.componentId c) dict) componentId).isSome = true ↔
      componentId ∈ components.map Component.componentId ∨ (get dict componentId).isSome = true := by
  induction components generalizing dict with
  | nil => simp
  | cons head rest ih =>
    rw [List.foldl_cons,ih,get_set,List.map_cons,List.mem_cons]
    by_cases here : componentId = head.componentId
    · simp [here]
    · simp [here]

theorem collect_get (found : get (collect components) componentId = some component) :
    component ∈ components ∧ component.componentId = componentId := by
  rcases get_collected _ found with collected | before
  · exact collected
  · cases before

theorem collect_isSome : (get (collect components) componentId).isSome = true ↔
    componentId ∈ components.map Component.componentId := by
  rw [collect,collected_isSome]
  exact or_iff_left nofun

theorem keys_iff {catalog : Catalog} : componentId ∈ catalog.keys ↔ (get catalog.components componentId).isSome = true := by
  rw [Catalog.keys,Dict.get,Option.isSome_map,← not_iff_not,Bool.not_eq_true,Option.isSome_eq_false_iff,Option.isNone_iff_eq_none]
  exact Table.find_none_iff.symm

theorem collect_keys : componentId ∈ Catalog.keys ⟨collect components⟩ ↔ componentId ∈ components.map Component.componentId :=
  keys_iff.trans collect_isSome

theorem collect_length : (collect components).rows.length = components.length ↔
    (components.map Component.componentId).Nodup := by
  have distinct : (Catalog.keys ⟨collect components⟩).Nodup := (collect components).unique
  have included := List.subperm_of_subset distinct fun _ => collect_keys.mp
  have lengths : (Catalog.keys ⟨collect components⟩).length = (collect components).rows.length := List.length_map _
  constructor
  · intro same
    have enough : (components.map Component.componentId).length ≤ (Catalog.keys ⟨collect components⟩).length := by
      rw [lengths,same,List.length_map]
    exact (included.perm_of_length_le enough).nodup_iff.mp distinct
  · intro nodup
    have back := List.subperm_of_subset nodup fun _ => collect_keys.mpr
    have below := included.length_le
    have above := back.length_le
    rw [lengths,List.length_map] at below above
    omega

theorem collect_member (nodup : (components.map Component.componentId).Nodup) (member : component ∈ components) :
    get (collect components) component.componentId = some component := by
  have present := collect_isSome.mpr (List.mem_map_of_mem (f := Component.componentId) member)
  obtain ⟨other,found⟩ := Option.isSome_iff_exists.mp present
  obtain ⟨inside,named⟩ := collect_get found
  rw [found,List.inj_on_of_nodup_map nodup inside member named]

theorem missing_nil {catalog : Catalog} : missing catalog component = [] ↔
    ∀ dependency ∈ component.dependencies, dependency ∈ catalog.keys := by
  rw [missing,← List.length_eq_zero_iff,(List.perm_insertionSort _ _).length_eq,List.length_eq_zero_iff,
    List.filter_eq_nil_iff]
  simp only [List.mem_dedup,keys_iff,Bool.not_eq_true,Option.isNone_eq_false_iff]

theorem checkDependencies_ok (catalog : Catalog) (components : List Component) : checkDependencies catalog components = .ok () ↔
    ∀ c ∈ components, ∀ dependency ∈ c.dependencies, dependency ∈ catalog.keys := by
  induction components with
  | nil => simp [checkDependencies]
  | cons head rest ih =>
    rw [checkDependencies,List.forall_mem_cons,← missing_nil]
    by_cases all : missing catalog head = []
    · rw [if_pos all,ih]
      exact (and_iff_right all).symm
    · rw [if_neg all]
      exact iff_of_false nofun fun both => all both.1

end Collected

end Catalog

def DependsOn (components : List Component) (a b : String) : Prop :=
  ∃ component ∈ components, component.componentId = a ∧ b ∈ component.dependencies

structure Consistent (components : List Component) : Prop where
  distinct : (components.map Component.componentId).Nodup
  listed : ∀ component ∈ components, ∀ dependency ∈ component.dependencies,
    dependency ∈ components.map Component.componentId
  acyclic : ∀ componentId, ¬ Relation.TransGen (DependsOn components) componentId componentId

theorem Consistent.perm {components others : List Component} (reordered : components.Perm others)
    (consistent : Consistent components) : Consistent others := by
  have ids := reordered.map Component.componentId
  have edges : DependsOn others = DependsOn components := by
    funext a b
    simp only [DependsOn,reordered.mem_iff]
  refine ⟨ids.nodup_iff.mp consistent.distinct,fun component member dependency needed => ?_,?_⟩
  · exact ids.mem_iff.mp (consistent.listed component (reordered.mem_iff.mpr member) dependency needed)
  · rw [edges]
    exact consistent.acyclic

namespace Catalog
variable {components : List Component}

theorem edge_iff (nodup : (components.map Component.componentId).Nodup) (a b : String) :
    Edge (dependenciesOf ⟨collect components⟩) a b ↔ DependsOn components a b := by
  constructor
  · rintro ⟨successors,found,member⟩
    obtain ⟨component,here,rfl⟩ := Option.map_eq_some_iff.mp found
    obtain ⟨inside,named⟩ := collect_get here
    exact ⟨component,inside,named,member⟩
  · rintro ⟨component,inside,rfl,member⟩
    exact ⟨component.dependencies,congrArg (Option.map Component.dependencies) (collect_member nodup inside),member⟩

theorem known_iff (catalog : Catalog) (componentId : String) :
    (catalog.dependenciesOf componentId).isSome = true ↔ componentId ∈ catalog.keys := by
  rw [dependenciesOf,Option.isSome_map,keys_iff]

theorem collect_depth (nodup : (components.map Component.componentId).Nodup) :
    (keys ⟨collect components⟩).length = components.length :=
  (List.length_map _).trans (collect_length.mpr nodup)

theorem make_ok : (∃ catalog, make components = .ok catalog) ↔
    (components.map Component.componentId).Nodup ∧
      (∀ c ∈ components, ∀ dependency ∈ c.dependencies, dependency ∈ components.map Component.componentId) ∧
      (validateAcyclic ⟨collect components⟩ (components.length + 1)).1 = none := by
  by_cases distinct : (components.map Component.componentId).Nodup
  swap
  · refine iff_of_false ?_ fun both => distinct both.1
    rintro ⟨catalog,made⟩
    rw [make,if_pos (fun same => distinct (collect_length.mp same))] at made
    cases made
  rw [and_iff_right distinct]
  have listed := checkDependencies_ok ⟨collect components⟩ components
  simp only [collect_keys] at listed
  rw [← listed]
  have sized : ¬ (collect components).rows.length ≠ components.length := fun other => other (collect_length.mpr distinct)
  simp only [make,if_neg sized]
  cases checked : checkDependencies ⟨collect components⟩ components with
  | error refusal => exact iff_of_false (fun ⟨_,made⟩ => nomatch made) fun both => nomatch both.1
  | ok _ =>
    cases visits : (validateAcyclic ⟨collect components⟩ (components.length + 1)).1 with
    | some failure =>
      refine iff_of_false (fun ⟨_,made⟩ => ?_) fun both => nomatch both.2
      cases made
    | none =>
      exact iff_of_true ⟨⟨collect components⟩,rfl⟩ ⟨rfl,rfl⟩

theorem visits_exact (nodup : (components.map Component.componentId).Nodup)
    (listed : ∀ c ∈ components, ∀ dependency ∈ c.dependencies, dependency ∈ components.map Component.componentId) :
    (validateAcyclic ⟨collect components⟩ (components.length + 1)).1 = none ↔
      ∀ componentId, ¬ Relation.TransGen (DependsOn components) componentId componentId := by
  have edges : Edge (dependenciesOf ⟨collect components⟩) = DependsOn components :=
    funext fun a => funext fun b => propext (edge_iff nodup a b)
  have deep : (keys ⟨collect components⟩).length < components.length + 1 := by
    rw [collect_depth nodup]
    exact Nat.lt_succ_self _
  have known := known_iff ⟨collect components⟩
  refine (search_exact known (fun a b edge => ?_) deep).1.trans ?_
  · obtain ⟨component,inside,_,needed⟩ := (edge_iff nodup a b).mp edge
    exact collect_keys.mpr (listed component inside b needed)
  · simp only [OnCycle,edges]

theorem make_exact : (∃ catalog, make components = .ok catalog) ↔ Consistent components := by
  rw [make_ok]
  constructor
  · rintro ⟨distinct,listed,visits⟩
    exact ⟨distinct,listed,(visits_exact distinct listed).mp visits⟩
  · rintro ⟨distinct,listed,acyclic⟩
    exact ⟨distinct,listed,(visits_exact distinct listed).mpr acyclic⟩

theorem visits_end {catalog : Catalog} {depth : Nat} (deep : catalog.keys.length < depth) :
    (catalog.validateAcyclic depth).1 ≠ some .exhausted :=
  search_ends (fun componentId => (known_iff catalog componentId).mp) deep

theorem catalog_checked (components : List Component) :
    ((∃ catalog, make components = .ok catalog) ↔
      (components.map Component.componentId).Nodup ∧
      (∀ component ∈ components, ∀ dependency ∈ component.dependencies,
        dependency ∈ components.map Component.componentId) ∧
      ∀ componentId, ¬ Relation.TransGen (DependsOn components) componentId componentId) ∧
    (∀ catalog : Catalog, ∀ depth, catalog.keys.length < depth →
      (catalog.validateAcyclic depth).1 ≠ some .exhausted ∧
        catalog.validateAcyclic depth = catalog.validateAcyclic (catalog.keys.length + 1)) ∧
    (∀ catalog : Catalog, ∀ depth, (catalog.validateAcyclic depth).2.expanded.Nodup) ∧
    ∀ others, components.Perm others →
      ((∃ catalog, make components = .ok catalog) ↔ ∃ catalog, make others = .ok catalog) := by
  refine ⟨make_exact.trans ⟨fun both => ?_,fun both => ?_⟩,fun catalog depth deep => ?_,fun catalog depth => ?_,
    fun others reordered => ?_⟩
  · exact ⟨both.distinct,both.listed,both.acyclic⟩
  · exact ⟨both.1,both.2.1,both.2.2⟩
  · exact ⟨visits_end deep,search_more (visits_end (Nat.lt_succ_self _)) deep⟩
  · exact search_once catalog.dependenciesOf catalog.keys depth
  · rw [make_exact,make_exact]
    exact ⟨Consistent.perm reordered,Consistent.perm reordered.symm⟩

end Catalog

end OpenModelOps.FactoryCatalog
