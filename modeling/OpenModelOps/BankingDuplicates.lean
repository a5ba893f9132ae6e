import OpenModelOps.BankingScoring
import OpenModelOps.RecentUse

namespace OpenModelOps.BankingDuplicates
open KeyedTable RecentUse RunHistory BankingScoring
variable {settings : Settings} {s : State} {t : Transaction} {response previous : ScoreResponse}

def answered (log : List Entry) : List String :=
  (log.filter fun entry => entry.response.isSome).map fun entry => entry.transaction.eventId

-- The id was sent before, and since then fewer others than the service keeps.
def Recent (settings : Settings) (log : List Entry) (eventId : String) : Prop :=
  ∃ before after, answered log = before ++ eventId :: after ∧ eventId ∉ after ∧
    (after.dedup.length : Int) < settings.maxIdempotencyKeys

-- A request is a duplicate exactly of a recent one, whose score it is given; any
-- other one is scored.
structure Exactly (settings : Settings) (earlier : List Entry) (entry : Entry) : Prop where
  repeated : Recent settings earlier entry.transaction.eventId → ∃ first response,
    lastFresh earlier entry.transaction.eventId = some first ∧ first.response = some response ∧
      response.duplicate = false ∧ entry.response = some {response with duplicate := true}
  scored : ¬ Recent settings earlier entry.transaction.eventId → entry.response = responseFor settings entry.transaction

def Windowed (settings : Settings) (s : State) : Prop :=
  s.seen.rows.map Prod.fst = held settings.maxIdempotencyKeys.toNat (answered s.log)

theorem answered_snoc (log : List Entry) (entry : Entry) : answered (log ++ [entry]) =
    answered log ++ if entry.response.isSome then [entry.transaction.eventId] else [] := by
  unfold answered
  rw [List.filter_append,List.map_append]
  cases given : entry.response with
  | none => simp [given]
  | some response => simp [given]

theorem recent_iff (log : List Entry) (eventId : String) :
    Recent settings log eventId ↔ eventId ∈ held settings.maxIdempotencyKeys.toNat (answered log) := by
  rw [mem_held_iff]
  unfold Recent
  refine exists_congr fun before => exists_congr fun after => and_congr_right fun _ => and_congr_right fun _ => ?_
  omega

theorem Windowed.get (windowed : Windowed settings s) (eventId : String) :
    (∃ previous, Dict.get s.seen eventId = some previous) ↔ Recent settings s.log eventId := by
  rw [recent_iff,← windowed]
  constructor
  · intro found
    obtain ⟨previous,found⟩ := found
    exact List.mem_map_of_mem (Dict.get_row.mp found)
  · exact get_present

theorem Windowed.repeated (windowed : Windowed settings s) (found : Dict.get s.seen t.eventId = some previous) :
    Windowed settings ⟨Dict.moveToEnd s.seen t.eventId,s.log ++ [⟨t,some {previous with duplicate := true}⟩]⟩ := by
  have member : t.eventId ∈ held settings.maxIdempotencyKeys.toNat (answered s.log) := by
    rw [← windowed]
    exact List.mem_map_of_mem (Dict.get_row.mp found)
  have positive : 1 ≤ settings.maxIdempotencyKeys.toNat := by
    have bounded := held_length settings.maxIdempotencyKeys.toNat (answered s.log)
    have inhabited := List.length_pos_of_mem member
    omega
  show (Dict.moveToEnd s.seen t.eventId).rows.map Prod.fst = _
  rw [moveToEnd_rows found,List.map_append,others_keys,windowed,answered_snoc]
  exact (held_again positive member).symm

theorem popOldest_keys (limit : Int) (seen : Seen) : (popOldest limit seen).rows.map Prod.fst =
    if limit < seen.rows.length then (seen.rows.map Prod.fst).tail else seen.rows.map Prod.fst := by
  unfold popOldest
  split
  · exact List.map_tail
  · rfl

theorem held_fresh {limit : Int} {uses : List String} {eventId : String} (fresh : eventId ∉ held limit.toNat uses) :
    held limit.toNat (uses ++ [eventId]) = if limit < ((held limit.toNat uses).length + 1 : Nat)
      then (held limit.toNat uses ++ [eventId]).tail else held limit.toNat uses ++ [eventId] := by
  have bounded := held_length limit.toNat uses
  by_cases positive : 1 ≤ limit.toNat
  · have others : (held limit.toNat uses).filter (fun j => decide (j ≠ eventId)) = held limit.toNat uses :=
      List.filter_eq_self.mpr fun j member => decide_eq_true fun same => fresh (same ▸ member)
    rw [held_snoc positive,others]
    split
    · rename_i full
      have size : (held limit.toNat uses ++ [eventId]).length - limit.toNat = 1 := by
        rw [List.length_append,List.length_singleton]
        omega
      rw [List.rtake,size,List.drop_one]
    · rename_i room
      refine rtake_of_length_le ?_
      rw [List.length_append,List.length_singleton]
      omega
  · have none_ : limit.toNat = 0 := by omega
    have nothing : ∀ uses : List String, held limit.toNat uses = [] := fun uses =>
      List.length_eq_zero_iff.mp (Nat.le_zero.mp (none_ ▸ held_length limit.toNat uses))
    rw [nothing,nothing,if_pos (by rw [List.length_nil]; omega)]
    rfl

theorem Windowed.scored (windowed : Windowed settings s) (fresh : Dict.get s.seen t.eventId = none) :
    Windowed settings ⟨popOldest settings.maxIdempotencyKeys (Dict.set s.seen t.eventId response),
      s.log ++ [⟨t,some response⟩]⟩ := by
  have absent : t.eventId ∉ s.seen.rows.map Prod.fst := by
    intro present
    obtain ⟨previous,found⟩ := get_present present
    rw [fresh] at found
    cases found
  show (popOldest settings.maxIdempotencyKeys (Dict.set s.seen t.eventId response)).rows.map Prod.fst = _
  have size : s.seen.rows.length = (held settings.maxIdempotencyKeys.toNat (answered s.log)).length := by
    rw [← windowed,List.length_map]
  rw [popOldest_keys,Dict.set_fresh absent,List.map_append,List.length_append,List.length_singleton,size,windowed,
    answered_snoc]
  rw [windowed] at absent
  exact (held_fresh absent).symm

theorem served_windowed (settings : Settings) (requests : List Transaction) :
    Windowed settings (served settings requests) ∧ EachAfter (Exactly settings) (served settings requests).log := by
  induction requests using List.reverseRecOn with
  | nil => exact ⟨(List.length_eq_zero_iff.mp (Nat.le_zero.mp (by simp [held,served,initial,answered]))).symm,eachAfter_nil⟩
  | append_singleton requests t ih =>
    obtain ⟨windowed,exactly⟩ := ih
    have sound := served_sound settings requests
    rw [served,List.foldl_append]
    change Windowed settings (serve settings (served settings requests) t) ∧
      EachAfter (Exactly settings) (serve settings (served settings requests) t).log
    unfold serve scoreTransaction
    cases found : Dict.get (served settings requests).seen t.eventId with
    | some previous =>
      obtain ⟨first,last,given⟩ := sound.kept _ (Dict.get_row.mp found)
      obtain ⟨_,single,_⟩ := sound.described last given
      refine ⟨windowed.repeated found,eachAfter_snoc.mpr ⟨exactly,fun _ => ⟨first,previous,last,given,single,rfl⟩,?_⟩⟩
      intro old
      exact absurd ((windowed.get _).mp ⟨previous,found⟩) old
    | none =>
      have old : ¬ Recent settings (served settings requests).log t.eventId := by
        intro recent
        obtain ⟨previous,there⟩ := (windowed.get _).mpr recent
        rw [found] at there
        cases there
      cases made : responseFor settings t with
      | none =>
        refine ⟨?_,eachAfter_snoc.mpr ⟨exactly,fun recent => absurd recent old,fun _ => made.symm⟩⟩
        show _ = held _ (answered _)
        rw [answered_snoc]
        exact windowed.trans (by simp)
      | some response =>
        exact ⟨windowed.scored found,eachAfter_snoc.mpr ⟨exactly,fun recent => absurd recent old,fun _ => made.symm⟩⟩

-- The service forgets an event only after as many others as it is set to keep.
theorem duplicates_exact (settings : Settings) (requests : List Transaction) :
    EachAfter (Exactly settings) (served settings requests).log ∧
      ((served settings requests).seen.rows.length : Int) ≤ max settings.maxIdempotencyKeys 0 := by
  obtain ⟨windowed,exactly⟩ := served_windowed settings requests
  refine ⟨exactly,?_⟩
  have size := congrArg List.length windowed
  rw [List.length_map] at size
  have bounded := held_length settings.maxIdempotencyKeys.toNat (answered (served settings requests).log)
  omega

end OpenModelOps.BankingDuplicates
