import OpenModelOps.JoinedText
import OpenModelOps.JsonBytes
import OpenModelOps.RecentUse

namespace OpenModelOps.MetalPromptCache
open JoinedText JsonText KeyedTable RecentUse

structure PromptCacheEntry where
  key : String
  modelId : String
  tokenCount : Int
  deriving DecidableEq

structure PromptCacheIndex where
  capacity : Nat
  entries : Dict String PromptCacheEntry
  positive : 1 ≤ capacity

def create (capacity : Int) : Except String PromptCacheIndex :=
  if small : capacity < 1 then .error "capacity must be positive"
  else .ok ⟨capacity.toNat,Table.empty,by omega⟩

def nul : Char := Char.ofNat 0

def keyText (modelId prompt : String) : String := modelId ++ String.singleton nul ++ prompt

-- sha256 is the hex digest. A str with a surrogate cannot be encoded: such a call
-- raises before it reads the entries.
def keyFor (sha256 : List UInt8 → String) (modelId prompt : String) : String := sha256 (encode (keyText modelId prompt))

-- Each call holds the lock from its first access to the entries to its last.
def lookup (sha256 : List UInt8 → String) (index : PromptCacheIndex) (modelId prompt : String) :
    Option PromptCacheEntry × PromptCacheIndex :=
  let key := keyFor sha256 modelId prompt
  match Dict.get index.entries key with
  | some entry => (some entry,{index with entries := Dict.moveToEnd index.entries key})
  | none => (none,index)

def record (sha256 : List UInt8 → String) (index : PromptCacheIndex) (modelId prompt : String) (tokenCount : Int) :
    PromptCacheEntry × PromptCacheIndex :=
  let key := keyFor sha256 modelId prompt
  let entry : PromptCacheEntry := ⟨key,modelId,tokenCount⟩
  (entry,{index with
    entries := Dict.evict index.capacity (Dict.moveToEnd (Dict.set index.entries key entry) key)})

def size (index : PromptCacheIndex) : Nat := index.entries.rows.length

inductive Call where
  | record (modelId prompt : String) (tokenCount : Int)
  | lookup (modelId prompt : String)

def Call.pair : Call → String × String
  | .record modelId prompt _ => (modelId,prompt)
  | .lookup modelId prompt => (modelId,prompt)

variable {sha256 : List UInt8 → String} {index : PromptCacheIndex} {capacity : Int} {calls : List Call} {call : Call}

def after (sha256 : List UInt8 → String) (index : PromptCacheIndex) : Call → PromptCacheIndex
  | .record modelId prompt tokenCount => (record sha256 index modelId prompt tokenCount).2
  | .lookup modelId prompt => (lookup sha256 index modelId prompt).2

def replay (sha256 : List UInt8 → String) (index : PromptCacheIndex) (calls : List Call) : PromptCacheIndex :=
  calls.foldl (after sha256) index

def Call.op (sha256 : List UInt8 → String) : Call → Op (String × String) PromptCacheEntry
  | .record modelId prompt tokenCount => .record (modelId,prompt) ⟨keyFor sha256 modelId prompt,modelId,tokenCount⟩
  | .lookup modelId prompt => .lookup (modelId,prompt)

def history (sha256 : List UInt8 → String) (calls : List Call) : List (Op (String × String) PromptCacheEntry) :=
  calls.map (Call.op sha256)

def pairKey (sha256 : List UInt8 → String) (pair : String × String) : String := keyFor sha256 pair.1 pair.2

def Unterminated (calls : List Call) : Prop := ∀ call ∈ calls, nul ∉ call.pair.1.toList

def CollisionFree (sha256 : List UInt8 → String) (calls : List Call) : Prop :=
  ∀ left ∈ calls, ∀ right ∈ calls, pairKey sha256 left.pair = pairKey sha256 right.pair →
    encode (keyText left.pair.1 left.pair.2) = encode (keyText right.pair.1 right.pair.2)

theorem keyText_injective {modelId prompt otherId other : String} (left : nul ∉ modelId.toList)
    (right : nul ∉ otherId.toList) (same : keyText modelId prompt = keyText otherId other) :
    modelId = otherId ∧ prompt = other := by
  have chars := congrArg String.toList same
  simp only [keyText,String.toList_append,String.toList_singleton,List.append_assoc,List.singleton_append] at chars
  obtain ⟨ids,prompts⟩ := before_mark left right chars
  exact ⟨String.toList_injective ids,String.toList_injective prompts⟩

theorem Call.op_target (sha256 : List UInt8 → String) (call : Call) : (call.op sha256).target = call.pair := by
  cases call <;> rfl

theorem pairs_apart (unterminated : Unterminated calls) (collisionFree : CollisionFree sha256 calls) :
    Apart (pairKey sha256) ((history sha256 calls).map Op.target) := by
  intro left first right second same
  simp only [history,List.map_map,List.mem_map,Function.comp,Call.op_target] at first second
  obtain ⟨leftCall,leftMember,rfl⟩ := first
  obtain ⟨rightCall,rightMember,rfl⟩ := second
  have texts := encode_injective (collisionFree _ leftMember _ rightMember same)
  obtain ⟨ids,prompts⟩ := keyText_injective (unterminated _ leftMember) (unterminated _ rightMember) texts
  exact Prod.ext ids prompts

theorem after_entries (sha256 : List UInt8 → String) (index : PromptCacheIndex) (call : Call) :
    (after sha256 index call).entries = perform index.capacity (pairKey sha256) index.entries (call.op sha256) ∧
      (after sha256 index call).capacity = index.capacity := by
  cases call with
  | record modelId prompt tokenCount => exact ⟨rfl,rfl⟩
  | lookup modelId prompt =>
    simp only [after,lookup]
    split
    · exact ⟨rfl,rfl⟩
    · rename_i missing
      simp [Call.op,perform,pairKey,Dict.moveToEnd,missing]

theorem replay_entries (sha256 : List UInt8 → String) (index : PromptCacheIndex) (calls : List Call) :
    (replay sha256 index calls).entries =
      (history sha256 calls).foldl (perform index.capacity (pairKey sha256)) index.entries := by
  induction calls generalizing index with
  | nil => rfl
  | cons call rest ih =>
    obtain ⟨entries,capacity⟩ := after_entries sha256 index call
    have later := ih (after sha256 index call)
    rw [entries,capacity] at later
    exact later

theorem create_parts (created : create capacity = .ok index) : index.entries = Table.empty := by
  unfold create at created
  split at created
  · cases created
  · cases Except.ok.inj created
    rfl

structure LeastRecentlyUsed (sha256 : List UInt8 → String) (calls : List Call) (index : PromptCacheIndex) : Prop where
  order : index.entries.rows.map Prod.fst =
    (held index.capacity (usesOf index.capacity (history sha256 calls))).map (pairKey sha256)
  entries : ∀ pair ∈ held index.capacity (usesOf index.capacity (history sha256 calls)),
    Dict.get index.entries (pairKey sha256 pair) = lastRecord (history sha256 calls) pair
  bounded : size index ≤ index.capacity

theorem replay_capacity (sha256 : List UInt8 → String) (index : PromptCacheIndex) (calls : List Call) :
    (replay sha256 index calls).capacity = index.capacity := by
  induction calls generalizing index with
  | nil => rfl
  | cons call rest ih => exact (ih (after sha256 index call)).trans (after_entries sha256 index call).2

theorem replay_tracks (created : create capacity = .ok index) (unterminated : Unterminated calls)
    (collisionFree : CollisionFree sha256 calls) :
    Tracks index.capacity (pairKey sha256) (history sha256 calls) (replay sha256 index calls).entries := by
  rw [replay_entries,create_parts created]
  exact perform_tracks index.positive _ (pairs_apart unterminated collisionFree)

theorem lookup_get (sha256 : List UInt8 → String) (index : PromptCacheIndex) (modelId prompt : String) :
    (lookup sha256 index modelId prompt).1 = Dict.get index.entries (pairKey sha256 (modelId,prompt)) := by
  unfold lookup pairKey
  dsimp only
  split
  · rename_i found
    exact found.symm
  · rename_i missing
    exact missing.symm

theorem lookup_answer {modelId prompt : String} (created : create capacity = .ok index)
    (unterminated : Unterminated (calls ++ [.lookup modelId prompt]))
    (collisionFree : CollisionFree sha256 (calls ++ [.lookup modelId prompt])) :
    (lookup sha256 (replay sha256 index calls) modelId prompt).1 =
      answer index.capacity (history sha256 calls) (modelId,prompt) := by
  have before : ∀ call ∈ calls, call ∈ calls ++ [Call.lookup modelId prompt] := fun _ => List.mem_append_left _
  have apart := pairs_apart unterminated collisionFree
  rw [history,List.map_append] at apart
  have tracks := replay_tracks created (fun call member => unterminated call (before call member))
    (fun left first right second => collisionFree left (before left first) right (before right second))
  rw [lookup_get]
  exact tracks.answer apart

theorem lru_reference (created : create capacity = .ok index) (calls : List Call) (unterminated : Unterminated calls)
    (collisionFree : CollisionFree sha256 calls) :
    LeastRecentlyUsed sha256 calls (replay sha256 index calls) ∧
    ∀ earlier modelId prompt later, calls = earlier ++ .lookup modelId prompt :: later →
      (lookup sha256 (replay sha256 index earlier) modelId prompt).1 =
        answer index.capacity (history sha256 earlier) (modelId,prompt) := by
  constructor
  · have tracks := replay_tracks created unterminated collisionFree
    rw [← replay_capacity sha256 index calls] at tracks
    exact ⟨tracks.order,tracks.entries,tracks.bounded⟩
  · intro earlier modelId prompt later split
    have within : ∀ call ∈ earlier ++ [Call.lookup modelId prompt], call ∈ calls := by
      intro call member
      rw [split,← List.singleton_append,← List.append_assoc]
      exact List.mem_append_left _ member
    exact lookup_answer created (fun call member => unterminated call (within call member))
      (fun left first right second => collisionFree left (within left first) right (within right second))

instance decideUnterminated (calls : List Call) : Decidable (Unterminated calls) :=
  inferInstanceAs (Decidable (∀ call ∈ calls, _))

instance decideCollisionFree (sha256 : List UInt8 → String) (calls : List Call) : Decidable (CollisionFree sha256 calls) :=
  inferInstanceAs (Decidable (∀ left ∈ calls, ∀ right ∈ calls, _ → _))

def digests (bytes : List UInt8) : String :=
  if bytes = encode (keyText "qwen" "hello") then "0bea25779be89ad4b70e9034fbae55dad1014f55540fd89b900fe22bcc15eeea"
  else if bytes = encode (keyText "qwen" "weather") then
    "b5133c7a65913708c0e94bbee2d71c5cc109c945a4d218b0946e0b15c4dc263a"
  else if bytes = encode (keyText "qwen" "summary") then
    "8befce70079687ee218ed9d318d81e893efdf2185bec9bbdc960589e7d51942a"
  else ""

def threePrompts : List Call :=
  [.record "qwen" "hello" 2,.record "qwen" "weather" 3,.lookup "qwen" "hello",.record "qwen" "summary" 5,
    .lookup "qwen" "weather"]

theorem three_prompts_reference : ∃ index, create 2 = .ok index ∧
    LeastRecentlyUsed digests threePrompts (replay digests index threePrompts) ∧
    (lookup digests (replay digests index (threePrompts.take 4)) "qwen" "weather").1 = none := by
  obtain ⟨index,created,capacity⟩ : ∃ index, create 2 = .ok index ∧ index.capacity = 2 := ⟨_,rfl,rfl⟩
  have unterminated : Unterminated threePrompts := by decide +kernel
  have collisionFree : CollisionFree digests threePrompts := by decide +kernel
  obtain ⟨holds,answers⟩ := lru_reference created threePrompts unterminated collisionFree
  refine ⟨index,created,holds,?_⟩
  rw [answers (threePrompts.take 4) "qwen" "weather" [] rfl,capacity]
  decide +kernel

end OpenModelOps.MetalPromptCache
