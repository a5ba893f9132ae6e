import OpenModelOps.JsonBytes

namespace JsonNesting
open JsonText

-- What stops a decoder: the grammar, an integer with too many digits, or more
-- open brackets than the interpreter has stack for.
inductive Stop where
  | malformed | longInteger | tooDeep
  deriving DecidableEq

def orMalformed : Option α → Except Stop α
  | some value => .ok value
  | none => .error .malformed

-- The scanner with the number of brackets that may still be opened. It looks at
-- the depth before it reads on, and at the digits of an integer when it has read
-- it.
mutual
def scanValue (digits : Nat) : Nat → Nat → Text → Except Stop (Json Number × Text)
  | 0,_,_ => .error .malformed
  | _+1,_,[] => .error .malformed
  | fuel+1,depth,c :: rest =>
    if c = 0x22 then (orMalformed (scanString .plain [] rest)).map (fun (value,tail) => (.str value,tail))
    else if c = 0x7b then
      if depth = 0 then .error .tooDeep
      else match skipBlank rest with
        | [] => .error .malformed
        | d :: tail => if d = 0x7d then .ok (.obj [],tail)
          else (scanFields digits fuel (depth - 1) (d :: tail)).map (fun (fields,tail) => (.obj fields,tail))
    else if c = 0x5b then
      if depth = 0 then .error .tooDeep
      else match skipBlank rest with
        | [] => .error .malformed
        | d :: tail => if d = 0x5d then .ok (.arr [],tail)
          else (scanItems digits fuel (depth - 1) (d :: tail)).map (fun (items,tail) => (.arr items,tail))
    else match scanLiteral (c :: rest) with
      | some found => .ok found
      | none => match scanNumber (c :: rest) with
        | none => .error .malformed
        | some (value,tail) =>
          if intsWithin digits (.num value) then .ok (.num value,tail) else .error .longInteger
def scanItems (digits : Nat) : Nat → Nat → Text → Except Stop (List (Json Number) × Text)
  | 0,_,_ => .error .malformed
  | fuel+1,depth,cs => match scanValue digits fuel depth cs with
    | .error stop => .error stop
    | .ok (item,afterItem) => match skipBlank afterItem with
      | [] => .error .malformed
      | d :: tail =>
        if d = 0x5d then .ok ([item],tail)
        else if d = 0x2c then
          (scanItems digits fuel depth (skipBlank tail)).map (fun (items,tail) => (item :: items,tail))
        else .error .malformed
def scanFields (digits : Nat) : Nat → Nat → Text → Except Stop (List (Text × Json Number) × Text)
  | 0,_,_ => .error .malformed
  | _+1,_,[] => .error .malformed
  | fuel+1,depth,c :: cs =>
    if c = 0x22 then match scanString .plain [] cs with
      | none => .error .malformed
      | some (key,afterKey) => match skipBlank afterKey with
        | [] => .error .malformed
        | colon :: afterColon =>
          if colon = 0x3a then match scanValue digits fuel depth (skipBlank afterColon) with
            | .error stop => .error stop
            | .ok (value,afterValue) => match skipBlank afterValue with
              | [] => .error .malformed
              | d :: tail =>
                if d = 0x7d then .ok ([(key,value)],tail)
                else if d = 0x2c then
                  (scanFields digits fuel depth (skipBlank tail)).map
                    (fun (fields,tail) => ((key,value) :: fields,tail))
                else .error .malformed
          else .error .malformed
    else .error .malformed
end

def loads (digits depth : Nat) (cs : Text) : Except Stop (Json Number) :=
  match scanValue digits (2 * cs.length + 2) depth (skipBlank cs) with
  | .error stop => .error stop
  | .ok (value,tail) => if skipBlank tail = [] then .ok value else .error .malformed

def Agrees (within : α → Bool) (deep : Prop) (limited : Except Stop (α × Text)) (plain : Option (α × Text)) : Prop :=
  match limited with
  | .ok read => plain = some read ∧ within read.1 = true
  | .error .malformed => plain = none
  | .error .longInteger => ∀ read, plain = some read → within read.1 = false
  | .error .tooDeep => deep

theorem Agrees.map {within : α → Bool} {outer : β → Bool} {limited : Except Stop (α × Text)} {plain : Option (α × Text)}
    (agrees : Agrees within deep limited plain) (wrap : α → β) (same : ∀ a, outer (wrap a) = within a)
    (deeper : deep → deep') : Agrees outer deep' (limited.map fun (a,tail) => (wrap a,tail))
      (plain.map fun (a,tail) => (wrap a,tail)) := by
  cases limited with
  | ok read =>
    obtain ⟨found,short⟩ := agrees
    exact ⟨by rw [found]; rfl,(same _).trans short⟩
  | error stop =>
    cases stop with
    | malformed =>
      have none : plain = none := agrees
      rw [none]
      rfl
    | longInteger =>
      intro read found
      obtain ⟨⟨a,tail⟩,inside,rfl⟩ := Option.map_eq_some_iff.mp found
      exact (same a).trans (agrees _ inside)
    | tooDeep => exact deeper agrees

theorem skipBlank_length (cs : Text) : (skipBlank cs).length ≤ cs.length := List.length_dropWhile_le _ _

theorem Consumes.length (consumed : Consumes cs tail) : tail.length ≤ cs.length := by
  obtain ⟨used,rfl,_⟩ := consumed
  simp

theorem literals_within (digits : Nat) : ∀ entry ∈ literals, intsWithin digits entry.2 = true := by
  simp only [literals,List.forall_mem_cons]
  exact ⟨rfl,rfl,rfl,rfl,rfl,rfl,List.forall_mem_nil _⟩

section Scans
variable {digits fuel : Nat}

theorem ending_agrees {depth d close : Nat} {cs afterValue tail : Text} {within : α → Bool} {single : α}
    {limited : Except Stop (α × Text)} {plain : Option (α × Text)} (next : skipBlank afterValue = d :: tail)
    (shorter : afterValue.length ≤ cs.length)
    (later : Agrees within (depth < (skipBlank tail).length) limited plain) (extend : α → α)
    (same : ∀ a, within (extend a) = within a) (short : within single = true) :
    Agrees within (depth < cs.length)
      (if d = close then .ok (single,tail)
        else if d = 0x2c then limited.map fun (a,tail) => (extend a,tail) else .error .malformed)
      (if d = close then some (single,tail)
        else if d = 0x2c then plain.map fun (a,tail) => (extend a,tail) else none) := by
  have behind := skipBlank_length afterValue
  rw [next,List.length_cons] at behind
  have last := skipBlank_length tail
  by_cases closed : d = close
  · rw [if_pos closed,if_pos closed]
    exact ⟨rfl,short⟩
  · by_cases comma : d = 0x2c
    · rw [if_neg closed,if_neg closed,if_pos comma,if_pos comma]
      exact later.map extend same (by omega)
    · rw [if_neg closed,if_neg closed,if_neg comma,if_neg comma]
      rfl

theorem items_agree (values : ∀ depth cs, Agrees (intsWithin digits) (depth < cs.length)
      (scanValue digits fuel depth cs) (JsonText.scanValue fuel cs))
    (items : ∀ depth cs, Agrees (itemsWithin digits) (depth < cs.length)
      (scanItems digits fuel depth cs) (JsonText.scanItems fuel cs)) (depth : Nat) (cs : Text) :
    Agrees (itemsWithin digits) (depth < cs.length) (scanItems digits (fuel + 1) depth cs)
      (JsonText.scanItems (fuel + 1) cs) := by
  have here := values depth cs
  rw [scanItems]
  cases limited : scanValue digits fuel depth cs with
  | error stop =>
    rw [limited] at here
    cases stop with
    | malformed =>
      have none : JsonText.scanValue fuel cs = none := here
      simp only [JsonText.scanItems,none]
      rfl
    | longInteger =>
      intro read scanned
      obtain ⟨value,_,_,_,first,_,ending⟩ := scanItems_parts scanned
      have long : intsWithin digits value = false := here _ first
      rcases ending with ⟨_,_,only⟩ | ⟨_,_,_,more⟩
      · rw [only,itemsWithin,long,Bool.false_and]
      · rw [more,itemsWithin,long,Bool.false_and]
    | tooDeep => exact here
  | ok read =>
    rw [limited] at here
    obtain ⟨first,short⟩ := here
    have shorter := Consumes.length ((scans_consume fuel).1 first)
    simp only [JsonText.scanItems,first]
    cases next : skipBlank read.2 with
    | nil => rfl
    | cons d tail =>
      exact ending_agrees next shorter (items depth (skipBlank tail)) (read.1 :: ·)
        (fun _ => by simp [itemsWithin,short]) (by simp [itemsWithin,short])

theorem fields_long {rest afterColon : Text} {keyed : Text × Text} {read : List (Text × Json Number) × Text}
    (string : scanString .plain [] rest = some keyed) (colon : skipBlank keyed.2 = 0x3a :: afterColon)
    (long : ∀ value, JsonText.scanValue fuel (skipBlank afterColon) = some value → intsWithin digits value.1 = false)
    (scanned : JsonText.scanFields (fuel + 1) (0x22 :: rest) = some read) : fieldsWithin digits read.1 = false := by
  obtain ⟨_,_,_,_,_,_,_,_,same,again,mark,first,_,ending⟩ := scanFields_parts scanned
  cases same
  cases Option.some.inj (again.symm.trans string)
  cases mark.symm.trans colon
  have long := long _ first
  rcases ending with ⟨_,_,only⟩ | ⟨_,_,_,more⟩
  · rw [only,fieldsWithin,long,Bool.false_and]
  · rw [more,fieldsWithin,long,Bool.false_and]

theorem fields_agree (values : ∀ depth cs, Agrees (intsWithin digits) (depth < cs.length)
      (scanValue digits fuel depth cs) (JsonText.scanValue fuel cs))
    (fields : ∀ depth cs, Agrees (fieldsWithin digits) (depth < cs.length)
      (scanFields digits fuel depth cs) (JsonText.scanFields fuel cs)) (depth : Nat) (cs : Text) :
    Agrees (fieldsWithin digits) (depth < cs.length) (scanFields digits (fuel + 1) depth cs)
      (JsonText.scanFields (fuel + 1) cs) := by
  cases cs with
  | nil => rw [scanFields,JsonText.scanFields]; rfl
  | cons c rest =>
  rw [scanFields]
  by_cases quote : c = 0x22
  swap
  · simp only [JsonText.scanFields,if_neg quote]
    rfl
  subst quote
  cases string : scanString .plain [] rest with
  | none => simp only [JsonText.scanFields,if_true,string]; rfl
  | some keyed =>
  have named := Consumes.length (string_consumes string)
  have spaced := skipBlank_length keyed.2
  simp only [if_true]
  cases colon : skipBlank keyed.2 with
  | nil => simp only [JsonText.scanFields,if_true,string,colon]; rfl
  | cons mark afterColon =>
  rw [colon,List.length_cons] at spaced
  rw [List.length_cons] at named
  have start := skipBlank_length afterColon
  by_cases isColon : mark = 0x3a
  swap
  · simp only [JsonText.scanFields,if_true,string,colon,if_neg isColon]
    rfl
  subst isColon
  have here := values depth (skipBlank afterColon)
  simp only [if_true]
  cases limited : scanValue digits fuel depth (skipBlank afterColon) with
  | error stop =>
    rw [limited] at here
    cases stop with
    | malformed =>
      have none : JsonText.scanValue fuel (skipBlank afterColon) = none := here
      simp only [JsonText.scanFields,if_true,string,colon,none]
      rfl
    | longInteger => exact fun read scanned => fields_long string colon here scanned
    | tooDeep =>
      have deep : depth < (skipBlank afterColon).length := here
      show depth < (0x22 :: rest).length
      simp only [List.length_cons]
      omega
  | ok read =>
    rw [limited] at here
    obtain ⟨first,short⟩ := here
    have shorter := Consumes.length ((scans_consume fuel).1 first)
    simp only [JsonText.scanFields,if_true,string,colon,first]
    cases next : skipBlank read.2 with
    | nil => rfl
    | cons d tail =>
      have behind : read.2.length ≤ (0x22 :: rest).length := by
        simp only [List.length_cons]
        omega
      exact ending_agrees next behind (fields depth (skipBlank tail)) ((keyed.1,read.1) :: ·)
        (fun _ => by simp [fieldsWithin,short]) (by simp [fieldsWithin,short])

theorem opened_agrees {depth c close : Nat} {rest : Text} {empty : Json Number} {within : α → Bool}
    {limited : Text → Except Stop (α × Text)} {plain : Text → Option (α × Text)}
    (inside : ∀ cs, Agrees within (depth - 1 < cs.length) (limited cs) (plain cs)) (wrap : α → Json Number)
    (same : ∀ a, intsWithin digits (wrap a) = within a) (short : intsWithin digits empty = true) :
    Agrees (intsWithin digits) (depth < (c :: rest).length)
      (if depth = 0 then .error .tooDeep
        else match skipBlank rest with
          | [] => .error .malformed
          | d :: tail => if d = close then .ok (empty,tail)
            else (limited (d :: tail)).map fun (a,tail) => (wrap a,tail))
      (match skipBlank rest with
        | [] => none
        | d :: tail => if d = close then some (empty,tail)
          else (plain (d :: tail)).map fun (a,tail) => (wrap a,tail)) := by
  by_cases full : depth = 0
  · rw [if_pos full]
    show depth < (c :: rest).length
    simp [full]
  · rw [if_neg full]
    have spaced := skipBlank_length rest
    cases next : skipBlank rest with
    | nil => rfl
    | cons d tail =>
      by_cases closed : d = close
      · simp only [if_pos closed]
        exact ⟨rfl,short⟩
      · simp only [if_neg closed]
        refine (inside (d :: tail)).map wrap same fun deep => ?_
        rw [next] at spaced
        simp only [List.length_cons] at spaced deep ⊢
        omega

theorem values_agree (items : ∀ depth cs, Agrees (itemsWithin digits) (depth < cs.length)
      (scanItems digits fuel depth cs) (JsonText.scanItems fuel cs))
    (fields : ∀ depth cs, Agrees (fieldsWithin digits) (depth < cs.length)
      (scanFields digits fuel depth cs) (JsonText.scanFields fuel cs)) (depth : Nat) (cs : Text) :
    Agrees (intsWithin digits) (depth < cs.length) (scanValue digits (fuel + 1) depth cs)
      (JsonText.scanValue (fuel + 1) cs) := by
  cases cs with
  | nil => rw [scanValue,JsonText.scanValue]; rfl
  | cons c rest =>
  rw [scanValue,JsonText.scanValue]
  by_cases quote : c = 0x22
  · simp only [if_pos quote]
    cases scanString .plain [] rest with
    | none => rfl
    | some found => exact ⟨rfl,rfl⟩
  simp only [if_neg quote]
  by_cases brace : c = 0x7b
  · simp only [if_pos brace]
    exact opened_agrees (fields (depth - 1)) Json.obj (fun _ => rfl) rfl
  simp only [if_neg brace]
  by_cases bracket : c = 0x5b
  · simp only [if_pos bracket]
    exact opened_agrees (items (depth - 1)) Json.arr (fun _ => rfl) rfl
  simp only [if_neg bracket]
  cases literal : scanLiteral (c :: rest) with
  | some found =>
    obtain ⟨entry,chosen,rfl⟩ := Option.map_eq_some_iff.mp literal
    exact ⟨rfl,literals_within digits entry (List.mem_of_find?_eq_some chosen)⟩
  | none =>
    simp only
    cases number : scanNumber (c :: rest) with
    | none => rfl
    | some found =>
      simp only
      by_cases short : intsWithin digits (.num found.1) = true
      · rw [if_pos short]
        exact ⟨rfl,short⟩
      · rw [if_neg short]
        intro read same
        cases same
        exact Bool.not_eq_true _ ▸ short

end Scans

theorem scans_agree (digits fuel : Nat) :
    (∀ depth cs, Agrees (intsWithin digits) (depth < cs.length) (scanValue digits fuel depth cs)
      (JsonText.scanValue fuel cs)) ∧
    (∀ depth cs, Agrees (itemsWithin digits) (depth < cs.length) (scanItems digits fuel depth cs)
      (JsonText.scanItems fuel cs)) ∧
    (∀ depth cs, Agrees (fieldsWithin digits) (depth < cs.length) (scanFields digits fuel depth cs)
      (JsonText.scanFields fuel cs)) := by
  induction fuel with
  | zero =>
    refine ⟨fun _ _ => ?_,fun _ _ => ?_,fun _ _ => ?_⟩
    · rw [scanValue,JsonText.scanValue]; rfl
    · rw [scanItems,JsonText.scanItems]; rfl
    · rw [scanFields,JsonText.scanFields]; rfl
  | succ fuel ih =>
    obtain ⟨values,items,fields⟩ := ih
    exact ⟨values_agree items fields,items_agree values items,fields_agree values fields⟩

theorem loads_ok (loaded : loads PythonText.maxStrDigits depth cs = .ok value) : loadsText cs = some value := by
  have agrees := (scans_agree PythonText.maxStrDigits (2 * cs.length + 2)).1 depth (skipBlank cs)
  unfold loads at loaded
  split at loaded
  · cases loaded
  rename_i found tail limited
  rw [limited] at agrees
  obtain ⟨plain,short⟩ := agrees
  split at loaded
  · rename_i spent
    cases Except.ok.inj loaded
    simp only [loadsText,JsonText.loads,plain,if_pos spent,if_pos short]
  · cases loaded

theorem loads_stopped (stopped : loads PythonText.maxStrDigits depth cs = .error stop) :
    (stop = .tooDeep → depth < cs.length) ∧ (stop ≠ .tooDeep → loadsText cs = none) := by
  have agrees := (scans_agree PythonText.maxStrDigits (2 * cs.length + 2)).1 depth (skipBlank cs)
  unfold loads at stopped
  split at stopped
  · rename_i stop' limited
    cases Except.error.inj stopped
    rw [limited] at agrees
    cases stop with
    | malformed =>
      have none : JsonText.scanValue (2 * cs.length + 2) (skipBlank cs) = none := agrees
      exact ⟨nofun,fun _ => by simp only [loadsText,JsonText.loads,none]⟩
    | longInteger =>
      refine ⟨nofun,fun _ => ?_⟩
      simp only [loadsText,JsonText.loads]
      cases plain : JsonText.scanValue (2 * cs.length + 2) (skipBlank cs) with
      | none => rfl
      | some read =>
        have long : intsWithin PythonText.maxStrDigits read.1 = false := agrees read plain
        by_cases spent : skipBlank read.2 = []
        · simp only [if_pos spent,long]
          rfl
        · simp only [if_neg spent]
    | tooDeep => exact ⟨fun _ => Nat.lt_of_lt_of_le agrees (skipBlank_length cs),fun other => absurd rfl other⟩
  · rename_i found tail limited
    rw [limited] at agrees
    split at stopped
    · cases stopped
    · rename_i more
      cases Except.error.inj stopped
      exact ⟨nofun,fun _ => by simp only [loadsText,JsonText.loads,agrees.1,if_neg more]⟩

theorem loads_enough (enough : cs.length ≤ depth) : loads PythonText.maxStrDigits depth cs = .ok value ↔
    loadsText cs = some value := by
  refine ⟨loads_ok,fun read => ?_⟩
  cases limited : loads PythonText.maxStrDigits depth cs with
  | ok found => rw [loads_ok limited] at read; rw [Option.some.inj read]
  | error stop =>
    obtain ⟨deep,none⟩ := loads_stopped limited
    by_cases full : stop = .tooDeep
    · exact absurd (deep full) (Nat.not_lt.mpr enough)
    · rw [none full] at read
      cases read

end JsonNesting
