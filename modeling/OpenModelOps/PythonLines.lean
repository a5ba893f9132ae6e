import OpenModelOps.PythonText

namespace PythonLines
variable {c : Nat} {cs line : List Nat}

-- Reading a text file turns every end of line into a line feed.
def universalNewlines (returned : Bool) : List Nat → List Nat
  | [] => []
  | c :: rest =>
    if c = 0x0d then 0x0a :: universalNewlines true rest
    else if c = 0x0a ∧ returned = true then universalNewlines false rest
    else c :: universalNewlines false rest

def lineBreaks : List Nat := [0x0a,0x0b,0x0c,0x0d,0x1c,0x1d,0x1e,0x85,0x2028,0x2029]

-- str.splitlines of a text without carriage returns.
def splitFrom (line : List Nat) : List Nat → List (List Nat)
  | [] => if line.isEmpty then [] else [line.reverse]
  | c :: rest => if lineBreaks.contains c then line.reverse :: splitFrom [] rest else splitFrom (c :: line) rest

-- path.read_text().splitlines().
def lines (file : List Nat) : List (List Nat) := splitFrom [] (universalNewlines false file)

-- not text.strip().
def blankLine (cs : List Nat) : Bool := cs.all PythonText.spaces.contains

def unlines (ls : List (List Nat)) : List Nat := ls.flatMap fun line => line ++ [0x0a]

def Unbroken (line : List Nat) : Prop := ∀ c ∈ line, lineBreaks.contains c = false

theorem universalNewlines_append (unbroken : Unbroken line) (rest : List Nat) :
    universalNewlines false (line ++ 0x0a :: rest) = line ++ 0x0a :: universalNewlines false rest := by
  induction line with
  | nil => simp [universalNewlines]
  | cons c more ih =>
    have here := unbroken c List.mem_cons_self
    have notReturn : c ≠ 0x0d := by rintro rfl; cases here
    have deeper := ih fun d member => unbroken d (List.mem_cons_of_mem _ member)
    simp only [List.cons_append,universalNewlines,notReturn,if_false,Bool.false_eq_true,and_false,deeper]

theorem splitFrom_append (unbroken : Unbroken line) (start rest : List Nat) :
    splitFrom start (line ++ 0x0a :: rest) = (start.reverse ++ line) :: splitFrom [] rest := by
  induction line generalizing start with
  | nil => simp [splitFrom,lineBreaks]
  | cons c more ih =>
    have here := unbroken c List.mem_cons_self
    have deeper := ih (fun d member => unbroken d (List.mem_cons_of_mem _ member)) (c :: start)
    rw [List.cons_append,splitFrom,here]
    simpa using deeper

theorem unlines_cons (line : List Nat) (rest : List (List Nat)) :
    unlines (line :: rest) = line ++ 0x0a :: unlines rest := by
  simp [unlines]

theorem lines_unlines {ls : List (List Nat)} (unbroken : ∀ line ∈ ls, Unbroken line) : lines (unlines ls) = ls := by
  have kept : universalNewlines false (unlines ls) = unlines ls := by
    induction ls with
    | nil => rfl
    | cons line rest ih =>
      have deeper := ih fun l member => unbroken l (List.mem_cons_of_mem _ member)
      rw [unlines_cons,universalNewlines_append (unbroken line List.mem_cons_self),deeper]
  rw [lines,kept]
  clear kept
  induction ls with
  | nil => rfl
  | cons line rest ih =>
    have deeper := ih fun l member => unbroken l (List.mem_cons_of_mem _ member)
    rw [unlines_cons,splitFrom_append (unbroken line List.mem_cons_self),deeper]
    rfl

theorem mem_universalNewlines {returned : Bool} (member : c ∈ universalNewlines returned cs) : c ∈ cs ∨ c = 0x0a := by
  induction cs generalizing returned with
  | nil => cases member
  | cons d rest ih =>
    have later : ∀ {again}, c ∈ universalNewlines again rest → c ∈ d :: rest ∨ c = 0x0a := fun inside =>
      (ih inside).imp_left (List.mem_cons_of_mem _)
    simp only [universalNewlines] at member
    split at member
    · rcases List.mem_cons.mp member with rfl | inside
      · exact .inr rfl
      · exact later inside
    split at member
    · exact later member
    · rcases List.mem_cons.mp member with rfl | inside
      · exact .inl List.mem_cons_self
      · exact later inside

theorem mem_splitFrom {start : List Nat} (split : line ∈ splitFrom start cs) (member : c ∈ line) :
    c ∈ start ∨ c ∈ cs := by
  induction cs generalizing start with
  | nil =>
    simp only [splitFrom] at split
    split at split
    · cases split
    · rw [List.mem_singleton.mp split,List.mem_reverse] at member
      exact .inl member
  | cons d rest ih =>
    simp only [splitFrom] at split
    split at split
    · rcases List.mem_cons.mp split with rfl | later
      · exact .inl (List.mem_reverse.mp member)
      · rcases ih later with none | inside
        · cases none
        · exact .inr (List.mem_cons_of_mem _ inside)
    · rcases ih split with before | inside
      · rcases List.mem_cons.mp before with rfl | older
        · exact .inr List.mem_cons_self
        · exact .inl older
      · exact .inr (List.mem_cons_of_mem _ inside)

theorem lines_chars (split : line ∈ lines cs) (member : c ∈ line) : c ∈ cs ∨ c = 0x0a := by
  rcases mem_splitFrom split member with none | inside
  · cases none
  · exact mem_universalNewlines inside

end PythonLines
