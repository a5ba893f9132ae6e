import OpenModelOps.PatternSearch
import OpenModelOps.PythonText
import OpenModelOps.Telemetry

namespace OpenModelOps.AgentPolicy
open PatternSearch PythonText

structure GuardrailResult where
  allowed : Bool
  safeText : String
  reasons : List String := []
  deriving DecidableEq

-- The parts of the two patterns; letters are compared without their case.

def oneOf (cs : List Char) : Pattern Char := .char cs.contains

def letters (word : String) : Pattern Char := .sequence (word.toList.map fun c => .char fun d => Telemetry.folded d == c)

def space : Pattern Char := .char isSpace

def unspace : Pattern Char := .char fun c => !isSpace c

def digit : Pattern Char := .char fun c => (digitValue c).isSome

-- \b(?:password|secret|api[_ -]?key)\s*[:=]\s*\S+
def credential (isWord : Char → Bool) : Pattern Char :=
  .seq (.boundary isWord) (.seq
    (.alt (letters "password") (.alt (letters "secret")
      (.seq (letters "api") (.seq (.opt (oneOf ['_',' ','-'])) (letters "key")))))
    (.seq (.star space) (.seq (oneOf [':','=']) (.seq (.star space) (.plus unspace)))))

-- \b\d{3}-\d{2}-\d{4}\b
def governmentIdentifier (isWord : Char → Bool) : Pattern Char :=
  .seq (.boundary isWord) (.seq (.repeated digit 3) (.seq (oneOf ['-']) (.seq (.repeated digit 2)
    (.seq (oneOf ['-']) (.seq (.repeated digit 4) (.boundary isWord))))))

namespace LocalGuardrail

-- isWord tells the word characters: str.isalnum() and the underscore.
def patterns (isWord : Char → Bool) : List (Pattern Char × String) :=
  [(credential isWord,"credential"),(governmentIdentifier isWord,"government_identifier")]

def blockedText : String := "Request blocked by safety policy."

def check (isWord : Char → Bool) (text : String) : GuardrailResult :=
  let reasons := ((patterns isWord).filter fun entry => search entry.1 text.toList).map Prod.snd
  if reasons ≠ [] then ⟨false,blockedText,reasons⟩ else ⟨true,text,[]⟩

end LocalGuardrail

def ascii (c : Char) : Bool := decide ('a' ≤ c ∧ c ≤ 'z' ∨ 'A' ≤ c ∧ c ≤ 'Z' ∨ '0' ≤ c ∧ c ≤ '9' ∨ c = '_')

example : (LocalGuardrail.check ascii "password=super-secret").reasons = ["credential"] ∧
    (LocalGuardrail.check ascii "my API-\u212aey : x").reasons = ["credential"] ∧
    (LocalGuardrail.check ascii "id 123-45-6789.").reasons = ["government_identifier"] ∧
    (LocalGuardrail.check ascii "id 1123-45-6789, passwords: no").allowed = true := by decide +kernel

theorem credential_needs (isWord : Char → Bool) : Needs (credential isWord) fun c => [':','='].contains c = true :=
  .second (.second (.second (.first .char)))

theorem governmentIdentifier_needs (isWord : Char → Bool) :
    Needs (governmentIdentifier isWord) fun c => (digitValue c).isSome = true :=
  .second (.first (.first .char))

theorem check_allowed {isWord : Char → Bool} {text : String} :
    (LocalGuardrail.check isWord text).allowed = true ↔
      ∀ entry ∈ LocalGuardrail.patterns isWord, search entry.1 text.toList = false := by
  unfold LocalGuardrail.check
  dsimp only
  split
  · rename_i found
    simp only [Bool.false_eq_true,false_iff]
    intro clean
    apply found
    rw [List.map_eq_nil_iff,List.filter_eq_nil_iff]
    intro entry member
    rw [clean entry member]
    exact Bool.false_ne_true
  · rename_i none
    rw [ne_eq,not_not,List.map_eq_nil_iff,List.filter_eq_nil_iff] at none
    simp only [true_iff]
    intro entry member
    simpa using none entry member

theorem check_safeText (isWord : Char → Bool) (text : String) :
    (LocalGuardrail.check isWord text).safeText =
      if (LocalGuardrail.check isWord text).allowed then text else LocalGuardrail.blockedText := by
  unfold LocalGuardrail.check
  dsimp only
  split <;> rfl

theorem blockedText_allowed (isWord : Char → Bool) :
    (LocalGuardrail.check isWord LocalGuardrail.blockedText).allowed = true := by
  apply check_allowed.mpr
  intro entry member
  simp only [LocalGuardrail.patterns,List.mem_cons,List.not_mem_nil,or_false] at member
  have plain : (LocalGuardrail.blockedText.toList.all fun c => !([':','='].contains c) && !(digitValue c).isSome) = true := by
    decide +kernel
  have unmarked (c : Char) (inside : c ∈ LocalGuardrail.blockedText.toList) :
      [':','='].contains c = false ∧ (digitValue c).isSome = false := by
    simpa only [Bool.and_eq_true,Bool.not_eq_true'] using List.all_eq_true.mp plain c inside
  by_contra found
  rw [Bool.not_eq_false] at found
  rcases member with rfl | rfl
  · obtain ⟨c,inside,mark⟩ := (credential_needs isWord).search found
    rw [(unmarked c inside).1] at mark
    cases mark
  · obtain ⟨c,inside,mark⟩ := (governmentIdentifier_needs isWord).search found
    rw [(unmarked c inside).2] at mark
    cases mark

theorem safeText_allowed (isWord : Char → Bool) (text : String) :
    (LocalGuardrail.check isWord (LocalGuardrail.check isWord text).safeText).allowed = true := by
  rw [check_safeText]
  split
  · assumption
  · exact blockedText_allowed isWord

end OpenModelOps.AgentPolicy
