import OpenModelOps.AriaReplay
import OpenModelOps.JsonNesting

namespace OpenModelOps.AriaRefusal
open JsonText PythonText AriaIntelligence
variable {settings : Settings} {m : Message}

inductive Raised where
  | intelligenceVerificationError (message : String)
  | typeError | unicodeDecodeError | valueError | recursionError | attributeError
  deriving DecidableEq

def Raised.failure : Raised → Failure
  | .intelligenceVerificationError message => .verification message
  | _ => .raised

inductive LoadError where
  | unicodeDecodeError | jsonDecodeError | valueError | recursionError
  deriving DecidableEq

-- json.loads of bytes, on a stack that has room for `depth` open brackets.
def loadsWithin (depth : Nat) (bytes : List UInt8) : Except LoadError (Json Number) :=
  match decodeBytes bytes (detectEncoding bytes) with
  | none => .error .unicodeDecodeError
  | some cs => match JsonNesting.loads maxStrDigits depth cs with
    | .error .malformed => .error .jsonDecodeError
    | .error .longInteger => .error .valueError
    | .error .tooDeep => .error .recursionError
    | .ok value => .ok value

-- verify up to the signature.
def authenticate (settings : Settings) (now : Int) (m : Message) (signature : String) : Except Raised Unit :=
  if settings.secret = "" ∨ m.timestamp = "" ∨ m.nonce = "" ∨ signature = "" then
    .error (.intelligenceVerificationError "signed ARIA headers are required")
  else match parseInt m.timestamp with
    | none => .error (.intelligenceVerificationError "invalid ARIA timestamp")
    | some observed =>
      if settings.toleranceSeconds < (now - observed).natAbs then
        .error (.intelligenceVerificationError "ARIA message is outside the replay window")
      -- hmac.compare_digest
      else if (isAscii (settings.signature m) && isAscii signature) = false then .error .typeError
      else if settings.signature m ≠ signature then
        .error (.intelligenceVerificationError "ARIA signature verification failed")
      else .ok ()

def supported (payload : List (Text × Json Number)) : Bool :=
  equals (field payload (text "source")) "aria" && equals (field payload (text "schema_version")) "1.0" &&
    truthy (field payload (text "signal_id"))

-- The rest of verify. Only a dict has a get.
def readPayload (depth : Nat) (body : List UInt8) : Except Raised (List (Text × Json Number)) :=
  match loadsWithin depth body with
  | .error .jsonDecodeError => .error (.intelligenceVerificationError "ARIA payload is not valid JSON")
  | .error .unicodeDecodeError => .error .unicodeDecodeError
  | .error .valueError => .error .valueError
  | .error .recursionError => .error .recursionError
  | .ok (.obj payload) =>
    if supported payload then .ok payload
    else .error (.intelligenceVerificationError "unsupported ARIA intelligence contract")
  | .ok _ => .error .attributeError

def verify (depth : Nat) (settings : Settings) (now : Int) (m : Message) (signature : String) :
    Except Raised (List (Text × Json Number)) :=
  match authenticate settings now m signature with
  | .error raised => .error raised
  | .ok _ => readPayload depth m.body

-- receive_aria_intelligence.
def receive (depth : Nat) (settings : Settings) (now : Int) (receivedAt : String) (evidence : Evidence)
    (request : Request) : Except Failure (Evidence × EvidenceRow) :=
  match verify depth settings now request.message request.signature with
  | .error raised => .error raised.failure
  | .ok payload => record settings evidence payload request.message.nonce receivedAt

structure Timely (settings : Settings) (now : Int) (m : Message) (signature : String) : Prop where
  headed : ¬ (settings.secret = "" ∨ m.timestamp = "" ∨ m.nonce = "" ∨ signature = "")
  dated : ∃ observed, parseInt m.timestamp = some observed ∧ (now - observed).natAbs ≤ settings.toleranceSeconds

structure Contract (settings : Settings) (now : Int) (m : Message) (signature : String)
    (payload : List (Text × Json Number)) : Prop where
  timely : Timely settings now m signature
  signed : signature = settings.signature m
  source : equals (field payload (text "source")) "aria" = true
  version : equals (field payload (text "schema_version")) "1.0" = true
  named : truthy (field payload (text "signal_id")) = true

-- verify returns a payload under the contract or raises its own error, and a
-- request that it does not accept is answered with 401 or 409.
structure Promised (depth : Nat) (settings : Settings) (now : Int) (m : Message) (signature : String) : Prop where
  outcome : (∃ payload, verify depth settings now m signature = .ok payload ∧ Contract settings now m signature payload) ∨
    ∃ message, verify depth settings now m signature = .error (.intelligenceVerificationError message)
  answered : ∀ raised, verify depth settings now m signature = .error raised → ∀ receivedAt evidence,
    ∃ failure, receive depth settings now receivedAt evidence ⟨m,signature⟩ = .error failure ∧
      (failure.response.1 = 401 ∨ failure.response.1 = 409)

-- The body is a JSON object, or its first fault is one of syntax.
def readable (depth : Nat) (body : List UInt8) : Bool :=
  match loadsWithin depth body with
  | .ok (.obj _) => true
  | .ok _ => false
  | .error fault => decide (fault = .jsonDecodeError)

structure Handled (depth : Nat) (settings : Settings) (now : Int) (m : Message) (signature : String) : Prop where
  ascii : Timely settings now m signature → isAscii signature = true
  readable : Timely settings now m signature → signature = settings.signature m → readable depth m.body = true

def IsRefusal (raised : Raised) : Prop := ∃ message, raised = .intelligenceVerificationError message

theorem isAscii_append (left right : String) : isAscii (left ++ right) = (isAscii left && isAscii right) := by
  simp [isAscii,String.toList_append]

theorem signature_ascii (hexadecimal : ∀ key bytes, isAscii (settings.hmac key bytes) = true) (m : Message) :
    isAscii (settings.signature m) = true := by
  rw [Settings.signature,isAscii_append,hexadecimal]
  decide

inductive Checked (settings : Settings) (now : Int) (m : Message) (signature : String) : Except Raised Unit → Prop where
  | untimely (message : String) : ¬ Timely settings now m signature →
      Checked settings now m signature (.error (.intelligenceVerificationError message))
  | strange : Timely settings now m signature → isAscii signature = false →
      Checked settings now m signature (.error .typeError)
  | forged (message : String) : isAscii signature = true → signature ≠ settings.signature m →
      Checked settings now m signature (.error (.intelligenceVerificationError message))
  | authentic : Timely settings now m signature → isAscii signature = true → signature = settings.signature m →
      Checked settings now m signature (.ok ())

theorem authenticate_checked (hexadecimal : ∀ key bytes, isAscii (settings.hmac key bytes) = true) (now : Int)
    (m : Message) (signature : String) :
    Checked settings now m signature (authenticate settings now m signature) := by
  unfold authenticate
  split
  · rename_i missing
    exact .untimely _ fun timely => timely.headed missing
  rename_i headed
  split
  · rename_i unparsed
    refine .untimely _ fun timely => ?_
    obtain ⟨_,parsed,_⟩ := timely.dated
    rw [unparsed] at parsed
    cases parsed
  rename_i observed parsed
  split
  · rename_i late
    refine .untimely _ fun timely => ?_
    obtain ⟨other,again,near⟩ := timely.dated
    cases Option.some.inj (parsed.symm.trans again)
    exact absurd near (not_le.mpr late)
  rename_i near
  have timely : Timely settings now m signature := ⟨headed,observed,parsed,not_lt.mp near⟩
  rw [signature_ascii hexadecimal m,Bool.true_and]
  split
  · rename_i strange
    exact .strange timely strange
  rename_i ascii
  rw [Bool.not_eq_false] at ascii
  split
  · rename_i other
    exact .forged _ ascii (Ne.symm other)
  · rename_i same
    exact .authentic timely ascii (not_not.mp same).symm

inductive Loaded (depth : Nat) (body : List UInt8) : Except Raised (List (Text × Json Number)) → Prop where
  | accepted (payload : List (Text × Json Number)) : readable depth body = true → supported payload = true →
      Loaded depth body (.ok payload)
  | refused (message : String) : readable depth body = true →
      Loaded depth body (.error (.intelligenceVerificationError message))
  | broken (raised : Raised) : readable depth body = false → ¬ IsRefusal raised → Loaded depth body (.error raised)

theorem readPayload_loaded (depth : Nat) (body : List UInt8) : Loaded depth body (readPayload depth body) := by
  have other : ∀ {raised : Raised}, (∀ message, raised ≠ .intelligenceVerificationError message) → ¬ IsRefusal raised := by
    intro raised apart refusal
    obtain ⟨message,same⟩ := refusal
    exact apart message same
  unfold readPayload
  split
  · rename_i loaded
    exact .refused _ (by simp [readable,loaded])
  · rename_i loaded
    exact .broken _ (by simp [readable,loaded]) (other nofun)
  · rename_i loaded
    exact .broken _ (by simp [readable,loaded]) (other nofun)
  · rename_i loaded
    exact .broken _ (by simp [readable,loaded]) (other nofun)
  · rename_i payload loaded
    split
    · rename_i accepted
      exact .accepted payload (by simp [readable,loaded]) accepted
    · exact .refused _ (by simp [readable,loaded])
  · rename_i value notObject loaded
    exact .broken _ (by simp [readable,loaded]) (other nofun)

theorem refused_answered {raised : Raised} (failed : verify depth settings now m signature = .error raised)
    (receivedAt : String) (evidence : Evidence) :
    (∃ failure, receive depth settings now receivedAt evidence ⟨m,signature⟩ = .error failure ∧
      (failure.response.1 = 401 ∨ failure.response.1 = 409)) ↔ IsRefusal raised := by
  have done : receive depth settings now receivedAt evidence ⟨m,signature⟩ = .error raised.failure := by
    simp only [receive,failed]
  constructor
  · intro answered
    obtain ⟨failure,same,status⟩ := answered
    cases Except.error.inj (done.symm.trans same)
    cases raised with
    | intelligenceVerificationError message => exact ⟨message,rfl⟩
    | _ => exact absurd status (by decide)
  · intro refusal
    obtain ⟨message,rfl⟩ := refusal
    refine ⟨_,done,?_⟩
    simp only [Raised.failure,Failure.response]
    split
    · exact .inl rfl
    · exact .inr rfl

theorem promised_iff (depth : Nat) (settings : Settings) (now : Int) (m : Message) (signature : String) :
    Promised depth settings now m signature ↔
      (∃ payload, verify depth settings now m signature = .ok payload ∧ Contract settings now m signature payload) ∨
      ∃ message, verify depth settings now m signature = .error (.intelligenceVerificationError message) := by
  constructor
  · exact fun promised => promised.outcome
  · intro outcome
    refine ⟨outcome,?_⟩
    intro raised failed receivedAt evidence
    refine (refused_answered failed receivedAt evidence).mpr ?_
    rcases outcome with ⟨payload,done,_⟩ | ⟨message,done⟩
    · rw [failed] at done
      cases done
    · exact ⟨message,Except.error.inj (failed.symm.trans done)⟩

theorem verify_promised_iff (depth : Nat) (settings : Settings) (now : Int) (m : Message) (signature : String)
    (hexadecimal : ∀ key bytes, isAscii (settings.hmac key bytes) = true) :
    Promised depth settings now m signature ↔ Handled depth settings now m signature := by
  rw [promised_iff]
  have checked := authenticate_checked hexadecimal now m signature
  have loaded := readPayload_loaded depth m.body
  unfold verify
  generalize authenticate settings now m signature = outcome at checked
  cases checked with
  | untimely message late =>
    refine iff_of_true (.inr ⟨message,rfl⟩) ⟨?_,?_⟩
    · exact fun timely => absurd timely late
    · exact fun timely => absurd timely late
  | strange timely strange =>
    refine iff_of_false ?_ ?_
    · simp
    · intro handled
      rw [handled.ascii timely] at strange
      cases strange
  | forged message ascii forged =>
    refine iff_of_true (.inr ⟨message,rfl⟩) ⟨fun _ => ascii,?_⟩
    exact fun _ same => absurd same forged
  | authentic timely ascii same =>
    generalize readPayload depth m.body = result at loaded
    cases loaded with
    | accepted payload loads accepted =>
      simp only [supported,Bool.and_eq_true] at accepted
      obtain ⟨⟨source,version⟩,named⟩ := accepted
      refine iff_of_true (.inl ⟨payload,rfl,timely,same,source,version,named⟩) ⟨fun _ => ascii,fun _ _ => loads⟩
    | refused message loads =>
      exact iff_of_true (.inr ⟨message,rfl⟩) ⟨fun _ => ascii,fun _ _ => loads⟩
    | broken raised unreadable other =>
      refine iff_of_false ?_ ?_
      · intro outcome
        rcases outcome with ⟨payload,done,_⟩ | ⟨message,done⟩
        · cases done
        · exact other ⟨message,Except.error.inj done⟩
      · intro handled
        rw [handled.readable timely same] at unreadable
        cases unreadable

theorem loadsWithin_ok (loaded : loadsWithin depth bytes = .ok value) : loadsBytes bytes = .ok value := by
  unfold loadsWithin at loaded
  cases decoded : decodeBytes bytes (detectEncoding bytes) with
  | none => rw [decoded] at loaded; cases loaded
  | some cs =>
    rw [decoded] at loaded
    dsimp only at loaded
    split at loaded
    · cases loaded
    · cases loaded
    · cases loaded
    · rename_i found read
      cases Except.ok.inj loaded
      have plain := JsonNesting.loads_ok read
      unfold loadsText at plain
      split at plain
      · cases plain
      · rename_i other raw
        split at plain
        · rename_i short
          cases Option.some.inj plain
          simp only [loadsBytes,decoded,raw,if_pos short]
        · cases plain

theorem verify_plain (hexadecimal : ∀ key bytes, isAscii (settings.hmac key bytes) = true)
    (verified : verify depth settings now m signature = .ok payload) :
    AriaIntelligence.verify settings now m signature = .ok payload := by
  unfold verify at verified
  have checked := authenticate_checked hexadecimal now m signature
  generalize authenticate settings now m signature = outcome at checked verified
  cases checked with
  | untimely _ _ => cases verified
  | strange _ _ => cases verified
  | forged _ _ _ => cases verified
  | authentic timely ascii same =>
    dsimp only at verified
    unfold readPayload at verified
    split at verified
    · cases verified
    · cases verified
    · cases verified
    · cases verified
    · rename_i fields loaded
      split at verified
      · rename_i accepted
        cases Except.ok.inj verified
        obtain ⟨observed,parsed,near⟩ := timely.dated
        simp only [supported,Bool.and_eq_true] at accepted
        obtain ⟨⟨source,version⟩,named⟩ := accepted
        unfold AriaIntelligence.verify
        rw [if_neg timely.headed,parsed]
        dsimp only
        rw [if_neg (not_lt.mpr near),signature_ascii hexadecimal m,ascii,if_neg (by simp),if_neg (by simp [same]),
          loadsWithin_ok loaded]
        simp [source,version,named]
      · cases verified
    · cases verified

theorem live_hexadecimal (key bytes : List UInt8) : isAscii (AriaReplay.live.hmac key bytes) = true := by
  change isAscii "22a38c3fcc18328e3dc0b08eebdbef0c3b43ab744736ab7517f1b20d48ea760c" = true
  decide +kernel

theorem alert_promised : Promised 100 AriaReplay.live 1767225610 AriaReplay.alert
    (AriaReplay.live.signature AriaReplay.alert) := by
  have loads : readable 100 AriaReplay.alert.body = true := by decide +kernel
  exact (verify_promised_iff 100 AriaReplay.live 1767225610 AriaReplay.alert _ live_hexadecimal).mpr
    ⟨fun _ => signature_ascii live_hexadecimal _,fun _ _ => loads⟩

theorem strange_signature_raises : ¬ ∀ (depth : Nat) (settings : Settings) (now : Int) (m : Message) (signature : String),
    (∀ key bytes, isAscii (settings.hmac key bytes) = true) → Promised depth settings now m signature := by
  intro holds
  have raised : authenticate AriaReplay.live 1767225610 AriaReplay.alert "sha256=\u00e9" = .error .typeError := by
    decide +kernel
  have failed : verify 100 AriaReplay.live 1767225610 AriaReplay.alert "sha256=\u00e9" = .error .typeError := by
    rw [verify,raised]
  rcases (holds 100 AriaReplay.live 1767225610 AriaReplay.alert "sha256=\u00e9" live_hexadecimal).outcome with
    ⟨payload,done,_⟩ | ⟨message,done⟩
  · rw [failed] at done
    cases done
  · rw [failed] at done
    cases done

end OpenModelOps.AriaRefusal
