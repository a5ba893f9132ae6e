import OpenModelOps.JsonBytes
import OpenModelOps.KeyedTable
import OpenModelOps.RunHistory

namespace OpenModelOps.AriaIntelligence
open JsonText KeyedTable PythonText RunHistory

-- A repeated key of an object keeps its last value.
mutual
def dictionary : Json ν → Json ν
  | .arr items => .arr (dictionaryItems items)
  | .obj fields => .obj (dictionaryFields fields)
  | leaf => leaf
def dictionaryItems : List (Json ν) → List (Json ν)
  | [] => []
  | item :: rest => dictionary item :: dictionaryItems rest
def dictionaryFields : List (Text × Json ν) → List (Text × Json ν)
  | [] => []
  | (key,value) :: rest =>
    if rest.any (fun entry => decide (entry.1 = key)) then dictionaryFields rest
    else (key,dictionary value) :: dictionaryFields rest
end

-- json.dumps(payload, sort_keys=True).
def dumps (number : ν → Text) (fields : List (Text × Json ν)) : Text :=
  write number (text ", ") (text ": ") (sortKeys (dictionary (.obj fields)))

def equals (value : Option (Json ν)) (s : String) : Bool :=
  match value with
  | some (.str t) => decide (t = text s)
  | _ => false

-- A decimal is false when it rounds to the float zero.
def nonzero : Number → Bool
  | .int n => decide (n ≠ 0)
  | .real q => decide (1 / 2 ^ 1075 < q ∨ q < -(1 / 2 ^ 1075))
  | _ => true

def truthy : Option (Json Number) → Bool
  | none => false
  | some .null => false
  | some (.bool value) => value
  | some (.num value) => nonzero value
  | some (.str value) => !value.isEmpty
  | some (.arr items) => !items.isEmpty
  | some (.obj fields) => !fields.isEmpty

-- The three components that are signed together.
structure Message where
  timestamp : String
  nonce : String
  body : List UInt8
  deriving DecidableEq

def Message.signedBytes (m : Message) : List UInt8 := encode m.timestamp ++ 0x2e :: (encode m.nonce ++ 0x2e :: m.body)

structure EvidenceRow where
  signalId : Text
  nonce : String
  receivedAt : String
  payload : Text

-- What the ingress takes from outside: the environment's secret, the HMAC with
-- its hexdigest, the text of a number in json.dumps, and the database driver.
-- bind is the text that a column holds for a value and holds whether a row
-- fits the columns; none and false are errors of the driver.
structure Settings where
  secret : String
  toleranceSeconds : Int := 300
  hmac : List UInt8 → List UInt8 → String
  numberText : Number → Text
  bind : Json Number → Option Text
  holds : EvidenceRow → Bool

def Settings.signature (settings : Settings) (m : Message) : String :=
  "sha256=" ++ settings.hmac (encode settings.secret) m.signedBytes

-- raised is any other exception, which becomes a 500.
inductive Failure where
  | verification (message : String)
  | raised
  deriving DecidableEq

def isAscii (s : String) : Bool := s.toList.all fun c => decide (c.toNat < 128)

def verify (settings : Settings) (now : Int) (m : Message) (signature : String) :
    Except Failure (List (Text × Json Number)) :=
  if settings.secret = "" ∨ m.timestamp = "" ∨ m.nonce = "" ∨ signature = "" then
    .error (.verification "signed ARIA headers are required")
  else match parseInt m.timestamp with
    | none => .error (.verification "invalid ARIA timestamp")
    | some observed =>
      if settings.toleranceSeconds < (now - observed).natAbs then
        .error (.verification "ARIA message is outside the replay window")
      -- compare_digest raises a TypeError on strings that are not ASCII
      else if (isAscii (settings.signature m) && isAscii signature) = false then .error .raised
      else if settings.signature m ≠ signature then .error (.verification "ARIA signature verification failed")
      else match loadsBytes m.body with
        | .error .jsonDecodeError => .error (.verification "ARIA payload is not valid JSON")
        | .error _ => .error .raised
        | .ok (.obj payload) =>
          if !equals (field payload (text "source")) "aria" || !equals (field payload (text "schema_version")) "1.0" ||
              !truthy (field payload (text "signal_id")) then
            .error (.verification "unsupported ARIA intelligence contract")
          else .ok payload
        | .ok _ => .error .raised

-- The table aria_incident_evidence, with its primary key and its other unique
-- column.
structure Evidence where
  table : Table EvidenceRow.signalId
  nonces : (table.rows.map EvidenceRow.nonce).Nodup

def Evidence.empty : Evidence := ⟨Table.empty,.nil⟩

def Evidence.insert (evidence : Evidence) (row : EvidenceRow) : Option Evidence :=
  if fresh : row.signalId ∉ evidence.table.rows.map EvidenceRow.signalId ∧
      row.nonce ∉ evidence.table.rows.map EvidenceRow.nonce then
    some ⟨⟨evidence.table.rows ++ [row],snoc_unique evidence.table.unique fresh.1⟩,snoc_unique evidence.nonces fresh.2⟩
  else none

-- AriaIntelligenceStore.record, with the row that it inserted.
def record (settings : Settings) (evidence : Evidence) (payload : List (Text × Json Number)) (nonce receivedAt : String) :
    Except Failure (Evidence × EvidenceRow) :=
  match (field payload (text "signal_id")).bind settings.bind with
  | none => .error .raised
  | some signalId =>
    let row : EvidenceRow := ⟨signalId,nonce,receivedAt,dumps settings.numberText payload⟩
    if settings.holds row = false then .error .raised
    else match evidence.insert row with
      | none => .error (.verification "ARIA signal or nonce was already accepted")
      | some next => .ok (next,row)

structure Request where
  message : Message
  signature : String

def receive (settings : Settings) (now : Int) (receivedAt : String) (evidence : Evidence) (request : Request) :
    Except Failure (Evidence × EvidenceRow) :=
  match verify settings now request.message request.signature with
  | .error failure => .error failure
  | .ok payload => record settings evidence payload request.message.nonce receivedAt

def Failure.response : Failure → Nat × String
  | .verification message =>
    (if message.toList.tails.any ("signature".toList.isPrefixOf ·) then 401 else 409,message)
  | .raised => (500,"Internal Server Error")

structure Recorded where
  message : Message
  row : EvidenceRow

structure State where
  sent : List Message
  evidence : Evidence
  log : List Recorded

def initial : State := ⟨[],.empty,[]⟩

-- The sender signs a message, or anyone sends a request. A request that fails
-- leaves the evidence as it is.
inductive Event where
  | publish (message : Message)
  | request (now : Int) (receivedAt : String) (request : Request)

def step (settings : Settings) (s : State) : Event → Option State
  | .publish message => some {s with sent := s.sent ++ [message]}
  | .request now receivedAt request => some (match receive settings now receivedAt s.evidence request with
    | .error _ => s
    | .ok (evidence,row) => {s with evidence := evidence, log := s.log ++ [⟨request.message,row⟩]})

theorem verify_parts (verified : verify settings now m signature = .ok payload) :
    (∃ observed, parseInt m.timestamp = some observed) ∧ signature = settings.signature m ∧
      loadsBytes m.body = .ok (.obj payload) := by
  unfold verify at verified
  split at verified
  · cases verified
  split at verified
  · cases verified
  rename_i observed parsed
  split at verified
  · cases verified
  split at verified
  · cases verified
  split at verified
  · cases verified
  rename_i matching
  split at verified
  · cases verified
  · cases verified
  · rename_i found loaded
    split at verified
    · cases verified
    · cases Except.ok.inj verified
      exact ⟨⟨observed,parsed⟩,(not_not.mp matching).symm,loaded⟩
  · cases verified

theorem record_parts (done : record settings evidence payload nonce receivedAt = .ok (next,row)) :
    next.table.rows = evidence.table.rows ++ [row] ∧ row.nonce = nonce ∧
      row.payload = dumps settings.numberText payload := by
  unfold record at done
  split at done
  · cases done
  dsimp only at done
  split at done
  · cases done
  split at done
  · cases done
  rename_i inserted
  cases Except.ok.inj done
  unfold Evidence.insert at inserted
  split at inserted
  · cases Option.some.inj inserted
    exact ⟨rfl,rfl,rfl⟩
  · cases inserted

theorem receive_parts (done : receive settings now receivedAt evidence request = .ok (next,row)) :
    ∃ payload, verify settings now request.message request.signature = .ok payload ∧
      next.table.rows = evidence.table.rows ++ [row] ∧ row.nonce = request.message.nonce ∧
      row.payload = dumps settings.numberText payload := by
  unfold receive at done
  split at done
  · cases done
  · rename_i payload verified
    exact ⟨payload,verified,record_parts done⟩

end OpenModelOps.AriaIntelligence
