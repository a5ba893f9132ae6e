import OpenModelOps.AriaIntelligence
import OpenModelOps.Raising

namespace OpenModelOps.AriaReplay
open AriaIntelligence JsonText KeyedTable PythonText Raising RunHistory
variable {settings : Settings} {s next : State} {m other : Message}

structure Accepted (m : Message) : Prop where
  dated : ∃ observed, parseInt m.timestamp = some observed
  object : ∃ payload, loadsBytes m.body = .ok (.obj payload)

theorem verify_accepted (verified : verify settings now m signature = .ok payload) : Accepted m := by
  obtain ⟨dated,_,loaded⟩ := verify_parts verified
  exact ⟨dated,payload,loaded⟩

theorem cut_cases {mark : UInt8} (same : left ++ mark :: rest = right ++ mark :: more) :
    (left = right ∧ rest = more) ∨ (∃ part, right = left ++ mark :: part ∧ rest = part ++ mark :: more) ∨
      ∃ part, left = right ++ mark :: part ∧ more = part ++ mark :: rest := by
  rcases List.append_eq_append_iff.mp same with ⟨part,rfl,split⟩ | ⟨part,rfl,split⟩
  · cases part with
    | nil => exact .inl ⟨by simp,(List.cons.inj split).2⟩
    | cons c part =>
      obtain ⟨rfl,after⟩ := List.cons.inj split
      exact .inr (.inl ⟨part,rfl,after⟩)
  · cases part with
    | nil => exact .inl ⟨by simp,(List.cons.inj split).2.symm⟩
    | cons c part =>
      obtain ⟨rfl,after⟩ := List.cons.inj split
      exact .inr (.inr ⟨part,rfl,after⟩)

theorem body_unique (utf8 : Utf8 m.body) (otherUtf8 : Utf8 other.body) (accepted : Accepted m)
    (json : ∃ value, loadsBytes other.body = .ok value) {lead more : List UInt8}
    (same : lead ++ 0x2e :: m.body = more ++ 0x2e :: other.body) : lead = more ∧ m.body = other.body := by
  obtain ⟨payload,loaded⟩ := accepted.object
  obtain ⟨value,read⟩ := json
  rcases cut_cases same with equal | ⟨part,_,cut⟩ | ⟨part,_,cut⟩
  · exact equal
  · rw [cut] at loaded utf8
    exact (loadsBytes_uncuttable utf8 otherUtf8 loaded read (.inl ⟨payload,rfl⟩)).elim
  · rw [cut] at read otherUtf8
    exact (loadsBytes_uncuttable otherUtf8 utf8 read loaded (.inr ⟨payload,rfl⟩)).elim

theorem first_cut {dot : UInt8} (absent : dot ∉ left) (also : dot ∉ right)
    (same : left ++ dot :: rest = right ++ dot :: more) : left = right ∧ rest = more := by
  rcases cut_cases same with equal | ⟨part,rfl,_⟩ | ⟨part,rfl,_⟩
  · exact equal
  · exact absurd (by simp) also
  · exact absurd (by simp) absent

theorem timestamp_dotless (accepted : Accepted m) : 0x2e ∉ encode m.timestamp := by
  obtain ⟨observed,parsed⟩ := accepted.dated
  exact fun member => parseInt_no_dot parsed (encode_dot member)

theorem accepted_unique (utf8 : Utf8 m.body) (otherUtf8 : Utf8 other.body) (accepted : Accepted m)
    (also : Accepted other) (same : m.signedBytes = other.signedBytes) : m = other := by
  have json : ∃ value, loadsBytes other.body = .ok value := by
    obtain ⟨payload,loaded⟩ := also.object
    exact ⟨_,loaded⟩
  have cuts : (encode m.timestamp ++ 0x2e :: encode m.nonce) ++ 0x2e :: m.body =
      (encode other.timestamp ++ 0x2e :: encode other.nonce) ++ 0x2e :: other.body := by
    simpa [Message.signedBytes] using same
  obtain ⟨heads,bodies⟩ := body_unique utf8 otherUtf8 accepted json cuts
  obtain ⟨timestamps,nonces⟩ := first_cut (timestamp_dotless accepted) (timestamp_dotless also) heads
  obtain ⟨timestamp,nonce,body⟩ := m
  obtain ⟨timestamp',nonce',body'⟩ := other
  cases encode_injective timestamps
  cases encode_injective nonces
  cases bodies
  rfl

def Event.message : Event → Message
  | .publish message => message
  | .request _ _ request => request.message

-- The HMAC is unforgeable: a signature that verifies is one the sender issued.
def Unforged (settings : Settings) (s : State) : Event → Prop
  | .publish _ => True
  | .request _ _ request => request.signature = settings.signature request.message →
      request.signature ∈ s.sent.map settings.signature

instance (settings : Settings) (s : State) : (event : Event) → Decidable (Unforged settings s event)
  | .publish _ => .isTrue trivial
  | .request _ _ request => inferInstanceAs (Decidable (request.signature = settings.signature request.message → _))

-- No two of the byte strings that are signed or presented share a tag.
def CollisionFree (settings : Settings) (events : List Event) : Prop :=
  ∀ left ∈ events, ∀ right ∈ events,
    settings.signature (Event.message left) = settings.signature (Event.message right) →
      (Event.message left).signedBytes = (Event.message right).signedBytes

instance (settings : Settings) (events : List Event) : Decidable (CollisionFree settings events) :=
  inferInstanceAs (Decidable (∀ left ∈ events, ∀ right ∈ events, _ → _))

-- Every body is UTF-8, and the sender's bodies are JSON.
structure Bodies (events : List Event) : Prop where
  utf8 : ∀ event ∈ events, Utf8 (Event.message event).body
  json : ∀ m, .publish m ∈ events → ∃ value, loadsBytes m.body = .ok value

structure Genuine (settings : Settings) (s : State) : Prop where
  rows : s.evidence.table.rows = s.log.map Recorded.row
  once : ∀ m : Message, (s.log.map fun entry => entry.message.signedBytes).count m.signedBytes ≤ 1
  signed : ∀ entry ∈ s.log, ∃ m ∈ s.sent, m.signedBytes = entry.message.signedBytes ∧
    ∃ payload, loadsBytes m.body = .ok (.obj payload) ∧ entry.row.payload = dumps settings.numberText payload

structure Sound (settings : Settings) (events : List Event) (s : State) : Prop where
  rows : s.evidence.table.rows = s.log.map Recorded.row
  sent : ∀ m ∈ s.sent, .publish m ∈ events
  nonces : ∀ entry ∈ s.log, entry.row.nonce = entry.message.nonce
  accepted : ∀ entry ∈ s.log, Accepted entry.message ∧ Utf8 entry.message.body
  signed : ∀ entry ∈ s.log, ∃ m ∈ s.sent, m.signedBytes = entry.message.signedBytes ∧
    ∃ payload, loadsBytes m.body = .ok (.obj payload) ∧ entry.row.payload = dumps settings.numberText payload

theorem initial_sound (settings : Settings) (events : List Event) : Sound settings events initial :=
  ⟨rfl,fun _ member => (nomatch member),fun _ member => (nomatch member),fun _ member => (nomatch member),
    fun _ member => (nomatch member)⟩

theorem Sound.published (sound : Sound settings events s) (listed : .publish m ∈ events) :
    Sound settings events {s with sent := s.sent ++ [m]} := by
  refine ⟨sound.rows,?_,sound.nonces,sound.accepted,?_⟩
  · intro message member
    rcases List.mem_append.mp member with old | new
    · exact sound.sent message old
    · cases List.mem_singleton.mp new
      exact listed
  · intro entry member
    obtain ⟨message,inside,facts⟩ := sound.signed entry member
    exact ⟨message,List.mem_append_left _ inside,facts⟩

theorem Sound.received (sound : Sound settings events s) (collisionFree : CollisionFree settings events)
    (bodies : Bodies events) (listed : .request now receivedAt request ∈ events)
    (unforged : Unforged settings s (.request now receivedAt request))
    (done : receive settings now receivedAt s.evidence request = .ok (evidence,row)) :
    Sound settings events {s with evidence := evidence, log := s.log ++ [⟨request.message,row⟩]} := by
  obtain ⟨payload,verified,rows,nonce,recorded⟩ := receive_parts done
  obtain ⟨_,signature,loaded⟩ := verify_parts verified
  have accepted := verify_accepted verified
  have utf8 : Utf8 request.message.body := bodies.utf8 _ listed
  obtain ⟨message,sent,issued⟩ := List.mem_map.mp (unforged signature)
  have published := sound.sent message sent
  have bytes : message.signedBytes = request.message.signedBytes :=
    collisionFree (.publish message) published (.request now receivedAt request) listed (issued.trans signature)
  have cuts : (encode request.message.timestamp ++ 0x2e :: encode request.message.nonce) ++ 0x2e :: request.message.body =
      (encode message.timestamp ++ 0x2e :: encode message.nonce) ++ 0x2e :: message.body := by
    simpa [Message.signedBytes] using bytes.symm
  obtain ⟨_,body⟩ := body_unique utf8 (bodies.utf8 _ published) accepted (bodies.json message published) cuts
  refine ⟨by rw [rows,sound.rows]; simp,sound.sent,?_,?_,?_⟩
  · intro entry member
    rcases List.mem_append.mp member with old | new
    · exact sound.nonces entry old
    · cases List.mem_singleton.mp new
      exact nonce
  · intro entry member
    rcases List.mem_append.mp member with old | new
    · exact sound.accepted entry old
    · cases List.mem_singleton.mp new
      exact ⟨accepted,utf8⟩
  · intro entry member
    rcases List.mem_append.mp member with old | new
    · exact sound.signed entry old
    · cases List.mem_singleton.mp new
      exact ⟨message,sent,bytes,payload,body ▸ loaded,recorded⟩

theorem step_sound (collisionFree : CollisionFree settings events) (bodies : Bodies events)
    (sound : Sound settings events s) (meets : Unforged settings s event ∧ event ∈ events)
    (taken : step settings s event = some next) : Sound settings events next := by
  cases event with
  | publish m =>
    cases Option.some.inj taken
    exact sound.published meets.2
  | request now receivedAt request =>
    cases Option.some.inj taken
    split
    · exact sound
    · rename_i done
      exact sound.received collisionFree bodies meets.2 meets.1 done

-- The unique nonces carry over to the signed bytes, because equal bytes have
-- equal nonces.
theorem Sound.genuine (sound : Sound settings events s) : Genuine settings s := by
  refine ⟨sound.rows,?_,sound.signed⟩
  have nonces : (s.log.map fun entry => entry.message.nonce).Nodup := by
    have unique := s.evidence.nonces
    rw [sound.rows,List.map_map] at unique
    rwa [List.map_congr_left fun entry member => (sound.nonces entry member).symm]
  have bytes : (s.log.map fun entry => entry.message.signedBytes).Nodup := by
    refine List.pairwise_map.mpr ((List.pairwise_map.mp nonces).imp_of_mem ?_)
    intro left right inLeft inRight apart same
    obtain ⟨accepted,utf8⟩ := sound.accepted left inLeft
    obtain ⟨also,otherUtf8⟩ := sound.accepted right inRight
    exact apart (congrArg Message.nonce (accepted_unique utf8 otherUtf8 accepted also same))
  exact fun m => List.nodup_iff_count_le_one.mp bytes _

theorem messages_uncut_unreplayed (settings : Settings) :
    (∀ (left right : Message) (now later : Int) (signature other : String) (payload found : List (Text × Json Number)),
      verify settings now left signature = .ok payload → verify settings later right other = .ok found →
      Utf8 left.body → Utf8 right.body → left.signedBytes = right.signedBytes → left = right) ∧
    (∀ (events : List Event) (s : State), Runs (step settings) initial events s →
      Throughout (step settings) (Unforged settings) initial events → CollisionFree settings events → Bodies events →
      Genuine settings s) := by
  constructor
  · intro left right now later signature other payload found verified also utf8 otherUtf8 same
    exact accepted_unique utf8 otherUtf8 (verify_accepted verified) (verify_accepted also) same
  · intro events s path unforged collisionFree bodies
    have meets : Throughout (step settings) (fun s event => Unforged settings s event ∧ event ∈ events) initial events :=
      fun earlier event later middle split run => ⟨unforged earlier event later middle split run,by simp [split]⟩
    exact (path.invariant_under (step_sound collisionFree bodies) meets (initial_sound settings events)).genuine

def alert : Message where
  timestamp := "1767225600"
  nonce := "n.1"
  body := encode ("\x7b\"schema_version\":\"1.0\",\"signal_id\":\"signal-1\",\"source\":\"aria\"," ++
    "\"summary\":\"p95 is 1.5 s\"\x7d")

-- The same signed bytes, cut at the first dot of the nonce.
def recut : Message := ⟨"1767225600","n",encode "1." ++ alert.body⟩

-- The tag is the HMAC-SHA256 of the signed bytes above.
def live : Settings where
  secret := "secret"
  hmac _ _ := "22a38c3fcc18328e3dc0b08eebdbef0c3b43ab744736ab7517f1b20d48ea760c"
  numberText := fun
    | .int n => intText n
    | _ => []
  bind := fun
    | .str t => some t
    | _ => none
  holds _ := true

def replayed : List Event :=
  [.publish alert,.request 1767225610 "2026-01-01T00:00:10+00:00" ⟨alert,live.signature alert⟩,
    .request 1767225620 "2026-01-01T00:00:20+00:00" ⟨alert,live.signature alert⟩,
    .request 1767225630 "2026-01-01T00:00:30+00:00" ⟨recut,live.signature alert⟩]

theorem messages_uncut_unreplayed_alert : (∃ s, Runs (step live) initial replayed s ∧ s.log.length = 1 ∧
      Genuine live s) ∧
    ∃ payload, verify live 1767225610 alert (live.signature alert) = .ok payload ∧
      ∀ other later signature found, verify live later other signature = .ok found → Utf8 other.body →
        alert.signedBytes = other.signedBytes → alert = other := by
  have counted : (consume (step live) initial replayed).map (fun s => s.log.length) = some 1 := by decide +kernel
  obtain ⟨s,consumed,single⟩ := Option.map_eq_some_iff.mp counted
  have path := consume_exact.mp consumed
  have unforged : Throughout (step live) (Unforged live) initial replayed := by decide +kernel
  have collisionFree : CollisionFree live replayed := by decide +kernel
  have utf8 : Utf8 alert.body := by decide +kernel
  have recutUtf8 : Utf8 recut.body := by decide +kernel
  have passes : (verify live 1767225610 alert (live.signature alert)).isOk = true := by decide +kernel
  obtain ⟨payload,verified⟩ := isOk_iff.mp passes
  have bodies : Bodies replayed := by
    refine ⟨?_,?_⟩
    · simp only [replayed,List.forall_mem_cons,Event.message]
      exact ⟨utf8,utf8,utf8,recutUtf8,by simp⟩
    · intro m published
      have same : m = alert := by simpa [replayed] using published
      subst same
      exact ⟨_,(verify_parts verified).2.2⟩
  have genuine := (messages_uncut_unreplayed live).2 replayed s path unforged collisionFree bodies
  refine ⟨⟨s,path,single,genuine⟩,payload,verified,?_⟩
  intro other later signature found also otherUtf8 same
  exact (messages_uncut_unreplayed live).1 alert other _ _ _ _ payload found verified also utf8 otherUtf8 same

end OpenModelOps.AriaReplay
