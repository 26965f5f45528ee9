import EntityGen.Proofs.Json.Recognition
import EntityGen.Proofs.Schema.Declaration
import EntityGen.Proofs.Web.Address

/-! What a failed call is put down to. -/

namespace EntityGen

open Value

/-- The classes of exceptions that a call tells apart. -/
inductive ErrorClass
  | timeout
  | connection
  | status
  /-- Something is wrong with a value, in the request or in the response. -/
  | value
  | request
  deriving DecidableEq

namespace ErrorClass

/-- The order in which they are looked for. -/
def all : List ErrorClass := [.timeout, .connection, .status, .value, .request]

def requestFault (reason : String) : ErrorClass → RequestFault
  | .timeout => .timeout
  | .connection => .connection
  | .status => .status
  | .value => .value
  | .request => .other reason

/-- What is reported. -/
def transportFault (cluster reason : String) : ErrorClass → TransportFault
  | .timeout => .timedOut
  | .connection => .unreachable cluster
  | .status => .status none
  | .value => .notJson
  | .request => .request reason

end ErrorClass

/-- An exception that comes of a request. It may be of several classes. -/
structure RequestError where
  isOf : ErrorClass → Bool
  text : String
  isOf_request : isOf .request = true

/-- The first class that an exception is of. -/
def RequestError.blamed (e : RequestError) : ErrorClass := (ErrorClass.all.find? e.isOf).getD .request

theorem RequestError.blamed_eq_value_iff {e : RequestError} : e.blamed = .value ↔
    e.isOf .value = true ∧ ∀ c ∈ [ErrorClass.timeout, .connection, .status], e.isOf c = false := by
  simp only [blamed, ErrorClass.all, List.find?_cons, List.forall_mem_cons]
  cases e.isOf .timeout <;> cases e.isOf .connection <;> cases e.isOf .status <;> cases e.isOf .value <;>
    simp [e.isOf_request]

/-- What becomes of a request that is sent. -/
inductive Reply
  | response (status : Int) (body : String)
  | raised (e : RequestError)

def Reply.toResponse : Reply → Response
  | .response status body => .answer status body
  | .raised e => .fault (e.blamed.requestFault e.text)

namespace Service

variable {s : Service} {r : Request} {call : Call} {response : Response} {v : Value} {body : String}
  {read : List (List (Value × Value))} {columns : List String} {fault : TransportFault} {f : Failure}
  {respond : List Call → Call → Response} {before : List Call}

/-- The body of a response is JSON, in which no whole number has more digits than can be read. -/
def IsLegible (body : String) : Prop :=
  ∃ text n, Web.bodyText? body.toUTF8.toList = some text ∧ Json.IsText Number.digitLimit n text.toList

theorem isShallow_answer_iff {status : Int} : (Response.answer status body).IsShallow ↔
    ∀ text, Web.bodyText? body.toUTF8.toList = some text → Json.parse text ≠ .error .tooDeep := Iff.rfl

theorem bodyValue_eq_notJson_iff {status : Int} :
    bodyValue r body = .error (r.failure .notJson) ↔ (Response.answer status body).IsShallow ∧ ¬IsLegible body := by
  rw [isShallow_answer_iff, IsLegible, bodyValue]
  cases Web.bodyText? body.toUTF8.toList with
  | none => simp
  | some text =>
    have hmalformed : Json.parse text = .error .malformed ↔ _ := Json.parse_eq_malformed_iff
    simp only [Option.some.injEq, forall_eq', exists_and_left, exists_eq_left', not_exists, ← hmalformed]
    split
    · next hv => simp [hv]
    · next hv => simp [hv]
    · next hv => simp [hv, Request.failure]

theorem payload_eq_notJson_iff : s.payload r response = .error (r.failure .notJson) ↔
    s.isSendable r.url = false ∨ response = .fault .value ∨
      ∃ status body, response = .answer status body ∧ ¬(400 ≤ status ∧ status < 600) ∧
        response.IsShallow ∧ ¬IsLegible body := by
  unfold payload
  cases s.isSendable r.url with
  | false => simp
  | true =>
    rw [if_pos rfl]
    split
    · next status body =>
      split
      · next hfails => simp [Request.failure, hfails.1, hfails.2]
      · next hpasses =>
        rw [bodyValue_eq_notJson_iff]
        refine ⟨fun h => .inr (.inr ⟨status, body, rfl, hpasses, h⟩), ?_⟩
        rintro (h | h | ⟨_, _, ⟨⟩, -, h⟩)
        · cases h
        · cases h
        · exact h
    all_goals simp [Request.failure]

theorem firstTableRows_ne_notJson : firstTableRows v ≠ .error .notJson := by
  unfold firstTableRows
  split
  · split <;> simp
  · simp

theorem requireColumns_ne_notJson : requireColumns columns read ≠ .error .notJson := by
  induction read with
  | nil => simp [requireColumns]
  | cons row read ih =>
    rw [requireColumns]
    split
    · exact ih
    · simp

theorem failure_inj {other : TransportFault} : r.failure fault = r.failure other ↔ fault = other := by
  simp [Request.failure]

theorem rows_of_payload (h : s.payload (s.request call) response = .error f) :
    s.rows call columns response = .error f := by
  simp only [rows, h, Bind.bind, Except.bind]

theorem rows_eq_notJson_iff : s.rows call columns response = .error ((s.request call).failure .notJson) ↔
    s.payload (s.request call) response = .error ((s.request call).failure .notJson) := by
  refine ⟨fun h => ?_, rows_of_payload⟩
  cases hv : s.payload (s.request call) response with
  | error f =>
    rw [rows_of_payload hv] at h
    exact congrArg Except.error (Except.error.inj h)
  | ok v =>
    cases hfirst : firstTableRows v with
    | error fault =>
      rw [rows_of_firstTableRows hv hfirst, Except.error.injEq, failure_inj] at h
      exact absurd (h ▸ hfirst) firstTableRows_ne_notJson
    | ok read =>
      cases hcolumns : requireColumns columns read with
      | error fault =>
        rw [rows_of_requireColumns hv hfirst hcolumns, Except.error.injEq, failure_inj] at h
        exact absurd (h ▸ hcolumns) requireColumns_ne_notJson
      | ok _ => cases h.symm.trans (rows_eq_ok_iff.2 ⟨v, hv, hfirst, hcolumns⟩)

/-- Once there are rows a call does not fail. -/
theorem not_failsWith_of_rows (h : s.rows call call.required (respond before call) = .ok read) :
    ¬(s.catalog respond).FailsWith before f call := by
  have htext := allHaveText_of_rows h
  have hresult : ∀ {α : Type} {g : List (Value × Value) → Except Failure α} {rows : List (List (Value × Value))},
      (∀ row ∈ rows, ∃ a, g row = .ok a) → rows.mapM g ≠ .error f := by
    intro α g rows hg herror
    obtain ⟨as, has⟩ := exists_mapM hg
    cases has.symm.trans herror
  cases call <;> simp only [Call.required] at h <;>
    simp only [Catalog.FailsWith, catalog, h, Bind.bind, Except.bind]
  case tables database =>
    exact hresult fun row hrow => exists_tableRow (htext row (List.mem_filter.1 hrow).1)
  case functions database => exact hresult fun row hrow => exists_functionListing (htext row hrow)
  case probe function arguments database => exact hresult fun row hrow => exists_resultColumn (htext row hrow)

theorem failsWith_iff : (s.catalog respond).FailsWith before f call ↔
    s.rows call call.required (respond before call) = .error f := by
  refine ⟨fun h => ?_, failsWith_of_rows⟩
  cases hrows : s.rows call call.required (respond before call) with
  | ok read => exact absurd h (not_failsWith_of_rows hrows)
  | error f' =>
    have hfails : (s.catalog respond).FailsWith before f' call := failsWith_of_rows hrows
    cases call <;> exact congrArg Except.error (Except.error.inj (hfails.symm.trans h))

theorem payload_fault {c : ErrorClass} {reason : String} (h : s.isSendable r.url = true) :
    s.payload r (.fault (c.requestFault reason)) = .error (r.failure (c.transportFault s.cluster reason)) := by
  cases c <;> simp [payload, h, ErrorClass.requestFault, ErrorClass.transportFault]

theorem payload_failing_status {status : Int} (h : s.isSendable r.url = true) (hs : 400 ≤ status ∧ status < 600) :
    s.payload r (.answer status body) = .error (r.failure (.status (some status.toNat))) := by
  simp [payload, h, hs.1, hs.2]

theorem isSendable_iff {url : String} :
    s.isSendable url = true ↔ Web.isAddress url = true ∧ ¬Web.BreaksLine s.token.toList := by
  have hbearer : Web.isHeaderValue ("Bearer " ++ s.token) = true ↔ ¬Web.BreaksLine s.token.toList := by
    rw [Web.isHeaderValue_iff (c := 'B') (s := "earer ".toList ++ s.token.toList) (by simp) (by decide)]
    rw [Web.breaksLine_append (by decide)]
  have hcontent : Web.isHeaderValue "application/json; charset=utf-8" = true := by decide
  have haccept : Web.isHeaderValue "application/json" = true := by decide
  simp [isSendable, headers, hbearer, hcontent, haccept]

/-- A request is never sent: its address has no scheme of the web or is wrong in another way, or the token does
not fit into a header. -/
inductive Unsent (s : Service) (r : Request) : Prop
  | scheme (h : ¬Web.HasScheme r.url) : Unsent s r
  | address (hscheme : Web.HasScheme r.url) (h : Web.isAddress r.url = false) : Unsent s r
  | header (h : Web.BreaksLine s.token.toList) : Unsent s r

theorem unsent_iff : Unsent s r ↔ s.isSendable r.url = false := by
  rw [← Bool.not_eq_true, isSendable_iff, Classical.not_and_iff_not_or_not, not_not]
  constructor
  · rintro (h | ⟨-, h⟩ | h)
    · exact .inl (mt Web.hasScheme_of_isAddress h)
    · exact .inl (Bool.eq_false_iff.1 h)
    · exact .inr h
  · rintro (h | h)
    · by_cases hscheme : Web.HasScheme r.url
      · exact .address hscheme (Bool.eq_false_iff.2 h)
      · exact .scheme hscheme
    · exact .header h

theorem toResponse_eq_value_iff {reply : Reply} : reply.toResponse = .fault .value ↔
    ∃ e, reply = .raised e ∧ e.blamed = .value := by
  cases reply with
  | response status body => simp [Reply.toResponse]
  | raised e => cases h : e.blamed <;> simp [Reply.toResponse, h, ErrorClass.requestFault]

theorem toResponse_eq_answer_iff {reply : Reply} {status : Int} : reply.toResponse = .answer status body ↔
    reply = .response status body := by
  cases reply <;> simp [Reply.toResponse]

/-- A call says that its response is no JSON if the body of a response without a failing status is none, but also
if the request was never sent, and if an exception is one of a wrong value before it is one of a request. Every
other exception is told as what it is first, and a failing status as it is. -/
theorem failsWith_notJson_iff (s : Service) (reply : List Call → Call → Reply) (before : List Call) (call : Call) :
    let fails := fun fault => (s.catalog fun before call => (reply before call).toResponse).FailsWith before
      ((s.request call).failure fault) call
    (fails .notJson ↔ Unsent s (s.request call) ∨
      (∃ e, reply before call = .raised e ∧ e.isOf .value = true ∧
        ∀ c ∈ [ErrorClass.timeout, .connection, .status], e.isOf c = false) ∨
      ∃ status body, reply before call = .response status body ∧ ¬(400 ≤ status ∧ status < 600) ∧
        (Response.answer status body).IsShallow ∧ ¬IsLegible body) ∧
    (¬Unsent s (s.request call) →
      (∀ e, reply before call = .raised e → fails (e.blamed.transportFault s.cluster e.text)) ∧
      ∀ status body, reply before call = .response status body → 400 ≤ status ∧ status < 600 →
        fails (.status (some status.toNat))) := by
  intro fails
  constructor
  · simp only [fails, failsWith_iff, rows_eq_notJson_iff, payload_eq_notJson_iff, unsent_iff, toResponse_eq_value_iff,
      toResponse_eq_answer_iff, RequestError.blamed_eq_value_iff]
    refine or_congr_right (or_congr_right (exists₂_congr fun status body => and_congr_right fun h => ?_))
    rw [h]
    rfl
  · intro hsent
    rw [unsent_iff, Bool.not_eq_false] at hsent
    constructor
    · intro e he
      refine failsWith_of_rows (rows_of_payload ?_)
      rw [he]
      exact payload_fault hsent
    · intro status body he hs
      refine failsWith_of_rows (rows_of_payload ?_)
      rw [he]
      exact payload_failing_status hsent hs

end Service

/-- A wrong address is a wrong value, and a request that failed. -/
def invalidAddress : RequestError := ⟨fun c => c = .value || c = .request, "boom", rfl⟩

theorem failsWith_notJson_invalidAddress :
    (libraryService.catalog fun _ _ => (Reply.raised invalidAddress).toResponse).functions [] "L" =
      .error ((libraryService.request (.functions "L")).failure .notJson) :=
  (Service.failsWith_notJson_iff libraryService (fun _ _ => .raised invalidAddress) [] (.functions "L")).1.2
    (.inr (.inl ⟨invalidAddress, rfl, rfl, by decide⟩))

end EntityGen
