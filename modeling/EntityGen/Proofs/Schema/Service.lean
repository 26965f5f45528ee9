import EntityGen.Schema.Service
import EntityGen.Proofs.Json
import EntityGen.Proofs.Web.Body

/-! What a service makes of whatever comes back. -/

namespace EntityGen

variable {α β : Type} {database command : String}

/-- Something is brought, or a fault in transport that names the database and the command. -/
def Settles (database command : String) (x : Except Failure α) : Prop :=
  (∃ a, x = .ok a) ∨ ∃ fault, x = .error (.transport fault (some database) (some command))

namespace Settles

theorem ok (a : α) : Settles database command (.ok a) := .inl ⟨a, rfl⟩

theorem failure (r : Request) (fault : TransportFault) :
    Settles r.database r.command (.error (r.failure fault) : Except Failure α) := .inr ⟨fault, rfl⟩

theorem mapError (r : Request) (x : Except TransportFault α) :
    Settles r.database r.command (x.mapError r.failure) := by
  cases x with
  | ok a => exact ok a
  | error fault => exact failure r fault

theorem bind {x : Except Failure α} {f : α → Except Failure β} (hx : Settles database command x)
    (hf : ∀ a, x = .ok a → Settles database command (f a)) : Settles database command (x >>= f) := by
  rcases hx with ⟨a, rfl⟩ | ⟨fault, rfl⟩
  · exact hf a rfl
  · exact .inr ⟨fault, rfl⟩

theorem mapM {f : α → Except Failure β} {as : List α} (hf : ∀ a ∈ as, ∃ b, f a = .ok b) :
    Settles database command (as.mapM f) := .inl (exists_mapM hf)

end Settles

/-- The body of a response, if it is JSON at all, is not nested too deeply to be read. -/
def Response.IsShallow : Response → Prop
  | .answer _ body =>
    ∀ text, Web.bodyText? body.toUTF8.toList = some text → Json.parse text ≠ .error .tooDeep
  | .fault _ => True

namespace Service

open Value

variable {r : Request} {response : Response} {v : Value} {row : List (Value × Value)} {name : String}

/-! ## Requests -/

theorem settles_bodyValue {body : String}
    (hb : ∀ text, Web.bodyText? body.toUTF8.toList = some text → Json.parse text ≠ .error .tooDeep) :
    Settles r.database r.command (bodyValue r body) := by
  unfold bodyValue
  split
  · exact .failure r _
  · next text htext =>
    split
    · exact .ok _
    · exact .failure r _
    · next hdeep => exact absurd hdeep (hb text htext)

theorem settles_payload (s : Service) (hr : response.IsShallow) :
    Settles r.database r.command (s.payload r response) := by
  unfold payload
  split
  · split
    · split
      · exact .failure r _
      · exact settles_bodyValue hr
    all_goals exact .failure r _
  · exact .failure r _

theorem settles_rows (s : Service) (call : Call) (columns : List String) (hr : response.IsShallow) :
    Settles (s.request call).database (s.request call).command (s.rows call columns response) := by
  refine .bind (settles_payload s hr) fun v _ => .bind (.mapError _ _) fun rows _ => ?_
  exact .bind (.mapError _ _) fun _ _ => .ok rows

/-! ## Texts in rows -/

theorem hasText_of_bodyValue {body : String} (h : bodyValue r body = .ok v) : v.HasText := by
  unfold bodyValue at h
  split at h
  · cases h
  · split at h
    · next hv =>
      cases h
      exact Json.hasText_of_parse hv
    all_goals cases h

theorem hasText_of_payload {s : Service} (h : s.payload r response = .ok v) : v.HasText := by
  unfold payload at h
  split at h
  · split at h
    · split at h
      · cases h
      · exact hasText_of_bodyValue h
    all_goals cases h
  · cases h

theorem hasText_of_elements? {vs : List Value} (h : elements? v = some vs) (hv : v.HasText) :
    ∀ w ∈ vs, w.HasText := by
  unfold elements? at h
  split at h
  · cases h
    exact hasText_list_iff.1 hv
  · cases h
    refine List.forall_mem_map.2 fun c _ => ?_
    exact fun _ => rfl
  · cases h
    exact List.forall_mem_map.2 fun n _ => hasText_ofCodes [n]
  · cases h
    exact List.forall_mem_map.2 fun e he => (hasText_map_iff.1 hv e he).1
  · cases h

theorem hasText_of_lookup? (h : lookup? row name = some v) (hrow : AllHaveText row) : v.HasText := by
  obtain ⟨e, he, rfl⟩ := Option.map_eq_some_iff.1 h
  exact (hrow e (List.mem_of_find?_eq_some he)).2

theorem hasText_lookup (hrow : AllHaveText row) (name : String) : (lookup row name).HasText := by
  unfold lookup
  cases h : lookup? row name with
  | none => exact fun _ => rfl
  | some v => exact hasText_of_lookup? h hrow

theorem hasText_of_field? {w : Value} (h : field? name v = some w) (hv : v.HasText) : w.HasText := by
  unfold field? at h
  split at h
  · exact hasText_of_lookup? h (hasText_map_iff.1 hv)
  · cases h

theorem allHaveText_of_bindCells {names cells : List Value} {bound : List (Value × Value)}
    (h : bindCells row names cells = some bound) (hrow : AllHaveText row) (hn : ∀ n ∈ names, n.HasText)
    (hc : ∀ c ∈ cells, c.HasText) : AllHaveText bound := by
  induction names generalizing row cells with
  | nil =>
    cases h
    exact hrow
  | cons n names ih =>
    cases cells with
    | nil =>
      cases h
      exact hrow
    | cons c cells =>
      rw [List.forall_mem_cons] at hn hc
      rw [bindCells] at h
      split at h
      · exact ih h (hrow.bind hn.1 hc.1) hn.2 hc.2
      · cases h

theorem allHaveText_of_tableRows? {rows : List (List (Value × Value))} (h : tableRows? v = some rows)
    (hv : v.HasText) : ∀ row ∈ rows, AllHaveText row := by
  obtain ⟨w, hw, h⟩ := Option.bind_eq_some_iff.1 h
  obtain ⟨columns, hcolumns, h⟩ := Option.bind_eq_some_iff.1 h
  obtain ⟨names, hnames, h⟩ := Option.bind_eq_some_iff.1 h
  obtain ⟨w', hw', h⟩ := Option.bind_eq_some_iff.1 h
  obtain ⟨cellRows, hcellRows, h⟩ := Option.bind_eq_some_iff.1 h
  have hcolumn := hasText_of_elements? hcolumns (hasText_of_field? hw hv)
  have hcellRow := hasText_of_elements? hcellRows (hasText_of_field? hw' hv)
  have hname : ∀ n ∈ names, n.HasText := by
    intro n hn
    obtain ⟨c, hc, hcn⟩ := (exists_of_forall₂ (mapM_eq_some_iff.1 hnames)).2 n hn
    exact hasText_of_field? hcn (hcolumn c hc)
  intro row hrow
  obtain ⟨cellRow, hmem, hbound⟩ := (exists_of_forall₂ (mapM_eq_some_iff.1 h)).2 row hrow
  obtain ⟨cells, hcells, hbound⟩ := Option.bind_eq_some_iff.1 hbound
  exact allHaveText_of_bindCells hbound (List.forall_mem_nil _) hname
    (hasText_of_elements? hcells (hcellRow cellRow hmem))

theorem allHaveText_of_firstTableRows {rows : List (List (Value × Value))} (h : firstTableRows v = .ok rows)
    (hv : v.HasText) : ∀ row ∈ rows, AllHaveText row := by
  unfold firstTableRows at h
  split at h
  · next tables htables =>
    split at h
    · next hrows =>
      cases h
      exact allHaveText_of_tableRows? hrows
        (hasText_list_iff.1 (hasText_of_field? htables hv) _ List.mem_cons_self)
    · cases h
  · cases h

theorem mapError_eq_ok_iff {x : Except TransportFault α} {f : TransportFault → Failure} {a : α} :
    x.mapError f = .ok a ↔ x = .ok a := by
  cases x <;> simp

theorem rows_eq_ok_iff {s : Service} {call : Call} {columns : List String} {rows : List (List (Value × Value))} :
    s.rows call columns response = .ok rows ↔
      ∃ v, s.payload (s.request call) response = .ok v ∧ firstTableRows v = .ok rows ∧
        requireColumns columns rows = .ok () := by
  simp only [Service.rows, bind_eq_ok_iff, mapError_eq_ok_iff]
  constructor
  · rintro ⟨v, hv, rows, hrows, ⟨⟩, hcolumns, h⟩
    cases h
    exact ⟨v, hv, hrows, hcolumns⟩
  · rintro ⟨v, hv, hrows, hcolumns⟩
    exact ⟨v, hv, rows, hrows, (), hcolumns, rfl⟩

theorem allHaveText_of_rows {s : Service} {call : Call} {columns : List String}
    {rows : List (List (Value × Value))} (h : s.rows call columns response = .ok rows) :
    ∀ row ∈ rows, AllHaveText row := by
  obtain ⟨v, hv, hrows, -⟩ := rows_eq_ok_iff.1 h
  exact allHaveText_of_firstTableRows hrows (hasText_of_payload hv)

/-! ## Cells -/

theorem exists_cellText (hrow : AllHaveText row) (name : String) : ∃ t, cellText row name = .ok t :=
  (hasText_lookup hrow name).exists_toText

theorem exists_optionalText (hrow : AllHaveText row) (name : String) : ∃ t, optionalText row name = .ok t := by
  unfold optionalText
  dsimp only
  split
  · exact exists_cellText hrow name
  · exact ⟨"", rfl⟩

theorem exists_tableRow (hrow : AllHaveText row) : ∃ t, tableRow row = .ok t := by
  obtain ⟨table, htable⟩ := exists_cellText hrow "TableName"
  obtain ⟨column, hcolumn⟩ := exists_optionalText hrow "ColumnName"
  obtain ⟨type, htype⟩ := exists_optionalText hrow "ColumnType"
  exact ⟨⟨table, column, type⟩, by rw [tableRow, htable, hcolumn, htype]; rfl⟩

theorem exists_functionListing (hrow : AllHaveText row) : ∃ f, functionListing row = .ok f := by
  obtain ⟨name, hname⟩ := exists_cellText hrow "Name"
  obtain ⟨parameters, hparameters⟩ := exists_optionalText hrow "Parameters"
  exact ⟨⟨name, parameters⟩, by rw [functionListing, hname, hparameters]; rfl⟩

theorem exists_resultColumn (hrow : AllHaveText row) : ∃ c, resultColumn row = .ok c := by
  obtain ⟨name, hname⟩ := exists_cellText hrow "ColumnName"
  obtain ⟨type, htype⟩ := exists_cellText hrow "DataType"
  exact ⟨⟨name, type⟩, by rw [resultColumn, hname, htype]; rfl⟩

/-! ## Calls -/

/-- Whether a text is nested too deeply to be read. -/
def isDeep (text : String) : Bool :=
  match Json.parse text with
  | .error .tooDeep => true
  | _ => false

theorem isShallow_answer {status : Int} {cs : List Char} (hstart : Web.StartsPlain cs)
    (h : isDeep (String.ofList cs) = false) : (Response.answer status (String.ofList cs)).IsShallow := by
  intro text htext hdeep
  rw [Web.bodyText?_ofList hstart] at htext
  cases htext
  simp [isDeep, hdeep] at h

/-- A table with a list for the name of a column, a request that fails, and a good table. -/
def mixedResponse : Call → Response
  | .tables _ =>
    .answer 200 "\x7b\"Tables\": [\x7b\"Columns\": [\x7b\"ColumnName\": [1]\x7d], \"Rows\": [[0]]\x7d]\x7d"
  | .functions _ => .fault (.other "no route")
  | .probe _ _ _ =>
    .answer 200 ("\x7b\"Tables\": [\x7b\"Columns\": [\x7b\"ColumnName\": \"ColumnName\"\x7d, " ++
      "\x7b\"ColumnName\": \"DataType\"\x7d], \"Rows\": [[\"n\", 7]]\x7d]\x7d")

theorem isShallow_mixedResponse (call : Call) : (mixedResponse call).IsShallow := by
  cases call with
  | tables _ =>
    refine isShallow_answer (.intro _ (by simp [Web.IsPlain])) ?_
    rw [isDeep, Json.parse, String.toList_ofList]
    decide +kernel
  | functions _ => trivial
  | probe _ _ _ =>
    rw [mixedResponse, ← String.ofList_append]
    refine isShallow_answer (.intro _ (by simp [Web.IsPlain])) ?_
    rw [isDeep, Json.parse, String.toList_ofList]
    decide +kernel

end Service
end EntityGen
