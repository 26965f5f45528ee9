import EntityGen.Yaml.ScalarValue

/-! Which kinds of scalars can have no value. -/

namespace EntityGen.Yaml

variable {α β : Type} {fs : List DataFault} {fault : DataFault} {x : Reckoning α}

/-- What can be wrong with a scalar of a kind although it keeps the rules of the format. -/
def Tag.faults : Tag → List DataFault
  | .bool => [.unknownWord]
  | .int => [.notScalar, .noDigits]
  | .float => [.notScalar, .noDigits, .numberTooLarge]
  | .timestamp => [.notScalar, .notTimestamp]
  | _ => []

/-- If there is no value, it is for one of these faults. -/
def FailsFor (fs : List DataFault) (x : Reckoning α) : Prop := ∀ fault, x = .error fault → fault ∈ fs

namespace FailsFor

theorem ok (a : α) : FailsFor fs (.ok a) := nofun

theorem error (h : fault ∈ fs) : FailsFor fs (.error fault : Reckoning α) := by
  rintro _ ⟨⟩
  exact h

theorem ofOption (h : fault ∈ fs) (o : Option α) : FailsFor fs (ofOption fault o) := by
  cases o with
  | none => exact error h
  | some a => exact ok a

theorem bind {f : α → Reckoning β} (hx : FailsFor fs x) (hf : ∀ a, FailsFor fs (f a)) :
    FailsFor fs (x >>= f) := by
  cases x with
  | ok a => exact hf a
  | error e => exact error (hx e rfl)

theorem map {f : α → β} (hx : FailsFor fs x) : FailsFor fs (x.map f) := by
  cases x with
  | ok a => exact ok (f a)
  | error e => exact error (hx e rfl)

theorem mem_of_mapError (hx : FailsFor fs x) (h : x.mapError Fault.data = .error (.data fault)) : fault ∈ fs := by
  cases x with
  | ok a => cases h
  | error e =>
    cases h
    exact hx _ rfl

end FailsFor

theorem failsFor_boolValue (s : List Char) : FailsFor Tag.bool.faults (boolValue s) := by
  unfold boolValue
  dsimp only
  split
  · exact .ok _
  · split
    · exact .ok _
    · exact .error (by decide)

theorem failsFor_intValue (s : List Char) : FailsFor Tag.int.faults (intValue s) := by
  have hnotScalar : DataFault.notScalar ∈ Tag.int.faults := by decide
  refine .bind ?_ fun n => .ok _
  unfold intOfBody
  split
  · exact .error (by decide)
  · exact .ofOption hnotScalar _
  · exact .ofOption hnotScalar _
  · exact .ofOption hnotScalar _
  · exact .ofOption hnotScalar _

theorem failsFor_sexagesimalSum (sum : Number.Double) (base : Nat) (digits : List Number.Double) :
    FailsFor Tag.float.faults (sexagesimalSum sum base digits) := by
  induction digits generalizing sum base with
  | nil => exact .ok sum
  | cons d digits ih =>
    unfold sexagesimalSum
    split
    · exact .error (by decide)
    · exact ih _ _

theorem failsFor_floatValue (s : List Char) : FailsFor Tag.float.faults (floatValue s) := by
  have hnotScalar : DataFault.notScalar ∈ Tag.float.faults := by decide
  have hbody (body : List Char) : FailsFor Tag.float.faults (floatOfBody body) := by
    unfold floatOfBody
    split
    · exact .ok _
    · split
      · exact .ok _
      · split
        · exact .bind (.ofOption hnotScalar _) fun _ => failsFor_sexagesimalSum _ _ _
        · exact .ofOption hnotScalar _
  unfold floatValue
  dsimp only
  split
  · exact .error (by decide)
  · exact .bind (hbody _) fun _ => .ok _

theorem failsFor_timestampValue (s : List Char) : FailsFor Tag.timestamp.faults (timestampValue s) :=
  .bind (.ofOption (by decide) _) fun _ => .ofOption (by decide) _

/-- Truth values, numbers and timestamps can have no value, the other kinds always have one or break a rule
of the format. -/
theorem Tag.mem_faults_of_scalarValue {t : Tag} {codes : List Nat}
    (h : t.scalarValue codes = .error (.data fault)) : fault ∈ t.faults := by
  cases t with
  | bool => exact (failsFor_boolValue _).map.mem_of_mapError h
  | int => exact (failsFor_intValue _).map.mem_of_mapError h
  | float => exact (failsFor_floatValue _).map.mem_of_mapError h
  | timestamp => exact (failsFor_timestampValue _).mem_of_mapError h
  | binary =>
    simp only [scalarValue] at h
    split at h
    · split at h <;> cases h
    · cases h
  | null | text | list | pairs | map | set | merge | value | unknown => cases h

end EntityGen.Yaml
