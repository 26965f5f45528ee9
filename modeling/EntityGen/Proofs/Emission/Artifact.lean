import EntityGen.Emission.Artifact
import EntityGen.Proofs.Calendar
import EntityGen.Proofs.Schema.Signature
import EntityGen.Proofs.Text.Separator

/-! The three texts in which a function stands with its arguments: the query that asks for its columns, its
declaration, and the query that calls it. -/

namespace EntityGen

open Calendar

variable {function raw : String} {arguments : List String} {database : Option String} {ps : List Parameter}
  {now : Moment}

/-! ## No comma within an argument -/

theorem comma_notMem_toDigits (n : Nat) : ',' ∉ Nat.toDigits 10 n := fun h => by
  have hdigit := Nat.isDigit_of_mem_toDigits (by decide) (by decide) h
  revert hdigit
  decide

theorem comma_notMem_digits (width n : Nat) : ',' ∉ (digits width n).toList := by
  simp [digits, comma_notMem_toDigits]

theorem comma_notMem_instantLiteral (l : LocalTime) : ',' ∉ (instantLiteral l).toList := by
  unfold instantLiteral ClockTime.toSeconds
  -- only the year is not written by `digits`
  simpa [comma_notMem_digits] using comma_notMem_toDigits l.date.year

theorem Scalar.exists_literal (hnow : now.IsInCalendar) (k : Scalar) :
    ∃ literal, k.literal now = .ok literal ∧ ',' ∉ literal.toList := by
  cases k with
  | datetime =>
    obtain ⟨l, hl⟩ := Option.isSome_iff_exists.1 (Moment.isSome_utc? hnow)
    exact ⟨instantLiteral l, by rw [literal, Moment.zoned_utc?, hl], comma_notMem_instantLiteral l⟩
  | _ => exact ⟨_, rfl, by decide⟩

-- The type may go by any name, but it is one of eleven kinds that count.
theorem TypeMap.comma_notMem_parameterType (type : String) (nullable : Bool) :
    ',' ∉ (({} : TypeMap).parameterType type nullable).toList := by
  unfold parameterType
  generalize Scalar.ofName type = k
  cases k <;> cases nullable <;> decide

theorem Parameter.IsNamed.comma_notMem_declared {p : Parameter} (hp : p.IsNamed) (nullable : Bool) :
    ',' ∉ (Artifact.declared {} nullable p).toList := by
  simp [Artifact.declared, TypeMap.comma_notMem_parameterType, hp.name.noComma]

theorem Parameter.IsNamed.comma_notMem_spliced {p : Parameter} (hp : p.IsNamed) :
    ',' ∉ (Artifact.spliced p).toList := by
  simp [Artifact.spliced, hp.name.noComma]

/-! ## Three texts for one list of parameters -/

/-- A text that calls a function: between the parentheses stands nothing if there are no arguments, and
otherwise a text that is cut into them wherever a comma and a blank stand. -/
def IsCall (text function : String) (arguments : List String) : Prop :=
  ∃ inner, text = function ++ "(" ++ inner ++ ")" ∧
    if arguments = [] then inner = "" else (inner.split ", ").toList.map (·.copy) = arguments

theorem isCall_call (function : String) (h : ∀ a ∈ arguments, ',' ∉ a.toList) :
    IsCall (Artifact.call function arguments) function arguments := by
  refine ⟨", ".intercalate arguments, rfl, ?_⟩
  split
  · next hnil =>
    rw [hnil]
    exact String.intercalate_nil
  · next hne => exact Text.split_intercalate rfl h hne

theorem Signature.isNamed_of_parse (h : parse function raw database = .ok ps) : ∀ p ∈ ps, p.IsNamed := by
  intro p hp
  rw [parse_eq_ok_iff, parse?_eq_some_iff] at h
  obtain ⟨item, hitem, hread⟩ := (exists_of_forall₂ h).2 p hp
  exact (isNamed_of_parameter? (comma_notMem_of_mem_items hitem) hread).1

namespace Artifact

/-- Whatever parameters a function has, the three texts agree on them. -/
theorem ofFunction_calls (hps : Signature.parse function raw database = .ok ps) (hnow : now.IsInCalendar)
    (nullable : Bool) :
    ∃ literals call, ps.mapM (fun p => argumentLiteral now p.type) = .ok literals ∧ literals.length = ps.length ∧
      probeQuery function literals = call ++ " | take 1 | getschema" ∧ IsCall call function literals ∧
      IsCall (ofFunction {} nullable function ps).declaration function
        (ps.map fun p => ({} : TypeMap).parameterType p.type nullable ++ " " ++ p.name) ∧
      IsCall (ofFunction {} nullable function ps).query function
        (ps.map fun p => "\x7b" ++ p.name ++ ".GetKQLValue()\x7d") := by
  have hnamed := Signature.isNamed_of_parse hps
  choose literal hliteral hcomma using fun k => Scalar.exists_literal hnow k
  have hliterals : ps.mapM (fun p => argumentLiteral now p.type) =
      .ok (ps.map fun p => literal (Scalar.ofName p.type)) :=
    mapM_eq_ok_iff.2 (List.forall₂_map_right_iff.2 (List.forall₂_same.2 fun p _ => hliteral (Scalar.ofName p.type)))
  refine ⟨_, _, hliterals, List.length_map _, rfl, isCall_call function ?_, isCall_call function ?_,
    isCall_call function ?_⟩
  · exact List.forall_mem_map.2 fun p _ => hcomma (Scalar.ofName p.type)
  · exact List.forall_mem_map.2 fun p hp => (hnamed p hp).comma_notMem_declared nullable
  · exact List.forall_mem_map.2 fun p hp => (hnamed p hp).comma_notMem_spliced

theorem ofFunction_calls_first :
    let ps : List Parameter := [⟨"a", "int"⟩, ⟨"b", "datetime"⟩]
    Signature.parse "F" "(a : int, b:datetime=now())" none = .ok ps ∧ Moment.first.IsInCalendar ∧
      IsCall (ofFunction {} true "F" ps).declaration "F" ["int? a", "DateTime? b"] := by
  have h : Signature.parse "F" "(a : int, b:datetime=now())" none = .ok [⟨"a", "int"⟩, ⟨"b", "datetime"⟩] := by
    decide +kernel
  have hnow : Moment.first.IsInCalendar := ⟨Moment.first.clock, rfl⟩
  obtain ⟨_, _, -, -, -, -, hdeclaration, -⟩ := ofFunction_calls h hnow true
  exact ⟨h, hnow, hdeclaration⟩

end Artifact
end EntityGen
