import EntityGen.Proofs.Generation.Order
import EntityGen.Proofs.Schema.Blame

/-! A run whose configuration is complete never blames it. -/

namespace EntityGen

namespace Cleaning

open Run

theorem blameless_removeFile (dry : Bool) (p : Path) : (removeFile dry p).Blameless := by
  refine (Blameless.ask _).bind fun b => ?_
  split
  · refine Blameless.get.bind fun j => ?_
    cases dry with
    | true => exact (Blameless.note _).bind fun _ => .pure _
    | false => exact (Blameless.act (fun _ => rfl) _).bind fun _ => .pure _
  · exact .pure _

theorem blameless_removeFiles (dry : Bool) (ps : List Path) : (removeFiles dry ps).Blameless := by
  induction ps with
  | nil => exact .pure _
  | cons p ps ih => exact (blameless_removeFile dry p).bind fun _ => ih.bind fun _ => .pure _

theorem blameless_prune (folder : Path) : (prune folder).Blameless := by
  refine (Blameless.ask _).bind fun b => ?_
  split
  · exact (Blameless.ask _).bind (.forM fun p => .act (fun _ => rfl) _)
  · exact .pure _

theorem blameless_cleanModels (dry : Bool) (folder : Path) : (cleanModels dry folder).Blameless := by
  refine (Blameless.ask _).bind fun b => ?_
  split
  · refine (Blameless.ask _).bind fun ps => (blameless_removeFiles dry ps).bind fun _ => ?_
    cases dry with
    | true => exact .pure _
    | false => exact (blameless_prune folder).bind fun _ => .pure _
  · exact .pure _

theorem blameless_cleanContext (dry : Bool) (context : Option Path) : (cleanContext dry context).Blameless := by
  cases context with
  | none => exact .pure _
  | some file => exact blameless_removeFile dry file

theorem blameless_cleanOutput (dry : Bool) (folder : Path) (context : Option Path) :
    (cleanOutput dry folder context).Blameless :=
  (blameless_cleanContext dry context).bind fun _ => (blameless_cleanModels dry folder).bind fun _ => .pure _

end Cleaning

namespace Generation

open Run

variable {s : Setting} {c r : Config} {folder : Path}

theorem blameless_prepare (c : Config) (folder : Path) : (prepare c folder).Blameless := by
  rw [prepare_eq]
  refine (Blameless.forM (fun p => .act (fun _ => rfl) _) _).bind fun _ => ?_
  split
  · exact Cleaning.blameless_cleanOutput _ _ _
  · exact .pure _

theorem blameless_writeText (p : Path) (text : String) : (writeText p text).Blameless :=
  (Blameless.act (fun _ => rfl) _).bind fun _ => .note _

theorem blameless_parseFunction (database : String) (l : FunctionListing) :
    Blameless (parseFunction database l) := by
  refine .map ?_
  unfold Signature.parse
  split
  · exact .ok _
  · exact .error rfl

theorem blameless_argumentLiteral (now : Calendar.Moment) (type : String) :
    Blameless (argumentLiteral now type) := by
  unfold argumentLiteral
  cases Scalar.ofName type with
  | datetime =>
    rw [Scalar.literal]
    split
    · exact .ok _
    · exact .error rfl
  | _ => exact .ok _

/-- Every operation of a run may fail, but the configuration is never to blame. -/
theorem blameless_perform (hs : s.catalog.Blameless) (c : Config) (folder : Path) (t : Step) :
    (t.perform s c folder).Blameless := by
  cases t with
  | prepare n => exact (blameless_prepare c folder).map _
  | tell e => exact (Blameless.note e).map _
  | tables d rows => exact (Blameless.call fun before => hs.tables before d.name).map _
  | functions d listings => exact (Blameless.call fun before => hs.functions before d.name).map _
  | parse d ls callables =>
    have hparse := Blameless.mapM (blameless_parseFunction d.name) ls
    exact (Blameless.ofExcept hparse).map _
  | literals f arguments =>
    have hliterals := Blameless.mapM (fun p : Parameter => blameless_argumentLiteral s.now p.type) f.parameters
    exact (Blameless.ofExcept hliterals).map _
  | probe d f =>
    exact (Blameless.call fun before => hs.probe before f.callable.name f.arguments d.name).map _
  | model e => exact (blameless_writeText _ _).map _
  | context file as => exact (blameless_writeText _ _).map _

theorem blameless_runCompleted (hs : s.catalog.Blameless) (hr : c.Completes r) :
    (runCompleted s r folder).Blameless := by
  intro j
  obtain ⟨_, sm, -, he⟩ : ∃ ts sm, _ ∧ Ends (Step.perform s r folder) sm j ts _ :=
    orderly_runCompleted hr.modelsFolder_isSome hr.contextFile j
  generalize outcome (runCompleted s r folder) j = result at he
  cases he with
  | whole _ => exact .ok sm
  | @broken done j₁ t j' f rest _ ht =>
    have h := blameless_perform hs r folder t j₁ f
    rw [ht] at h
    exact .error (h rfl)

theorem blameless_run (hs : s.catalog.Blameless) (hr : c.complete = .ok r) : (run s c).Blameless := by
  intro j
  have hc := Config.completes_of_complete hr
  obtain ⟨folder, hm⟩ := Option.isSome_iff_exists.1 hc.modelsFolder_isSome
  rw [outcome_run_of_complete hr hm]
  exact blameless_runCompleted hs hc j

end Generation
end EntityGen
