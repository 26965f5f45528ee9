import EntityGen.Disk.Action
import EntityGen.Proofs.Outcome

/-! What comes of the actions on a disk. -/

namespace EntityGen.Action

theorem outcome_locate (followLast : Bool) (p : Path) (d : Disk) :
    outcome (locate followLast p) d = (d.locate followLast p, d) := by
  simp only [locate, outcome_bind, outcome_get]
  cases d.locate followLast p <;> rfl

theorem outcome_makeDirectory (p : Path) (d : Disk) : outcome (makeDirectory p) d =
    match d.locate false p with
    | .error t => (.error t, d)
    | .ok l =>
      match d.get? l with
      | some _ => (.error (.refusal .exists), d)
      | none => (.ok (), d.put l .directory) := by
  simp only [makeDirectory, outcome_bind, outcome_locate, outcome_get]
  cases d.locate false p with
  | error t => rfl
  | ok l => dsimp only; cases d.get? l <;> rfl

theorem outcome_writeFile (p : Path) (content : ByteArray) (d : Disk) : outcome (writeFile p content) d =
    match d.locate true p with
    | .error t => (.error t, d)
    | .ok l =>
      match d.get? l with
      | some .directory => (.error (.refusal .isDirectory), d)
      | _ => (.ok (), d.put l (.file content)) := by
  simp only [writeFile, outcome_bind, outcome_locate, outcome_get]
  cases d.locate true p with
  | error t => rfl
  | ok l => dsimp only; rcases d.get? l with _ | (_ | _ | _) <;> rfl

theorem outcome_allowDirectory (p : Path) (t : Trouble) (d : Disk) :
    (outcome (allowDirectory p t) d).2 = d := by
  cases t with
  | nul => rfl
  | refusal r =>
    simp only [allowDirectory, outcome_bind, outcome_get]
    rcases d.isDirectory p with _ | (_ | _) <;> rfl

theorem outcome_removeFile (p : Path) (d : Disk) : outcome (removeFile p) d =
    match d.locate false p with
    | .error t => (.error t, d)
    | .ok l =>
      match d.get? l with
      | none => (.error (.refusal .missing), d)
      | some .directory => (.error (.refusal .isDirectory), d)
      | some _ => (.ok (), d.erase l) := by
  simp only [removeFile, outcome_bind, outcome_locate, outcome_get]
  cases d.locate false p with
  | error t => rfl
  | ok l => dsimp only; rcases d.get? l with _ | (_ | _ | _) <;> rfl

theorem outcome_removeDirectory (p : Path) (d : Disk) : outcome (removeDirectory p) d =
    match d.locate false p with
    | .error t => (.error t, d)
    | .ok l =>
      match d.get? l with
      | none => (.error (.refusal .missing), d)
      | some .directory =>
        if d.hasChildren l then (.error (.refusal .notEmpty), d) else (.ok (), d.erase l)
      | some _ => (.error (.refusal .notDirectory), d) := by
  simp only [removeDirectory, outcome_bind, outcome_locate, outcome_get]
  cases d.locate false p with
  | error t => rfl
  | ok l =>
    dsimp only
    rcases d.get? l with _ | (_ | _ | _)
    · rfl
    · simp only [outcome_bind, outcome_get]
      split <;> rfl
    · rfl
    · rfl

theorem outcome_isEmptyDirectory (p : Path) (d : Disk) : outcome (isEmptyDirectory p) d =
    match d.entry p with
    | .error t => (.error t, d)
    | .ok .directory => ((d.locate true p).map fun l => !d.hasChildren l, d)
    | .ok _ => (.error (.refusal .notDirectory), d) := by
  simp only [isEmptyDirectory, outcome_bind, outcome_get]
  rcases d.entry p with _ | (_ | _ | _)
  · rfl
  · simp only [outcome_bind, outcome_locate]
    cases d.locate true p <;> rfl
  · rfl
  · rfl

end EntityGen.Action
