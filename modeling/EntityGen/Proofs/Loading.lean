import Mathlib
import EntityGen.Loading
import EntityGen.Proofs.Outcome
import EntityGen.Proofs.Yaml.Reading

/-! Documents in files that can be read. -/

namespace EntityGen

open Yaml

variable {d : Disk} {p : Path} {field : String} {content : ByteArray}

theorem readText?_of_read {text : String} (h : d.read p = .ok text.toUTF8) : readText? d p = .ok text := by
  have htext : String.fromUTF8? text.toUTF8 = some text := dif_pos text.isValidUTF8
  rw [readText?, h]
  dsimp only
  rw [htext]

theorem mappingOfFile_of_read (text : String) (h : d.read p = .ok text.toUTF8) :
    mappingOfFile d p = mappingOfText p.text text := by
  rw [mappingOfFile, readText?_of_read h]
  rfl

theorem Config.ofFile_of_read (real : Path) (text : String) (hreal : d.realPath p = .ok real)
    (hfound : d.exists? real = .ok true) (hread : d.read real = .ok text.toUTF8) : Config.ofFile d p =
      (mappingOfText real.text text >>= fun entries => Config.ofEntries entries (some real.parent)) := by
  rw [Config.ofFile, hreal, mapError_ok, ← mappingOfFile_of_read text hread]
  simp only [bind, Except.bind, hfound, mapError_ok, if_pos]

/-! ## Which contents are at fault -/

theorem mappingOfFile_of_noText (h : d.read p = .ok content) (hnone : ∀ text : String, text.toUTF8 ≠ content) :
    mappingOfFile d p = .error (.data .notUtf8) := by
  have hinvalid : String.fromUTF8? content = none := by
    unfold String.fromUTF8?
    split
    · next hvalid => exact absurd rfl (hnone ⟨content, hvalid⟩)
    · rfl
  rw [mappingOfFile, readText?, h]
  dsimp only
  rw [hinvalid]
  rfl

/-- There is a mapping, or the field is to blame for there being none. -/
def IsSettled (field : String) (x : Except Failure (List (Value × Value))) : Prop :=
  (∃ entries, x = .ok entries) ∨ ∃ fault, x = .error (.ofField field fault)

theorem not_isSettled_data (fault : DataFault) : ¬IsSettled field (.error (.data fault)) := by
  rintro (⟨_, h⟩ | ⟨_, h⟩) <;> cases h

theorem mappingOfText_of_data {text : String} {fault : DataFault} (h : Yaml.read text = .error (.data fault)) :
    mappingOfText field text = .error (.data fault) := by
  rw [mappingOfText, h]

theorem isSettled_mappingOfText {text : String} (h : ∀ fault, Yaml.read text ≠ .error (.data fault)) :
    IsSettled field (mappingOfText field text) := by
  unfold mappingOfText
  split
  · split
    · exact .inl ⟨_, rfl⟩
    · exact .inr ⟨_, rfl⟩
  · exact .inr ⟨_, rfl⟩
  · next hread => exact absurd hread (h _)

/-- The content of a file is a text, and everything in it has a value unless it breaks a rule of the format. -/
def HasValue (content : ByteArray) : Prop :=
  ∃ text : String, text.toUTF8 = content ∧ ∀ fault, Yaml.read text ≠ .error (.data fault)

/-- Why a file with some content is refused although it keeps the rules of the format. -/
inductive IsFaulty (content : ByteArray) : DataFault → Prop
  | noText : (∀ text : String, text.toUTF8 ≠ content) → IsFaulty content .notUtf8
  | noValue (text : String) : text.toUTF8 = content → Cause (joinLineEnds text.toList) fault →
      IsFaulty content fault

theorem exists_isFaulty (h : d.read p = .ok content) (hvalue : ¬HasValue content) :
    ∃ fault, IsFaulty content fault ∧ mappingOfFile d p = .error (.data fault) := by
  by_cases htext : ∃ text : String, text.toUTF8 = content
  · obtain ⟨text, rfl⟩ := htext
    have hfault : ∃ fault, Yaml.read text = .error (.data fault) := by
      by_contra hnone
      exact hvalue ⟨text, rfl, fun fault hread => hnone ⟨fault, hread⟩⟩
    obtain ⟨fault, hread⟩ := hfault
    refine ⟨fault, .noValue text rfl (cause_of_read hread), ?_⟩
    rw [mappingOfFile_of_read text h, mappingOfText_of_data hread]
  · have hnone : ∀ text : String, text.toUTF8 ≠ content := fun text ht => htext ⟨text, ht⟩
    exact ⟨.notUtf8, .noText hnone, mappingOfFile_of_noText h hnone⟩

/-- A file that can be read gives a mapping, or its path is to blame, exactly if its content is a text in which
everything has a value; safe texts are such ones. For everything else there is another failure, and a cause of
it in the content. -/
theorem mappingOfFile_isSettled_iff (h : d.read p = .ok content) :
    (IsSettled p.text (mappingOfFile d p) ↔ HasValue content) ∧
    (∀ text : String, text.toUTF8 = content → IsSafe (joinLineEnds text.toList) → HasValue content) ∧
    (¬HasValue content → ∃ fault, IsFaulty content fault ∧ mappingOfFile d p = .error (.data fault)) := by
  refine ⟨⟨fun hsettled => ?_, ?_⟩, fun text htext hsafe => ⟨text, htext, fun _ => hsafe.read_ne⟩,
    exists_isFaulty h⟩
  · by_contra hvalue
    obtain ⟨fault, -, hfile⟩ := exists_isFaulty h hvalue
    exact not_isSettled_data fault (hfile ▸ hsettled)
  · rintro ⟨text, rfl, hread⟩
    rw [mappingOfFile_of_read text h]
    exact isSettled_mappingOfText hread

/-- A file with the start of a mapping, and a byte that no text has. -/
def faultyDisk : Disk where
  home := ["w"]
  entries := [(["w"], .directory), (["w", "c.yaml"], .file ⟨#[0x61, 0x3a, 0x20, 0xff]⟩)]

theorem mappingOfFile_isSettled_iff_faulty :
    let content : ByteArray := ⟨#[0x61, 0x3a, 0x20, 0xff]⟩
    let p : Path := ⟨0, ["c.yaml"]⟩
    faultyDisk.read p = .ok content ∧
    (IsSettled p.text (mappingOfFile faultyDisk p) ↔ HasValue content) ∧
    (∀ text : String, text.toUTF8 = content → IsSafe (joinLineEnds text.toList) → HasValue content) ∧
    (¬HasValue content →
      ∃ fault, IsFaulty content fault ∧ mappingOfFile faultyDisk p = .error (.data fault)) := by
  have h : faultyDisk.read ⟨0, ["c.yaml"]⟩ = .ok ⟨#[0x61, 0x3a, 0x20, 0xff]⟩ := by cbv
  exact ⟨h, mappingOfFile_isSettled_iff h⟩

example : (mappingOfText "c.yaml" "a: 2020-13-45\n").map (fun _ => ()) = .error (.data .notScalar) := by
  decide +kernel

end EntityGen
