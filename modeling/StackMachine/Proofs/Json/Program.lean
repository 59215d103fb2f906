import StackMachine.Proofs.Json.Grammar
import StackMachine.Shell.Command

/-! Programs as JSON. A program is read back from its text on one line and from its text over several lines,
which is the one that the command line prints. -/
namespace StackMachine

open Json (Plain)

/-! ### Words and lists of data -/

lemma Datum.word?_toInt (w : Word) : (Datum.int w.toInt).word? = some w := by
  have hw := Text.inWord_toInt w
  unfold Text.InWord at hw
  rw [Datum.word?, if_pos hw, Int32.ofInt_toInt]

/-- What is read back item by item is read back from a list. -/
lemma mapM_map_eq_some {α : Type} {write : α → Datum} {read? : Datum → Option α}
    (h : ∀ a, read? (write a) = some a) (as : List α) : (as.map write).mapM read? = some as := by
  induction as with
  | nil => rfl
  | cons a as ih =>
    rw [List.map_cons, List.mapM_cons, h, ih]
    rfl

namespace Instruction

lemma operandOfDatum?_record (field : String) (w : Word) :
    operandOfDatum? field (.record [(field, .int w.toInt)]) = some w := by
  simp [operandOfDatum?, Datum.fields?, Datum.word?_toInt]

/-- The data of an instruction: its tag alone, or its tag with the operand under the name of its field. -/
lemma toDatum_cases (i : Instruction) :
    (i.opcode.operandField = none ∧ i.operand? = none ∧ i.toDatum = .text i.opcode.tag) ∨
    ∃ field v, i.opcode.operandField = some field ∧ i.operand? = some v ∧
      i.toDatum = .record [(i.opcode.tag, .record [(field, .int v.toInt)])] := by
  cases i with
  | add | subtract | multiply | divide | «return» => exact .inl ⟨rfl,rfl,rfl⟩
  | _ => exact .inr ⟨_,_,rfl,rfl,rfl⟩

/-- An instruction is read back from its data. -/
theorem ofDatum?_toDatum (i : Instruction) : ofDatum? i.toDatum = some i := by
  have hparts := ofParts?_opcode_operand? i
  obtain ⟨hfield,hnone,hdatum⟩ | ⟨field,v,hfield,hv,hdatum⟩ := toDatum_cases i
  · rw [hnone] at hparts
    simp [hdatum, ofDatum?, Datum.alternative?, hfield, hparts]
  · rw [hv] at hparts
    simp [hdatum, ofDatum?, Datum.alternative?, hfield, hparts, operandOfDatum?_record]

lemma plain_toDatum (i : Instruction) : Plain i.toDatum := by
  obtain ⟨_,_,hdatum⟩ | ⟨field,v,_,_,hdatum⟩ := toDatum_cases i <;> rw [hdatum]
  · exact .text _
  · exact .member (.member (.int _))

end Instruction

/-- The disk on which every file holds this text. -/
def Disk.holding (text : String) : Disk where
  ancestors := []
  has _ := true
  read _ := .ok text.toUTF8
  refusal _ := none

lemma Disk.readText_holding (text path : String) : (holding text).readText path = .ok text :=
  readText_eq_ok_iff.mpr rfl

namespace Program

theorem ofDatum?_toDatum (p : Program) : ofDatum? p.toDatum = some p := by
  have hlist := mapM_map_eq_some Instruction.ofDatum?_toDatum p.toList
  simp [ofDatum?, toDatum, Datum.fields?, hlist]

lemma plain_toDatum (p : Program) : Plain p.toDatum := .member (.map Instruction.plain_toDatum p.toList)

lemma ofJson?_of_read {p : Program} {text : String} (h : Json.read text = some p.toDatum) :
    ofJson? text = some p := by
  rw [ofJson?, h]
  exact p.ofDatum?_toDatum

/-- A program is read back from its text on one line and from its text over several lines. The latter is
what is printed, with a line end behind it, for a file that holds the program. -/
theorem json_readBack (p : Program) :
    ofJson? p.toJson = some p ∧ ofJson? p.toPrettyJson = some p ∧
    ∀ disk file events, Command.loadProgram disk file = (events, .ok p) →
      ∃ text, (Command.printProgram disk file true).events = events ++ [.say text] ∧
        (Command.printProgram disk file true).result = some (.ok ()) ∧ ofJson? text = some p := by
  have hplain := p.plain_toDatum
  have hpretty : Json.read p.toPrettyJson = some p.toDatum := by
    have hread := Json.read_pretty hplain Json.allBlank_nil
    rwa [String.ofList_nil, String.append_empty] at hread
  refine ⟨ofJson?_of_read (Json.read_compact hplain),ofJson?_of_read hpretty,?_⟩
  intro disk file events hload
  have hline : Json.AllBlank ['\n'] := by simp [Json.AllBlank, Json.isBlank]
  have hprinted : Json.read (p.toPrettyJson ++ "\n") = some p.toDatum := Json.read_pretty hplain hline
  refine ⟨p.toPrettyJson ++ "\n",?_,?_,ofJson?_of_read hprinted⟩
  · simp only [Command.printProgram, hload, if_true]
  · simp only [Command.printProgram, hload]

/-- A file with a comment and a negative operand. -/
theorem json_readBack_file :
    ∃ text, (Command.printProgram (Disk.holding "iconst -5 # five\nireturn") "five" true).events =
        [.log (.loaded "five" 2),.say text] ∧
      ofJson? text = some (ofList [.pushConstant (-5), .return]) := by
  have hload : Command.loadProgram (Disk.holding "iconst -5 # five\nireturn") "five" =
      ([.log (.loaded "five" 2)],.ok (ofList [.pushConstant (-5), .return])) := by
    rw [Command.loadProgram, Disk.readText_holding]
    rfl
  obtain ⟨text,hevents,_,hread⟩ := (json_readBack (ofList [.pushConstant (-5), .return])).2.2 _ _ _ hload
  exact ⟨text,hevents,hread⟩

end Program
end StackMachine
