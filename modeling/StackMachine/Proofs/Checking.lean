import StackMachine.Proofs.FirstError
import StackMachine.Proofs.Listing
import StackMachine.Proofs.Streams

/-! Checking program files. Each file is judged by what is read at its own path, and the judgement is the one that
printing and running the file come to as well. -/
namespace StackMachine

/-! ### What a file comes to -/

/-- What loading a program file comes to: the lines it leaves in the log, and the program or what is wrong. -/
inductive Disk.Loads (d : Disk) (file : String) : List LogLine → Except CommandError Program → Prop
  | unreadable {cause : FileError} (unread : d.read file = .error cause) :
      Loads d file [] (.error (.programUnreadable file cause))
  | notText {bytes : ByteArray} (read : d.read file = .ok bytes) (invalid : ¬ bytes.IsValidUTF8) :
      Loads d file [] (.error (.programUnreadable file .notText))
  | undecodable {text bad : String} {k : Nat} {cause : DecodeError} (read : d.read file = .ok text.toUTF8)
      (first : Program.FirstBad bad (Source.instructionLines text) k)
      (rejects : Instruction.Rejects k (Text.words bad.toList) cause) :
      Loads d file [.loaded file (Source.instructionLines text).length]
        (.error (.programUndecodable file cause))
  | program {text : String} {p : Program} (read : d.read file = .ok text.toUTF8)
      (spelled : List.Forall₂ (fun line i => Instruction.Spells line.toList i)
        (Source.instructionLines text) p.toList) :
      Loads d file [.loaded file p.size] (.ok p)

/-- The file can be read as text, loaded and decoded. -/
def Disk.HoldsProgram (d : Disk) (file : String) : Prop := ∃ notes p, d.Loads file notes (.ok p)

namespace Disk.Loads

open Command

variable {d : Disk} {file : String} {notes notes' : List LogLine} {result result' : Except CommandError Program}

theorem loadProgram_eq (h : d.Loads file notes result) :
    loadProgram d file = (notes.map .log, result) := by
  cases h with
  | unreadable unread => simp [loadProgram, readText, unread]
  | notText read invalid => simp [loadProgram, readText, read, String.fromUTF8?, invalid]
  | undecodable read first rejects =>
    have hdecode := first.decode_eq (Instruction.decode_eq_error_iff.mpr rejects)
    simp [loadProgram, readText_eq_ok_iff.mpr read, hdecode]
  | program read spelled =>
    have hdecode := Program.decode_eq_ok_iff.mpr
      (spelled.imp fun line i h position => Instruction.decode_eq_ok_iff.mpr h)
    simp [loadProgram, readText_eq_ok_iff.mpr read, hdecode, spelled.length_eq]

lemma of_decode_ok {text : String} {p : Program} (read : d.read file = .ok text.toUTF8)
    (h : Program.decode (Source.instructionLines text) = .ok p) : d.Loads file [.loaded file p.size] (.ok p) := by
  refine .program read ?_
  exact (Program.decode_eq_ok_iff.mp h).imp fun line i hline => Instruction.decode_eq_ok_iff.mp (hline 0)

lemma of_decode_error {text : String} {cause : DecodeError} (read : d.read file = .ok text.toUTF8)
    (h : Program.decode (Source.instructionLines text) = .error cause) :
    d.Loads file [.loaded file (Source.instructionLines text).length]
      (.error (.programUndecodable file cause)) := by
  obtain ⟨bad,k,hfirst,hbad⟩ := Program.decode_eq_error_iff.mp h
  exact .undecodable read hfirst (Instruction.decode_eq_error_iff.mp hbad)

theorem total (d : Disk) (file : String) : ∃ notes result, d.Loads file notes result := by
  cases hread : d.read file with
  | error cause => exact ⟨_,_,.unreadable hread⟩
  | ok bytes =>
    by_cases hvalid : bytes.IsValidUTF8
    · -- Bytes that are valid are those of a text.
      have htext : d.read file = .ok (String.fromUTF8 bytes hvalid).toUTF8 := hread
      cases hdecode : Program.decode (Source.instructionLines (String.fromUTF8 bytes hvalid)) with
      | ok p => exact ⟨_,_,of_decode_ok htext hdecode⟩
      | error cause => exact ⟨_,_,of_decode_error htext hdecode⟩
    · exact ⟨_,_,.notText hread hvalid⟩

/-- A file comes to one thing only. -/
theorem unique (h : d.Loads file notes result) (h' : d.Loads file notes' result') :
    notes = notes' ∧ result = result' := by
  obtain ⟨hnotes,hresult⟩ := Prod.mk.inj (h.loadProgram_eq.symm.trans h'.loadProgram_eq)
  exact ⟨List.map_injective_iff.mpr (fun _ _ => Event.log.inj) hnotes,hresult⟩

/-- Nothing counts but what is read at the path. -/
lemma of_read_eq {d' : Disk} (hread : d'.read file = d.read file) (h : d.Loads file notes result) :
    d'.Loads file notes result := by
  cases h with
  | unreadable unread => exact .unreadable (hread.trans unread)
  | notText read invalid => exact .notText (hread.trans read) invalid
  | undecodable read first rejects => exact .undecodable (hread.trans read) first rejects
  | program read spelled => exact .program (hread.trans read) spelled

lemma put {v : Verbosity} (h : d.Loads file notes result) :
    Event.Put v (notes.map .log) "" (LogLine.allShown v.verbose notes) := by
  cases h with
  | unreadable | notText => exact .nil
  | undecodable | program =>
    rw [List.map_singleton, LogLine.allShown_singleton]
    exact .log rfl rfl

end Disk.Loads

/-- There is a program in a file, or something is wrong. -/
lemma Disk.holdsProgram_or (d : Disk) (file : String) :
    d.HoldsProgram file ∨ ∃ notes e, d.Loads file notes (.error e) := by
  obtain ⟨notes,result,h⟩ := Disk.Loads.total d file
  cases result with
  | ok p => exact .inl ⟨notes,p,h⟩
  | error e => exact .inr ⟨notes,e,h⟩

/-! ### Checking file after file -/

variable {d : Disk} {budget : Nat} {base s : Settings} {verbose quiet json : Bool} {config : Option String}
  {file out out' err err' : String} {files more : List String} {failed failed' : Nat} {notes : List LogLine}
  {options : EngineOptions} {p : Program} {e : CommandError} {c : Command}

namespace Command

/-- What is said of a file that passes. -/
def countLine (quiet : Bool) (file : String) (p : Program) : String :=
  if quiet then "" else file ++ ": " ++ Text.natText p.size ++ " instruction(s)\n"

/-- Going through the files in order leaves `out` and `err` on the two streams, and `failed` of them fail. -/
inductive Checks (d : Disk) (verbose quiet : Bool) : List String → String → String → Nat → Prop
  | done : Checks d verbose quiet [] "" "" 0
  | pass {file out err : String} {files : List String} {failed : Nat} {notes : List LogLine} {p : Program}
      (loads : d.Loads file notes (.ok p)) (rest : Checks d verbose quiet files out err failed) :
      Checks d verbose quiet (file :: files) (countLine quiet file p ++ out)
        (LogLine.allShown verbose notes ++ err) failed
  | fail {file out err : String} {files : List String} {failed : Nat} {notes : List LogLine} {e : CommandError}
      (loads : d.Loads file notes (.error e)) (rest : Checks d verbose quiet files out err failed) :
      Checks d verbose quiet (file :: files) out
        (LogLine.allShown verbose notes ++ (e.brief ++ "\n") ++ err) (failed + 1)

lemma passes_eq {result : Except CommandError Program} (h : d.Loads file notes result) :
    passes d file = result.isOk := by rw [passes, h.loadProgram_eq]

theorem holdsProgram_iff : d.HoldsProgram file ↔ passes d file = true := by
  constructor
  · rintro ⟨notes,p,h⟩
    exact passes_eq h
  · intro h
    obtain hprogram | ⟨notes,e,hloads⟩ := d.holdsProgram_or file
    · exact hprogram
    · rw [passes_eq hloads] at h
      cases h

/-- One file puts out its count, or its error. -/
lemma put_checkFile_of_ok {v : Verbosity} (h : d.Loads file notes (.ok p)) :
    Event.Put v (checkFile d quiet file) (countLine quiet file p) (LogLine.allShown v.verbose notes) := by
  have hsay : Event.Put v
      (if quiet then [] else [.say (file ++ ": " ++ Text.natText p.size ++ " instruction(s)\n")])
      (countLine quiet file p) "" := by
    cases quiet
    · exact .say _
    · exact .nil
  rw [checkFile, h.loadProgram_eq, ← String.append_empty (s := LogLine.allShown v.verbose notes),
    ← String.empty_append (s := countLine quiet file p)]
  exact h.put.append hsay

lemma put_checkFile_of_error {v : Verbosity} (h : d.Loads file notes (.error e)) :
    Event.Put v (checkFile d quiet file) "" (LogLine.allShown v.verbose notes ++ (e.brief ++ "\n")) := by
  rw [checkFile, h.loadProgram_eq]
  exact h.put.append (.complain _)

namespace Checks

theorem total (d : Disk) (verbose quiet : Bool) (files : List String) :
    ∃ out err failed, Checks d verbose quiet files out err failed := by
  induction files with
  | nil => exact ⟨_,_,_,.done⟩
  | cons file files ih =>
    obtain ⟨out,err,failed,hrest⟩ := ih
    obtain ⟨notes,result,hloads⟩ := Disk.Loads.total d file
    cases result with
    | error e => exact ⟨_,_,_,.fail hloads hrest⟩
    | ok p => exact ⟨_,_,_,.pass hloads hrest⟩

lemma put {v : Verbosity} (h : Checks d v.verbose quiet files out err failed) :
    Event.Put v (files.flatMap (checkFile d quiet)) out err := by
  induction h with
  | done => exact .nil
  | pass loads _ ih =>
    rw [List.flatMap_cons]
    exact (put_checkFile_of_ok loads).append ih
  | fail loads _ ih =>
    rw [List.flatMap_cons]
    exact (put_checkFile_of_error loads).append ih

lemma failed_eq (h : Checks d verbose quiet files out err failed) :
    failed = files.countP fun file => !passes d file := by
  induction h with
  | done => rfl
  | pass loads _ ih => rw [List.countP_cons_of_neg (by rw [passes_eq loads]; exact Bool.false_ne_true), ih]
  | fail loads _ ih => rw [List.countP_cons_of_pos (by rw [passes_eq loads]; rfl), ih]

/-- More files are checked as if they were all. -/
lemma append (h : Checks d verbose quiet files out err failed)
    (h' : Checks d verbose quiet more out' err' failed') :
    Checks d verbose quiet (files ++ more) (out ++ out') (err ++ err') (failed + failed') := by
  induction h with
  | done => simpa using h'
  | pass loads _ ih =>
    rw [String.append_assoc, String.append_assoc]
    exact .pass loads ih
  | fail loads _ ih =>
    rw [String.append_assoc, Nat.add_right_comm]
    exact .fail loads ih

end Checks
end Command

/-! ### The reports -/

/-- The error is about the program file, and so from before anything runs. -/
def CommandError.blamesProgram : CommandError → Bool
  | .programUnreadable _ _ | .programUndecodable _ _ => true
  | _ => false

/-- Whatever comes of it, it is not a program file that is to blame. -/
def Effect.PastDecoding {α : Type} (x : Effect α) : Prop :=
  ∀ e, x.result = some (.error e) → e.blamesProgram = false

lemma Disk.Loads.blamesProgram_eq (h : d.Loads file notes (.error e)) : e.blamesProgram = true := by
  cases h <;> rfl

lemma Effect.PastDecoding.bind {α β : Type} {x : Effect α} {f : α → List Event × Except CommandError β}
    (h : x.PastDecoding) (hf : ∀ a e, (f a).2 = .error e → e.blamesProgram = false) :
    (x.bind f).PastDecoding := by
  intro e he
  rw [Effect.bind] at he
  split at he
  · cases he
  · next cause hx =>
    cases he
    exact h _ hx
  · next a hx => exact hf a e (Option.some.inj he)

namespace Command

lemma blamesProgram_of_outcomeOf {status : Status} (h : outcomeOf status = some (.error e)) :
    e.blamesProgram = false := by
  rw [outcomeOf, Option.map_eq_some_iff] at h
  obtain ⟨outcome,_,h⟩ := h
  cases outcome <;> cases h
  rfl

lemma blamesProgram_of_traceResult {r : Run Writer}
    (h : (Program.writtenOutcome r).map traceResult = some (.error e)) : e.blamesProgram = false := by
  obtain ⟨outcome,_,h⟩ := Option.map_eq_some_iff.mp h
  cases outcome with
  | ok value => cases h
  | error cause =>
    cases cause <;> cases h <;> rfl

lemma pastDecoding_writtenToStderr (p : Program) (s : Settings)
    (run : Except (OutputError × Output) (Run Writer)) : (writtenToStderr p s run).PastDecoding := by
  intro e he
  cases run with
  | ok r => exact blamesProgram_of_traceResult he
  | error failure => cases he; rfl

lemma pastDecoding_writtenToFile (p : Program) (s : Settings) (path : String)
    (run : Except (OutputError × Output) (Run Writer)) : (writtenToFile p s path run).PastDecoding := by
  intro e he
  cases run with
  | ok r => exact blamesProgram_of_traceResult he
  | error failure => cases he; rfl

/-- Nothing that running a program can lead to is blamed on its file. -/
lemma pastDecoding_execute (d : Disk) (budget : Nat) (p : Program) (s : Settings) :
    (execute d budget p s).PastDecoding := by
  intro e he
  cases hmode : s.trace.mode with
  | off | log | ringBuffer =>
    simp only [execute, hmode, executeRing] at he
    exact blamesProgram_of_outcomeOf he
  | full =>
    simp only [execute, hmode, executeFull] at he
    split at he
    · exact pastDecoding_writtenToStderr _ _ _ e he
    · split at he
      · cases he
        rfl
      · exact pastDecoding_writtenToFile _ _ _ _ e he

lemma perform_run_of_ok (h : d.Loads file notes (.ok p)) :
    (run file options).perform d budget s = (executeAndSay d budget p s).after (notes.map .log) := by
  simp only [perform, runFile, h.loadProgram_eq]

lemma perform_run_of_error (h : d.Loads file notes (.error e)) :
    (run file options).perform d budget s = { events := notes.map .log, result := some (.error e) } := by
  simp only [perform, runFile, h.loadProgram_eq]

lemma perform_disasm_of_ok (h : d.Loads file notes (.ok p)) :
    (disasm file json).perform d budget s =
      { events := notes.map .log ++ [.say (if json then p.toPrettyJson ++ "\n" else p.listing)]
        result := some (.ok ()) } := by
  simp only [perform, printProgram, h.loadProgram_eq]

lemma perform_disasm_of_error (h : d.Loads file notes (.error e)) :
    (disasm file json).perform d budget s = { events := notes.map .log, result := some (.error e) } := by
  simp only [perform, printProgram, h.loadProgram_eq]

/-- Running a file gets past decoding exactly if there is a program in it. -/
theorem pastDecoding_run_iff : ((run file options).perform d budget s).PastDecoding ↔ d.HoldsProgram file := by
  constructor
  · intro h
    obtain hprogram | ⟨notes,e,hloads⟩ := d.holdsProgram_or file
    · exact hprogram
    · have hblamed := h e (by rw [perform_run_of_error hloads])
      rw [hloads.blamesProgram_eq] at hblamed
      cases hblamed
  · rintro ⟨notes,p,hloads⟩
    rw [perform_run_of_ok hloads]
    exact (pastDecoding_execute d budget p s).bind nofun

end Command

namespace Report

open Command

/-- The last words of a check. -/
def summary (failed total : Nat) : String :=
  if failed = 0 then ""
  else "Error: " ++ Text.natText failed ++ " of " ++ Text.natText total ++ " file(s) failed to decode\n"

lemma report_filesFailed (h : failed ≠ 0) (total : Nat) :
    (CommandError.filesFailed failed total).report = summary failed total := by
  have hreport : (CommandError.filesFailed failed total).report =
      "Error: " ++ (Text.natText failed ++ " of " ++ Text.natText total ++ " file(s) failed to decode") ++ "\n" :=
    rfl
  have hends : " file(s) failed to decode" ++ "\n" = " file(s) failed to decode\n" := by decide
  rw [hreport, summary, if_neg h, ← hends]
  simp only [String.append_assoc]

lemma perform_check (h : Checks d verbose quiet files out err failed) :
    (check files quiet).perform d budget s =
      { events := files.flatMap (checkFile d quiet)
        result := some (if failed = 0 then .ok () else .error (.filesFailed failed files.length)) } := by
  rw [h.failed_eq]
  rfl

theorem gives_check (valid : SettingsFile.load d config = .ok base)
    (h : Checks d verbose quiet files out err failed) :
    (ofInvocation d budget ⟨verbose,config,.check files quiet⟩).Gives (if failed = 0 then 0 else 1) out
      (LogLine.shown verbose (.settings base) ++ err ++ summary failed files.length) := by
  have hput := h.put (v := ⟨verbose,base.trace.mode == .log⟩)
  have hperform : (check files quiet).perform d budget base = _ := perform_check h
  by_cases hf : failed = 0
  · rw [if_pos hf] at hperform ⊢
    rw [summary, if_pos hf, String.append_empty]
    exact gives_ok valid rfl hperform hput
  · rw [if_neg hf] at hperform ⊢
    rw [← report_filesFailed hf]
    exact gives_error valid rfl hperform hput

theorem gives_disasm_of_ok (valid : SettingsFile.load d config = .ok base) (h : d.Loads file notes (.ok p)) :
    (ofInvocation d budget ⟨verbose,config,.disasm file json⟩).Gives 0
      (if json then p.toPrettyJson ++ "\n" else p.listing)
      (LogLine.shown verbose (.settings base) ++ LogLine.allShown verbose notes) := by
  have hput := (h.put (v := ⟨verbose,base.trace.mode == .log⟩)).append
    (.say (if json then p.toPrettyJson ++ "\n" else p.listing))
  rw [String.empty_append, String.append_empty] at hput
  exact gives_ok valid rfl (perform_disasm_of_ok h) hput

/-- A command that loads a file and finds no program in it says so and nothing else. -/
theorem gives_of_loads_error (valid : SettingsFile.load d config = .ok base) (hs : c.settings base = .ok s)
    (h : d.Loads file notes (.error e))
    (hperform : c.perform d budget s = { events := notes.map .log, result := some (.error e) }) :
    (ofInvocation d budget ⟨verbose,config,c⟩).Gives 1 ""
      (LogLine.shown verbose (.settings s) ++ LogLine.allShown verbose notes ++ e.report) :=
  gives_error valid hs hperform h.put

/-- A check succeeds exactly if there is a program in every file. -/
theorem exit_check_iff (valid : SettingsFile.load d config = .ok base) :
    (ofInvocation d budget ⟨verbose,config,.check files quiet⟩).exit = some 0 ↔
      ∀ file ∈ files, d.HoldsProgram file := by
  obtain ⟨out,err,failed,h⟩ := Checks.total d verbose quiet files
  have hzero : failed = 0 ↔ ∀ file ∈ files, d.HoldsProgram file := by
    rw [h.failed_eq, List.countP_eq_zero]
    simp only [holdsProgram_iff, Bool.not_eq_true', Bool.not_eq_false]
  rw [(gives_check valid h).exit_eq, ← hzero]
  by_cases hf : failed = 0 <;> simp [hf]

theorem exit_disasm_iff (valid : SettingsFile.load d config = .ok base) :
    (ofInvocation d budget ⟨verbose,config,.disasm file json⟩).exit = some 0 ↔ d.HoldsProgram file := by
  constructor
  · intro h
    obtain hprogram | ⟨notes,e,hloads⟩ := d.holdsProgram_or file
    · exact hprogram
    · rw [(gives_of_loads_error valid rfl hloads (perform_disasm_of_error hloads)).exit_eq] at h
      cases h
  · rintro ⟨notes,p,hloads⟩
    exact (gives_disasm_of_ok valid hloads).exit_eq

end Report

/-- The text consists of `n` lines, each with its end. -/
def Text.HasLines (text : String) (n : Nat) : Prop :=
  ∃ rows : List (List Char), rows.length = n ∧ (∀ row ∈ rows, '\n' ∉ row) ∧
    text.toList = rows.flatMap (· ++ ['\n'])

lemma Program.hasLines_listing (p : Program) : Text.HasLines p.listing p.size :=
  ⟨_,p.listed_listing.length_eq,p.listed_listing.oneLine,p.toList_listing⟩

namespace Report

open Command

/-- Checking a file, printing it and running it under the settings `base` all judge it alike. -/
structure Agree (d : Disk) (budget : Nat) (verbose : Bool) (config : Option String) (base : Settings)
    (file : String) : Prop where
  check_iff : ∀ quiet,
    (ofInvocation d budget ⟨verbose,config,.check [file] quiet⟩).exit = some 0 ↔ d.HoldsProgram file
  disasm_iff : ∀ json,
    (ofInvocation d budget ⟨verbose,config,.disasm file json⟩).exit = some 0 ↔ d.HoldsProgram file
  run_iff : ∀ options s, (run file options).settings base = .ok s →
    (((run file options).perform d budget s).PastDecoding ↔ d.HoldsProgram file)
  /-- The number in the line of a file that passes is that of the lines of its listing. -/
  counted : ∀ notes p, d.Loads file notes (.ok p) →
    (ofInvocation d budget ⟨verbose,config,.check [file] false⟩).stdout =
      (file ++ ": " ++ Text.natText p.size ++ " instruction(s)\n").toUTF8 ∧
    (ofInvocation d budget ⟨verbose,config,.disasm file false⟩).stdout = p.listing.toUTF8 ∧
    Text.HasLines p.listing p.size
  /-- It is this program that runs. -/
  executed : ∀ notes p, d.Loads file notes (.ok p) → ∀ options s,
    (run file options).perform d budget s = (executeAndSay d budget p s).after (notes.map .log)
  /-- Both commands report the error that a check reports. -/
  refused : ∀ notes e, d.Loads file notes (.error e) →
    (∀ json, (ofInvocation d budget ⟨verbose,config,.disasm file json⟩).Gives 1 ""
      (LogLine.shown verbose (.settings base) ++ LogLine.allShown verbose notes ++ e.report)) ∧
    ∀ options s, (run file options).settings base = .ok s →
      (ofInvocation d budget ⟨verbose,config,.run file options⟩).Gives 1 ""
        (LogLine.shown verbose (.settings s) ++ LogLine.allShown verbose notes ++ e.report)

theorem agree (budget : Nat) (verbose : Bool) (valid : SettingsFile.load d config = .ok base) (file : String) :
    Agree d budget verbose config base file where
  check_iff _ := by rw [exit_check_iff valid, List.forall_mem_singleton]
  disasm_iff _ := exit_disasm_iff valid
  run_iff _ _ _ := pastDecoding_run_iff
  counted notes p h := by
    have hcheck : Checks d verbose false [file] _ _ _ := .pass h .done
    refine ⟨(gives_check valid hcheck).stdout_eq.trans ?_,(gives_disasm_of_ok valid h).stdout_eq,
      p.hasLines_listing⟩
    rw [String.append_empty]
    rfl
  executed _ _ h _ _ := perform_run_of_ok h
  refused _ _ h :=
    ⟨fun _ => gives_of_loads_error valid rfl h (perform_disasm_of_error h),
      fun _ _ hs => gives_of_loads_error valid hs h (perform_run_of_error h)⟩

/-- Under valid settings, a check says of each file what comes of reading it, in order, whatever the other files
come to, and fails if any file does. The same files pass that can be printed, with as many lines as were counted,
and that get past decoding when they are run. Lines of the log are meant without their times. -/
theorem check_judges_each (d : Disk) (budget : Nat) (verbose : Bool) (config : Option String) (base : Settings)
    (valid : SettingsFile.load d config = .ok base) :
    (∀ quiet files, (∃ out err failed, Checks d verbose quiet files out err failed) ∧
      ∀ out err failed, Checks d verbose quiet files out err failed →
        (ofInvocation d budget ⟨verbose,config,.check files quiet⟩).Gives (if failed = 0 then 0 else 1) out
          (LogLine.shown verbose (.settings base) ++ err ++ summary failed files.length)) ∧
    (∀ quiet files, (ofInvocation d budget ⟨verbose,config,.check files quiet⟩).exit = some 0 ↔
      ∀ file ∈ files, d.HoldsProgram file) ∧
    (∀ file, ∃! verdict : List LogLine × Except CommandError Program, d.Loads file verdict.1 verdict.2) ∧
    (∀ (d' : Disk) file, d'.read file = d.read file →
      ∀ notes result, d'.Loads file notes result ↔ d.Loads file notes result) ∧
    (∀ quiet files more, (ofInvocation d budget ⟨verbose,config,.check (files ++ more) quiet⟩).stdout =
      (ofInvocation d budget ⟨verbose,config,.check files quiet⟩).stdout ++
        (ofInvocation d budget ⟨verbose,config,.check more quiet⟩).stdout) ∧
    (∀ quiet files files' out err failed out' err' failed', files.Perm files' →
      Checks d verbose quiet files out err failed → Checks d verbose quiet files' out' err' failed' →
      failed = failed') ∧
    ∀ file, Agree d budget verbose config base file := by
  refine ⟨?_,fun quiet files => exit_check_iff valid,?_,?_,?_,?_,agree budget verbose valid⟩
  · intro quiet files
    exact ⟨Checks.total d verbose quiet files,fun out err failed h => gives_check valid h⟩
  · intro file
    obtain ⟨notes,result,h⟩ := Disk.Loads.total d file
    refine ⟨(notes,result),h,?_⟩
    rintro ⟨notes',result'⟩ h'
    obtain ⟨rfl,rfl⟩ := h.unique h'
    rfl
  · intro d' file hread notes result
    exact ⟨.of_read_eq hread.symm,.of_read_eq hread⟩
  · intro quiet files more
    obtain ⟨out,err,failed,h⟩ := Checks.total d verbose quiet files
    obtain ⟨out',err',failed',h'⟩ := Checks.total d verbose quiet more
    have hboth := h.append h'
    rw [(gives_check valid h).stdout_eq, (gives_check valid h').stdout_eq, (gives_check valid hboth).stdout_eq]
    exact String.toByteArray_append
  · intro quiet files files' out err failed out' err' failed' hperm h h'
    rw [h.failed_eq, h'.failed_eq, hperm.countP_eq]

end Report

namespace Disk

/-- A disk with a program, a program that goes wrong behind its end, and a file that is no text. -/
def mixed : Disk where
  ancestors := []
  has _ := false
  read
    | "good" => .ok "iconst 4 # four\nireturn\n".toUTF8
    | "bad" => .ok "ireturn\nnop\n".toUTF8
    | "raw" => .ok ⟨#[0xff]⟩
    | _ => .error .notFound
  refusal _ := none

lemma loads_mixed_good : mixed.Loads "good" [.loaded "good" 2] (.ok (.ofList [.pushConstant 4, .return])) := by
  have hread : mixed.read "good" = .ok "iconst 4 # four\nireturn\n".toUTF8 := rfl
  have hloads := Loads.of_decode_ok (p := .ofList [.pushConstant 4, .return]) hread rfl
  exact hloads

lemma loads_mixed_bad :
    mixed.Loads "bad" [.loaded "bad" 2] (.error (.programUndecodable "bad" (.unknownOpcode "nop" 1))) := by
  have hread : mixed.read "bad" = .ok "ireturn\nnop\n".toUTF8 := rfl
  have hdecode : Program.decode (Source.instructionLines "ireturn\nnop\n") = .error (.unknownOpcode "nop" 1) := rfl
  have hloads := Loads.of_decode_error hread hdecode
  exact hloads

lemma loads_mixed_raw : mixed.Loads "raw" [] (.error (.programUnreadable "raw" .notText)) :=
  .notText rfl (by decide)

end Disk

namespace Report

open Command
open Disk (mixed loads_mixed_good loads_mixed_bad loads_mixed_raw)

/-- The good file is counted between two bad ones, and it is the only one of them that can be printed and run. -/
theorem check_judges_each_mixed :
    SettingsFile.load mixed none = .ok {} ∧
    (ofInvocation mixed 9 ⟨false,none,.check ["bad", "good", "raw"] false⟩).Gives 1 "good: 2 instruction(s)\n"
      ("Failed to decode bad: Unknown opcode 'nop' at instruction 1\n" ++
        "Failed to read program raw: stream did not contain valid UTF-8\n" ++
        "Error: 2 of 3 file(s) failed to decode\n") ∧
    (ofInvocation mixed 9 ⟨false,none,.disasm "good" false⟩).exit = some 0 ∧
    (ofInvocation mixed 9 ⟨false,none,.disasm "bad" false⟩).exit ≠ some 0 ∧
    ((Command.run "good" {}).perform mixed 9 {}).PastDecoding ∧
    ¬ ((Command.run "bad" {}).perform mixed 9 {}).PastDecoding := by
  have valid : SettingsFile.load mixed none = .ok {} := rfl
  have hgood : mixed.HoldsProgram "good" := ⟨_,_,loads_mixed_good⟩
  have hbad : ¬ mixed.HoldsProgram "bad" := by
    rintro ⟨notes,p,h⟩
    cases (h.unique loads_mixed_bad).2
  obtain ⟨hcheck,_,_,_,_,_,hagree⟩ := check_judges_each mixed 9 false none {} valid
  refine ⟨valid,?_,((hagree "good").disasm_iff false).mpr hgood,?_,?_,?_⟩
  · have hchecks : Checks mixed false false ["bad", "good", "raw"] _ _ _ :=
      .fail loads_mixed_bad (.pass loads_mixed_good (.fail loads_mixed_raw .done))
    have hgives := (hcheck false ["bad", "good", "raw"]).2 _ _ _ hchecks
    refine ⟨hgives.exit_eq,hgives.stdout_eq.trans (congrArg String.toUTF8 ?_),
      hgives.stderr_eq.trans (congrArg String.toUTF8 ?_),hgives.file_eq⟩ <;> decide +kernel
  · exact fun h => hbad (((hagree "bad").disasm_iff false).mp h)
  · exact ((hagree "good").run_iff {} {} rfl).mpr hgood
  · exact fun h => hbad (((hagree "bad").run_iff {} {} rfl).mp h)

end Report
end StackMachine
