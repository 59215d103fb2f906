import Mathlib.Tactic.Lemma
import StackMachine.Shell.Report

/-! What a command leaves on the two streams. The events of a command are turned into bytes one by one; put
together they are the texts of a report, between the settings in the log and the error at its end. -/
namespace StackMachine

namespace Event

lemma concat_append (pieces more : List ByteArray) :
    concat (pieces ++ more) = concat pieces ++ concat more := by
  have : Std.Associative fun a b : ByteArray => a ++ b := ⟨fun _ _ _ => ByteArray.append_assoc⟩
  have hmore : more.foldl (· ++ ·) (concat pieces ++ .empty) = concat pieces ++ concat more := List.foldl_assoc
  rw [ByteArray.append_empty] at hmore
  rw [concat, List.foldl_append]
  exact hmore

/-- The events leave these texts on standard output and on standard error. -/
structure Put (v : Verbosity) (events : List Event) (out err : String) : Prop where
  stdout_eq : concat (events.map stdout) = out.toUTF8
  stderr_eq : concat (events.map (stderr v)) = err.toUTF8

namespace Put

variable {v : Verbosity} {events more : List Event} {out out' err err' : String}

lemma nil : Put v [] "" "" := ⟨rfl,rfl⟩

lemma append (h : Put v events out err) (h' : Put v more out' err') :
    Put v (events ++ more) (out ++ out') (err ++ err') where
  stdout_eq := by
    rw [List.map_append, concat_append, h.stdout_eq, h'.stdout_eq]
    exact String.toByteArray_append.symm
  stderr_eq := by
    rw [List.map_append, concat_append, h.stderr_eq, h'.stderr_eq]
    exact String.toByteArray_append.symm

lemma say (text : String) : Put v [.say text] text "" where
  stdout_eq := ByteArray.empty_append
  stderr_eq := rfl

lemma complain (text : String) : Put v [.complain text] "" text where
  stdout_eq := rfl
  stderr_eq := ByteArray.empty_append

end Put
end Event

namespace LogLine

/-- What a line of the log that is not of the machine adds to standard error. -/
def shown (verbose : Bool) (l : LogLine) : String := if verbose then l.text else ""

def allShown (verbose : Bool) (ls : List LogLine) : String := String.join (ls.map (shown verbose))

lemma allShown_singleton (verbose : Bool) (l : LogLine) : allShown verbose [l] = l.shown verbose := by
  rw [allShown, List.map_singleton, String.join_cons, String.join_nil, String.append_empty]

end LogLine

lemma Event.Put.log {v : Verbosity} {l : LogLine} (hlevel : l.level = .debug) (hmachine : l.ofMachine = false) :
    Event.Put v [.log l] "" (l.shown v.verbose) where
  stdout_eq := rfl
  stderr_eq := by
    rw [List.map_singleton, Event.concat, List.foldl_cons, List.foldl_nil, ByteArray.empty_append, Event.stderr,
      LogLine.visible, hlevel, hmachine, LogLine.shown]
    cases v.verbose <;> simp

/-- The report gives this exit code and these texts on the two streams, and no file. -/
structure Report.Gives (r : Report) (code : Nat) (out err : String) : Prop where
  exit_eq : r.exit = some code
  stdout_eq : r.stdout = out.toUTF8
  stderr_eq : r.stderr = err.toUTF8
  file_eq : r.file = none

namespace Report

variable {v : Verbosity} {events : List Event} {out err : String} {e : CommandError}

lemma gives_of_ok (h : Event.Put v events out err) :
    (ofEffect v { events, result := some (.ok ()) }).Gives 0 out err :=
  ⟨rfl,h.stdout_eq,h.stderr_eq,rfl⟩

lemma gives_of_error (h : Event.Put v events out err) :
    (ofEffect v { events, result := some (.error e) }).Gives 1 out (err ++ e.report) := by
  refine ⟨rfl,h.stdout_eq,?_,rfl⟩
  change Event.concat (events.map (Event.stderr v)) ++ e.report.toUTF8 = (err ++ e.report).toUTF8
  rw [h.stderr_eq]
  exact String.toByteArray_append.symm

/-! ### Under valid settings -/

variable {d : Disk} {budget : Nat} {base s : Settings} {verbose : Bool} {config : Option String} {c : Command}

/-- With valid settings a command is carried out under them, and the log begins with them. -/
lemma ofInvocation_eq (valid : SettingsFile.load d config = .ok base) (hs : c.settings base = .ok s) :
    ofInvocation d budget ⟨verbose,config,c⟩ =
      ofEffect ⟨verbose,s.trace.mode == .log⟩ ((c.perform d budget s).after [.log (.settings s)]) := by
  have hload : SettingsFile.loadWith Toml.read d config = .ok base := valid
  simp only [ofInvocation, ofInvocationWith, hload, hs]

lemma put_settings (h : Event.Put v events out err) :
    Event.Put v (.log (.settings s) :: events) out (LogLine.shown v.verbose (.settings s) ++ err) := by
  have hput := (Event.Put.log (l := .settings s) rfl rfl).append h
  rwa [String.empty_append] at hput

lemma gives_ok (valid : SettingsFile.load d config = .ok base) (hs : c.settings base = .ok s)
    (hperform : c.perform d budget s = { events, result := some (.ok ()) })
    (hput : Event.Put ⟨verbose,s.trace.mode == .log⟩ events out err) :
    (ofInvocation d budget ⟨verbose,config,c⟩).Gives 0 out (LogLine.shown verbose (.settings s) ++ err) := by
  rw [ofInvocation_eq valid hs, hperform]
  exact gives_of_ok (put_settings hput)

lemma gives_error (valid : SettingsFile.load d config = .ok base) (hs : c.settings base = .ok s)
    (hperform : c.perform d budget s = { events, result := some (.error e) })
    (hput : Event.Put ⟨verbose,s.trace.mode == .log⟩ events out err) :
    (ofInvocation d budget ⟨verbose,config,c⟩).Gives 1 out
      (LogLine.shown verbose (.settings s) ++ err ++ e.report) := by
  rw [ofInvocation_eq valid hs, hperform]
  exact gives_of_error (put_settings hput)

end Report
end StackMachine
