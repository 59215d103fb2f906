import StackMachine.Proofs.Paths
import StackMachine.Shell.Report

/-! Settings in layers. The settings file is looked for upwards from the working directory; each setting comes
from the command line, else from the file, else it has its default; and the sizes among them are never
zero. -/
namespace StackMachine

/-! ### The fields of a file -/

namespace Datum

/-- The value of one of the named fields: by name in a record, by position in a list. -/
def field? (names : List String) (name : String) : Datum → Option Datum
  | .record members => (members.find? (·.1 == name)).map (·.2)
  | .list items => items[names.idxOf name]?
  | _ => none

end Datum

/-! ### What a file gives -/

/-- Each setting is that of the first layer that gives it: the command line, the file, the defaults. -/
structure Settings.Layered (flags file : EngineOptions) (s : Settings) : Prop where
  localsCapacity : s.localsCapacity = (flags.locals.or file.locals).getD 10
  mode : s.trace.mode = (flags.mode.or file.mode).getD .off
  ringSize : s.trace.ringSize = (flags.ringSize.or file.ringSize).getD 100
  outputPath : s.trace.outputPath = flags.outputPath.or file.outputPath
  format : s.trace.format = (flags.format.or file.format).getD .text

namespace SettingsFile

/-- A field of the engine in a settings file. -/
def engineField? (name : String) (doc : Datum) : Option Datum :=
  (doc.field? ["engine"] "engine").bind (Datum.field? Settings.fieldNames name)

/-- A field of the trace in a settings file. -/
def traceField? (name : String) (doc : Datum) : Option Datum :=
  (engineField? "trace" doc).bind (Datum.field? TraceSettings.fieldNames name)

/-- What a settings file gives, as if it were given on the command line. -/
def layer (doc : Datum) : EngineOptions where
  locals := (engineField? "locals_capacity" doc).bind Datum.size?
  mode := (traceField? "mode" doc).bind fun d => (d.unitTag? Toml.dialect).bind TraceMode.ofName?
  outputPath := (traceField? "output_path" doc).bind Datum.text?
  format := (traceField? "format" doc).bind fun d => (d.unitTag? Toml.dialect).bind TraceFormat.ofName?
  ringSize := (traceField? "ring_buffer_size" doc).bind Datum.size?

end SettingsFile

/-! ### Options over a file -/

namespace Settings

variable {s base : Settings} {file o : EngineOptions}

/-- Options go over a file and leave it its place before the defaults. -/
lemma Layered.merge (h : base.Layered {} file) (o : EngineOptions) : (o.merge base).Layered o file where
  localsCapacity := (congrArg o.locals.getD h.localsCapacity).trans Option.getD_or.symm
  mode := (congrArg o.mode.getD h.mode).trans Option.getD_or.symm
  ringSize := (congrArg o.ringSize.getD h.ringSize).trans Option.getD_or.symm
  outputPath := by
    have hbase : base.trace.outputPath = file.outputPath := h.outputPath
    rw [← hbase, EngineOptions.merge]
    cases o.outputPath <;> rfl
  format := (congrArg o.format.getD h.format).trans Option.getD_or.symm

end Settings

namespace EngineOptions

variable {o : EngineOptions} {base s : Settings}

end EngineOptions

namespace Command

variable {c : Command} {o : EngineOptions} {base : Settings}

end Command

/-! ### The file that is used -/

namespace SettingsFile

variable {d : Disk} {directory path : String}

/-- What the file that is used gives, if one is used. -/
inductive Supplies (toml : String → Option Datum) (d : Disk) : Option String → EngineOptions → Prop
  | nothing : Supplies toml d none {}
  | file {path text : String} {doc : Datum} (readable : d.readText path = .ok text)
      (parsed : toml text = some doc) : Supplies toml d (some path) (layer doc)

variable {toml : String → Option Datum}

lemma Supplies.unique {used : Option String} {file file' : EngineOptions} (h : Supplies toml d used file)
    (h' : Supplies toml d used file') : file = file' := by
  cases h with
  | nothing => cases h'; rfl
  | file hread hparse =>
    cases h' with
    | file hread' hparse' =>
      rw [hread] at hread'
      cases hread'
      rw [hparse] at hparse'
      cases hparse'
      rfl

end SettingsFile

namespace Tree

open SettingsFile

variable {t : Tree} {cwd : List String}

end Tree
end StackMachine
