import StackMachine.Data.Datum
import StackMachine.Settings

/-! Settings read from data. What is missing takes its default. -/
namespace StackMachine

/-- A field that is missing takes the default; one that is present has to fit. -/
def Datum.fieldOr {α : Type} (default : α) (read : Datum → Option α) : Option Datum → Option α
  | none => some default
  | some d => read d

/-- A path, or nothing. -/
def Datum.path? : Datum → Option (Option String)
  | .null => some none
  | .text s => some (some s)
  | _ => none

namespace TraceSettings

def fieldNames : List String := ["mode", "ring_buffer_size", "output_path", "format"]

def ofDatum? (n : Datum.Dialect) (d : Datum) : Option TraceSettings :=
  let default : TraceSettings := {}
  match d.fields? n fieldNames with
  | some [mode, ringSize, outputPath, format] => do
    let mode ← Datum.fieldOr default.mode (fun d => (d.unitTag? n).bind TraceMode.ofName?) mode
    let ringSize ← Datum.fieldOr default.ringSize Datum.size? ringSize
    let outputPath ← Datum.fieldOr default.outputPath Datum.path? outputPath
    let format ← Datum.fieldOr default.format (fun d => (d.unitTag? n).bind TraceFormat.ofName?) format
    some { mode, ringSize, outputPath, format }
  | _ => none

end TraceSettings

namespace Settings

def fieldNames : List String := ["locals_capacity", "trace"]

def ofDatum? (n : Datum.Dialect) (d : Datum) : Option Settings :=
  let default : Settings := {}
  match d.fields? n fieldNames with
  | some [locals, trace] => do
    let localsCapacity ← Datum.fieldOr default.localsCapacity Datum.size? locals
    let trace ← Datum.fieldOr default.trace (TraceSettings.ofDatum? n) trace
    some { localsCapacity, trace }
  | _ => none

/-- The settings in a file, which stand under `engine`. -/
def ofFile? (n : Datum.Dialect) (d : Datum) : Option Settings :=
  match d.fields? n ["engine"] with
  | some [engine] => Datum.fieldOr {} (ofDatum? n) engine
  | _ => none

end Settings
end StackMachine
