import Microbench.Registry
import Microbench.Text.Quoted

/-!
A definition in one line for logs. The workload itself has no text.
-/

namespace Microbench

def Mode.logName : Mode → String
  | throughput => "Throughput"
  | averageTime => "AverageTime"
  | sampleTime => "SampleTime"
  | singleShot => "SingleShot"
  | all => "All"

def TimeUnit.logName : TimeUnit → String
  | nanoseconds => "Nanoseconds"
  | microseconds => "Microseconds"
  | milliseconds => "Milliseconds"
  | seconds => "Seconds"
  | minutes => "Minutes"
  | hours => "Hours"
  | days => "Days"

def settingText {α : Type} (text : α → String) : Option α → String
  | none => "None"
  | some x => "Some(" ++ text x ++ ")"

def Definition.describe (d : Definition) : String :=
  "BenchmarkDefinition \x7b name: " ++ Text.quoted d.name ++ ", mode: " ++ d.mode.logName
    ++ s!", threads: {d.threads}, forks: " ++ settingText toString d.forks
    ++ ", warmup_forks: " ++ settingText toString d.warmupForks
    ++ ", time_unit: " ++ settingText TimeUnit.logName d.unit ++ ", .. \x7d"

end Microbench
