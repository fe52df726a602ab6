import Microbench.Sink
import Microbench.Sink.Writer
import Microbench.Table

/-!
Progress and results for people. Every event has a text; most are shown at once, while plain lines,
the values of single threads and raw bytes wait until something else is shown.
-/

namespace Microbench.Pretty

def iterationsText (mode : Mode) (i : Iterations) : String :=
  if i.count = 0 then "<none>"
  else
    let plural := if i.count = 1 then "" else "s"
    let each := if mode = .singleShot then "single-shot" else i.time.text
    s!"{i.count} iteration{plural}, {each} each"

def startText (d : Descriptor) (p : Params) : String :=
  let plural := if d.threads = 1 then "" else "s"
  let together := if p.synchronized then "will synchronize iterations" else "no synchronization"
  "# Warmup: " ++ iterationsText d.mode p.warmup ++ "\n# Measurement: "
    ++ iterationsText d.mode p.measurement ++ s!"\n# Threads: {d.threads} thread{plural}, {together}"
    ++ "\n# Benchmark mode: " ++ d.mode.longLabel ++ "\n# Running: " ++ d.name ++ "\n"

def iterationText (index : UInt32) : IterationKind → String
  | .warmup => "# Warmup Iteration " ++ padLeft 3 (toString index) ++ ": "
  | .measurement => "Iteration " ++ padLeft 3 (toString index) ++ ": "

def sampleText (s : Sample) : String :=
  let named := s.secondary.toList.map fun (name, value) =>
    "\n                  " ++ name ++ ": " ++ value.text
  s.primary.text ++ String.join named ++ "\n"

def resultText : Option Run → String
  | some run => "\n" ++ run.summary ++ "\n\n"
  | none => "\n"

def headings : List String := ["Benchmark", "Mode", "Threads", "Cnt", "Score", "Units"]

def cells (d : Descriptor) (run : Run) : List String :=
  [d.name, d.mode.label, toString d.threads, toString run.scores.length, run.primary.scoreText,
    run.primary.scoreUnit]

/-- Each column is as wide as its widest cell; of its heading the bytes are counted. -/
def widths (rows : List (List String)) : List Nat :=
  rows.foldl (fun widths row => List.zipWith max widths (row.map String.length))
    (headings.map String.utf8ByteSize)

def table (results : List (Descriptor × Run)) : List String :=
  let rows := results.map fun (d, run) => cells d run
  let widths := widths rows
  let separator := Table.separator widths
  [separator, Table.row widths headings, separator] ++ rows.map (Table.row widths) ++ [separator]

/-- What is said of a benchmark whose result comes from several runs. -/
def aggregateText (d : Descriptor) (run : Run) : String :=
  "\n\"" ++ d.text ++ s!"\", aggregate over {run.contributions} forked runs:\n" ++ run.summary ++ "\n"

def endText (results : List (Descriptor × Run)) : String :=
  let aggregates := (results.filter fun (_, run) => run.contributions > 1).map
    fun (d, run) => aggregateText d run
  let table := if results.isEmpty then [] else "" :: table results
  String.join aggregates ++ "\n\n# Run complete.\n" ++ String.join (table.map (· ++ "\n"))

/-- The text of an event, in the pieces in which it is written. -/
def pieces (verbose : Bool) : Event → List ByteArray
  | .runStart => []
  | .runEnd results => [(endText results.toList).toByteArray]
  | .call c => match c with
    | .iterationStart _ _ index kind => [(iterationText index kind).toByteArray]
    | .iterationEnd _ _ _ _ sample => [(sampleText sample).toByteArray]
    | .benchmarkStart d p => [(startText d p).toByteArray]
    | .benchmarkEnd _ result => [(resultText result).toByteArray]
    | .detailedResults _ _ sample =>
      let scores := ", ".intercalate (sample.rawPrimary.map Value.scoreText)
      ["          Results per thread: [".toByteArray, scores.toByteArray, "]\n".toByteArray]
    | .exception message => [("<failure>\n\n" ++ message ++ "\n\n").toByteArray]
    | .println line => [line.toByteArray, "\n".toByteArray]
    | .verbosePrintln line => if verbose then [line.toByteArray, "\n".toByteArray] else []
    | .writeByte byte => [⟨#[byte]⟩]
    | .writeBytes bytes => [bytes]
    | .flush | .close => []

def shownAtOnce : Event → Bool
  | .runStart => false
  | .runEnd _ => true
  | .call c => match c with
    | .detailedResults .. | .println _ | .verbosePrintln _ | .writeByte _ | .writeBytes _ => false
    | _ => true

def write (verbose : Bool) (e : Event) (w : Writer) : Writer :=
  let w := (pieces verbose e).foldl Writer.put w
  if shownAtOnce e then w.flush else w

end Pretty

def Sink.pretty (verbose : Bool) : Sink Writer := fun e w => (.ok (), Pretty.write verbose e w)

/-- Open a file for a sink. `refused` tells why a path cannot be written to, if it cannot. -/
def Sink.create (refused : String → Option String) (path : String) : Except Failure Unit :=
  match refused path with
  | some reason => .error (.context ("Failed to create output file: " ++ path) (.other reason))
  | none => .ok ()

end Microbench
