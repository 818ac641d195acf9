import TableTalk.Evaluation.Report

/-!
# TableTalk.Main

The command line. It runs an evaluation on the questions that standard input holds, or on the
standard ones if there are none, and prints what the run says and then its report. Settings come
from the environment; the five arguments are the year, month, day, hour and minute on the report.
-/

namespace TableTalk.CommandLine

def settingNames : List String :=
  ["API_KEY", "DATASET_SIZE", "DATASET_SEED", "API_PORT", "LOG_LEVEL"]

def timeOf? (arguments : List String) : Option Timestamp :=
  match arguments.map String.toNat? with
  | [some year, some month, some day, some hour, some minute] =>
    some { year, month, day, hour, minute }
  | _ => none

def environment : IO Environment := do
  let values ← settingNames.mapM fun name => do
    return (← IO.getEnv name).map fun value => (name, value)
  return values.filterMap id

-- What is left of a stream, behind `before`.
partial def contentAfter (before : String) (input : IO.FS.Stream) : IO String := do
  let line ← input.getLine
  if line.isEmpty then return before else contentAfter (before ++ line) input

def run (arguments : List String) : IO UInt32 := do
  match timeOf? arguments with
  | none =>
    IO.eprintln "usage: YEAR MONTH DAY HOUR MINUTE < QUESTIONS"
    return 2
  | some now =>
    let configuration : Configuration := { environment := ← environment }
    let content ← contentAfter "" (← IO.getStdin)
    let questions := if content.isEmpty then none else some content
    let (ran, _) := Evaluation.run configuration questions now "standard output" {}
    match ran.outcome with
    | .ok run =>
      IO.print run.printed
      IO.print run.report
      return 0
    | .error e =>
      IO.eprintln (e.message configuration.wording)
      return 1

end TableTalk.CommandLine

/-- The program: runs an evaluation. -/
def main (arguments : List String) : IO UInt32 :=
  TableTalk.CommandLine.run arguments
