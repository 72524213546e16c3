import Switchyard.Cli.Run

/-!
  The program.  It reads its configuration, writes its log, and serves until its input ends.
-/

namespace Switchyard

/-- What stands at a path. -/
def sourceAt (path : String) : IO Config.Source := do
  try
    return .file (← IO.FS.readBinFile path).toList
  catch
    | .noFileOrDirectory .. => return .missing
    | _ => return .directory

/-- A log line. -/
def logLine (e : Event) : String :=
  e.level.text ++ " " ++ e.message ++ String.join (e.fields.map fun (k, v) => " " ++ k ++ "=" ++
    match v with
    | .text s => s
    | .count n => Number.natText n
    | .flag b => if b then "true" else "false")

/-- Run the program to its exit code. -/
def perform (args : List String) : IO UInt32 := do
  let source ← match Cli.readArgs args with
    | .ok (.run (some path)) => sourceAt path
    | _ => pure .missing
  match Cli.run args (fun _ => source) .isolated with
  | .printed code stdout stderr =>
    unless stdout.isEmpty do IO.println stdout
    IO.eprint stderr
    return code.toUInt32
  | .ran run =>
    run.opening.forM fun e => IO.println (logLine e)
    if run.serving?.isSome then discard (← IO.getStdin).getLine
    run.closing.forM fun e => IO.println (logLine e)
    IO.eprint run.stderr
    return run.code.toUInt32

end Switchyard

def main (args : List String) : IO UInt32 := Switchyard.perform args
