import TableTypes.CommandLine.Program
import TableTypes.Database.Recorded
import TableTypes.Json.Read
import Std.Time.DateTime

/-!
# The command

The program on a real machine. Its database is the record of answers that stands on the standard
input; the settings file, the variables and the clock are those of the machine. What it did is
then carried out: the module is written, the outputs are printed, and the exit code is returned.
-/

namespace TableTypes.CommandLine

open Files (Path Tree)

/-- The variables that the program reads. -/
def variableNames : List String :=
  Options.names.map Options.variableName ++
    ["DATABASE_URL", "POSTGRES_HOST", "POSTGRES_PORT", "POSTGRES_DB", "POSTGRES_USER",
      "POSTGRES_PASSWORD", "POSTGRES_SSLMODE", "LOG_FORMAT"]

/-- The variables that are set. -/
def readEnvironment : IO Database.Environment :=
  variableNames.filterMapM fun name => do
    return (← IO.getEnv name).map fun value => (name, value)

/-- The time on the clock. -/
def readClock : IO Moment := do
  let now ← Std.Time.Timestamp.now
  let there := Std.Time.PlainDateTime.ofWallTime
    (Std.Time.WallTime.ofTimestamp now Std.Time.TimeZone.Offset.zero)
  return ⟨⟨there.date.year.toInt.toNat, there.date.month.val.toNat, there.date.day.val.toNat⟩,
    there.time.hour.val.toNat, there.time.minute.val.toNat, there.time.second.val.toNat,
    there.time.nanosecond.val.toNat / 1000, some 0⟩

/-- A tree with what stands on the disk at a path. What cannot be read as a file, though it is
there, counts as a directory. -/
def readTree (path : Path) : IO Tree := do
  try
    return Tree.leadingTo path (.file (← IO.FS.readFile path.text))
  catch
    | .noFileOrDirectory .. => return {}
    | _ => return Tree.leadingTo path .directory

/-- The settings file that the arguments name. -/
def readFiles (arguments : Arguments) : IO Tree :=
  match arguments.config with
  | some path => readTree path
  | none => return {}

/-- The record on the standard input. Without a record there are no rows. -/
def readRecord : IO Value := do
  let text ← (← IO.getStdin).readToEnd
  return (Json.read? text).getD .null

/-- What the program is started with on this machine. Nothing is read for a command line that
leads to no run. -/
def readStart (texts : List String) : IO Start := do
  match Arguments.read texts with
  | .error _ => return { arguments := texts, database := .ok fun _ => .ok [] }
  | .ok arguments =>
    return {
      arguments := texts
      environment := ← readEnvironment
      files := ← readFiles arguments
      database := Database.ofRecord (← readRecord) }

/-- Write the module where a report has put it. -/
def writeOutput (texts : List String) (report : Report) : IO Unit := do
  if report.ending ≠ .done then return
  match Arguments.read texts with
  | .ok { output := some path, .. } =>
    match report.files.read path with
    | .ok text => do
      IO.FS.createDirAll path.parent.text
      IO.FS.writeFile path.text text
    | .error _ => return
  | _ => return

/-- Run the program on this machine. -/
def execute (texts : List String) : IO UInt32 := do
  let report := report (← readStart texts)
  let now ← readClock
  writeOutput texts report
  IO.print report.stdout
  IO.eprint (report.stderr now ⟨"Main.lean", 1, "main"⟩)
  match report.ending with
  | .broken breakdown => throw (IO.userError breakdown.message)
  | ending => return (ending.code?.getD 1).toUInt32

end TableTypes.CommandLine

/-- The program takes its arguments from the command line. -/
def main (texts : List String) : IO UInt32 :=
  TableTypes.CommandLine.execute texts
