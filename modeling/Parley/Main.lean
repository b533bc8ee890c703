import Parley.Demo.Basic
import Parley.Demo.Samples
import Parley.Library.Check

/-!
# The command line

Two commands: `verify` loads and checks the dialogs of a data folder, `demo` lets the player talk to a
guard and a merchant. Both work on the sample dialogs if they are given nothing else.
-/

namespace Parley.Main

/-- A file or folder on disk, with everything in it. -/
partial def readEntry (path : String) : IO Entry := do
  let file := System.mkFilePath [path]
  if ← file.isDir then
    let inner ← (← file.readDir).toList.mapM fun e => do
      pure (e.fileName.toList, ← readEntry e.path.toString)
    pure (.folder inner)
  else
    try
      pure (.file (← IO.FS.readBinFile path))
    catch _ => pure (.folder [])

/-- The database of a data folder on disk, which need not exist. -/
def databaseAt (path : String) : IO Database := do
  let folder ← if ← (System.mkFilePath [path]).pathExists then some <$> readEntry path else pure none
  pure { location := path.toList, folder := folder }

/-- The database of the samples. -/
def sampleDatabase : Database :=
  { location := "samples".toList, folder := some Demo.samples }

/-- Writes an entry of the log. -/
def report (e : LogEntry) : IO Unit :=
  let severity := match e.severity with
    | .info => "INFO"
    | .warning => "WARNING"
    | .error => "ERROR"
  IO.eprintln (severity ++ " " ++ e.wording)

/-- Writes what a fault says and gives the exit code for it. -/
def giveUp (f : Fault) : IO UInt32 := do
  IO.eprintln (f.message?.getD (reprStr f))
  pure 1

/-- Checks a database, and gives the exit code for what has been found. -/
def verify (db : Database) : IO UInt32 := do
  let c := db.check
  for n in c.log do
    report n.entry
  match c.result with
  | .error f => giveUp f
  | .ok passed => pure (if passed then 0 else 1)

partial def play (d : Demo) : IO UInt32 := do
  match d.step with
  | .write line next =>
    IO.println line.str
    play next
  | .read prompt next =>
    let output ← IO.getStdout
    output.putStr prompt.str
    output.flush
    let line ← (← IO.getStdin).getLine
    play (next (if line.isEmpty then none else some (line.toList.filter (· ≠ '\n'))))
  | .report e next =>
    report e
    play next
  | .pass next => play next
  | .stop (.ok ()) => pure 0
  | .stop (.error f) => giveUp f

/-- Lets the player talk to the agents of a database. -/
def demo (settings : Settings) (db : Database) : IO UInt32 := do
  let opening := Demo.begin settings db
  for e in opening.log do
    report e
  match opening.demo with
  | .error f => giveUp f
  | .ok none => pure 0
  | .ok (some d) => play d

/-- The demo with the settings in a file. -/
def demoWith (path : String) : IO UInt32 := do
  match Settings.ofFile (← readEntry path) with
  | .error f => giveUp f
  | .ok (settings, log) =>
    for e in log do
      report e
    demo settings (← databaseAt ((Settings.textOf? settings.dataPath).getD []).str)

/-- What is written if a command is not understood. -/
def usage : String :=
  "usage: parley verify [DATA_PATH]\n       parley demo [--config FILE]"

end Parley.Main

/-- Carries out the command that is given. -/
def main (args : List String) : IO UInt32 :=
  match args with
  | ["verify"] => Parley.Main.verify Parley.Main.sampleDatabase
  | ["verify", path] => do Parley.Main.verify (← Parley.Main.databaseAt path)
  | ["demo"] => Parley.Main.demo Parley.Demo.settings Parley.Main.sampleDatabase
  | ["demo", "--config", path] => Parley.Main.demoWith path
  | _ => do
    IO.eprintln Parley.Main.usage
    pure 2
