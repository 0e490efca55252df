/-
  File:      Portfolio/Main.lean
  Subject:   The program in the world.

  Reads the arguments, the environment, one file and the lines that are
  typed; all that is decided is decided in `Portfolio.Program`.
-/
import Portfolio.Program.Run

namespace Portfolio.World

open Portfolio.Program

/-- The bytes of a file, or why there are none. -/
def readBytes (path : String) : IO (Except ReadFault ByteArray) := do
  try
    return .ok (← IO.FS.readBinFile path)
  catch
    | .noFileOrDirectory .. => return .error .missing
    | .inappropriateType .. => return .error .belowFile
    | _ => return .error .directory

/-- The content file of the settings, read ahead. -/
def readerOf (s : Settings) : IO Content.Reader := do
  match s.dataPath with
  | none => return fun _ => .error .missing
  | some path =>
    let bytes ← readBytes (Content.cleanPath path)
    return fun _ => bytes

/-- The words for data that the program cannot handle. -/
def faultText : DataFault → String
  | .notAnObject => "the profile is not an object"
  | .noItems => "the records are not a list"
  | .notText => "an attachment holds something else than text"
  | .longInteger => "an integer has too many digits"
  | .rootIsFile => "the root is a file"
  | .notUtf8 => "the file is not text"
  | .nullInPath => "the path holds a null character"
  | .levelIsText | .levelIsTable => "the logging level is a reserved word"
  | .uncuttable => "a line has no place to be cut"
  | .cursorBeyondText => "the cursor is beyond the text"

/-- Writes to the two streams. -/
def emit (w : Written) : IO Unit := do
  IO.print w.out
  IO.eprint w.err

/-- The last that is written, and the status. -/
def leave (w : Written) (ended : Except DataFault Nat) : IO UInt32 := do
  emit w
  match ended with
  | .ok status => return status.toUInt32
  | .error f =>
    IO.eprintln (faultText f)
    return 1

/-- Reads lines until the console closes. -/
partial def loop (t : Terminal) (least : Nat) (s : Session) (input output : IO.FS.Stream) :
    IO UInt32 := do
  output.putStr (prompt s)
  output.flush
  let line ← input.getLine
  if line.isEmpty then return 0
  match turn t least s line with
  | .ends written ended => leave written ended
  | .goes written next => do
    emit written
    loop t least next input output

end Portfolio.World

open Portfolio Portfolio.Program Portfolio.World

/-- The program. -/
def main (args : List String) : IO UInt32 := do
  match parseArguments args with
  | .error e => leave ⟨e.stdout, e.stderr⟩ (.ok e.status)
  | .ok asked =>
    let env : Environment := {
      data := ← IO.getEnv "FOLIOFS_DATA"
      logLevel := ← IO.getEnv "FOLIOFS_LOG_LEVEL"
      startDirectory := ← IO.getEnv "FOLIOFS_START_DIR" }
    let read ← readerOf ((Settings.ofEnvironment env).override asked.overrides)
    match begin .folding env read asked with
    | .over tr => leave tr.written tr.ended
    | .console written least s => do
      emit written
      loop .folding least s (← IO.getStdin) (← IO.getStdout)
