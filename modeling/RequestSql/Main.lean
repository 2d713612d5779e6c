import RequestSql.Console.Session

/-!
# The console

Reads the configuration file that the command line names, or the usual one, and then
commands from standard input until they end.
-/

open RequestSql

/-- The content of a file, if it exists. -/
def contentOf (path : String) : IO (Option ByteArray) := do
  try
    return some (← IO.FS.readBinFile path)
  catch _ => return none

/-- Prints lines at once. -/
def printLines (lines : List String) : IO Unit := do
  let output ← IO.getStdout
  for line in lines do
    output.putStrLn line
  output.flush

/-- Answers the lines of input one by one, up to the end of the session; gives the exit
code. -/
partial def converse (config : Config) (input : IO.FS.Stream) (session : Session) : IO UInt32 := do
  let typed ← input.getLine
  if typed.isEmpty then return 0
  match typedLine? typed with
  | none => return Console.unreadableCode
  | some line =>
    match session.step config (.ofLine line) with
    | none => return 0
    | some (next, printed) =>
      printLines printed
      converse config input next

def main (args : List String) : IO UInt32 := do
  let path := args.headD "collection_config.json"
  let (config, source) := Console.configuration path (Config.load path (← contentOf path))
  printLines (Console.greeting source config)
  converse config (← IO.getStdin) (Session.initial config)
