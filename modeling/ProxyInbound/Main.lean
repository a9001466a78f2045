import ProxyInbound.CommandLine

/-!
# The program

Reads the command line, the environment and the input, and prints what the run leaves behind.
-/

namespace ProxyInbound.Program

open CommandLine

/-- Everything on standard input, line by line. -/
partial def readAll (stream : IO.FS.Stream) (sofar : String) : IO String := do
  let line ← stream.getLine
  if line.isEmpty then pure sofar else readAll stream (sofar ++ line)

/-- The text of a source, nothing if it cannot be read. -/
def fetch (source : Source) : IO (Option String) :=
  match source with
  | .nowhere => pure none
  | .standardInput =>
    try
      let stream ← IO.getStdin
      some <$> readAll stream ""
    catch _ => pure none
  | .file path =>
    try some <$> IO.FS.readFile path
    catch _ => pure none

/-- The result of a request. -/
def perform (request : Request) : IO Result := do
  match request with
  | .run invocation =>
    let text ← fetch invocation.source
    pure (invocation.result text)
  | other => pure (other.result?.getD Result.misuse)

end ProxyInbound.Program

/-- Run the command line. -/
def main (args : List String) : IO UInt32 := do
  let input ← IO.getEnv "XP_FORM_INPUT"
  let compact ← IO.getEnv "XP_FORM_COMPACT"
  let request := ProxyInbound.CommandLine.request ⟨input, compact⟩ args
  let result ← ProxyInbound.Program.perform request
  IO.print result.stdout
  match result.stderr with
  | some line => IO.eprintln line
  | none => pure ()
  pure result.exit.toUInt32
