import RouterMetrics.Program

/-! The program on a console: requests are lines of input, and answers are written out. -/

namespace RouterMetrics.Console

open RouterMetrics.Config (Environment PathFault)

/-- The names that the program looks up in its environment. -/
def settingNames : List String :=
  ["MIKROTIK_USER", "MIKROTIK_PASSWORD", "LOG_LEVEL", "LISTEN_ADDRESS"]

/-- The environment of the program. -/
def environment : IO Environment := do
  let found ← settingNames.filterMapM fun name => do
    return (← IO.getEnv name).map fun value => (name, value)
  return .ofList found

/-- The bytes of a file on disk. -/
def bytesOf (path : String) : IO (Except PathFault (List UInt8)) := do
  try
    return .ok (← IO.FS.readBinFile path).toList
  catch fault =>
    match fault with
    | .permissionDenied .. => return .error .denied
    | .inappropriateType .. => return .error .directory
    | _ => return .error .missing

/-- Writes entries of the journal. -/
def report (entries : List Entry) : IO Unit :=
  entries.forM fun entry =>
    IO.eprintln ("[" ++ entry.source ++ "] " ++ entry.severity.name ++ ": " ++ entry.message)

/-- Writes an answer. -/
def write (answer : Except Web.Fault Web.Response) : IO Unit :=
  match answer with
  | .ok (.page contentType body) => IO.println ("200 " ++ contentType ++ "\n\n" ++ body)
  | .ok (.failure status reason) => IO.println (toString status ++ " " ++ reason)
  | .error _ => IO.eprintln "the request cannot be answered"

/-- Answers the targets that stand on the lines of input, up to the end of the input. -/
partial def serve (seconds : Float) (input : IO.FS.Stream) (service : Service) : IO Service := do
  let line ← input.getLine
  if line.isEmpty then return service
  let (answer, service) := (service.answer seconds ⟨"GET", Text.trimmed line⟩).run
  write answer
  report service.journal
  serve seconds input { service with journal := [] }

/-- Writes what is left to say of an ended program. -/
def conclude (transcript : Program.Transcript) : IO UInt32 := do
  IO.print transcript.output
  IO.eprint transcript.complaint
  report transcript.journal
  match transcript.ending.fault? with
  | none => pure ()
  | some message => IO.eprintln message
  return UInt32.ofNat transcript.ending.code

end RouterMetrics.Console

open RouterMetrics in
/-- Runs the program. -/
def main (words : List String) : IO UInt32 := do
  let environment ← Console.environment
  let (logLevel, entries) := Config.logLevelIn environment
  Console.report entries
  let preset : CommandLine.Arguments :=
    { listenAddress := Config.listenAddressIn environment, logLevel }
  let path :=
    match CommandLine.read preset words with
    | .ok (.run arguments) => arguments.configFile
    | _ => ""
  let bytes ← if path.isEmpty then pure (.error .missing) else Console.bytesOf path
  match Program.start ⟨preset, environment, fun _ => bytes, .ofAttempts .empty⟩ words with
  | .ended transcript => Console.conclude transcript
  | .ready _ address service =>
      Console.report (service.journal ++ [Program.listeningEntry address service.metricsPath])
      let _ ← Console.serve 0.0 (← IO.getStdin) { service with journal := [] }
      return 0
