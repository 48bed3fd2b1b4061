import RouterMetrics.CommandLine.Arguments
import RouterMetrics.Text.Split

/-! The help: how the program is used, and what its options do. -/

namespace RouterMetrics.CommandLine

/-- The name of the program. -/
def programName : String := "mikrotik-exporter"

/-- How many characters a line of the help may have. -/
def lineWidth : Nat := 78

/-- The column in which the descriptions of options start. -/
def summaryColumn : Nat := 24

/-- A text of spaces. -/
def spaces (count : Nat) : String := String.ofList (List.replicate count ' ')

/-- A text filled up with spaces to a width. -/
def padded (width : Nat) (text : String) : String := text ++ spaces (width - text.length)

/-- The lines that parts fill, none longer than a width unless a single part is. -/
def fill (width : Nat) : List String → List String
  | [] => []
  | part :: parts =>
      match fillAfter part parts with
      | (line, lines) => line :: lines
where
  /-- The line that was begun, and the lines after it. -/
  fillAfter (line : String) : List String → String × List String
    | [] => (line, [])
    | part :: parts =>
        if line.length + 1 + part.length ≤ width then fillAfter (line ++ " " ++ part) parts
        else
          let (next, lines) := fillAfter part parts
          (line, next :: lines)

/-- An option as it stands in the usage. -/
def usagePart (parameter : Parameter) : String :=
  "[" ++ parameter.invocation (parameter.names.headD "") ++ "]"

/-- The lines that show how the program is used, all parts under the first. -/
def usage (options : List Parameter) : String :=
  let start := "usage: " ++ programName ++ " "
  let lines := fill (lineWidth - start.length) (options.map usagePart)
  start ++ ("\n" ++ spaces start.length).intercalate lines ++ "\n"

/-- The words of a text. -/
def wordsOf (text : String) : List String :=
  (Text.wordsAt Text.isPlainBlank text.toList).map String.ofList

/-- The lines about an option; what it does starts on its first line if there is room. -/
def optionLines (parameter : Parameter) : List String :=
  let invocations := ", ".intercalate (parameter.names.map parameter.invocation)
  let first := "  " ++ invocations
  let summary := fill (lineWidth - summaryColumn) (wordsOf parameter.summary)
  let below := summary.map (spaces summaryColumn ++ ·)
  if first.length + 2 ≤ summaryColumn then
    match summary with
    | [] => [first]
    | line :: _ => (padded summaryColumn first ++ line) :: below.drop 1
  else first :: below

/-- What the program is for. -/
def purpose : String := "Prometheus exporter for MikroTik RouterOS devices"

/-- Examples of use. -/
def examples : String :=
  "\n".intercalate
    ["Examples:",
      "  " ++ programName ++ " --config-file config.yml",
      "  " ++ programName ++ " --device gw1 --address 192.168.88.1 --user prometheus" ++
        " --password secret --with-interface",
      spaces 8]

/-- The help. -/
def help (preset : Arguments) : String :=
  let options := parameters preset
  let lines := "\n".intercalate (options.flatMap optionLines)
  usage options ++ "\n" ++ purpose ++ "\n\noptions:\n" ++ lines ++ "\n\n" ++ examples ++ "\n"

/-- What comes before a refusal of a command line. -/
def complaint (message : String) : String := programName ++ ": error: " ++ message ++ "\n"

/-- All collectors by name, a line each. -/
def collectorList : String :=
  let sorted := Collector.all.mergeSort fun a b => decide (a.name ≤ b.name)
  String.join (sorted.map fun collector =>
    padded 12 collector.name ++ " " ++ collector.summary ++ "\n")

end RouterMetrics.CommandLine
