import RouterMetrics.Decimal.Notation
import RouterMetrics.Metric.Sink
import RouterMetrics.Text.Split

/-! The metrics page: families and their samples as lines of text. -/

namespace RouterMetrics.Exposition

open RouterMetrics.Metric

/-- Whether a character may stand in the name of a label, first or later. -/
def isNameChar (first : Bool) (c : Char) : Bool :=
  (c.toNat < 128 && c.isAlpha) || c == '_' || (!first && c.toNat < 128 && c.isDigit)

/-- Whether a character may stand in the name of a metric, first or later. -/
def isMetricChar (first : Bool) (c : Char) : Bool := c == ':' || isNameChar first c

/-- A test of the first character of a text and of every later one. -/
def allChars (allowed : Bool → Char → Bool) (text : List Char) : Bool :=
  (text.take 1).all (allowed true) && (text.drop 1).all (allowed false)

/-- A name with an underscore for every character that may not stand in it. -/
def plainName (allowed : Bool → Char → Bool) (name : List Char) : List Char :=
  let keep := fun first c => if allowed first c then c else '_'
  (name.take 1).map (keep true) ++ (name.drop 1).map (keep false)

/-- The name of a metric as it stands on the page; a break at its end is not seen. -/
def metricName (name : String) : String :=
  let chars := name.toList
  if allChars isMetricChar (Text.withoutFinalBreak chars) then name
  else String.ofList (plainName isMetricChar chars)

/-- The name of a label as it stands on the page; a break at its end is seen in reserved names. -/
def labelName (name : String) : String :=
  let chars := name.toList
  let isReserved := ['_', '_'].isPrefixOf chars
  if allChars isNameChar (Text.withoutFinalBreak chars) && !isReserved then name
  else String.ofList (plainName isNameChar chars)

/-- A help text: backslashes and line breaks are escaped. -/
def escapedHelp (text : String) : String :=
  String.ofList (text.toList.flatMap fun c =>
    if c == '\\' then ['\\', '\\'] else if c == '\n' then ['\\', 'n'] else [c])

/-- A label value: the double quotation mark is escaped too. -/
def escapedValue (text : String) : String :=
  String.ofList (text.toList.flatMap fun c =>
    if c == '\\' then ['\\', '\\'] else if c == '\n' then ['\\', 'n']
    else if c.toNat == 34 then ['\\', c] else [c])

/-- The name of a kind. -/
def kindName : Kind → String
  | .gauge => "gauge"
  | .counter => "counter"

/-- A name and a value of a label, or nothing if it has no value. -/
def labelPair? (label : String × LabelValue) : Option String :=
  label.2.map fun value => labelName label.1 ++ "=\"" ++ escapedValue value ++ "\""

/-- The labels of a sample, sorted by name. -/
def sortedLabels (family : Family) (sample : Sample) : List (String × LabelValue) :=
  (family.sampleLabels sample).entries.mergeSort fun a b => decide (a.1 ≤ b.1)

/-- The line of a sample, if every label has a value. -/
def sampleLine? (family : Family) (sample : Sample) : Option String := do
  let pairs ← (sortedLabels family sample).mapM labelPair?
  let labels := if pairs.isEmpty then "" else "\x7b" ++ ",".intercalate pairs ++ "\x7d"
  return metricName family.sampleName ++ labels ++ " " ++ Decimal.sampleText sample.value ++ "\n"

/-- The lines of a family: its help, its kind and its samples. -/
def familyText? (family : Family) : Option String := do
  let name := metricName family.sampleName
  let lines ← family.samples.mapM (sampleLine? family)
  return "# HELP " ++ name ++ " " ++ escapedHelp family.descriptor.help ++ "\n" ++
    "# TYPE " ++ name ++ " " ++ kindName family.descriptor.kind ++ "\n" ++ String.join lines

/-- The page, or the first family with a sample that lacks the value of a label. -/
def page : List Family → Except Family String
  | [] => .ok ""
  | family :: families =>
      match familyText? family with
      | none => .error family
      | some text => (page families).map (text ++ ·)

/-- The text of a label in the description of a family. -/
def labelDescription (label : String × LabelValue) : String :=
  let value := (label.2.map Text.quoted).getD "None"
  Text.quoted label.1 ++ ": " ++ value

/-- The description of a sample. -/
def sampleDescription (family : Family) (sample : Sample) : String :=
  let labels := (family.sampleLabels sample).entries.map labelDescription
  "Sample(name=" ++ Text.quoted family.sampleName ++ ", labels=\x7b" ++ ", ".intercalate labels ++
    "\x7d, value=" ++ Decimal.floatText sample.value ++
    ", timestamp=None, exemplar=None, native_histogram=None)"

/-- The description of a family whose page could not be made, after what was wrong with it. -/
def faultMessage (family : Family) : String :=
  let samples := family.samples.map (sampleDescription family)
  "(" ++ Text.quoted "'NoneType' object has no attribute 'replace'" ++ ", Metric(" ++
    ", ".intercalate
      [family.name, family.descriptor.help, kindName family.descriptor.kind, "",
        "[" ++ ", ".intercalate samples ++ "]"] ++ "))"

end RouterMetrics.Exposition
