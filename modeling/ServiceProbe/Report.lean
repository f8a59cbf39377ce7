import ServiceProbe.Document

/-! # Reports

The records of a scan as a table of the identified services, as comma-separated values with a line
for every record, or as one JSON document. -/

namespace ServiceProbe
set_option autoImplicit false

inductive ReportFormat where
  | table
  | json
  | csv
  deriving DecidableEq, Repr

namespace ReportFormat

/-- The format that a name stands for. What names no other format means the table. -/
def ofName (name : Text) : ReportFormat :=
  let name := name.trim.map Char.toLower
  if name = ['j', 's', 'o', 'n'] then json
  else if name = ['c', 's', 'v'] then csv
  else table

end ReportFormat

namespace Duration

/-- A number below 1000 with three digits. -/
def threeDigits (n : Nat) : Text := (Text.ofNat n).leftpad 3 '0'

/-- The duration for people: milliseconds below a second, minutes from a minute on. -/
def format (d : Duration) : Text :=
  let secs := d.secs.toNat
  let millis := d.nanos.val / 1000000
  if secs = 0 then Text.ofNat millis ++ ['m', 's']
  else if secs < 60 then
    Text.ofNat secs ++ (if 0 < millis then '.' :: threeDigits millis else []) ++ ['s']
  else
    Text.ofNat (secs / 60) ++ ['m'] ++
      (if 0 < secs % 60 then ' ' :: Text.ofNat (secs % 60) ++ ['s'] else [])

/-- The seconds as a binary number. Seconds and nanoseconds are rounded on their own first. -/
def toSeconds (d : Duration) : Decimal.Binary :=
  (Decimal.Binary.ofNat d.secs.toNat).add
    ((Decimal.Binary.ofNat d.nanos.val).div (Decimal.Binary.ofNat 1000000000))

end Duration

namespace Report

/-- Fills a text with blanks up to a width. -/
def pad (width : Nat) (t : Text) : Text := t.rightpad width ' '

/-- A text of at most `limit` characters, with dots where something is cut off. -/
def truncate (limit : Nat) (t : Text) : Text :=
  if limit < t.length then t.take (limit - 3) ++ ['.', '.', '.'] else t

def ruler : Text := List.replicate 96 '-' ++ ['\n']

def row (target service probe version : Text) : Text :=
  pad 28 target ++ ' ' :: pad 16 service ++ ' ' :: pad 14 probe ++ ' ' :: pad 36 version ++ ['\n']

/-- The service, with a question mark where it is only narrowed down. -/
def serviceOf (f : Finger) : Text := f.service.toList ++ if f.soft then ['?'] else []

/-- The line of a record that has a finger. -/
def rowOf (r : Record) : Text :=
  match r.finger with
  | none => []
  | some f =>
    row r.target.address.toList (serviceOf f) f.probe.toList
      (truncate 36 f.versionLine.toList)

def summaryLine (label : String) (value : Text) : Text :=
  ' ' :: ' ' :: label.toList ++ ':' :: ' ' :: value ++ ['\n']

def table (records : List Record) (duration : Duration) : Text :=
  if records.isEmpty then "\nNo results to display.\n\n".toList
  else
    let identified := Record.countIdentified records
    ['\n'] ++ ruler ++ row "TARGET".toList "SERVICE".toList "PROBE".toList "VERSION".toList ++
      ruler ++ records.flatMap rowOf ++ ruler ++ "\nSummary:\n".toList ++
      summaryLine "Total scanned" (Text.ofNat records.length) ++
      summaryLine "Identified" (Text.ofNat identified) ++
      summaryLine "Unidentified" (Text.ofNat (records.length - identified)) ++
      summaryLine "Scan duration" duration.format ++ ['\n']

/-- A field between quotes. Quotes in it are doubled, and line breaks become blanks. -/
def csvQuote (t : Text) : Text :=
  '"' :: t.flatMap (fun c =>
    if c = '"' then ['"', '"'] else if c = '\r' || c = '\n' then [' '] else [c]) ++ ['"']

def csvField (value : Option String) : Text := csvQuote (value.getD "").toList

def csvRow (r : Record) : Text :=
  let f := r.finger
  Text.join ','
    [r.target.host.toList, Text.ofNat r.target.port.toNat, csvField (f.map (·.service)),
      csvField (f.map (·.probe)), csvField (f.bind (·.product)), csvField (f.bind (·.version)),
      csvField (f.bind (·.info)), Json.boolText (f.any (·.soft)), Text.ofNat r.elapsed.toMillis] ++
    ['\n']

def csvHeader : Text :=
  "host,port,service,probe,product,version,info,soft,elapsed_ms\n".toList

def csv (records : List Record) : Text := csvHeader ++ records.flatMap csvRow

/-- An object with its members in the order of their names. -/
def sorted : Json → Json
  | .object members => .object (members.mergeSort fun a b => !(b.1 < a.1))
  | j => j

/-- The milliseconds as a word of 64 bits. -/
def elapsedWord (d : Duration) : Nat := d.toMillis % UInt64.size

def recordJson (r : Record) : Json := sorted (.object
  [("target", .string r.target.address), ("host", .string r.target.host),
    ("port", .natural r.target.port.toNat), ("elapsed_ms", .natural (elapsedWord r.elapsed)),
    ("finger", .option (fun f => sorted (Document.finger.toJson f)) r.finger)])

def infoJson (records : List Record) (duration : Duration) : Json := sorted (.object
  [("duration_seconds", .binary duration.toSeconds),
    ("duration_formatted", .string (String.ofList duration.format)),
    ("total_scanned", .natural records.length),
    ("identified", .natural (Record.countIdentified records))])

def json (records : List Record) (duration : Duration) : Json := sorted (.object
  [("scan_info", infoJson records duration), ("results", .array (records.map recordJson))])

/-- The report that is printed. -/
def render (format : ReportFormat) (records : List Record) (duration : Duration) : Text :=
  match format with
  | .table => table records duration
  | .json => Json.pretty 0 (json records duration) ++ ['\n']
  | .csv => csv records

end Report
end ServiceProbe
