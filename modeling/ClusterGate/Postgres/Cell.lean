import ClusterGate.Json.Reader
import ClusterGate.Log
import ClusterGate.Text.Calendar
import ClusterGate.Text.Utf8

/-!
# Cells of a server's rows

Every cell is rendered as text, or as NULL. A cell of a type that cannot be rendered, or whose
content is not of its type, is rendered as NULL too, which `render` tells apart from a real NULL.
-/

namespace ClusterGate.Postgres

inductive ColumnType
  | bool
  | int2
  | int4
  | int8
  | float4
  | float8
  | numeric
  | text
  | varchar
  | bpchar
  | name
  | unknown
  | date
  | time
  | timestamp
  | timestamptz
  | uuid
  | json
  | jsonb
  /-- A type that is not rendered, by the name that log entries show. -/
  | other (name : String)
  deriving DecidableEq, Repr

/-- The name of a type, as log entries show it. -/
def ColumnType.label : ColumnType → String
  | bool => "BOOL"
  | int2 => "INT2"
  | int4 => "INT4"
  | int8 => "INT8"
  | float4 => "FLOAT4"
  | float8 => "FLOAT8"
  | numeric => "NUMERIC"
  | text => "TEXT"
  | varchar => "VARCHAR"
  | bpchar => "CHAR"
  | name => "NAME"
  | unknown => "UNKNOWN"
  | date => "DATE"
  | time => "TIME"
  | timestamp => "TIMESTAMP"
  | timestamptz => "TIMESTAMPTZ"
  | uuid => "UUID"
  | json => "JSON"
  | jsonb => "JSONB"
  | other label => label

/-- The types whose values are rendered, by the names that SQL has for them. -/
def ColumnType.rendered : List (String × ColumnType) :=
  [("bool", bool), ("int2", int2), ("int4", int4), ("int8", int8), ("float4", float4),
    ("float8", float8), ("numeric", numeric), ("text", text), ("varchar", varchar),
    ("bpchar", bpchar), ("name", name), ("unknown", unknown), ("date", date), ("time", time),
    ("timestamp", timestamp), ("timestamptz", timestamptz), ("uuid", uuid), ("json", json),
    ("jsonb", jsonb)]

/-- The type that SQL has a name for. The one-byte character type is shown in quotes. -/
def ColumnType.ofName (name : String) : ColumnType :=
  (rendered.lookup name).getD
    (.other (if name = "char" then "\"CHAR\"" else String.ofList (name.toList.map Char.toUpper)))

structure Column where
  name : String
  type : ColumnType
  deriving DecidableEq, Repr

inductive Cell
  | null
  | flag (b : Bool)
  | integer (n : Int)
  /-- The bits of a floating-point number of the column's width. -/
  | real (bits : Nat)
  /-- The number `unscaled / 10 ^ scale`. -/
  | decimal (unscaled : Int) (scale : Nat)
  | text (s : String)
  /-- Days from the first of January 2000. -/
  | day (n : Int)
  /-- Microseconds, from midnight or from the beginning of the year 2000. -/
  | micros (n : Int)
  /-- Bytes that are a value of no type above. -/
  | raw (bytes : List UInt8)
  deriving DecidableEq, Repr

namespace Cell

/-- The digits of a number come in groups of this many, counted from the point. -/
def groupSize : Nat := 4

/-- Leave out the groups of zeros at the end of a number. `fuel` bounds their count. -/
def withoutZeroGroups : (fuel : Nat) → Text.Decimal → Text.Decimal
  | 0, d => d
  | fuel + 1, d =>
    let base := Nat.pow 10 groupSize
    if d.digits % base = 0 then withoutZeroGroups fuel ⟨d.digits / base, d.exponent + groupSize⟩
    else d

/-- A number in whole groups of digits: its fraction is padded, and no group of zeros ends it. -/
def grouped (unscaled scale : Nat) : Text.Decimal :=
  let padding := (groupSize - scale % groupSize) % groupSize
  let digits := unscaled * Nat.pow 10 padding
  withoutZeroGroups (Nat.toDigits 10 digits).length ⟨digits, -(scale + padding : Int)⟩

/-- So many zeros may stand between the point and the first digit, and between the last group and
the point, in a number without exponent. -/
def mostZerosAfterPoint : Int := 5

def mostZerosBeforePoint : Int := 15

/-- A number other than zero, without its sign. Small ones get a point after the first digit and an
exponent, large ones an exponent alone. -/
def magnitudeText (d : Text.Decimal) : String :=
  let digits := toString d.digits
  if mostZerosAfterPoint < -d.exponent - digits.length then
    let rest := digits.toList.tail
    String.ofList (digits.toList.take 1 ++ if rest.isEmpty then [] else '.' :: rest) ++
      "E-" ++ toString (-d.exponent - digits.length + 1)
  else if mostZerosBeforePoint < d.exponent then digits ++ "E+" ++ toString d.exponent
  else d.positional

def decimalText (unscaled : Int) (scale : Nat) : String :=
  if unscaled = 0 then "0"
  else
    (if unscaled < 0 then "-" else "") ++ magnitudeText (grouped unscaled.natAbs scale)

/-- The number that a decimal text stands for. A text without digits is no number. -/
def ofDecimalText (text : String) : Cell :=
  let cs := text.toList
  let digits := cs.filter Char.isDigit
  let unscaled : Int := Text.digitsValue digits
  if digits.isEmpty then .raw []
  else
    .decimal (if cs.head? = some '-' then -unscaled else unscaled)
      (cs.dropWhile (· ≠ '.')).tail.length

/-- The text of a cell that is not NULL, if it can be rendered. -/
def text? : ColumnType → Cell → Option String
  | .bool, .flag b => some (if b then "true" else "false")
  | .int2, .integer n | .int4, .integer n | .int8, .integer n => some (toString n)
  | .float4, .real bits => some (Text.single.ofBits bits).positional
  | .float8, .real bits => some (Text.double.ofBits bits).positional
  | .numeric, .decimal unscaled scale => some (decimalText unscaled scale)
  | .text, .text s | .varchar, .text s | .bpchar, .text s | .name, .text s | .unknown, .text s =>
    some s
  | .text, .raw b | .varchar, .raw b | .bpchar, .raw b | .name, .raw b | .unknown, .raw b =>
    Text.ofUtf8? b
  | .date, .day n => some (Text.CivilDate.ofDay n).text
  | .time, .micros n => some (Text.timeText (n % Text.dayMicros).toNat)
  | .timestamp, .micros n => some (Text.timestampText n)
  | .timestamptz, .micros n => some (Text.timestampText n ++ " UTC")
  | .uuid, .text s => some (String.ofList (s.toList.map Char.toLower))
  | .json, .text s | .jsonb, .text s => (Json.parse? s).map Json.compact
  | _, _ => none

/-- A cell as it is handed out. -/
def render (column : Column) : Cell → Option String
  | .null => none
  | cell => cell.text? column.type

def notices (column : Column) : Cell → List LogEntry
  | .null => []
  | cell =>
    match cell.text? column.type with
    | some _ => []
    | none =>
      [Log.warn "Column value could not be rendered as text"
        [("column", .text column.name), ("pg_type", .text column.type.label)]]

end Cell

end ClusterGate.Postgres
