import Defun.Text.Decimal
import Defun.Text.Quoted

/-!
# Log records

A record has a level, a message and attributes.  It is written with the time at
which it was made, as a line of `key=value` pairs and, on request, as a JSON
object on a line of its own.  A logger drops the records below its level.
-/

namespace Defun

namespace Log

/-- The severity of a record. -/
inductive Level where
  | debug
  | info
  | warn
  | error
deriving DecidableEq, Repr

namespace Level

/-- The number of a level; greater numbers are more severe. -/
def severity : Level → Int
  | debug => -4
  | info => 0
  | warn => 4
  | error => 8

def label : Level → Bytes
  | debug => "DEBUG"
  | info => "INFO"
  | warn => "WARN"
  | error => "ERROR"

/-- The level of a name on the command line. -/
def ofName? (name : Bytes) : Option Level :=
  if name = Bytes.ofString "debug" then some debug
  else if name = Bytes.ofString "info" then some info
  else if name = Bytes.ofString "warn" then some warn
  else if name = Bytes.ofString "error" then some error
  else none

/-- The complaint about a name that is no level. -/
def refusal (name : Bytes) : Bytes :=
  "invalid log level: " ++ name

end Level

/-- What a clock shows.  The zone is how many minutes it is ahead of universal
time. -/
structure Instant where
  year : Nat
  month : Nat
  day : Nat
  hour : Nat
  minute : Nat
  second : Nat
  nanosecond : Nat
  zone : Int
deriving DecidableEq, Repr

namespace Instant

def seconds (time : Instant) : Bytes :=
  Decimal.padded 4 time.year ++ "-" ++ Decimal.padded 2 time.month ++ "-" ++
    Decimal.padded 2 time.day ++ "T" ++ Decimal.padded 2 time.hour ++ ":" ++
    Decimal.padded 2 time.minute ++ ":" ++ Decimal.padded 2 time.second

def zoneText (time : Instant) : Bytes :=
  let ahead := time.zone.natAbs
  if time.zone = 0 then "Z"
  else (if time.zone < 0 then "-" else "+") ++ Decimal.padded 2 (ahead / 60) ++
    ":" ++ Decimal.padded 2 (ahead % 60)

def toMillisecond (time : Instant) : Bytes :=
  time.seconds ++ "." ++ Decimal.padded 3 (time.nanosecond / 1000000) ++
    time.zoneText

/-- The text of a time to the nanosecond.  The fraction has no superfluous
zeros. -/
def toNanosecond (time : Instant) : Bytes :=
  let fraction := ((Decimal.padded 9 time.nanosecond).reverse.dropWhile
    (· == Bytes.octet '0')).reverse
  time.seconds ++ (if fraction.isEmpty then [] else Bytes.octet '.' :: fraction) ++
    time.zoneText

end Instant

inductive Value where
  | text (content : Bytes)
  | integer (value : Int)
  | boolean (value : Bool)
deriving DecidableEq, Repr

/-- A named value. -/
structure Attribute where
  key : Bytes
  value : Value
deriving DecidableEq, Repr

/-- The key of a value that came without a key. -/
def badKey : Bytes := "!BADKEY"

/-- Pairs up keys and values.  A value without a key, and a key without a
value, get a key that says so. -/
def attributes : List Value → List Attribute
  | [] => []
  | [value] => [⟨badKey, value⟩]
  | .text key :: value :: rest => ⟨key, value⟩ :: attributes rest
  | value :: next :: rest => ⟨badKey, value⟩ :: attributes (next :: rest)

structure Record where
  level : Level
  message : Bytes
  attributes : List Attribute
deriving DecidableEq, Repr

/-- Whether a rune makes a text need quotes in a line of pairs. -/
def needsQuotes (rune : Rune) : Bool :=
  let code := rune.char.toNat
  if code < 0x80 then
    code ≤ 0x20 || rune.char == '=' || rune.char == '"'
  else rune.char == replacement || Printable.isBlank rune.char ||
    !Printable.isPrintable rune.char

/-- A key or value in a line of pairs. -/
def pairText (text : Bytes) : Bytes :=
  if text.isEmpty || (Rune.read text).any needsQuotes then Quoted.quote text
  else text

def booleanText (value : Bool) : Bytes :=
  if value then "true" else "false"

def Value.pairText : Value → Bytes
  | .text content => Log.pairText content
  | integer value => Decimal.ofInt value
  | boolean value => booleanText value

def Attribute.line (pair : Attribute) : Bytes :=
  " " ++ pairText pair.key ++ "=" ++ pair.value.pairText

/-- A record as a line of pairs. -/
def Record.line (record : Record) (time : Instant) : Bytes :=
  "time=" ++ time.toMillisecond ++ " level=" ++ record.level.label ++
    " msg=" ++ pairText record.message ++
    record.attributes.flatMap Attribute.line ++ "\n"

/-- A rune inside a JSON string. -/
def jsonRune (rune : Rune) : Bytes :=
  let code := rune.char.toNat
  if rune.isMalformed then "\\ufffd"
  else if rune.char == '"' || rune.char == '\\' then "\\" ++ rune.octets
  else if code = 10 then "\\n"
  else if code = 13 then "\\r"
  else if code = 9 then "\\t"
  else if code < 0x20 then "\\u" ++ Quoted.hexDigits code 4
  else if code = 0x2028 || code = 0x2029 then
    "\\u" ++ Quoted.hexDigits code 4
  else rune.octets

def jsonText (text : Bytes) : Bytes :=
  "\"" ++ (Rune.read text).flatMap jsonRune ++ "\""

def Value.json : Value → Bytes
  | .text content => jsonText content
  | integer value => Decimal.ofInt value
  | boolean value => booleanText value

/-- A member of a JSON object behind a comma. -/
def Attribute.json (pair : Attribute) : Bytes :=
  "," ++ jsonText pair.key ++ ":" ++ pair.value.json

/-- A record as a JSON object on a line of its own. -/
def Record.json (record : Record) (time : Instant) : Bytes :=
  "\x7b\"time\":\"" ++ time.toNanosecond ++ "\",\"level\":" ++
    jsonText record.level.label ++ ",\"msg\":" ++ jsonText record.message ++
    record.attributes.flatMap Attribute.json ++ "\x7d\n"

/-- Where records go: nowhere, or to a text output from some level on, and
perhaps to a second output as JSON. -/
inductive Logger where
  | discard
  | write (level : Level) (sink : Bool)
deriving DecidableEq, Repr

/-- What was written to the text output and to the JSON output. -/
structure Written where
  lines : Bytes
  sink : Bytes
deriving DecidableEq, Repr

namespace Logger

def keeps (logger : Logger) (level : Level) : Bool :=
  match logger with
  | discard => false
  | write least _ => least.severity ≤ level.severity

def record (logger : Logger) (record : Record) (time : Instant) : Written :=
  match logger with
  | discard => ⟨[], []⟩
  | write _ sink =>
      if logger.keeps record.level then
        ⟨record.line time, if sink then record.json time else []⟩
      else ⟨[], []⟩

end Logger

end Log

end Defun
