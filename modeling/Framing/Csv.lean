import Framing.Text

/-!
# Comma-separated tables

A sizes file is read through a reader of comma-separated files with a header row: first the
header's fields, then the later records one at a time, each its fields as texts or an error. The
reader is a parameter of the load (`Reader`), so that what is proved of the load rests on what
such a reader promises about each record and on nothing else. The program runs with
`byteReader`, which cuts a file into records byte by byte and checks each against the header.
-/

namespace Framing.Csv

/-! ## Readers

A record is read with the setting that every record has the header's number of fields and that
every field is trimmed. A record that breaks the first rule, or has a field that is not UTF-8, is
an error where it stands; the load decides what an error does to the records after it.
-/

/-- Where the reading of a record began: how many records came before it, the line (counting
from 1) and the byte offset. -/
structure Position where
  record : Nat
  line : Nat
  byte : Nat
deriving DecidableEq, Repr

/-- Why a table cannot be read. -/
inductive TableError where
  /-- The record at `position` has `found` fields where the header has `expected`. -/
  | unequalLengths (position : Position) (expected found : Nat)
  /-- Field `field` of the record at `position` is not UTF-8 after its first `validUpTo`
  bytes. -/
  | invalidUtf8 (position : Position) (field validUpTo : Nat)
deriving DecidableEq, Repr

/-- The sentence that reports a table error. -/
def TableError.message : TableError → String
  | .unequalLengths p expected found =>
    "CSV error: record " ++ toString p.record ++ " (line: " ++ toString p.line ++ ", byte: " ++
      toString p.byte ++ "): found record with " ++ toString found ++
      " fields, but the previous record has " ++ toString expected ++ " fields"
  | .invalidUtf8 p field validUpTo =>
    "CSV parse error: record " ++ toString p.record ++ " (line " ++ toString p.line ++
      ", field: " ++ toString field ++ ", byte: " ++ toString p.byte ++
      "): invalid utf-8: invalid UTF-8 in field " ++ toString field ++ " near byte index " ++
      toString validUpTo

/-- A reader of comma-separated files with a header row: the header's fields, and what each record
after the header reads as, in file order. -/
structure Reader where
  headers : List UInt8 → Except TableError (List String)
  records : List UInt8 → List (Except TableError (List String))

/-! ## Records of a comma-separated file

The bytes of a file are cut into records of fields. A comma ends a field; a carriage return, a
line feed, or the two together end a record; a field that starts with a double quote runs to the
next lone quote, a doubled quote standing for one quote, and may hold commas and line ends.
A quote later in a field is an ordinary byte. Line ends before a record are skipped, so blank
lines give no record; a quote left open runs to the end of the file. A byte order mark at the
very start is dropped.

Each record remembers where the reading of it began: the number of records before it, the line
and the byte offset just after the previous record. Skipped line ends belong to the following
record's reading, and the line feed of a carriage return and line feed pair is read with the
next record.

The scanner is one `step` per byte, folded over the file, and `finish` at its end.
-/

/-- A record as it stands in the file: the bytes of its fields, and where its reading began. -/
structure RawRecord where
  fields : List (List UInt8)
  position : Position
deriving DecidableEq, Repr

/-- Where the scanner stands between two bytes. -/
inductive Mode where
  /-- Before a record: line ends are skipped. -/
  | betweenRecords
  /-- A record has just ended at a line feed. -/
  | afterLineFeed
  /-- A record has just ended at a carriage return; a line feed right after it is skipped. -/
  | afterCarriageReturn
  /-- A field has just ended at a comma. -/
  | afterComma
  /-- Inside a field that did not start with a quote. -/
  | unquoted
  /-- Inside a quoted field. -/
  | quoted
  /-- A quote inside a quoted field: a second quote makes it a literal quote, anything else
  ends the quoting. -/
  | quoteInQuoted
deriving DecidableEq, Repr

/-- The state of a scan: the mode, the field and record being read (in reverse), the finished
records (in reverse), the bytes and lines consumed, and where the current reading began. -/
structure Scanner where
  mode : Mode
  field : List UInt8
  fields : List (List UInt8)
  records : List RawRecord
  consumed : Nat
  line : Nat
  start : Position
deriving Repr

namespace Scanner

/-- The byte of a comma, a double quote, a carriage return and a line feed. -/
def comma : UInt8 := 0x2C
def quote : UInt8 := 0x22
def carriageReturn : UInt8 := 0x0D
def lineFeed : UInt8 := 0x0A

/-- The current field is finished. -/
def endField (s : Scanner) : Scanner :=
  { s with field := [], fields := s.field.reverse :: s.fields }

/-- The current record is finished; the next reading begins after the bytes consumed so far. -/
def endRecord (s : Scanner) : Scanner :=
  let s := s.endField
  { s with
    fields := []
    records := ⟨s.fields.reverse, s.start⟩ :: s.records
    start := ⟨s.start.record + 1, s.line, s.consumed⟩ }

/-- A byte inside a field or right after a quoted part: a comma ends the field, a line end
ends the record, any other byte is kept. -/
def inField (s : Scanner) (b : UInt8) : Scanner :=
  if b = comma then { s.endField with mode := .afterComma }
  else if b = carriageReturn then { s.endRecord with mode := .afterCarriageReturn }
  else if b = lineFeed then { s.endRecord with mode := .afterLineFeed }
  else { s with mode := .unquoted, field := b :: s.field }

/-- A byte at the start of a field: a quote opens a quoted field. -/
def atFieldStart (s : Scanner) (b : UInt8) : Scanner :=
  if b = quote then { s with mode := .quoted } else s.inField b

/-- A byte before a record: a line end is skipped. -/
def atRecordStart (s : Scanner) (b : UInt8) : Scanner :=
  if b = carriageReturn ∨ b = lineFeed then { s with mode := .betweenRecords }
  else s.atFieldStart b

/-- Reads one byte. -/
def step (s0 : Scanner) (b : UInt8) : Scanner :=
  let s := { s0 with
    consumed := s0.consumed + 1
    line := if b = lineFeed then s0.line + 1 else s0.line }
  match s.mode with
  | .betweenRecords | .afterLineFeed => s.atRecordStart b
  | .afterCarriageReturn => if b = lineFeed then { s with mode := .betweenRecords } else s.atRecordStart b
  | .afterComma => s.atFieldStart b
  | .unquoted => s.inField b
  | .quoted => if b = quote then { s with mode := .quoteInQuoted } else { s with field := b :: s.field }
  | .quoteInQuoted =>
    if b = quote then { s with mode := .quoted, field := b :: s.field } else s.inField b

/-- The records once the input has ended: a record still open is finished. -/
def finish (s : Scanner) : List RawRecord :=
  match s.mode with
  | .betweenRecords | .afterLineFeed | .afterCarriageReturn => s.records.reverse
  | _ => s.endRecord.records.reverse

/-- The scanner before the first byte, having already consumed `skipped` bytes. -/
def initial (skipped : Nat) : Scanner :=
  ⟨.betweenRecords, [], [], [], skipped, 1, ⟨0, 1, 0⟩⟩

end Scanner

/-- The byte order mark of UTF-8. -/
def byteOrderMark : List UInt8 := [0xEF, 0xBB, 0xBF]

/-- The records of a file, in order. -/
def records (bytes : List UInt8) : List RawRecord :=
  if byteOrderMark.isPrefixOf bytes then
    ((bytes.drop 3).foldl Scanner.step (Scanner.initial 3)).finish
  else (bytes.foldl Scanner.step (Scanner.initial 0)).finish

/-- An empty file has no records. -/
theorem records_nil : records [] = [] := rfl

/-! ## The reader the program runs with

The first record of a file is its header; every later record must have as many fields. Fields
become texts with the blank characters at both ends removed. A header field must be UTF-8 as it
stands; a row field must be UTF-8 once ASCII blanks are cut from its ends. A row with the wrong
number of fields is reported before any bad byte in it.
-/

/-- Whether a byte is an ASCII blank: space, tab, line feed, form feed or carriage return. -/
def isAsciiBlank (b : UInt8) : Bool :=
  b = 0x20 || b = 0x09 || b = 0x0A || b = 0x0C || b = 0x0D

/-- The bytes without ASCII blanks at either end. -/
def trimAscii (bytes : List UInt8) : List UInt8 :=
  ((bytes.dropWhile isAsciiBlank).reverse.dropWhile isAsciiBlank).reverse

/-- The fields of a record as texts, or the first field (by index) that is not UTF-8. -/
def decodeFields (r : RawRecord) (fields : List (List UInt8)) : Except TableError (List String) :=
  let rec go (i : Nat) : List (List UInt8) → Except TableError (List String)
    | [] => .ok []
    | f :: rest =>
      match Text.decodeUtf8 f with
      | .error validUpTo => .error (.invalidUtf8 r.position i validUpTo)
      | .ok s => (go (i + 1) rest).map (Text.trimBlank s :: ·)
  go 0 fields

/-- The header's fields, trimmed; no first record gives no fields. -/
def readHeader : Option RawRecord → Except TableError (List String)
  | none => .ok []
  | some r => decodeFields r r.fields

/-- One row with `expected` fields, trimmed. -/
def readRow (expected : Nat) (r : RawRecord) : Except TableError (List String) :=
  if r.fields.length = expected then decodeFields r (r.fields.map trimAscii)
  else .error (.unequalLengths r.position expected r.fields.length)

/-- The reader the program runs with: the header is the file's first record, and each later
record is checked against the header's number of fields and read as a row. -/
def byteReader : Reader where
  headers bytes := readHeader (Csv.records bytes).head?
  records bytes :=
    let rs := Csv.records bytes
    rs.tail.map (readRow ((rs.head?.map (·.fields.length)).getD 0))

end Framing.Csv
