import Framing.Geometry
import Framing.Csv
import Framing.Quote

/-!
# Placing the items of a sizes file

The command reads a table of item sizes, fits each item into a viewport and lists where it
lands. Its parts in the order it uses them: reports of failures, the viewport from the
arguments, the items of the table, the lines of the listing, and the command itself as a
function of its invocation.
-/

namespace Framing

/-! ## Failure reports

A failure is a message with the chain of causes under it, outermost first. Its report is the
message alone, or the message, a blank line, `Caused by:` and the causes one per line: indented
by four spaces when there is one cause, numbered from `0` in a column of width five when there
are several. A cause that spans lines keeps its later lines under its first.
-/

/-- A message and the causes under it, outermost first. -/
structure Failure where
  message : String
  causes : List String := []
deriving DecidableEq, Repr

namespace Failure

/-- `s` preceded by spaces to a width of `n`. -/
def padLeft (n : Nat) (s : String) : String :=
  String.ofList (List.replicate (n - s.length) ' ') ++ s

/-- One cause line: its label (four spaces, or the number in a column of five and a colon), and
every later line of the cause under the first. -/
def causeLine (number : Option Nat) (text : String) : String :=
  let label := match number with
    | some n => padLeft 5 (toString n) ++ ": "
    | none => "    "
  let hang := match number with
    | some _ => "       "
    | none => "    "
  label ++ ("\n" ++ hang).intercalate (text.splitOn "\n")

/-- The report of the failure. -/
def report (f : Failure) : String :=
  match f.causes with
  | [] => f.message
  | causes =>
    let numbered := 1 < causes.length
    let lines := (List.range causes.length).zip causes |>.map fun (i, c) =>
      "\n" ++ causeLine (if numbered then some i else none) c
    f.message ++ "\n\nCaused by:" ++ String.join lines

/-- The failure as the cause of a new message. -/
def within (f : Failure) (message : String) : Failure := ⟨message, f.message :: f.causes⟩

/-- A failure without causes is reported by its message alone. -/
theorem report_nil (message : String) : report ⟨message, []⟩ = message := rfl

end Failure

/-! ## The viewport from the command line

No arguments give the default viewport of 1024 by 640. Two arguments are its width and height,
read as float literals exactly as written, and both must be positive; a NaN is not compared as
positive or not, so it passes. Any other number of arguments is refused.
-/

/-- The viewport used when none is given. -/
def defaultViewport : Rect := Rect.ofSize 1024 640

/-- Why the viewport arguments are refused. -/
inductive ViewportError where
  | badWidth (text : String) (e : FloatTextError)
  | badHeight (text : String) (e : FloatTextError)
  /-- A side at most zero; the sides as read. -/
  | notPositive (width height : Float)
  | wrongCount
deriving Repr

/-- The failure that reports a viewport error. -/
def ViewportError.failure : ViewportError → Failure
  | .badWidth text e => ⟨"bad viewport width '" ++ text ++ "'", [e.message]⟩
  | .badHeight text e => ⟨"bad viewport height '" ++ text ++ "'", [e.message]⟩
  | .notPositive w h =>
    ⟨"viewport must be positive, got " ++ Notation.plain.write w ++ "x" ++
      Notation.plain.write h, []⟩
  | .wrongCount => ⟨"expected viewport as two numbers: <width> <height>", []⟩

/-- The viewport that the arguments after the file name give. -/
def viewportOf : List String → Except ViewportError Rect
  | [] => .ok defaultViewport
  | [w, h] => do
    let width ← (readFloat w).mapError (.badWidth w)
    let height ← (readFloat h).mapError (.badHeight h)
    if width ≤ 0 || height ≤ 0 then throw (.notPositive width height)
    else pure (Rect.ofSize width height)
  | _ => .error .wrongCount

/-! ## Item sizes from a table

A sizes table has a header naming a width column (`width` or `w`) and a height column (`height`
or `h`), compared after lowercasing; the first header with either name is the column. Each row
whose width and height both read as floats gives an item of that size at the origin; any other
row is passed over, and a record that the reader gives as an error ends the load. The header is
checked before any row is read, so a table without the columns is refused even when a later row
is malformed.
-/

/-- Why a sizes table cannot be used. -/
inductive SizesError where
  | table (e : Csv.TableError)
  /-- No width or no height column among the lowercased headers. -/
  | missingColumns (headers : List String)
deriving DecidableEq, Repr

/-- The sentence that reports a sizes error. -/
def SizesError.message : SizesError → String
  | .table e => e.message
  | .missingColumns headers => "missing width/height columns in " ++ Text.quoteList headers

namespace Sizes

/-- The index of the first header among `names`. -/
def column? (headers : List String) (names : List String) : Option Nat :=
  headers.findIdx? (names.contains ·)

/-- The item of a row, when the fields at both columns read as floats. -/
def itemOf? (width height : Nat) (row : List String) : Option Rect :=
  match row[width]?.bind (fun s => (readFloat s).toOption),
      row[height]?.bind (fun s => (readFloat s).toOption) with
  | some w, some h => some (Rect.ofSize w h)
  | _, _ => none

/-- The items of the records a reader yields, in order. The first record that is an error ends
the load with that error; a row whose width or height does not read as a float gives no item. -/
def items (width height : Nat) :
    List (Except Csv.TableError (List String)) → Except Csv.TableError (List Rect)
  | [] => .ok []
  | .error e :: _ => .error e
  | .ok row :: rest => (items width height rest).map ((itemOf? width height row).toList ++ ·)

/-- The items of a sizes table read through `reader`, in row order. -/
def load (reader : Csv.Reader) (bytes : List UInt8) : Except SizesError (List Rect) := do
  let header ← (reader.headers bytes).mapError .table
  let headers := header.map Text.lowercase
  match column? headers ["width", "w"], column? headers ["height", "h"] with
  | some width, some height => (items width height (reader.records bytes)).mapError .table
  | _, _ => throw (.missingColumns headers)

end Sizes

/-! ## The listing of placed items

One line per item: its index, its size as written in a sentence, where it lands in the viewport
with two decimals, the scale with four, and the landed size relative to the viewport with three.
With a share size, a second indented line gives it.
-/

/-- The line for item `index` fitted into `viewport`. -/
def placementLine (index : Nat) (viewport item : Rect) : String :=
  let fit := item.fitIn viewport
  let rel := fit.rect.relativeTo viewport
  "#" ++ toString index ++ ": " ++ Notation.plain.write item.width ++ "x" ++
    Notation.plain.write item.height ++ " -> x=" ++ fixed 2 fit.rect.x ++ " y=" ++
    fixed 2 fit.rect.y ++ " w=" ++ fixed 2 fit.rect.width ++ " h=" ++ fixed 2 fit.rect.height ++
    " scale=" ++ fixed 4 fit.scale ++ " (rel w=" ++ fixed 3 rel.width ++ " h=" ++
    fixed 3 rel.height ++ ")"

/-- The line for the size of an item's share copy. -/
def shareLine (s : Size) : String :=
  "    share copy: " ++ toString s.width ++ "x" ++ toString s.height

/-- The whole pixels of an item's size: each side truncated and saturated into `UInt32`, NaN
giving zero. -/
def Rect.pixelSize (r : Rect) : Size := ⟨r.width.toUInt32, r.height.toUInt32⟩

/-! ## The command

The command takes the path of a sizes file and, optionally, the viewport's width and height. It
fits every item of the file into the viewport and prints one line per item; when a bound on
the longer side of share copies is set, each item also gets the size of its share copy (an item
whose copy cannot be made gets none). The checks come in a fixed order: a path is given, the
viewport arguments, the bound, the file exists, the file is read as a sizes table, and it has at
least one item. The first failure is reported after `Error: ` on the error stream, with exit
code 1; nothing is printed before it.

The command is a function of its invocation: the arguments, the bound's text as the environment
gives it, and what the file system holds at the path.
-/

/-- What the file system holds at the path of the sizes file. -/
inductive FileEntry where
  | missing
  /-- A directory: it exists, but reading it fails. -/
  | directory
  /-- It exists but cannot be opened, for the given reason. -/
  | unopenable (reason : String)
  /-- It was opened but reading failed, for the given reason. -/
  | unreadable (reason : String)
  | contents (bytes : List UInt8)
deriving DecidableEq, Repr

/-- The reason given for reading a directory as a file. -/
def directoryReason : String := "Is a directory (os error 21)"

/-- Why the sizes file could not be loaded. -/
inductive LoadError where
  | opening (path reason : String)
  | reading (reason : String)
  | sizes (e : SizesError)
deriving DecidableEq, Repr

/-- Why the command failed. -/
inductive CommandError where
  | usage
  | viewport (e : ViewportError)
  | badLargestSide (text : String) (e : NumeralError)
  | fileNotFound (path : String)
  | load (path : String) (e : LoadError)
  | noItems
deriving Repr

/-- The failure that reports a load error. -/
def LoadError.failure : LoadError → Failure
  | .opening path reason => ⟨"opening " ++ path, [reason]⟩
  | .reading reason => ⟨reason, []⟩
  | .sizes e => ⟨e.message, []⟩

/-- The failure that reports a command error. -/
def CommandError.failure : CommandError → Failure
  | .usage => ⟨"usage: geom-demo <items.csv> [viewport_width viewport_height]", []⟩
  | .viewport e => e.failure
  | .badLargestSide text e => ⟨"GEOM_LARGEST_SIDE is not a number: '" ++ text ++ "'", [e.message]⟩
  | .fileNotFound path => ⟨"file not found: " ++ path, []⟩
  | .load path e => e.failure.within ("failed to load CSV '" ++ path ++ "'")
  | .noItems => ⟨"no item sizes loaded; check the width/height headers.", []⟩

/-- One run of the command. -/
structure Invocation where
  /-- The arguments after the program's name. -/
  args : List String
  /-- The text of the bound on the share copy's longer side, if one is set. -/
  largestSide : Option String
  /-- What the file system holds at the path, the first argument. -/
  file : FileEntry

/-- What a run leaves behind. -/
structure Outcome where
  exitCode : UInt32
  stdout : String
  stderr : String
deriving DecidableEq, Repr

/-- The options of share copies, when a bound is set: the bound is read after trimming
blanks. -/
def resizeOptionsOf : Option String → Except CommandError (Option ResizeOptions)
  | none => .ok none
  | some text =>
    (readUInt32 (Text.trimBlank text)).map (some ⟨·⟩) |>.mapError (.badLargestSide text)

/-- The items of the file at `path`, read through `reader`. -/
def loadItems (reader : Csv.Reader) (path : String) : FileEntry → Except CommandError (List Rect)
  | .missing => .error (.fileNotFound path)
  | .directory => .error (.load path (.reading directoryReason))
  | .unopenable reason => .error (.load path (.opening path reason))
  | .unreadable reason => .error (.load path (.reading reason))
  | .contents bytes => (Sizes.load reader bytes).mapError (fun e => .load path (.sizes e))

/-- The lines for one item: its placement and, with share options, its share copy. -/
def itemLines (viewport : Rect) (resize : Option ResizeOptions) (index : Nat) (item : Rect) :
    List String :=
  let share := match resize with
    | some opts => match item.pixelSize.scaledToLargestSide opts.largestSide with
      | .ok s => [shareLine s]
      | .error _ => []
    | none => []
  placementLine index viewport item :: share

/-- The printed lines of a run with the sizes file read through `reader`, or why it failed. -/
def Invocation.lines (reader : Csv.Reader) (inv : Invocation) :
    Except CommandError (List String) := do
  match inv.args with
  | [] => throw .usage
  | path :: rest =>
    let viewport ← (viewportOf rest).mapError .viewport
    let resize ← resizeOptionsOf inv.largestSide
    let items ← loadItems reader path inv.file
    if items.isEmpty then throw .noItems
    pure ((List.range items.length).zip items |>.flatMap fun (i, item) =>
      itemLines viewport resize i item)

/-- Runs the command: the lines on the output stream and exit code 0, or the report on the
error stream and exit code 1. -/
def Invocation.run (reader : Csv.Reader) (inv : Invocation) : Outcome :=
  match inv.lines reader with
  | .ok lines => ⟨0, String.join (lines.map (· ++ "\n")), ""⟩
  | .error e => ⟨1, "", "Error: " ++ e.failure.report ++ "\n"⟩

end Framing
