import Framing.Command

/-!
# The program

Gathers what the command depends on (its arguments, the variable `GEOM_LARGEST_SIDE` and the
sizes file), runs it with the byte reader for the sizes file, and writes its output and error
streams and exit code.
-/

open Framing

/-- What the file system holds at `path`, read in full. -/
def fetchEntry (path : String) : IO FileEntry := do
  try
    return .contents (← IO.FS.readBinFile path).toList
  catch
    | .noFileOrDirectory .. => return .missing
    | .inappropriateType _ 21 _ => return .directory
    | .permissionDenied _ code _ =>
      return .unopenable ("Permission denied (os error " ++ toString code ++ ")")
    | e => return .unreadable (toString e)

def main (args : List String) : IO UInt32 := do
  let limit ← IO.getEnv "GEOM_LARGEST_SIDE"
  let file ← match args with
    | path :: _ => fetchEntry path
    | [] => pure .missing
  let out := (Invocation.mk args limit file).run Csv.byteReader
  IO.print out.stdout
  IO.eprint out.stderr
  return out.exitCode
