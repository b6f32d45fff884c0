import QueryExpr.CommandLine.Run

/-!
# The program

Files come from the file system, and output goes to the standard streams.
-/

namespace QueryExpr.CommandLine

/-- Why a file cannot be read, as the operating system says it. -/
def fileErrorText : IO.Error → String
  | .noFileOrDirectory .. => "No such file or directory (os error 2)"
  | .permissionDenied .. => "Permission denied (os error 13)"
  | .inappropriateType .. => "Is a directory (os error 21)"
  | error => toString error

/-- The bytes of a file. -/
def fileBytes (path : String) : IO (Except String ByteArray) := do
  match ← (IO.FS.readBinFile path).toBaseIO with
  | .ok bytes => return .ok bytes
  | .error error => return .error (fileErrorText error)

end QueryExpr.CommandLine

/-- The program prints what its run on the arguments comes to, and returns the status of the run. -/
def main (arguments : List String) : IO UInt32 := do
  let output ← QueryExpr.CommandLine.run QueryExpr.CommandLine.fileBytes arguments
  IO.print output.stdout
  IO.eprint output.stderr
  return UInt32.ofNat output.status
