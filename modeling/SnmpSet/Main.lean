import SnmpSet.CommandLine.Report

/-!
# The program

The program reads the file that its arguments name and draws as much randomness
as the largest key needs; all else is decided by `CommandLine.run`.
-/

namespace SnmpSet.CommandLine

/-- A system code without the sign that it may come with. -/
def plainCode (code : UInt32) : UInt32 := if code.toInt32 < 0 then 0 - code else code

/-- The file error that an input-output error is. -/
def FileError.ofError : IO.Error → FileError
  | .noFileOrDirectory .. => .notFound
  | .permissionDenied .. => .notPermitted
  | .inappropriateType _ code _ => if plainCode code = 21 then .isDirectory else .notDirectory
  | .invalidArgument file code details =>
    if plainCode code = 36 then .nameTooLong
    else .other (toString (IO.Error.invalidArgument file code details))
  | e => .other (toString e)

/-- What the machine makes of a path. -/
def readPath (path : String) : IO (Except FileError (List UInt8)) := do
  try
    let octets ← IO.FS.readBinFile path
    return .ok octets.toList
  catch e => return .error (.ofError e)

/-- Reads the file that a command needs, if it needs one. -/
def readNeeded (args : List String) : IO (Except FileError (List UInt8)) :=
  match Command.ofArguments false args with
  | .ok (.checkConfig path _) => readPath path
  | _ => return .error .notFound

end SnmpSet.CommandLine

open SnmpSet.CommandLine

/-- Runs the program on its arguments. -/
def main (args : List String) : IO UInt32 := do
  let file ← readNeeded args
  let random ← IO.getRandomBytes 64
  let host : Host := { contents := fun _ => file, entropy := fun n => random.toList.take n }
  let exit := run host args
  IO.print exit.stdout
  IO.eprint exit.stderr
  return UInt32.ofNat exit.code
