import FieldQuery.Demo

/-!
The command of the demonstration. An argument names a file of settings.
-/

namespace FieldQuery
namespace Demo

def loadSettings : List String → IO (Except Error Settings)
  | [] => return .ok {}
  | path :: _ => do
    try
      return Settings.read (← IO.FS.readFile path)
    catch
      | .noFileOrDirectory .. => return .error (missingFile path)
      | e => return .error (.settings (.unreadable path (toString e)))

def command (args : List String) : IO UInt32 := do
  let run := run (← loadSettings args)
  for line in run.lines do
    IO.println line
  if let some error := run.error then
    IO.eprintln error.message
  return run.exitCode.toUInt32

end Demo
end FieldQuery

def main (args : List String) : IO UInt32 := FieldQuery.Demo.command args
