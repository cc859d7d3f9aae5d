import SchemaForge.CommandLine.Command
import Std.Time.Format

/-! # The program

Runs the command that the arguments make on the file system.
-/

namespace SchemaForge

/-- Whether an action succeeds. -/
def succeeds (action : IO Unit) : IO Bool := do
  try
    action
    return true
  catch _ => return false

/-- Whether the machine has a file or directory. -/
def machineHas (path : String) : IO Bool :=
  succeeds (discard (IO.FS.Handle.mk path .read))

/-- Makes the directories of a path, one after the other. -/
def machineMakeDirectory (path : String) : IO Bool := do
  unless Path.isValid path do return false
  let parts := ((Path.made? path).map Path.parts).getD []
  for n in [1:parts.length + 1] do
    discard (succeeds (IO.FS.createDir (Path.ofParts (parts.take n))))
  machineHas (Path.join path ".")

/-- The file system of the machine. -/
def machineDisk : Disk IO where
  read? path := do
    try return some (← IO.FS.readFile path)
    catch _ => return none
  has := machineHas
  makeDirectory := machineMakeDirectory
  write path contents := do
    if let some directory := Path.directory? path then
      discard (machineMakeDirectory directory)
    succeeds (IO.FS.writeFile path contents)

/-- The current time as files give it. -/
def currentTime : IO String := do
  return (← Std.Time.PlainDateTime.now).format "uuuu-MM-dd HH:mm:ss"

end SchemaForge

open SchemaForge in
/-- Runs the command that the arguments make. -/
def main (arguments : List String) : IO UInt32 := do
  let ending ← runProgram machineDisk (← currentTime) arguments
  IO.print ending.output
  IO.eprint ending.report
  return ending.code.toUInt32
