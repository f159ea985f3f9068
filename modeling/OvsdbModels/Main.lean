/-
  OvsdbModels/Main.lean
  =====================
  The command line program, on the files of the system.
-/
import OvsdbModels.Command.Run

namespace OvsdbModels

def systemVolume : Files.Volume IO where
  read path := do
    try return some (← IO.FS.readBinFile path)
    catch _ => return none
  isFile path := do
    try
      let resolved ← IO.FS.realPath path
      return (← resolved.pathExists) && !(← resolved.isDir)
    catch _ => return false
  write path content := do
    try
      let parent := Files.parentPath path
      unless parent.isEmpty do IO.FS.createDirAll parent
      IO.FS.writeBinFile path content
      return true
    catch _ => return false

end OvsdbModels

def main (arguments : List String) : IO UInt32 := do
  let outcome ← OvsdbModels.Command.run OvsdbModels.systemVolume arguments
  IO.print outcome.output
  IO.eprint outcome.diagnostics
  return UInt32.ofNat outcome.exitCode
