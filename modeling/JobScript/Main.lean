import JobScript.CommandLine.Places
import Std.Time

/-! # The program

Looks at the places that matter, runs the command on them, and carries out what it says.
-/

namespace JobScript

open Files CommandLine

namespace Outside

def textOf (place : Location) : String := (Path.ofPlace place).toText

/-- What cannot be read counts as missing. -/
def entryAt? (place : Location) : IO (Option (Location × Entry)) := do
  try
    let path ← IO.FS.realPath (textOf place)
    if ← path.isDir then return some (place, .directory)
    let content ← IO.FS.readBinFile path
    return some (place, .file ⟨content.toList, false⟩)
  catch _ => return none

def workingDirectory : IO Location := return (Path.ofText (toString (← IO.currentDir))).parts

def environment : IO (List (String × String)) :=
  settingNames.filterMapM fun name => return (← IO.getEnv name).map fun value => (name, value)

/-- No line of the log knows where in the code it comes from. -/
def stamp : IO Log.Stamp := do
  let now ← Std.Time.PlainDateTime.now
  let digits (width : Nat) (n : Int) : String := Calendar.padded width n.toNat
  let time := ":".intercalate
    [digits 2 now.hour.val, digits 2 now.minute.val, digits 2 now.second.val]
  let date := "-".intercalate [digits 4 now.year, digits 2 now.month.val, digits 2 now.day.val]
  return ⟨time, date ++ " " ++ time, "0"⟩

def world (args : List String) : IO World := do
  let directory ← workingDirectory
  let environment ← environment
  let entries ← (places directory environment args).filterMapM entryAt?
  return ⟨⟨entries, directory⟩, environment, ← stamp⟩

/-- Everybody may read and run a script, its owner may change it. -/
def scriptRights : IO.FileRight :=
  ⟨⟨true, true, true⟩, ⟨true, false, true⟩, ⟨true, false, true⟩⟩

def write (place : Location) (f : File) : IO Unit := do
  let path := textOf place
  IO.FS.writeBinFile path ⟨f.content.toArray⟩
  if f.executable then IO.setAccessRights path scriptRights

def complain (escape : Escape) : IO Unit :=
  IO.eprintln ("Unexpected failure: " ++
    escape.message?.getD "text or files that are not as they should be")

end Outside

end JobScript

def main (args : List String) : IO UInt32 := do
  let w ← JobScript.Outside.world args
  let effect := JobScript.CommandLine.run w args
  for (place, f) in w.tree.written effect.tree [] do JobScript.Outside.write place f
  IO.print effect.stdout
  IO.eprint effect.stderr
  for escape in effect.escape do JobScript.Outside.complain escape
  return effect.exitCode.toUInt32
