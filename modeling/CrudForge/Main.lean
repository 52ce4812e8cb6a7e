import CrudForge.Command.Run

/-!
The program in the world of the system it runs on.
-/

namespace CrudForge.Program

/-- The fault of an operation of the system. -/
def faultOf (e : IO.Error) : FileFault :=
  .other (toString e)

/-- The variables that the system gave the program. -/
def systemEnvironment : IO Environment := do
  let bytes ← IO.FS.readBinFile "/proc/self/environ"
  let entries := Text.split '\x00' ((String.fromUTF8? bytes).getD "")
  return entries.filterMap fun e =>
    let cs := e.toList
    let name := cs.takeWhile (· ≠ '=')
    if name.isEmpty then none
    else some (String.ofList name, String.ofList (cs.drop (name.length + 1)))

instance : Host IO where
  look path := do
    try
      let bytes ← IO.FS.readBinFile path
      return .file (.ofBytes bytes.toList)
    catch _ =>
      try
        let _ ← IO.FS.realPath path
        return .directory
      catch _ => return .nothing
  write path text := do
    try
      IO.FS.writeFile path text
      return .ok ()
    catch e => return .error (faultOf e)
  createDirs path := do
    try
      if path ≠ "" then IO.FS.createDirAll path
      return .ok ()
    catch e => return .error (faultOf e)
  environment := systemEnvironment
  print text := do
    let output ← IO.getStdout
    output.putStr text
    output.flush
  report text := do
    (← IO.getStderr).putStr text

/-- Whether styles are shown: as the environment says, or else on a terminal. -/
def stylesShown : IO Bool := do
  let isOn (name : String) : IO (Option Bool) := do
    return (← IO.getEnv name).map (· ≠ "0")
  if (← isOn "CLICOLOR_FORCE") = some true then return true
  if (← isOn "NO_COLOR").isSome then return false
  return (← isOn "CLICOLOR").getD true && (← (← IO.getStdout).isTty)

end CrudForge.Program

/-- Runs the program with its arguments. -/
def main (args : List String) : IO UInt32 := do
  let code ← CrudForge.Program.run (← CrudForge.Program.stylesShown) args
  return code.toUInt32
