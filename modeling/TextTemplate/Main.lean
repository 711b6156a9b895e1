import Std.Time.DateTime.Timestamp
import TextTemplate.CommandLine.Run

/-!
# The program

Reads the command line, the clock and the files that are named, prints the output of the request,
and ends with status 1 after a fault and 2 after a command line that is not valid.
-/

namespace TextTemplate

/-- The reason of a failure to read a file. -/
def reasonOf : IO.Error → String
  | .noFileOrDirectory _ _ _ => "No such file or directory (os error 2)"
  | .permissionDenied _ _ _ => "Permission denied (os error 13)"
  | .inappropriateType _ 21 _ => "Is a directory (os error 21)"
  | .inappropriateType _ _ _ => "Not a directory (os error 20)"
  | e => toString e

/-- What a failure to read a file says of the path. -/
def contentOfError (e : IO.Error) : FileContent :=
  match e with
  | .noFileOrDirectory _ _ _ => .missing (reasonOf e)
  | .inappropriateType (some _) _ _ => .missing (reasonOf e)
  | e => .unreadable (reasonOf e)

/-- Reads what is at a path. -/
def readContent (path : String) : IO FileContent := do
  if path.contains '\x00' then return .missing "file name contained an unexpected NUL byte"
  try
    let bytes ← IO.FS.readBinFile path
    match String.fromUTF8? bytes with
    | some s => return .text s
    | none => return .unreadable "stream did not contain valid UTF-8"
  catch e => return contentOfError e

/-- The path of the settings that hold if no others are named: they lie in a folder that has the
name of the program. -/
def defaultSettingsPath : IO String := do
  let named ← IO.getEnv "XDG_CONFIG_HOME"
  let home ← IO.getEnv "HOME"
  let folder := match named.filter (·.startsWith "/"), home with
    | some folder, _ => folder
    | none, some home => home ++ "/.config"
    | none, none => "."
  let program := (← IO.appPath).fileStem.getD "."
  return folder ++ "/" ++ program ++ "/config.toml"

/-- The current universal time. -/
def currentTime : IO Calendar.DateTime := do
  let now ← Std.Time.Timestamp.now
  let nanos := now.toNanosecondsSinceUnixEpoch.val
  let seconds := nanos.fdiv 1000000000
  let days := seconds.fdiv 86400
  return ⟨⟨days⟩, ⟨(seconds.fmod 86400).toNat, (nanos.fmod 1000000000).toNat⟩⟩

/-- The paths that a request reads. -/
def Request.paths (request : Request) (defaultSettings : String) : List String :=
  let context := match request.command with
    | .evaluate _ context _ _ => context
    | .suggest _ context _ => context
    | _ => none
  request.settings.getD defaultSettings :: context.toList

/-- Runs a request in the surroundings that the program finds. -/
def Request.perform (request : Request) : IO (Except CommandFault (List Char)) := do
  let defaultSettings ← defaultSettingsPath
  let files ← (request.paths defaultSettings).mapM fun path => return (path, ← readContent path)
  let file := fun path =>
    match files.find? fun known => known.1 == path with
    | some (_, content) => content
    | none => .missing "No such file or directory (os error 2)"
  return request.run ⟨file, defaultSettings, ← currentTime⟩

end TextTemplate

def main (args : List String) : IO UInt32 := do
  match TextTemplate.Request.ofArguments? args with
  | none =>
    IO.eprintln "error: invalid command line"
    return 2
  | some request =>
    match ← request.perform with
    | .ok output =>
      IO.print (String.ofList output)
      return 0
    | .error f =>
      IO.eprintln ("error: " ++ f.message)
      return 1
