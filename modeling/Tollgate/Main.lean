import Tollgate.Command
import Std.Time.DateTime.Timestamp

namespace Tollgate.Main

def textOf (bytes : ByteArray) : Option Text := Utf8.decode bytes.toList

def readBytes? (path : String) : IO (Option ByteArray) := do
  try return some (← IO.FS.readBinFile path) catch _ => return none

def readEnvironment (names : List String) : IO (List (Text × Text)) :=
  names.filterMapM fun name => do
    return (← IO.getEnv name).map fun value => (Text.lit name, Text.lit value)

def toString (s : Text) : String := String.ofList (s.map fun c => Char.ofNat c.val)

def source : IO Settings.Source := do
  let file := (← readBytes? ".env").bind textOf
  let referenced := (EnvFile.referencedNames (file.getD [])).map toString
  let names := Settings.names.map String.toUpper ++ Settings.names ++ referenced
  return { environment := ← readEnvironment names, file }

def now : IO Clock := do
  return .ofNanoseconds (← Std.Time.Timestamp.now).toNanosecondsSinceUnixEpoch.val

def crashText : Crash → String
  | .invalidFields flaws => "invalid settings: " ++ ", ".intercalate (flaws.map (·.1))
  | .fileMissing => "file not found"
  | .undecodable => "the file is not text"
  | .unsignable => "the algorithm or the key cannot sign a token"
  | .outOfRange => "a time is out of range"
  | _ => "the command failed"

def report : Except Crash Command.Result → IO UInt32
  | .ok result => do
    (← IO.getStdout).write (ByteArray.mk ((Utf8.encode result.out).getD []).toArray)
    (← IO.getStderr).write (ByteArray.mk ((Utf8.encode result.err).getD []).toArray)
    return UInt32.ofNat result.code
  | .error crash => do
    IO.eprintln (crashText crash)
    return 1

def makeSignature (args : List String) : IO UInt32 := do
  let bytes ← readBytes? (args.headD "")
  let content (_ : Text) : Except Crash Bytes :=
    (bytes.map fun bytes => .ok bytes.toList).getD (.error .fileMissing)
  report (Command.makeSignature content (← source) (← now) (args.map Text.lit))

def issueToken (args : List String) : IO UInt32 := do
  let tokenId := Command.randomId (← IO.getRandomBytes 16).toList
  report (Command.issueToken (← source) (← now) tokenId (args.map Text.lit))

end Tollgate.Main

def main : List String → IO UInt32
  | "make-sig" :: args => Tollgate.Main.makeSignature args
  | "issue-token" :: args => Tollgate.Main.issueToken args
  | _ => do
    IO.eprintln "usage: tollgate (make-sig | issue-token) ..."
    return 2
