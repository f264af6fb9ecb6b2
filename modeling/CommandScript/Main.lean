import CommandScript.Runner.Session

namespace CommandScript.Main

open Runner

/-- More levels and rounds than a run can get through. -/
def fuel : Nat := 1000000000000000000

/-- The number of a system error, which some calls give as its negative. -/
def errorNumber (code : UInt32) : Nat :=
  if code < 0x80000000 then code.toNat else UInt32.size - code.toNat

def readFault : IO.Error → ReadFault
  | .noFileOrDirectory .. => .notFound
  | .permissionDenied .. => .other "Permission denied (os error 13)"
  | .inappropriateType _ code _ =>
    if errorNumber code = 21 then .isADirectory else .notADirectory
  | cause => .other (toString cause)

def readPath (path : String) : IO (Except ReadFault String) := do
  try
    let bytes ← IO.FS.readBinFile path
    return decodeText bytes
  catch cause => return .error (readFault cause)

/-- The files that a run may ask for, read ahead of it. -/
def snapshot (paths : List String) : IO Files := do
  let texts ← paths.mapM fun path => do return (path, ← readPath path)
  let read (path : String) := (texts.lookup path).getD (.error .notFound)
  let isPresent (path : String) : Bool :=
    match read path with
    | .error .notFound | .error .notADirectory => false
    | _ => true
  return { read, isPresent }

def processVariables : IO (Table String) := do
  match ← readPath "/proc/self/environ" with
  | .error _ => return {}
  | .ok text =>
    let entries := (text.splitOn "\x00").filterMap fun entry =>
      match entry.splitOn "=" with
      | name :: first :: rest => some (name, "=".intercalate (first :: rest))
      | _ => none
    return .ofList entries

partial def readStream (stream : IO.FS.Stream) (read : ByteArray) : IO ByteArray := do
  let bytes ← stream.read 65536
  if bytes.isEmpty then return read else readStream stream (read ++ bytes)

def readInput : IO (Except ReadFault String) := do
  return decodeText (← readStream (← IO.getStdin) .empty)

def print (transcript : Option Transcript) : IO UInt32 := do
  match transcript with
  | none => return 1
  | some t =>
    IO.print t.stdout
    IO.eprint t.stderr
    return t.code.toUInt32

end CommandScript.Main

open CommandScript CommandScript.Main CommandScript.Runner in
def main (words : List String) : IO UInt32 := do
  let environment ← processVariables
  match Options.parse words with
  | .error fault => print (some (.ofUsage fault))
  | .ok options =>
    let files ← snapshot (paths environment options)
    match load files environment options with
    | .error message => print (some (.refused message 1))
    | .ok loaded =>
      let input ← if loaded.2.isNone then readInput else pure (.ok "")
      print (perform fuel environment input loaded)
