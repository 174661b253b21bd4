import X86.CommandLine.Answer

namespace X86.CommandLine

def readBytes (path : String) : IO (Option (List UInt8)) := do
  try
    return some (← IO.FS.readBinFile path).toList
  catch _ =>
    return none

def list (r : Request) : IO UInt32 := do
  let out ← IO.getStdout
  match r.answer (← out.isTty) (← readBytes r.file) with
  | .ok text =>
    out.putStr text
    return 0
  | .error e =>
    IO.eprintln ("Error: " ++ e.message r.file)
    return 1

def run (arguments : List String) : IO UInt32 := do
  match Request.ofArguments arguments with
  | .ok r => list r
  | .error .help =>
    IO.print helpText
    return 0
  | .error .version =>
    IO.print versionText
    return 0
  | .error .misuse =>
    IO.eprint usageText
    return 2

end X86.CommandLine

def main (arguments : List String) : IO UInt32 := X86.CommandLine.run arguments
