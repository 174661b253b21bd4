import X86.CommandLine.Arguments
import X86.Listing

namespace X86.CommandLine

def versionText : String := "x86-disasm 0.1.0\n"

def helpText : String :=
  "Disassemble x86 and x86-64 machine code\n\n" ++
  "Usage: x86-disasm [OPTIONS] <FILE>\n\n" ++
  "Arguments:\n" ++
  "  <FILE>  ELF object, or flat image with --raw\n\n" ++
  "Options:\n" ++
  "  -m, --mode <MODE>      " ++
    "Decoding mode in bits [default: from the ELF class, else 64]\n" ++
  "  -s, --syntax <SYNTAX>  " ++
    "Assembly syntax [default: intel] [possible values: intel, att]\n" ++
  "      --no-color         Never emit ANSI colors\n" ++
  "      --force-no-syms    Do not print symbol labels\n" ++
  "      --raw              Treat the input as a flat binary image\n" ++
  "      --org <ORG>        Load address of a flat image [default: 0]\n" ++
  "  -v, --verbose...       Log verbosity (repeat for more)\n" ++
  "  -h, --help             Print help\n" ++
  "  -V, --version          Print version\n"

def usageText : String :=
  "Usage: x86-disasm [OPTIONS] <FILE>\n\nFor more information, try '--help'.\n"

inductive Failure where
  | unreadable
  | image (e : ImageError)
  deriving DecidableEq, Repr

def Failure.message (path : String) : Failure → String
  | unreadable => "reading " ++ path
  | image e => e.message path

namespace Request

def image (r : Request) (file : List UInt8) : Except ImageError Image :=
  if r.raw then .ok (Image.flat r.origin file) else Image.ofFile file

def listing (r : Request) (terminal : Bool) (image : Image) : Listing.Options where
  decoder := ⟨(r.mode.or image.mode).getD .bits64, false⟩
  dialect := r.dialect
  colors := r.colors && terminal
  labels := r.labels

def answer (r : Request) (terminal : Bool) (file : Option (List UInt8)) : Except Failure String :=
  match file with
  | none => .error .unreadable
  | some bytes =>
    match r.image bytes with
    | .ok image => .ok (Listing.text Color.paint (r.listing terminal image) image)
    | .error e => .error (.image e)

end Request

end X86.CommandLine
