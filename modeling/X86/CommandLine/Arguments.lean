import X86.Image
import X86.Text.Format
import X86.Text.Numeral

/-! The arguments of the command line, read from left to right. A request for help, or the first
mistake, ends the reading. -/

namespace X86.CommandLine

structure Request where
  file : String
  mode : Option Mode
  dialect : Dialect
  colors : Bool
  labels : Bool
  raw : Bool
  origin : Nat
  deriving DecidableEq, Repr, Inhabited

inductive Stop where
  | help
  | version
  | misuse
  deriving DecidableEq, Repr, Inhabited

inductive Switch where
  | noColor | noLabels | raw | verbose | help | version
  deriving DecidableEq, Repr, Inhabited

namespace Switch

def ofLetter? : Char → Option Switch
  | 'v' => some verbose
  | 'h' => some help
  | 'V' => some version
  | _ => none

def ofWord? : String → Option Switch
  | "no-color" => some noColor
  | "force-no-syms" => some noLabels
  | "raw" => some raw
  | "verbose" => some verbose
  | "help" => some help
  | "version" => some version
  | _ => none

end Switch

inductive Setting where
  | mode | dialect | origin
  deriving DecidableEq, Repr, Inhabited

namespace Setting

def ofLetter? : Char → Option Setting
  | 'm' => some mode
  | 's' => some dialect
  | _ => none

def ofWord? : String → Option Setting
  | "mode" => some mode
  | "syntax" => some dialect
  | "org" => some origin
  | _ => none

end Setting

def mode? (value : String) : Option Mode :=
  (Numeral.read? 10 (1 <<< 32) value.toList).bind Mode.ofBits?

def dialect? : String → Option Dialect
  | "intel" => some .intel
  | "att" => some .att
  | _ => none

def address? (value : String) : Option Nat :=
  match value.toList with
  | '0' :: 'x' :: cs | '0' :: 'X' :: cs => Numeral.read? 16 (1 <<< 64) cs
  | cs => Numeral.read? 10 (1 <<< 64) cs

inductive Argument where
  | escape
  | word (name : String) (value : Option String)
  | letters (cs : List Char)
  | operand (t : String)
  deriving DecidableEq, Repr

def Argument.ofText (t : String) : Argument :=
  match t.toList with
  | ['-', '-'] => escape
  | '-' :: '-' :: cs =>
    match cs.dropWhile (· ≠ '=') with
    | _ :: value => word (String.ofList (cs.takeWhile (· ≠ '='))) (some (String.ofList value))
    | [] => word (String.ofList cs) none
  | ['-'] => operand t
  | '-' :: cs => letters cs
  | _ => operand t

structure Progress where
  file : Option String := none
  mode : Option Mode := none
  dialect : Option Dialect := none
  origin : Option Nat := none
  noColor : Bool := false
  noLabels : Bool := false
  raw : Bool := false
  waiting : Option Setting := none
  escaped : Bool := false
  deriving DecidableEq, Repr, Inhabited

namespace Progress

def operand (p : Progress) (t : String) : Except Stop Progress :=
  if p.file.isSome || t.isEmpty then .error .misuse else .ok { p with file := some t }

def turnOn (p : Progress) : Switch → Except Stop Progress
  | .noColor => if p.noColor then .error .misuse else .ok { p with noColor := true }
  | .noLabels => if p.noLabels then .error .misuse else .ok { p with noLabels := true }
  | .raw => if p.raw then .error .misuse else .ok { p with raw := true }
  | .verbose => .ok p
  | .help => .error .help
  | .version => .error .version

def assign (p : Progress) (value : String) : Setting → Except Stop Progress
  | .mode =>
    match p.mode, mode? value with
    | none, some m => .ok { p with mode := some m }
    | _, _ => .error .misuse
  | .dialect =>
    match p.dialect, dialect? value with
    | none, some d => .ok { p with dialect := some d }
    | _, _ => .error .misuse
  | .origin =>
    match p.origin, address? value with
    | none, some a => .ok { p with origin := some a }
    | _, _ => .error .misuse

/-- Letters behind one dash. The rest behind an option is its value, also behind a sign of
equality. -/
def letters (p : Progress) : List Char → Except Stop Progress
  | [] => .ok p
  | c :: cs =>
    match Switch.ofLetter? c, Setting.ofLetter? c with
    | some s, _ =>
      match p.turnOn s with
      | .ok p => p.letters cs
      | .error e => .error e
    | none, some s =>
      match cs with
      | [] => .ok { p with waiting := some s }
      | '=' :: value => p.assign (String.ofList value) s
      | value => p.assign (String.ofList value) s
    | none, none => .error .misuse

def word (p : Progress) (name : String) (value : Option String) : Except Stop Progress :=
  match Switch.ofWord? name, Setting.ofWord? name, value with
  | some s, _, none => p.turnOn s
  | none, some s, some v => p.assign v s
  | none, some s, none => .ok { p with waiting := some s }
  | _, _, _ => .error .misuse

def feed (p : Progress) (t : String) : Except Stop Progress :=
  if p.escaped then p.operand t
  else
    match p.waiting, Argument.ofText t with
    | some s, .operand v => { p with waiting := none }.assign v s
    | some _, _ => .error .misuse
    | none, .escape => .ok { p with escaped := true }
    | none, .word name value => p.word name value
    | none, .letters cs => p.letters cs
    | none, .operand t => p.operand t

def finish (p : Progress) : Except Stop Request :=
  match p.waiting, p.file with
  | none, some file =>
    .ok {
      file := file
      mode := p.mode
      dialect := p.dialect.getD .intel
      colors := !p.noColor
      labels := !p.noLabels
      raw := p.raw
      origin := p.origin.getD 0 }
  | _, _ => .error .misuse

end Progress

def normalize : String → String
  | "-no-color" => "--no-color"
  | "-force-no-syms" => "--force-no-syms"
  | t => t

def Request.ofArguments (arguments : List String) : Except Stop Request := do
  let p ← (arguments.map normalize).foldlM Progress.feed {}
  p.finish

end X86.CommandLine
