import Plugboard.Table
import Plugboard.Text.Blank

/-!
Grammars of command lines: commands with options, positional arguments and subcommands. An option is
given at most once in each command; a global one may be given in every subcommand too, and the
innermost place counts.
-/
namespace Plugboard.CommandLine

/-- What is written behind an option. -/
inductive Operand
  | none
  | text
  /-- A text that must not be empty. -/
  | path
  deriving Repr, DecidableEq

structure OptionSpec where
  name : String
  letter : Option Char
  operand : Operand
  deriving Repr, DecidableEq

/-- A command. The positional arguments are all required; with `repeats` the last one may come more
than once. A command with subcommands has no positional arguments. -/
inductive Grammar
  | command (name : String) (options : List OptionSpec) (positionals : Nat) (repeats : Bool)
      (subcommands : List Grammar) (subcommandRequired : Bool)

namespace Grammar

def name : Grammar → String
  | command name _ _ _ _ _ => name

def options : Grammar → List OptionSpec
  | command _ options _ _ _ _ => options

def positionals : Grammar → Nat
  | command _ _ positionals _ _ _ => positionals

def repeats : Grammar → Bool
  | command _ _ _ repeats _ _ => repeats

def subcommands : Grammar → List Grammar
  | command _ _ _ _ subcommands _ => subcommands

def subcommandRequired : Grammar → Bool
  | command _ _ _ _ _ required => required

def subcommand? (g : Grammar) (name : String) : Option Grammar :=
  g.subcommands.find? fun s => s.name == name

end Grammar

/-- What a command line says. -/
structure Parsed where
  /-- The names of the subcommands, outermost first. -/
  path : List String
  /-- The options with their operands, empty for one without. -/
  options : Table String String
  positionals : List String
  deriving Repr, DecidableEq

/-- What comes of a command line. -/
inductive Reading
  | parsed (p : Parsed)
  | help
  | version
  | usageError
  deriving Repr, DecidableEq

/-- A command line as far as it was read. -/
structure Scan where
  grammar : Grammar
  path : List String
  /-- The options of the commands around this one. -/
  outer : Table String String
  /-- The options of this command. -/
  inner : Table String String
  positionals : List String
  /-- Whether everything from here on is positional. -/
  trailing : Bool

namespace Scan

def start (g : Grammar) : Scan := ⟨g, [], [], [], [], false⟩

/-- The options so far, the innermost ones before all others. -/
def allOptions (s : Scan) : Table String String :=
  s.inner.foldl (fun t o => Table.put o.1 o.2 t) s.outer

def setOption (s : Scan) (name value : String) : Option Scan :=
  match Table.get? name s.inner with
  | some _ => none
  | none => some { s with inner := Table.put name value s.inner }

def enter (s : Scan) (g : Grammar) : Scan :=
  ⟨g, s.path ++ [g.name], s.allOptions, [], [], false⟩

def addPositional (s : Scan) (value : String) : Option Scan :=
  if s.positionals.length < s.grammar.positionals || (s.grammar.repeats && !s.positionals.isEmpty)
  then some { s with positionals := s.positionals ++ [value] }
  else none

/-- What comes of the command line when it ends here. -/
def finish (s : Scan) : Reading :=
  if s.positionals.length < s.grammar.positionals || s.grammar.subcommandRequired then .usageError
  else .parsed ⟨s.path, s.allOptions, s.positionals⟩

def option? (s : Scan) (name : String) : Option OptionSpec :=
  s.grammar.options.find? fun o => o.name == name

def letter? (s : Scan) (c : Char) : Option OptionSpec :=
  s.grammar.options.find? fun o => o.letter == some c

/-- Whether the command is the outermost one, which knows the version. -/
def isRoot (s : Scan) : Bool := s.path.isEmpty

/-- An operand that is the rest of the argument of its option. -/
def setOperand (s : Scan) (o : OptionSpec) (value : String) : Option Scan :=
  match o.operand with
  | .none => none
  | .text => s.setOption o.name value
  | .path => if value.isEmpty then none else s.setOption o.name value

/-- What follows from an argument. -/
inductive Step
  | next (s : Scan)
  /-- The next argument is the operand of an option. -/
  | operand (o : OptionSpec)
  | stop (r : Reading)

def ofScan? : Option Scan → Step
  | some s => .next s
  | none => .stop .usageError

/-- A long option, without its two hyphens. -/
def long (s : Scan) (body : List Char) : Step :=
  let name := String.ofList (body.takeWhile (· != '='))
  match body.dropWhile (· != '=') with
  | _ :: value =>
    match s.option? name with
    | none => .stop .usageError
    | some o => ofScan? (s.setOperand o (String.ofList value))
  | [] =>
    if name == "help" then .stop .help
    else if name == "version" && s.isRoot then .stop .version
    else
      match s.option? name with
      | none => .stop .usageError
      | some o => if o.operand = .none then ofScan? (s.setOption o.name "") else .operand o

/-- A run of options by their letters; an option with an operand takes the rest of the run. -/
def short (s : Scan) : List Char → Step
  | [] => .next s
  | c :: rest =>
    if c == 'h' then .stop .help
    else if c == 'V' && s.isRoot then .stop .version
    else
      match s.letter? c with
      | none => .stop .usageError
      | some o =>
        if o.operand = .none then
          match s.setOption o.name "" with
          | none => .stop .usageError
          | some s => short s rest
        else if rest.isEmpty then .operand o
        else ofScan? (s.setOperand o (String.ofList (if rest.head? == some '=' then rest.drop 1
          else rest)))

/-- The command `help` takes the names of subcommands. -/
def helpFor (g : Grammar) : List String → Reading
  | [] => .help
  | name :: rest =>
    match g.subcommand? name with
    | some sub => helpFor sub rest
    | none =>
      if name == "help" && !g.subcommands.isEmpty && rest.isEmpty then .help else .usageError

/-- An argument that is no option. -/
def word (s : Scan) (arg : String) (rest : List String) : Step :=
  if s.grammar.subcommands.isEmpty then ofScan? (s.addPositional arg)
  else if s.trailing then .stop .usageError
  else
    match s.grammar.subcommand? arg with
    | some g => .next (s.enter g)
    | none => if arg == "help" then .stop (helpFor s.grammar rest) else .stop .usageError

/-- One argument, with the ones behind it. -/
def step (s : Scan) (arg : String) (rest : List String) : Step :=
  if s.trailing then s.word arg rest
  else
    match arg.toList with
    | ['-', '-'] => .next { s with trailing := true }
    | '-' :: '-' :: body => s.long body
    | '-' :: c :: body => s.short (c :: body)
    | _ => s.word arg rest

/-- Whether an argument cannot be the operand of the option before it. -/
def looksLikeOption (arg : String) : Bool :=
  match arg.toList with
  | '-' :: _ :: _ => true
  | _ => false

def run (s : Scan) : List String → Reading
  | [] => s.finish
  | arg :: rest =>
    match s.step arg rest with
    | .stop r => r
    | .next s => run s rest
    | .operand o =>
      match rest with
      | [] => .usageError
      | value :: rest =>
        if looksLikeOption value then .usageError
        else
          match s.setOperand o value with
          | none => .usageError
          | some s => run s rest

end Scan

/-- Reads the arguments of a command line. -/
def Grammar.read (g : Grammar) (args : List String) : Reading := (Scan.start g).run args

end Plugboard.CommandLine
