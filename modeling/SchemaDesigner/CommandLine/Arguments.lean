/-
The arguments of the program.

* `Request`: what a user asks for;
* `Flag`, `Given`: the options of a request, and those that were given;
* `readArguments`: options and other arguments, in any order;
* `Request.ofArguments?`: the request that some arguments make, if they make one.
-/
import SchemaDesigner.Dialect

namespace SchemaDesigner.CommandLine

/-- What a user asks for. -/
inductive Request
  /-- The script that defines the tables of a project. -/
  | generate (input : String) (dialect : Dialect) (output : Option String) (header : Bool)
  /-- A project with the tables that a script defines. -/
  | importScript (input : String) (name output : Option String)
  /-- The summary of a project or of a script. -/
  | describe (input : String)
  deriving DecidableEq, Repr

/-! ### Options -/

/-- An option. -/
inductive Flag
  | verbose
  | dialect
  | output
  | noHeader
  | name
  deriving DecidableEq, Repr

namespace Flag

/-- The name of an option after two dashes. -/
def long : Flag → String
  | verbose => "verbose"
  | dialect => "dialect"
  | output => "output"
  | noHeader => "no-header"
  | name => "name"

/-- The letter of an option after one dash. -/
def short? : Flag → Option Char
  | verbose => some 'v'
  | dialect => some 'd'
  | output => some 'o'
  | noHeader => none
  | name => some 'n'

/-- Whether an option has a value. -/
def takesValue : Flag → Bool
  | verbose | noHeader => false
  | dialect | output | name => true

end Flag

/-- What was given: options with their values, and other arguments. -/
structure Given where
  flags : List (Flag × String) := []
  others : List String := []
  deriving DecidableEq, Repr

namespace Given

/-- Adds an option, which must not have been given before. -/
def addFlag? (g : Given) (flag : Flag) (value : String) : Option Given :=
  if g.flags.any fun f => f.1 == flag then none
  else some { g with flags := g.flags ++ [(flag, value)] }

/-- Adds another argument. -/
def addOther (g : Given) (argument : String) : Given :=
  { g with others := g.others ++ [argument] }

/-- The value of an option. -/
def value? (g : Given) (flag : Flag) : Option String :=
  (g.flags.find? fun f => f.1 == flag).map Prod.snd

end Given

/-! ### Reading -/

/-- What an argument amounts to. -/
inductive Argument
  /-- Two dashes, behind which no argument is an option. -/
  | separator
  /-- The name of an option after two dashes, with the value after an equals sign. -/
  | long (name : String) (value : Option String)
  /-- The letters of options after one dash. -/
  | short (letters : List Char)
  | other (text : String)
  deriving DecidableEq, Repr

/-- What an argument amounts to. A single dash is no option. -/
def Argument.ofText (s : String) : Argument :=
  match s.toList with
  | ['-', '-'] => .separator
  | '-' :: '-' :: cs =>
    let name := cs.takeWhile (· != '=')
    .long (String.ofList name)
      (if name.length < cs.length then some (String.ofList (cs.drop (name.length + 1))) else none)
  | '-' :: c :: cs => .short (c :: cs)
  | _ => .other s

/-- The value that stands right after the letter of an option, perhaps after an equals sign. -/
def attachedValue : List Char → String
  | '=' :: cs => String.ofList cs
  | cs => String.ofList cs

/-- The options that letters give. One that still needs a value comes as the last result. -/
def readLetters (known : List Flag) (g : Given) : List Char → Option (Given × Option Flag)
  | [] => some (g, none)
  | c :: cs => do
    let flag ← known.find? fun f => f.short? == some c
    if flag.takesValue then
      if cs.isEmpty then return (g, some flag)
      else return (← g.addFlag? flag (attachedValue cs), none)
    else readLetters known (← g.addFlag? flag "") cs

/-- The option that a name gives. One that still needs a value comes as the last result. -/
def readName (known : List Flag) (g : Given) (name : String) (value : Option String) :
    Option (Given × Option Flag) := do
  let flag ← known.find? fun f => f.long == name
  match flag.takesValue, value with
  | true, none => return (g, some flag)
  | true, some value => return (← g.addFlag? flag value, none)
  | false, none => return (← g.addFlag? flag "", none)
  | false, some _ => none

/-- What some arguments give, when `waiting` needs a value. -/
def readArguments (known : List Flag) (g : Given) (waiting : Option Flag) :
    List String → Option Given
  | [] => if waiting.isSome then none else some g
  | a :: rest =>
    match waiting, Argument.ofText a with
    | some flag, .other value => do readArguments known (← g.addFlag? flag value) none rest
    | some _, _ => none
    | none, .other text => readArguments known (g.addOther text) none rest
    | none, .separator => some { g with others := g.others ++ rest }
    | none, .long name value => do
      let (g, waiting) ← readName known g name value
      readArguments known g waiting rest
    | none, .short letters => do
      let (g, waiting) ← readLetters known g letters
      readArguments known g waiting rest

/-! ### Requests -/

/-- A path, which is not empty. -/
def path? (s : String) : Option String :=
  if s = "" then none else some s

/-- The only argument that is no option. -/
def input? (g : Given) : Option String :=
  match g.others with
  | [input] => path? input
  | _ => none

/-- The path of the output, if one was given. An empty one makes no request. -/
def output? (g : Given) : Option (Option String) :=
  match g.value? .output with
  | some path => some <$> path? path
  | none => some none

/-- The dialect that was given. An unknown one makes no request. -/
def dialect? (g : Given) : Option Dialect :=
  match g.value? .dialect with
  | some name => Dialect.ofName? name
  | none => some .standard

/-- The request of a word for what to do, with the arguments after it. -/
def Request.ofCommand? (word : String) (arguments : List String) : Option Request :=
  match word with
  | "generate" => do
    let g ← readArguments [.verbose, .dialect, .output, .noHeader] {} none arguments
    return .generate (← input? g) (← dialect? g) (← output? g) (g.value? .noHeader).isNone
  | "import" => do
    let g ← readArguments [.verbose, .name, .output] {} none arguments
    return .importScript (← input? g) (g.value? .name) (← output? g)
  | "describe" => do
    let g ← readArguments [.verbose] {} none arguments
    return .describe (← input? g)
  | _ => none

/-- The request that some arguments make: options for any request, a word for what to do, and what
belongs to it. -/
def requestAfter? (g : Given) : List String → Option Request
  | [] => none
  | a :: rest =>
    match Argument.ofText a with
    | .other word => Request.ofCommand? word rest
    | .long name value => do
      let (g, _) ← readName [.verbose] g name value
      requestAfter? g rest
    | .short letters => do
      let (g, _) ← readLetters [.verbose] g letters
      requestAfter? g rest
    | .separator => none

/-- The request that some arguments make. -/
def Request.ofArguments? (arguments : List String) : Option Request :=
  requestAfter? {} arguments

end SchemaDesigner.CommandLine
