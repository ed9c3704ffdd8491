-- The command line as text: the command that is asked for, the file that it
-- works on, and its options. Arguments are read from left to right, and the first
-- one that ends the reading decides what is asked for.

namespace BoundaryGen

/-! ## Requests -/

inductive Command where
  | generate (snapshot out : String) (force useLog : Bool)
  | check (snapshot : String)
  /-- Without a path the manifest is printed. -/
  | manifest (snapshot : String) (out : Option String)
  | inspect (snapshot : String)
  | describe (manifest : String)
  deriving DecidableEq, Repr

/-- What a command line asks for. -/
inductive Request where
  /-- A command, and the configuration file for it when one is named. -/
  | run (command : Command) (config : Option String)
  | version
  | help
  /-- The command line asks for nothing that there is. -/
  | misuse
  deriving DecidableEq, Repr

namespace CommandLine

/-! ## Arguments -/

inductive Argument where
  | word (text : String)
  /-- An option by its name, with the value behind its equals sign. -/
  | option (name : String) (value : Option String)
  /-- Options of one letter each; the first of them. -/
  | letter (first : Char)
  /-- What follows is words. -/
  | separator
  deriving DecidableEq, Repr

/-- The argument that a text is. A dash alone is a word. -/
def Argument.of (text : String) : Argument :=
  match text.toList with
  | ['-', '-'] => .separator
  | '-' :: '-' :: rest =>
    .option (String.ofList (rest.takeWhile (· ≠ '='))) <|
      match rest.dropWhile (· ≠ '=') with
      | _ :: value => some (String.ofList value)
      | [] => none
  | '-' :: first :: _ => .letter first
  | _ => .word text

/-- What stands on a command line for one command. -/
structure Given where
  word : Option String := none
  values : List (String × String) := []
  flags : List String := []
  deriving DecidableEq, Repr

namespace Given

/-- A command takes one word, which is not empty. -/
def withWord (g : Given) (word : String) : Except Request Given :=
  if word.isEmpty || g.word.isSome then .error .misuse else .ok { g with word := some word }

/-- A value stands once for an option, and is not empty. -/
def withValue (g : Given) (name value : String) : Except Request Given :=
  if value.isEmpty || (g.values.lookup name).isSome then .error .misuse
  else .ok { g with values := (name, value) :: g.values }

def withFlag (g : Given) (name : String) : Except Request Given :=
  if g.flags.contains name then .error .misuse else .ok { g with flags := name :: g.flags }

def value? (g : Given) (name : String) : Option String := g.values.lookup name

end Given

/-! ## Reading -/

/-- Where an argument may stand. -/
structure Grammar where
  /-- The options that take a value. -/
  valued : List String
  flags : List String := []
  /-- Before the name of a command: there the first word is that name. -/
  isTop : Bool := false

/-- Reads the arguments of one command. Before the name of a command the reading ends with that
name, and the arguments behind it remain. -/
def read (grammar : Grammar) (given : Given) : List String → Except Request (Given × List String)
  | [] => .ok (given, [])
  | text :: rest =>
    match Argument.of text with
    | .separator =>
      if grammar.isTop then .error .misuse
      else do return (← rest.foldlM Given.withWord given, [])
    | .word word =>
      if grammar.isTop then .ok ({ given with word := some word }, rest)
      else do read grammar (← given.withWord word) rest
    | .letter first =>
      if first = 'h' then .error .help
      else if first = 'V' && grammar.isTop then .error .version
      else .error .misuse
    | .option name none =>
      if name = "help" then .error .help
      else if name = "version" && grammar.isTop then .error .version
      else if grammar.flags.contains name then do read grammar (← given.withFlag name) rest
      else if grammar.valued.contains name then
        match rest with
        | value :: rest =>
          if Argument.of value = .word value then do
            read grammar (← given.withValue name value) rest
          else .error .misuse
        | [] => .error .misuse
      else .error .misuse
    | .option name (some value) =>
      if grammar.valued.contains name then do read grammar (← given.withValue name value) rest
      else .error .misuse

/-! ## Commands -/

/-- Where the files of a generation go when nothing is said. -/
def usualOutput : String := "build/generated/kirok"

def top : Grammar := { valued := ["config"], isTop := true }

/-- The commands by their names, with their options and what they are for a file. -/
def commands : List (String × Grammar × (Given → String → Command)) := [
  ("generate", { valued := ["config", "out"], flags := ["force", "use-log"] }, fun g snapshot =>
    .generate snapshot ((g.value? "out").getD usualOutput) (g.flags.contains "force")
      (g.flags.contains "use-log")),
  ("check", { valued := ["config"] }, fun _ snapshot => .check snapshot),
  ("manifest", { valued := ["config", "out"] }, fun g snapshot =>
    .manifest snapshot (g.value? "out")),
  ("inspect", { valued := ["config"] }, fun _ snapshot => .inspect snapshot),
  ("describe", { valued := ["config"] }, fun _ manifest => .describe manifest)]

/-- Help is there for the program and for each command. -/
def helpOn : List String → Request
  | [] => .help
  | [name] => if name = "help" || (commands.lookup name).isSome then .help else .misuse
  | _ => .misuse

/-- The request of a command line, unless the reading ends early with another. A configuration
file that stands behind the name of the command goes before one in front of it. -/
def request (arguments : List String) : Except Request Request := do
  let (before, rest) ← read top {} arguments
  match before.word with
  | none => throw .misuse
  | some "help" => return helpOn rest
  | some name =>
    match commands.lookup name with
    | none => throw .misuse
    | some (grammar, command) =>
      let (given, _) ← read grammar {} rest
      match given.word with
      | none => throw .misuse
      | some file =>
        let config := given.value? "config" <|> before.value? "config"
        return .run (command given file) config

/-- What a command line asks for. -/
def parse (arguments : List String) : Request :=
  match request arguments with
  | .ok asked | .error asked => asked

end CommandLine

end BoundaryGen
