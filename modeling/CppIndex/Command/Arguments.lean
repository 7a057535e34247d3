/-!
# Command-line arguments

A command line consists of a command, its positional arguments, and options. An option is written `--name
value` or `--name=value`, a short one also `-cvalue` or `-c=value`; a flag has no value. Everything behind
a bare `--` is positional, and so is a single `-`. The flag for a talkative run may stand anywhere.

Reading arguments happens in two steps: the words become **marks** (`Mark`), each a positional argument, a
flag or an option with its value, and the marks of a command are sorted into its fields.
-/

namespace CppIndex

/-- **A command.** -/
inductive Command
  /-- Describe a single declaration. -/
  | parse (kind declaration : String) (scope : Option String) (json : Bool)
  /-- Build a project and resolve one reference. -/
  | resolve (manifest role target : String) (scope config : Option String)
  /-- Build a project and print what came of it. -/
  | build (manifest : String) (json : Bool) (config : Option String)
  deriving DecidableEq, Repr

namespace Command

/-! ### From words to marks -/

/-- One argument, recognised by its form. -/
inductive Mark
  /-- A positional argument. -/
  | positional (text : String)
  /-- A flag without a value. -/
  | flag (name : String)
  /-- An option with its value. -/
  | option (name value : String)
  deriving DecidableEq, Repr

/-- Which options a command understands. -/
structure Options where
  /-- The names of its flags. -/
  flags : List String
  /-- The names of its options with a value. -/
  valued : List String

/-- The name that a short option stands for. -/
def longName? (c : Char) : Option String :=
  if c = 'v' then some "verbose" else if c = 'c' then some "config" else none

/-- An argument in the form `name=value`, split at its first equals sign. -/
def splitEquals (cs : List Char) : String × Option String :=
  let name := cs.takeWhile (· != '=')
  match cs.drop name.length with
  | [] => (String.ofList name, none)
  | _ :: value => (String.ofList name, some (String.ofList value))

/-- A group of short options in one word; the last may take the rest of the word or the next word as
its value. Answers the marks and the words that are left. -/
def shortMarks (o : Options) (next : List String) : List Char → Option (List Mark × List String)
  | [] => some ([], next)
  | c :: cs =>
    match longName? c with
    | none => none
    | some name =>
      if name ∈ o.flags then
        (shortMarks o next cs).map fun (marks, rest) => (.flag name :: marks, rest)
      else if name ∈ o.valued then
        match cs, next with
        | [], [] => none
        | [], value :: rest => if value.startsWith "-" && value != "-" then none
          else some ([.option name value], rest)
        | '=' :: value, _ => some ([.option name (String.ofList value)], next)
        | _, _ => some ([.option name (String.ofList cs)], next)
      else none

/-- The marks of a long option. -/
def longMark (o : Options) (next : List String) (cs : List Char) :
    Option (List Mark × List String) :=
  match splitEquals cs with
  | (name, some value) => if name ∈ o.valued then some ([.option name value], next) else none
  | (name, none) =>
    if name ∈ o.flags then some ([.flag name], next)
    else if name ∈ o.valued then
      match next with
      | [] => none
      | value :: rest => if value.startsWith "-" && value != "-" then none
        else some ([.option name value], rest)
    else none

/-- **The marks of words**, within a number of words. -/
def marksUpTo (o : Options) : Nat → List String → Option (List Mark)
  | _, [] => some []
  | 0, _ => none
  | n + 1, word :: words =>
    match word.toList with
    | ['-', '-'] => some (words.map .positional)
    | '-' :: '-' :: cs =>
      match longMark o words cs with
      | none => none
      | some (marks, rest) => (marksUpTo o n rest).map (marks ++ ·)
    | '-' :: c :: cs =>
      match shortMarks o words (c :: cs) with
      | none => none
      | some (marks, rest) => (marksUpTo o n rest).map (marks ++ ·)
    | _ => (marksUpTo o n words).map (.positional word :: ·)

/-- The marks of words. -/
def marks (o : Options) (words : List String) : Option (List Mark) :=
  marksUpTo o words.length words

/-! ### From marks to commands -/

/-- The positional arguments among marks. -/
def positionals (marks : List Mark) : List String :=
  marks.filterMap fun
    | .positional text => some text
    | _ => none

/-- The values of an option among marks. -/
def values (name : String) (marks : List Mark) : List String :=
  marks.filterMap fun
    | .option n value => if n = name then some value else none
    | _ => none

/-- The value of an option that may be given once. -/
def value? (name : String) (marks : List Mark) : Option (Option String) :=
  match values name marks with
  | [] => some none
  | [value] => some (some value)
  | _ => none

/-- Whether a flag that may be given once is given. -/
def flag? (name : String) (marks : List Mark) : Option Bool :=
  match marks.count (.flag name) with
  | 0 => some false
  | 1 => some true
  | _ => none

/-- The options of each command, by its name. -/
def options? (name : String) : Option Options :=
  if name = "parse" then some ⟨["verbose", "json"], ["scope"]⟩
  else if name = "resolve" then some ⟨["verbose"], ["scope", "config"]⟩
  else if name = "build" then some ⟨["verbose", "json"], ["config"]⟩
  else none

/-- Whether a path can name a file at all. -/
def isPath (path : String) : Bool := !path.isEmpty

/-- The command with a name and marks, if they fit it. -/
def ofMarks? (name : String) (marks : List Mark) : Option Command :=
  match flag? "verbose" marks, flag? "json" marks, value? "scope" marks, value? "config" marks with
  | some _, some json, some scope, some config =>
    match name, positionals marks with
    | "parse", [kind, declaration] => some (.parse kind declaration scope json)
    | "resolve", [manifest, role, target] =>
      if isPath manifest && config.all isPath then
        some (.resolve manifest role target scope config)
      else none
    | "build", [manifest] =>
      if isPath manifest && config.all isPath then some (.build manifest json config) else none
    | _, _ => none
  | _, _, _, _ => none

/-- The command with a name and the words behind it. -/
def ofWords? (name : String) (words : List String) : Option Command :=
  (options? name).bind fun o => (marks o words).bind (ofMarks? name)

/-- **The command that arguments stand for**, if there is one. The flag for a talkative run in front of
the command does not count as given behind it. -/
def ofArgs? : List String → Option Command
  | [] => none
  | word :: words =>
    if word = "-v" ∨ word = "--verbose" then
      match words with
      | name :: words => ofWords? name words
      | [] => none
    else ofWords? word words

end Command

end CppIndex
