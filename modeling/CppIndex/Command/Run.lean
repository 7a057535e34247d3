import CppIndex.Command.Arguments
import CppIndex.Json.Report
import CppIndex.Project.Settings

/-!
# Running commands

A command reads files, and answers with a status and with text for the two output streams. Here this is a
function: files are read through a `FileReader`, which gives the text of a file or the reason why it cannot
be read, and the answer is an `Outcome`. Manifests and settings are configuration texts, and what a command
does with them does not depend on how these are read, so the reader of configuration texts is an argument,
too; `Command.runArgs` runs the commands with `Toml.parse`.

A command that fails writes `Error: ` and what went wrong to the error stream and has status 1. Where
something else caused the failure the causes follow, one below the other (`Failure.message`).
-/

namespace CppIndex

/-- **The answer of a command.** -/
structure Outcome where
  /-- The exit status. -/
  status : Nat
  /-- What is written to the output stream. -/
  stdout : String
  /-- What is written to the error stream. -/
  stderr : String
  deriving DecidableEq, Repr

/-- Gives the text of a file, or the reason why it cannot be read. -/
abbrev FileReader := String → Except String String

/-! ### Failures -/

/-- **A failure**: what went wrong, and what caused it, the nearest cause first. -/
structure Failure where
  /-- What went wrong. -/
  text : String
  /-- What caused it. -/
  causes : List String := []
  deriving DecidableEq, Repr

namespace Failure

/-- A text with a mark in front of its first line and blanks in front of the others. -/
def hanging (mark blanks : String) (text : String) : String :=
  mark ++ String.ofList (text.toList.flatMap fun c => if c = '\n' then '\n' :: blanks.toList else [c])

/-- A number right-aligned in five columns. -/
def column (n : Nat) : String :=
  let digits := toString n
  String.ofList (List.replicate (5 - digits.length) ' ') ++ digits

/-- The causes, one below the other; they are numbered if there are several. -/
def causeLines : List String → List String
  | [cause] => [hanging "    " "    " cause]
  | causes => causes.mapIdx fun i cause => hanging (column i ++ ": ") "       " cause

/-- **The wording of a failure.** -/
def message (f : Failure) : String :=
  "Error: " ++ f.text ++
    (if f.causes.isEmpty then ""
      else "\n\nCaused by:\n" ++ String.intercalate "\n" (causeLines f.causes)) ++ "\n"

/-- The answer of a command that fails after writing some lines to the error stream. -/
def outcome (f : Failure) (before : String) : Outcome := ⟨1, "", before ++ f.message⟩

end Failure

/-! ### Loading -/

/-- The words for kinds or roles, as messages list them. -/
def expectedWords (words : List String) : String :=
  ", expected one of: " ++ String.intercalate ", " words

/-- The kind that a word stands for. -/
def ObjectKind.ofArgument (word : String) : Except Failure ObjectKind :=
  match ObjectKind.ofLabel? word with
  | some kind => .ok kind
  | none =>
    .error ⟨"Unknown object kind '" ++ word ++ "'" ++
      expectedWords (ObjectKind.all.map ObjectKind.label), []⟩

/-- The role that a word stands for. -/
def Role.ofArgument (word : String) : Except Failure Role :=
  match Role.ofLabel? word with
  | some role => .ok role
  | none =>
    .error ⟨"Unknown reference role '" ++ word ++ "'" ++ expectedWords (Role.all.map Role.label), []⟩

/-- The failure of a file that cannot be read. -/
def Failure.unreadable (what path file reason : String) : Failure :=
  ⟨"Failed to load " ++ what ++ " '" ++ path ++ "'",
    ["failed to read " ++ file ++ ": " ++ reason, reason]⟩

/-- The failure of a file whose text is malformed. -/
def Failure.malformed (what path : String) : Failure :=
  ⟨"Failed to load " ++ what ++ " '" ++ path ++ "'",
    ["failed to parse " ++ what ++ ": malformed text", "malformed text"]⟩

/-- The manifest in a file. -/
def Manifest.ofFile (read : TextReader) (files : FileReader) (path : String) :
    Except Failure Manifest :=
  match files path with
  | .error reason => .error (.unreadable "project" path "project file" reason)
  | .ok text =>
    match Manifest.parseWith read text with
    | .ok m => .ok m
    | .error .malformed => .error (.malformed "project" path)
    | .error (.faulty e) => .error ⟨"Failed to load project '" ++ path ++ "'", [e.message]⟩

/-- The settings in a file, or the default settings without one. -/
def Config.ofFile? (read : TextReader) (files : FileReader) : Option String → Except Failure Config
  | none => .ok {}
  | some path =>
    match files path with
    | .error reason => .error (.unreadable "config" path "config file" reason)
    | .ok text =>
      match Config.parseWith read text with
      | some config => .ok config
      | none => .error (.malformed "config" path)

/-- The failure of a scope that is rejected. -/
def Failure.invalidScope (e : ParseError) : Failure := ⟨"Invalid scope:\n" ++ e.message, []⟩

namespace Command

/-- **Load and build**: the manifest is read before the settings. -/
def loadAndBuild (read : TextReader) (files : FileReader) (manifest : String)
    (config : Option String) : Except Failure (Report × Index) :=
  match Manifest.ofFile read files manifest with
  | .error f => .error f
  | .ok m =>
    match Config.ofFile? read files config with
    | .error f => .error f
    | .ok config => .ok (m.build (.empty config))

/-- A line for each text. -/
def lines (texts : List String) : String := String.join (texts.map (· ++ "\n"))

/-- The warnings of a report as lines for the error stream. -/
def warningLines (r : Report) : String :=
  lines (r.warnings.map fun w => "warning: " ++ w.message)

/-! ### Describing one declaration -/

/-- A described declaration for people. -/
def describedText (d : Described) : String :=
  lines ["text:       " ++ d.declaration.render, "fullname:   " ++ d.fullname,
    "identifier: " ++ d.anchor, "signature:  " ++ d.signature.render, "index:      " ++ d.indexText]

/-- A described declaration as JSON, its fields sorted by name. -/
def describedJson (d : Described) : Json :=
  Json.sorted (.obj [("kind", .str d.kind.label), ("text", .str d.declaration.render),
    ("fullname", .str d.fullname), ("identifier", .str d.anchor), ("index", .str d.indexText),
    ("signature", d.signature.toJson)])

/-- The context of a scope given as an argument. -/
def scopeContext : Option String → Except Failure Context
  | none => .ok ⟨"cli", none⟩
  | some scope => ((Context.mk "cli" none).withNamespace scope).mapError .invalidScope

/-- **Describe one declaration.** -/
def runParse (kind declaration : String) (scope : Option String) (json : Bool) :
    Except Failure String :=
  match ObjectKind.ofArgument kind with
  | .error f => .error f
  | .ok kind =>
    match scopeContext scope with
    | .error f => .error f
    | .ok ctx =>
      match (Index.empty {}).describe ctx kind declaration with
      | .error e => .error ⟨e.message, []⟩
      | .ok (d, _) => .ok (if json then (describedJson d).text ++ "\n" else describedText d)

/-! ### Resolving one reference -/

/-- The line for a reference that was resolved. -/
def foundText (title : String) (found : Record) : String :=
  title ++ " -> " ++ found.fullname ++ " (" ++ found.entry.docname ++ "#" ++ found.entry.anchor ++
    ", " ++ found.entry.kind.label ++ ")\n"

/-- A reference looked up in a built index. -/
def lookUpText (ix : Index) (role : Role) (target : String) (scope : Option String) :
    Except Failure String :=
  match Expr.parseScope? scope with
  | .error e => .error (.invalidScope e)
  | .ok parent =>
    let link := (LinkStyle.ofConfig role ix.config).link target target false
    match ix.resolve role link.target parent with
    | .error e => .error ⟨e.message, []⟩
    | .ok (some found) => .ok (foundText link.title found)
    | .ok none =>
      .error ⟨"Could not resolve " ++ role.label ++ " reference '" ++ link.target ++ "'", []⟩

/-- **Build a project and resolve one reference.** The role is read before any file; the warnings of
the build come before the answer. -/
def runResolve (read : TextReader) (files : FileReader) (manifest role target : String)
    (scope config : Option String) : Outcome :=
  match Role.ofArgument role with
  | .error f => f.outcome ""
  | .ok role =>
    match loadAndBuild read files manifest config with
    | .error f => f.outcome ""
    | .ok (report, ix) =>
      match lookUpText ix role target scope with
      | .error f => f.outcome (warningLines report)
      | .ok text => ⟨0, text, warningLines report⟩

/-! ### Building a project -/

/-- A text with blanks behind it up to a width. -/
def padded (width : Nat) (text : String) : String :=
  text ++ String.ofList (List.replicate (width - text.length) ' ')

/-- The line for a registered object. -/
def objectLine (r : Record) : String :=
  "  " ++ padded 40 r.fullname ++ " " ++ padded 8 r.entry.kind.label ++ " " ++ r.entry.docname ++
    "#" ++ r.entry.anchor

/-- How a reference turned out, for people. -/
def resolutionText : Resolution → String
  | .resolved found => found.entry.docname ++ "#" ++ found.entry.anchor
  | .unresolved => "unresolved"
  | .failed error => "error: " ++ error.message

/-- The line for a reference. -/
def referenceLine (r : ReferenceReport) : String :=
  "  [" ++ r.docname ++ "] " ++ r.role.label ++ ":" ++ r.link.target ++ " -> " ++
    resolutionText r.resolution

/-- The line for a collision. -/
def collisionLine (c : Collision) : String :=
  "warning: '" ++ c.fullname ++ "' was registered in '" ++ c.previous.docname ++
    "' and again in '" ++ c.replacement.docname ++ "'"

/-- The last line: how much there was of everything. -/
def summaryLine (r : Report) : String :=
  toString r.objects.length ++ " objects, " ++ toString r.references.length ++ " references (" ++
    toString r.unresolved.length ++ " unresolved), " ++ toString r.warnings.length ++ " warnings"

/-- A build for people: the objects, the references if there are any, and the summary. -/
def buildText (report : Report) (ix : Index) : String :=
  lines (("Objects (" ++ toString ix.size ++ "):") :: ix.objects.map objectLine) ++
    (if report.references.isEmpty then ""
      else
        lines ("" :: ("References (" ++ toString report.references.length ++ "):") ::
          report.references.map referenceLine)) ++
    lines ["", summaryLine report]

/-- **Build a project and print what came of it.** -/
def runBuild (read : TextReader) (files : FileReader) (manifest : String) (json : Bool)
    (config : Option String) : Outcome :=
  match loadAndBuild read files manifest config with
  | .error f => f.outcome ""
  | .ok (report, ix) =>
    if json then ⟨0, report.toJson.text ++ "\n", ""⟩
    else
      ⟨0, buildText report ix, warningLines report ++ lines (ix.collisions.map collisionLine)⟩

/-! ### Commands -/

/-- The answer to arguments that stand for no command. -/
def usage : Outcome :=
  ⟨2, "", "error: expected one of: parse <kind> <declaration> [--scope <scope>] [--json], " ++
    "resolve <manifest> <role> <target> [--scope <scope>] [--config <config>], " ++
    "build <manifest> [--json] [--config <config>]\n"⟩

/-- **Run a command**, with any reader of configuration texts. -/
def run (read : TextReader) (files : FileReader) : Command → Outcome
  | .parse kind declaration scope json =>
    match runParse kind declaration scope json with
    | .ok text => ⟨0, text, ""⟩
    | .error f => f.outcome ""
  | .resolve manifest role target scope config =>
    runResolve read files manifest role target scope config
  | .build manifest json config => runBuild read files manifest json config

/-- **Run the command that arguments stand for.** -/
def runArgs (files : FileReader) (args : List String) : Outcome :=
  match ofArgs? args with
  | some command => command.run Toml.parse files
  | none => usage

end Command

/-! ### Files in memory -/

namespace FileReader

/-- What a place in a file system is. -/
inductive Place
  /-- A file with its text. -/
  | file (text : String)
  /-- A directory. -/
  | directory
  /-- Nothing. -/
  | missing
  deriving DecidableEq, Repr

/-- The parts of a path that lead somewhere. -/
def pathParts (path : String) : List String :=
  (path.splitOn "/").filter fun part => part ≠ "" ∧ part ≠ "."

/-- **What stands at a place** reached from the working directory. Leading parts `..` lead outside,
where all that is known are directories. -/
def place (files : List (String × String)) (here : List String) : Place :=
  match files.find? fun file => pathParts file.1 == here with
  | some file => .file file.2
  | none =>
    if here.all (· == "..") || files.any fun file => here.isPrefixOf (pathParts file.1) then .directory
    else .missing

/-- The place one part of a path further on. -/
def step (here : List String) (part : String) : List String :=
  if part = "" ∨ part = "." then here
  else if part ≠ ".." ∨ here.all (· == "..") then here ++ [part]
  else here.dropLast

/-- **The text at the end of a path**, part by part: only a directory leads on. -/
def walk (files : List (String × String)) (here : List String) : List String → Except String String
  | [] =>
    match place files here with
    | .file text => .ok text
    | .directory => .error "Is a directory (os error 21)"
    | .missing => .error "No such file or directory (os error 2)"
  | part :: parts =>
    match place files here with
    | .file _ => .error "Not a directory (os error 20)"
    | .directory => walk files (step here part) parts
    | .missing => .error "No such file or directory (os error 2)"

/-- **A reader of files kept in memory**, each with its path from the working directory. Outside there
is nothing to read but the empty device. -/
def ofList (files : List (String × String)) : FileReader := fun path =>
  if path = "/dev/null" then .ok ""
  else if path = "" then .error "No such file or directory (os error 2)"
  else
    match path.splitOn "/" with
    | "" :: parts =>
      if parts.all (· == "") then .error "Is a directory (os error 21)"
      else .error "No such file or directory (os error 2)"
    | parts => walk files [] parts

end FileReader

end CppIndex
