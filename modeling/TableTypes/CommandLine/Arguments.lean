import TableTypes.CommandLine.Lexeme
import TableTypes.Files.Path
import TableTypes.Value.Basic

/-!
# Arguments

What a command line asks for. The flags are gone through in order, and one that takes a text but
carries none takes the argument after it. The first fault ends the reading; arguments that
nothing takes are reported at the end.
-/

namespace TableTypes.CommandLine

/-- What a command line asks for. -/
structure Arguments where
  connection : Option String := none
  schema : String := "public"
  config : Option Files.Path := none
  output : Option Files.Path := none
  /-- The kinds of declarations that are left out. -/
  leftOut : List Part := []
  /-- The styles that are chosen; none where an empty list stands for one. Of two for the same
  names the first counts. -/
  styles : List (Named × Option Casing.Style) := []
  verbose : Bool := false
  jsonLogs : Bool := false
  deriving DecidableEq, Repr

/-- Why a command line leads to no run. -/
inductive Stop where
  | help
  | version
  | misuse (misuse : Misuse)
  deriving DecidableEq, Repr

namespace Arguments

/-- The arguments with an empty list for a flag. Where something has to be named, it names
nothing. -/
def acceptEmpty (arguments : Arguments) : Flag → Arguments
  | .connection => { arguments with connection := none }
  | .schema => { arguments with schema := "[]" }
  | .config => { arguments with config := none }
  | .output => { arguments with output := none }
  | .style named => { arguments with styles := (named, none) :: arguments.styles }
  | _ => arguments

/-- The arguments with a text for a flag. Two dashes are no text but stand for an empty list. -/
def acceptText (arguments : Arguments) (flag : Flag) (text : String) : Except Stop Arguments :=
  if text = "--" then .ok (arguments.acceptEmpty flag)
  else match flag with
    | .connection => .ok { arguments with connection := some text }
    | .schema => .ok { arguments with schema := text }
    | .config => .ok { arguments with config := some (Files.Path.ofText text) }
    | .output => .ok { arguments with output := some (Files.Path.ofText text) }
    | .style named =>
      match Casing.Style.ofName? text with
      | some style => .ok { arguments with styles := (named, some style) :: arguments.styles }
      | none => .error (.misuse (.noStyle flag text))
    | _ => .ok arguments

/-- The arguments with a flag. -/
def accept (arguments : Arguments) (use : Use) : Except Stop Arguments :=
  match use.flag, use.text with
  | .help, _ => .error .help
  | .version, _ => .error .version
  | .leaveOut part, _ => .ok { arguments with leftOut := part :: arguments.leftOut }
  | .verbose, _ => .ok { arguments with verbose := true }
  | .jsonLogs, _ => .ok { arguments with jsonLogs := true }
  | flag, some text => arguments.acceptText flag text
  | flag, none => .error (.misuse (.noText flag))

/-- The settings that the flags lay over other options; a null leaves an option as it is. -/
def overrides (arguments : Arguments) : List (String × Value) :=
  Part.all.map (fun part =>
    (part.option, if arguments.leftOut.contains part then .bool false else .null)) ++
  Named.all.map (fun named =>
    (named.option, match arguments.styles.lookup named with
      | some (some style) => .text style.name
      | some none => .list []
      | none => .null))

end Arguments

/-- The last flag waits for a text. -/
def waits (uses : List Use) : Option Flag :=
  uses.getLast?.bind fun use =>
    if use.flag.takesText && use.text.isNone then some use.flag else none

/-- The last flag with a text. -/
def provide (uses : List Use) (text : String) : List Use :=
  match uses.getLast? with
  | some use => uses.dropLast ++ [{ use with text := some text }]
  | none => []

/-- What was read of a command line. -/
structure Progress where
  arguments : Arguments := {}
  /-- The arguments that nothing takes, in order. -/
  strays : List String := []

/-- Go through told-apart arguments. -/
def readLexemes (p : Progress) : List (Lexeme × String) → Except Stop Progress
  | [] => .ok p
  | (.flag flag short carried, _) :: rest => do
    let uses ← (Use.ofFlag flag short carried).mapError .misuse
    match waits uses, rest with
    | none, rest => do
      let arguments ← uses.foldlM Arguments.accept p.arguments
      readLexemes { p with arguments } rest
    | some _, (.plain, text) :: rest => do
      let arguments ← (provide uses text).foldlM Arguments.accept p.arguments
      readLexemes { p with arguments } rest
    | some flag, _ => .error (.misuse (.noText flag))
  | (_, text) :: rest => readLexemes { p with strays := p.strays ++ [text] } rest

/-- What a command line asks for. -/
def Arguments.read (texts : List String) : Except Stop Arguments := do
  let lexemes ← (Lexeme.ofTexts texts).mapError .misuse
  let p ← readLexemes {} lexemes
  if p.strays.isEmpty then return p.arguments
  else throw (.misuse (.unrecognized p.strays))

end TableTypes.CommandLine
