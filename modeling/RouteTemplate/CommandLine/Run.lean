import RouteTemplate.CommandLine.Colour
import RouteTemplate.CommandLine.Request
import RouteTemplate.Route

/-!
Doing what a command line asks for. All is known from the words and the content of the settings file.
What is said of a command line that is not well formed is left out, and so is help.
-/

namespace RouteTemplate.CommandLine

/-! ### Options of a command -/

/-- The name and the fragment of an entry written as `NAME=FRAGMENT`. A name consists of letters,
numbers and underscores. -/
def parseEntry? (entry : List Char) : Option (List Char × List Char) :=
  match Word.splitAtEquals entry with
  | (name, some fragment) =>
    if !name.isEmpty && name.all (fun c => Unicode.isAlphanumeric c || c = '_') then
      some (name, fragment)
    else none
  | (_, none) => none

def Options.overrides (o : Options) : Overrides where
  defaultFragment := o.default
  anchor := if o.switches.contains .noAnchor then some false else none
  terminate := if o.switches.contains .noTerminate then some false else none
  appendSlash := if o.switches.contains .noSlash then some false else none

/-! ### Failures -/

inductive Failure where
  | config (file : List Char)
  | entry (text : List Char)
  | template (text : List Char)
  | noMatch (path pattern : List Char)
  deriving DecidableEq, Repr, Inhabited

def Failure.message : Failure → List Char
  | .config file => "Failed to load config: ".toList ++ file
  | .entry text =>
    "Invalid pattern entry '".toList ++ text ++ "', expected NAME=FRAGMENT".toList
  | .template text => "Template '".toList ++ text ++ "' does not compile".toList
  | .noMatch path pattern => '\'' :: path ++ "' does not match ".toList ++ pattern

/-- What is written, and what went wrong after that. -/
structure Report where
  written : List Char
  failure : Option Failure
  deriving DecidableEq, Repr, Inhabited

namespace Report

/-- Nothing went wrong. -/
def success (written : List Char) : Report := ⟨written, none⟩

/-- Nothing was written. -/
def ofExcept : Except Failure Report → Report
  | .ok r => r
  | .error e => ⟨[], some e⟩

end Report

def line (s : List Char) : List Char := s ++ ['\n']

/-! ### Commands -/

/-- An expander with one entry more, as it is written on the command line. -/
def addEntry (e : Expander) (entry : List Char) : Except Failure Expander :=
  match parseEntry? entry with
  | some (name, fragment) => .ok (e.insert name fragment)
  | none => .error (.entry entry)

/-- The expander of a settings file, with the entries of the command line. -/
def loadExpander (file : List Char) (content : FileContent) (o : Options) :
    Except Failure Expander := do
  let loaded ← (SettingsFile.load file content).mapError fun _ => .config file
  o.patterns.foldlM addEntry loaded.expander

/-- Writes the pattern of each template. -/
def expandAll (e : Expander) (templates : List (List Char)) (o : Overrides) : List Char :=
  templates.flatMap fun template => line (e.expand template o)

/-- A name with blanks before it up to a width of five. -/
def alignRight (name : List Char) : List Char := .replicate (5 - name.length) ' ' ++ name

/-- Writes each entry of a table. -/
def listTable (coloured : Bool) (t : FragmentTable) : List Char :=
  t.sorted.flatMap fun (name, fragment) =>
    line (paint coloured .cyan (alignRight name) ++ ": ".toList ++ fragment)

/-- Writes a group and what it captured. -/
def captureLine (coloured : Bool) (captures : List (List Char × List Char)) (name : List Char) :
    List Char :=
  let value :=
    match captures.lookup name with
    | some value => paint coloured .yellow value
    | none => paint coloured .dimmed "(unset)".toList
  line ("  ".toList ++ name ++ " = ".toList ++ value)

/-- Writes a route's pattern, and what it captures in a path. -/
def matchPath (coloured : Bool) (r : Route) (path : List Char) : Report :=
  let head := line ("Pattern: ".toList ++ paint coloured .cyan r.pattern)
  match r.captures path with
  | none => ⟨head, some (.noMatch path r.pattern)⟩
  | some captures =>
    .success (head ++ line (paint coloured .boldGreen "✓ Matched".toList) ++
      r.names.flatMap (captureLine coloured captures))

/-- Runs a command with a settings file of a given name and content. -/
def Command.run [Regex.SizeLimit] (coloured : Bool) (file : List Char) (content : FileContent) :
    Command → Report
  | .expand templates o => .ofExcept do
    return .success (expandAll (← loadExpander file content o) templates o.overrides)
  | .patterns => .ofExcept do
    return .success (listTable coloured (← loadExpander file content .standard).table)
  | .tryMatch template path o => .ofExcept do
    let e ← loadExpander file content o
    let r ← (e.route template o.overrides).mapError fun _ => .template template
    return matchPath coloured r path

/-! ### The program -/

/-- How the program ends: its exit code, and what it writes to its output and of an error. -/
structure Outcome where
  code : Nat
  written : List Char
  error : Option (List Char)
  deriving DecidableEq, Repr, Inhabited

def Report.outcome (r : Report) : Outcome :=
  match r.failure with
  | none => ⟨0, r.written, none⟩
  | some e => ⟨1, r.written, some ("Error: ".toList ++ e.message)⟩

def versionText : List Char := "easyroute 0.2.0".toList

/-- Runs the program on a command line, in a directory of files. -/
def run [Regex.SizeLimit] (coloured : Bool) (contentOf : (file : List Char) → FileContent)
    (words : List (List Char)) : Outcome :=
  match Request.ofWords words with
  | none => ⟨2, [], none⟩
  | some .version => ⟨0, line versionText, none⟩
  | some (.run file command) => (command.run coloured file (contentOf file)).outcome

end RouteTemplate.CommandLine
