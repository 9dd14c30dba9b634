import RouteTemplate.SettingsFile

/-!
Command lines and what they ask for. A word that begins with a dash is an option, unless it is a dash
alone or stands after two dashes. The value of an option is attached to it or is the next word, which
must not be an option.

The words that ask for help (`help`, `-h` and `--help`) are not among those that are read. The help text
is made by the library that reads command lines, which writes it and ends the program with the code 0;
here a command line with such a word is one that is not well formed.
-/

namespace RouteTemplate.CommandLine

/-! ### Words -/

/-- The options that leave something out. -/
inductive Switch where
  | noAnchor | noTerminate | noSlash
  deriving DecidableEq, Repr, Inhabited

/-- The options with a value. -/
inductive Setting where
  | config | default | pattern
  deriving DecidableEq, Repr, Inhabited

inductive Word where
  | operand (s : List Char)
  | endOfOptions
  | version
  | switch (s : Switch)
  | setting (s : Setting) (attached : Option (List Char))
  | unknown
  deriving DecidableEq, Repr, Inhabited

namespace Word

/-- A word that begins with two dashes, from its name and the value attached to it. -/
def ofLong (name : String) (attached : Option (List Char)) : Word :=
  match name, attached with
  | "config", value => .setting .config value
  | "default", value => .setting .default value
  | "pattern", value => .setting .pattern value
  | "version", none => .version
  | "no-anchor", none => .switch .noAnchor
  | "no-terminate", none => .switch .noTerminate
  | "no-slash", none => .switch .noSlash
  | _, _ => .unknown

/-- The value attached to an option of one letter, with or without an equals sign. -/
def attachedToShort : List Char → Option (List Char)
  | [] => none
  | '=' :: value => some value
  | value => some value

def ofShort (letter : Char) (r : List Char) : Word :=
  match letter with
  | 'c' => .setting .config (attachedToShort r)
  | 'd' => .setting .default (attachedToShort r)
  | 'p' => .setting .pattern (attachedToShort r)
  | 'V' => .version
  | _ => .unknown

/-- What stands before the first equals sign, and what stands after it if there is one. -/
def splitAtEquals (s : List Char) : List Char × Option (List Char) :=
  match s.dropWhile (· ≠ '=') with
  | [] => (s, none)
  | _ :: r => (s.takeWhile (· ≠ '='), some r)

def ofText : List Char → Word
  | ['-', '-'] => .endOfOptions
  | '-' :: '-' :: r =>
    let (name, value) := splitAtEquals r
    ofLong (String.ofList name) value
  | '-' :: letter :: r => ofShort letter r
  | s => .operand s

end Word

/-! ### Options -/

/-- What has been given so far. -/
structure Given where
  config : Option (List Char)
  switches : List Switch
  default : Option (List Char)
  patterns : List (List Char)
  operands : List (List Char)
  deriving DecidableEq, Repr, Inhabited

namespace Given

def nothing : Given := ⟨none, [], none, [], []⟩

/-- A switch is given once at most. -/
def turn (g : Given) (s : Switch) : Option Given :=
  if g.switches.contains s then none else some { g with switches := g.switches ++ [s] }

/-- A setting is given once at most, but patterns any number of times. A file has a name. -/
def set (g : Given) (value : List Char) : Setting → Option Given
  | .config =>
    if g.config.isSome || value.isEmpty then none else some { g with config := some value }
  | .default => if g.default.isSome then none else some { g with default := some value }
  | .pattern => some { g with patterns := g.patterns ++ [value] }

/-- Reads the words after the name of a command. -/
def read (g : Given) : List (List Char) → Option Given
  | [] => some g
  | w :: words =>
    match Word.ofText w with
    | .operand s => read { g with operands := g.operands ++ [s] } words
    | .endOfOptions => some { g with operands := g.operands ++ words }
    | .switch s => do read (← g.turn s) words
    | .setting s (some value) => do read (← g.set value s) words
    | .setting s none =>
      match words with
      | [] => none
      | v :: words =>
        match Word.ofText v with
        | .operand value => do read (← g.set value s) words
        | _ => none
    | .version | .unknown => none

end Given

/-! ### Requests -/

/-- How templates are to be expanded. -/
structure Options where
  switches : List Switch
  default : Option (List Char)
  patterns : List (List Char)
  deriving DecidableEq, Repr, Inhabited

def Options.standard : Options := ⟨[], none, []⟩

inductive Command where
  | expand (templates : List (List Char)) (options : Options)
  | patterns
  | tryMatch (template path : List Char) (options : Options)
  deriving DecidableEq, Repr, Inhabited

inductive Request where
  | version
  | run (config : List Char) (command : Command)
  deriving DecidableEq, Repr, Inhabited

/-- The command of a given name, if what is given makes sense for it. -/
def Command.ofGiven (name : List Char) (g : Given) : Option Command :=
  let options : Options := ⟨g.switches, g.default, g.patterns⟩
  match String.ofList name, g.operands with
  | "expand", template :: templates => some (.expand (template :: templates) options)
  | "patterns", [] => if options = .standard then some .patterns else none
  | "match", [template, path] => some (.tryMatch template path options)
  | _, _ => none

namespace Request

/-- Reads a command line, of which the name of a settings file may have been read. -/
def read (config : Option (List Char)) : List (List Char) → Option Request
  | [] => none
  | w :: words =>
    match Word.ofText w with
    | .version => some .version
    | .operand name => do
      let g ← Given.nothing.read words
      let command ← Command.ofGiven name g
      some (.run ((g.config.or config).getD SettingsFile.defaultName) command)
    | .setting .config (some value) =>
      if config.isSome || value.isEmpty then none else read (some value) words
    | .setting .config none =>
      match words with
      | [] => none
      | v :: words =>
        match Word.ofText v with
        | .operand value =>
          if config.isSome || value.isEmpty then none else read (some value) words
        | _ => none
    | _ => none

/-- What a command line asks for, if it is well formed. -/
def ofWords (words : List (List Char)) : Option Request := read none words

end Request

end RouteTemplate.CommandLine
