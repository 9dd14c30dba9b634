import RouteTemplate.Regex.Tree
import RouteTemplate.Text.Quoted

/-!
Why a template has no route, or a settings file no settings.
-/

namespace RouteTemplate

/-- Why a file cannot be read as text. -/
inductive ReadFailure where
  | notText
  | directory
  deriving DecidableEq, Repr, Inhabited

inductive Error where
  | invalidRegex (template pattern : List Char) (cause : Regex.CompileError)
  | configRead (file : List Char) (cause : ReadFailure)
  | configParse (file : List Char)
  deriving DecidableEq, Repr, Inhabited

/-- What is said of an error, up to the words on its cause. -/
def Error.message : Error → List Char
  | .invalidRegex template pattern _ =>
    "template ".toList ++ Text.quote template ++ " expanded to invalid regex ".toList ++
      Text.quote pattern ++ ": ".toList
  | .configRead file _ => "failed to read config file ".toList ++ Text.quote file ++ ": ".toList
  | .configParse file => "failed to parse config file ".toList ++ Text.quote file ++ ": ".toList

end RouteTemplate
