import ModuleSystem.Ordered
import ModuleSystem.Path.Basic
import ModuleSystem.Text.LowerCase

/-!
# Evaluators

How the source of a module becomes its exports: it is run as a script, or read as a document. The
extension of a module's name decides, in any case of its letters; a module whose extension is not
registered is evaluated by the default.
-/

namespace ModuleSystem

/-- A way to evaluate a source. The format of a document may be left to the name of the module. -/
inductive Evaluator where
  | script
  | data (format : Option String)
  deriving DecidableEq, Repr

/-- Evaluators by extension, and the default. An extension may be registered for the default. -/
structure EvaluatorTable where
  byExtension : Ordered (Option Evaluator)
  fallback : Evaluator

namespace EvaluatorTable

/-- The table without extensions. -/
def empty : EvaluatorTable := ⟨.empty, .script⟩

/-- An extension as it is registered: with a leading dot and in small letters. -/
def extensionKey (extension : String) : String :=
  Text.lower (if extension.toList.head? = some '.' then extension else "." ++ extension)

/-- Registers an evaluator, or the default, for an extension. -/
def register (table : EvaluatorTable) (extension : String) (evaluator : Option Evaluator) :
    EvaluatorTable :=
  { table with byExtension := table.byExtension.set (extensionKey extension) evaluator }

/-- Documents by their extensions, and scripts for everything else. -/
def standard : EvaluatorTable :=
  [".json", ".yaml", ".yml", ".toml", ".xml"].foldl
    (fun table extension => table.register extension (some (.data none)))
    (empty.register ".py" none)

/-- The name by which a module is evaluated: its file name, or else its id. -/
def nameOf (id : String) (filename : Option String) : String :=
  (filename.filter (· ≠ "")).getD id

/-- The evaluator registered for the extension of a name; none stands for the default. -/
def registered? (table : EvaluatorTable) (name : String) : Option Evaluator :=
  (table.byExtension.get? (Text.lower (Path.extension name))).join

/-- The evaluator of a name. -/
def find (table : EvaluatorTable) (name : String) : Evaluator :=
  (table.registered? name).getD table.fallback

/-- The registered extensions in alphabetical order. -/
def extensions (table : EvaluatorTable) : List String :=
  table.byExtension.keys.mergeSort fun a b => decide (a ≤ b)

end EvaluatorTable

end ModuleSystem
