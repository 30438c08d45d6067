import RuleLint.FilePath
import RuleLint.Text.Case

/-!
# Languages

The languages whose files can be parsed, their names in rule documents, their file extensions, and
which files a rule for a language may run on.
-/

namespace RuleLint

/-- A language of source files. `jsx` and `tsx` have extensions of their own. -/
inductive Language where
  | javascript
  | jsx
  | typescript
  | tsx
  | python
  | go
  | rust
  | c
  deriving DecidableEq, Repr, Inhabited, Hashable

namespace Language

def all : List Language := [javascript, jsx, typescript, tsx, python, go, rust, c]

def name : Language → String
  | javascript => "javascript"
  | jsx => "jsx"
  | typescript => "typescript"
  | tsx => "tsx"
  | python => "python"
  | go => "go"
  | rust => "rust"
  | c => "c"

def ofName? (s : String) : Option Language := all.find? fun l => l.name = s

/-- The language of files with this extension, its case aside. -/
def ofExtension? (ext : String) : Option Language :=
  match Text.small ext with
  | "js" | "mjs" | "cjs" => some javascript
  | "jsx" => some jsx
  | "ts" | "mts" | "cts" => some typescript
  | "tsx" => some tsx
  | "py" | "pyi" => some python
  | "go" => some go
  | "rs" => some rust
  | "c" | "h" => some c
  | _ => none

def ofPath? (p : FilePath) : Option Language := p.extension?.bind ofExtension?

/-- Whether a rule for a language may run on files of another: on its own files, and a rule for a
base language on the files of its superset. -/
def accepts (declared file : Language) : Bool :=
  declared == file ||
    match declared, file with
    | javascript, jsx | typescript, tsx => true
    | _, _ => false

theorem ofName?_name (l : Language) : ofName? l.name = some l := by
  cases l <;> decide

theorem mem_all (l : Language) : l ∈ all := by
  cases l <;> decide

end Language

end RuleLint
