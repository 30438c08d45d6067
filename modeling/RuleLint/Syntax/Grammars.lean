import RuleLint.Language
import RuleLint.Syntax.Grammars.C
import RuleLint.Syntax.Grammars.Go
import RuleLint.Syntax.Grammars.JavaScript
import RuleLint.Syntax.Grammars.Python
import RuleLint.Syntax.Grammars.Rust
import RuleLint.Syntax.Grammars.TypeScript

/-!
# The grammars of languages
-/

namespace RuleLint

namespace Grammars

def ofText (text : String) : Grammar := (Grammar.ofText? text).getD (.ofStatements [])

def javascript : Grammar := ofText javascriptText
def typescript : Grammar := ofText typescriptText
def tsx : Grammar := ofText tsxText
def python : Grammar := ofText pythonText
def go : Grammar := ofText goText
def rust : Grammar := ofText rustText
def c : Grammar := ofText cText

end Grammars

/-- The grammar that comes with a language. Its elements of documents are part of JavaScript. -/
def Language.grammar : Language → Grammar
  | javascript | jsx => Grammars.javascript
  | typescript => Grammars.typescript
  | tsx => Grammars.tsx
  | python => Grammars.python
  | go => Grammars.go
  | rust => Grammars.rust
  | c => Grammars.c

end RuleLint
