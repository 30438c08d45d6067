import RuleLint.Regex.Basic
import RuleLint.Syntax.Tree
import Std.Data.HashMap

/-!
# Grammars

A grammar is a list of rules by name. The alternatives of a choice are in order of preference. A rule
whose name starts with `_` gives a node that only groups; the nodes of other rules are of the kind
that the rule names. A class of symbols stands for each of its members.

A rule of operators has alternatives to start with and alternatives that go on from what has been
read, each binding as tightly as its level tells.
-/

namespace RuleLint

/-- What may come before a semicolon that is not written. -/
inductive BeforeSemicolon where
  /-- An expression, which an operator could continue. -/
  | expression
  /-- A word that no operator could continue. -/
  | word
  /-- A type or a word, where brackets would start something new. -/
  | type
  /-- A signature, which a body could follow. -/
  | signature
  deriving DecidableEq, Repr

/-- What depends on the layout of the text, not on its characters alone. -/
inductive LayoutToken where
  /-- Blanks may be passed, line ends among them. -/
  | gap
  /-- No line end comes before what follows. -/
  | sameLine
  /-- A statement ends here although no semicolon is written. -/
  | impliedSemicolon (after : BeforeSemicolon)
  /-- A line at the indentation of the block begins. -/
  | lineStart
  | lineEnd
  | indent
  | dedent
  | textEnd
  deriving DecidableEq, Repr

inductive Element where
  /-- A word or sign. An exact one is not part of a longer sign. -/
  | literal (text : String) (exact : Bool)
  | pattern (regex : Regex)
  /-- A rule, its operators binding at least as tightly as `level`. -/
  | rule (name : String) (level : Nat)
  /-- What an alternative of operators goes on from, standing for a class if one is named. -/
  | operand (cls : Option String)
  | seq (items : List Element)
  | choice (options : List Element)
  | many (item : Element)
  | optional (item : Element)
  | field (name : String) (item : Element)
  | renamed (symbol : Symbol) (item : Element)
  /-- Nothing is passed before the item. -/
  | immediate (item : Element)
  /-- Whether the item could or could not be read here. -/
  | ahead (expected : Bool) (item : Element)
  | layout (token : LayoutToken)
  /-- Line ends are blanks in the item, or are not. -/
  | lines (free : Bool) (item : Element)
  | indented (item : Element)

/-- How an alternative of operators goes on: at a level, from some kinds only if any are named. -/
structure Continuation where
  level : Nat
  from_ : List String
  item : Element

structure GrammarRule where
  name : String
  base : Element
  continuations : List Continuation
  /-- Whether it is a single stretch of text without parts. -/
  isToken : Bool

namespace GrammarRule

def hides (name : String) : Bool := name.toList.head? == some '_'

end GrammarRule

structure Grammar where
  root : String
  /-- The rule of what a whole text is a sequence of. -/
  item : String
  rules : List GrammarRule
  /-- The rule of a name, with its place in the list. -/
  byName : Std.HashMap String (Nat × GrammarRule)
  /-- The classes of symbols and their members, which may be classes. -/
  classes : List (String × List String)
  /-- The classes that only serve the rules and cannot be asked for. -/
  unions : List String
  /-- The characters that may come between tokens. -/
  blanks : Unicode.Ranges
  /-- The rules of what may come between any two tokens. -/
  extras : List String
  word : String
  reserved : List String
  /-- The signs that a shorter sign must not be part of. -/
  signs : List String
  strictLines : Bool

namespace Element

mutual

def raise (level : Nat) : Element → Element
  | rule name l => rule name (max l level)
  | choice options => choice (raiseAll level options)
  | e => e

def raiseAll (level : Nat) : List Element → List Element
  | [] => []
  | e :: r => e.raise level :: raiseAll level r

end

end Element

namespace GrammarRule

/-- What a rule starts with at a level. A rule that only names another asks it for the level. -/
def baseAt (r : GrammarRule) (level : Nat) : Element :=
  if r.continuations.isEmpty then r.base.raise level else r.base

end GrammarRule

namespace Grammar

def blank (g : Grammar) (c : Char) : Bool := Regex.holds g.blanks c.toNat

def rule? (g : Grammar) (name : String) : Option (Nat × GrammarRule) := g.byName[name]?

def class? (g : Grammar) (name : String) : Option (List String) :=
  (g.classes.find? fun c => c.1 = name).map (·.2)

/-- The classes that a symbol is asked for by when the class `name` is, the narrowest first. Classes
are nested at most `depth` deep. -/
def classesOf (g : Grammar) : Nat → String → String → Option (List String)
  | 0, _, _ => none
  | depth + 1, name, kind =>
    match g.class? name with
    | none => none
    | some members =>
      if members.contains kind then some [name]
      else members.findSome? fun m => (g.classesOf depth m kind).map (· ++ [name])

def classDepth : Nat := 4

def members (g : Grammar) : Nat → String → List String
  | 0, _ => []
  | depth + 1, name =>
    match g.class? name with
    | none => [name]
    | some members => members.flatMap (g.members depth)

end Grammar

/-! ## What a grammar mentions -/

namespace Element

mutual

/-- The words and signs in an element, whatever they are called. -/
def literals : Element → List String
  | literal text _ => [text]
  | seq items => literalsOf items
  | choice options => literalsOf options
  | many e | optional e | immediate e | indented e => e.literals
  | field _ e | renamed _ e | lines _ e | ahead _ e => e.literals
  | _ => []

def literalsOf : List Element → List String
  | [] => []
  | e :: r => e.literals ++ literalsOf r

end

mutual

def symbols : Element → List Symbol
  | literal text _ => [⟨text, false⟩]
  | seq items => symbolsOf items
  | choice options => symbolsOf options
  | many e | optional e | immediate e | indented e => e.symbols
  | field _ e | lines _ e => e.symbols
  | renamed s (literal _ _) | renamed s (pattern _) => [s]
  | renamed s e => s :: e.symbols
  | _ => []

def symbolsOf : List Element → List Symbol
  | [] => []
  | e :: r => e.symbols ++ symbolsOf r

end

mutual

/-- What an element gives a kind of its own. -/
def renamings (symbol : Symbol) : Element → List Element
  | seq items => renamingsOf symbol items
  | choice options => renamingsOf symbol options
  | many e | optional e | immediate e | indented e => e.renamings symbol
  | field _ e | lines _ e => e.renamings symbol
  | renamed s e => (if s = symbol then [e] else []) ++ e.renamings symbol
  | _ => []

def renamingsOf (symbol : Symbol) : List Element → List Element
  | [] => []
  | e :: r => e.renamings symbol ++ renamingsOf symbol r

end

mutual

def kinds : Element → List String
  | choice options => kindsOf options
  | rule name _ => [name]
  | renamed s _ => [s.name]
  | _ => []

def kindsOf : List Element → List String
  | [] => []
  | e :: r => e.kinds ++ kindsOf r

end

mutual

def fields : Element → List String
  | seq items => fieldsOf items
  | choice options => fieldsOf options
  | many e | optional e | immediate e | indented e => e.fields
  | lines _ e | renamed _ e => e.fields
  | field n e => n :: e.fields
  | _ => []

def fieldsOf : List Element → List String
  | [] => []
  | e :: r => e.fields ++ fieldsOf r

end

end Element

namespace GrammarRule

def elements (r : GrammarRule) : List Element := r.base :: r.continuations.map (·.item)

def isVisible (g : Grammar) (r : GrammarRule) : Bool :=
  !hides r.name && r.continuations.isEmpty && (g.class? r.name).isNone

end GrammarRule

namespace Grammar

def hasSymbol (g : Grammar) (s : Symbol) : Bool :=
  s.name == g.root && s.named ||
    g.rules.any fun r =>
      (s.named && r.name == s.name && r.isVisible g) ||
        (!r.isToken && r.elements.any fun e => e.symbols.contains s)

def hasClass (g : Grammar) (name : String) : Bool :=
  (g.class? name).isSome && !g.unions.contains name

def hasField (g : Grammar) (name : String) : Bool :=
  g.rules.any fun r => r.elements.any fun e => e.fields.contains name

end Grammar

end RuleLint
