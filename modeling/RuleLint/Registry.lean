import RuleLint.Error
import RuleLint.Language
import RuleLint.Syntax.Grammars
import RuleLint.Syntax.Parse

/-!
# Registries of grammars

A registry holds for each of its languages where the grammar comes from. A grammar is fetched when it
is asked for the first time and kept from then on; registering a language anew forgets it.
-/

namespace RuleLint

/-- Where the grammar of a language comes from, the grammar once it has been fetched, and how often it
has been. -/
structure Slot where
  fetch : Unit → Grammar
  kept : Option Grammar
  fetches : Nat

namespace Slot

def fresh (fetch : Unit → Grammar) : Slot := ⟨fetch, none, 0⟩

def take (s : Slot) : Grammar × Slot :=
  match s.kept with
  | some g => (g, s)
  | none =>
    let g := s.fetch ()
    (g, { s with kept := some g, fetches := s.fetches + 1 })

end Slot

structure Registry where
  slot? : Language → Option Slot

namespace Registry

def empty : Registry := ⟨fun _ => none⟩

def put (r : Registry) (language : Language) (slot : Slot) : Registry :=
  ⟨fun l => if l = language then some slot else r.slot? l⟩

def register (r : Registry) (language : Language) (fetch : Unit → Grammar) : Registry :=
  r.put language (.fresh fetch)

def ofLanguages (languages : List Language) : Registry :=
  languages.foldl (fun r l => r.register l fun _ => l.grammar) empty

def full : Registry := ofLanguages Language.all

/-! ## Questions -/

def supported (r : Registry) : List Language := Language.all.filter fun l => (r.slot? l).isSome

def isLoaded (r : Registry) (language : Language) : Bool :=
  (r.slot? language).any fun s => s.kept.isSome

def grammar? (r : Registry) (language : Language) : Option Grammar :=
  (r.slot? language).map fun s => s.take.1

def unsupported (r : Registry) (requested : String) : LintError :=
  .unsupportedLanguage requested (r.supported.map Language.name)

def grammarOf (r : Registry) (language : Language) : Except LintError Grammar :=
  match r.grammar? language with
  | some g => .ok g
  | none => .error (r.unsupported language.name)

/-! ## Requests -/

/-- Asks for the grammar of a language, which is kept from then on. -/
def grammar (r : Registry) (language : Language) : Except LintError Grammar × Registry :=
  match r.slot? language with
  | some s => (.ok s.take.1, r.put language s.take.2)
  | none => (.error (r.unsupported language.name), r)

def grammarNamed (r : Registry) (name : String) : Except LintError Grammar × Registry :=
  match Language.ofName? name with
  | some l => r.grammar l
  | none => (.error (r.unsupported name), r)

def parse (r : Registry) (language : Language) (text : String) : Except LintError Tree × Registry :=
  let (g, r) := r.grammar language
  (g.map fun g => Syntax.parse g text.toList, r)

end Registry

end RuleLint
