import RuleLint.Syntax.Parser

/-!
# Trees of texts

The tree of a whole text. Where the text fits no rule, one word or sign after another is passed over
as an error until an item can be read again, so there is a tree for every text. What may come between
any two tokens is put into the smallest node that has something on both sides of it.
-/

namespace RuleLint.Syntax

/-- How deep the elements of a grammar may be nested when a text is read. -/
def depthFor (size : Nat) : Nat := 20000 + 200 * size

def freeSetting : Setting := ⟨true, false, 0, none⟩

def startSetting (g : Grammar) : Setting := ⟨!g.strictLines, false, 0, none⟩

/-! ## Errors -/

def behindWord (s : Source) (i : Nat) : Nat :=
  let word := (s.from_ i).takeWhile isWordChar
  i + max 1 word.length

/-- Adds a stretch of text that fits no rule; `done` holds the trees before, latest first. -/
def addError (start stop : Nat) : List Tree → List Tree
  | .node l ps :: r =>
    if l.symbol == some .error then .node { l with stop } ps :: r
    else Tree.leaf (some .error) start stop :: .node l ps :: r
  | [] => [Tree.leaf (some .error) start stop]

/-- The items of the rest of a text; `done` holds the trees before, latest first. -/
def readItems (g : Grammar) (s : Source) : Nat → List Tree → Nat → StateM Memo (List Tree)
  | 0, done, _ => return done.reverse
  | n + 1, done, i => do
    let depth := depthFor s.size
    let here ← pass g s depth freeSetting i
    if here = s.size then return done.reverse
    match ← readRule g s depth (startSetting g) g.item 0 i with
    | some (ts, j) =>
      if i < j then readItems g s n (ts.reverse ++ done) j
      else readItems g s n (addError here (behindWord s here) done) (behindWord s here)
    | none => readItems g s n (addError here (behindWord s here) done) (behindWord s here)

/-! ## What comes between tokens -/

def extrasBetween (g : Grammar) (s : Source) : Nat → Nat → Nat → StateM Memo (List Tree)
  | 0, _, _ => return []
  | n + 1, i, stop => do
    if stop ≤ i then return []
    else if (s.from_ i).head?.any g.blank then extrasBetween g s n (i + 1) stop
    else
      match ← readExtra g s (depthFor s.size) freeSetting i g.extras with
      | some (ts, j) =>
        if i < j then return ts ++ (← extrasBetween g s n j stop) else return []
      | none => extrasBetween g s n (i + 1) stop

def extrasFrom (g : Grammar) (s : Source) (i : Nat) : List (Nat × Nat) → StateM Memo (List Tree)
  | [] => extrasBetween g s (s.size + 1) i s.size
  | (start, stop) :: r => do
    return (← extrasBetween g s (s.size + 1) i start) ++ (← extrasFrom g s (max i stop) r)

mutual

/-- Puts trees into the smallest parts of a tree that have something on both sides of them. -/
def weave (extras : List Tree) : Tree → Tree
  | .node l ps => .node l (weaveParts extras ps)

def weaveParts (extras : List Tree) : List Tree → List Tree
  | [] => extras
  | p :: r =>
    let before := extras.takeWhile fun e => e.stop ≤ p.start
    let rest := extras.drop before.length
    let inside := rest.takeWhile fun e => e.stop ≤ p.stop
    let after := rest.drop inside.length
    before ++ (if inside.isEmpty then p else weave inside p) :: weaveParts after r

end

/-! ## Texts -/

def rootNode (g : Grammar) (size : Nat) (parts : List Tree) : Tree :=
  let start := (parts.head?.map Tree.start).getD size
  .node { symbol := some ⟨g.root, true⟩, start, stop := size } parts

def readText (g : Grammar) (s : Source) : StateM Memo (List Tree) := do
  let depth := depthFor s.size
  let (parts, i) ← do
    match ← readRule g s depth (startSetting g) g.root 0 0 with
    | some ([t], i) => pure (t.parts, i)
    | _ => pure ([], 0)
  let parts ← readItems g s (s.size + 1) parts.reverse i
  let extras ← extrasFrom g s 0 (Tree.leafPlacesOf parts)
  return weaveParts extras parts

def parse (g : Grammar) (text : List Char) : Tree :=
  let s := Source.ofText text
  rootNode g s.size ((readText g s).run ∅).1

end RuleLint.Syntax
