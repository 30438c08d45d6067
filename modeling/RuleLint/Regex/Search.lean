import RuleLint.Regex.Program

/-!
# Searching

A program is run from one place on all of its paths at once. The paths are kept in order of
preference, and no instruction is entered twice at one place, so a run takes time proportional to
the text. The match at a place is that of the most preferred path that accepts.

Searching a text takes the first place that has a match, goes on where that match ends, and passes
over a match of the empty text that stands where the match before ended.
-/

namespace RuleLint.Regex

open Unicode (Ranges)

/-! ## Assertions -/

def holds : Ranges → Nat → Bool
  | [], _ => false
  | (a, b) :: r, c => a ≤ c && (c ≤ b || holds r c)

def isWord (unicode : Bool) (c : Option Char) : Bool :=
  c.any fun c => holds (if unicode then words else asciiWords) c.toNat

def Boundary.test (kind : Boundary) (before after : Bool) : Bool :=
  match kind with
  | change => before != after
  | noChange => before == after
  | start => !before && after
  | stop => before && !after
  | startHalf => !before
  | stopHalf => !after

/-- Whether an assertion holds between two characters; there is none at an end of the text. -/
def Look.test (before after : Option Char) : Look → Bool
  | textStart => before.isNone
  | textEnd => after.isNone
  | lineStart => before.all (· == '\n')
  | lineEnd => after.all (· == '\n')
  | lineStartCrlf =>
    match before with
    | none => true
    | some '\n' => true
    | some '\r' => after != some '\n'
    | some _ => false
  | lineEndCrlf =>
    match after with
    | none => true
    | some '\r' => true
    | some '\n' => before != some '\r'
    | some _ => false
  | boundary kind unicode => kind.test (isWord unicode before) (isWord unicode after)

/-! ## Paths -/

namespace Program

/-- The number of steps that following all choices from one place can take. -/
def reach (p : Program) : Nat :=
  p.instrs.foldl (fun n i => match i with
    | .choose options => n + options.length + 1
    | _ => n + 2) 1

/-- The instructions that have been entered at a place, and those of them that wait there for a
character or accept, latest first. -/
structure Front where
  entered : Array Bool
  waiting : List Nat

def follow (p : Program) (before after : Option Char) : Nat → List Nat → Front → Front
  | 0, _, front => front
  | _, [], front => front
  | n + 1, i :: todo, front =>
    if front.entered.getD i true then p.follow before after n todo front
    else
      let entered := front.entered.setIfInBounds i true
      match p.instrs[i]? with
      | some (.choose options) => p.follow before after n (options ++ todo) ⟨entered, front.waiting⟩
      | some (.look l next) =>
        p.follow before after n (if l.test before after then next :: todo else todo)
          ⟨entered, front.waiting⟩
      | some _ => p.follow before after n todo ⟨entered, i :: front.waiting⟩
      | none => p.follow before after n todo ⟨entered, front.waiting⟩

/-- The instructions that wait between two characters, most preferred first, when `starts` are
entered there. -/
def waitingAt (p : Program) (before after : Option Char) (starts : List Nat) : List Nat :=
  let front := p.follow before after (p.reach + starts.length) starts
    ⟨Array.replicate p.instrs.size false, []⟩
  front.waiting.reverse

/-- The paths that are preferred to the first one that accepts, and whether one accepts. -/
def untilAccept (p : Program) : List Nat → List Nat × Bool
  | [] => ([], false)
  | i :: r =>
    match p.instrs[i]? with
    | some .accept => ([], true)
    | _ =>
      let (l, accepts) := p.untilAccept r
      (i :: l, accepts)

def advance (p : Program) (c : Char) (waiting : List Nat) : List Nat :=
  waiting.filterMap fun (i : Nat) =>
    match p.instrs[i]? with
    | some (Instr.char set next) => if holds set c.toNat then some next else none
    | _ => none

/-- The length of the most preferred match among paths entered before `text`, `length` characters
having been passed and `best` being the match of a less preferred path. -/
def run (p : Program) (length : Nat) (best : Option Nat) (before : Option Char) (starts : List Nat) :
    List Char → Option Nat
  | [] =>
    if (p.untilAccept (p.waitingAt before none starts)).2 then some length else best
  | c :: text =>
    let (waiting, accepts) := p.untilAccept (p.waitingAt before (some c) starts)
    let best := if accepts then some length else best
    match p.advance c waiting with
    | [] => best
    | starts => p.run (length + 1) best (some c) starts text

def matchAt? (p : Program) (before : Option Char) (text : List Char) : Option Nat :=
  p.run 0 none before [p.start] text

/-! ## Matches in a text -/

/-- A stretch of a text: how many characters come before it, and its characters. -/
structure Found where
  start : Nat
  chars : List Char
  deriving DecidableEq, Repr

/-- The matches in a text, `passed` characters having been passed. `atMatchEnd` tells that a match
ended here. -/
def matchesFrom (p : Program) (passed : Nat) (before : Option Char) (atMatchEnd : Bool) :
    List Char → List Found
  | [] =>
    if (p.matchAt? before []).isSome && !atMatchEnd then [⟨passed, []⟩] else []
  | c :: text =>
    match p.matchAt? before (c :: text) with
    | none => p.matchesFrom (passed + 1) (some c) false text
    | some 0 =>
      let rest := p.matchesFrom (passed + 1) (some c) false text
      if atMatchEnd then rest else ⟨passed, []⟩ :: rest
    | some (n + 1) =>
      let found := c :: text.take n
      ⟨passed, found⟩ :: p.matchesFrom (passed + found.length) found.getLast? true (text.drop n)
termination_by text => text.length

def matches_ (p : Program) (text : List Char) : List Found := p.matchesFrom 0 none false text

def isMatch (p : Program) (before : Option Char) : List Char → Bool
  | [] => (p.matchAt? before []).isSome
  | c :: text => (p.matchAt? before (c :: text)).isSome || p.isMatch (some c) text

end Program

end RuleLint.Regex
