import RuleLint.Regex.Expr

/-!
# Patterns as programs

A pattern is compiled into instructions, each with the instructions that may follow it, the
preferred one first. A program is built from its end: every part is given the instruction that
follows it.
-/

namespace RuleLint.Regex

open Unicode (Ranges)

inductive Instr where
  | accept
  | char (set : Ranges) (next : Nat)
  | look (l : Look) (next : Nat)
  | choose (options : List Nat)
  deriving Inhabited

structure Program where
  instrs : Array Instr
  start : Nat

abbrev Assembler (α : Type) := StateM (Array Instr) α

namespace Assembler

def emit (i : Instr) : Assembler Nat := fun code => (code.size, code.push i)

/-- Puts an instruction at a place kept for it. -/
def place (at_ : Nat) (i : Instr) : Assembler Unit := fun code => ((), code.setIfInBounds at_ i)

def choice (greedy : Bool) (body exit : Nat) : Instr :=
  .choose (if greedy then [body, exit] else [exit, body])

def copies (part : Nat → Assembler Nat) : Nat → Nat → Assembler Nat
  | 0, next => pure next
  | n + 1, next => do part (← copies part n next)

/-- Up to `n` copies of a part, each of which may be left out together with those after it. -/
def optionals (part : Nat → Assembler Nat) (greedy : Bool) (exit : Nat) : Nat → Assembler Nat
  | 0 => pure exit
  | n + 1 => do
    let rest ← optionals part greedy exit n
    emit (choice greedy (← part rest) exit)

def oneOrMore (part : Nat → Assembler Nat) (greedy : Bool) (exit : Nat) : Assembler Nat := do
  let again ← emit .accept
  let body ← part again
  place again (choice greedy body exit)
  return body

/-- Any number of copies of a part. A part that can match the empty text is entered once at the
least before it can be left, unless it is passed over as a whole. -/
def anyNumber (part : Nat → Assembler Nat) (nullable greedy : Bool) (exit : Nat) : Assembler Nat := do
  if nullable then
    let body ← oneOrMore part greedy exit
    emit (choice greedy body exit)
  else
    let again ← emit .accept
    let body ← part again
    place again (choice greedy body exit)
    return again

end Assembler

open Assembler

mutual

/-- Instructions for a part that go on at `next`; gives the first of them. -/
def Expr.assemble : Expr → Nat → Assembler Nat
  | .empty, next => pure next
  | .char set, next => emit (.char set next)
  | .look l, next => emit (.look l next)
  | .capture body, next => body.assemble next
  | .repeated least most greedy body, next =>
    match most with
    | some most => do
      let rest ← optionals body.assemble greedy next (most - least)
      copies body.assemble least rest
    | none =>
      if least = 0 then anyNumber body.assemble body.nullable greedy next
      else do
        let last ← oneOrMore body.assemble greedy next
        copies body.assemble (least - 1) last
  | .concat parts, next => assembleParts parts next
  | .alternatives branches, next => do emit (.choose (← assembleBranches branches next))

def assembleParts : List Expr → Nat → Assembler Nat
  | [], next => pure next
  | e :: r, next => do e.assemble (← assembleParts r next)

def assembleBranches : List Expr → Nat → Assembler (List Nat)
  | [], _ => pure []
  | e :: r, next => do
    let first ← e.assemble next
    return first :: (← assembleBranches r next)

end

def Expr.program (e : Expr) : Program :=
  let (start, instrs) := (do e.assemble (← emit .accept) : Assembler Nat).run #[]
  ⟨instrs, start⟩

end RuleLint.Regex
