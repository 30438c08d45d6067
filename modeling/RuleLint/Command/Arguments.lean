import RuleLint.Command.Misuse
import RuleLint.Text.Similarity

/-!
# Reading command lines

The words after the name of a command are options, values of options and operands; after `--` all are
operands. An option takes its value from the same word or the next. What an option has got is checked
when the next option or operand is read or the words end, so a word that is not known is reported
before it.
-/

namespace RuleLint.Command

inductive Request where
  | print (text : String)
  | refuse (text : String)
  /-- A command, with the values of its options by their names and its operands. -/
  | command (spec : CommandSpec) (options : List (String × String)) (operands : List String)
  deriving DecidableEq, Repr

structure Reading where
  options : List (OptionSpec × String)
  operands : List String
  /-- An option without a value yet, or one whose value has not been checked. -/
  pending : Option (OptionSpec × Option String)

namespace Reading

def start : Reading := ⟨[], [], none⟩

def has (r : Reading) (o : OptionSpec) : Bool := r.options.any fun p => p.1 = o

end Reading

def CommandSpec.usageWith (program : String) (c : CommandSpec) (used : List OptionSpec)
    (operands : List String) : String :=
  if used.isEmpty && operands.isEmpty then c.usage program
  else "Usage: " ++ program ++ " " ++ c.name ++ String.join (used.map fun o => " " ++ o.usage) ++
    (c.operands.map fun o => " " ++ o.usage).getD ""

inductive Stop where
  | help
  | misuse (m : Misuse) (usage : String)

section
variable (program : String) (c : CommandSpec)

/-- Gives an option a value; a flag gets an empty one. -/
def give (r : Reading) (o : OptionSpec) (value : String) : Except Stop Reading :=
  let usage := c.usage program
  if r.has o then .error (.misuse (.repeated o.usage) usage)
  else if o.value.any (·.isPath) && value = "" then .error (.misuse (.missingValue o.usage) usage)
  else .ok { r with options := r.options ++ [(o, value)], pending := none }

def settle (r : Reading) : Except Stop Reading :=
  match r.pending with
  | some (o, none) => .error (.misuse (.missingValue o.usage) (c.usage program))
  | some (o, some value) => give program c { r with pending := none } o value
  | none =>
    match c.operands with
    | some o =>
      if o.value.isPath && r.operands.any (· = "") then
        .error (.misuse (.missingValue o.usage) (c.usage program))
      else .ok r
    | none => .ok r

def settled (r : Reading) : Reading :=
  match settle program c r with
  | .ok r => r
  | .error _ => r

/-- An option that is not known: one that is like it may have been meant, or an operand. -/
def unknownLong (r : Reading) (name : String) : Stop :=
  let r := settled program c r
  let used := r.options.map (·.1)
  let known := c.options ++ [helpOption]
  let similar := (Text.similarTo name (known.map (·.long))).getLast?
  match similar.bind fun s => known.find? fun o => o.long = s with
  | some o =>
    .misuse (.unknownArgument ("--" ++ name) (some ("a similar argument exists: '--" ++ o.long ++ "'")))
      (c.usageWith program (if r.has o then used else used ++ [o]) r.operands)
  | none =>
    .misuse (.unknownArgument ("--" ++ name) (c.operands.map fun _ =>
        "to pass '--" ++ name ++ "' as a value, use '-- --" ++ name ++ "'"))
      (c.usageWith program used r.operands)

def unknownShort (name : Char) : Stop :=
  let word := "-" ++ String.singleton name
  .misuse (.unknownArgument word (c.operands.map fun _ =>
    "to pass '" ++ word ++ "' as a value, use '-- " ++ word ++ "'")) (c.usage program)

/-- A word in two hyphens: the name of an option and the value behind `=`, if any. -/
def readLong (r : Reading) (name : String) (value : Option String) : Except Stop Reading :=
  match (c.options ++ [helpOption]).find? fun o => o.long = name with
  | none => .error (unknownLong program c r name)
  | some o =>
    match o.value, value with
    | none, some v =>
      .error (.misuse (.unexpectedValue o.usage v)
        (c.usageWith program (r.options.map (·.1)) r.operands))
    | none, none => do
      let r ← settle program c r
      if o = helpOption then throw .help
      give program c r o ""
    | some _, some v => do give program c (← settle program c r) o v
    | some _, none => do
      let r ← settle program c r
      return { r with pending := some (o, none) }

/-- The characters after a hyphen: one option, and its value if it takes one. -/
def readShort (r : Reading) : List Char → Except Stop Reading
  | [] => .ok r
  | ch :: rest =>
    match (c.options ++ [helpOption]).find? fun o => o.short = some ch with
    | none => .error (unknownShort program c ch)
    | some o => do
      let r ← settle program c r
      if o = helpOption then throw .help
      match rest with
      | [] => return { r with pending := some (o, none) }
      | '=' :: v => give program c r o (String.ofList v)
      | v => give program c r o (String.ofList v)

/-- A word that is no option: the value of the option before it, or an operand. -/
def readPlain (r : Reading) (takesValue : Bool) (word : String) : Except Stop Reading :=
  match r.pending, takesValue with
  | some (o, none), true => .ok { r with pending := some (o, some word) }
  | pending, _ => do
    if c.operands.isNone then throw (.misuse (.unknownArgument word none) (c.usage program))
    let r ← if pending.isSome then settle program c r else pure r
    return { r with operands := r.operands ++ [word] }

/-- The words of a command; `free` tells that `--` has been read. -/
def readWords (r : Reading) (free : Bool) : List String → Except Stop Reading
  | [] => settle program c r
  | word :: rest => do
    match free, word.toList with
    | false, ['-', '-'] => readWords r true rest
    | false, '-' :: '-' :: l =>
      let value := (l.dropWhile (· ≠ '=')).tail?
      let r ← readLong program c r (String.ofList (l.takeWhile (· ≠ '='))) (value.map String.ofList)
      readWords r free rest
    | false, '-' :: ch :: l => readWords (← readShort program c r (ch :: l)) free rest
    | free, _ => readWords (← readPlain program c r (!free) word) free rest

end

/-! ## The program -/

namespace ProgramSpec

def command? (p : ProgramSpec) (name : String) : Option CommandSpec :=
  p.commands.find? fun c => c.name = name

def readCommand (p : ProgramSpec) (c : CommandSpec) (words : List String) : Request :=
  match readWords p.name c .start false words with
  | .ok r => .command c (r.options.map fun o => (o.1.long, o.2)) r.operands
  | .error .help => .print (c.help p.name)
  | .error (.misuse m usage) => .refuse (m.text usage)

def readHelp (p : ProgramSpec) : List String → Request
  | [] => .print p.help
  | name :: rest =>
    let known := match p.command? name with
      | some c => some (c.help p.name, c.usage p.name)
      | none => if name = helpCommand.1 then some (p.helpOnHelp, p.usage) else none
    match known, rest with
    | none, _ => .refuse ((Misuse.unknownCommand name []).text p.usage)
    | some (text, _), [] => .print text
    | some (_, usage), more :: _ => .refuse ((Misuse.unknownCommand more []).text usage)

def options : List OptionSpec := [helpOption, versionOption]

def printFor (p : ProgramSpec) (o : OptionSpec) : Request :=
  .print (if o = helpOption then p.help else p.versionText)

/-- An option that the program does not have: one that is like it may have been meant, or one of a
command that is named later. -/
def unknownOption (p : ProgramSpec) (name : String) (rest : List String) : Request :=
  match (Text.similarTo name (options.map (·.long))).getLast? with
  | some s =>
    .refuse ((Misuse.unknownArgument ("--" ++ name)
      (some ("a similar argument exists: '--" ++ s ++ "'"))).text
        ("Usage: " ++ p.name ++ " --" ++ s ++ " <COMMAND>"))
  | none =>
    let hint := rest.findSome? fun word => (p.command? word).bind fun c =>
      (Text.similarTo name ((c.options ++ [helpOption]).map (·.long))).getLast?.map fun s =>
        "'" ++ c.name ++ " --" ++ s ++ "' exists"
    .refuse ((Misuse.unknownArgument ("--" ++ name) hint).text p.usage)

def unknownWord (p : ProgramSpec) (free : Bool) (word : String) : Request :=
  let names := p.commands.map (·.name) ++ [helpCommand.1]
  if free && names.contains word then
    .refuse ((Misuse.unknownArgument word
      (some ("subcommand '" ++ word ++ "' exists; to use it, remove the '--' before it"))).text p.usage)
  else .refuse ((Misuse.unknownCommand word (Text.similarTo word names)).text p.usage)

def readLine (p : ProgramSpec) (free : Bool) : List String → Request
  | [] => .refuse p.help
  | word :: rest =>
    match free, word.toList with
    | false, ['-', '-'] => readLine p true rest
    | false, '-' :: '-' :: l =>
      let name := String.ofList (l.takeWhile (· ≠ '='))
      match options.find? (fun o => o.long = name), (l.dropWhile (· ≠ '=')).tail? with
      | some o, none => p.printFor o
      | some o, some v => .refuse ((Misuse.unexpectedValue o.usage (String.ofList v)).text p.usage)
      | none, _ => p.unknownOption name rest
    | false, '-' :: ch :: _ =>
      match options.find? fun o => o.short = some ch with
      | some o => p.printFor o
      | none =>
        .refuse ((Misuse.unknownArgument ("-" ++ String.singleton ch) none).text p.usage)
    | free, _ =>
      match free, p.command? word with
      | false, some c => p.readCommand c rest
      | false, none => if word = helpCommand.1 then p.readHelp rest else p.unknownWord free word
      | true, _ => p.unknownWord free word

def request (p : ProgramSpec) (words : List String) : Request := p.readLine false words

end ProgramSpec

end RuleLint.Command
