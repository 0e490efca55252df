/-
  File:      Portfolio/Program/Arguments.lean
  Subject:   Reading the words of a command line.

  * A long option may be shortened as long as it is the only one that it
    can mean. Its value follows after an equals sign or as the next word;
    two hyphens after an equals sign take back an earlier value.
  * After the word `--` no word is an option.
  * A word that starts with a hyphen and is no option is left over, unless
    it looks like a negative number or holds a space.
  * Words that are left over are reported last, so that any other mistake
    is reported first.
-/
import Portfolio.Program.Settings
import Portfolio.Program.Usage
import Portfolio.Text.Digit

namespace Portfolio.Program

/-! ## 1. Ending before the start -/

/-- An end of the program without any work done. -/
structure Ending where
  status : Nat
  stdout : String := ""
  stderr : String := ""
  deriving DecidableEq, Repr

/-- The end after the help has been shown. -/
def Grammar.helped (g : Grammar) : Ending :=
  { status := 0, stdout := g.help }

/-- The end after a mistake on the command line. -/
def Grammar.mistaken (g : Grammar) (message : String) : Ending :=
  { status := 2, stderr := g.usage ++ g.program ++ ": error: " ++ message ++ "\n" }

/-- A value stands after an equals sign where none may stand. -/
def Grammar.ignored (g : Grammar) (value : String) : Ending :=
  g.mistaken ("argument " ++ Flag.help.title ++ ": ignored explicit argument " ++
    Text.quoted value)

/-! ## 2. Kinds of words -/

/-- The kind of a word. -/
inductive Word where
  /-- No option. -/
  | plain
  /-- An option, with the value after an equals sign. -/
  | flag (f : Flag) (value : Option String)
  /-- The short option for help with more letters after it, or with letters
      after an equals sign. -/
  | letters (rest : List Char)
  /-- An option that the grammar does not have. -/
  | unknown
  /-- A shortened option that can mean any of these. -/
  | ambiguous (spellings : List String)
  deriving DecidableEq, Repr

/-- A word cut at its first equals sign. -/
def cutAtEquals (word : List Char) : List Char × Option String :=
  match word.dropWhile (· != '=') with
  | [] => (word, none)
  | _ :: value => (word.takeWhile (· != '='), some (String.ofList value))

/-- A hyphen, digits, and perhaps a point with digits after it. A newline
    may stand at the end. -/
def isNegativeNumber (word : List Char) : Bool :=
  match word with
  | '-' :: rest =>
    let rest := if rest.getLast? = some '\n' then rest.dropLast else rest
    let isDigit := fun c => (Text.digitValue? c).isSome
    match rest.dropWhile isDigit with
    | [] => !rest.isEmpty
    | c :: places => c == '.' && !places.isEmpty && places.all isDigit
  | _ => false

/-- The kind of a word that starts with a hyphen and is no option as it is
    spelled. -/
def otherWord (word : List Char) : Word :=
  if isNegativeNumber word || word.contains ' ' then .plain else .unknown

/-- The kind of a word with two hyphens that is not spelled out. -/
def Grammar.shortened (g : Grammar) (word start : List Char) (value : Option String) : Word :=
  match g.flags.filter fun f => start.isPrefixOf f.1.toList with
  | [] => otherWord word
  | [f] => .flag f.2 value
  | many => .ambiguous (many.map Prod.fst)

/-- The kind of a word. -/
def Grammar.wordOf (g : Grammar) (word : String) : Word :=
  match g.flags.lookup word with
  | some f => .flag f none
  | none =>
    match word.toList with
    | '-' :: 'h' :: '=' :: rest => .letters rest
    | '-' :: 'h' :: rest => .letters rest
    | '-' :: '-' :: rest =>
      let (start, value) := cutAtEquals ('-' :: '-' :: rest)
      match g.flags.lookup (String.ofList start) with
      | some f => .flag f value
      | none => g.shortened ('-' :: '-' :: rest) start value
    | '-' :: c :: rest => otherWord ('-' :: c :: rest)
    | _ => .plain

/-- The end that letters after the short option for help lead to. Each has
    to be an `h` again; what follows the last of these is a value, which the
    option does not take. -/
def Grammar.lettersEnding (g : Grammar) : List Char → Ending
  | ['h'] => g.helped
  | 'h' :: rest => g.lettersEnding rest
  | value => g.ignored (String.ofList value)

/-! ## 3. The words of a mode -/

/-- What the words of a mode say. -/
structure Parsed where
  operand : Option String := none
  overrides : Overrides := {}
  leftOver : List String := []
  deriving DecidableEq, Repr, Inhabited

/-- The value of an option. Two hyphens stand for none. -/
def valueOf? (word : String) : Option String :=
  if word = "--" then none else some word

/-- The value of an option is set; a later one replaces an earlier one, even
    if it is none. -/
def Parsed.set (p : Parsed) : Flag → String → Parsed
  | .help, _ => p
  | .data, word => { p with overrides := { p.overrides with data := valueOf? word } }
  | .cwd, word => { p with overrides := { p.overrides with startDirectory := valueOf? word } }
  | .logLevel, word => { p with overrides := { p.overrides with logLevel := valueOf? word } }

/-- Words that are left over are added. -/
def Parsed.leave (p : Parsed) (words : List String) : Parsed :=
  { p with leftOver := p.leftOver ++ words }

/-- A word is still awaited that is no option. -/
def Grammar.awaits (g : Grammar) (p : Parsed) : Bool :=
  g.operand.isSome && p.operand.isNone

/-- The words after `--`: the first one is the operand if one is awaited. -/
def Grammar.afterDashes (g : Grammar) (p : Parsed) (words : List String) : Parsed :=
  match g.awaits p, words with
  | true, word :: rest => { p with operand := some word }.leave rest
  | _, _ => p.leave ("--" :: words)

/-- The words of a mode, one after the other. -/
def Grammar.parseFrom (g : Grammar) : Parsed → List String → Except Ending Parsed
  | p, [] => .ok p
  | p, word :: rest =>
    if word = "--" then .ok (g.afterDashes p rest)
    else
      match g.wordOf word with
      | .plain =>
        if g.awaits p then
          match rest with
          | "--" :: more => .ok ({ p with operand := some word }.leave more)
          | _ => g.parseFrom { p with operand := some word } rest
        else g.parseFrom (p.leave [word]) rest
      | .flag .help none => .error g.helped
      | .flag .help (some value) => .error (g.ignored value)
      | .flag f (some value) => g.parseFrom (p.set f value) rest
      | .flag f none =>
        match rest with
        | value :: rest =>
          if value ≠ "--" ∧ g.wordOf value = .plain then g.parseFrom (p.set f value) rest
          else .error (g.mistaken ("argument " ++ f.title ++ ": expected one argument"))
        | [] => .error (g.mistaken ("argument " ++ f.title ++ ": expected one argument"))
      | .letters letters => .error (g.lettersEnding letters)
      | .unknown | .ambiguous _ => g.parseFrom (p.leave [word]) rest

/-- The mistake of the first word that can mean several options. -/
def Grammar.ambiguity? (g : Grammar) (words : List String) : Option Ending :=
  (words.takeWhile (· ≠ "--")).findSome? fun word =>
    match g.wordOf word with
    | .ambiguous spellings => some (g.mistaken
        ("ambiguous option: " ++ word ++ " could match " ++ ", ".intercalate spellings))
    | _ => none

/-- The operand is missing. -/
def Grammar.incomplete (g : Grammar) (name : String) : Ending :=
  g.mistaken ("the following arguments are required: " ++ name)

/-- The words of a mode. -/
def Grammar.parse (g : Grammar) (words : List String) : Except Ending Parsed := do
  if let some ending := g.ambiguity? words then throw ending
  let p ← g.parseFrom {} words
  match g.operand, p.operand with
  | some name, none => throw (g.incomplete name)
  | _, _ => return p

/-! ## 4. The whole command line -/

/-- What the program is asked to do. -/
inductive Request where
  | run (line : String)
  | converse
  deriving DecidableEq, Repr

/-- A command line that is understood. -/
structure Invocation where
  request : Request
  overrides : Overrides
  deriving DecidableEq, Repr

/-- What the words of a mode ask for. -/
def invocation (mode : String) (words : List String) : Except Ending (Invocation × List String) :=
  if mode = "exec" then do
    let p ← exec.parse words
    return (⟨.run (p.operand.getD ""), p.overrides⟩, p.leftOver)
  else if mode = "shell" then do
    let p ← shell.parse words
    return (⟨.converse, p.overrides⟩, p.leftOver)
  else
    .error (top.mistaken ("argument command_name: invalid choice: " ++ Text.quoted mode ++
      " (choose from 'exec', 'shell')"))

/-- The words up to the mode, given those left over so far. -/
def parseTop : List String → List String → Except Ending (Invocation × List String)
  | _, [] => .error (top.incomplete "command_name")
  | leftOver, word :: rest =>
    if word = "--" then
      if rest.isEmpty then .error (top.incomplete "command_name") else invocation word rest
    else
      match top.wordOf word with
      | .plain => do
        let (asked, more) ← invocation word rest
        return (asked, leftOver ++ more)
      | .flag _ none => .error top.helped
      | .flag _ (some value) => .error (top.ignored value)
      | .letters letters => .error (top.lettersEnding letters)
      | .unknown | .ambiguous _ => parseTop (leftOver ++ [word]) rest

/-- The words of a command line. -/
def parseArguments (words : List String) : Except Ending Invocation := do
  let (asked, leftOver) ← parseTop [] words
  if leftOver.isEmpty then return asked
  else throw (top.mistaken ("unrecognized arguments: " ++ " ".intercalate leftOver))

end Portfolio.Program
