/-
  ARGUMENTS: a command from the words of a command line.

  1. A `Shape` says which options, switches and words a command takes.  Words may stand between
     options; two dashes end the options; the last word of a shape may take all that follows.
  2. A value is looked at only when the next option, switch or word comes, or at the end
     (`Reading.settle`): so an unknown argument is found before a bad value in front of it.
  3. Only when all arguments are read is asked whether one is missing.
-/
import ExerciseGrading.CommandLine
import ExerciseGrading.Number.Numeral
import ExerciseGrading.Text.Search

namespace ExerciseGrading

/-! ## Shapes -/

/-- What a value has to be. -/
inductive ValueKind where
  /-- A text that is not empty. -/
  | path
  | text
  /-- A number of 32 bits. -/
  | count
deriving Repr, DecidableEq

/-- What a command takes. -/
structure Shape where
  /-- Options with a value. -/
  options : List (String × ValueKind)
  /-- Switches besides the one for help. -/
  switches : List String
  /-- The letters of switches. -/
  letters : List Char
  /-- The words, in order. -/
  words : List ValueKind
  /-- Whether the last word takes all arguments that follow it, and may begin with a dash. -/
  open_ : Bool
deriving Repr

/-! ## Single arguments -/

/-- How an argument looks. -/
inductive Argument where
  /-- Two dashes alone. -/
  | endOfOptions
  /-- Two dashes and a name, perhaps with a value behind an equals sign. -/
  | long (name : String) (value? : Option String)
  /-- A dash and letters. -/
  | short (letters : List Char)
  | word
deriving Repr, DecidableEq

namespace Argument

def ofText (s : String) : Argument :=
  match s.toList with
  | ['-', '-'] => .endOfOptions
  | '-' :: '-' :: name =>
    match Text.cut ['='] name with
    | some (name, value) => .long (String.ofList name) (some (String.ofList value))
    | none => .long (String.ofList name) none
  | '-' :: c :: letters => .short (c :: letters)
  | _ => .word

end Argument

/-- The number that a text of digits with an optional sign is, if it is in range. -/
def countOf? (s : String) : Option Nat :=
  let (minus, digits) := match s.toList with
    | '-' :: r => (true, r)
    | '+' :: r => (false, r)
    | r => (false, r)
  if digits = [] ∨ !digits.all Char.isDigit then none
  else
    let n := Nat.ofDigitChars 10 digits 0
    if minus then if n = 0 then some 0 else none
    else if n ≤ Number.maxUInt32 then some n else none

/-- What is wrong with a value. -/
def ValueKind.fault? (k : ValueKind) (value : String) : Option Usage :=
  match k with
  | .path => if value = "" then some .missingValue else none
  | .text => none
  | .count => if (countOf? value).isNone then some .badCount else none

/-! ## Readings -/

/-- What was read last, and is not yet looked at. -/
inductive Pending where
  | nothing
  /-- An option that waits for its value. -/
  | waiting (option : String)
  | option (option value : String)
  | word (kind : ValueKind) (value : String)
deriving Repr, DecidableEq

/-- What was read so far. -/
structure Reading where
  options : List (String × String)
  switches : List String
  /-- The words, also one that is not yet looked at. -/
  words : List String
  pending : Pending
deriving Repr, DecidableEq

namespace Reading

def start : Reading := ⟨[], [], [], .nothing⟩

/-- The value of an option. -/
def option? (r : Reading) (name : String) : Option String := r.options.lookup name

/-- Takes the value of an option. -/
def withOption (s : Shape) (r : Reading) (name value : String) : Except Usage Reading :=
  if (r.option? name).isSome then .error .repeated
  else
    match (s.options.lookup name).bind fun kind => kind.fault? value with
    | some fault => .error fault
    | none => .ok { r with options := (name, value) :: r.options }

/-- Takes a switch. -/
def withSwitch (r : Reading) (name : String) : Except Usage Reading :=
  if name = "help" then .error .help
  else if name = "version" then .error .version
  else if name ∈ r.switches then .error .repeated
  else .ok { r with switches := name :: r.switches }

/-- Looks at what was read last. -/
def settle (s : Shape) (r : Reading) : Except Usage Reading :=
  let settled := { r with pending := .nothing }
  match r.pending with
  | .nothing => .ok settled
  | .waiting _ => .error .missingValue
  | .option name value => settled.withOption s name value
  | .word kind value =>
    match kind.fault? value with
    | some fault => .error fault
    | none => .ok settled

/-- Takes an argument for the value of the option that waits for one; none if there is no such
    option. -/
def withValue? (r : Reading) (value : String) : Option Reading :=
  match r.pending with
  | .waiting name => some { r with pending := .option name value }
  | _ => none

/-- Takes an argument for the next word; none if there is no place for it. -/
def withWord (s : Shape) (r : Reading) (value : String) : Except Usage Reading :=
  match s.words[r.words.length]?, s.open_, s.words.getLast? with
  | some kind, _, _ | none, true, some kind => do
    let r ← r.settle s
    return { r with words := r.words ++ [value], pending := .word kind value }
  | _, _, _ => .error .unknownArgument

/-- Takes arguments behind the end of the options. -/
def withWords (s : Shape) (r : Reading) (values : List String) : Except Usage Reading :=
  values.foldlM (withWord s) r

end Reading

namespace Shape

/-- Whether the next word is one that may begin with a dash. -/
def takesDashes (s : Shape) (r : Reading) : Bool :=
  s.open_ && r.words.length + 1 == s.words.length

/-- Whether the last word has begun to take all that follows. -/
def takesAll (s : Shape) (r : Reading) : Bool :=
  s.open_ && s.words.length ≤ r.words.length

/-- Reads an argument as an option, a switch or a value of an option; none if it is a word. -/
def step? (s : Shape) (r : Reading) (arg : String) : Except Usage (Option Reading) :=
  match Argument.ofText arg with
  | .endOfOptions | .word => .ok (r.withValue? arg)
  | .long name value? =>
    if (s.options.lookup name).isSome then do
      let settled ← r.settle s
      match value? with
      | some value => return some (← settled.withOption s name value)
      | none => return some { settled with pending := .waiting name }
    else if name = "help" ∨ name ∈ s.switches then
      match value? with
      | some _ => .error .unexpectedValue
      | none => do return some (← (← r.settle s).withSwitch name)
    else if s.takesDashes r && name ≠ "" then .ok (r.withValue? arg)
    else .error .unknownArgument
  | .short letters =>
    if s.takesDashes r && letters.any (!s.letters.contains ·) then .ok (r.withValue? arg)
    else
      match letters.head? with
      | some 'h' => do (← r.settle s).withSwitch "help"
      | some 'V' =>
        if 'V' ∈ s.letters then do (← r.settle s).withSwitch "version"
        else .error .unknownArgument
      | _ => .error .unknownArgument

/-- Reads all arguments of a command. -/
def read (s : Shape) (r : Reading) : List String → Except Usage Reading
  | [] => r.settle s
  | arg :: rest => do
    if Argument.ofText arg = .endOfOptions then
      (← r.withWords s rest).settle s
    else
      match ← s.step? r arg with
      | some r => s.read r rest
      | none =>
        let r ← r.withWord s arg
        if s.takesAll r then (← r.withWords s rest).settle s else s.read r rest

end Shape

/-! ## Commands -/

/-- The option that every command takes. -/
def configOption : String × ValueKind := ("config", .path)

/-- What may stand in front of a command. -/
def frontShape : Shape := ⟨[configOption], ["version"], ['h', 'V'], [], false⟩

/-- The names of the commands, with what each takes. -/
def commandShapes : List (String × Shape) :=
  [("validate",
    ⟨[("code", .path), ("failures", .count), ("lang", .text), configOption], ["json"], ['h'],
      [.text], false⟩),
   ("exec",
    ⟨[("code", .path), ("lang", .text), configOption], ["json"], ['h'], [.text, .text], true⟩),
   ("check", ⟨[("code", .path), configOption], [], ['h'], [.path], false⟩),
   ("lint", ⟨[configOption], [], ['h'], [.path], false⟩)]

namespace Command

/-- The command of a name, from all its arguments. -/
def ofReading (name : String) (r : Reading) : Except Usage Command :=
  let json := "json" ∈ r.switches
  match name, r.words, r.option? "code" with
  | "validate", [exercise], some code =>
    .ok (.validate exercise code (((r.option? "failures").bind countOf?).getD 0)
      (r.option? "lang") json)
  | "exec", exercise :: word :: words, some code =>
    .ok (.exec exercise code (r.option? "lang") json (word :: words))
  | "check", [path], some code => .ok (.check path code)
  | "lint", [], _ => .ok (.lint ".")
  | "lint", [path], _ => .ok (.lint path)
  | _, _, _ => .error .missingArgument

end Command

namespace Invocation

/-- What a question for help about commands is answered with. -/
def helpOn (words : List String) : Usage :=
  match words with
  | [] => .help
  | [word] => if word = "help" ∨ (commandShapes.lookup word).isSome then .help else .unknownCommand
  | _ => .unknownCommand

/-- Whether a word names something that can be asked for. -/
def isCommandName (word : String) : Bool :=
  word = "help" || (commandShapes.lookup word).isSome

/-- The invocation when there are no arguments left and no command has come. -/
def withoutCommand (r : Reading) : Usage :=
  match r.settle frontShape with
  | .error usage => usage
  | .ok r => if r.options.isEmpty then .nothing else .noCommand

/-- The command of a name, from the arguments behind it. -/
def ofCommand (r : Reading) (name : String) (args : List String) : Except Usage Invocation :=
  match commandShapes.lookup name with
  | none => .error .unknownCommand
  | some shape => do
    let own ← shape.read .start args
    let command ← Command.ofReading name own
    let front ← r.settle frontShape
    return ⟨(own.option? "config").or (front.option? "config"), command⟩

/-- Reads arguments after what was read of them. -/
def ofArgumentsFrom (r : Reading) : List String → Except Usage Invocation
  | [] => .error (withoutCommand r)
  | arg :: rest => do
    if Argument.ofText arg = .endOfOptions then
      match rest with
      | [] => .error (withoutCommand r)
      | word :: _ => .error (if isCommandName word then .unknownArgument else .unknownCommand)
    else
      match ← frontShape.step? r arg with
      | some r => ofArgumentsFrom r rest
      | none => if arg = "help" then .error (helpOn rest) else ofCommand r arg rest

/-- The invocation that arguments ask for. -/
def ofArguments (args : List String) : Except Usage Invocation := ofArgumentsFrom .start args

end Invocation

end ExerciseGrading
