import ModuleSystem.Text.Blank
import ModuleSystem.Text.Digit
import ModuleSystem.Text.Quoted

/-!
# Command line arguments

Arguments are first sorted into words and options, one by one, and then read in order. A long option
may be shortened as long as it stays the only one with that start, and short options may share one
argument. After the mark `--` everything is a word. The first word is the script; what is left over
is a mistake.
-/

namespace ModuleSystem.CommandLine

/-- The options of the program. -/
inductive Flag where
  | help
  | config
  | verbose
  deriving DecidableEq, Repr

/-- What the arguments ask for. -/
structure Arguments where
  script : Option String
  config : Option String
  verbose : Bool
  deriving DecidableEq, Repr

/-- Why arguments do not lead to a run of the program: they ask for help, or they are mistaken. -/
inductive Refusal where
  | help
  | mistake (message : String)
  deriving DecidableEq, Repr

/-- An argument. A long option has the value after its equals sign, if there is one; a short option
has the letters that follow it. -/
inductive Argument where
  | word (text : String)
  | mark
  | long (flag : Flag) (value : Option String)
  | short (flag : Flag) (letters : List Char)
  | unknown (text : String)
  deriving DecidableEq, Repr

namespace Flag

/-- The short option with a letter. -/
def ofLetter? : Char → Option Flag
  | 'h' => some .help
  | 'v' => some .verbose
  | _ => none

/-- The long options by their names, which stand after two dashes. -/
def longNames : List (List Char × Flag) :=
  [("help".toList, .help), ("config".toList, .config), ("verbose".toList, .verbose)]

/-- An option as a message names it. -/
def label : Flag → String
  | .help => "-h/--help"
  | .config => "--config"
  | .verbose => "-v/--verbose"

/-- The mistake of an option. -/
def mistake (flag : Flag) (message : String) : Refusal :=
  .mistake ("argument " ++ flag.label ++ ": " ++ message)

/-- The mistake of giving a value to an option that takes none. -/
def needsNoValue (flag : Flag) (value : String) : Refusal :=
  flag.mistake ("ignored explicit argument " ++ Text.quoted value)

end Flag

/-! ## Sorting -/

/-- Whether characters are digits, at least one, before an optional line end. -/
def areDigits (chars : List Char) : Bool :=
  let digits := chars.takeWhile fun c => (Text.digitValue? c).isSome
  let rest := chars.drop digits.length
  !digits.isEmpty && (rest = [] || rest = ['\n'])

/-- Whether the characters after a dash are a number: digits, or digits after a dot that may follow
other digits. -/
def isNumber (chars : List Char) : Bool :=
  areDigits chars ||
    match chars.dropWhile fun c => (Text.digitValue? c).isSome with
    | '.' :: fraction => areDigits fraction
    | _ => false

/-- An argument with a leading dash that is no known option: a negative number and a text with a space
are words. -/
def otherArgument (chars : List Char) : Argument :=
  let text := String.ofList ('-' :: chars)
  if isNumber chars || chars.contains ' ' then .word text else .unknown text

/-- The name of a long option, and its value after the first equals sign. -/
def splitValue (chars : List Char) : List Char × Option String :=
  let name := chars.takeWhile (· ≠ '=')
  match chars.drop name.length with
  | _ :: value => (name, some (String.ofList value))
  | [] => (name, none)

/-- The long options whose names have a start. -/
def longMatches (start : List Char) : List (List Char × Flag) :=
  Flag.longNames.filter fun entry => (Text.after? start entry.1).isSome

/-- The mistake of a start that fits several options. -/
def ambiguous (text : String) (options : List (List Char × Flag)) : Refusal :=
  .mistake ("ambiguous option: " ++ text ++ " could match " ++
    ", ".intercalate (options.map fun entry => "--" ++ String.ofList entry.1))

/-- Sorts what follows two dashes. -/
def sortLong (chars : List Char) : Except Refusal Argument :=
  let (name, value) := splitValue chars
  match longMatches name with
  | [] => .ok (otherArgument ('-' :: chars))
  | [entry] => .ok (.long entry.2 value)
  | several => .error (ambiguous ("--" ++ String.ofList chars) several)

/-- Sorts an argument. -/
def sortArgument (text : String) : Except Refusal Argument :=
  match text.toList with
  | ['-', '-'] => .ok .mark
  | '-' :: '-' :: chars => sortLong chars
  | '-' :: letter :: letters =>
    match Flag.ofLetter? letter with
    | some flag => .ok (.short flag letters)
    | none => .ok (otherArgument (letter :: letters))
  | _ => .ok (.word text)

/-- Sorts arguments. All that follow a mark are words. -/
def sortArguments : List String → Except Refusal (List Argument)
  | [] => .ok []
  | text :: rest => do
    let argument ← sortArgument text
    if argument = .mark then return argument :: rest.map .word
    else
      let others ← sortArguments rest
      return argument :: others

/-! ## Reading -/

/-- What has been read so far: the script, whether a word still can become it, and what is left
over, the latest first. -/
structure Progress where
  arguments : Arguments
  isOpen : Bool
  extras : List String

/-- Nothing read yet. -/
def Progress.start : Progress := ⟨⟨none, none, false⟩, true, []⟩

/-- Applies an option without a value. -/
def Progress.apply (progress : Progress) (flag : Flag) : Except Refusal Progress :=
  match flag with
  | .help => .error .help
  | .verbose => .ok { progress with arguments := { progress.arguments with verbose := true } }
  | .config => .error (flag.mistake "expected one argument")

/-- Sets the file of settings. -/
def Progress.configure (progress : Progress) (path : String) : Progress :=
  { progress with arguments := { progress.arguments with config := some path } }

/-- Leaves a text over. -/
def Progress.leave (progress : Progress) (text : String) : Progress :=
  { progress with extras := text :: progress.extras }

/-- The options of an argument of letters, and the part of it that is left over. Letters that follow
an unknown one are left over with it. -/
def readLetters (flag : Flag) : List Char → Except Refusal (List Flag × Option String)
  | [] => .ok ([flag], none)
  | '=' :: value => .error (flag.needsNoValue (String.ofList value))
  | '-' :: rest => .error (flag.needsNoValue (String.ofList ('-' :: rest)))
  | letter :: letters =>
    match Flag.ofLetter? letter with
    | some next => do
      let (flags, extra) ← readLetters next letters
      return (flag :: flags, extra)
    | none => .ok ([flag], some (String.ofList ('-' :: letter :: letters)))

/-- Reads sorted arguments. -/
def readArguments (progress : Progress) : List Argument → Except Refusal Progress
  | [] => .ok progress
  | .word text :: .mark :: rest =>
    if progress.isOpen then
      let arguments := { progress.arguments with script := some text }
      readArguments { progress with arguments, isOpen := false } rest
    else readArguments ((progress.leave text).leave "--") rest
  | .word text :: rest =>
    if progress.isOpen then
      let arguments := { progress.arguments with script := some text }
      readArguments { progress with arguments, isOpen := false } rest
    else readArguments (progress.leave text) rest
  | .mark :: rest => readArguments (if progress.isOpen then progress else progress.leave "--") rest
  | .unknown text :: rest => readArguments (progress.leave text) rest
  | .short flag letters :: rest => do
    let (flags, extra) ← readLetters flag letters
    let progress := extra.elim progress progress.leave
    let progress ← flags.foldlM Progress.apply progress
    readArguments progress rest
  | .long .config (some value) :: rest => readArguments (progress.configure value) rest
  | .long .config none :: .word value :: rest => readArguments (progress.configure value) rest
  | .long flag none :: rest => do
    let progress ← progress.apply flag
    readArguments progress rest
  | .long flag (some value) :: _ => .error (flag.needsNoValue value)

/-- Reads the arguments of the program. -/
def Arguments.read (texts : List String) : Except Refusal Arguments := do
  let arguments ← sortArguments texts
  let progress ← readArguments .start arguments
  if progress.extras.isEmpty then return progress.arguments
  else throw (.mistake ("unrecognized arguments: " ++ " ".intercalate progress.extras.reverse))

end ModuleSystem.CommandLine
