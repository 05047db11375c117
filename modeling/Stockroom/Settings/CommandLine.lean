import Stockroom.Settings

/-!
# The command line

Settings come from the command line, else from the environment, else they have
their defaults.  An option takes its value after an equals sign or as the next
word; such a word is looked at when the next option comes or the line ends.
-/

namespace Stockroom.CommandLine

/-- Why a command line is refused. -/
inductive Refusal where
  | help
  | unknownWord (word : String)
  | missingValue (setting : Setting)
  | unneededValue (usage : String)
  | repeated (setting : Setting)
  | invalidNumber (setting : Setting)
  | invalidFlag (setting : Setting)
deriving DecidableEq, Repr

namespace Refusal

/-- The word for the kind of a refusal. -/
def kind : Refusal → String
  | help => "DisplayHelp"
  | unknownWord _ => "UnknownArgument"
  | missingValue _ | invalidFlag _ => "InvalidValue"
  | unneededValue _ => "TooManyValues"
  | repeated _ => "ArgumentConflict"
  | invalidNumber _ => "ValueValidation"

/-- The argument that a refusal is about. -/
def argument : Refusal → String
  | help => ""
  | unknownWord word => word
  | unneededValue usage => usage
  | missingValue setting | repeated setting | invalidNumber setting | invalidFlag setting =>
    setting.usage

end Refusal

/-- The settings given so far, and an option that still waits for its value to be looked at. -/
structure Progress where
  given : List (Setting × String)
  pending : Option (Setting × Option String)

namespace Progress

def start : Progress := ⟨[], none⟩

def check (setting : Setting) (text : String) : Except Refusal Unit :=
  if setting.kind.accepts text then .ok ()
  else if setting.kind = .flag then .error (.invalidFlag setting)
  else .error (.invalidNumber setting)

/-- Takes the value of a setting, which may be given once. -/
def assign (progress : Progress) (setting : Setting) (text : String) :
    Except Refusal Progress := do
  if (progress.given.lookup setting).isSome then throw (.repeated setting)
  check setting text
  return { progress with given := (setting, text) :: progress.given }

/-- Looks at the value of the option that waits. -/
def settle (progress : Progress) : Except Refusal Progress :=
  match progress.pending with
  | none => .ok progress
  | some (setting, none) => .error (.missingValue setting)
  | some (setting, some text) => { progress with pending := none }.assign setting text

end Progress

/-- A word split at its first equals sign. -/
def splitValue : List Char → List Char × Option (List Char)
  | [] => ([], none)
  | '=' :: rest => ([], some rest)
  | character :: rest =>
    let (name, value) := splitValue rest
    (character :: name, value)

/-- A word after two hyphens. -/
def takeLong (progress : Progress) (word : List Char) : Except Refusal Progress := do
  let (characters, value) := splitValue word
  let name := String.ofList characters
  if name = "help" then
    if value.isSome then throw (.unneededValue "--help")
    let _ ← progress.settle
    throw .help
  match Setting.all.find? (fun setting => setting.name == name), value with
  | none, _ => throw (.unknownWord ("--" ++ name))
  | some setting, some text =>
    if setting.kind = .flag then throw (.unneededValue setting.usage)
    (← progress.settle).assign setting (String.ofList text)
  | some setting, none =>
    let settled ← progress.settle
    if setting.kind = .flag then settled.assign setting "true"
    else return { settled with pending := some (setting, none) }

/-- The letters after a single hyphen; only `h` is one that is known. -/
def takeShort (progress : Progress) (letter : Char) : Except Refusal Progress := do
  if letter = 'h' then
    let _ ← progress.settle
    throw .help
  throw (.unknownWord (String.ofList ['-', letter]))

/-- A word that is no option is the value of the option before it. -/
def takeValue (progress : Progress) (word : String) : Except Refusal Progress :=
  match progress.pending with
  | some (setting, none) => .ok { progress with pending := some (setting, some word) }
  | _ => .error (.unknownWord word)

/-- Goes through the words.  After two hyphens alone no word is an option or a value. -/
def takeWords (progress : Progress) : List String → Except Refusal Progress
  | [] => .ok progress
  | word :: rest =>
    match word.toList with
    | ['-', '-'] => match rest with
      | [] => .ok progress
      | next :: _ => .error (.unknownWord next)
    | '-' :: '-' :: long => do takeWords (← takeLong progress long) rest
    | '-' :: letter :: _ => do takeWords (← takeShort progress letter) rest
    | _ => do takeWords (← takeValue progress word) rest

/-- Fills in what the environment says about the settings that were not given. -/
def takeVariables (environment : String → Option String) (progress : Progress) :
    List Setting → Except Refusal Progress
  | [] => .ok progress
  | setting :: rest => do
    if (progress.given.lookup setting).isSome then takeVariables environment progress rest
    else match setting.environmentName? >>= environment with
      | none => takeVariables environment progress rest
      | some text => takeVariables environment (← progress.assign setting text) rest

/-- The settings that the words of a command line and an environment make. -/
def read (words : List String) (environment : String → Option String) :
    Except Refusal Settings := do
  let given ← (← takeWords .start words).settle
  let progress ← takeVariables environment given Setting.all
  return Settings.ofTexts (fun setting =>
    (progress.given.lookup setting).getD setting.defaultText)

end Stockroom.CommandLine
