import CrdBindings.Invocation
import CrdBindings.Keyed

/-!
Reading arguments: a command, its operands, flags, and options with a value. A value stands behind
its option, with or without an equals sign for the long form, or right behind the letter of the short
one. Nothing may be given twice, and behind `--` everything is an operand.
-/

namespace CrdBindings
set_option autoImplicit false

namespace Arguments

inductive Action where
  | resolve
  | inspect
  | generate
deriving DecidableEq

/-- A sign that stands alone. -/
inductive Flag where
  | verbose
  | noCache
  | help
  | version
deriving DecidableEq

/-- A sign that takes a value. -/
inductive Setting where
  | releases
  | output
  | timeout
deriving DecidableEq

inductive Sign where
  | flag (f : Flag)
  | setting (s : Setting)

/-- The signs that a command knows; without a command there are few. -/
def knows : Option Action → Sign → Bool
  | _, .flag .verbose | _, .flag .help => true
  | none, .flag .version => true
  | some _, .setting .releases => true
  | some .inspect, .flag .noCache | some .inspect, .setting .timeout => true
  | some .generate, .flag .noCache | some .generate, .setting _ => true
  | _, _ => false

def longSign? : String → Option Sign
  | "verbose" => some (.flag .verbose)
  | "no-cache" => some (.flag .noCache)
  | "help" => some (.flag .help)
  | "version" => some (.flag .version)
  | "releases" => some (.setting .releases)
  | "output" => some (.setting .output)
  | "timeout" => some (.setting .timeout)
  | _ => none

def shortSign? : Char → Option Sign
  | 'v' => some (.flag .verbose)
  | 'h' => some (.flag .help)
  | 'V' => some (.flag .version)
  | 'o' => some (.setting .output)
  | _ => none

/-- What has been given so far; the operands are in reverse. -/
structure Given where
  flags : List Flag
  settings : List (Setting × String)
  operands : List String

def Given.nothing : Given := ⟨[], [], []⟩

inductive Stop where
  | help
  | version
  | wrong

/-- Adds a flag, which may be given once. Asking for help or the version ends the reading. -/
def addFlag (g : Given) (f : Flag) : Except Stop Given :=
  match f with
  | .help => .error .help
  | .version => .error .version
  | f => if g.flags.contains f then .error .wrong else .ok { g with flags := f :: g.flags }

/-- The seconds that a text gives: a positive number of 64 bits. -/
def seconds? (text : String) : Option Nat :=
  let digits :=
    match text.toList with
    | '+' :: cs => cs
    | cs => cs
  (Text.word? digits).filter (0 < ·)

/-- Whether a text can be the value of a setting: a timeout is a number of seconds, and a path is not
empty. -/
def accepts (s : Setting) (value : String) : Bool :=
  match s with
  | .timeout => (seconds? value).isSome
  | .releases | .output => !value.isEmpty

/-- Adds a value, which may be given once. -/
def addSetting (g : Given) (s : Setting) (value : String) : Except Stop Given :=
  if (Keyed.find? s g.settings).isSome || !accepts s value then .error .wrong
  else .ok { g with settings := (s, value) :: g.settings }

/-- Adds an operand; only the command `import` takes more than one. -/
def addOperand (a : Action) (g : Given) (word : String) : Except Stop Given :=
  if a ≠ .generate ∧ g.operands ≠ [] then .error .wrong
  else .ok { g with operands := word :: g.operands }

/-- What a word of signs leads to: a setting at its end may wait for its value. -/
structure Step where
  given : Given
  awaiting : Option Setting

def readLong (a : Option Action) (g : Given) (cs : List Char) : Except Stop Step :=
  let name := String.ofList (cs.takeWhile (· != '='))
  let value :=
    match cs.dropWhile (· != '=') with
    | _ :: value => some (String.ofList value)
    | [] => none
  match (longSign? name).filter (knows a), value with
  | some (.flag f), none => (addFlag g f).map (⟨·, none⟩)
  | some (.setting s), some value => (addSetting g s value).map (⟨·, none⟩)
  | some (.setting s), none => .ok ⟨g, some s⟩
  | _, _ => .error .wrong

/-- Short signs in a row; what follows a setting is its value. -/
def readShort (a : Option Action) (g : Given) : List Char → Except Stop Step
  | [] => .ok ⟨g, none⟩
  | c :: cs =>
    match (shortSign? c).filter (knows a) with
    | some (.flag f) =>
      match addFlag g f with
      | .ok g => readShort a g cs
      | .error stop => .error stop
    | some (.setting s) =>
      match cs with
      | [] => .ok ⟨g, some s⟩
      | '=' :: value => (addSetting g s (String.ofList value)).map (⟨·, none⟩)
      | value => (addSetting g s (String.ofList value)).map (⟨·, none⟩)
    | none => .error .wrong

/-- Whether a word is meant as signs: it starts with a hyphen and has more than that. -/
def isSigns (word : String) : Bool := word.toList.head? == some '-' && word != "-"

def readSigns (a : Option Action) (g : Given) (word : String) : Except Stop Step :=
  match word.toList with
  | '-' :: '-' :: cs => readLong a g cs
  | _ :: cs => readShort a g cs
  | [] => .error .wrong

def readWords (a : Action) (g : Given) : List String → Except Stop Given
  | [] => .ok g
  | word :: words =>
    if word = "--" then words.foldlM (addOperand a) g
    else if isSigns word then
      match readSigns (some a) g word, words with
      | .error stop, _ => .error stop
      | .ok ⟨g, none⟩, words => readWords a g words
      | .ok ⟨_, some _⟩, [] => .error .wrong
      | .ok ⟨g, some s⟩, value :: words =>
        if isSigns value then .error .wrong
        else
          match addSetting g s value with
          | .ok g => readWords a g words
          | .error stop => .error stop
    else
      match addOperand a g word with
      | .ok g => readWords a g words
      | .error stop => .error stop

namespace Given

def setting? (g : Given) (s : Setting) : Option String := Keyed.find? s g.settings

/-- How documents are to be fetched: within a minute if no timeout is given. -/
def fetching (g : Given) : Fetching :=
  ⟨((g.setting? .timeout).bind seconds?).getD 60, !g.flags.contains .noCache⟩

/-- The task of a command, unless it lacks its operand. -/
def task? (a : Action) (g : Given) : Option Task :=
  match a, g.operands.reverse with
  | _, [] => none
  | .resolve, reference :: _ => some (.resolve reference)
  | .inspect, source :: _ => some (.inspect source g.fetching)
  | .generate, sources => some (.generate sources ((g.setting? .output).getD "./crds") g.fetching)

end Given

def readCommand (verbose : Bool) (a : Action) (words : List String) : Except Stop Invocation :=
  match readWords a .nothing words with
  | .error stop => .error stop
  | .ok g =>
    match g.task? a with
    | some task => .ok ⟨verbose || g.flags.contains .verbose, g.setting? .releases, task⟩
    | none => .error .wrong

def action? : String → Option Action
  | "resolve" => some .resolve
  | "inspect" => some .inspect
  | "import" => some .generate
  | _ => none

/-- Whether help may be asked for with these words. -/
def isHelpTopic : List String → Bool
  | [] => true
  | [word] => (action? word).isSome || word == "help"
  | _ => false

/-- Reads arguments from the start, up to the name of a command. -/
def readAll (g : Given) : List String → Except Stop Invocation
  | [] => .error .wrong
  | word :: words =>
    if isSigns word then
      match readSigns none g word with
      | .ok ⟨g, none⟩ => readAll g words
      | .ok ⟨_, some _⟩ => .error .wrong
      | .error stop => .error stop
    else
      match action? word with
      | some a => readCommand (g.flags.contains .verbose) a words
      | none => .error (if word = "help" && isHelpTopic words then .help else .wrong)

end Arguments

def Usage.ofArguments (words : List String) : Usage :=
  match Arguments.readAll .nothing words with
  | .ok invocation => .run invocation
  | .error .help => .help
  | .error .version => .version
  | .error .wrong => .wrong

end CrdBindings
