import BorrowChecker.Analysis.Report
import BorrowChecker.Log
import BorrowChecker.Text.Quoted
import BorrowChecker.Yaml.Decoding

namespace BorrowChecker

/-!
Settings of the checker, and how they are read from a YAML text.

A text sets what differs from the defaults.  Fields it does not know are ignored,
and a field that is null keeps its default.  What a text asks for is a draft, which
is checked after it has been read.  A text that cannot be read is therefore
reported as such even if it also asks for something that is not allowed.
-/

/-- What a user can choose. -/
structure Settings where
  logLevel : Int := Severity.info.level
  color : Bool := false
  disabled : List Family := []
  deriving DecidableEq, Repr, Inhabited

/-- Why there are no settings. -/
inductive SettingsError where
  | unreadable
  | incomparableKey
  | levelOutOfRange (level : Int)
  | unknownCheck (name : List Text.Symbol)
  | missingFile (file : String)
  | inFile (file : String) (cause : SettingsError)
  deriving DecidableEq, Repr

namespace SettingsError

/-- The message that explains an error.  Keys that cannot be compared have no
wording of their own. -/
def message : SettingsError → String
  | unreadable => "could not unmarshal config"
  | incomparableKey => ""
  | levelOutOfRange level =>
      "log-level " ++ toString level ++ " out of range [" ++
        toString Severity.error.level ++ ", " ++ toString Severity.trace.level ++ "]"
  | unknownCheck name =>
      "unknown check " ++ Text.quoted name ++ " (known checks: [" ++
        " ".intercalate (Family.all.map Family.name) ++ "])"
  | missingFile file => "could not read config file: open " ++ file ++ ": no such file or directory"
  | inFile file cause => file ++ ": " ++ cause.message

/-- The error itself, if it was found in a file. -/
def cause : SettingsError → SettingsError
  | inFile _ inner => inner.cause
  | error => error

end SettingsError

namespace Settings

open Yaml

/-- What a text asks for. -/
structure Draft where
  logLevel : Int := Severity.info.level
  color : Bool := false
  disabled : List (List Text.Symbol) := []

namespace Draft

/-- The words for truth values that only count where a truth value is asked
for. -/
def switches : List (String × Bool) :=
  [("y", true), ("Y", true), ("yes", true), ("Yes", true), ("YES", true),
    ("on", true), ("On", true), ("ON", true),
    ("n", false), ("N", false), ("no", false), ("No", false), ("NO", false),
    ("off", false), ("Off", false), ("OFF", false)]

def switch? (word : List Text.Symbol) : Option Bool :=
  (switches.find? fun entry => Text.symbols entry.1 = word).map Prod.snd

/-- Change a draft, if there is something to change it to.  Otherwise the value
has the wrong kind. -/
def change {α : Type} (set : Draft → α → Draft) : Option α → Decoding Draft Unit
  | some value => modify fun progress => { progress with record := set progress.record value }
  | none => Decoding.wrongKind

def level? : Value → Option Int
  | .int level => if fitsSigned level then some level else none
  | .float level => level.word?
  | _ => none

def truth? : Value → Option Bool
  | .bool value => some value
  | .text word => switch? word
  | _ => none

def setLogLevel (document : Document) (node : Node) : Decoding Draft Unit := do
  match ← Decoding.scalarAt document node with
  | none | some .null => return ()
  | some value => change (fun draft logLevel => { draft with logLevel }) (level? value)

def setColor (document : Document) (node : Node) : Decoding Draft Unit := do
  match ← Decoding.scalarAt document node with
  | none | some .null => return ()
  | some value => change (fun draft color => { draft with color }) (truth? value)

/-- Set the disabled checks.  A null disables none, and a null in a list counts
for nothing. -/
def setDisabled (document : Document) (node : Node) : Decoding Draft Unit :=
  Decoding.enter document node fun
    | .sequence _ items => do
        let names ← items.mapM (Decoding.nameAt document)
        change (fun draft disabled => { draft with disabled }) (some (names.filterMap id))
    | .scalar tag isPlain text => do
        let value ← Decoding.scalar tag isPlain text
        change (fun draft disabled => { draft with disabled })
          (if value = .null then some [] else none)
    | .mapping _ _ | .alias _ _ _ => Decoding.wrongKind

/-- The fields that have a meaning. -/
def fields : List (RecordField Draft) :=
  [{ name := "log-level", set := setLogLevel },
    { name := "color", set := setColor },
    { name := "disabled-checks", set := setDisabled }]

/-- What a text asks for.  A text without a document asks for nothing. -/
def ofText (text : String) : Except SettingsError Draft :=
  match Yaml.parse text with
  | none => .error .unreadable
  | some none => .ok {}
  | some (some document) =>
      match document.decode fields {} with
      | .ok draft => .ok draft
      | .error .unreadable => .error .unreadable
      | .error .incomparableKey => .error .incomparableKey

/-- The level that is asked for.  Zero stands for the default. -/
def level (draft : Draft) : Int :=
  if draft.logLevel = 0 then Severity.info.level else draft.logLevel

def check (name : List Text.Symbol) : Except SettingsError Family :=
  match Family.all.find? fun family => Text.symbols family.name = name with
  | some family => .ok family
  | none => .error (.unknownCheck name)

/-- The settings that are asked for, if the level is one and all disabled checks
exist. -/
def validate (draft : Draft) : Except SettingsError Settings :=
  if draft.level < Severity.error.level || Severity.trace.level < draft.level then
    .error (.levelOutOfRange draft.level)
  else do
    let disabled ← draft.disabled.mapM check
    return { logLevel := draft.level, color := draft.color, disabled }

end Draft

def parse (text : String) : Except SettingsError Settings := do
  (← Draft.ofText text).validate

/-- The settings in a file, given its content if there is one. -/
def load (file : String) (content : Option String) : Except SettingsError Settings :=
  match content with
  | none => .error (.missingFile file)
  | some text => (parse text).mapError (.inFile file)

def isEnabled (settings : Settings) (check : String) : Bool :=
  !settings.disabled.any fun family => family.name == check

end Settings
end BorrowChecker
