import TableTalk.Seed
import TableTalk.Text.Integer
import TableTalk.Value.Display

/-!
# TableTalk.Settings

The settings, as an environment of named texts gives them. A setting is named in any case; the last
text under a name counts. Numbers that are written wrongly are all reported.
-/

namespace TableTalk

abbrev Environment : Type := List (String × String)

structure Settings where
  apiKey : String := "123"
  datasetSize : Int := Seed.defaultCount
  datasetSeed : Int := Seed.defaultSeed
  apiPort : Int := 3000
  logLevel : String := "INFO"

namespace Settings

def text? (name : String) (env : Environment) : Option String :=
  (env.reverse.find? fun (n, _) => n.lowered = name).map (·.2)

def fault (kind : FaultKind) (name text : String) : Fault :=
  { kind, place := [.key name], found := some (Value.text text).sample }

/-- Whether a text starts with more digits than an integer may have, zeros before them aside. -/
def isTooLong (s : List Char) : Bool :=
  let (_, r) := Text.splitSign (Text.trimBy Text.isPadding s)
  let run := (r.takeWhile fun c => c.isDigit || c = '_').filter (· ≠ '_')
  mostDigits < (run.dropWhile (· == '0')).length

/-- The integer of a setting, or a default. -/
def integer (name : String) (default : Int) (env : Environment) : Except Fault Int :=
  match text? name env with
  | none => .ok default
  | some s =>
    if isTooLong s.toList then .error (fault .integerTooLong name s)
    else
      match Text.plainInteger? s.toList with
      | some i => .ok i
      | none => .error (fault .integerExpected name s)

def faultOf : Except Fault Int → List Fault
  | .ok _ => []
  | .error fault => [fault]

def subject : String := "Settings"

/-- The settings that an environment gives. -/
def ofEnvironment (env : Environment) : Except Error Settings :=
  let base : Settings := {}
  let size := integer "dataset_size" base.datasetSize env
  let seed := integer "dataset_seed" base.datasetSeed env
  let listenAt := integer "api_port" base.apiPort env
  match size, seed, listenAt with
  | .ok datasetSize, .ok datasetSeed, .ok apiPort => .ok {
      apiKey := (text? "api_key" env).getD base.apiKey
      datasetSize
      datasetSeed
      apiPort
      logLevel := (text? "log_level" env).getD base.logLevel }
  | _, _, _ => .error (.invalid subject (faultOf size ++ faultOf seed ++ faultOf listenAt))

end Settings

end TableTalk
